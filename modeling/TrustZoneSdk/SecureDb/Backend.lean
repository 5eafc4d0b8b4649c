import TrustZoneSdk.Foundation.Fallible
import TrustZoneSdk.Utee.Error

/-!
# Secure-storage backend

The private storage of a TA is one flat namespace of objects addressed by
byte-string identifiers.  `Tee` is that storage together with a schedule that
rules, call by call, whether the TEE serves the request, refuses it, or is
switched off before serving it.  A refused call leaves the storage as it was.
-/

namespace TrustZoneSdk.SecureDb

open TrustZoneSdk.Foundation
open TrustZoneSdk.Utee

abbrev Bytes := List UInt8

def asBytes (text : String) : Bytes := text.toUTF8.data.toList

theorem asBytes_injective : Function.Injective asBytes := by
  intro first second h
  have hdata : first.toUTF8.data = second.toUTF8.data := Array.toList_inj.mp h
  exact String.toByteArray_inj.mp (ByteArray.ext hdata)

@[simp] theorem asBytes_inj {first second : String} :
    asBytes first = asBytes second ↔ first = second :=
  asBytes_injective.eq_iff

abbrev Storage := Bytes → Option Bytes

def emptyStorage : Storage := fun _ => none

/--
A refusal of the TEE.  `TEE_ERROR_ITEM_NOT_FOUND` is not one: it is the answer
for an object that is not there, and the storage itself gives it.
-/
structure Fault where
  code : TeeResult
  ne_success : code ≠ teeSuccess
  ne_itemNotFound : code ≠ ErrorKind.itemNotFound.intoPrimitive

theorem Fault.kind_ne (fault : Fault) :
    (Error.fromRawError fault.code).kind ≠ .itemNotFound := by
  intro hkind
  apply fault.ne_itemNotFound
  rw [← hkind]
  exact (ErrorKind.intoPrimitive_fromPrimitive fault.code).symm

inductive Verdict where
  | proceed
  | refuse (fault : Fault)
  | powerOff

def Verdict.isProceed : Verdict → Bool
  | .proceed => true
  | _ => false

def served (calls : Nat) (schedule : List Verdict) : Bool :=
  (schedule.take calls).all Verdict.isProceed

@[simp] theorem served_nil (calls : Nat) : served calls [] = true := by
  simp [served]

theorem served_of_le {first second : Nat} (h : first ≤ second)
    {schedule : List Verdict} (hserved : served second schedule = true) :
    served first schedule = true := by
  simp only [served, List.all_eq_true] at hserved ⊢
  intro verdict hmem
  exact hserved verdict ((List.take_sublist_take_left h).subset hmem)

theorem served_add (first second : Nat) (schedule : List Verdict) :
    served (first + second) schedule =
      (served first schedule && served second (schedule.drop first)) := by
  simp [served, List.take_add]

structure Tee where
  storage : Storage
  schedule : List Verdict

abbrev TeeM (ε α : Type) := Fallible ε Tee α

/-! ## The raw storage interface -/

section Raw

variable {ε α : Type}

/-- The verdict on the next call.  An exhausted schedule lets calls through. -/
def nextVerdict : TeeM ε Verdict := do
  let tee ← get
  match tee.schedule with
  | [] => return .proceed
  | verdict :: schedule =>
      set { tee with schedule }
      return verdict

/--
One call of the TEE.  `serve` gives the result code, the values of the output
parameters and the new storage; a refused call leaves its outputs at `out`.
-/
def teeCall (out : α) (serve : Storage → TeeResult × α × Storage) :
    TeeM ε (TeeResult × α) := do
  match ← nextVerdict with
  | .proceed =>
      let tee ← get
      let (code, out, storage) := serve tee.storage
      set { tee with storage }
      return (code, out)
  | .refuse fault => return (fault.code, out)
  | .powerOff => Fallible.kill

/-- Creation with the overwrite flag: an object of that name is replaced. -/
def teeCreatePersistentObject (objectId initialData : Bytes) :
    TeeM ε (TeeResult × Unit) :=
  teeCall () fun storage =>
    (teeSuccess, (), Function.update storage objectId (some initialData))

def teeOpenPersistentObject (objectId : Bytes) : TeeM ε (TeeResult × Unit) :=
  teeCall () fun storage =>
    match storage objectId with
    | some _ => (teeSuccess, (), storage)
    | none => (ErrorKind.itemNotFound.intoPrimitive, (), storage)

def teeCloseAndDeletePersistentObject1 (objectId : Bytes) :
    TeeM ε (TeeResult × Unit) :=
  teeCall () fun storage =>
    (teeSuccess, (), Function.update storage objectId none)

def teeGetObjectInfo1 (objectId : Bytes) : TeeM ε (TeeResult × Nat) :=
  teeCall 0 fun storage =>
    match storage objectId with
    | some data => (teeSuccess, data.length, storage)
    | none => (ErrorKind.corruptObject.intoPrimitive, 0, storage)

def teeReadObjectData (objectId : Bytes) (position : Nat) (buffer : Bytes) :
    TeeM ε (TeeResult × Bytes × Nat) :=
  teeCall (buffer, 0) fun storage =>
    match storage objectId with
    | some data =>
        let chunk := (data.drop position).take buffer.length
        (teeSuccess, (chunk ++ buffer.drop chunk.length, chunk.length), storage)
    | none => (ErrorKind.corruptObject.intoPrimitive, (buffer, 0), storage)

end Raw

section RawRuns

variable {ε α : Type} {schedule : List Verdict}

theorem teeCall_served (out : α) (serve : Storage → TeeResult × α × Storage)
    (storage : Storage) (h : served 1 schedule = true) :
    (teeCall out serve : TeeM ε _).run ⟨storage, schedule⟩ =
      .ok ((serve storage).1, (serve storage).2.1)
        ⟨(serve storage).2.2, schedule.drop 1⟩ := by
  cases schedule with
  | nil => rfl
  | cons verdict rest =>
      cases verdict with
      | proceed => rfl
      | refuse fault => simp [served, Verdict.isProceed] at h
      | powerOff => simp [served, Verdict.isProceed] at h

theorem teeCall_unserved (out : α) (serve : Storage → TeeResult × α × Storage)
    (storage : Storage) (h : served 1 schedule = false) :
    (∃ fault : Fault,
      (teeCall out serve : TeeM ε _).run ⟨storage, schedule⟩ =
        .ok (fault.code, out) ⟨storage, schedule.drop 1⟩) ∨
    (teeCall out serve : TeeM ε _).run ⟨storage, schedule⟩ =
      .error .killed ⟨storage, schedule.drop 1⟩ := by
  cases schedule with
  | nil => simp at h
  | cons verdict rest =>
      cases verdict with
      | proceed => simp [served, Verdict.isProceed] at h
      | refuse fault => exact .inl ⟨fault, rfl⟩
      | powerOff => exact .inr rfl

end RawRuns

/-! ## Persistent objects -/

def checked (code : TeeResult) : TeeM Error Unit :=
  match teeCheck code with
  | .ok () => return ()
  | .error error => Fallible.fail error

structure PersistentObject where
  objectId : Bytes
  dataPosition : Nat
  deriving DecidableEq, Repr

namespace PersistentObject

def create (objectId initialData : Bytes) : TeeM Error PersistentObject := do
  let (code, _) ← teeCreatePersistentObject objectId initialData
  checked code
  return ⟨objectId, 0⟩

def «open» (objectId : Bytes) : TeeM Error PersistentObject := do
  let (code, _) ← teeOpenPersistentObject objectId
  checked code
  return ⟨objectId, 0⟩

def closeAndDelete (object : PersistentObject) : TeeM Error Unit := do
  let (code, _) ← teeCloseAndDeletePersistentObject1 object.objectId
  checked code

def dataSize (object : PersistentObject) : TeeM Error Nat := do
  let (code, size) ← teeGetObjectInfo1 object.objectId
  checked code
  return size

def read (object : PersistentObject) (buffer : Bytes) :
    TeeM Error (Bytes × UInt32) := do
  let (code, buffer, count) ←
    teeReadObjectData object.objectId object.dataPosition buffer
  checked code
  return (buffer, UInt32.ofNat count)

end PersistentObject

/-! ## The backend functions -/

inductive BackendError where
  | createFailed (objectId : Bytes) (cause : Error)
  | openFailed (objectId : Bytes) (cause : Error)
  | readFailed (objectId : Bytes)
  | tee (cause : Error)
  deriving DecidableEq, Repr

def debugBytes (bytes : Bytes) : String :=
  "[" ++ String.intercalate ", " (bytes.map fun byte => toString byte.toNat) ++
    "]"

def BackendError.display : BackendError → String
  | .createFailed objectId cause =>
      "[-] " ++ debugBytes objectId ++ ": failed to create object: " ++
        cause.debug
  | .openFailed objectId cause =>
      "[-] " ++ debugBytes objectId ++ ": failed to open object: " ++
        cause.debug
  | .readFailed objectId =>
      "[-] " ++ debugBytes objectId ++ ": failed to read data"
  | .tee cause => cause.debug

def saveInSecureStorage (objectId data : Bytes) : TeeM BackendError Unit := do
  let _ ← (PersistentObject.create objectId data).mapError
    (.createFailed objectId)

def loadFromSecureStorage (objectId : Bytes) :
    TeeM BackendError (Option Bytes) := do
  match ← (PersistentObject.open objectId).attempt with
  | .error error =>
      if error.kind = .itemNotFound then return none
      else Fallible.fail (.openFailed objectId error)
  | .ok object =>
      let size ← object.dataSize.mapError .tee
      let (buffer, readBytes) ←
        (object.read (List.replicate size 0)).mapError .tee
      if readBytes ≠ UInt32.ofNat size then
        Fallible.fail (.readFailed objectId)
      else return some buffer

def deleteFromSecureStorage (objectId : Bytes) : TeeM BackendError Unit := do
  match ← (PersistentObject.open objectId).attempt with
  | .error error => Fallible.fail (.openFailed objectId error)
  | .ok object => object.closeAndDelete.mapError .tee

/-! ## How the backend functions run under a schedule -/

section BackendRuns

variable {schedule : List Verdict} (storage : Storage) (objectId : Bytes)

@[simp] theorem checked_success (tee : Tee) :
    (checked teeSuccess).run tee = .ok () tee := rfl

theorem checked_failure {code : TeeResult} (h : code ≠ teeSuccess)
    (tee : Tee) :
    (checked code).run tee =
      .error (.failed (Error.fromRawError code)) tee := by
  simp [checked, teeCheck, h]

theorem open_served {data : Bytes} (h : served 1 schedule = true)
    (hobject : storage objectId = some data) :
    (PersistentObject.open objectId).run ⟨storage, schedule⟩ =
      .ok ⟨objectId, 0⟩ ⟨storage, schedule.drop 1⟩ := by
  simp [PersistentObject.open, teeOpenPersistentObject,
    teeCall_served _ _ _ h, hobject]

theorem open_missing (h : served 1 schedule = true)
    (hobject : storage objectId = none) :
    (PersistentObject.open objectId).run ⟨storage, schedule⟩ =
      .error (.failed (Error.new .itemNotFound))
        ⟨storage, schedule.drop 1⟩ := by
  have hcode : ErrorKind.itemNotFound.intoPrimitive ≠ teeSuccess := by decide
  have hkind : Error.fromRawError ErrorKind.itemNotFound.intoPrimitive =
      Error.new .itemNotFound := by decide
  simp [PersistentObject.open, teeOpenPersistentObject,
    teeCall_served _ _ _ h, hobject, checked_failure hcode, hkind]

theorem checkedCall_unserved {α β : Type} (out : α)
    (serve : Storage → TeeResult × α × Storage)
    (next : TeeResult × α → TeeM Error β) (h : served 1 schedule = false)
    (hnext : ∀ (code : TeeResult) (tee : Tee), code ≠ teeSuccess →
      ∃ halt, (next (code, out)).run tee = .error halt tee) :
    ∃ halt, (teeCall out serve >>= next).run ⟨storage, schedule⟩ =
      .error halt ⟨storage, schedule.drop 1⟩ := by
  rw [EStateM.run_bind]
  rcases teeCall_unserved out serve storage h with ⟨fault, hrun⟩ | hrun
  · rw [hrun]
    exact hnext fault.code _ fault.ne_success
  · rw [hrun]
    exact ⟨.killed, rfl⟩

theorem create_unserved (data : Bytes) (h : served 1 schedule = false) :
    ∃ halt, (PersistentObject.create objectId data).run ⟨storage, schedule⟩ =
      .error halt ⟨storage, schedule.drop 1⟩ := by
  refine checkedCall_unserved storage _ _ _ h ?_
  intro code tee hcode
  simp [checked_failure hcode]

theorem open_unserved (h : served 1 schedule = false) :
    ∃ halt, (PersistentObject.open objectId).run ⟨storage, schedule⟩ =
      .error halt ⟨storage, schedule.drop 1⟩ := by
  refine checkedCall_unserved storage _ _ _ h ?_
  intro code tee hcode
  simp [checked_failure hcode]

theorem closeAndDelete_unserved (object : PersistentObject)
    (h : served 1 schedule = false) :
    ∃ halt, object.closeAndDelete.run ⟨storage, schedule⟩ =
      .error halt ⟨storage, schedule.drop 1⟩ := by
  refine checkedCall_unserved storage _ _ _ h ?_
  intro code tee hcode
  simp [checked_failure hcode]

theorem dataSize_unserved (object : PersistentObject)
    (h : served 1 schedule = false) :
    ∃ halt, object.dataSize.run ⟨storage, schedule⟩ =
      .error halt ⟨storage, schedule.drop 1⟩ := by
  refine checkedCall_unserved storage _ _ _ h ?_
  intro code tee hcode
  simp [checked_failure hcode]

theorem read_unserved (object : PersistentObject) (buffer : Bytes)
    (h : served 1 schedule = false) :
    ∃ halt, (object.read buffer).run ⟨storage, schedule⟩ =
      .error halt ⟨storage, schedule.drop 1⟩ := by
  refine checkedCall_unserved storage _ _ _ h ?_
  intro code tee hcode
  simp [checked_failure hcode]

theorem dataSize_served {data : Bytes} (h : served 1 schedule = true)
    (hobject : storage objectId = some data) (position : Nat) :
    (PersistentObject.dataSize ⟨objectId, position⟩).run ⟨storage, schedule⟩ =
      .ok data.length ⟨storage, schedule.drop 1⟩ := by
  simp [PersistentObject.dataSize, teeGetObjectInfo1, teeCall_served _ _ _ h,
    hobject]

theorem saveInSecureStorage_served (data : Bytes)
    (h : served 1 schedule = true) :
    (saveInSecureStorage objectId data).run ⟨storage, schedule⟩ =
      .ok () ⟨Function.update storage objectId (some data),
        schedule.drop 1⟩ := by
  simp [saveInSecureStorage, PersistentObject.create,
    teeCreatePersistentObject, teeCall_served _ _ _ h]

theorem saveInSecureStorage_unserved (data : Bytes)
    (h : served 1 schedule = false) :
    ∃ halt, (saveInSecureStorage objectId data).run ⟨storage, schedule⟩ =
      .error halt ⟨storage, schedule.drop 1⟩ := by
  obtain ⟨halt, hrun⟩ := create_unserved storage objectId data h
  simp [saveInSecureStorage, hrun]

theorem loadFromSecureStorage_served (h : served 3 schedule = true) :
    (loadFromSecureStorage objectId).run ⟨storage, schedule⟩ =
      .ok (storage objectId) ⟨storage,
        schedule.drop (if (storage objectId).isSome then 3 else 1)⟩ := by
  have hopen : served 1 schedule = true := served_of_le (by omega) h
  cases hobject : storage objectId with
  | none =>
      simp [loadFromSecureStorage, open_missing storage objectId hopen hobject,
        Error.new]
  | some data =>
      have hrest : served 2 (schedule.drop 1) = true := by
        rw [served_add 1 2, Bool.and_eq_true] at h
        exact h.2
      have hinfo : served 1 (schedule.drop 1) = true :=
        served_of_le (by omega) hrest
      have hread : served 1 ((schedule.drop 1).drop 1) = true := by
        rw [served_add 1 1, Bool.and_eq_true] at hrest
        exact hrest.2
      simp only [loadFromSecureStorage, EStateM.run_bind, Fallible.run_attempt,
        open_served storage objectId hopen hobject, PersistentObject.dataSize,
        Fallible.run_mapError, teeGetObjectInfo1,
        teeCall_served _ _ _ hinfo, hobject, checked_success,
        EStateM.run_pure, PersistentObject.read, teeReadObjectData,
        teeCall_served _ _ _ hread]
      simp

/-- A refused load halts: no refusal passes for a missing object. -/
theorem loadFromSecureStorage_refused (h : served 1 schedule = false) :
    ∃ halt, (loadFromSecureStorage objectId).run ⟨storage, schedule⟩ =
      .error halt ⟨storage, schedule.drop 1⟩ := by
  simp only [loadFromSecureStorage, PersistentObject.open,
    teeOpenPersistentObject, EStateM.run_bind, Fallible.run_attempt]
  rcases teeCall_unserved (ε := Error) () _ storage h with ⟨fault, hrun⟩ | hrun
  · rw [hrun]
    simp [checked_failure fault.ne_success, fault.kind_ne]
  · rw [hrun]
    exact ⟨.killed, rfl⟩

theorem loadFromSecureStorage_missing (h : served 1 schedule = true)
    (hobject : storage objectId = none) :
    (loadFromSecureStorage objectId).run ⟨storage, schedule⟩ =
      .ok none ⟨storage, schedule.drop 1⟩ := by
  simp [loadFromSecureStorage, open_missing storage objectId h hobject,
    Error.new]

theorem loadFromSecureStorage_cases (schedule : List Verdict) :
    ∃ rest,
      (loadFromSecureStorage objectId).run ⟨storage, schedule⟩ =
          .ok (storage objectId) ⟨storage, rest⟩ ∨
        ∃ halt, (loadFromSecureStorage objectId).run ⟨storage, schedule⟩ =
          .error halt ⟨storage, rest⟩ := by
  cases hopen : served 1 schedule with
  | false =>
      exact ⟨_, .inr (loadFromSecureStorage_refused storage objectId hopen)⟩
  | true =>
      cases hobject : storage objectId with
      | none =>
          exact ⟨_, .inl
            (loadFromSecureStorage_missing storage objectId hopen hobject)⟩
      | some data =>
          have hrun := open_served storage objectId hopen hobject
          cases hinfo : served 1 (schedule.drop 1) with
          | false =>
              obtain ⟨halt, hsize⟩ :=
                dataSize_unserved storage ⟨objectId, 0⟩ hinfo
              refine ⟨(schedule.drop 1).drop 1, .inr ⟨halt.map .tee, ?_⟩⟩
              simp only [loadFromSecureStorage, EStateM.run_bind,
                Fallible.run_attempt, hrun, Fallible.run_mapError, hsize]
          | true =>
              have hsize := dataSize_served storage objectId hinfo hobject 0
              cases hread : served 1 ((schedule.drop 1).drop 1) with
              | false =>
                  obtain ⟨halt, hdata⟩ := read_unserved storage ⟨objectId, 0⟩
                    (List.replicate data.length 0) hread
                  refine ⟨((schedule.drop 1).drop 1).drop 1,
                    .inr ⟨halt.map .tee, ?_⟩⟩
                  simp only [loadFromSecureStorage, EStateM.run_bind,
                    Fallible.run_attempt, hrun, Fallible.run_mapError, hsize,
                    hdata]
              | true =>
                  have hserved : served 3 schedule = true := by
                    rw [served_add 1 2, served_add 1 1, hopen, hinfo, hread]
                    rfl
                  have hload :=
                    loadFromSecureStorage_served storage objectId hserved
                  rw [hobject] at hload
                  exact ⟨_, .inl hload⟩

theorem deleteFromSecureStorage_served {data : Bytes}
    (h : served 2 schedule = true) (hobject : storage objectId = some data) :
    (deleteFromSecureStorage objectId).run ⟨storage, schedule⟩ =
      .ok () ⟨Function.update storage objectId none, schedule.drop 2⟩ := by
  rw [served_add 1 1, Bool.and_eq_true] at h
  simp [deleteFromSecureStorage, open_served storage objectId h.1 hobject,
    PersistentObject.closeAndDelete, teeCloseAndDeletePersistentObject1,
    teeCall_served _ _ _ h.2, -List.drop_one]

theorem deleteFromSecureStorage_missing (hobject : storage objectId = none) :
    ∃ halt rest, (deleteFromSecureStorage objectId).run ⟨storage, schedule⟩ =
      .error halt ⟨storage, rest⟩ := by
  cases hserved : served 1 schedule with
  | true =>
      simp [deleteFromSecureStorage,
        open_missing storage objectId hserved hobject]
  | false =>
      obtain ⟨halt, hrun⟩ := open_unserved storage objectId hserved
      cases halt <;> simp [deleteFromSecureStorage, hrun]

theorem deleteFromSecureStorage_unserved (h : served 2 schedule = false) :
    ∃ halt rest, (deleteFromSecureStorage objectId).run ⟨storage, schedule⟩ =
      .error halt ⟨storage, rest⟩ := by
  cases hobject : storage objectId with
  | none => exact deleteFromSecureStorage_missing storage objectId hobject
  | some data =>
      cases hserved : served 1 schedule with
      | false =>
          obtain ⟨halt, hrun⟩ := open_unserved storage objectId hserved
          cases halt <;> simp [deleteFromSecureStorage, hrun]
      | true =>
          have hdelete : served 1 (schedule.drop 1) = false := by
            simpa [served_add 1 1, hserved] using h
          obtain ⟨halt, hrun⟩ :=
            closeAndDelete_unserved storage ⟨objectId, 0⟩ hdelete
          refine ⟨halt.map .tee, (schedule.drop 1).drop 1, ?_⟩
          simp only [deleteFromSecureStorage, EStateM.run_bind,
            Fallible.run_attempt, open_served storage objectId hserved hobject,
            Fallible.run_mapError, hrun]

end BackendRuns
end TrustZoneSdk.SecureDb
