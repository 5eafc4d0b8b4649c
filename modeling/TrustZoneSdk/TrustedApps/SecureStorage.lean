import TrustZoneSdk.Foundation.Dialogue
import TrustZoneSdk.SecureDb.Backend
import TrustZoneSdk.TrustedApps.Command

/-!
# Objects in secure storage

The storage TA writes, reads and deletes objects for its host.  Any call of
the TEE may be refused, or the device switched off before it; an object is
first created empty, over what it held before, and then written.
-/

namespace TrustZoneSdk.TrustedApps.SecureStorage

open TrustZoneSdk.Foundation
open TrustZoneSdk.Utee
open TrustZoneSdk.SecureDb (Bytes Storage Tee TeeM Verdict Fault teeCall
  checked)

/-! ## The rest of the data stream -/

def writtenAt (data : Bytes) (position : Nat) (buffer : Bytes) : Bytes :=
  -- Bytes between the old end and the position are zero.
  data.take position ++ List.replicate (position - data.length) 0 ++ buffer ++
    data.drop (position + buffer.length)

def teeWriteObjectData {ε : Type} (objectId : Bytes) (position : Nat)
    (buffer : Bytes) : TeeM ε (TeeResult × Unit) :=
  teeCall () fun storage =>
    match storage objectId with
    | some data =>
        (teeSuccess, (), Function.update storage objectId
          (some (writtenAt data position buffer)))
    | none => (ErrorKind.corruptObject.intoPrimitive, (), storage)

def write (object : SecureDb.PersistentObject) (buffer : Bytes) :
    TeeM Error SecureDb.PersistentObject := do
  let (code, _) ← teeWriteObjectData object.objectId object.dataPosition buffer
  checked code
  return { object with dataPosition := object.dataPosition + buffer.length }

/-- `reserve` says which allocations the heap has room for. -/
def readRemainingToVec (reserve : Nat → Bool)
    (object : SecureDb.PersistentObject) : TeeM Error Bytes := do
  let dataSize ← object.dataSize
  let size := dataSize - object.dataPosition
  if size ≠ 0 then
    if reserve size then
      let (data, count) ← object.read (List.replicate size 0)
      return data.take count.toNat
    else Fallible.fail (Error.new .outOfMemory)
  else return []

/-! ## The commands -/

inductive Command where
  | read
  | write
  | delete
  | unknown
  deriving DecidableEq, Repr

def Command.fromPrimitive (cmdId : UInt32) : Command :=
  if cmdId = 0 then read
  else if cmdId = 1 then write
  else if cmdId = 2 then delete
  else unknown

def withTee {α : Type} (x : TeeM Error α) : CommandM Tee α :=
  Fallible.zoom Frame.context (fun frame tee => { frame with context := tee })
    x

def deleteObject : CommandM Tee Unit := do
  let objId ← memrefInput .arg0
  let object ← withTee (SecureDb.PersistentObject.open objId)
  withTee object.closeAndDelete

def createRawObject : CommandM Tee Unit := do
  let objId ← memrefInput .arg0
  let dataBuffer ← memrefInput .arg1
  let object ← withTee (SecureDb.PersistentObject.create objId [])
  match ← (withTee (write object dataBuffer)).attempt with
  | .ok _ => return ()
  | .error eWrite =>
      withTee object.closeAndDelete
      Fallible.fail eWrite

def readRawObject (reserve : Nat → Bool) : CommandM Tee Unit := do
  let objId ← memrefInput .arg0
  let bufferLen ← memrefOutput .arg1
  let object ← withTee (SecureDb.PersistentObject.open objId)
  let dataSize ← withTee object.dataSize
  if bufferLen < dataSize then Fallible.fail (Error.new .shortBuffer)
  else
    let data ← withTee (readRemainingToVec reserve object)
    if data.length ≠ dataSize then Fallible.fail (Error.new .excessData)
    else setOutput .arg1 data

def invokeCommand (reserve : Nat → Bool) (cmdId : UInt32) :
    CommandM Tee Unit :=
  match Command.fromPrimitive cmdId with
  | .write => createRawObject
  | .read => readRawObject reserve
  | .delete => deleteObject
  | .unknown => Fallible.fail (Error.new .notSupported)

/-- How the TEE and the heap behave during one command. -/
structure Weather where
  schedule : List Verdict
  reserve : Nat → Bool

def settle (run : Run Error (Frame Tee) Unit) : CommandReply × Storage :=
  -- The storage outlives the session, also where the device is switched off.
  ((conclude run).1, (Run.state run).context.storage)

def serve (request : CommandRequest Weather) (storage : Storage) :
    CommandReply × Storage :=
  settle ((invokeCommand request.tee.reserve request.cmdId).run
    ⟨⟨storage, request.tee.schedule⟩, request.slots⟩)

/-! ## Calls that may be refused -/

section Calls

def haltCode : Halt Error → TeeResult
  | .failed error => error.rawCode
  | .killed => ErrorKind.targetDead.intoPrimitive

/-- A halt that says nothing about whether an object exists. -/
structure Refusal (halt : Halt Error) : Prop where
  ne_success : haltCode halt ≠ teeSuccess
  ne_itemNotFound : haltCode halt ≠ ErrorKind.itemNotFound.intoPrimitive

theorem Refusal.killed : Refusal .killed := ⟨by decide, by decide⟩

theorem Refusal.fault (fault : Fault) :
    Refusal (.failed (Error.fromRawError fault.code)) where
  ne_success := by
    rw [haltCode, Error.rawCode_fromRawError]
    exact fault.ne_success
  ne_itemNotFound := by
    rw [haltCode, Error.rawCode_fromRawError]
    exact fault.ne_itemNotFound

theorem Refusal.outOfMemory : Refusal (.failed (Error.new .outOfMemory)) :=
  ⟨by decide, by decide⟩

/-- A call that would succeed does so, or is refused and changes nothing. -/
inductive Attempt {β : Type} (tee : Tee) (value : β) (storage : Storage) :
    Run Error Tee β → Prop where
  | served (schedule : List Verdict) :
      Attempt tee value storage (.ok value ⟨storage, schedule⟩)
  | refused (halt : Halt Error) (schedule : List Verdict)
      (h : Refusal halt) :
      Attempt tee value storage (.error halt ⟨tee.storage, schedule⟩)

theorem checkedCall_refused {α β : Type} (out : α)
    (serve : Storage → TeeResult × α × Storage) (f : α → β)
    (storage : Storage) {schedule : List Verdict}
    (hserved : SecureDb.served 1 schedule = false) :
    ∃ halt, Refusal halt ∧
      EStateM.run (do
        let (code, out) ← teeCall out serve
        checked code
        return f out : TeeM Error β) ⟨storage, schedule⟩ =
        .error halt ⟨storage, schedule.drop 1⟩ := by
  simp only [EStateM.run_bind]
  rcases SecureDb.teeCall_unserved (ε := Error) out serve storage hserved with
    ⟨fault, hrun⟩ | hrun
  · rw [hrun]
    simp only [SecureDb.checked_failure fault.ne_success]
    exact ⟨_, .fault fault, rfl⟩
  · rw [hrun]
    exact ⟨_, .killed, rfl⟩

theorem checkedCall_attempt {α β : Type} (out : α)
    (serve : Storage → TeeResult × α × Storage) (f : α → β) (tee : Tee)
    (hcode : (serve tee.storage).1 = teeSuccess) :
    Attempt tee (f (serve tee.storage).2.1) (serve tee.storage).2.2
      (EStateM.run (do
        let (code, out) ← teeCall out serve
        checked code
        return f out : TeeM Error β) tee) := by
  obtain ⟨storage, schedule⟩ := tee
  cases hserved : SecureDb.served 1 schedule with
  | true =>
      simp only [EStateM.run_bind,
        SecureDb.teeCall_served out serve storage hserved]
      rw [hcode]
      exact .served _
  | false =>
      obtain ⟨halt, hrefusal, hrun⟩ :=
        checkedCall_refused out serve f storage hserved
      rw [hrun]
      exact .refused _ _ hrefusal

variable (tee : Tee) (objectId : Bytes)

theorem create_attempt (data : Bytes) :
    Attempt tee ⟨objectId, 0⟩
      (Function.update tee.storage objectId (some data))
      ((SecureDb.PersistentObject.create objectId data).run tee) :=
  checkedCall_attempt () (fun storage =>
      (teeSuccess, (), Function.update storage objectId (some data)))
    (fun _ => (⟨objectId, 0⟩ : SecureDb.PersistentObject)) tee rfl

theorem closeAndDelete_attempt (position : Nat) :
    Attempt tee () (Function.update tee.storage objectId none)
      ((SecureDb.PersistentObject.closeAndDelete ⟨objectId, position⟩).run
        tee) := by
  have h := checkedCall_attempt () (fun storage =>
    (teeSuccess, (), Function.update storage objectId none))
    (fun _ => ()) tee rfl
  simpa [SecureDb.PersistentObject.closeAndDelete,
    SecureDb.teeCloseAndDeletePersistentObject1] using h

variable {tee objectId} {data : Bytes}

theorem open_attempt (h : tee.storage objectId = some data) :
    Attempt tee ⟨objectId, 0⟩ tee.storage
      ((SecureDb.PersistentObject.open objectId).run tee) := by
  have hcall := checkedCall_attempt () (fun storage =>
    match storage objectId with
    | some _ => (teeSuccess, (), storage)
    | none => (ErrorKind.itemNotFound.intoPrimitive, (), storage))
    (fun _ => (⟨objectId, 0⟩ : SecureDb.PersistentObject)) tee (by rw [h])
  rw [h] at hcall
  exact hcall

theorem dataSize_attempt (h : tee.storage objectId = some data)
    (position : Nat) :
    Attempt tee data.length tee.storage
      ((SecureDb.PersistentObject.dataSize ⟨objectId, position⟩).run tee) := by
  have hcall := checkedCall_attempt 0 (fun storage =>
    match storage objectId with
    | some data => (teeSuccess, data.length, storage)
    | none => (ErrorKind.corruptObject.intoPrimitive, 0, storage))
    (fun size => size) tee (by rw [h])
  rw [h] at hcall
  exact hcall

theorem write_attempt (h : tee.storage objectId = some data)
    (position : Nat) (buffer : Bytes) :
    Attempt tee ⟨objectId, position + buffer.length⟩
      (Function.update tee.storage objectId
        (some (writtenAt data position buffer)))
      ((write ⟨objectId, position⟩ buffer).run tee) := by
  have hcall := checkedCall_attempt () (fun storage =>
    match storage objectId with
    | some data =>
        (teeSuccess, (), Function.update storage objectId
          (some (writtenAt data position buffer)))
    | none => (ErrorKind.corruptObject.intoPrimitive, (), storage))
    (fun _ =>
      (⟨objectId, position + buffer.length⟩ : SecureDb.PersistentObject)) tee
    (by rw [h])
  rw [h] at hcall
  exact hcall

theorem read_attempt (h : tee.storage objectId = some data) :
    Attempt tee (data, UInt32.ofNat data.length) tee.storage
      ((SecureDb.PersistentObject.read ⟨objectId, 0⟩
        (List.replicate data.length 0)).run tee) := by
  let serve : Storage → TeeResult × (Bytes × Nat) × Storage := fun storage =>
    match storage objectId with
    | some stored =>
        let chunk := (stored.drop 0).take
          (List.replicate data.length (0 : UInt8)).length
        (teeSuccess, (chunk ++ (List.replicate data.length 0).drop
          chunk.length, chunk.length), storage)
    | none => (ErrorKind.corruptObject.intoPrimitive,
        (List.replicate data.length 0, 0), storage)
  have hserve : serve tee.storage =
      (teeSuccess, (data, data.length), tee.storage) := by
    simp [serve, h]
  have hcall := checkedCall_attempt (List.replicate data.length 0, 0) serve
    (fun out => (out.1, UInt32.ofNat out.2)) tee (by rw [hserve])
  rw [hserve] at hcall
  exact hcall

theorem open_missing_halts (h : tee.storage objectId = none) :
    ∃ halt schedule, haltCode halt ≠ teeSuccess ∧
      (SecureDb.PersistentObject.open objectId).run tee =
        .error halt ⟨tee.storage, schedule⟩ := by
  obtain ⟨storage, schedule⟩ := tee
  cases hserved : SecureDb.served 1 schedule with
  | true =>
      exact ⟨_, _, by decide, SecureDb.open_missing storage objectId hserved h⟩
  | false =>
      obtain ⟨halt, hrefusal, hrun⟩ := checkedCall_refused () (fun storage =>
        match storage objectId with
        | some _ => (teeSuccess, (), storage)
        | none => (ErrorKind.itemNotFound.intoPrimitive, (), storage))
        (fun _ => (⟨objectId, 0⟩ : SecureDb.PersistentObject)) storage hserved
      exact ⟨halt, _, hrefusal.ne_success, hrun⟩

theorem readRemainingToVec_attempt (reserve : Nat → Bool)
    (h : tee.storage objectId = some data) :
    Attempt tee (data.take (UInt32.ofNat data.length).toNat) tee.storage
      ((readRemainingToVec reserve ⟨objectId, 0⟩).run tee) := by
  rw [readRemainingToVec, EStateM.run_bind]
  have hsize := dataSize_attempt h 0
  generalize (SecureDb.PersistentObject.dataSize ⟨objectId, 0⟩).run tee = result
    at hsize
  cases hsize with
  | refused halt schedule hrefusal => exact .refused _ _ hrefusal
  | served schedule =>
      dsimp only
      rw [Nat.sub_zero]
      split
      · split
        · rw [EStateM.run_bind]
          have hread := read_attempt
            (show (Tee.mk tee.storage schedule).storage objectId = _ from h)
          generalize EStateM.run _ (Tee.mk tee.storage schedule) = result
            at hread ⊢
          cases hread with
          | refused halt schedule hrefusal => exact .refused _ _ hrefusal
          | served schedule => exact .served _
        · exact .refused _ _ .outOfMemory
      · next hempty =>
          rw [not_not, List.length_eq_zero_iff] at hempty
          subst hempty
          exact .served _

end Calls

/-! ## What a command does to the objects -/

section Commands

inductive Operation where
  | write (objectId data : Bytes)
  | read (objectId : Bytes) (capacity : Nat)
  | delete (objectId : Bytes)
  deriving DecidableEq, Repr

def operationOf (cmdId : UInt32) (slots : ParamIndex → Slot) :
    Option Operation :=
  match Command.fromPrimitive cmdId with
  | .write => do
      let objectId ← inputOf (slots .arg0)
      let data ← inputOf (slots .arg1)
      return .write objectId data
  | .read => do
      let objectId ← inputOf (slots .arg0)
      let capacity ← capacityOf (slots .arg1)
      return .read objectId capacity
  | .delete => do
      let objectId ← inputOf (slots .arg0)
      return .delete objectId
  | .unknown => none

inductive Effect (slots : ParamIndex → Slot) (storage : Storage) :
    Option Operation → CommandReply × Storage → Prop where
  | failed (operation : Option Operation) (code : TeeResult)
      (hcode : code ≠ teeSuccess)
      (hfound : ∀ objectId capacity,
        operation = some (.read objectId capacity) →
          code = ErrorKind.itemNotFound.intoPrimitive →
            storage objectId = none) :
      Effect slots storage operation (⟨code, slots⟩, storage)
  | wrote (objectId data : Bytes) :
      Effect slots storage (some (.write objectId data))
        (⟨teeSuccess, slots⟩,
          Function.update storage objectId (some data))
  | lost (objectId data : Bytes) (code : TeeResult)
      (hcode : code ≠ teeSuccess) (left : Option Bytes)
      (hleft : left ∈ [none, some []]) :
      Effect slots storage (some (.write objectId data))
        (⟨code, slots⟩, Function.update storage objectId left)
  | read (objectId data : Bytes) (capacity : Nat)
      (hstored : storage objectId = some data)
      (hroom : data.length ≤ capacity) :
      Effect slots storage (some (.read objectId capacity))
        (⟨teeSuccess, Function.update slots .arg1
          (filled data (slots .arg1))⟩, storage)
  | deleted (objectId data : Bytes) (hstored : storage objectId = some data) :
      Effect slots storage (some (.delete objectId))
        (⟨teeSuccess, slots⟩, Function.update storage objectId none)

@[simp] theorem settle_ok (frame : Frame Tee) :
    settle (.ok () frame) =
      (⟨teeSuccess, frame.slots⟩, frame.context.storage) := rfl

@[simp] theorem settle_error (halt : Halt Error) (frame : Frame Tee) :
    settle (.error halt frame) =
      (⟨haltCode halt, frame.slots⟩, frame.context.storage) := by
  cases halt <;> rfl

@[simp] theorem run_withTee {α : Type} (x : TeeM Error α) (frame : Frame Tee) :
    (withTee x).run frame =
      match x.run frame.context with
      | .ok value tee => .ok value { frame with context := tee }
      | .error halt tee => .error halt { frame with context := tee } := by
  rw [withTee, Fallible.run_zoom]
  cases x.run frame.context <;> rfl

variable {slots : ParamIndex → Slot} {storage : Storage}

theorem Effect.refused {halt : Halt Error} (operation : Option Operation)
    (h : Refusal halt) :
    Effect slots storage operation (⟨haltCode halt, slots⟩, storage) :=
  .failed _ _ h.ne_success fun _ _ _ hcode => absurd hcode h.ne_itemNotFound

variable (schedule : List Verdict)

theorem undoWrite_effect (objectId data : Bytes) {eWrite : Error}
    (h : Refusal (.failed eWrite)) :
    Effect slots storage (some (.write objectId data))
      (settle (EStateM.run (do
        withTee (SecureDb.PersistentObject.closeAndDelete ⟨objectId, 0⟩)
        Fallible.fail eWrite)
        ⟨⟨Function.update storage objectId (some []), schedule⟩, slots⟩)) := by
  -- A failed write is undone by deleting the object, if that succeeds.
  simp only [EStateM.run_bind, run_withTee]
  have hdelete := closeAndDelete_attempt
    ⟨Function.update storage objectId (some []), schedule⟩ objectId 0
  generalize EStateM.run (SecureDb.PersistentObject.closeAndDelete _) _ =
    deleted at hdelete ⊢
  cases hdelete with
  | refused halt schedule hrefusal =>
      simp only [settle_error]
      exact .lost _ _ _ hrefusal.ne_success _ (by simp)
  | served schedule =>
      simp only [Fallible.run_fail, settle_error, Function.update_idem]
      exact .lost _ _ _ h.ne_success _ (by simp)

theorem createRawObject_effect {objectId data : Bytes}
    (hid : inputOf (slots .arg0) = some objectId)
    (hdata : inputOf (slots .arg1) = some data) :
    Effect slots storage (some (.write objectId data))
      (settle (createRawObject.run ⟨⟨storage, schedule⟩, slots⟩)) := by
  simp only [createRawObject, EStateM.run_bind, run_memrefInput, hid, hdata,
    run_withTee, Fallible.run_attempt]
  have hcreate := create_attempt ⟨storage, schedule⟩ objectId []
  generalize EStateM.run (SecureDb.PersistentObject.create _ _) _ = created
    at hcreate ⊢
  cases hcreate with
  | refused halt schedule hrefusal =>
      simp only [settle_error]
      exact .refused _ hrefusal
  | served schedule =>
      dsimp only
      have hempty : (Tee.mk (Function.update storage objectId (some []))
          schedule).storage objectId = some [] := by simp
      have hwrite := write_attempt hempty 0 data
      generalize EStateM.run (write _ _) _ = written at hwrite ⊢
      cases hwrite with
      | served schedule =>
          have hwritten : writtenAt [] 0 data = data := by simp [writtenAt]
          simp only [hwritten, Function.update_idem]
          exact .wrote _ _
      | refused halt schedule hrefusal =>
          cases halt with
          | killed =>
              simp only [settle_error]
              exact .lost _ _ _ hrefusal.ne_success _ (by simp)
          | failed eWrite => exact undoWrite_effect schedule _ _ hrefusal

theorem deleteObject_effect {objectId : Bytes}
    (hid : inputOf (slots .arg0) = some objectId) :
    Effect slots storage (some (.delete objectId))
      (settle (deleteObject.run ⟨⟨storage, schedule⟩, slots⟩)) := by
  simp only [deleteObject, EStateM.run_bind, run_memrefInput, hid, run_withTee]
  cases hstored : storage objectId with
  | none =>
      obtain ⟨halt, rest, hcode, hrun⟩ := open_missing_halts
        (show (Tee.mk storage schedule).storage objectId = none from hstored)
      simp only [hrun, settle_error]
      exact .failed _ _ hcode (by simp)
  | some data =>
      have hopen := open_attempt
        (show (Tee.mk storage schedule).storage objectId = _ from hstored)
      generalize EStateM.run (SecureDb.PersistentObject.open _) _ = opened
        at hopen ⊢
      cases hopen with
      | refused halt schedule hrefusal =>
          simp only [settle_error]
          exact .refused _ hrefusal
      | served schedule =>
          dsimp only
          have hdelete := closeAndDelete_attempt ⟨storage, schedule⟩ objectId 0
          generalize EStateM.run
            (SecureDb.PersistentObject.closeAndDelete _) _ = deleted
            at hdelete ⊢
          cases hdelete with
          | refused halt schedule hrefusal =>
              simp only [settle_error]
              exact .refused _ hrefusal
          | served schedule => exact .deleted _ _ hstored

theorem Effect.rejected (operation : Option Operation) {kind : ErrorKind}
    (h : Refusal (.failed (Error.new kind))) :
    Effect slots storage operation
      (settle (.error (.failed (Error.new kind))
        ⟨⟨storage, schedule⟩, slots⟩)) := by
  rw [settle_error]
  exact .refused _ h

theorem readOpened_effect (reserve : Nat → Bool) {objectId data : Bytes}
    {capacity : Nat} (hcapacity : capacityOf (slots .arg1) = some capacity)
    (hstored : storage objectId = some data) :
    Effect slots storage (some (.read objectId capacity))
      (settle (EStateM.run (do
        let dataSize ← withTee
          (SecureDb.PersistentObject.dataSize ⟨objectId, 0⟩)
        if capacity < dataSize then Fallible.fail (Error.new .shortBuffer)
        else
          let data ← withTee (readRemainingToVec reserve ⟨objectId, 0⟩)
          if data.length ≠ dataSize then Fallible.fail (Error.new .excessData)
          else setOutput .arg1 data) ⟨⟨storage, schedule⟩, slots⟩)) := by
  simp only [EStateM.run_bind, run_withTee]
  have hsize := dataSize_attempt
    (show (Tee.mk storage schedule).storage objectId = _ from hstored) 0
  generalize EStateM.run (SecureDb.PersistentObject.dataSize _) _ = sized
    at hsize ⊢
  cases hsize with
  | refused halt schedule hrefusal =>
      simp only [settle_error]
      exact .refused _ hrefusal
  | served schedule =>
      dsimp only
      split
      · exact .rejected _ _ ⟨by decide, by decide⟩
      · next hroom =>
          simp only [EStateM.run_bind, run_withTee]
          have hread := readRemainingToVec_attempt reserve
            (show (Tee.mk storage schedule).storage objectId = _ from hstored)
          generalize EStateM.run (readRemainingToVec _ _) _ = remaining
            at hread ⊢
          cases hread with
          | refused halt schedule hrefusal =>
              simp only [settle_error]
              exact .refused _ hrefusal
          | served schedule =>
              dsimp only
              split
              · exact .rejected _ _ ⟨by decide, by decide⟩
              · next hwhole =>
                  have htake : data.take (UInt32.ofNat data.length).toNat =
                      data := by
                    rw [List.take_eq_self_iff]
                    rw [not_not, List.length_take] at hwhole
                    omega
                  rw [htake, run_setOutput]
                  simp only [hcapacity, if_neg hroom]
                  exact .read _ _ _ hstored (by omega)

theorem readRawObject_effect (reserve : Nat → Bool) {objectId : Bytes}
    {capacity : Nat} (hid : inputOf (slots .arg0) = some objectId)
    (hcapacity : capacityOf (slots .arg1) = some capacity) :
    Effect slots storage (some (.read objectId capacity))
      (settle ((readRawObject reserve).run
        ⟨⟨storage, schedule⟩, slots⟩)) := by
  simp only [readRawObject, EStateM.run_bind, run_memrefInput, hid,
    run_memrefOutput, hcapacity, run_withTee]
  cases hstored : storage objectId with
  | none =>
      obtain ⟨halt, rest, hcode, hrun⟩ := open_missing_halts
        (show (Tee.mk storage schedule).storage objectId = none from hstored)
      simp only [hrun, settle_error]
      refine .failed _ _ hcode ?_
      rintro _ _ ⟨⟩ -
      exact hstored
  | some data =>
      have hopen := open_attempt
        (show (Tee.mk storage schedule).storage objectId = _ from hstored)
      generalize EStateM.run (SecureDb.PersistentObject.open _) _ = opened
        at hopen ⊢
      cases hopen with
      | refused halt schedule hrefusal =>
          simp only [settle_error]
          exact .refused _ hrefusal
      | served schedule =>
          have hopened :=
            readOpened_effect schedule reserve hcapacity hstored
          simp only [EStateM.run_bind, run_withTee] at hopened
          exact hopened

theorem Effect.badParameters :
    Effect slots storage none
      (settle (.error (.failed (Error.new .badParameters))
        ⟨⟨storage, schedule⟩, slots⟩)) :=
  .rejected _ _ ⟨by decide, by decide⟩

theorem serve_effect (request : CommandRequest Weather) (storage : Storage) :
    Effect request.slots storage (operationOf request.cmdId request.slots)
      (serve request storage) := by
  obtain ⟨cmdId, slots, ⟨schedule, reserve⟩⟩ := request
  rw [serve, invokeCommand, operationOf]
  dsimp only
  cases Command.fromPrimitive cmdId with
  | unknown => exact .rejected _ _ ⟨by decide, by decide⟩
  | write =>
      cases hid : inputOf (slots .arg0) with
      | none =>
          simp only [createRawObject, EStateM.run_bind, run_memrefInput, hid]
          exact .badParameters _
      | some objectId =>
          cases hdata : inputOf (slots .arg1) with
          | none =>
              simp only [createRawObject, EStateM.run_bind, run_memrefInput,
                hid, hdata]
              exact .badParameters _
          | some data => exact createRawObject_effect schedule hid hdata
  | read =>
      cases hid : inputOf (slots .arg0) with
      | none =>
          simp only [readRawObject, EStateM.run_bind, run_memrefInput, hid]
          exact .badParameters _
      | some objectId =>
          cases hcapacity : capacityOf (slots .arg1) with
          | none =>
              simp only [readRawObject, EStateM.run_bind, run_memrefInput,
                run_memrefOutput, hid, hcapacity]
              exact .badParameters _
          | some capacity =>
              exact readRawObject_effect schedule reserve hid hcapacity
  | delete =>
      cases hid : inputOf (slots .arg0) with
      | none =>
          simp only [deleteObject, EStateM.run_bind, run_memrefInput, hid]
          exact .badParameters _
      | some objectId => exact deleteObject_effect schedule hid

end Commands

/-! ## What the host can conclude from the answers -/

section History

def outputOf : Slot → Option Bytes
  | .memref .output contents reported => some (contents.take reported)
  | _ => none

/--
The contents an object may have, as far as the answers tell.  A write that
fails may have left an empty object, or none, in the place of the old one.
-/
def contentsAfter (objectId : Bytes) (contents : List (Option Bytes))
    (entry : CommandRequest Weather × CommandReply) : List (Option Bytes) :=
  let succeeded : Bool := entry.2.code = teeSuccess
  match operationOf entry.1.cmdId entry.1.slots with
  | some (.write other data) =>
      if other ≠ objectId then contents
      else if succeeded then [some data]
      else none :: some [] :: contents
  | some (.delete other) =>
      if other ≠ objectId then contents
      else if succeeded then [none]
      else contents
  | some (.read other _) =>
      if other ≠ objectId then contents
      else if succeeded then [outputOf (entry.2.slots .arg1)]
      else if entry.2.code = ErrorKind.itemNotFound.intoPrimitive then [none]
      else contents
  | none => contents

theorem outputOf_filled {slot : Slot} {capacity : Nat} (data : Bytes)
    (hcapacity : capacityOf slot = some capacity) :
    outputOf (filled data slot) = some data := by
  cases slot with
  | none => simp [capacityOf] at hcapacity
  | value direction a b => simp [capacityOf] at hcapacity
  | memref direction contents reported =>
      cases direction with
      | input => simp [capacityOf] at hcapacity
      | inout => simp [capacityOf] at hcapacity
      | output => simp [filled, outputOf, overlay]

theorem capacityOf_of_read {cmdId : UInt32} {slots : ParamIndex → Slot}
    {objectId : Bytes} {capacity : Nat}
    (h : operationOf cmdId slots = some (.read objectId capacity)) :
    capacityOf (slots .arg1) = some capacity := by
  rw [operationOf] at h
  split at h
  · simp [Option.bind_eq_some_iff] at h
  · simp only [Option.bind_eq_bind, Option.bind_eq_some_iff] at h
    obtain ⟨_, -, _, hcapacity, hread⟩ := h
    cases hread
    exact hcapacity
  · simp [Option.bind_eq_some_iff] at h
  · cases h

/-- The object's contents are among those the answers allow. -/
def Allows (objectId : Bytes) (contents : List (Option Bytes))
    (storage : Storage) : Prop :=
  storage objectId ∈ contents

theorem serve_allows (objectId : Bytes) (request : CommandRequest Weather)
    (contents : List (Option Bytes)) (storage : Storage)
    (h : Allows objectId contents storage) :
    Allows objectId
      (contentsAfter objectId contents (request, (serve request storage).1))
      (serve request storage).2 := by
  have heffect := serve_effect request storage
  rw [contentsAfter]
  generalize serve request storage = answer at heffect ⊢
  generalize hoperation : operationOf request.cmdId request.slots = operation
    at heffect ⊢
  cases heffect with
  | failed _ code hcode hfound =>
      cases operation with
      | none => exact h
      | some operation =>
          cases operation with
          | write other data =>
              simp only [hcode, decide_false]
              split
              · exact h
              · exact List.mem_cons_of_mem _ (List.mem_cons_of_mem _ h)
          | delete other => simpa [hcode] using h
          | read other capacity =>
              simp only [hcode, decide_false]
              split
              · exact h
              · next hsame =>
                  rw [not_not] at hsame
                  subst hsame
                  by_cases hmissing :
                      code = ErrorKind.itemNotFound.intoPrimitive
                  · have hnone := hfound _ _ rfl hmissing
                    simp [Allows, hmissing, hnone]
                  · simpa [hmissing] using h
  | wrote other data =>
      by_cases hsame : other = objectId
      · subst hsame
        simp [Allows]
      · simpa [Allows, hsame, Ne.symm hsame] using h
  | lost other data code hcode left hleft =>
      by_cases hsame : other = objectId
      · subst hsame
        have hboth : left = none ∨ left = some [] := by simpa using hleft
        rcases hboth with rfl | rfl <;> simp [Allows, hcode]
      · simpa [Allows, hsame, Ne.symm hsame] using h
  | read other data capacity hstored hroom =>
      by_cases hsame : other = objectId
      · subst hsame
        have houtput := outputOf_filled data
          (capacityOf_of_read hoperation)
        simp [Allows, houtput, hstored]
      · simpa [hsame] using h
  | deleted other data hstored =>
      by_cases hsame : other = objectId
      · subst hsame
        simp [Allows]
      · simpa [Allows, hsame, Ne.symm hsame] using h

theorem serve_read_answer {request : CommandRequest Weather}
    {objectId : Bytes} {capacity : Nat} (storage : Storage)
    (hread : operationOf request.cmdId request.slots =
      some (.read objectId capacity)) :
    ((serve request storage).1.code = teeSuccess →
      ∃ data, storage objectId = some data ∧ data.length ≤ capacity ∧
        (serve request storage).1.slots = Function.update request.slots .arg1
          (filled data (request.slots .arg1))) ∧
    ((serve request storage).1.code =
        ErrorKind.itemNotFound.intoPrimitive →
      storage objectId = none) := by
  have heffect := serve_effect request storage
  rw [hread] at heffect
  generalize serve request storage = answer at heffect ⊢
  cases heffect with
  | failed _ code hcode hfound =>
      exact ⟨fun h => absurd h hcode, hfound _ _ rfl⟩
  | read _ data _ hstored hroom =>
      have hcodes : teeSuccess ≠ ErrorKind.itemNotFound.intoPrimitive := by
        decide
      exact ⟨fun _ => ⟨data, hstored, hroom, rfl⟩, fun h => absurd h hcodes⟩

/--
Whatever hosts ask of the storage, wherever a call of the TEE is refused and
wherever the device is switched off: an object has one of the contents that
the answers so far allow, a successful read returns one of these and a read
that finds no object had none among them.
-/
theorem objects_have_contents_answers_allow {Result : Type}
    (hosts : Dialogue (CommandRequest Weather) CommandReply Result)
    (storage : Storage) (objectId : Bytes) :
    (hosts.run serve storage).state objectId ∈
        (hosts.run serve storage).transcript.foldl (contentsAfter objectId)
          [storage objectId] ∧
      ∀ before request reply after capacity,
        (hosts.run serve storage).transcript =
            before ++ (request, reply) :: after →
          operationOf request.cmdId request.slots =
              some (.read objectId capacity) →
            (reply.code = teeSuccess →
              ∃ data, some data ∈ before.foldl (contentsAfter objectId)
                  [storage objectId] ∧ data.length ≤ capacity ∧
                reply.slots = Function.update request.slots .arg1
                  (filled data (request.slots .arg1))) ∧
            (reply.code = ErrorKind.itemNotFound.intoPrimitive →
              none ∈ before.foldl (contentsAfter objectId)
                [storage objectId]) := by
  have hstart : Allows objectId [storage objectId] storage := by
    simp [Allows]
  refine ⟨Dialogue.run_tracks (serve_allows objectId) hosts hstart, ?_⟩
  intro before request reply after capacity hsplit hread
  obtain ⟨middle, hmiddle, hanswer⟩ :=
    Dialogue.run_tracks_at (serve_allows objectId) hosts hstart hsplit
  obtain ⟨hfound, hmissing⟩ := serve_read_answer middle hread
  rw [hanswer] at hfound hmissing
  rw [Allows] at hmiddle
  constructor
  · intro hcode
    obtain ⟨data, hstored, hroom, hslots⟩ := hfound hcode
    exact ⟨data, hstored ▸ hmiddle, hroom, hslots⟩
  · intro hcode
    exact hmissing hcode ▸ hmiddle

def noSpace : Fault where
  code := ErrorKind.storageNoSpace.intoPrimitive
  ne_success := by decide
  ne_itemNotFound := by decide

def command (cmdId : UInt32) (first second : Slot)
    (schedule : List Verdict) : CommandRequest Weather where
  cmdId := cmdId
  slots
    | .arg0 => first
    | .arg1 => second
    | _ => .none
  tee := ⟨schedule, fun _ => true⟩

-- An object that could not be overwritten is gone.
example :
    (((Dialogue.ofList [
        command 1 (.memref .input [7] 1) (.memref .input [1, 2] 2) [],
        command 1 (.memref .input [7] 1) (.memref .input [3] 1)
          [.proceed, .refuse noSpace],
        command 0 (.memref .input [7] 1) (.memref .output [0, 0] 2) []]
        ()).run serve fun _ => none).transcript.map fun entry =>
          entry.2.code) =
      [teeSuccess, ErrorKind.storageNoSpace.intoPrimitive,
        ErrorKind.itemNotFound.intoPrimitive] := by
  decide

end History

end TrustZoneSdk.TrustedApps.SecureStorage
