import TrustZoneSdk.Foundation.Ledger
import TrustZoneSdk.Foundation.Transfer
import TrustZoneSdk.Utee.Error

/-!
# Handles of objects, enumerators and sessions

Each wrapper of the crate has its own rule for giving its TEE handle back:
`ObjectHandle` closes in its destructor unless it was forgotten,
`close_and_delete` gives the handle back and forgets it whatever the TEE
answers, an enumerator frees the handle and the box it is kept in, and a
session that was opened is closed on every path.  A program calls them in any
order, and the TEE grants or refuses what it likes.
-/

namespace TrustZoneSdk.Utee

open TrustZoneSdk.Foundation

inductive HandleResource where
  | object (raw : Nat)
  | enumerator (raw : Nat)
  | session (raw : Nat)
  | cell (address : Nat)
  deriving DecidableEq, Repr

/--
The calls that leave the crate.  `granted` is the handle that a call returned,
if it succeeded and returned one.
-/
inductive HandleCall where
  | openPersistentObject (granted : Option Nat)
  | createPersistentObject (attributes : Nat) (granted : Option Nat)
  | allocateTransientObject (granted : Option Nat)
  | closeObject (raw : Nat)
  | closeAndDeletePersistentObject1 (raw : Nat)
  | allocatePersistentObjectEnumerator (granted : Option Nat)
  | freePersistentObjectEnumerator (raw : Nat)
  | openTASession (granted : Option Nat)
  | closeTASession (raw : Nat)
  | use (passed : List HandleResource)
  | boxNew (address : Nat)
  | boxDrop (address : Nat)
  deriving DecidableEq, Repr

abbrev HandleEvent := Ledger.Event HandleResource

def grantedEvents (name : Nat → HandleResource) (granted : Option Nat) :
    List HandleEvent :=
  granted.toList.map fun raw => .acquire (name raw)

def passedObject (raw : Nat) : List HandleResource :=
  if raw = 0 then [] else [.object raw]

def HandleCall.events : HandleCall → List HandleEvent
  | .openPersistentObject granted => grantedEvents .object granted
  | .createPersistentObject attributes granted =>
      (passedObject attributes).map .use ++ grantedEvents .object granted
  | .allocateTransientObject granted => grantedEvents .object granted
  | .closeObject raw => [.release (.object raw)]
  | .closeAndDeletePersistentObject1 raw => [.release (.object raw)]
  | .allocatePersistentObjectEnumerator granted =>
      grantedEvents .enumerator granted
  | .freePersistentObjectEnumerator raw => [.release (.enumerator raw)]
  | .openTASession granted => grantedEvents .session granted
  | .closeTASession raw => [.release (.session raw)]
  | .use passed => passed.map .use
  | .boxNew address => [.acquire (.cell address)]
  | .boxDrop address => [.release (.cell address)]

structure ObjectHandle where
  raw : Nat
  deriving DecidableEq, Repr

/-- The handles that `ObjectHandle::from_raw` lets through. -/
abbrev OpenHandle := { self : ObjectHandle // self.raw ≠ 0 }

structure PersistentObject where
  handle : OpenHandle
  deriving DecidableEq, Repr

structure TransientObject where
  handle : ObjectHandle
  deriving DecidableEq, Repr

structure ObjectEnumHandle where
  raw : Nat
  handle : Nat
  deriving DecidableEq, Repr

structure TaSession where
  raw : Nat
  deriving DecidableEq, Repr

inductive HandleValue where
  | external (raw : Nat)
  | objectHandle (self : OpenHandle)
  | persistentObject (self : PersistentObject)
  | transientObject (self : TransientObject)
  | objectEnumHandle (self : ObjectEnumHandle)
  | taSession (self : TaSession)
  deriving DecidableEq, Repr

structure HandleState where
  values : List HandleValue
  log : List HandleCall
  deriving DecidableEq, Repr

namespace HandleState

variable (state : HandleState)

def initial : HandleState := ⟨[], []⟩

def events : List HandleEvent := state.log.flatMap HandleCall.events

def withCall (call : HandleCall) : HandleState :=
  { state with log := state.log ++ [call] }

def withValue (value : HandleValue) : HandleState :=
  { state with values := state.values ++ [value] }

def withoutValue (index : Nat) : HandleState :=
  { state with values := state.values.eraseIdx index }

end HandleState

abbrev HandleM (ε α : Type) := Fallible ε HandleState α

variable {ε : Type}

def teeCall (call : HandleCall) : HandleM ε Unit :=
  modify fun state => state.withCall call

/--
A call that returns a handle through an out parameter, which the caller has
set to null.  A call that succeeds writes a new handle, or null when `supply`
is none.
-/
def teeGrant {name : Nat → HandleResource} (call : Option Nat → HandleCall)
    (code : TeeResult) (supply : Option (Ledger.Supply name)) :
    HandleM ε (TeeResult × Nat) := do
  let outstanding := Ledger.outstanding (← get).events
  let granted := if code = teeSuccess then
      supply.map fun supply => supply.pick outstanding
    else none
  teeCall (call granted)
  return (code, granted.getD 0)

def boxIntoRaw (box : Ledger.Supply HandleResource.cell) :
    HandleM ε Nat := do
  let raw := box.pick (Ledger.outstanding (← get).events)
  teeCall (.boxNew raw)
  return raw

structure ObjectReply where
  code : TeeResult
  supply : Option (Ledger.Supply HandleResource.object)

namespace ObjectHandle

def fromRaw (raw : Nat) : Except Error OpenHandle :=
  if hraw : raw = 0 then .error (Error.new .badParameters)
  else .ok ⟨⟨raw⟩, hraw⟩

def newNull : ObjectHandle := ⟨0⟩

def isNull (self : ObjectHandle) : Bool := self.raw == 0

def drop (self : ObjectHandle) : HandleM ε Unit :=
  if !self.isNull then teeCall (.closeObject self.raw) else return

def forget (self : ObjectHandle) : HandleM ε Unit :=
  -- The inner handle is set to null before the destructor runs.
  { self with raw := 0 }.drop

def receive (call : Option Nat → HandleCall) (reply : ObjectReply) :
    HandleM Error OpenHandle := do
  let (code, handle) ← teeGrant call reply.code reply.supply
  Fallible.ofExcept (teeCheck code)
  Fallible.ofExcept (fromRaw handle)

end ObjectHandle

namespace PersistentObject

def «open» (reply : ObjectReply) : HandleM Error PersistentObject := do
  return ⟨← ObjectHandle.receive .openPersistentObject reply⟩

def create (attributes : Option OpenHandle) (reply : ObjectReply) :
    HandleM Error PersistentObject := do
  let raw := match attributes with
    | some handle => handle.val.raw
    | none => 0
  let result ← Fallible.attempt
    (ObjectHandle.receive (.createPersistentObject raw) reply)
  -- `attributes` was moved in and is dropped on every way out.
  if let some handle := attributes then handle.val.drop
  return ⟨← Fallible.ofExcept result⟩

def closeAndDelete (self : PersistentObject) (code : TeeResult) :
    HandleM Error Unit := do
  teeCall (.closeAndDeletePersistentObject1 self.handle.val.raw)
  let result := teeCheck code
  self.handle.val.forget
  Fallible.ofExcept result

end PersistentObject

namespace TransientObject

def nullObject : TransientObject := ⟨ObjectHandle.newNull⟩

def allocate (reply : ObjectReply) : HandleM Error TransientObject := do
  return ⟨(← ObjectHandle.receive .allocateTransientObject reply).val⟩

end TransientObject

namespace ObjectEnumHandle

def allocate (box : Ledger.Supply HandleResource.cell) (code : TeeResult)
    (supply : Ledger.Supply HandleResource.enumerator) :
    HandleM Error ObjectEnumHandle := do
  let raw ← boxIntoRaw box
  let (code, handle) ←
    teeGrant .allocatePersistentObjectEnumerator code (some supply)
  if code = teeSuccess then
    return ⟨raw, handle⟩
  else
    teeCall (.boxDrop raw)
    Fallible.fail (Error.fromRawError code)

def drop (self : ObjectEnumHandle) : HandleM ε Unit := do
  teeCall (.freePersistentObjectEnumerator self.handle)
  teeCall (.boxDrop self.raw)

end ObjectEnumHandle

namespace TaSession

def drop (self : TaSession) : HandleM ε Unit :=
  teeCall (.closeTASession self.raw)

def build (code : TeeResult) (errOrigin : UInt32)
    (supply : Ledger.Supply HandleResource.session)
    (updated : Except Error Unit) : HandleM Error TaSession := do
  let (code, rawSession) ← teeGrant .openTASession code (some supply)
  Fallible.ofExcept (teeCheckWithOrigin code errOrigin)
  let session : TaSession := ⟨rawSession⟩
  match updated with
  | .ok () => return session
  | .error error =>
      session.drop
      Fallible.fail error

end TaSession

/-! ## Programs -/

namespace HandleValue

def passed : HandleValue → List HandleResource
  | .external raw => passedObject raw
  | .objectHandle self => [.object self.val.raw]
  | .persistentObject self => [.object self.handle.val.raw]
  | .transientObject self => passedObject self.handle.raw
  | .objectEnumHandle self => [.enumerator self.handle]
  | .taSession self => [.session self.raw]

def drop : HandleValue → HandleM ε Unit
  | .external _ => return
  | .objectHandle self => self.val.drop
  | .persistentObject self => self.handle.val.drop
  | .transientObject self => self.handle.drop
  | .objectEnumHandle self => self.drop
  | .taSession self => self.drop

def isExternal : HandleValue → Bool
  | .external _ => true
  | _ => false

end HandleValue

inductive HandleStep where
  | external (reply : ObjectReply)
  | closeExternal (index : Nat)
  | fromRaw (index : Nat)
  | forget (index : Nat)
  | openObject (reply : ObjectReply)
  | create (attributes : Option Nat) (reply : ObjectReply)
  | closeAndDelete (index : Nat) (code : TeeResult)
  | nullObject
  | allocateObject (reply : ObjectReply)
  | allocateEnumerator (box : Ledger.Supply HandleResource.cell)
      (code : TeeResult) (supply : Ledger.Supply HandleResource.enumerator)
  | build (code : TeeResult) (errOrigin : UInt32)
      (supply : Ledger.Supply HandleResource.session)
      (updated : Except Error Unit)
  | use (indices : List Nat)
  | drop (index : Nat)

def keep {α : Type} (wrap : α → HandleValue) (x : HandleM Error α) :
    HandleM ε Unit := do
  match ← (Fallible.attempt x : HandleM ε (Except Error α)) with
  | .ok self => modify fun state => state.withValue (wrap self)
  | .error _ => return

def consume (index : Nat) (body : HandleValue → Option (HandleM ε Unit)) :
    HandleM ε Unit := do
  match (← get).values[index]?.bind body with
  | some run =>
      modify fun state => state.withoutValue index
      run
  | none => return

namespace HandleStep

def exec : HandleStep → HandleM Empty Unit
  -- A statement takes an `Err` as a value and goes on.
  | .external reply => do
      let (_, raw) ←
        teeGrant .openPersistentObject reply.code reply.supply
      modify fun state => state.withValue (.external raw)
  | .closeExternal index =>
      consume index fun
        | .external raw => some (ObjectHandle.drop ⟨raw⟩)
        | _ => none
  | .fromRaw index =>
      consume index fun
        | .external raw =>
            some (match ObjectHandle.fromRaw raw with
              | .ok self =>
                  modify fun state => state.withValue (.objectHandle self)
              | .error _ =>
                  modify fun state => state.withValue (.external raw))
        | _ => none
  | .forget index =>
      consume index fun
        | .objectHandle self => some do
            self.val.forget
            modify fun state => state.withValue (.external self.val.raw)
        | _ => none
  | .openObject reply => keep .persistentObject (PersistentObject.open reply)
  | .create none reply =>
      keep .persistentObject (PersistentObject.create none reply)
  | .create (some index) reply =>
      consume index fun
        | .objectHandle self =>
            some (keep .persistentObject
              (PersistentObject.create (some self) reply))
        | _ => none
  | .closeAndDelete index code =>
      consume index fun
        | .persistentObject self => some do
            let _ ← (Fallible.attempt (self.closeAndDelete code) :
              HandleM Empty (Except Error Unit))
        | _ => none
  | .nullObject =>
      modify fun state =>
        state.withValue (.transientObject TransientObject.nullObject)
  | .allocateObject reply =>
      keep .transientObject (TransientObject.allocate reply)
  | .allocateEnumerator box code supply =>
      keep .objectEnumHandle (ObjectEnumHandle.allocate box code supply)
  | .build code errOrigin supply updated =>
      keep .taSession (TaSession.build code errOrigin supply updated)
  | .use indices => do
      let state ← get
      let values := indices.filterMap fun index => state.values[index]?
      teeCall (.use (values.flatMap HandleValue.passed))
  | .drop index =>
      consume index fun value =>
        if value.isExternal then none else some value.drop

end HandleStep

def runHandles (program : List HandleStep) : HandleM Empty Unit :=
  program.forM HandleStep.exec

/-! ## What the live values own -/

def ownedObject (raw : Nat) : Multiset HandleResource := passedObject raw

@[simp] theorem ownedObject_zero : ownedObject 0 = 0 := rfl

theorem ownedObject_of_ne {raw : Nat} (h : raw ≠ 0) :
    ownedObject raw = {.object raw} := by
  simp [ownedObject, passedObject, h]

def HandleValue.owned : HandleValue → Multiset HandleResource
  | .external raw => ownedObject raw
  | .objectHandle self => {.object self.val.raw}
  | .persistentObject self => {.object self.handle.val.raw}
  | .transientObject self => ownedObject self.handle.raw
  | .objectEnumHandle self => {.enumerator self.handle} + {.cell self.raw}
  | .taSession self => {.session self.raw}

theorem HandleValue.passed_owned {value : HandleValue}
    {resource : HandleResource} (h : resource ∈ value.passed) :
    resource ∈ value.owned := by
  cases value <;> simp_all [passed, owned, ownedObject]

abbrev HandleAccounts : List HandleEvent → Multiset HandleResource → Prop :=
  Ledger.Accounts fun _ => none

namespace HandleState

variable {state : HandleState} {loose before : Multiset HandleResource}

def owned (state : HandleState) : Multiset HandleResource :=
  Ledger.holdings HandleValue.owned state.values

/-- The live values and the running call own what is outstanding. -/
def Held (state : HandleState) (loose : Multiset HandleResource) : Prop :=
  HandleAccounts state.events (state.owned + loose)

@[simp] theorem events_withCall (call : HandleCall) :
    (state.withCall call).events = state.events ++ call.events := by
  simp [events, withCall, List.flatMap_append]

theorem owned_withValue (value : HandleValue) :
    (state.withValue value).owned = value.owned + state.owned :=
  Ledger.holdings_concat value

theorem owned_withoutValue {index : Nat} {value : HandleValue}
    (h : state.values[index]? = some value) :
    state.owned = value.owned + (state.withoutValue index).owned :=
  Ledger.holdings_eraseIdx h

theorem Held.withValue {value : HandleValue}
    (h : state.Held (value.owned + loose)) :
    (state.withValue value).Held loose := by
  rw [Held, owned_withValue, add_assoc, add_left_comm]
  exact h

theorem Held.withoutValue {index : Nat} {value : HandleValue}
    (h : state.Held loose) (hvalue : state.values[index]? = some value) :
    (state.withoutValue index).Held (value.owned + loose) := by
  rw [Held, owned_withoutValue hvalue, add_assoc, add_left_comm] at h
  exact h

theorem Held.release {call : HandleCall} {resource : HandleResource}
    (h : state.Held (resource ::ₘ loose))
    (hcall : call.events = [.release resource]) :
    (state.withCall call).Held loose := by
  rw [Held, events_withCall, hcall]
  refine Ledger.Accounts.release ?_ (by simp)
  rw [Held, Multiset.add_cons] at h
  exact h

theorem Held.use {call : HandleCall} (h : state.Held loose)
    (passed : List HandleResource) (hcall : call.events = passed.map .use)
    (hpassed : ∀ resource ∈ passed, resource ∈ state.owned + loose) :
    (state.withCall call).Held loose := by
  rw [Held, events_withCall, hcall]
  exact Ledger.Accounts.uses h hpassed

theorem Held.grant {name : Nat → HandleResource} {call : HandleCall}
    (h : state.Held loose) (passed : List HandleResource)
    (supply : Ledger.Supply name)
    (hcall : call.events = passed.map .use ++ grantedEvents name
      (some (supply.pick (Ledger.outstanding state.events))))
    (hpassed : ∀ resource ∈ passed, resource ∈ loose) :
    (state.withCall call).Held
      (name (supply.pick (Ledger.outstanding state.events)) ::ₘ loose) := by
  have hused := Ledger.Accounts.uses h fun resource hmem =>
    Multiset.mem_add.mpr (Or.inr (hpassed resource hmem))
  rw [Held, events_withCall, hcall, ← List.append_assoc, Multiset.add_cons]
  refine hused.acquire ?_ (by simp)
  rw [← Ledger.Accounts.mem_outstanding h]
  exact supply.fresh _

end HandleState

/-! ## What each function hands on -/

section Triples

variable {before lost : Multiset HandleResource}

abbrev HandleTransfers (ε : Type) {α : Type} (before : Multiset HandleResource)
    (x : HandleM ε α) (after : α → Multiset HandleResource)
    (lost : Multiset HandleResource) : Prop :=
  Transfers HandleState.Held before x after lost

theorem teeCall_release {call : HandleCall} {resource : HandleResource}
    (hcall : call.events = [.release resource]) :
    HandleTransfers ε ({resource} + before) (teeCall call) (fun _ => before)
      lost := by
  refine Transfers.modify_state fun state rest h => ?_
  rw [add_assoc] at h
  exact HandleState.Held.release h hcall

theorem teeGrant_transfers {name : Nat → HandleResource}
    {call : Option Nat → HandleCall} {code : TeeResult}
    {supply : Option (Ledger.Supply name)}
    {after : TeeResult × Nat → Multiset HandleResource}
    (passed : List HandleResource)
    (hcall : ∀ granted, (call granted).events =
      passed.map .use ++ grantedEvents name granted)
    (hpassed : ∀ resource ∈ passed, resource ∈ before)
    (hgranted : ∀ raw, raw ≠ 0 →
      after (teeSuccess, raw) = name raw ::ₘ before)
    (hnull : supply = none → after (teeSuccess, 0) = before)
    (hrefused : ∀ code, code ≠ teeSuccess → after (code, 0) = before) :
    HandleTransfers ε before (teeGrant call code supply) after lost := by
  intro state rest h
  have hrest : ∀ resource ∈ passed, resource ∈ before + rest :=
    fun resource hmem => Multiset.mem_add.mpr (Or.inl (hpassed resource hmem))
  have hnone : (state.withCall (call none)).Held (before + rest) := by
    refine h.use passed ?_ ?_
    · rw [hcall, grantedEvents, Option.toList_none, List.map_nil,
        List.append_nil]
    · intro resource hmem
      exact Multiset.mem_add.mpr (Or.inr (hrest resource hmem))
  by_cases hcode : code = teeSuccess
  · subst hcode
    cases supply with
    | none =>
        change HandleState.Held _ (after (teeSuccess, 0) + rest)
        rw [hnull rfl]
        exact hnone
    | some supply =>
        have hheld := h.grant passed supply (hcall _) hrest
        change HandleState.Held _ (after (teeSuccess, supply.pick _) + rest)
        rw [hgranted _ (supply.nonNull _), Multiset.cons_add]
        exact hheld
  · have hrun : (teeGrant call code supply : HandleM ε _).run state =
        .ok (code, 0) (state.withCall (call none)) := by
      simp [teeGrant, teeCall, hcode]
    rw [hrun]
    change HandleState.Held _ (after (code, 0) + rest)
    rw [hrefused code hcode]
    exact hnone

theorem boxIntoRaw_transfers (box : Ledger.Supply HandleResource.cell) :
    HandleTransfers ε 0 (boxIntoRaw box) (fun raw => {.cell raw}) lost := by
  intro state rest h
  rw [zero_add] at h
  exact h.grant [] box rfl (by simp)

theorem ite_error_transfers {code : TeeResult} {error : Error}
    (granted : Multiset HandleResource) :
    HandleTransfers Error ((if code = teeSuccess then granted else 0) + lost)
      (Fallible.ofExcept (if code = teeSuccess then .ok ()
        else .error error))
      (fun _ => granted + lost) lost := by
  by_cases hcode : code = teeSuccess
  · rw [if_pos hcode, if_pos hcode]
    exact Transfers.pure rfl
  · rw [if_neg hcode, if_neg hcode, zero_add]
    exact Transfers.fail error

theorem withValue_transfers (value : HandleValue) :
    HandleTransfers ε value.owned
      (modify fun state => state.withValue value) (fun _ => 0) lost :=
  Transfers.modify_state fun state rest h => by
    rw [zero_add]
    exact HandleState.Held.withValue h

theorem keep_transfers {α : Type} {wrap : α → HandleValue} {x : HandleM Error α}
    (h : HandleTransfers Error before x (fun self => (wrap self).owned) 0) :
    HandleTransfers ε before (keep wrap x : HandleM ε Unit) (fun _ => 0)
      0 := by
  refine Transfers.bind h.attempt fun result => ?_
  cases result with
  | ok self => exact withValue_transfers (wrap self)
  | error error => exact Transfers.pure rfl

theorem consume_transfers {index : Nat}
    {body : HandleValue → Option (HandleM ε Unit)}
    (h : ∀ value run, body value = some run →
      HandleTransfers ε value.owned run (fun _ => 0) 0) :
    HandleTransfers ε 0 (consume index body) (fun _ => 0) 0 := by
  intro state rest hheld
  rw [zero_add] at hheld
  rw [consume, EStateM.run_bind]
  cases hbody : state.values[index]?.bind body with
  | none =>
      simp only [EStateM.run_get, hbody]
      change HandleState.Held state (0 + rest)
      rwa [zero_add]
  | some run =>
      obtain ⟨value, hvalue, hrun⟩ := Option.bind_eq_some_iff.mp hbody
      have hmoved := hheld.withoutValue hvalue
      simp only [EStateM.run_get, hbody]
      exact h value run hrun (state.withoutValue index) rest hmoved

namespace ObjectHandle

theorem drop_transfers (self : ObjectHandle) :
    HandleTransfers ε (ownedObject self.raw + before) self.drop
      (fun _ => before) lost := by
  by_cases hraw : self.raw = 0
  · rw [drop, isNull, hraw]
    exact Transfers.pure (zero_add before)
  · have hnull : (!self.isNull) = true := by simp [isNull, hraw]
    rw [drop, if_pos hnull, ownedObject_of_ne hraw]
    exact teeCall_release rfl

theorem forget_transfers (self : ObjectHandle) :
    HandleTransfers ε before self.forget (fun _ => before) lost := by
  exact (drop_transfers ⟨0⟩).of_eq (zero_add before).symm

theorem drop_open_transfers (self : OpenHandle) :
    HandleTransfers ε ({.object self.val.raw} + before) self.val.drop
      (fun _ => before) lost := by
  rw [← ownedObject_of_ne self.property]
  exact drop_transfers self.val

theorem fromRaw_transfers (raw : Nat) :
    HandleTransfers Error (ownedObject raw + lost)
      (Fallible.ofExcept (fromRaw raw))
      (fun self => {.object self.val.raw} + lost) lost := by
  by_cases hraw : raw = 0
  · rw [fromRaw, dif_pos hraw, hraw, ownedObject_zero, zero_add]
    exact Transfers.fail _
  · rw [fromRaw, dif_neg hraw, ownedObject_of_ne hraw]
    exact Transfers.pure rfl

theorem receive_transfers {call : Option Nat → HandleCall}
    (passed : List HandleResource)
    (hcall : ∀ granted, (call granted).events =
      passed.map .use ++ grantedEvents .object granted)
    (hpassed : ∀ resource ∈ passed, resource ∈ before)
    (reply : ObjectReply) :
    HandleTransfers Error before (receive call reply)
      (fun self => {.object self.val.raw} + before) before := by
  have hgrant : HandleTransfers Error before
      (teeGrant call reply.code reply.supply)
      (fun result => (if result.1 = teeSuccess then ownedObject result.2
        else 0) + before) before := by
    refine teeGrant_transfers passed hcall hpassed ?_ ?_ ?_
    · intro raw hraw
      simp [ownedObject_of_ne hraw]
    · simp
    · intro code hcode
      simp [hcode]
  exact hgrant.bind fun result =>
    (ite_error_transfers _).bind fun _ => fromRaw_transfers result.2

end ObjectHandle

namespace PersistentObject

theorem open_transfers (reply : ObjectReply) :
    HandleTransfers Error 0 (PersistentObject.open reply)
      (fun self => {.object self.handle.val.raw}) 0 := by
  refine Transfers.bind (ObjectHandle.receive_transfers []
    (fun _ => rfl) (by simp) reply) fun handle => ?_
  exact Transfers.pure (add_zero _)

theorem create_transfers (attributes : Option OpenHandle)
    (reply : ObjectReply) :
    HandleTransfers Error
      (attributes.elim 0 fun handle => {.object handle.val.raw})
      (create attributes reply)
      (fun self => {.object self.handle.val.raw}) 0 := by
  -- The attributes are released once the TEE has returned, on every path.
  cases attributes with
  | none =>
      refine Transfers.bind (ObjectHandle.receive_transfers []
        (fun _ => rfl) (by simp) reply).attempt fun result => ?_
      cases result with
      | ok handle => exact Transfers.pure (add_zero _)
      | error error => exact Transfers.fail error
  | some attributes =>
      have hpassed : ∀ granted, (HandleCall.createPersistentObject
          attributes.val.raw granted).events =
            [HandleResource.object attributes.val.raw].map .use ++
              grantedEvents .object granted := by
        intro granted
        simp [HandleCall.events, passedObject, attributes.property]
      have hmem : ∀ resource ∈ [HandleResource.object attributes.val.raw],
          resource ∈ ({.object attributes.val.raw} :
            Multiset HandleResource) := by
        simp
      refine Transfers.bind (ObjectHandle.receive_transfers _ hpassed hmem
        reply).attempt fun result => ?_
      cases result with
      | ok handle =>
          refine Transfers.bind ((ObjectHandle.drop_open_transfers
            attributes).of_eq (add_comm _ _)) fun _ => ?_
          exact Transfers.pure rfl
      | error error =>
          refine Transfers.bind ((ObjectHandle.drop_open_transfers
            attributes).of_eq (add_zero _).symm) fun _ => ?_
          exact Transfers.fail error

theorem closeAndDelete_transfers (self : PersistentObject)
    (code : TeeResult) :
    HandleTransfers Error {.object self.handle.val.raw}
      (self.closeAndDelete code) (fun _ => 0) 0 := by
  refine Transfers.bind ((teeCall_release rfl).of_eq (add_zero _).symm)
    fun _ => ?_
  exact self.handle.val.forget_transfers.bind fun _ =>
    Transfers.ofExcept (teeCheck code)

end PersistentObject

theorem TransientObject.allocate_transfers (reply : ObjectReply) :
    HandleTransfers Error 0 (TransientObject.allocate reply)
      (fun self => ownedObject self.handle.raw) 0 := by
  refine Transfers.bind (ObjectHandle.receive_transfers []
    (fun _ => rfl) (by simp) reply) fun handle => ?_
  exact Transfers.pure
    ((add_zero _).trans (ownedObject_of_ne handle.property).symm)

namespace ObjectEnumHandle

theorem allocate_transfers (box : Ledger.Supply HandleResource.cell)
    (code : TeeResult) (supply : Ledger.Supply HandleResource.enumerator) :
    HandleTransfers Error 0 (allocate box code supply)
      (fun self => {.enumerator self.handle} + {.cell self.raw}) 0 := by
  -- A refused enumerator takes its box with it.
  refine (boxIntoRaw_transfers box).bind fun raw => ?_
  have hgrant : HandleTransfers Error {.cell raw}
      (teeGrant .allocatePersistentObjectEnumerator code (some supply))
      (fun result => (if result.1 = teeSuccess then {.enumerator result.2}
        else 0) + {.cell raw}) 0 := by
    refine teeGrant_transfers [] (fun _ => rfl) (by simp) ?_ ?_ ?_
    · simp
    · simp
    · intro code hcode
      simp [hcode]
  refine hgrant.bind fun result => ?_
  by_cases hcode : result.1 = teeSuccess
  · simp only [hcode, if_true]
    exact Transfers.pure rfl
  · simp only [hcode, if_false, zero_add]
    refine Transfers.bind ((teeCall_release rfl).of_eq (add_zero _).symm)
      fun _ => ?_
    exact Transfers.fail _

theorem drop_transfers (self : ObjectEnumHandle) :
    HandleTransfers ε ({.enumerator self.handle} + {.cell self.raw}) self.drop
      (fun _ => 0) lost := by
  refine Transfers.bind (teeCall_release rfl) fun _ => ?_
  exact (teeCall_release rfl).of_eq (add_zero _).symm

end ObjectEnumHandle

namespace TaSession

theorem drop_transfers (self : TaSession) :
    HandleTransfers ε {.session self.raw} self.drop (fun _ => 0) lost :=
  (teeCall_release rfl).of_eq (add_zero _).symm

theorem build_transfers (code : TeeResult) (errOrigin : UInt32)
    (supply : Ledger.Supply HandleResource.session)
    (updated : Except Error Unit) :
    HandleTransfers Error 0 (build code errOrigin supply updated)
      (fun self => {.session self.raw}) 0 := by
  -- A session that was opened is closed when the parameters do not update.
  have hgrant : HandleTransfers Error 0
      (teeGrant .openTASession code (some supply))
      (fun result => (if result.1 = teeSuccess then {.session result.2}
        else 0) + 0) 0 := by
    refine teeGrant_transfers [] (fun _ => rfl) (by simp) ?_ ?_ ?_
    · simp
    · simp
    · intro code hcode
      simp [hcode]
  refine hgrant.bind fun result => ?_
  refine (ite_error_transfers _).bind fun _ => ?_
  cases updated with
  | ok done => exact Transfers.pure (add_zero _)
  | error error =>
      refine Transfers.bind ((drop_transfers ⟨result.2⟩).of_eq (add_zero _))
        fun _ => ?_
      exact Transfers.fail error

end TaSession

theorem HandleValue.drop_transfers {value : HandleValue}
    (h : value.isExternal = false) :
    HandleTransfers ε value.owned value.drop (fun _ => 0) 0 := by
  cases value with
  | external raw => cases h
  | objectHandle self =>
      exact (ObjectHandle.drop_open_transfers self).of_eq (add_zero _).symm
  | persistentObject self =>
      exact (ObjectHandle.drop_open_transfers self.handle).of_eq
        (add_zero _).symm
  | transientObject self =>
      exact (ObjectHandle.drop_transfers self.handle).of_eq (add_zero _).symm
  | objectEnumHandle self => exact self.drop_transfers
  | taSession self => exact self.drop_transfers

/-! ## Whole programs -/

theorem use_transfers (indices : List Nat) :
    HandleTransfers Empty 0 (HandleStep.use indices).exec (fun _ => 0) 0 := by
  intro state rest h
  rw [zero_add] at h
  change HandleState.Held (state.withCall _) (0 + rest)
  rw [zero_add]
  refine h.use _ rfl fun resource hmem => ?_
  obtain ⟨value, hvalue, hpassed⟩ := List.mem_flatMap.mp hmem
  obtain ⟨index, -, hindex⟩ := List.mem_filterMap.mp hvalue
  exact Multiset.mem_add.mpr (Or.inl (Ledger.mem_holdings.mpr
    ⟨value, List.mem_of_getElem? hindex, value.passed_owned hpassed⟩))

theorem external_transfers (reply : ObjectReply) :
    HandleTransfers Empty 0 (HandleStep.external reply).exec
      (fun _ => 0) 0 := by
  have hgrant : HandleTransfers Empty 0
      (teeGrant .openPersistentObject reply.code reply.supply)
      (fun result => ownedObject result.2) 0 := by
    refine teeGrant_transfers [] (fun _ => rfl) (by simp) ?_ ?_ ?_
    · intro raw hraw
      exact ownedObject_of_ne hraw
    · exact fun _ => ownedObject_zero
    · exact fun _ _ => ownedObject_zero
  exact hgrant.bind fun result => withValue_transfers (.external result.2)

theorem HandleStep.exec_transfers (step : HandleStep) :
    HandleTransfers Empty 0 step.exec (fun _ => 0) 0 := by
  cases step with
  | external reply => exact external_transfers reply
  | closeExternal index =>
      refine consume_transfers fun value run hrun => ?_
      cases value with
      | external raw =>
          obtain rfl := Option.some.inj hrun
          exact (ObjectHandle.drop_transfers ⟨raw⟩).of_eq (add_zero _).symm
      | _ => cases hrun
  | fromRaw index =>
      refine consume_transfers fun value run hrun => ?_
      cases value with
      | external raw =>
          obtain rfl := Option.some.inj hrun
          by_cases hraw : raw = 0
          · rw [ObjectHandle.fromRaw, dif_pos hraw]
            exact withValue_transfers (.external raw)
          · rw [ObjectHandle.fromRaw, dif_neg hraw]
            exact (withValue_transfers (.objectHandle ⟨⟨raw⟩, hraw⟩)).of_eq
              (ownedObject_of_ne hraw)
      | _ => cases hrun
  | forget index =>
      refine consume_transfers fun value run hrun => ?_
      cases value with
      | objectHandle self =>
          obtain rfl := Option.some.inj hrun
          refine self.val.forget_transfers.bind fun _ => ?_
          exact (withValue_transfers (.external self.val.raw)).of_eq
            (ownedObject_of_ne self.property).symm
      | _ => cases hrun
  | openObject reply =>
      exact keep_transfers (PersistentObject.open_transfers reply)
  | create attributes reply =>
      cases attributes with
      | none =>
          exact keep_transfers (PersistentObject.create_transfers none reply)
      | some index =>
          refine consume_transfers fun value run hrun => ?_
          cases value with
          | objectHandle self =>
              obtain rfl := Option.some.inj hrun
              exact keep_transfers
                (PersistentObject.create_transfers (some self) reply)
          | _ => cases hrun
  | closeAndDelete index code =>
      refine consume_transfers fun value run hrun => ?_
      cases value with
      | persistentObject self =>
          obtain rfl := Option.some.inj hrun
          refine (self.closeAndDelete_transfers code).attempt.bind
            fun result => ?_
          cases result <;> exact Transfers.pure rfl
      | _ => cases hrun
  | nullObject =>
      exact withValue_transfers (.transientObject TransientObject.nullObject)
  | allocateObject reply =>
      exact keep_transfers (TransientObject.allocate_transfers reply)
  | allocateEnumerator box code supply =>
      exact keep_transfers
        (ObjectEnumHandle.allocate_transfers box code supply)
  | build code errOrigin supply updated =>
      exact keep_transfers
        (TaSession.build_transfers code errOrigin supply updated)
  | use indices => exact use_transfers indices
  | drop index =>
      refine consume_transfers fun value run hrun => ?_
      cases hexternal : value.isExternal with
      | true => simp [hexternal] at hrun
      | false =>
          obtain rfl : value.drop = run := by simpa [hexternal] using hrun
          exact HandleValue.drop_transfers hexternal

end Triples

theorem runHandles_accounts (program : List HandleStep) :
    ∃ final, (runHandles program).run .initial = .ok () final ∧
      HandleAccounts final.events final.owned := by
  have hstart : HandleState.initial.Held (0 + 0) := Ledger.Accounts.nil
  have hheld := Transfers.forM program
    (fun step _ => step.exec_transfers) HandleState.initial 0 hstart
  rw [runHandles]
  cases hrun : (program.forM HandleStep.exec).run HandleState.initial with
  | ok done final =>
      rw [hrun] at hheld
      exact ⟨final, rfl, by simpa [HandleState.Held] using hheld⟩
  | error halt final =>
      rw [hrun] at hheld
      cases halt with
      | failed error => exact error.elim
      | killed => exact hheld.elim

theorem create_attributes_open {final : HandleState}
    (h : HandleAccounts final.events final.owned)
    {before after : List HandleCall} {attributes : Nat} {granted : Option Nat}
    (hlog : final.log =
      before ++ .createPersistentObject attributes granted :: after)
    (hraw : attributes ≠ 0) :
    (before.flatMap HandleCall.events).count (.acquire (.object attributes)) =
      (before.flatMap HandleCall.events).count
        (.release (.object attributes)) + 1 := by
  have hevents : final.events = before.flatMap HandleCall.events ++
      .use (.object attributes) :: (grantedEvents .object granted ++
        after.flatMap HandleCall.events) := by
    simp [HandleState.events, hlog, HandleCall.events, passedObject, hraw]
  rw [hevents] at h
  exact h.used_open

/--
In every program each handle that the TEE returned is given back exactly once,
unless a live value or the program itself still has it.  Nothing is given back
that is not open, and the attributes are open when `create` passes them.
-/
theorem handles_given_back_once (program : List HandleStep) :
    ∃ final, (runHandles program).run .initial = .ok () final ∧
      (∀ resource, final.events.count (.acquire resource) =
        final.events.count (.release resource) +
          final.owned.count resource) ∧
      (∀ before resource after,
        final.events = before ++ .release resource :: after →
          before.count (.acquire resource) =
            before.count (.release resource) + 1) ∧
      ∀ before attributes granted after,
        final.log =
            before ++ .createPersistentObject attributes granted :: after →
          attributes ≠ 0 →
            (before.flatMap HandleCall.events).count
                (.acquire (.object attributes)) =
              (before.flatMap HandleCall.events).count
                (.release (.object attributes)) + 1 := by
  obtain ⟨final, hrun, haccounts⟩ := runHandles_accounts program
  refine ⟨final, hrun, haccounts.balanced, ?_, ?_⟩
  · intro before resource after hevents
    rw [hevents] at haccounts
    exact haccounts.released_once
  · intro before attributes granted after hlog hraw
    exact create_attributes_open haccounts hlog hraw

end TrustZoneSdk.Utee
