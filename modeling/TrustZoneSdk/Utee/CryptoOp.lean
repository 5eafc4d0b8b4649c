import TrustZoneSdk.Foundation.Ledger
import TrustZoneSdk.Foundation.Fallible
import TrustZoneSdk.Utee.Error

/-!
# Handles of cryptographic operations

An `OperationHandle` is a raw pointer to a box that holds the handle of the
TEE.  Two resources hang on it: the box, from the allocator of the TA, and the
operation, from the TEE.  The ledger of a program follows both over any
sequence of `null`, `allocate`, uses and drops.
-/

namespace TrustZoneSdk.Utee

open TrustZoneSdk.Foundation

inductive OperationResource where
  | cell (address : Nat)
  | operation (handle : Nat)
  deriving DecidableEq, Repr

inductive OperationCall where
  | boxNew (address : Nat)
  | boxDrop (address : Nat)
  | allocateOperation (granted : Option Nat)
  | useOperations (handles : List Nat)
  | freeOperation (handle : Nat)
  deriving DecidableEq, Repr

def OperationCall.events :
    OperationCall → List (Ledger.Event OperationResource)
  | .boxNew address => [.acquire (.cell address)]
  | .boxDrop address => [.release (.cell address)]
  | .allocateOperation none => []
  | .allocateOperation (some handle) => [.acquire (.operation handle)]
  | .useOperations handles =>
      handles.map fun handle => .use (.operation handle)
  | .freeOperation handle => [.release (.operation handle)]

structure OperationHandle where
  raw : Nat
  deriving DecidableEq, Repr

structure OperationState where
  cells : Nat → Option Nat
  handles : List OperationHandle
  log : List OperationCall

namespace OperationState

def initial : OperationState := ⟨fun _ => none, [], []⟩

def events (state : OperationState) :
    List (Ledger.Event OperationResource) :=
  state.log.flatMap OperationCall.events

variable (state : OperationState)

def nextBox (box : Ledger.Supply OperationResource.cell) : Nat :=
  box.pick (Ledger.outstanding state.events)

def nextOperation
    (operation : Ledger.Supply OperationResource.operation) : Nat :=
  operation.pick (Ledger.outstanding state.events)

def withCall (call : OperationCall) : OperationState :=
  { state with log := state.log ++ [call] }

def withBox (raw value : Nat) : OperationState :=
  { state.withCall (.boxNew raw) with
    cells := Function.update state.cells raw (some value) }

def withoutBox (raw : Nat) : OperationState :=
  { state.withCall (.boxDrop raw) with
    cells := Function.update state.cells raw none }

def withOperation (raw handle : Nat) : OperationState :=
  { state.withCall (.allocateOperation (some handle)) with
    cells := Function.update state.cells raw (some handle) }

def withHandle (handle : OperationHandle) : OperationState :=
  { state with handles := state.handles ++ [handle] }

def withoutHandle (index : Nat) : OperationState :=
  { state with handles := state.handles.eraseIdx index }

end OperationState

abbrev OperationM (ε α : Type) := Fallible ε OperationState α

namespace OperationHandle

variable {ε : Type}

def boxIntoRaw (box : Ledger.Supply OperationResource.cell) (value : Nat) :
    OperationM ε Nat := do
  let raw := (← get).nextBox box
  modify fun state => state.withBox raw value
  return raw

def boxDrop (raw : Nat) : OperationM ε Unit :=
  -- `drop(Box::from_raw(raw))` does not look at the pointer first.
  modify fun state => state.withoutBox raw

def teeAllocateOperation (rawHandle : Nat) (code : TeeResult)
    (operation : Ledger.Supply OperationResource.operation) :
    OperationM ε TeeResult := do
  if code = teeSuccess then
    let handle := (← get).nextOperation operation
    modify fun state => state.withOperation rawHandle handle
  else
    modify fun state => state.withCall (.allocateOperation none)
  return code

def teeCall (call : OperationCall) : OperationM ε Unit :=
  modify fun state => state.withCall call

def handle (self : OperationHandle) : OperationM ε Nat := do
  match (← get).cells self.raw with
  | some handle => return handle
  | none => Fallible.kill

def null : OperationHandle := ⟨0⟩

def allocate (box : Ledger.Supply OperationResource.cell) (code : TeeResult)
    (operation : Ledger.Supply OperationResource.operation) :
    OperationM Error OperationHandle := do
  let rawHandle ← boxIntoRaw box 0
  let code ← teeAllocateOperation rawHandle code operation
  Fallible.ofExcept (teeCheck code)
  return ⟨rawHandle⟩

def drop (self : OperationHandle) : OperationM ε Unit := do
  if self.raw ≠ 0 then
    teeCall (.freeOperation (← self.handle))
  boxDrop self.raw

end OperationHandle

inductive OperationStep where
  | null
  | allocate (box : Ledger.Supply OperationResource.cell) (code : TeeResult)
      (operation : Ledger.Supply OperationResource.operation)
  | use (index : Nat)
  | copy (index source : Nat)
  | drop (index : Nat)

def OperationStep.exec : OperationStep → OperationM Empty Unit
  -- The program takes an `Err` as a value and goes on.
  | .null => modify fun state => state.withHandle OperationHandle.null
  | .allocate box code operation => do
      match ← Fallible.attempt (OperationHandle.allocate box code operation)
          with
      | .ok handle => modify fun state => state.withHandle handle
      | .error _ => return
  | .use index => do
      match (← get).handles[index]? with
      | some self =>
          OperationHandle.teeCall (.useOperations [← self.handle])
      | none => return
  | .copy index source => do
      let state ← get
      match state.handles[index]?, state.handles[source]? with
      | some self, some src =>
          OperationHandle.teeCall
            (.useOperations [← self.handle, ← src.handle])
      | _, _ => return
  | .drop index => do
      match (← get).handles[index]? with
      | some self =>
          self.drop
          modify fun state => state.withoutHandle index
      | none => return

def runOperations (program : List OperationStep) :
    OperationM Empty Unit :=
  program.forM OperationStep.exec

/-! ## What each function does -/

section Runs

variable {ε : Type} {state : OperationState} {self src : OperationHandle}
  {box : Ledger.Supply OperationResource.cell} {code : TeeResult}
  {operation : Ledger.Supply OperationResource.operation} {index source : Nat}

namespace OperationState

@[simp] theorem events_withCall (call : OperationCall) :
    (state.withCall call).events = state.events ++ call.events := by
  simp [events, withCall, List.flatMap_append]

@[simp] theorem events_withBox (raw value : Nat) :
    (state.withBox raw value).events =
      state.events ++ [.acquire (.cell raw)] :=
  events_withCall (.boxNew raw)

@[simp] theorem events_withoutBox (raw : Nat) :
    (state.withoutBox raw).events =
      state.events ++ [.release (.cell raw)] :=
  events_withCall (.boxDrop raw)

@[simp] theorem events_withOperation (raw handle : Nat) :
    (state.withOperation raw handle).events =
      state.events ++ [.acquire (.operation handle)] :=
  events_withCall (.allocateOperation (some handle))

@[simp] theorem events_withHandle :
    (state.withHandle self).events = state.events := rfl

@[simp] theorem events_withoutHandle :
    (state.withoutHandle index).events = state.events := rfl

end OperationState

namespace OperationHandle

theorem handle_run :
    (self.handle : OperationM ε Nat).run state =
      match state.cells self.raw with
      | some handle => .ok handle state
      | none => .error .killed state := by
  rw [handle, EStateM.run_bind]
  cases hcell : state.cells self.raw <;> simp [hcell]

theorem allocate_run_granted (hcode : code = teeSuccess) :
    (allocate box code operation).run state =
      .ok ⟨state.nextBox box⟩
        ((state.withBox (state.nextBox box) 0).withOperation
          (state.nextBox box)
          ((state.withBox (state.nextBox box) 0).nextOperation
            operation)) := by
  simp [allocate, boxIntoRaw, teeAllocateOperation, hcode, teeCheck]

theorem allocate_run_refused (hcode : code ≠ teeSuccess) :
    (allocate box code operation).run state =
      .error (.failed (Error.fromRawError code))
        ((state.withBox (state.nextBox box) 0).withCall
          (.allocateOperation none)) := by
  simp [allocate, boxIntoRaw, teeAllocateOperation, hcode, teeCheck]

theorem drop_run_null :
    (null.drop : OperationM ε Unit).run state =
      .ok () (state.withoutBox 0) := by
  simp [drop, null, boxDrop]

theorem drop_run_boxed {handle : Nat} (hraw : self.raw ≠ 0)
    (hcell : state.cells self.raw = some handle) :
    (self.drop : OperationM ε Unit).run state =
      .ok () ((state.withCall (.freeOperation handle)).withoutBox
        self.raw) := by
  simp [drop, boxDrop, teeCall, hraw, handle_run, hcell]

end OperationHandle

end Runs

/-! ## The account of the live values -/

def OperationHandle.owned (cells : Nat → Option Nat)
    (self : OperationHandle) : Multiset OperationResource :=
  match cells self.raw with
  | some handle => {.cell self.raw, .operation handle}
  | none => 0

def OperationState.owned (state : OperationState) :
    Multiset OperationResource :=
  Ledger.holdings (OperationHandle.owned state.cells) state.handles

abbrev OperationAccounts :
    List (Ledger.Event OperationResource) → Multiset OperationResource →
      Prop :=
  Ledger.Accounts fun _ => none

/--
What the live values own, with the `loose` resources that no value reaches, is
what the calls so far have left outstanding.
-/
structure OperationState.Held (state : OperationState)
    (loose : Multiset OperationResource) : Prop where
  accounts : OperationAccounts state.events (state.owned + loose)
  stored : ∀ self ∈ state.handles, self.raw ≠ 0 →
    ∃ handle, state.cells self.raw = some handle
  nullEmpty : state.cells 0 = none
  looseNonNull : OperationResource.cell 0 ∉ loose

namespace OperationState.Held

variable {state : OperationState} {loose : Multiset OperationResource}
  {raw handle index : Nat} {self : OperationHandle}

theorem initial : OperationState.initial.Held 0 where
  accounts := Ledger.Accounts.nil
  stored := by simp [OperationState.initial]
  nullEmpty := rfl
  looseNonNull := by simp

theorem owned_withHandle :
    (state.withHandle self).owned =
      self.owned state.cells + state.owned :=
  Ledger.holdings_concat self

theorem owned_withoutHandle (hself : state.handles[index]? = some self) :
    state.owned =
      self.owned state.cells + (state.withoutHandle index).owned :=
  Ledger.holdings_eraseIdx hself

theorem cell_mem_owned (hcell : state.cells self.raw = some handle) :
    OperationResource.cell self.raw ∈ self.owned state.cells := by
  simp [OperationHandle.owned, hcell]

theorem apart (h : state.Held loose) (hraw : raw ≠ 0)
    (hloose : OperationResource.cell raw ∈ loose)
    (hself : self ∈ state.handles) :
    self.raw ≠ raw := by
  rintro rfl
  obtain ⟨handle, hcell⟩ := h.stored self hself hraw
  have hheld : OperationResource.cell self.raw ∈ state.owned :=
    Ledger.mem_holdings.mpr ⟨self, hself, cell_mem_owned hcell⟩
  exact Multiset.disjoint_left.mp
    (Multiset.nodup_add.mp h.accounts.nodup).2.2 hheld hloose

theorem tail_nonNull {resource : OperationResource}
    (h : state.Held (resource ::ₘ loose)) :
    OperationResource.cell 0 ∉ loose :=
  fun hmem => h.looseNonNull (Multiset.mem_cons_of_mem hmem)

theorem of_update (h : state.Held loose) {next : OperationState}
    {content : Option Nat} {after : Multiset OperationResource}
    (hraw : raw ≠ 0) (hapart : ∀ self ∈ state.handles, self.raw ≠ raw)
    (hafter : OperationResource.cell 0 ∉ after)
    (hcells : next.cells = Function.update state.cells raw content)
    (hhandles : next.handles = state.handles)
    (haccounts : OperationAccounts next.events (state.owned + after)) :
    next.Held after := by
  have hsame : ∀ self ∈ state.handles,
      next.cells self.raw = state.cells self.raw := by
    intro self hself
    rw [hcells, Function.update_of_ne (hapart self hself)]
  refine ⟨?_, ?_, ?_, hafter⟩
  · have hheld : next.owned = state.owned := by
      rw [OperationState.owned, hhandles]
      exact Ledger.holdings_congr fun self hself => by
        rw [OperationHandle.owned, hsame self hself, OperationHandle.owned]
    rwa [hheld]
  · rw [hhandles]
    intro self hself hnull
    rw [hsame self hself]
    exact h.stored self hself hnull
  · rw [hcells, Function.update_of_ne hraw.symm, h.nullEmpty]

theorem withBox (h : state.Held loose)
    (box : Ledger.Supply OperationResource.cell) (value : Nat) :
    (state.withBox (state.nextBox box) value).Held
      (.cell (state.nextBox box) ::ₘ loose) := by
  have hnull : state.nextBox box ≠ 0 := box.nonNull _
  have hnew : OperationResource.cell (state.nextBox box) ∉
      state.owned + loose := by
    rw [← h.accounts.mem_outstanding]
    exact box.fresh _
  refine h.of_update hnull ?_ ?_ rfl rfl ?_
  · intro self hself heq
    obtain ⟨handle, hcell⟩ := h.stored self hself (heq ▸ hnull)
    refine hnew (Multiset.mem_add.mpr (Or.inl ?_))
    rw [← heq]
    exact Ledger.mem_holdings.mpr ⟨self, hself, cell_mem_owned hcell⟩
  · simp [hnull.symm, h.looseNonNull]
  · rw [OperationState.events_withBox, Multiset.add_cons]
    exact h.accounts.acquire hnew (by simp)

theorem withOperation (h : state.Held loose) (hraw : raw ≠ 0)
    (hloose : OperationResource.cell raw ∈ loose)
    (operation : Ledger.Supply OperationResource.operation) :
    (state.withOperation raw (state.nextOperation operation)).Held
      (.operation (state.nextOperation operation) ::ₘ loose) := by
  refine h.of_update hraw (fun self => h.apart hraw hloose)
    (by simp [h.looseNonNull]) rfl rfl ?_
  rw [OperationState.events_withOperation, Multiset.add_cons]
  refine h.accounts.acquire ?_ (by simp)
  rw [← h.accounts.mem_outstanding]
  exact operation.fresh _

theorem withoutBox (h : state.Held (.cell raw ::ₘ loose)) (hraw : raw ≠ 0) :
    (state.withoutBox raw).Held loose := by
  have hloose := Multiset.mem_cons_self (OperationResource.cell raw) loose
  refine h.of_update hraw (fun self => h.apart hraw hloose)
    h.tail_nonNull rfl rfl ?_
  rw [OperationState.events_withoutBox]
  refine Ledger.Accounts.release ?_ (by simp)
  rw [← Multiset.add_cons]
  exact h.accounts

theorem freeOperation (h : state.Held (.operation handle ::ₘ loose)) :
    (state.withCall (.freeOperation handle)).Held loose := by
  refine ⟨?_, h.stored, h.nullEmpty, h.tail_nonNull⟩
  rw [OperationState.events_withCall]
  refine Ledger.Accounts.release ?_ (by simp)
  rw [← Multiset.add_cons]
  exact h.accounts

theorem allocateRefused (h : state.Held loose) :
    (state.withCall (.allocateOperation none)).Held loose := by
  refine ⟨?_, h.stored, h.nullEmpty, h.looseNonNull⟩
  rw [OperationState.events_withCall, OperationCall.events, List.append_nil]
  exact h.accounts

theorem withHandle_null (h : state.Held loose) :
    (state.withHandle OperationHandle.null).Held loose := by
  refine ⟨?_, ?_, h.nullEmpty, h.looseNonNull⟩
  · have hnone : OperationHandle.null.owned state.cells = 0 := by
      simp [OperationHandle.owned, OperationHandle.null, h.nullEmpty]
    rw [owned_withHandle, hnone, zero_add]
    exact h.accounts
  · intro self hself hnull
    rcases List.mem_append.mp hself with hold | hnew
    · exact h.stored self hold hnull
    · simp [OperationHandle.null] at hnew
      simp [hnew] at hnull

theorem owned_add (hcell : state.cells self.raw = some handle) :
    self.owned state.cells + loose =
      .operation handle ::ₘ .cell self.raw ::ₘ loose := by
  simp only [OperationHandle.owned, hcell, Multiset.insert_eq_cons,
    Multiset.cons_add, Multiset.singleton_add]
  exact Multiset.cons_swap _ _ _

theorem withHandle (hcell : state.cells self.raw = some handle)
    (h : state.Held (.operation handle ::ₘ .cell self.raw ::ₘ loose)) :
    (state.withHandle self).Held loose := by
  refine ⟨?_, ?_, h.nullEmpty, fun hmem => h.looseNonNull (by simp [hmem])⟩
  · have haccounts := h.accounts
    rw [← owned_add hcell, ← add_assoc] at haccounts
    rwa [owned_withHandle, add_comm (self.owned state.cells)]
  · intro other hother hnull
    rcases List.mem_append.mp hother with hold | hnew
    · exact h.stored other hold hnull
    · obtain rfl := List.mem_singleton.mp hnew
      exact ⟨handle, hcell⟩

theorem withoutHandle (h : state.Held loose)
    (hself : state.handles[index]? = some self)
    (hcell : state.cells self.raw = some handle) :
    (state.withoutHandle index).Held
      (.operation handle ::ₘ .cell self.raw ::ₘ loose) := by
  have hraw : self.raw ≠ 0 := by
    intro hzero
    rw [hzero, h.nullEmpty] at hcell
    cases hcell
  refine ⟨?_, ?_, h.nullEmpty, ?_⟩
  · have haccounts := h.accounts
    rw [owned_withoutHandle hself, add_assoc, add_left_comm,
      owned_add hcell] at haccounts
    exact haccounts
  · intro other hother hnull
    exact h.stored other (List.mem_of_mem_eraseIdx hother) hnull
  · simp [hraw.symm, h.looseNonNull]

theorem null_not_owned (h : state.Held loose) :
    OperationResource.cell 0 ∉ state.owned + loose := by
  -- Nothing was ever allocated at null.
  intro hmem
  rcases Multiset.mem_add.mp hmem with hheld | hloose
  · obtain ⟨self, hself, howned⟩ := Ledger.mem_holdings.mp hheld
    rw [OperationHandle.owned] at howned
    split at howned
    · next handle hcell =>
        have hzero : 0 = self.raw := by simpa using howned
        rw [← hzero, h.nullEmpty] at hcell
        cases hcell
    · simp at howned
  · exact h.looseNonNull hloose

theorem useOperations (h : state.Held loose) {handles : List Nat}
    (hopen : ∀ handle ∈ handles, ∃ self ∈ state.handles,
      state.cells self.raw = some handle) :
    (state.withCall (.useOperations handles)).Held loose := by
  refine ⟨?_, h.stored, h.nullEmpty, h.looseNonNull⟩
  rw [OperationState.events_withCall]
  refine h.accounts.uses fun handle hhandle => ?_
  obtain ⟨self, hself, hcell⟩ := hopen handle hhandle
  refine Multiset.mem_add.mpr (Or.inl (Ledger.mem_holdings.mpr
    ⟨self, hself, ?_⟩))
  simp [OperationHandle.owned, hcell]

end OperationState.Held

/-! ## Programs -/

/-- The TEE grants the allocation; what is dropped is not a null handle. -/
def OperationStep.Sound (state : OperationState) : OperationStep → Prop
  | .allocate _ code _ => code = teeSuccess
  | .drop index => state.handles[index]? ≠ some OperationHandle.null
  | _ => True

def SoundRun : List OperationStep → OperationState → Prop
  | [], _ => True
  | step :: steps, state =>
      step.Sound state ∧ ∀ next, step.exec.run state = .ok () next →
        SoundRun steps next

namespace OperationStep

section Uses

variable (state : OperationState)

theorem exec_use (index : Nat) :
    ∃ handles, (∀ handle ∈ handles, ∃ self ∈ state.handles,
        state.cells self.raw = some handle) ∧
      (Run.state ((use index).exec.run state) = state ∨
        Run.state ((use index).exec.run state) =
          state.withCall (.useOperations handles)) := by
  rw [exec, EStateM.run_bind]
  cases hself : state.handles[index]? with
  | none => exact ⟨[], by simp, Or.inl (by simp [hself])⟩
  | some self =>
      cases hcell : state.cells self.raw with
      | none =>
          refine ⟨[], by simp, Or.inl ?_⟩
          simp [hself, OperationHandle.handle_run, hcell]
      | some handle =>
          refine ⟨[handle], ?_, Or.inr ?_⟩
          · simpa using ⟨self, List.mem_of_getElem? hself, hcell⟩
          · simp [hself, OperationHandle.handle_run, hcell,
              OperationHandle.teeCall]

theorem exec_copy (index source : Nat) :
    ∃ handles, (∀ handle ∈ handles, ∃ self ∈ state.handles,
        state.cells self.raw = some handle) ∧
      (Run.state ((copy index source).exec.run state) = state ∨
        Run.state ((copy index source).exec.run state) =
          state.withCall (.useOperations handles)) := by
  rw [exec, EStateM.run_bind]
  cases hself : state.handles[index]? with
  | none => exact ⟨[], by simp, Or.inl (by simp [hself])⟩
  | some self =>
      cases hsrc : state.handles[source]? with
      | none => exact ⟨[], by simp, Or.inl (by simp [hself, hsrc])⟩
      | some src =>
          cases hcell : state.cells self.raw with
          | none =>
              refine ⟨[], by simp, Or.inl ?_⟩
              simp [hself, hsrc, OperationHandle.handle_run, hcell]
          | some handle =>
              cases hfrom : state.cells src.raw with
              | none =>
                  refine ⟨[], by simp, Or.inl ?_⟩
                  simp [hself, hsrc, OperationHandle.handle_run, hcell, hfrom]
              | some other =>
                  refine ⟨[handle, other], ?_, Or.inr ?_⟩
                  · simpa using
                      ⟨⟨self, List.mem_of_getElem? hself, hcell⟩,
                        src, List.mem_of_getElem? hsrc, hfrom⟩
                  · simp [hself, hsrc, OperationHandle.handle_run, hcell,
                      hfrom, OperationHandle.teeCall]

end Uses

variable {state : OperationState} {loose : Multiset OperationResource}

theorem exec_drop_null {index : Nat}
    (hself : state.handles[index]? = some OperationHandle.null) :
    (drop index).exec.run state =
      .ok () ((state.withoutBox 0).withoutHandle index) := by
  rw [exec, EStateM.run_bind]
  simp [hself, OperationHandle.drop_run_null]

theorem exec_drop_boxed {index handle : Nat} {self : OperationHandle}
    (hself : state.handles[index]? = some self) (hraw : self.raw ≠ 0)
    (hcell : state.cells self.raw = some handle) :
    (drop index).exec.run state =
      .ok () (((state.withoutHandle index).withCall
        (.freeOperation handle)).withoutBox self.raw) := by
  rw [exec, EStateM.run_bind]
  simp only [EStateM.run_get, hself, EStateM.run_bind,
    OperationHandle.drop_run_boxed hraw hcell]
  rfl

theorem exec_allocate_refused
    {box : Ledger.Supply OperationResource.cell} {code : TeeResult}
    {operation : Ledger.Supply OperationResource.operation}
    (hcode : code ≠ teeSuccess) :
    (allocate box code operation).exec.run state =
      .ok () ((state.withBox (state.nextBox box) 0).withCall
        (.allocateOperation none)) := by
  rw [exec, EStateM.run_bind, Fallible.run_attempt,
    OperationHandle.allocate_run_refused hcode]
  rfl

theorem exec_allocate_granted
    {box : Ledger.Supply OperationResource.cell} {code : TeeResult}
    {operation : Ledger.Supply OperationResource.operation}
    (hcode : code = teeSuccess) :
    (allocate box code operation).exec.run state =
      .ok () (((state.withBox (state.nextBox box) 0).withOperation
        (state.nextBox box)
        ((state.withBox (state.nextBox box) 0).nextOperation
          operation)).withHandle ⟨state.nextBox box⟩) := by
  rw [exec, EStateM.run_bind, Fallible.run_attempt,
    OperationHandle.allocate_run_granted hcode]
  rfl

theorem exec_sound (step : OperationStep) (h : state.Held loose)
    (hsound : step.Sound state) :
    (Run.state (step.exec.run state)).Held loose := by
  cases step with
  | null => exact h.withHandle_null
  | allocate box code operation =>
      rw [exec_allocate_granted hsound]
      have hnull : state.nextBox box ≠ 0 := box.nonNull _
      have hboxed := (h.withBox box 0).withOperation hnull
        (Multiset.mem_cons_self _ loose) operation
      exact hboxed.withHandle (Function.update_self _ _ _)
  | use index =>
      obtain ⟨handles, hopen, hsame | hcall⟩ := exec_use state index
      · rwa [hsame]
      · rw [hcall]
        exact h.useOperations hopen
  | copy index source =>
      obtain ⟨handles, hopen, hsame | hcall⟩ := exec_copy state index source
      · rwa [hsame]
      · rw [hcall]
        exact h.useOperations hopen
  | drop index =>
      cases hself : state.handles[index]? with
      | none => simpa [exec, hself] using h
      | some self =>
          have hraw : self.raw ≠ 0 := by
            rintro hzero
            apply hsound
            rw [hself, OperationHandle.null, ← hzero]
          obtain ⟨handle, hcell⟩ :=
            h.stored self (List.mem_of_getElem? hself) hraw
          rw [exec_drop_boxed hself hraw hcell]
          exact ((h.withoutHandle hself hcell).freeOperation).withoutBox hraw

theorem exec_null_breaks {index : Nat} (h : state.Held loose)
    (hself : state.handles[index]? = some OperationHandle.null) :
    Ledger.replay (fun _ => none)
      (Run.state ((drop index).exec.run state)).events = none := by
  -- Dropping a null handle releases a box that was never allocated.
  rw [exec_drop_null hself]
  change Ledger.replay _ (state.withoutBox 0).events = none
  rw [OperationState.events_withoutBox]
  exact h.accounts.release_notMem h.null_not_owned

theorem exec_drop_dangling {index : Nat} {self : OperationHandle}
    (hself : state.handles[index]? = some self) (hraw : self.raw ≠ 0)
    (hcell : state.cells self.raw = none) :
    (drop index).exec.run state = .error .killed state := by
  simp [exec, hself, OperationHandle.drop, OperationHandle.handle_run, hraw,
    hcell]

theorem exec_events (step : OperationStep) (state : OperationState) :
    ∃ more, (Run.state (step.exec.run state)).events =
      state.events ++ more := by
  cases step with
  | null => exact ⟨[], (List.append_nil _).symm⟩
  | allocate box code operation =>
      by_cases hcode : code = teeSuccess
      · rw [exec_allocate_granted hcode]
        refine ⟨[.acquire (.cell (state.nextBox box)), .acquire (.operation
          ((state.withBox (state.nextBox box) 0).nextOperation
            operation))], ?_⟩
        simp
      · rw [exec_allocate_refused hcode]
        refine ⟨[.acquire (.cell (state.nextBox box))], ?_⟩
        simp [OperationCall.events]
  | use index =>
      obtain ⟨handles, -, hsame | hcall⟩ := exec_use state index
      · exact ⟨[], by rw [hsame, List.append_nil]⟩
      · exact ⟨_, by rw [hcall, OperationState.events_withCall]⟩
  | copy index source =>
      obtain ⟨handles, -, hsame | hcall⟩ := exec_copy state index source
      · exact ⟨[], by rw [hsame, List.append_nil]⟩
      · exact ⟨_, by rw [hcall, OperationState.events_withCall]⟩
  | drop index =>
      cases hself : state.handles[index]? with
      | none => exact ⟨[], by simp [exec, hself]⟩
      | some self =>
          by_cases hraw : self.raw = 0
          · obtain rfl : self = OperationHandle.null :=
              congrArg OperationHandle.mk hraw
            rw [exec_drop_null hself]
            exact ⟨[.release (.cell 0)], by simp⟩
          · cases hcell : state.cells self.raw with
            | none =>
                rw [exec_drop_dangling hself hraw hcell]
                exact ⟨[], by simp⟩
            | some handle =>
                rw [exec_drop_boxed hself hraw hcell]
                exact ⟨[.release (.operation handle),
                  .release (.cell self.raw)],
                  by simp [OperationCall.events]⟩

end OperationStep

section Programs

variable {state : OperationState} {loose : Multiset OperationResource}
  {steps : List OperationStep}

theorem runOperations_cons (step : OperationStep) :
    Run.state ((runOperations (step :: steps)).run state) =
      match step.exec.run state with
      | .ok () next => Run.state ((runOperations steps).run next)
      | .error _ next => next := by
  rw [runOperations, List.forM, EStateM.run_bind]
  cases step.exec.run state <;> rfl

theorem runOperations_sound (h : state.Held loose)
    (hsound : SoundRun steps state) :
    (Run.state ((runOperations steps).run state)).Held loose := by
  induction steps generalizing state with
  | nil => exact h
  | cons step steps ih =>
      have hstep := step.exec_sound h hsound.1
      rw [runOperations_cons]
      cases hrun : step.exec.run state with
      | error halt next =>
          rw [hrun] at hstep
          exact hstep
      | ok done next =>
          rw [hrun] at hstep
          exact ih hstep (hsound.2 next hrun)

theorem runOperations_broken
    (h : Ledger.replay (fun _ => none) state.events = none) :
    Ledger.replay (fun _ => none)
      (Run.state ((runOperations steps).run state)).events = none := by
  induction steps generalizing state with
  | nil => exact h
  | cons step steps ih =>
      have hbroken : Ledger.replay (fun _ => none)
          (Run.state (step.exec.run state)).events = none := by
        obtain ⟨more, hmore⟩ := step.exec_events state
        rw [hmore]
        exact Ledger.replay_append_none h
      rw [runOperations_cons]
      cases hrun : step.exec.run state with
      | error halt next =>
          rw [hrun] at hbroken
          exact hbroken
      | ok done next =>
          rw [hrun] at hbroken
          exact ih hbroken

theorem runOperations_unsound (h : state.Held loose)
    (hunsound : ¬ SoundRun steps state) :
    Ledger.replay (fun _ => none)
        (Run.state ((runOperations steps).run state)).events = none ∨
      ∃ extra, extra ≠ 0 ∧
        (Run.state ((runOperations steps).run state)).Held
          (extra + loose) := by
  -- An unsound step spoils the ledger for the rest of the run.
  induction steps generalizing state loose with
  | nil => exact absurd trivial hunsound
  | cons step steps ih =>
      by_cases hsound : step.Sound state
      · have hstep := step.exec_sound h hsound
        rw [runOperations_cons]
        cases hrun : step.exec.run state with
        | error halt next =>
            refine absurd ⟨hsound, fun other hother => ?_⟩ hunsound
            rw [hrun] at hother
            cases hother
        | ok done next =>
            rw [hrun] at hstep
            refine ih hstep fun hrest => hunsound ⟨hsound, ?_⟩
            intro other hother
            rw [hrun] at hother
            cases hother
            exact hrest
      · cases step with
        | null => exact absurd trivial hsound
        | use index => exact absurd trivial hsound
        | copy index source => exact absurd trivial hsound
        | allocate box code operation =>
            have hstep := (h.withBox box 0).allocateRefused
            rw [runOperations_cons,
              OperationStep.exec_allocate_refused hsound]
            by_cases hrest : SoundRun steps
                ((state.withBox (state.nextBox box) 0).withCall
                  (.allocateOperation none))
            · exact Or.inr ⟨{.cell (state.nextBox box)}, by simp,
                runOperations_sound hstep hrest⟩
            · rcases ih hstep hrest with hbroken | ⟨extra, hextra, hheld⟩
              · exact Or.inl hbroken
              · refine Or.inr
                  ⟨.cell (state.nextBox box) ::ₘ extra, by simp, ?_⟩
                rwa [Multiset.cons_add, ← Multiset.add_cons]
        | drop index =>
            have hself := not_not.mp hsound
            have hbroken := OperationStep.exec_null_breaks h hself
            rw [runOperations_cons]
            rw [OperationStep.exec_drop_null hself] at hbroken ⊢
            exact Or.inl (runOperations_broken hbroken)

end Programs

/--
The ledger of a program is right, with every box and every operation released
exactly once or still owned by a live value, exactly when no allocation was
refused and no null handle was dropped.
-/
theorem operation_ledger_iff (program : List OperationStep) :
    OperationAccounts
        (Run.state ((runOperations program).run .initial)).events
        (Run.state ((runOperations program).run .initial)).owned ↔
      SoundRun program .initial := by
  constructor
  · intro haccounts
    by_contra hunsound
    rcases runOperations_unsound .initial hunsound with
      hbroken | ⟨extra, hextra, hheld⟩
    · obtain ⟨held, hreplay, -⟩ := haccounts
      rw [hbroken] at hreplay
      cases hreplay
    · have hsame := haccounts.unique hheld.accounts
      rw [add_zero] at hsame
      exact hextra (add_eq_left.mp hsame.symm)
  · intro hsound
    have hheld := runOperations_sound .initial hsound
    simpa using hheld.accounts

def OperationResource.number : OperationResource → Nat
  | .cell address => address
  | .operation handle => handle

def refusedAllocation : OperationStep :=
  .allocate (.next OperationResource.number fun _ => rfl)
    ErrorKind.outOfMemory.intoPrimitive
    (.next OperationResource.number fun _ => rfl)

/-- A box whose operation was refused, and a null handle that is dropped. -/
theorem refused_allocate_leaks_cell :
    (let final := Run.state ((runOperations [refusedAllocation]).run .initial)
     final.handles = [] ∧ final.events = [.acquire (.cell 1)] ∧
       ¬ OperationAccounts final.events final.owned) ∧
    (let final := Run.state ((runOperations [.null, .drop 0]).run .initial)
     final.handles = [] ∧ final.events = [.release (.cell 0)] ∧
       ¬ OperationAccounts final.events final.owned) := by
  refine ⟨⟨rfl, rfl, ?_⟩, ⟨rfl, rfl, ?_⟩⟩
  · rintro ⟨held, hreplay, howned⟩
    obtain rfl : {OperationResource.cell 1} = held := Option.some.inj hreplay
    exact absurd howned (by decide)
  · rintro ⟨held, hreplay, -⟩
    cases hreplay

end TrustZoneSdk.Utee
