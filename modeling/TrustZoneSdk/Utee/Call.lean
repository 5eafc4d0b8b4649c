import TrustZoneSdk.Utee.EntryPoint
import TrustZoneSdk.Utee.Slot

/-!
# A command and its four parameters

The command entry point decodes the four raw parameters and hands the wrappers
to the handler.  The wrappers share one memory, so that they behave as four
independent slots as long as no handler can write into the buffer of another
slot.
-/

namespace TrustZoneSdk.Utee

open TrustZoneSdk.Foundation

variable {width : PointerWidth}

structure CallState (width : PointerWidth) where
  raws : ParamIndex → RawParam width
  memory : Memory

def CallState.slot (state : CallState width) (i : ParamIndex) :
    SlotState width :=
  ⟨state.raws i, state.memory⟩

/--
A command handler.  What it computes between its calls, session context
included, is in how the next call depends on the answers so far.
-/
abbrev Handler := Dialogue (ParamIndex × SlotOp) SlotAnswer (Except Error Unit)

def serveCall (wrappers : ParamIndex → ParameterAny)
    (request : ParamIndex × SlotOp) (state : CallState width) :
    SlotAnswer × CallState width :=
  let reply := (wrappers request.1).serve request.2 (state.slot request.1)
  (reply.1, ⟨Function.update state.raws request.1 reply.2.raw,
    reply.2.memory⟩)

def invokeHandler (handler : Handler) (rawTypes : BitVec 32)
    (state : CallState width) : TeeResult × CallState width :=
  match ParametersAny.fromRaw rawTypes state.raws with
  | .error error => (error.rawCode, state)
  | .ok wrappers =>
      let outcome := handler.run (serveCall wrappers) state
      (resultCode outcome.result, outcome.state)

/-! ## Refused parameters -/

theorem fromRaw_null {raw : RawParam width} (direction : Direction)
    (hnull : raw.buffer = 0) :
    ParameterAny.fromRaw direction.memrefType.intoPrimitive raw =
      .error (Error.new .badParameters) := by
  cases direction with
  | input =>
      simp [ParameterAny.fromRaw, ParameterMemrefInput.fromRaw, memrefFromRaw,
        checkTypeIs, Direction.memrefType, ParamType.intoPrimitive, hnull,
        bind, Except.bind]
  | output =>
      simp [ParameterAny.fromRaw, ParameterMemrefOutput.fromRaw, memrefFromRaw,
        checkTypeIs, Direction.memrefType, ParamType.intoPrimitive, hnull,
        bind, Except.bind]
  | inout =>
      simp [ParameterAny.fromRaw, ParameterMemrefInout.fromRaw, memrefFromRaw,
        checkTypeIs, Direction.memrefType, ParamType.intoPrimitive, hnull,
        bind, Except.bind]

theorem memrefFromRaw_error {rawType : BitVec 32} {raw : RawParam width}
    {expected : ParamType} {wrapper : ParameterAny} {error : Error}
    (h : memrefFromRaw rawType raw expected wrapper = .error error) :
    error = Error.new .badParameters := by
  simp only [memrefFromRaw, checkTypeIs, bind, Except.bind] at h
  split_ifs at h <;> cases h <;> rfl

theorem fromRaw_error {rawType : BitVec 32} {raw : RawParam width}
    {error : Error} (h : ParameterAny.fromRaw rawType raw = .error error) :
    error = Error.new .badParameters := by
  simp only [ParameterAny.fromRaw] at h
  split_ifs at h with _ hinput hinout houtput
  · simp [ParameterValueInput.fromRaw, checkTypeIs, hinput, bind,
      Except.bind, pure, Except.pure] at h
  · simp [ParameterValueInout.fromRaw, checkTypeIs, hinout, bind,
      Except.bind, pure, Except.pure] at h
  · simp [ParameterValueOutput.fromRaw, checkTypeIs, houtput, bind,
      Except.bind, pure, Except.pure] at h
  · exact memrefFromRaw_error h
  · exact memrefFromRaw_error h
  · exact memrefFromRaw_error h

theorem fromRaw_refused {rawTypes : BitVec 32}
    {raws : ParamIndex → RawParam width} {i : ParamIndex} {error : Error}
    (h : ParameterAny.fromRaw (paramTypeGet rawTypes i) (raws i) =
      .error error) :
    ParametersAny.fromRaw rawTypes raws =
      .error (Error.new .badParameters) := by
  have hdecoded : ∀ j,
      ParameterAny.fromRaw (paramTypeGet rawTypes j) (raws j) =
          .error (Error.new .badParameters) ∨
        ∃ wrapper, ParameterAny.fromRaw (paramTypeGet rawTypes j) (raws j) =
          .ok wrapper := by
    intro j
    cases hj : ParameterAny.fromRaw (paramTypeGet rawTypes j) (raws j) with
    | error refused => exact .inl (by rw [fromRaw_error hj])
    | ok wrapper => exact .inr ⟨wrapper, rfl⟩
  rcases hdecoded .arg0 with h0 | ⟨p0, h0⟩
  · rw [ParametersAny.fromRaw, h0]
    rfl
  rcases hdecoded .arg1 with h1 | ⟨p1, h1⟩
  · rw [ParametersAny.fromRaw, h0, h1]
    rfl
  rcases hdecoded .arg2 with h2 | ⟨p2, h2⟩
  · rw [ParametersAny.fromRaw, h0, h1, h2]
    rfl
  rcases hdecoded .arg3 with h3 | ⟨p3, h3⟩
  · rw [ParametersAny.fromRaw, h0, h1, h2, h3]
    rfl
  cases i <;> simp_all

theorem parametersAny_fromRaw_ok {rawTypes : BitVec 32}
    {raws : ParamIndex → RawParam width} {wrappers : ParamIndex → ParameterAny}
    (h : ∀ i, ParameterAny.fromRaw (paramTypeGet rawTypes i) (raws i) =
      .ok (wrappers i)) :
    ParametersAny.fromRaw rawTypes raws = .ok wrappers := by
  simp only [ParametersAny.fromRaw, h, bind, Except.bind, pure, Except.pure,
    ArgIndex.tuple_eta]

/--
A null buffer in any slot, be its size zero, refuses the command before the
handler has run.
-/
theorem invokeHandler_null (handler : Handler) {rawTypes : BitVec 32}
    {state : CallState width} {i : ParamIndex} {direction : Direction}
    (htag : paramTypeGet rawTypes i = direction.memrefType.intoPrimitive)
    (hnull : (state.raws i).buffer = 0) :
    invokeHandler handler rawTypes state =
      ((Error.new .badParameters).rawCode, state) := by
  have hslot := fromRaw_null direction hnull
  rw [← htag] at hslot
  rw [invokeHandler, fromRaw_refused hslot]

/-! ## Four slots in one memory -/

/-- What a call can write in one slot is in no other slot's buffer. -/
def Apart (addresses : ParamIndex → Nat) (slots : ParamIndex → Slot) : Prop :=
  ∀ i j, i ≠ j → ∀ target, addresses i ≤ target →
    target < addresses i + (slots i).writable →
      target < addresses j ∨ addresses j + (slots j).extent ≤ target

/-- The parameters hold four slots, which decode and do not interfere. -/
structure Presents (rawTypes : BitVec 32) (state : CallState width)
    (addresses : ParamIndex → Nat) (slots : ParamIndex → Slot) : Prop where
  tags : ∀ i, paramTypeGet rawTypes i = (slots i).paramType.intoPrimitive
  held : ∀ i, (slots i).Held (addresses i) (state.slot i)
  delivered : ∀ i, (slots i).Delivered (addresses i)
  apart : Apart addresses slots

theorem Slot.Held.frame {address : Nat} {state : SlotState width} {slot : Slot}
    (h : slot.Held address state) {memory : Memory}
    (hbytes : readBytes memory.bytes address slot.extent =
      readBytes state.memory.bytes address slot.extent) :
    slot.Held address ⟨state.raw, memory⟩ := by
  cases slot with
  | none => exact h
  | value direction a b => exact h
  | memref direction contents reported =>
      exact ⟨h.buffer, h.size, h.reported_le, h.representable, h.whole,
        hbytes.trans h.bytes⟩

structure TracksAll (addresses : ParamIndex → Nat) (start : ParamIndex → Slot)
    (state : CallState width) (slots : ParamIndex → Slot) : Prop where
  held : ∀ i, (slots i).Held (addresses i) (state.slot i)
  shape : ∀ i, (slots i).SameShape (start i)

theorem TracksAll.serve {addresses : ParamIndex → Nat}
    {start slots : ParamIndex → Slot}
    {state : CallState width} (hapart : Apart addresses start)
    (h : TracksAll addresses start state slots)
    (request : ParamIndex × SlotOp) :
    (serveCall (fun i => (start i).wrapper) request state).1 =
        (serveAt Slot.serve request slots).1 ∧
      TracksAll addresses start
        (serveCall (fun i => (start i).wrapper) request state).2
        (serveAt Slot.serve request slots).2 := by
  obtain ⟨i, op⟩ := request
  have hstep := (slots i).serve_simulated (h.held i) op
  rw [(h.shape i).wrapper] at hstep
  refine ⟨hstep.answer, fun j => ?_, fun j => ?_⟩
  · by_cases hj : j = i
    · subst hj
      simpa [serveCall, serveAt, CallState.slot] using hstep.held
    · have hconfined := hstep.confined
      rw [(h.shape i).extent, (h.shape i).writable] at hconfined
      have hbytes := hconfined.readBytes_eq (hapart i j (Ne.symm hj))
      rw [← (h.shape j).extent] at hbytes
      simpa [serveCall, serveAt, CallState.slot, hj] using
        (h.held j).frame hbytes
  · by_cases hj : j = i
    · subst hj
      simpa [serveAt] using
        ((slots j).serve_effect op).sameShape.trans (h.shape j)
    · simpa [serveAt, hj] using h.shape j

/-! ## Decoding and running -/

section Runs

variable {rawTypes : BitVec 32} {state : CallState width}
  {addresses : ParamIndex → Nat} {slots : ParamIndex → Slot}

theorem Presents.fromRaw (h : Presents rawTypes state addresses slots) :
    ParametersAny.fromRaw rawTypes state.raws =
      .ok fun i => (slots i).wrapper := by
  refine parametersAny_fromRaw_ok fun i => ?_
  have hdecoded := Slot.fromRaw_eq_wrapper (h.held i) (h.delivered i)
  rw [← h.tags i] at hdecoded
  exact hdecoded

theorem Presents.run (h : Presents rawTypes state addresses slots)
    (handler : Handler) :
    (handler.run (serveCall fun i => (slots i).wrapper) state).transcript =
        (handler.run (serveAt Slot.serve) slots).transcript ∧
      (handler.run (serveCall fun i => (slots i).wrapper) state).result =
        (handler.run (serveAt Slot.serve) slots).result ∧
      TracksAll addresses slots
        (handler.run (serveCall fun i => (slots i).wrapper) state).state
        (handler.run (serveAt Slot.serve) slots).state :=
  handler.run_related (fun request _ _ htracks => htracks.serve h.apart request)
    ⟨h.held, fun i => .refl (slots i)⟩

end Runs

/-! ## What the handler leaves in each slot -/

section Finals

variable (handler : Handler) (slots : ParamIndex → Slot) (i : ParamIndex)

theorem final_latest {View : Type} {view : Slot → View}
    {part : SlotOp → Option View}
    (hview : ∀ op slot, view (slot.serve op).2 =
      (SlotOp.ifDone part (op, (slot.serve op).1)).getD (view slot)) :
    view ((handler.run (serveAt Slot.serve) slots).state i) =
      latest (SlotOp.ifDone part) (view (slots i))
        (entriesAt i (handler.run (serveAt Slot.serve) slots).transcript) := by
  rw [← foldl_getD_eq_latest]
  exact run_view_at hview handler slots i

theorem final_contents :
    ((handler.run (serveAt Slot.serve) slots).state i).contents =
      (entriesAt i (handler.run (serveAt Slot.serve) slots).transcript).foldl
        written (slots i).contents :=
  run_view_at (fun op slot => (slot.serve_effect op).contents_eq) handler
    slots i

end Finals

/-! ## What the raw parameters hold afterwards -/

namespace Presents

variable {rawTypes : BitVec 32} {state : CallState width}
  {addresses : ParamIndex → Nat} {slots : ParamIndex → Slot}

/-- The handler's run on the wrappers that decoding gives it. -/
abbrev outcome (slots : ParamIndex → Slot) (state : CallState width)
    (handler : Handler) :
    Outcome (ParamIndex × SlotOp) SlotAnswer (Except Error Unit)
      (CallState width) :=
  handler.run (serveCall fun i => (slots i).wrapper) state

theorem final_value (h : Presents rawTypes state addresses slots)
    (handler : Handler) {i : ParamIndex} {direction : Direction} {a b : BitVec 32}
    (hslot : slots i = .value direction a b) :
    ((outcome slots state handler).state.raws i).valueA =
        latest (SlotOp.ifDone SlotOp.storesA) a
          (entriesAt i (outcome slots state handler).transcript) ∧
      ((outcome slots state handler).state.raws i).valueB =
        latest (SlotOp.ifDone SlotOp.storesB) b
          (entriesAt i (outcome slots state handler).transcript) := by
  obtain ⟨htranscript, -, htracks⟩ := h.run handler
  have hshape := htracks.shape i
  rw [hslot] at hshape
  obtain ⟨a', b', hfinal⟩ := hshape.eq_value
  have hheld := htracks.held i
  have hvalueA := final_latest handler slots i
    fun op slot => (slot.serve_effect op).valueA_eq
  have hvalueB := final_latest handler slots i
    fun op slot => (slot.serve_effect op).valueB_eq
  rw [hfinal] at hheld hvalueA hvalueB
  rw [hslot] at hvalueA hvalueB
  rw [outcome, htranscript]
  exact ⟨hheld.1.trans hvalueA, hheld.2.trans hvalueB⟩

theorem final_memref (h : Presents rawTypes state addresses slots)
    (handler : Handler) {i : ParamIndex} {direction : Direction}
    {contents : List UInt8} {reported : Nat}
    (hslot : slots i = .memref direction contents reported) :
    ((outcome slots state handler).state.raws i).size =
        latest (SlotOp.ifDone SlotOp.reports) reported
          (entriesAt i (outcome slots state handler).transcript) ∧
      ((outcome slots state handler).state.raws i).size ≤ contents.length ∧
      readBytes (outcome slots state handler).state.memory.bytes
          (addresses i) contents.length =
        (entriesAt i (outcome slots state handler).transcript).foldl written
          contents := by
  obtain ⟨htranscript, -, htracks⟩ := h.run handler
  have hshape := htracks.shape i
  rw [hslot] at hshape
  obtain ⟨contents', reported', hfinal, hlength⟩ := hshape.eq_memref
  have hheld := htracks.held i
  have hreported := final_latest handler slots i
    fun op slot => (slot.serve_effect op).reported_eq
  have hcontents := final_contents handler slots i
  rw [hfinal] at hheld hreported hcontents
  rw [hslot] at hreported hcontents
  rw [outcome, htranscript]
  refine ⟨hheld.size.trans hreported, ?_, ?_⟩
  · rw [← hlength]
    exact hheld.size.trans_le hheld.reported_le
  · have hbytes := hheld.bytes
    rw [hlength] at hbytes
    exact hbytes.trans hcontents

theorem final_input (h : Presents rawTypes state addresses slots)
    (handler : Handler) {i : ParamIndex} {contents : List UInt8} {reported : Nat}
    (hslot : slots i = .memref .input contents reported) :
    readBytes (outcome slots state handler).state.memory.bytes (addresses i)
      contents.length = contents := by
  obtain ⟨-, -, htracks⟩ := h.run handler
  have hkept := (htracks.shape i).kept (by rw [hslot]; rfl)
  have hheld := htracks.held i
  rw [hkept, hslot] at hheld
  exact hheld.bytes

theorem invokeHandler_eq (h : Presents rawTypes state addresses slots)
    (handler : Handler) :
    invokeHandler handler rawTypes state =
      (resultCode (outcome slots state handler).result,
        (outcome slots state handler).state) := by
  rw [invokeHandler, h.fromRaw]

end Presents

end TrustZoneSdk.Utee
