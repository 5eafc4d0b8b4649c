import TrustZoneSdk.Utee.Call

/-!
# Calls between TAs

The calling TA describes its four parameters, turns them into the raw array
and the word of tags, and after the call takes over what the callee left in
the array.  The round trip is that of four slots: what the callee reads is
what the caller set, and what the caller finds afterwards is what the callee
stored last.
-/

namespace TrustZoneSdk.Utee

open TrustZoneSdk.Foundation

variable {width : PointerWidth}

/-! ## The caller's parameters -/

inductive ParamContent (width : PointerWidth) where
  | none
  | memrefInput (buffer : ByteSlice width)
  | memrefOutput (buffer : ByteSlice width) (written : Nat)
  | memrefInout (buffer : ByteSlice width) (written : Nat)
  | valueInput (a b : BitVec 32)
  | valueOutput (a b : BitVec 32)
  | valueInout (a b : BitVec 32)

/-- A slice index past the end, on which the caller panics. -/
structure RangePanic where
  index : Nat
  length : Nat
  deriving DecidableEq, Repr

namespace ParamContent

def leading (memory : Memory) (buffer : ByteSlice width) (written : Nat) :
    Except RangePanic (Option (List UInt8)) :=
  if written ≤ buffer.length then
    .ok (some ((readBytes memory.bytes buffer.address buffer.length).take
      written))
  else .error ⟨written, buffer.length⟩

def writtenSlice (memory : Memory) :
    ParamContent width → Except RangePanic (Option (List UInt8))
  | memrefOutput buffer written => leading memory buffer written
  | memrefInout buffer written => leading memory buffer written
  | _ => .ok .none

def outputValue : ParamContent width → Option (BitVec 32 × BitVec 32)
  | valueOutput a b => some (a, b)
  | valueInout a b => some (a, b)
  | _ => .none

def getType : ParamContent width → ParamType
  | none => .none
  | memrefInput _ => .memrefInput
  | memrefOutput _ _ => .memrefOutput
  | memrefInout _ _ => .memrefInout
  | valueInput _ _ => .valueInput
  | valueOutput _ _ => .valueOutput
  | valueInout _ _ => .valueInout

def getRawType (content : ParamContent width) : BitVec 32 :=
  content.getType.intoPrimitive

/-- `uninit` is what the union held where the value member leaves it be. -/
def asRaw (uninit : RawParam width) : ParamContent width → RawParam width
  | none => .ofMemref width 0 0
  | memrefInput buffer => .ofMemref width buffer.address buffer.length
  | memrefOutput buffer _ => .ofMemref width buffer.address buffer.length
  | memrefInout buffer _ => .ofMemref width buffer.address buffer.length
  | valueInput a b => uninit.ofValue a b
  | valueOutput a b => uninit.ofValue a b
  | valueInout a b => uninit.ofValue a b

def updateSizeFromRaw (raw : RawParam width) :
    ParamContent width → Except Error (ParamContent width)
  | memrefOutput buffer _ =>
      if raw.size > buffer.length then .error (Error.new .badParameters)
      else .ok (memrefOutput buffer raw.size)
  | memrefInout buffer _ =>
      if raw.size > buffer.length then .error (Error.new .badParameters)
      else .ok (memrefInout buffer raw.size)
  | _ => .error (Error.new .badFormat)

def updateValueFromRaw (raw : RawParam width) :
    ParamContent width → ParamContent width
  | valueInout _ _ => valueInout raw.valueA raw.valueB
  | valueOutput _ _ => valueOutput raw.valueA raw.valueB
  | content => content

def update (raw : RawParam width) (content : ParamContent width) :
    Except Error (ParamContent width) :=
  match content.getType with
  | .memrefOutput => content.updateSizeFromRaw raw
  | .memrefInout => content.updateSizeFromRaw raw
  | .valueOutput => .ok (content.updateValueFromRaw raw)
  | .valueInout => .ok (content.updateValueFromRaw raw)
  | _ => .ok content

end ParamContent

abbrev TeeParams (width : PointerWidth) := ParamIndex → ParamContent width

namespace TeeParams

def rawParamTypes (params : TeeParams width) : BitVec 32 :=
  ArgIndex.all.foldl
    (fun types i => types ||| (params i).getRawType <<< (i.toNat * 4)) 0

def asRaw (uninit : ParamIndex → RawParam width) (params : TeeParams width) :
    ParamIndex → RawParam width :=
  ArgIndex.tuple ((params .arg0).asRaw (uninit .arg0))
    ((params .arg1).asRaw (uninit .arg1))
    ((params .arg2).asRaw (uninit .arg2))
    ((params .arg3).asRaw (uninit .arg3))

def updateSlots (raws : ParamIndex → RawParam width) :
    List ParamIndex → TeeParams width → Except Error Unit × TeeParams width
  | [], params => (.ok (), params)
  | i :: rest, params =>
      match (params i).update (raws i) with
      | .ok content => updateSlots raws rest (Function.update params i content)
      -- An error ends the loop; the slots before it are updated already.
      | .error error => (.error error, params)

def updateFromRaw (raws : ParamIndex → RawParam width)
    (params : TeeParams width) : Except Error Unit × TeeParams width :=
  updateSlots raws ArgIndex.all params

end TeeParams

/-! ## The call -/

abbrev TeeInvoke (width : PointerWidth) :=
  (timeout commandId : UInt32) → (paramTypes : BitVec 32) →
    CallState width → (TeeResult × UInt32) × CallState width

def invokeCommandWithTimeout (teeInvoke : TeeInvoke width)
    (uninit : ParamIndex → RawParam width) (commandId : UInt32)
    (params : TeeParams width) (timeout : UInt32) (memory : Memory) :
    Except Error Unit × TeeParams width × Memory :=
  let rawParams := params.asRaw uninit
  let paramTypes := params.rawParamTypes
  let reply := teeInvoke timeout commandId paramTypes ⟨rawParams, memory⟩
  match teeCheckWithOrigin reply.1.1 reply.1.2 with
  | .error error => (.error error, params, reply.2.memory)
  | .ok () =>
      let (result, params) := params.updateFromRaw reply.2.raws
      (result, params, reply.2.memory)

/--
The TEE hands the tags and the parameters to the callee as they are, and what
the callee leaves in them back to the caller.
-/
def Forwards (teeInvoke : TeeInvoke width) (handlers : UInt32 → Handler) :
    Prop :=
  ∀ timeout commandId paramTypes state,
    (teeInvoke timeout commandId paramTypes state).1.1 =
        (invokeHandler (handlers commandId) paramTypes state).1 ∧
      (teeInvoke timeout commandId paramTypes state).2 =
        (invokeHandler (handlers commandId) paramTypes state).2

/-! ## The caller's slots -/

namespace ParamContent

def address : ParamContent width → Nat
  | memrefInput buffer => buffer.address
  | memrefOutput buffer _ => buffer.address
  | memrefInout buffer _ => buffer.address
  | _ => 0

def wholeBuffer (memory : Memory) (direction : Direction)
    (buffer : ByteSlice width) : Slot :=
  .memref direction (readBytes memory.bytes buffer.address buffer.length)
    buffer.length

def slot (memory : Memory) : ParamContent width → Slot
  | none => .none
  | memrefInput buffer => wholeBuffer memory .input buffer
  | memrefOutput buffer _ => wholeBuffer memory .output buffer
  | memrefInout buffer _ => wholeBuffer memory .inout buffer
  | valueInput a b => .value .input a b
  | valueOutput a b => .value .output a b
  | valueInout a b => .value .inout a b

theorem paramType_slot (memory : Memory) (content : ParamContent width) :
    (content.slot memory).paramType = content.getType := by
  cases content <;> rfl

theorem wholeBuffer_held (memory : Memory) (direction : Direction)
    (buffer : ByteSlice width) :
    (wholeBuffer memory direction buffer).Held buffer.address
      ⟨.ofMemref width buffer.address buffer.length, memory⟩ where
  buffer := RawParam.buffer_ofMemref buffer.address_lt _
  size := RawParam.size_ofMemref _ buffer.length_lt
  reported_le := by simp
  representable := by simpa using buffer.length_lt
  whole := by simp
  bytes := by simp

theorem slot_held (memory : Memory) (uninit : RawParam width)
    (content : ParamContent width) :
    (content.slot memory).Held content.address
      ⟨content.asRaw uninit, memory⟩ := by
  cases content with
  | none => trivial
  | memrefInput buffer => exact wholeBuffer_held memory .input buffer
  | memrefOutput buffer written =>
      exact wholeBuffer_held memory .output buffer
  | memrefInout buffer written => exact wholeBuffer_held memory .inout buffer
  | valueInput a b => simp [slot, Slot.Held, asRaw]
  | valueOutput a b => simp [slot, Slot.Held, asRaw]
  | valueInout a b => simp [slot, Slot.Held, asRaw]

theorem slot_delivered (memory : Memory) (content : ParamContent width) :
    (content.slot memory).Delivered content.address := by
  cases content with
  | memrefInput buffer => exact ⟨buffer.nonNull, by simp⟩
  | memrefOutput buffer written => exact ⟨buffer.nonNull, by simp⟩
  | memrefInout buffer written => exact ⟨buffer.nonNull, by simp⟩
  | _ => trivial

end ParamContent

namespace TeeParams

/-- The bytes of slot `i`'s buffer. -/
def Covers (params : TeeParams width) (i : ParamIndex) (target : Nat) : Prop :=
  match params i with
  | .memrefInput buffer | .memrefOutput buffer _ | .memrefInout buffer _ =>
      buffer.address ≤ target ∧ target < buffer.address + buffer.length
  | _ => False

/-- A mutably borrowed buffer overlaps no other buffer. -/
def Exclusive (params : TeeParams width) : Prop :=
  ∀ i j, i ≠ j →
    ((params i).getType = .memrefOutput ∨
      (params i).getType = .memrefInout) →
    ∀ target, params.Covers i target → ¬ params.Covers j target

theorem covers_of_extent {params : TeeParams width} {i : ParamIndex}
    (memory : Memory) {target : Nat} (hlow : (params i).address ≤ target)
    (hhigh : target <
      (params i).address + ((params i).slot memory).extent) :
    params.Covers i target := by
  unfold Covers
  cases hcontent : params i <;>
    simp only [hcontent, ParamContent.address, ParamContent.slot,
      ParamContent.wholeBuffer, Slot.extent, length_readBytes] at hlow hhigh
  case memrefInput => exact ⟨hlow, hhigh⟩
  case memrefOutput => exact ⟨hlow, hhigh⟩
  case memrefInout => exact ⟨hlow, hhigh⟩
  all_goals omega

theorem Exclusive.apart {params : TeeParams width} (h : params.Exclusive)
    (memory : Memory) :
    Apart (fun i => (params i).address)
      (fun i => (params i).slot memory) := by
  intro i j hij target hlow hhigh
  have hwritable : ((params i).slot memory).writable =
      if (params i).getType = .memrefOutput ∨
          (params i).getType = .memrefInout then
        ((params i).slot memory).extent else 0 := by
    cases params i <;> rfl
  dsimp only at hlow hhigh ⊢
  rw [hwritable] at hhigh
  split at hhigh
  case isTrue hmut =>
    by_contra hinside
    exact h i j hij hmut target (covers_of_extent memory hlow hhigh)
      (covers_of_extent memory (by omega) (by omega))
  case isFalse hmut => omega

theorem rawParamTypes_eq_packTags (params : TeeParams width) :
    params.rawParamTypes = packTags fun i => (params i).getRawType := by
  simp [rawParamTypes, packTags, ArgIndex.all, ArgIndex.toNat]

theorem paramTypeGet_rawParamTypes (params : TeeParams width) (i : ParamIndex) :
    paramTypeGet params.rawParamTypes i = (params i).getRawType := by
  rw [rawParamTypes_eq_packTags, paramTypeGet, tagAt_packTags]
  intro j
  cases params j <;>
    simp [ParamContent.getRawType, ParamContent.getType,
      ParamType.intoPrimitive]

theorem asRaw_apply (uninit : ParamIndex → RawParam width)
    (params : TeeParams width) (i : ParamIndex) :
    params.asRaw uninit i = (params i).asRaw (uninit i) :=
  congrFun (ArgIndex.tuple_eta fun j => (params j).asRaw (uninit j)) i

/-- The raw parameters present the caller's slots. -/
theorem Exclusive.presents {params : TeeParams width} (h : params.Exclusive)
    (uninit : ParamIndex → RawParam width) (memory : Memory) :
    Presents params.rawParamTypes ⟨params.asRaw uninit, memory⟩
      (fun i => (params i).address) (fun i => (params i).slot memory) where
  tags := by
    intro i
    rw [paramTypeGet_rawParamTypes, ParamContent.paramType_slot,
      ParamContent.getRawType]
  held := by
    intro i
    dsimp only [CallState.slot]
    rw [asRaw_apply]
    exact (params i).slot_held memory (uninit i)
  delivered := fun i => (params i).slot_delivered memory
  apart := h.apart memory

theorem updateSlots_ok {raws : ParamIndex → RawParam width}
    {after : TeeParams width} {slots : List ParamIndex} (hslots : slots.Nodup)
    {params : TeeParams width}
    (h : ∀ i ∈ slots, (params i).update (raws i) = .ok (after i)) :
    updateSlots raws slots params =
      (.ok (), fun i => if i ∈ slots then after i else params i) := by
  induction slots generalizing params with
  | nil => simp [updateSlots]
  | cons i rest ih =>
      obtain ⟨hfresh, hrest⟩ := List.nodup_cons.mp hslots
      have hothers : ∀ j ∈ rest,
          (Function.update params i (after i) j).update (raws j) =
            .ok (after j) := by
        intro j hj
        have hne : j ≠ i := fun heq => hfresh (heq ▸ hj)
        rw [Function.update_of_ne hne]
        exact h j (List.mem_cons_of_mem i hj)
      rw [updateSlots, h i List.mem_cons_self]
      dsimp only
      rw [ih hrest hothers]
      congr 1
      funext j
      by_cases hj : j = i
      · subst hj
        simp [hfresh]
      · simp [hj]

theorem updateFromRaw_ok {raws : ParamIndex → RawParam width}
    {params after : TeeParams width}
    (h : ∀ i, (params i).update (raws i) = .ok (after i)) :
    params.updateFromRaw raws = (.ok (), after) := by
  rw [updateFromRaw, updateSlots_ok ArgIndex.nodup_all fun i _ => h i]
  simp [ArgIndex.mem_all]

end TeeParams

/-! ## The round trip -/

namespace ParamContent

def after (entries : List (SlotOp × SlotAnswer)) :
    ParamContent width → ParamContent width
  | memrefOutput buffer _ =>
      memrefOutput buffer
        (latest (SlotOp.ifDone SlotOp.reports) buffer.length entries)
  | memrefInout buffer _ =>
      memrefInout buffer
        (latest (SlotOp.ifDone SlotOp.reports) buffer.length entries)
  | valueOutput a b =>
      valueOutput (latest (SlotOp.ifDone SlotOp.storesA) a entries)
        (latest (SlotOp.ifDone SlotOp.storesB) b entries)
  | valueInout a b =>
      valueInout (latest (SlotOp.ifDone SlotOp.storesA) a entries)
        (latest (SlotOp.ifDone SlotOp.storesB) b entries)
  | content => content

theorem update_memref {raw : RawParam width} {content : ParamContent width}
    {buffer : ByteSlice width} {written : Nat}
    {entries : List (SlotOp × SlotAnswer)}
    (hcontent : content = memrefOutput buffer written ∨
      content = memrefInout buffer written)
    (hsize : raw.size =
      latest (SlotOp.ifDone SlotOp.reports) buffer.length entries)
    (hle : raw.size ≤ buffer.length) :
    content.update raw = .ok (content.after entries) := by
  have hfits : ¬ raw.size > buffer.length := by omega
  rcases hcontent with rfl | rfl
  · simp only [update, getType, updateSizeFromRaw, after, hfits, if_false,
      ← hsize]
  · simp only [update, getType, updateSizeFromRaw, after, hfits, if_false,
      ← hsize]

end ParamContent

section RoundTrip

variable {params : TeeParams width}

abbrev calleeRun (params : TeeParams width) (uninit : ParamIndex → RawParam width)
    (memory : Memory) (handler : Handler) :=
  Presents.outcome (fun i => (params i).slot memory)
    ⟨params.asRaw uninit, memory⟩ handler

theorem TeeParams.Exclusive.buffer_final (h : params.Exclusive)
    (uninit : ParamIndex → RawParam width) (memory : Memory) (handler : Handler)
    {i : ParamIndex} {direction : Direction} {buffer : ByteSlice width}
    (hslot : (params i).slot memory =
      ParamContent.wholeBuffer memory direction buffer)
    (haddress : (params i).address = buffer.address) :
    ((calleeRun params uninit memory handler).state.raws i).size =
        latest (SlotOp.ifDone SlotOp.reports) buffer.length
          (entriesAt i (calleeRun params uninit memory handler).transcript) ∧
      ((calleeRun params uninit memory handler).state.raws i).size ≤
        buffer.length ∧
      readBytes (calleeRun params uninit memory handler).state.memory.bytes
          buffer.address buffer.length =
        (entriesAt i
          (calleeRun params uninit memory handler).transcript).foldl written
            (readBytes memory.bytes buffer.address buffer.length) := by
  have hfinal := (h.presents uninit memory).final_memref handler hslot
  rw [length_readBytes, haddress] at hfinal
  exact hfinal

theorem TeeParams.Exclusive.update_final (h : params.Exclusive)
    (uninit : ParamIndex → RawParam width) (memory : Memory) (handler : Handler)
    (i : ParamIndex) :
    (params i).update
        ((calleeRun params uninit memory handler).state.raws i) =
      .ok ((params i).after
        (entriesAt i (calleeRun params uninit memory handler).transcript)) := by
  have hvalue := fun direction a b
      (hslot : (params i).slot memory = .value direction a b) =>
    (h.presents uninit memory).final_value handler hslot
  cases hcontent : params i with
  | none => rfl
  | memrefInput buffer => rfl
  | memrefOutput buffer written =>
      have hslot : (params i).slot memory =
          ParamContent.wholeBuffer memory .output buffer := by
        rw [hcontent]
        rfl
      obtain ⟨hsize, hle, -⟩ := h.buffer_final uninit memory handler hslot
        (by rw [hcontent]; rfl)
      exact ParamContent.update_memref (.inl rfl) hsize hle
  | memrefInout buffer written =>
      have hslot : (params i).slot memory =
          ParamContent.wholeBuffer memory .inout buffer := by
        rw [hcontent]
        rfl
      obtain ⟨hsize, hle, -⟩ := h.buffer_final uninit memory handler hslot
        (by rw [hcontent]; rfl)
      exact ParamContent.update_memref (.inr rfl) hsize hle
  | valueInput a b => rfl
  | valueOutput a b =>
      obtain ⟨hvalueA, hvalueB⟩ := hvalue .output a b (by rw [hcontent]; rfl)
      simp only [ParamContent.update, ParamContent.getType,
        ParamContent.updateValueFromRaw, ParamContent.after, hvalueA, hvalueB]
  | valueInout a b =>
      obtain ⟨hvalueA, hvalueB⟩ := hvalue .inout a b (by rw [hcontent]; rfl)
      simp only [ParamContent.update, ParamContent.getType,
        ParamContent.updateValueFromRaw, ParamContent.after, hvalueA, hvalueB]

/-- What the caller finds in one slot after a call that succeeded. -/
def SlotReturned (memory memory' : Memory)
    (entries : List (SlotOp × SlotAnswer))
    (before after : ParamContent width) : Prop :=
  match before with
  | .valueOutput a b | .valueInout a b =>
      after.getType = before.getType ∧
      after.outputValue =
        some (latest (SlotOp.ifDone SlotOp.storesA) a entries,
          latest (SlotOp.ifDone SlotOp.storesB) b entries)
  | .memrefOutput buffer _ | .memrefInout buffer _ =>
      after.getType = before.getType ∧
      readBytes memory'.bytes buffer.address buffer.length =
        entries.foldl written
          (readBytes memory.bytes buffer.address buffer.length) ∧
      latest (SlotOp.ifDone SlotOp.reports) buffer.length entries ≤
        buffer.length ∧
      after.writtenSlice memory' =
        .ok (some ((readBytes memory'.bytes buffer.address
          buffer.length).take
            (latest (SlotOp.ifDone SlotOp.reports) buffer.length entries)))
  | .memrefInput buffer =>
      after = before ∧
      readBytes memory'.bytes buffer.address buffer.length =
        readBytes memory.bytes buffer.address buffer.length
  | .none | .valueInput _ _ => after = before

theorem ParamContent.writtenSlice_after {memory memory' : Memory}
    {buffer : ByteSlice width} {entries : List (SlotOp × SlotAnswer)}
    (hle : latest (SlotOp.ifDone SlotOp.reports) buffer.length entries ≤
      buffer.length)
    (hbytes : readBytes memory'.bytes buffer.address buffer.length =
      entries.foldl written
        (readBytes memory.bytes buffer.address buffer.length))
    {content : ParamContent width} {reported : Nat}
    (hcontent : content = memrefOutput buffer reported ∨
      content = memrefInout buffer reported) :
    SlotReturned memory memory' entries content (content.after entries) := by
  rcases hcontent with rfl | rfl
  · exact ⟨rfl, hbytes, hle, if_pos hle⟩
  · exact ⟨rfl, hbytes, hle, if_pos hle⟩

theorem TeeParams.Exclusive.slotReturned (h : params.Exclusive)
    (uninit : ParamIndex → RawParam width) (memory : Memory) (handler : Handler)
    (i : ParamIndex) :
    SlotReturned memory (calleeRun params uninit memory handler).state.memory
      (entriesAt i (calleeRun params uninit memory handler).transcript)
      (params i)
      ((params i).after
        (entriesAt i (calleeRun params uninit memory handler).transcript)) := by
  cases hcontent : params i with
  | none => rfl
  | memrefInput buffer =>
      have hslot : (params i).slot memory =
          ParamContent.wholeBuffer memory .input buffer := by
        rw [hcontent]
        rfl
      have hbytes := (h.presents uninit memory).final_input handler hslot
      rw [length_readBytes, hcontent] at hbytes
      exact ⟨rfl, hbytes⟩
  | memrefOutput buffer reported =>
      have hslot : (params i).slot memory =
          ParamContent.wholeBuffer memory .output buffer := by
        rw [hcontent]
        rfl
      obtain ⟨hsize, hle, hbytes⟩ := h.buffer_final uninit memory handler
        hslot (by rw [hcontent]; rfl)
      rw [hsize] at hle
      exact ParamContent.writtenSlice_after hle hbytes (.inl rfl)
  | memrefInout buffer reported =>
      have hslot : (params i).slot memory =
          ParamContent.wholeBuffer memory .inout buffer := by
        rw [hcontent]
        rfl
      obtain ⟨hsize, hle, hbytes⟩ := h.buffer_final uninit memory handler
        hslot (by rw [hcontent]; rfl)
      rw [hsize] at hle
      exact ParamContent.writtenSlice_after hle hbytes (.inr rfl)
  | valueInput a b => rfl
  | valueOutput a b => exact ⟨rfl, rfl⟩
  | valueInout a b => exact ⟨rfl, rfl⟩

structure CallReturned (params : TeeParams width) (memory : Memory)
    (handler : Handler)
    (outcome : Outcome (ParamIndex × SlotOp) SlotAnswer (Except Error Unit)
      (CallState width))
    (returned : Except Error Unit × TeeParams width × Memory) : Prop where
  answers : outcome.transcript =
    (handler.run (serveAt Slot.serve) fun i =>
      (params i).slot memory).transcript
  success : resultCode outcome.result = teeSuccess →
    returned.1 = .ok () ∧
      ∀ i, SlotReturned memory returned.2.2 (entriesAt i outcome.transcript)
        (params i) (returned.2.1 i)
  failure : resultCode outcome.result ≠ teeSuccess →
    (∃ origin, returned.1 =
      .error ((Error.fromRawError (resultCode outcome.result)).withOrigin
        origin)) ∧
      returned.2.1 = params

/--
Every call between TAs is a round trip of four slots, for any parameters and
any callee, over a TEE that forwards them.
-/
theorem inter_ta_call_round_trip (hexclusive : params.Exclusive)
    {teeInvoke : TeeInvoke width} {handlers : UInt32 → Handler}
    (hforwards : Forwards teeInvoke handlers)
    (uninit : ParamIndex → RawParam width) (memory : Memory)
    (commandId timeout : UInt32) :
    ∃ wrappers,
      ParametersAny.fromRaw params.rawParamTypes (params.asRaw uninit) =
        .ok wrappers ∧
      (∀ i, (wrappers i).paramType = (params i).getType) ∧
      CallReturned params memory (handlers commandId)
        ((handlers commandId).run (serveCall wrappers)
          ⟨params.asRaw uninit, memory⟩)
        (invokeCommandWithTimeout teeInvoke uninit commandId params timeout
          memory) := by
  have hpresents := hexclusive.presents uninit memory
  obtain ⟨hcode, hstate⟩ := hforwards timeout commandId params.rawParamTypes
    ⟨params.asRaw uninit, memory⟩
  rw [hpresents.invokeHandler_eq] at hcode hstate
  refine ⟨_, hpresents.fromRaw, ?_, ?_, ?_, ?_⟩
  · intro i
    rw [Slot.paramType_wrapper, ParamContent.paramType_slot]
  · exact (hpresents.run (handlers commandId)).1
  · intro hsuccess
    have hupdate := TeeParams.updateFromRaw_ok
      (hexclusive.update_final uninit memory (handlers commandId))
    simp only [invokeCommandWithTimeout, hcode, hstate, teeCheckWithOrigin,
      hsuccess, if_true, hupdate]
    exact ⟨trivial,
      hexclusive.slotReturned uninit memory (handlers commandId)⟩
  · intro hfailure
    simp only [invokeCommandWithTimeout, hcode, teeCheckWithOrigin, hfailure,
      if_false, and_true]
    exact ⟨_, rfl⟩

end RoundTrip

def copyingHandler : Handler :=
  .ask (.arg3, .readToVec) fun
    | .bytes bytes =>
        .ask (.arg1, .setOutput bytes) fun _ =>
          .ask (.arg0, .setB 7) fun _ => .finish (.ok ())
    | _ => .finish (.error (Error.new .badParameters))

def copyingParams : TeeParams .aarch64 :=
  ArgIndex.tuple (.valueInout 1 2)
    (.memrefOutput ⟨0x2000, 4, by decide, by decide, by decide⟩ 0)
    .none
    (.memrefInput ⟨0x3000, 2, by decide, by decide, by decide⟩)

theorem copyingParams_exclusive : copyingParams.Exclusive := by
  intro i j hij hmut target hi hj
  have honly : i = .arg1 := by
    cases i with
    | arg1 => rfl
    | _ => simp [copyingParams, ArgIndex.tuple, ParamContent.getType] at hmut
  subst honly
  cases j with
  | arg0 => exact hj
  | arg1 => exact hij rfl
  | arg2 => exact hj
  | arg3 =>
      have hlow : target < 0x2000 + 4 := hi.2
      have hhigh : 0x3000 ≤ target := hj.1
      omega

def forwarding (handlers : UInt32 → Handler) : TeeInvoke width :=
  fun _ commandId paramTypes state =>
    let reply := invokeHandler (handlers commandId) paramTypes state
    ((reply.1, ErrorOrigin.ta.toU32), reply.2)

theorem copyingHandler_round_trip :
    copyingParams.Exclusive ∧
      Forwards (forwarding fun _ => copyingHandler : TeeInvoke .aarch64)
        (fun _ => copyingHandler) ∧
      ∃ wrappers,
        ParametersAny.fromRaw copyingParams.rawParamTypes
          (copyingParams.asRaw fun _ => ⟨0⟩) = .ok wrappers ∧
        (∀ i, (wrappers i).paramType = (copyingParams i).getType) ∧
        CallReturned copyingParams ⟨fun _ => 9, []⟩ copyingHandler
          (copyingHandler.run (serveCall wrappers)
            ⟨copyingParams.asRaw fun _ => ⟨0⟩, ⟨fun _ => 9, []⟩⟩)
          (invokeCommandWithTimeout (forwarding fun _ => copyingHandler)
            (fun _ => ⟨0⟩) 0 copyingParams 0 ⟨fun _ => 9, []⟩) := by
  have hforwards : Forwards
      (forwarding fun _ => copyingHandler : TeeInvoke .aarch64)
      (fun _ => copyingHandler) := fun _ _ _ _ => ⟨rfl, rfl⟩
  exact ⟨copyingParams_exclusive, hforwards,
    inter_ta_call_round_trip copyingParams_exclusive hforwards (fun _ => ⟨0⟩)
      ⟨fun _ => 9, []⟩ 0 0⟩

end TrustZoneSdk.Utee
