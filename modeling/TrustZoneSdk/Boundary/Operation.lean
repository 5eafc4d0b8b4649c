import TrustZoneSdk.Teec.Operation
import TrustZoneSdk.Utee.Call

/-!
# From a client's operation to a TA and back

The client packs its parameters with one set of tags and unions, the TA unpacks
them with another, and the client reads the answer with a third table.  Over a
transport that delivers and copies back what each tag promises, the operation
is a round trip of four slots.
-/

namespace TrustZoneSdk.Boundary

open TrustZoneSdk.Foundation
open TrustZoneSdk.Utee

variable {clientWidth taWidth : PointerWidth}

/-! ## The transport -/

/--
The TA's copy of an operation.  Buffers, empty ones too, are mapped at non-null
addresses of the TA's own (`invokeHandler_null` is what happens otherwise); what
an output buffer holds there is left open.
-/
structure Delivered (operation : Teec.Operation clientWidth)
    (clientMemory : Memory) (rawTypes : BitVec 32)
    (state : CallState taWidth) : Prop where
  types : rawTypes = operation.paramTypes
  values : ∀ i a b, operation.payload i = .value a b →
    (state.raws i).valueA = a ∧ (state.raws i).valueB = b
  buffers : ∀ i buffer size, operation.payload i = .tmpRef buffer size →
    (state.raws i).buffer ≠ 0 ∧ (state.raws i).size = size
  bytes : ∀ i buffer size, operation.payload i = .tmpRef buffer size →
    tagAt operation.paramTypes i ≠ Teec.ParamType.memrefTempOutput.toU32 →
      readBytes state.memory.bytes (state.raws i).buffer size =
        readBytes clientMemory.bytes buffer size
  apart : ∀ i j buffer size buffer' size', i ≠ j →
    operation.payload i = .tmpRef buffer size →
    operation.payload j = .tmpRef buffer' size' →
    tagAt operation.paramTypes i ≠ Teec.ParamType.memrefTempInput.toU32 →
    ∀ target, (state.raws i).buffer ≤ target →
      target < (state.raws i).buffer + size →
        target < (state.raws j).buffer ∨
          (state.raws j).buffer + size' ≤ target

/--
What the client finds in the operation after the call: values and sizes have
come back in the directions that have them, and nothing else has changed.
-/
structure CopiedBack (operation : Teec.Operation clientWidth)
    (raws : ParamIndex → RawParam taWidth)
    (returned : Teec.Operation clientWidth) : Prop where
  kinds : returned.kinds = operation.kinds
  types : returned.paramTypes = operation.paramTypes
  values : ∀ i, tagAt operation.paramTypes i ∈
      [Teec.ParamType.valueOutput.toU32, Teec.ParamType.valueInout.toU32] →
    (returned.params i).valueA = (raws i).valueA ∧
      (returned.params i).valueB = (raws i).valueB
  sizes : ∀ i, tagAt operation.paramTypes i ∈
      [Teec.ParamType.memrefTempOutput.toU32,
        Teec.ParamType.memrefTempInout.toU32] →
    (returned.params i).buffer = (operation.params i).buffer ∧
      (returned.params i).size = (raws i).size
  inputs : ∀ i, tagAt operation.paramTypes i ∈
      [Teec.ParamType.none.toU32, Teec.ParamType.valueInput.toU32,
        Teec.ParamType.memrefTempInput.toU32] →
    returned.params i = operation.params i

/-! ## The client's slots -/

def seenAs : Teec.ParamType → ParamType
  | .none => .none
  | .valueInput => .valueInput
  | .valueOutput => .valueOutput
  | .valueInout => .valueInout
  | .memrefTempInput => .memrefInput
  | .memrefTempOutput => .memrefOutput
  | .memrefTempInout => .memrefInout
  | other => .unknown other.toU32

/-- A value that was not given the tag of one is no slot of the TA. -/
def clientSlot (clientMemory : Memory) (state : SlotState taWidth) :
    Teec.Built clientWidth → Slot
  | .none => .none
  | .value a b .valueInput => .value .input a b
  | .value a b .valueOutput => .value .output a b
  | .value a b .valueInout => .value .inout a b
  | .value _ _ _ => .none
  | .input buffer =>
      .memref .input
        (readBytes clientMemory.bytes buffer.address buffer.length)
        buffer.length
  | .output buffer =>
      .memref .output
        (readBytes state.memory.bytes state.raw.buffer buffer.length)
        buffer.length
  | .inout buffer =>
      .memref .inout
        (readBytes clientMemory.bytes buffer.address buffer.length)
        buffer.length

def ValuesTagged (built : ParamIndex → Teec.Built clientWidth) : Prop :=
  ∀ i a b paramType, built i = .value a b paramType →
    paramType.isValue = true

section Slots

variable {built : ParamIndex → Teec.Built clientWidth}
  {uninit : ParamIndex → Teec.RawParameter clientWidth} {started : UInt32}
  {clientMemory : Memory} {rawTypes : BitVec 32} {state : CallState taWidth}

theorem payload_ofBuilt (htagged : ValuesTagged built)
    (uninit : ParamIndex → Teec.RawParameter clientWidth) (started : UInt32)
    (i : ParamIndex) :
    (Teec.Operation.ofBuilt uninit started built).payload i =
      (built i).payload := by
  rw [Teec.Operation.payload, Teec.Operation.tagAt_ofBuilt]
  exact (Teec.payloadAt_toRaw_iff (uninit i) (built i)).mpr (htagged i)

theorem paramType_clientSlot (htagged : ValuesTagged built) (i : ParamIndex) :
    (clientSlot clientMemory (state.slot i) (built i)).paramType =
      seenAs (built i).param.paramType := by
  cases hbuilt : built i with
  | value a b paramType =>
      have hvalue := htagged i a b paramType hbuilt
      cases paramType <;> first | rfl | cases hvalue
  | _ => rfl

theorem intoPrimitive_seenAs (paramType : Teec.ParamType) :
    (seenAs paramType).intoPrimitive = paramType.toU32 := by
  cases paramType <;> rfl

theorem memref_held {address : Nat} {direction : Direction}
    {slot : SlotState taWidth} {contents : List UInt8} {length : Nat}
    (hbuffer : slot.raw.buffer = address) (hsize : slot.raw.size = length)
    (hlength : contents.length = length)
    (hbytes : readBytes slot.memory.bytes address length = contents) :
    (Slot.memref direction contents length).Held address slot where
  buffer := hbuffer
  size := hsize
  reported_le := hlength.ge
  representable := by
    rw [hlength, ← hsize]
    exact slot.raw.size_lt
  whole := fun _ => hlength.symm
  bytes := by
    rw [hlength]
    exact hbytes

variable (htagged : ValuesTagged built)
  (h : Delivered (Teec.Operation.ofBuilt uninit started built) clientMemory
    rawTypes state)

include htagged h

theorem Delivered.held (i : ParamIndex) :
    (clientSlot clientMemory (state.slot i) (built i)).Held
      (state.raws i).buffer (state.slot i) := by
  have hpayload := payload_ofBuilt htagged uninit started i
  have htag := Teec.Operation.tagAt_ofBuilt uninit started built i
  have hbytes := h.bytes i
  rw [htag] at hbytes
  cases hbuilt : built i with
  | none => trivial
  | value a b paramType =>
      rw [hbuilt] at hpayload
      have hvalue := h.values i a b hpayload
      cases paramType <;> first | exact hvalue | trivial
  | input buffer =>
      rw [hbuilt] at hpayload hbytes
      exact memref_held rfl (h.buffers i _ _ hpayload).2 (length_readBytes ..)
        (hbytes _ _ hpayload (by simp [Teec.Built.param, Teec.Param.paramType,
          Teec.ParamType.toU32]))
  | output buffer =>
      rw [hbuilt] at hpayload
      exact memref_held rfl (h.buffers i _ _ hpayload).2 (length_readBytes ..)
        rfl
  | inout buffer =>
      rw [hbuilt] at hpayload hbytes
      exact memref_held rfl (h.buffers i _ _ hpayload).2 (length_readBytes ..)
        (hbytes _ _ hpayload (by simp [Teec.Built.param, Teec.Param.paramType,
          Teec.ParamType.toU32]))

theorem Delivered.slot_delivered (i : ParamIndex) :
    (clientSlot clientMemory (state.slot i) (built i)).Delivered
      (state.raws i).buffer := by
  have hpayload := payload_ofBuilt htagged uninit started i
  cases hbuilt : built i with
  | none => trivial
  | value a b paramType => cases paramType <;> trivial
  | input buffer =>
      rw [hbuilt] at hpayload
      exact ⟨(h.buffers i _ _ hpayload).1, (length_readBytes ..).symm⟩
  | output buffer =>
      rw [hbuilt] at hpayload
      exact ⟨(h.buffers i _ _ hpayload).1, (length_readBytes ..).symm⟩
  | inout buffer =>
      rw [hbuilt] at hpayload
      exact ⟨(h.buffers i _ _ hpayload).1, (length_readBytes ..).symm⟩

omit htagged h in
theorem payload_of_extent {slot : SlotState taWidth}
    {parameter : Teec.Built clientWidth}
    (hextent : (clientSlot clientMemory slot parameter).extent ≠ 0) :
    ∃ buffer, parameter.payload =
      .tmpRef buffer (clientSlot clientMemory slot parameter).extent := by
  cases parameter with
  | none => exact absurd rfl hextent
  | value a b paramType => cases paramType <;> exact absurd rfl hextent
  | input buffer =>
      exact ⟨buffer.address, by
        simp [Teec.Built.payload, clientSlot, Slot.extent]⟩
  | output buffer =>
      exact ⟨buffer.address, by
        simp [Teec.Built.payload, clientSlot, Slot.extent]⟩
  | inout buffer =>
      exact ⟨buffer.address, by
        simp [Teec.Built.payload, clientSlot, Slot.extent]⟩

omit htagged h in
theorem tag_of_writable {slot : SlotState taWidth}
    {parameter : Teec.Built clientWidth}
    (hwritable : (clientSlot clientMemory slot parameter).writable ≠ 0) :
    (clientSlot clientMemory slot parameter).writable =
        (clientSlot clientMemory slot parameter).extent ∧
      parameter.param.paramType.toU32 ≠
        Teec.ParamType.memrefTempInput.toU32 := by
  cases parameter with
  | none => exact absurd rfl hwritable
  | value a b paramType => cases paramType <;> exact absurd rfl hwritable
  | input buffer => exact absurd rfl hwritable
  | output buffer =>
      exact ⟨rfl, by simp [Teec.Built.param, Teec.Param.paramType,
        Teec.ParamType.toU32]⟩
  | inout buffer =>
      exact ⟨rfl, by simp [Teec.Built.param, Teec.Param.paramType,
        Teec.ParamType.toU32]⟩

theorem Delivered.slots_apart :
    Apart (fun i => (state.raws i).buffer)
      (fun i => clientSlot clientMemory (state.slot i) (built i)) := by
  intro i j hij target hlow hhigh
  dsimp only at hlow hhigh ⊢
  by_cases hextent :
      (clientSlot clientMemory (state.slot j) (built j)).extent = 0
  · omega
  · have hwritable :
        (clientSlot clientMemory (state.slot i) (built i)).writable ≠ 0 := by
      omega
    obtain ⟨hwhole, htag⟩ := tag_of_writable hwritable
    rw [hwhole] at hhigh hwritable
    obtain ⟨buffer, hpayload⟩ := payload_of_extent hwritable
    obtain ⟨buffer', hpayload'⟩ := payload_of_extent hextent
    rw [← payload_ofBuilt htagged uninit started] at hpayload hpayload'
    rw [← Teec.Operation.tagAt_ofBuilt uninit started] at htag
    exact h.apart i j _ _ _ _ hij hpayload hpayload' htag target hlow hhigh

theorem Delivered.presents :
    Presents rawTypes state (fun i => (state.raws i).buffer)
      (fun i => clientSlot clientMemory (state.slot i) (built i)) where
  tags := by
    intro i
    rw [paramType_clientSlot htagged, intoPrimitive_seenAs, h.types]
    exact Teec.Operation.tagAt_ofBuilt uninit started built i
  held := h.held htagged
  delivered := h.slot_delivered htagged
  apart := h.slots_apart htagged

end Slots

/-! ## The round trip -/

def ParameterReturned (entries : List (SlotOp × SlotAnswer))
    (before : Teec.Built clientWidth) (after : Teec.Param) : Prop :=
  match before with
  | .value a b .valueOutput | .value a b .valueInout =>
      after = .value (latest (SlotOp.ifDone SlotOp.storesA) a entries)
        (latest (SlotOp.ifDone SlotOp.storesB) b entries)
        before.param.paramType
  | .output buffer | .inout buffer =>
      after = .tmpRef buffer.address
          (latest (SlotOp.ifDone SlotOp.reports) buffer.length entries)
          before.param.paramType ∧
        latest (SlotOp.ifDone SlotOp.reports) buffer.length entries ≤
          buffer.length
  | .none | .value _ _ _ | .input _ => after = before.param

section RoundTrip

variable {built : ParamIndex → Teec.Built clientWidth}
  {uninit : ParamIndex → Teec.RawParameter clientWidth} {started : UInt32}
  {clientMemory : Memory} {rawTypes : BitVec 32} {state : CallState taWidth}

abbrev taRun (built : ParamIndex → Teec.Built clientWidth) (clientMemory : Memory)
    (state : CallState taWidth) (handler : Handler) :=
  Presents.outcome (fun i => clientSlot clientMemory (state.slot i) (built i))
    state handler

theorem CopiedBack.parameters_eq {raws : ParamIndex → RawParam taWidth}
    {returned : Teec.Operation clientWidth}
    (h : CopiedBack (Teec.Operation.ofBuilt uninit started built) raws
      returned) (i : ParamIndex) :
    returned.parameters i =
      .fromRaw (built i).param.kind (returned.params i)
        (built i).param.paramType := by
  have hkind : (Teec.Operation.ofBuilt uninit started built).kinds i =
      (built i).param.kind := rfl
  rw [Teec.Operation.parameters, h.kinds, h.types, hkind,
    Teec.ParamTypes.intoFlags_eq_tagAt, Teec.Operation.tagAt_ofBuilt,
    Teec.ParamType.ofU32_toU32]

variable (htagged : ValuesTagged built)
  (h : Delivered (Teec.Operation.ofBuilt uninit started built) clientMemory
    rawTypes state) (handler : Handler)
  {returned : Teec.Operation clientWidth}
  (hback : CopiedBack (Teec.Operation.ofBuilt uninit started built)
    (taRun built clientMemory state handler).state.raws returned)

include htagged h hback

theorem Delivered.value_returned (i : ParamIndex) (direction : Direction)
    (a b : BitVec 32)
    (htag : (built i).param.paramType.toU32 ∈
      [Teec.ParamType.valueOutput.toU32, Teec.ParamType.valueInout.toU32])
    (hslot : clientSlot clientMemory (state.slot i) (built i) =
      .value direction a b) :
    (returned.params i).valueA =
        latest (SlotOp.ifDone SlotOp.storesA) a (entriesAt i
          (taRun built clientMemory state handler).transcript) ∧
      (returned.params i).valueB =
        latest (SlotOp.ifDone SlotOp.storesB) b (entriesAt i
          (taRun built clientMemory state handler).transcript) := by
  rw [← Teec.Operation.tagAt_ofBuilt uninit started] at htag
  obtain ⟨hcopiedA, hcopiedB⟩ := hback.values i htag
  obtain ⟨hvalueA, hvalueB⟩ := (h.presents htagged).final_value handler hslot
  exact ⟨hcopiedA.trans hvalueA, hcopiedB.trans hvalueB⟩

theorem Delivered.buffer_returned (i : ParamIndex) (direction : Direction)
    {contents : List UInt8} (buffer : ByteSlice clientWidth)
    (htag : (built i).param.paramType.toU32 ∈
      [Teec.ParamType.memrefTempOutput.toU32,
        Teec.ParamType.memrefTempInout.toU32])
    (hparam : (built i).param =
      .tmpRef buffer.address buffer.length (built i).param.paramType)
    (hlength : contents.length = buffer.length)
    (hslot : clientSlot clientMemory (state.slot i) (built i) =
      .memref direction contents buffer.length) :
    (returned.params i).buffer = buffer.address ∧
      (returned.params i).size =
        latest (SlotOp.ifDone SlotOp.reports) buffer.length (entriesAt i
          (taRun built clientMemory state handler).transcript) ∧
      latest (SlotOp.ifDone SlotOp.reports) buffer.length (entriesAt i
          (taRun built clientMemory state handler).transcript) ≤
        buffer.length := by
  rw [← Teec.Operation.tagAt_ofBuilt uninit started] at htag
  obtain ⟨hcopied, hcopiedSize⟩ := hback.sizes i htag
  obtain ⟨hsize, hle, -⟩ := (h.presents htagged).final_memref handler hslot
  rw [hlength, hsize] at hle
  have haddress : ((Teec.Operation.ofBuilt uninit started built).params
      i).buffer = buffer.address := by
    have htoRaw := (Teec.toRaw_tmpRef (uninit i) buffer
      (built i).param.paramType).1
    rw [← hparam] at htoRaw
    exact htoRaw
  exact ⟨hcopied.trans haddress, hcopiedSize.trans hsize, hle⟩

theorem Delivered.parameterReturned (i : ParamIndex) :
    ParameterReturned
      (entriesAt i (taRun built clientMemory state handler).transcript)
      (built i) (returned.parameters i) := by
  rw [hback.parameters_eq]
  have htag := Teec.Operation.tagAt_ofBuilt uninit started built i
  have hinputs := hback.inputs i
  have hparams : (Teec.Operation.ofBuilt uninit started built).params i =
      (built i).param.toRaw (uninit i) := rfl
  rw [htag, hparams] at hinputs
  cases hbuilt : built i with
  | none => rfl
  | value a b paramType =>
      have hvalue := htagged i a b paramType hbuilt
      rw [hbuilt] at hinputs
      cases paramType with
      | valueInput =>
          rw [hinputs (by simp [Teec.Built.param, Teec.Param.paramType])]
          simp [ParameterReturned, Teec.Built.param, Teec.Param.kind,
            Teec.Param.paramType, Teec.Param.fromRaw, Teec.Param.toRaw]
      | valueOutput =>
          obtain ⟨hvalueA, hvalueB⟩ := h.value_returned htagged handler hback
            i .output a b
            (by simp [hbuilt, Teec.Built.param, Teec.Param.paramType])
            (by rw [hbuilt]; rfl)
          simp only [ParameterReturned, Teec.Built.param, Teec.Param.kind,
            Teec.Param.paramType, Teec.Param.fromRaw, hvalueA, hvalueB]
      | valueInout =>
          obtain ⟨hvalueA, hvalueB⟩ := h.value_returned htagged handler hback
            i .inout a b
            (by simp [hbuilt, Teec.Built.param, Teec.Param.paramType])
            (by rw [hbuilt]; rfl)
          simp only [ParameterReturned, Teec.Built.param, Teec.Param.kind,
            Teec.Param.paramType, Teec.Param.fromRaw, hvalueA, hvalueB]
      | _ => cases hvalue
  | input buffer =>
      rw [hbuilt] at hinputs
      obtain ⟨haddress, hsize⟩ :=
        Teec.toRaw_tmpRef (uninit i) buffer .memrefTempInput
      rw [hinputs (by simp [Teec.Built.param, Teec.Param.paramType])]
      simp only [ParameterReturned, Teec.Built.param, Teec.Param.kind,
        Teec.Param.paramType, Teec.Param.fromRaw, haddress, hsize]
  | output buffer =>
      obtain ⟨haddress, hsize, hle⟩ := h.buffer_returned htagged handler hback
        i .output buffer
        (by simp [hbuilt, Teec.Built.param, Teec.Param.paramType])
        (by rw [hbuilt]; rfl) (length_readBytes ..) (by rw [hbuilt]; rfl)
      refine ⟨?_, hle⟩
      simp only [Teec.Built.param, Teec.Param.kind, Teec.Param.paramType,
        Teec.Param.fromRaw, haddress, hsize]
  | inout buffer =>
      obtain ⟨haddress, hsize, hle⟩ := h.buffer_returned htagged handler hback
        i .inout buffer
        (by simp [hbuilt, Teec.Built.param, Teec.Param.paramType])
        (by rw [hbuilt]; rfl) (length_readBytes ..) (by rw [hbuilt]; rfl)
      refine ⟨?_, hle⟩
      simp only [Teec.Built.param, Teec.Param.kind, Teec.Param.paramType,
        Teec.Param.fromRaw, haddress, hsize]

end RoundTrip

/--
What an operation is for the client and the TA.  `outcome` is the handler's
run on the decoded wrappers, `returned` the operation after the call.
-/
structure OperationReturned (built : ParamIndex → Teec.Built clientWidth)
    (clientMemory : Memory)
    (rawTypes : BitVec 32) (state : CallState taWidth) (handler : Handler)
    (outcome : Outcome (ParamIndex × SlotOp) SlotAnswer (Except Error Unit)
      (CallState taWidth)) (returned : Teec.Operation clientWidth) :
    Prop where
  answers : outcome.transcript =
    (handler.run (serveAt Slot.serve) fun i =>
      clientSlot clientMemory (state.slot i) (built i)).transcript
  invoked : invokeHandler handler rawTypes state =
    (resultCode outcome.result, outcome.state)
  parameters : ∀ i, ParameterReturned (entriesAt i outcome.transcript)
    (built i) (returned.parameters i)

/--
Every operation of constructed parameters whose values carry the tags of
values is a round trip of four slots, for any handler.
-/
theorem client_operation_round_trip
    {built : ParamIndex → Teec.Built clientWidth} (htagged : ValuesTagged built)
    {uninit : ParamIndex → Teec.RawParameter clientWidth} {started : UInt32}
    {clientMemory : Memory} {rawTypes : BitVec 32}
    {state : CallState taWidth}
    (hdelivered : Delivered (Teec.Operation.ofBuilt uninit started built)
      clientMemory rawTypes state) (handler : Handler)
    {returned : Teec.Operation clientWidth}
    (hback : CopiedBack (Teec.Operation.ofBuilt uninit started built)
      (invokeHandler handler rawTypes state).2.raws returned) :
    ∃ wrappers, ParametersAny.fromRaw rawTypes state.raws = .ok wrappers ∧
      (∀ i, (wrappers i).paramType = seenAs (built i).param.paramType) ∧
      OperationReturned built clientMemory rawTypes state handler
        (handler.run (serveCall wrappers) state) returned := by
  have hpresents := hdelivered.presents htagged
  rw [hpresents.invokeHandler_eq] at hback
  refine ⟨_, hpresents.fromRaw, ?_, ?_, ?_, ?_⟩
  · intro i
    rw [Slot.paramType_wrapper, paramType_clientSlot htagged]
  · exact (hpresents.run handler).1
  · exact hpresents.invokeHandler_eq handler
  · exact hdelivered.parameterReturned htagged handler hback

/-! ## A client that sends a value and a buffer -/

def incrementBuilt : ParamIndex → Teec.Built .aarch64 :=
  ArgIndex.tuple (.value 41 0 .valueInout)
    (.inout ⟨0x6000, 8, by decide, by decide, by decide⟩) .none .none

def incrementHandler : Handler :=
  .ask (.arg0, .getA) fun
    | .value a =>
        .ask (.arg0, .setA (a + 1)) fun _ =>
          .ask (.arg1, .setUpdatedSize 1) fun _ => .finish (.ok ())
    | _ => .finish (.error (Error.new .badParameters))

def incrementState : CallState .aarch64 :=
  ⟨ArgIndex.tuple (.ofValue ⟨0⟩ 41 0) (.ofMemref .aarch64 0x2000 8) ⟨0⟩ ⟨0⟩,
    ⟨fun _ => 5, []⟩⟩

def incrementOperation : Teec.Operation .aarch64 :=
  .ofBuilt (fun _ => ⟨0⟩) 0 incrementBuilt

theorem incrementBuilt_tagged : ValuesTagged incrementBuilt := by
  intro i a b paramType hbuilt
  cases i with
  | arg0 =>
      cases hbuilt
      rfl
  | _ => cases hbuilt

theorem increment_delivered :
    Delivered incrementOperation ⟨fun _ => 5, []⟩
      incrementOperation.paramTypes incrementState := by
  have hpayload := payload_ofBuilt incrementBuilt_tagged (fun _ => ⟨0⟩) 0
  have honly : ∀ i buffer size,
      (incrementBuilt i).payload = .tmpRef buffer size → i = .arg1 := by
    intro i buffer size hbuffer
    cases i with
    | arg1 => rfl
    | _ => cases hbuffer
  refine ⟨rfl, ?_, ?_, ?_, ?_⟩
  · intro i a b hvalue
    rw [incrementOperation, hpayload] at hvalue
    cases i with
    | arg0 =>
        cases hvalue
        exact ⟨RawParam.valueA_ofValue _ 41 0, RawParam.valueB_ofValue _ 41 0⟩
    | _ => cases hvalue
  · intro i buffer size hbuffer
    rw [incrementOperation, hpayload] at hbuffer
    obtain rfl := honly i buffer size hbuffer
    cases hbuffer
    have haddress : (incrementState.raws .arg1).buffer = 0x2000 :=
      RawParam.buffer_ofMemref (by decide) 8
    refine ⟨?_, RawParam.size_ofMemref _ (by decide)⟩
    rw [haddress]
    decide
  · intro i buffer size _ _
    rfl
  · intro i j buffer size buffer' size' hij hi hj
    rw [incrementOperation, hpayload] at hi hj
    exact absurd ((honly i buffer size hi).trans
      (honly j buffer' size' hj).symm) hij

def copyBack (operation : Teec.Operation clientWidth)
    (raws : ParamIndex → RawParam taWidth) : Teec.Operation clientWidth :=
  { operation with
    params := fun i =>
      match Teec.ParamType.ofU32 (tagAt operation.paramTypes i) with
      | .valueOutput | .valueInout =>
          (operation.params i).setValue (raws i).valueA (raws i).valueB
      | .memrefTempOutput | .memrefTempInout =>
          (operation.params i).setSize (raws i).size
      | _ => operation.params i }

theorem copyBack_copiedBack (operation : Teec.Operation clientWidth)
    (raws : ParamIndex → RawParam clientWidth) :
    CopiedBack operation raws (copyBack operation raws) := by
  refine ⟨rfl, rfl, ?_, ?_, ?_⟩
  · intro i htag
    rcases List.mem_pair.mp htag with htag | htag
    · simp [copyBack, htag]
    · simp [copyBack, htag]
  · intro i htag
    have hsize := Teec.RawParameter.size_setSize (operation.params i)
      (raws i).size_lt
    rcases List.mem_pair.mp htag with htag | htag
    · simp [copyBack, htag, Teec.RawParameter.buffer_setSize, hsize]
    · simp [copyBack, htag, Teec.RawParameter.buffer_setSize, hsize]
  · intro i htag
    simp only [List.mem_cons, List.not_mem_nil, or_false] at htag
    rcases htag with htag | htag | htag
    · simp [copyBack, htag]
    · simp [copyBack, htag]
    · simp [copyBack, htag]

theorem incrementHandler_round_trip :
    ∃ wrappers, ParametersAny.fromRaw incrementOperation.paramTypes
        incrementState.raws = .ok wrappers ∧
      (∀ i, (wrappers i).paramType =
        seenAs (incrementBuilt i).param.paramType) ∧
      OperationReturned incrementBuilt ⟨fun _ => 5, []⟩
        incrementOperation.paramTypes incrementState incrementHandler
        (incrementHandler.run (serveCall wrappers) incrementState)
        (copyBack incrementOperation (invokeHandler incrementHandler
          incrementOperation.paramTypes incrementState).2.raws) :=
  client_operation_round_trip incrementBuilt_tagged increment_delivered
    incrementHandler (copyBack_copiedBack _ _)

end TrustZoneSdk.Boundary
