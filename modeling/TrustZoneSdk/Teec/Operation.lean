import TrustZoneSdk.Foundation.BitField
import TrustZoneSdk.Foundation.ByteMemory

/-!
# Operations of a client

An operation carries four parameters as untagged unions beside one word of
tags.  A temporary memory reference chooses its tag itself; for a value the tag
is an argument of its constructor, and nothing ties the two together but the
caller.
-/

namespace TrustZoneSdk.Teec

open TrustZoneSdk.Foundation

variable {width : PointerWidth}

/-! ## The raw union -/

structure RawParameter (width : PointerWidth) where
  bits : BitVec (3 * width.bits)
  deriving DecidableEq

namespace RawParameter

variable (raw : RawParameter width)

def buffer : Nat := (getField 0 width.bits raw.bits).toNat

def size : Nat := (getField width.bits width.bits raw.bits).toNat

def parent : Nat := (getField 0 width.bits raw.bits).toNat

def offset : Nat := (getField (2 * width.bits) width.bits raw.bits).toNat

def valueA : BitVec 32 := getField 0 32 raw.bits

def valueB : BitVec 32 := getField 32 32 raw.bits

def setBuffer (buffer : Nat) : RawParameter width :=
  ⟨setField 0 (BitVec.ofNat width.bits buffer) raw.bits⟩

def setSize (size : Nat) : RawParameter width :=
  ⟨setField width.bits (BitVec.ofNat width.bits size) raw.bits⟩

def setValue (a b : BitVec 32) : RawParameter width :=
  ⟨setField 32 b (setField 0 a raw.bits)⟩

theorem buffer_setSize (size : Nat) :
    (raw.setSize size).buffer = raw.buffer := by
  rw [setSize, buffer, buffer, getField_setField_of_disjoint _ _ (by omega)]

theorem size_setSize {size : Nat} (h : size < 2 ^ width.bits) :
    (raw.setSize size).size = size := by
  rw [setSize, RawParameter.size, getField_setField_self _ _ (by omega),
    BitVec.toNat_ofNat, Nat.mod_eq_of_lt h]

theorem buffer_setBuffer {buffer : Nat} (h : buffer < 2 ^ width.bits) :
    (raw.setBuffer buffer).buffer = buffer := by
  rw [setBuffer, RawParameter.buffer, getField_setField_self _ _ (by omega),
    BitVec.toNat_ofNat, Nat.mod_eq_of_lt h]

@[simp] theorem valueA_setValue (a b : BitVec 32) :
    (raw.setValue a b).valueA = a := by
  have hwide := width.wide
  rw [setValue, valueA, getField_setField_of_disjoint _ _ (by omega),
    getField_setField_self _ _ (by omega)]

@[simp] theorem valueB_setValue (a b : BitVec 32) :
    (raw.setValue a b).valueB = b := by
  have hwide := width.wide
  rw [setValue, valueB, getField_setField_self _ _ (by omega)]

end RawParameter

/-! ## Tags -/

inductive ParamType where
  | none
  | valueInput
  | valueOutput
  | valueInout
  | memrefTempInput
  | memrefTempOutput
  | memrefTempInout
  | memrefWhole
  | memrefPartialInput
  | memrefPartialOutput
  | memrefPartialInout
  deriving DecidableEq, Repr

namespace ParamType

def toU32 : ParamType → BitVec 32
  | none => 0
  | valueInput => 1
  | valueOutput => 2
  | valueInout => 3
  | memrefTempInput => 5
  | memrefTempOutput => 6
  | memrefTempInout => 7
  | memrefWhole => 0xC
  | memrefPartialInput => 0xD
  | memrefPartialOutput => 0xE
  | memrefPartialInout => 0xF

def ofU32 (value : BitVec 32) : ParamType :=
  if value = 0 then none
  else if value = 1 then valueInput
  else if value = 2 then valueOutput
  else if value = 3 then valueInout
  else if value = 5 then memrefTempInput
  else if value = 6 then memrefTempOutput
  else if value = 7 then memrefTempInout
  else if value = 0xC then memrefWhole
  else if value = 0xD then memrefPartialInput
  else if value = 0xE then memrefPartialOutput
  else if value = 0xF then memrefPartialInout
  else none

@[simp] theorem ofU32_toU32 (paramType : ParamType) :
    ofU32 paramType.toU32 = paramType := by
  cases paramType <;> decide

theorem toU32_small (paramType : ParamType) :
    paramType.toU32.toNat < 16 := by
  cases paramType <;> decide

def isValue : ParamType → Bool
  | valueInput => true
  | valueOutput => true
  | valueInout => true
  | _ => false

end ParamType

namespace ParamTypes

def new (p0 p1 p2 p3 : ParamType) : BitVec 32 :=
  p0.toU32 ||| p1.toU32 <<< 4 ||| p2.toU32 <<< 8 ||| p3.toU32 <<< 12

def intoFlags (types : BitVec 32) : ArgIndex → ParamType :=
  ArgIndex.tuple (.ofU32 (0x000F#32 &&& types))
    (.ofU32 ((0x00F0#32 &&& types) >>> 4))
    (.ofU32 ((0x0F00#32 &&& types) >>> 8))
    (.ofU32 ((0xF000#32 &&& types) >>> 12))

theorem tagAt_new (types : ArgIndex → ParamType) (i : ArgIndex) :
    tagAt (new (types .arg0) (types .arg1) (types .arg2) (types .arg3)) i =
      (types i).toU32 :=
  tagAt_packTags (fun j => (types j).toU32) (fun j => (types j).toU32_small) i

theorem intoFlags_eq_tagAt (types : BitVec 32) (i : ArgIndex) :
    intoFlags types i = .ofU32 (tagAt types i) := by
  rw [← maskedTag]
  cases i <;> simp [intoFlags, ArgIndex.tuple, ArgIndex.toNat]

end ParamTypes

/-! ## Parameters -/

inductive ParamKind where
  | none
  | value
  | tmpRef
  deriving DecidableEq, Repr

inductive Param where
  | none
  | value (a b : BitVec 32) (paramType : ParamType)
  | tmpRef (buffer size : Nat) (paramType : ParamType)
  deriving DecidableEq, Repr

namespace Param

def kind : Param → ParamKind
  | none => .none
  | value _ _ _ => .value
  | tmpRef _ _ _ => .tmpRef

def paramType : Param → ParamType
  | none => .none
  | value _ _ paramType => paramType
  | tmpRef _ _ paramType => paramType

/-- `uninit` is what the union held where the member leaves it be. -/
def toRaw (uninit : RawParameter width) : Param → RawParameter width
  | none => ⟨0⟩
  | value a b _ => uninit.setValue a b
  | tmpRef buffer size _ => (uninit.setBuffer buffer).setSize size

def fromRaw (kind : ParamKind) (raw : RawParameter width)
    (paramType : ParamType) : Param :=
  match kind with
  | .none => none
  | .value => value raw.valueA raw.valueB paramType
  | .tmpRef => tmpRef raw.buffer raw.size paramType

end Param

inductive Built (width : PointerWidth) where
  | none
  | value (a b : BitVec 32) (paramType : ParamType)
  | input (buffer : ByteSlice width)
  | output (buffer : ByteSlice width)
  | inout (buffer : ByteSlice width)

def Built.param : Built width → Param
  | none => .none
  | value a b paramType => .value a b paramType
  | input buffer => .tmpRef buffer.address buffer.length .memrefTempInput
  | output buffer => .tmpRef buffer.address buffer.length .memrefTempOutput
  | inout buffer => .tmpRef buffer.address buffer.length .memrefTempInout

/-! ## Operations -/

structure Operation (width : PointerWidth) where
  kinds : ArgIndex → ParamKind
  started : UInt32
  paramTypes : BitVec 32
  params : ArgIndex → RawParameter width

namespace Operation

def new (uninit : ArgIndex → RawParameter width) (started : UInt32)
    (params : ArgIndex → Param) : Operation width where
  kinds := fun i => (params i).kind
  started := started
  paramTypes := ParamTypes.new (params .arg0).paramType (params .arg1).paramType
    (params .arg2).paramType (params .arg3).paramType
  params := fun i => (params i).toRaw (uninit i)

def parameters (operation : Operation width) : ArgIndex → Param := fun i =>
  .fromRaw (operation.kinds i) (operation.params i)
    (ParamTypes.intoFlags operation.paramTypes i)

def ofBuilt (uninit : ArgIndex → RawParameter width) (started : UInt32)
    (built : ArgIndex → Built width) : Operation width :=
  new uninit started fun i => (built i).param

theorem tagAt_ofBuilt (uninit : ArgIndex → RawParameter width)
    (started : UInt32) (built : ArgIndex → Built width) (i : ArgIndex) :
    tagAt (ofBuilt uninit started built).paramTypes i =
      (built i).param.paramType.toU32 :=
  ParamTypes.tagAt_new (fun j => (built j).param.paramType) i

end Operation

/-! ## Tags against payloads -/

inductive Payload where
  | none
  | value (a b : BitVec 32)
  | tmpRef (buffer size : Nat)
  | registered (parent size offset : Nat)
  deriving DecidableEq, Repr

/-- How the client API reads a slot: the tag decides. -/
def payloadAt (tag : BitVec 32) (raw : RawParameter width) : Payload :=
  match ParamType.ofU32 tag with
  | .none => .none
  | .valueInput | .valueOutput | .valueInout => .value raw.valueA raw.valueB
  | .memrefTempInput | .memrefTempOutput | .memrefTempInout =>
      .tmpRef raw.buffer raw.size
  | .memrefWhole | .memrefPartialInput | .memrefPartialOutput
  | .memrefPartialInout => .registered raw.parent raw.size raw.offset

def Operation.payload (operation : Operation width) (i : ArgIndex) : Payload :=
  payloadAt (tagAt operation.paramTypes i) (operation.params i)

def Built.payload : Built width → Payload
  | none => .none
  | value a b _ => .value a b
  | input buffer => .tmpRef buffer.address buffer.length
  | output buffer => .tmpRef buffer.address buffer.length
  | inout buffer => .tmpRef buffer.address buffer.length

theorem toRaw_tmpRef (uninit : RawParameter width) (buffer : ByteSlice width)
    (paramType : ParamType) :
    (((Param.tmpRef buffer.address buffer.length paramType).toRaw
        uninit).buffer = buffer.address) ∧
      ((Param.tmpRef buffer.address buffer.length paramType).toRaw
        uninit).size = buffer.length := by
  constructor
  · rw [Param.toRaw, RawParameter.buffer_setSize,
      RawParameter.buffer_setBuffer _ buffer.address_lt]
  · rw [Param.toRaw, RawParameter.size_setSize _ buffer.length_lt]

/-- A slot is read as it was stored unless a value was given another tag. -/
theorem payloadAt_toRaw_iff (uninit : RawParameter width)
    (built : Built width) :
    payloadAt built.param.paramType.toU32 (built.param.toRaw uninit) =
        built.payload ↔
      ∀ a b paramType, built = .value a b paramType →
        paramType.isValue = true := by
  cases built with
  | none => exact iff_of_true rfl (by simp)
  | value a b paramType =>
      simp only [Built.value.injEq, and_imp]
      cases paramType <;>
        simp [payloadAt, Built.param, Param.paramType, Param.toRaw,
          Built.payload, ParamType.isValue]
  | input buffer =>
      obtain ⟨hbuffer, hsize⟩ := toRaw_tmpRef uninit buffer .memrefTempInput
      refine iff_of_true ?_ (by simp)
      simp only [payloadAt, Built.param, Param.paramType,
        ParamType.ofU32_toU32, Built.payload, hbuffer, hsize]
  | output buffer =>
      obtain ⟨hbuffer, hsize⟩ := toRaw_tmpRef uninit buffer .memrefTempOutput
      refine iff_of_true ?_ (by simp)
      simp only [payloadAt, Built.param, Param.paramType,
        ParamType.ofU32_toU32, Built.payload, hbuffer, hsize]
  | inout buffer =>
      obtain ⟨hbuffer, hsize⟩ := toRaw_tmpRef uninit buffer .memrefTempInout
      refine iff_of_true ?_ (by simp)
      simp only [payloadAt, Built.param, Param.paramType,
        ParamType.ofU32_toU32, Built.payload, hbuffer, hsize]

/--
In an operation made of constructed parameters every slot is read as it was
stored exactly when every value was given the tag of a value.
-/
theorem operation_tags_agree_iff (uninit : ArgIndex → RawParameter width)
    (started : UInt32) (built : ArgIndex → Built width) :
    (∀ i, (Operation.ofBuilt uninit started built).payload i =
        (built i).payload) ↔
      ∀ i a b paramType, built i = .value a b paramType →
        paramType.isValue = true := by
  refine forall_congr' fun i => ?_
  rw [Operation.payload, Operation.tagAt_ofBuilt]
  exact payloadAt_toRaw_iff (uninit i) (built i)

def valueAndBuffer : ArgIndex → Built .aarch64 :=
  ArgIndex.tuple (.value 1 2 .valueInout)
    (.output ⟨0x7000, 16, by decide, by decide, by decide⟩) .none .none

theorem valueAndBuffer_tags_agree :
    ParamType.valueInout.isValue = true ∧
      ∀ i, (Operation.ofBuilt (fun _ => ⟨0⟩) 0 valueAndBuffer).payload i =
        (valueAndBuffer i).payload := by
  refine ⟨rfl,
    (operation_tags_agree_iff (fun _ => ⟨0⟩) 0 valueAndBuffer).mpr ?_⟩
  intro i a b paramType hbuilt
  cases i with
  | arg0 =>
      cases hbuilt
      rfl
  | _ => cases hbuilt

/-- Two integers that the tag turns into a pointer and a length. -/
theorem tagged_value_is_read_as_buffer :
    (Operation.ofBuilt (fun _ => ⟨0⟩) 0 fun _ =>
      (Built.value 0x41414141 0x42424242 .memrefTempInput :
        Built .arm)).payload .arg0 = .tmpRef 0x41414141 0x42424242 := by
  decide

end TrustZoneSdk.Teec
