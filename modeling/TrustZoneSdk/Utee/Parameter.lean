import TrustZoneSdk.Foundation.BitField
import TrustZoneSdk.Foundation.ByteMemory
import TrustZoneSdk.Utee.Error

/-!
# Parameters of a TA

A raw parameter is an untagged union of a memory reference and a pair of
values; its type tag travels separately, in a word of four tags.  The typed
wrappers check the tag and then read and write the member that belongs to it.
A memory reference keeps the size the host supplied in a copy of its own,
because the size reported back overwrites the field it came from.
-/

namespace TrustZoneSdk.Utee

open TrustZoneSdk.Foundation

/-! ## The raw union -/

structure RawParam (width : PointerWidth) where
  bits : BitVec (2 * width.bits)
  deriving DecidableEq

namespace RawParam

variable {width : PointerWidth} (raw : RawParam width)

def buffer : Nat := (getField 0 width.bits raw.bits).toNat

def size : Nat := (getField width.bits width.bits raw.bits).toNat

def valueA : BitVec 32 := getField 0 32 raw.bits

def valueB : BitVec 32 := getField 32 32 raw.bits

def setSize (size : Nat) : RawParam width :=
  ⟨setField width.bits (BitVec.ofNat width.bits size) raw.bits⟩

def setValueA (a : BitVec 32) : RawParam width := ⟨setField 0 a raw.bits⟩

def setValueB (b : BitVec 32) : RawParam width := ⟨setField 32 b raw.bits⟩

/-- A union initialised through its `memref` member, which covers it. -/
def ofMemref (width : PointerWidth) (buffer size : Nat) : RawParam width :=
  RawParam.setSize ⟨setField 0 (BitVec.ofNat width.bits buffer) 0⟩ size

/-- A union initialised through `value`; the rest of it keeps old bits. -/
def ofValue (uninit : RawParam width) (a b : BitVec 32) : RawParam width :=
  (uninit.setValueA a).setValueB b

theorem size_lt : raw.size < 2 ^ width.bits := BitVec.isLt _

theorem size_setSize {size : Nat} (h : size < 2 ^ width.bits) :
    (raw.setSize size).size = size := by
  rw [setSize, RawParam.size, getField_setField_self _ _ (by omega),
    BitVec.toNat_ofNat, Nat.mod_eq_of_lt h]

@[simp] theorem buffer_setSize (size : Nat) :
    (raw.setSize size).buffer = raw.buffer := by
  rw [setSize, buffer, buffer, getField_setField_of_disjoint _ _ (by omega)]

@[simp] theorem valueA_setValueA (a : BitVec 32) :
    (raw.setValueA a).valueA = a :=
  getField_setField_self _ _ (by have := width.wide; omega)

@[simp] theorem valueB_setValueA (a : BitVec 32) :
    (raw.setValueA a).valueB = raw.valueB :=
  getField_setField_of_disjoint _ _ (by omega)

@[simp] theorem valueA_setValueB (b : BitVec 32) :
    (raw.setValueB b).valueA = raw.valueA :=
  getField_setField_of_disjoint _ _ (by omega)

@[simp] theorem valueB_setValueB (b : BitVec 32) :
    (raw.setValueB b).valueB = b :=
  getField_setField_self _ _ (by have := width.wide; omega)

@[simp] theorem valueA_ofValue (a b : BitVec 32) :
    (raw.ofValue a b).valueA = a := by
  simp [ofValue]

@[simp] theorem valueB_ofValue (a b : BitVec 32) :
    (raw.ofValue a b).valueB = b := by
  simp [ofValue]

theorem buffer_ofMemref {buffer : Nat} (h : buffer < 2 ^ width.bits)
    (size : Nat) : (ofMemref width buffer size).buffer = buffer := by
  rw [ofMemref, buffer_setSize, RawParam.buffer,
    getField_setField_self _ _ (by omega), BitVec.toNat_ofNat,
    Nat.mod_eq_of_lt h]

theorem size_ofMemref (buffer : Nat) {size : Nat}
    (h : size < 2 ^ width.bits) : (ofMemref width buffer size).size = size :=
  size_setSize _ h

end RawParam

/-! ## Type tags -/

inductive ParamType where
  | none
  | valueInput
  | valueOutput
  | valueInout
  | memrefInput
  | memrefOutput
  | memrefInout
  | unknown (code : BitVec 32)
  deriving DecidableEq, Repr

def ParamType.intoPrimitive : ParamType → BitVec 32
  | .none => 0
  | .valueInput => 1
  | .valueOutput => 2
  | .valueInout => 3
  | .memrefInput => 5
  | .memrefOutput => 6
  | .memrefInout => 7
  | .unknown code => code

abbrev ParamIndex := ArgIndex

def paramTypeGet (rawTypes : BitVec 32) (slot : ParamIndex) : BitVec 32 :=
  tagAt rawTypes slot

def checkTypeIs (rawType : BitVec 32) (expected : ParamType) :
    Except Error Unit :=
  if rawType ≠ expected.intoPrimitive then
    .error (Error.new .badParameters)
  else .ok ()

/-! ## Typed wrappers -/

/--
The wrapper of one slot.  A reference to the raw parameter is the slot itself;
what a wrapper holds besides it are the copies it took when it was made.
-/
inductive ParameterAny where
  | none
  | valueInput (a b : BitVec 32)
  | valueInout
  | valueOutput
  | memrefInput
  | memrefInout (capacity : Nat)
  | memrefOutput (capacity : Nat)
  | unknown (rawType : BitVec 32)
  deriving DecidableEq, Repr

section FromRaw

variable {width : PointerWidth} (rawType : BitVec 32) (raw : RawParam width)

def ParameterValueInput.fromRaw : Except Error ParameterAny := do
  checkTypeIs rawType .valueInput
  return .valueInput raw.valueA raw.valueB

def ParameterValueOutput.fromRaw : Except Error ParameterAny := do
  checkTypeIs rawType .valueOutput
  return .valueOutput

def ParameterValueInout.fromRaw : Except Error ParameterAny := do
  checkTypeIs rawType .valueInout
  return .valueInout

def memrefFromRaw (expected : ParamType) (wrapper : ParameterAny) :
    Except Error ParameterAny := do
  checkTypeIs rawType expected
  if raw.buffer = 0 then .error (Error.new .badParameters)
  else return wrapper

def ParameterMemrefInput.fromRaw : Except Error ParameterAny :=
  memrefFromRaw rawType raw .memrefInput .memrefInput

def ParameterMemrefInout.fromRaw : Except Error ParameterAny :=
  memrefFromRaw rawType raw .memrefInout (.memrefInout raw.size)

def ParameterMemrefOutput.fromRaw : Except Error ParameterAny :=
  memrefFromRaw rawType raw .memrefOutput (.memrefOutput raw.size)

def ParameterAny.fromRaw : Except Error ParameterAny :=
  if rawType = ParamType.none.intoPrimitive then .ok .none
  else if rawType = ParamType.valueInput.intoPrimitive then
    ParameterValueInput.fromRaw rawType raw
  else if rawType = ParamType.valueInout.intoPrimitive then
    ParameterValueInout.fromRaw rawType
  else if rawType = ParamType.valueOutput.intoPrimitive then
    ParameterValueOutput.fromRaw rawType
  else if rawType = ParamType.memrefInput.intoPrimitive then
    ParameterMemrefInput.fromRaw rawType raw
  else if rawType = ParamType.memrefInout.intoPrimitive then
    ParameterMemrefInout.fromRaw rawType raw
  else if rawType = ParamType.memrefOutput.intoPrimitive then
    ParameterMemrefOutput.fromRaw rawType raw
  else .ok (.unknown rawType)

end FromRaw

def ParametersAny.fromRaw {width : PointerWidth} (rawTypes : BitVec 32)
    (raws : ParamIndex → RawParam width) :
    Except Error (ParamIndex → ParameterAny) := do
  -- The four slots are decoded in order, and the first failure is returned.
  let p0 ← ParameterAny.fromRaw (paramTypeGet rawTypes .arg0) (raws .arg0)
  let p1 ← ParameterAny.fromRaw (paramTypeGet rawTypes .arg1) (raws .arg1)
  let p2 ← ParameterAny.fromRaw (paramTypeGet rawTypes .arg2) (raws .arg2)
  let p3 ← ParameterAny.fromRaw (paramTypeGet rawTypes .arg3) (raws .arg3)
  return ArgIndex.tuple p0 p1 p2 p3

/-! ## Accessors -/

structure SlotState (width : PointerWidth) where
  raw : RawParam width
  memory : Memory

def checkedAdd (width : PointerWidth) (first second : Nat) : Option Nat :=
  if first + second < 2 ^ width.bits then some (first + second) else none

section Accessors

variable {width : PointerWidth} (bufferLen : Nat) (state : SlotState width)

def readToVec : List UInt8 × SlotState width :=
  if bufferLen ≠ 0 then
    let (bytes, memory) := state.memory.load state.raw.buffer bufferLen
    (bytes, { state with memory })
  else (List.replicate bufferLen 0, state)

def readAt (offset : Nat) (dest : List UInt8) :
    Except Error (Nat × List UInt8) × SlotState width :=
  if offset > bufferLen then (.error (Error.new .badParameters), state)
  else
    let available := bufferLen - offset
    let toRead := min dest.length available
    if toRead ≠ 0 then
      let (bytes, memory) :=
        state.memory.load (state.raw.buffer + offset) toRead
      (.ok (toRead, overlay dest 0 bytes), { state with memory })
    else (.ok (toRead, dest), state)

def setUpdatedSize (size : Nat) : Except Error Unit × SlotState width :=
  if size > bufferLen then (.error (Error.new .shortBuffer), state)
  else (.ok (), { state with raw := state.raw.setSize size })

def writeAt (offset : Nat) (data : List UInt8) :
    Except Error Unit × SlotState width :=
  match checkedAdd width offset data.length with
  | none => (.error (Error.new .shortBuffer), state)
  | some newSize =>
      if newSize > bufferLen then (.error (Error.new .shortBuffer), state)
      else
        let memory :=
          if data ≠ [] then
            state.memory.store (state.raw.buffer + offset) data
          else state.memory
        (.ok (), ⟨state.raw.setSize newSize, memory⟩)

def setOutput (data : List UInt8) : Except Error Unit × SlotState width :=
  writeAt bufferLen state 0 data

end Accessors

/-! ## Calls through a wrapper -/

inductive Direction where
  | input
  | output
  | inout
  deriving DecidableEq, Repr

def Direction.reads : Direction → Bool
  | input => true
  | output => false
  | inout => true

def Direction.writes : Direction → Bool
  | input => false
  | output => true
  | inout => true

inductive SlotOp where
  | getA
  | getB
  | setA (a : BitVec 32)
  | setB (b : BitVec 32)
  | bufferLen
  | readToVec
  | readAt (offset : Nat) (dest : List UInt8)
  | setUpdatedSize (size : Nat)
  | setOutput (data : List UInt8)
  | writeAt (offset : Nat) (data : List UInt8)
  deriving DecidableEq, Repr

inductive SlotAnswer where
  | done
  | value (value : BitVec 32)
  | length (length : Nat)
  | bytes (bytes : List UInt8)
  | read (count : Nat) (dest : List UInt8)
  | failed (error : Error)
  deriving DecidableEq, Repr

namespace SlotAnswer

def ofUnit : Except Error Unit → SlotAnswer
  | .ok _ => done
  | .error error => failed error

def ofRead : Except Error (Nat × List UInt8) → SlotAnswer
  | .ok (count, dest) => read count dest
  | .error error => failed error

def refused : SlotAnswer := failed (Error.new .badParameters)

end SlotAnswer

section Serve

variable {width : PointerWidth}

def serveValueInput (a b : BitVec 32) (op : SlotOp)
    (state : SlotState width) : SlotAnswer × SlotState width :=
  match op with
  | .getA => (.value a, state)
  | .getB => (.value b, state)
  | _ => (.refused, state)

def serveValueRef (reads : Bool) (op : SlotOp) (state : SlotState width) :
    SlotAnswer × SlotState width :=
  match op with
  | .getA =>
      if reads then (.value state.raw.valueA, state) else (.refused, state)
  | .getB =>
      if reads then (.value state.raw.valueB, state) else (.refused, state)
  | .setA a => (.done, { state with raw := state.raw.setValueA a })
  | .setB b => (.done, { state with raw := state.raw.setValueB b })
  | _ => (.refused, state)

def serveMemref (direction : Direction) (length : Nat) (op : SlotOp)
    (state : SlotState width) : SlotAnswer × SlotState width :=
  match op with
  | .bufferLen => (.length length, state)
  | .readToVec =>
      if direction.reads then
        let (bytes, state) := readToVec length state
        (.bytes bytes, state)
      else (.refused, state)
  | .readAt offset dest =>
      if direction.reads then
        let (result, state) := readAt length state offset dest
        (.ofRead result, state)
      else (.refused, state)
  | .setUpdatedSize size =>
      if direction.writes then
        let (result, state) := setUpdatedSize length state size
        (.ofUnit result, state)
      else (.refused, state)
  | .setOutput data =>
      if direction.writes then
        let (result, state) := setOutput length state data
        (.ofUnit result, state)
      else (.refused, state)
  | .writeAt offset data =>
      if direction.writes then
        let (result, state) := writeAt length state offset data
        (.ofUnit result, state)
      else (.refused, state)
  | _ => (.refused, state)

def ParameterAny.serve (wrapper : ParameterAny) (op : SlotOp)
    (state : SlotState width) : SlotAnswer × SlotState width :=
  -- The length of an input buffer is read from the parameter at every call;
  -- the other two kinds use their own copy.
  match wrapper with
  | .none => (.refused, state)
  | .valueInput a b => serveValueInput a b op state
  | .valueInout => serveValueRef true op state
  | .valueOutput => serveValueRef false op state
  | .memrefInput => serveMemref .input state.raw.size op state
  | .memrefInout capacity => serveMemref .inout capacity op state
  | .memrefOutput capacity => serveMemref .output capacity op state
  | .unknown _ => (.refused, state)

end Serve

end TrustZoneSdk.Utee
