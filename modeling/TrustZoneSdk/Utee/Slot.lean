import TrustZoneSdk.Foundation.Dialogue
import TrustZoneSdk.Utee.Parameter

/-!
# What a parameter slot is

A slot carries nothing, two values, or a buffer with the size to report back.
The wrappers, which work on the raw union and on memory, answer as the slot
does and keep holding it; they touch memory in the slot's buffer only.
-/

namespace TrustZoneSdk.Utee

open TrustZoneSdk.Foundation

inductive Slot where
  | none
  | value (direction : Direction) (a b : BitVec 32)
  | memref (direction : Direction) (contents : List UInt8) (reported : Nat)
  deriving DecidableEq, Repr

namespace Slot

/-! ## The abstract slot -/

def store (direction : Direction) (contents : List UInt8) (reported : Nat)
    (offset : Nat) (data : List UInt8) : SlotAnswer × Slot :=
  if contents.length < offset + data.length then
    (.failed (Error.new .shortBuffer), memref direction contents reported)
  else
    (.done, memref direction (overlay contents offset data)
      (offset + data.length))

def serve (op : SlotOp) (slot : Slot) : SlotAnswer × Slot :=
  match slot with
  | none => (.refused, slot)
  | value direction a b =>
      match op with
      | .getA => (if direction.reads then .value a else .refused, slot)
      | .getB => (if direction.reads then .value b else .refused, slot)
      | .setA new =>
          if direction.writes then (.done, value direction new b)
          else (.refused, slot)
      | .setB new =>
          if direction.writes then (.done, value direction a new)
          else (.refused, slot)
      | _ => (.refused, slot)
  | memref direction contents reported =>
      match op with
      | .bufferLen => (.length contents.length, slot)
      | .readToVec =>
          (if direction.reads then .bytes contents else .refused, slot)
      | .readAt offset dest =>
          if direction.reads then
            if contents.length < offset then
              (.failed (Error.new .badParameters), slot)
            else
              let bytes := (contents.drop offset).take dest.length
              (.read bytes.length (overlay dest 0 bytes), slot)
          else (.refused, slot)
      | .setUpdatedSize size =>
          if direction.writes then
            if contents.length < size then
              (.failed (Error.new .shortBuffer), slot)
            else (.done, memref direction contents size)
          else (.refused, slot)
      | .setOutput data =>
          if direction.writes then store direction contents reported 0 data
          else (.refused, slot)
      | .writeAt offset data =>
          if direction.writes then
            store direction contents reported offset data
          else (.refused, slot)
      | _ => (.refused, slot)

def wrapper : Slot → ParameterAny
  | none => .none
  | value .input a b => .valueInput a b
  | value .output _ _ => .valueOutput
  | value .inout _ _ => .valueInout
  | memref .input _ _ => .memrefInput
  | memref .output contents _ => .memrefOutput contents.length
  | memref .inout contents _ => .memrefInout contents.length

def extent : Slot → Nat
  | memref _ contents _ => contents.length
  | _ => 0

def writable : Slot → Nat
  | memref direction contents _ =>
      if direction.writes then contents.length else 0
  | _ => 0

def outputs : Slot → Bool
  | none => false
  | value direction _ _ => direction.writes
  | memref direction _ _ => direction.writes

/-- What no call changes about a slot. -/
structure SameShape (slot slot' : Slot) : Prop where
  wrapper : slot.wrapper = slot'.wrapper
  extent : slot.extent = slot'.extent
  writable : slot.writable = slot'.writable
  kept : slot'.outputs = false → slot = slot'

theorem SameShape.refl (slot : Slot) : SameShape slot slot :=
  ⟨rfl, rfl, rfl, fun _ => rfl⟩

theorem SameShape.trans {first second third : Slot}
    (hfirst : SameShape first second) (hsecond : SameShape second third) :
    SameShape first third where
  wrapper := hfirst.wrapper.trans hsecond.wrapper
  extent := hfirst.extent.trans hsecond.extent
  writable := hfirst.writable.trans hsecond.writable
  kept := by
    intro houtputs
    obtain rfl := hsecond.kept houtputs
    exact hfirst.kept houtputs

theorem SameShape.eq_memref {slot : Slot} {direction : Direction}
    {contents : List UInt8} {reported : Nat}
    (h : SameShape slot (.memref direction contents reported)) :
    ∃ contents' reported', slot = .memref direction contents' reported' ∧
      contents'.length = contents.length := by
  obtain ⟨hwrapper, hextent, -, -⟩ := h
  cases slot with
  | none => cases direction <;> cases hwrapper
  | value direction' a b =>
      cases direction <;> cases direction' <;> cases hwrapper
  | memref direction' contents' reported' =>
      have hdirection : direction' = direction := by
        cases direction <;> cases direction' <;> first | rfl | cases hwrapper
      rw [hdirection]
      exact ⟨contents', reported', rfl, hextent⟩

theorem SameShape.eq_value {slot : Slot} {direction : Direction}
    {a b : BitVec 32} (h : SameShape slot (.value direction a b)) :
    ∃ a' b', slot = .value direction a' b' := by
  have hwrapper := h.wrapper
  cases slot with
  | none => cases direction <;> cases hwrapper
  | value direction' a' b' =>
      have hdirection : direction' = direction := by
        cases direction <;> cases direction' <;> first | rfl | cases hwrapper
      rw [hdirection]
      exact ⟨a', b', rfl⟩
  | memref direction' contents reported =>
      cases direction <;> cases direction' <;> cases hwrapper

theorem SameShape.memref {direction : Direction}
    {contents contents' : List UInt8} {reported reported' : Nat}
    (hwrites : direction.writes = true)
    (h : contents.length = contents'.length) :
    SameShape (.memref direction contents reported)
      (.memref direction contents' reported') := by
  refine ⟨?_, h, ?_, ?_⟩
  · cases direction <;> simp [Slot.wrapper, h]
  · simp [Slot.writable, h]
  · intro houtputs
    rw [Slot.outputs, hwrites] at houtputs
    cases houtputs

theorem SameShape.value {direction : Direction} {a b a' b' : BitVec 32}
    (hwrites : direction.writes = true) :
    SameShape (.value direction a b) (.value direction a' b') := by
  refine ⟨?_, rfl, rfl, ?_⟩
  · cases direction with
    | input => cases hwrites
    | output => rfl
    | inout => rfl
  · intro houtputs
    rw [Slot.outputs, hwrites] at houtputs
    cases houtputs

/-- All that a call can do to a slot: only a call that is `done` changes it. -/
inductive Effect : SlotOp → Slot → SlotAnswer × Slot → Prop
  | keep {op : SlotOp} {slot : Slot} {answer : SlotAnswer}
      (hanswer : answer ≠ .done) : Effect op slot (answer, slot)
  | setA {direction : Direction} (a b new : BitVec 32)
      (hwrites : direction.writes = true) :
      Effect (.setA new) (value direction a b) (.done, value direction new b)
  | setB {direction : Direction} (a b new : BitVec 32)
      (hwrites : direction.writes = true) :
      Effect (.setB new) (value direction a b) (.done, value direction a new)
  | report {direction : Direction} {contents : List UInt8} {size : Nat}
      (reported : Nat) (hwrites : direction.writes = true)
      (hsize : size ≤ contents.length) :
      Effect (.setUpdatedSize size) (memref direction contents reported)
        (.done, memref direction contents size)
  | output {direction : Direction} {contents data : List UInt8}
      (reported : Nat) (hwrites : direction.writes = true)
      (hdata : 0 + data.length ≤ contents.length) :
      Effect (.setOutput data) (memref direction contents reported)
        (.done, memref direction (overlay contents 0 data) data.length)
  | write {direction : Direction} {contents data : List UInt8} {offset : Nat}
      (reported : Nat) (hwrites : direction.writes = true)
      (hdata : offset + data.length ≤ contents.length) :
      Effect (.writeAt offset data) (memref direction contents reported)
        (.done, memref direction (overlay contents offset data)
          (offset + data.length))

theorem serve_effect (op : SlotOp) (slot : Slot) :
    Effect op slot (slot.serve op) := by
  cases slot with
  | none => exact .keep (by simp [SlotAnswer.refused])
  | value direction a b =>
      cases op with
      | getA =>
          refine .keep ?_
          cases direction <;> simp [Direction.reads, SlotAnswer.refused]
      | getB =>
          refine .keep ?_
          cases direction <;> simp [Direction.reads, SlotAnswer.refused]
      | setA new =>
          simp only [serve]
          split_ifs with hwrites
          · exact .setA a b new hwrites
          · exact .keep (by simp [SlotAnswer.refused])
      | setB new =>
          simp only [serve]
          split_ifs with hwrites
          · exact .setB a b new hwrites
          · exact .keep (by simp [SlotAnswer.refused])
      | _ => exact .keep (by simp [SlotAnswer.refused])
  | memref direction contents reported =>
      cases op with
      | bufferLen => exact .keep (by simp)
      | readToVec =>
          refine .keep ?_
          split_ifs <;> simp [SlotAnswer.refused]
      | readAt offset dest =>
          simp only [serve]
          split_ifs
          · exact .keep (by simp)
          · exact .keep (by simp)
          · exact .keep (by simp [SlotAnswer.refused])
      | setUpdatedSize size =>
          simp only [serve]
          split_ifs with hwrites hsize
          · exact .keep (by simp)
          · exact .report reported hwrites (by omega)
          · exact .keep (by simp [SlotAnswer.refused])
      | setOutput data =>
          simp only [serve, store]
          split_ifs with hwrites hlong
          · exact .keep (by simp)
          · rw [Nat.zero_add]
            exact .output reported hwrites (by omega)
          · exact .keep (by simp [SlotAnswer.refused])
      | writeAt offset data =>
          simp only [serve, store]
          split_ifs with hwrites hlong
          · exact .keep (by simp)
          · exact .write reported hwrites (by omega)
          · exact .keep (by simp [SlotAnswer.refused])
      | _ => exact .keep (by simp [SlotAnswer.refused])

theorem Effect.sameShape {op : SlotOp} {slot : Slot}
    {reply : SlotAnswer × Slot} (h : Effect op slot reply) :
    SameShape reply.2 slot := by
  cases h with
  | keep hanswer => exact .refl _
  | setA a b new hwrites => exact .value hwrites
  | setB a b new hwrites => exact .value hwrites
  | report reported hwrites hsize => exact .memref hwrites rfl
  | output reported hwrites hdata =>
      exact .memref hwrites (length_overlay hdata)
  | write reported hwrites hdata =>
      exact .memref hwrites (length_overlay hdata)

end Slot

/-! ## A slot held by a raw parameter -/

variable {width : PointerWidth}

structure MemrefHeld (address : Nat) (direction : Direction)
    (contents : List UInt8) (reported : Nat) (state : SlotState width) :
    Prop where
  buffer : state.raw.buffer = address
  size : state.raw.size = reported
  reported_le : reported ≤ contents.length
  representable : contents.length < 2 ^ width.bits
  whole : direction = .input → reported = contents.length
  bytes : readBytes state.memory.bytes address contents.length = contents

def Slot.Held (address : Nat) (state : SlotState width) : Slot → Prop
  | none => True
  | value _ a b => state.raw.valueA = a ∧ state.raw.valueB = b
  | memref direction contents reported =>
      MemrefHeld address direction contents reported state

structure Simulated (address : Nat) (slot : Slot) (op : SlotOp)
    (state : SlotState width) (reply : SlotAnswer × SlotState width) :
    Prop where
  answer : reply.1 = (slot.serve op).1
  held : (slot.serve op).2.Held address reply.2
  confined : Memory.Confined address slot.extent slot.writable state.memory
    reply.2.memory

theorem Simulated.unchanged {address : Nat} {slot : Slot} {op : SlotOp}
    {state : SlotState width} {answer : SlotAnswer}
    (hheld : slot.Held address state) (hserve : slot.serve op = (answer, slot)) :
    Simulated address slot op state (answer, state) := by
  refine ⟨?_, ?_, Memory.Confined.refl _⟩
  · rw [hserve]
  · rw [hserve]
    exact hheld

namespace MemrefHeld

variable {address : Nat} {direction : Direction} {contents : List UInt8}
  {reported : Nat} {state : SlotState width}

theorem afterLoad (h : MemrefHeld address direction contents reported state)
    (target count : Nat) :
    MemrefHeld address direction contents reported
      ⟨state.raw, (state.memory.load target count).2⟩ :=
  ⟨h.buffer, h.size, h.reported_le, h.representable, h.whole, h.bytes⟩

theorem report (h : MemrefHeld address direction contents reported state)
    (hwrites : direction.writes = true) {size : Nat}
    (hsize : size ≤ contents.length) :
    MemrefHeld address direction contents size
      ⟨state.raw.setSize size, state.memory⟩ where
  buffer := by rw [RawParam.buffer_setSize, h.buffer]
  size := RawParam.size_setSize _ (by have := h.representable; omega)
  reported_le := hsize
  representable := h.representable
  whole := by
    rintro rfl
    cases hwrites
  bytes := h.bytes

theorem afterStore (h : MemrefHeld address direction contents reported state)
    {offset : Nat} {data : List UInt8}
    (hbound : offset + data.length ≤ contents.length) :
    MemrefHeld address direction (overlay contents offset data) reported
      ⟨state.raw, state.memory.store (address + offset) data⟩ := by
  have hlength := length_overlay hbound
  refine ⟨h.buffer, h.size, ?_, ?_, ?_, ?_⟩
  · rw [hlength]
    exact h.reported_le
  · rw [hlength]
    exact h.representable
  · rw [hlength]
    exact h.whole
  · rw [hlength]
    dsimp only [Memory.store]
    rw [readBytes_writeBytes _ hbound, h.bytes]

/-! ## One lemma for each accessor -/

theorem serve_readToVec
    (h : MemrefHeld address direction contents reported state) :
    Simulated address (.memref direction contents reported) .readToVec state
      (serveMemref direction contents.length .readToVec state) := by
  cases hreads : direction.reads with
  | false =>
      simp only [serveMemref, hreads, Bool.false_eq_true, if_false]
      exact .unchanged h (by simp [Slot.serve, hreads])
  | true =>
      simp only [serveMemref, readToVec, hreads, if_true]
      by_cases hempty : contents.length = 0
      · have hnil : contents = [] := List.length_eq_zero_iff.mp hempty
        simp only [hempty, ne_eq, not_true, if_false]
        exact .unchanged h (by simp [Slot.serve, hreads, hnil])
      · simp only [ne_eq, hempty, not_false_iff, if_true]
        refine ⟨?_, ?_, ?_⟩
        · simp [Slot.serve, hreads, Memory.load, h.buffer, h.bytes]
        · exact h.afterLoad _ _
        · have hload : Memory.Confined address contents.length
              (Slot.memref direction contents reported).writable state.memory
              (state.memory.load (address + 0) contents.length).2 :=
            .load _ (by omega)
          rw [h.buffer]
          exact hload

theorem serve_readAt
    (h : MemrefHeld address direction contents reported state)
    (offset : Nat) (dest : List UInt8) :
    Simulated address (.memref direction contents reported)
      (.readAt offset dest) state
      (serveMemref direction contents.length (.readAt offset dest) state) := by
  cases hreads : direction.reads with
  | false =>
      simp only [serveMemref, hreads, Bool.false_eq_true, if_false]
      exact .unchanged h (by simp [Slot.serve, hreads])
  | true =>
      simp only [serveMemref, readAt, hreads, if_true]
      by_cases hoffset : contents.length < offset
      · simp only [gt_iff_lt, hoffset, if_true]
        exact .unchanged h
          (by simp [Slot.serve, hreads, hoffset, SlotAnswer.ofRead])
      · simp only [gt_iff_lt, hoffset, if_false]
        by_cases hnone : min dest.length (contents.length - offset) = 0
        · have hnil : (contents.drop offset).take dest.length = [] := by
            rw [← List.length_eq_zero_iff]
            simpa using hnone
          simp only [hnone, ne_eq, not_true, if_false]
          refine .unchanged h ?_
          simp [Slot.serve, hreads, hoffset, SlotAnswer.ofRead, hnil, overlay]
        · simp only [ne_eq, hnone, not_false_iff, if_true]
          have hbound : offset + min dest.length (contents.length - offset) ≤
              contents.length := by omega
          have hbytes : readBytes state.memory.bytes (address + offset)
              (min dest.length (contents.length - offset)) =
                (contents.drop offset).take dest.length := by
            rw [readBytes_sub _ hbound, h.bytes, List.take_eq_take_iff]
            simp
          refine ⟨?_, ?_, ?_⟩
          · simp [Slot.serve, hreads, hoffset, SlotAnswer.ofRead, Memory.load,
              h.buffer, hbytes]
          · have hserve : ((Slot.memref direction contents reported).serve
                (.readAt offset dest)).2 =
                  .memref direction contents reported := by
              simp [Slot.serve, hreads, hoffset]
            rw [hserve]
            exact h.afterLoad _ _
          · rw [h.buffer]
            exact Memory.Confined.load _ hbound

theorem serve_setUpdatedSize
    (h : MemrefHeld address direction contents reported state) (size : Nat) :
    Simulated address (.memref direction contents reported)
      (.setUpdatedSize size) state
      (serveMemref direction contents.length (.setUpdatedSize size) state) := by
  cases hwrites : direction.writes with
  | false =>
      simp only [serveMemref, hwrites, Bool.false_eq_true, if_false]
      exact .unchanged h (by simp [Slot.serve, hwrites])
  | true =>
      simp only [serveMemref, setUpdatedSize, hwrites, if_true]
      by_cases hsize : contents.length < size
      · simp only [gt_iff_lt, hsize, if_true]
        exact .unchanged h
          (by simp [Slot.serve, hwrites, hsize, SlotAnswer.ofUnit])
      · simp only [gt_iff_lt, hsize, if_false]
        refine ⟨?_, ?_, Memory.Confined.refl _⟩
        · simp [Slot.serve, hwrites, hsize, SlotAnswer.ofUnit]
        · have hserve : ((Slot.memref direction contents reported).serve
              (.setUpdatedSize size)).2 = .memref direction contents size := by
            simp [Slot.serve, hwrites, hsize]
          rw [hserve]
          exact h.report hwrites (by omega)

theorem writeAt_eq (h : MemrefHeld address direction contents reported state)
    (offset : Nat) (data : List UInt8) :
    writeAt contents.length state offset data =
      if contents.length < offset + data.length then
        (.error (Error.new .shortBuffer), state)
      else
        (.ok (), ⟨state.raw.setSize (offset + data.length),
          if data ≠ [] then state.memory.store (address + offset) data
          else state.memory⟩) := by
  -- The overflow check and the length check refuse together.
  unfold writeAt checkedAdd
  by_cases hlong : contents.length < offset + data.length
  · by_cases hoverflow : offset + data.length < 2 ^ width.bits
    · simp [hoverflow, hlong]
    · simp [hoverflow, hlong]
  · have hfits : offset + data.length < 2 ^ width.bits := by
      have := h.representable
      omega
    simp [hfits, hlong, h.buffer]

theorem writeAt_simulated
    (h : MemrefHeld address direction contents reported state)
    (hwrites : direction.writes = true) {op : SlotOp} {offset : Nat}
    {data : List UInt8}
    (hserve : (Slot.memref direction contents reported).serve op =
      Slot.store direction contents reported offset data) :
    Simulated address (.memref direction contents reported) op state
      (.ofUnit (writeAt contents.length state offset data).1,
        (writeAt contents.length state offset data).2) := by
  rw [h.writeAt_eq]
  by_cases hlong : contents.length < offset + data.length
  · simp only [hlong, if_true]
    exact .unchanged h (by simp [hserve, Slot.store, hlong, SlotAnswer.ofUnit])
  · have hbound : offset + data.length ≤ contents.length := by omega
    simp only [hlong, if_false]
    refine ⟨?_, ?_, ?_⟩
    · simp [hserve, Slot.store, hlong, SlotAnswer.ofUnit]
    · rw [hserve]
      simp only [Slot.store, hlong, if_false]
      have hwhole := length_overlay hbound
      by_cases hempty : data = []
      · have hsame : overlay contents offset data = contents := by
          simp [hempty, overlay]
        rw [hsame, if_neg (not_not.mpr hempty)]
        exact h.report hwrites hbound
      · simp only [hempty, ne_eq, not_false_iff, if_true]
        exact (h.afterStore hbound).report hwrites (by omega)
    · by_cases hempty : data = []
      · simp only [hempty, ne_eq, not_true, if_false]
        exact Memory.Confined.refl _
      · simp only [hempty, ne_eq, not_false_iff, if_true]
        exact Memory.Confined.store _ (by simpa [Slot.writable, hwrites])
          (by simp [Slot.writable, Slot.extent, hwrites])

theorem serve_memref
    (h : MemrefHeld address direction contents reported state) (op : SlotOp) :
    Simulated address (.memref direction contents reported) op state
      (serveMemref direction contents.length op state) := by
  cases op with
  | readToVec => exact h.serve_readToVec
  | readAt offset dest => exact h.serve_readAt offset dest
  | setUpdatedSize size => exact h.serve_setUpdatedSize size
  | setOutput data =>
      cases hwrites : direction.writes with
      | false =>
          simp only [serveMemref, hwrites, Bool.false_eq_true, if_false]
          exact .unchanged h (by simp [Slot.serve, hwrites])
      | true =>
          simp only [serveMemref, setOutput, hwrites, if_true]
          exact h.writeAt_simulated hwrites (by simp [Slot.serve, hwrites])
  | writeAt offset data =>
      cases hwrites : direction.writes with
      | false =>
          simp only [serveMemref, hwrites, Bool.false_eq_true, if_false]
          exact .unchanged h (by simp [Slot.serve, hwrites])
      | true =>
          simp only [serveMemref, hwrites, if_true]
          exact h.writeAt_simulated hwrites (by simp [Slot.serve, hwrites])
  | bufferLen => exact .unchanged h rfl
  | getA => exact .unchanged h rfl
  | getB => exact .unchanged h rfl
  | setA a => exact .unchanged h rfl
  | setB b => exact .unchanged h rfl

end MemrefHeld

/-! ## Every wrapper is simulated -/

namespace Slot

variable {address : Nat} {state : SlotState width}

theorem serve_valueRef {direction : Direction} {a b : BitVec 32}
    (hwrites : direction.writes = true)
    (h : (value direction a b).Held address state) (op : SlotOp) :
    Simulated address (value direction a b) op state
      (serveValueRef direction.reads op state) := by
  have hvalueA := h.1
  have hvalueB := h.2
  cases op with
  | getA =>
      cases hreads : direction.reads with
      | false => exact .unchanged h (by simp [serve, hreads])
      | true =>
          simp only [serveValueRef, if_true, hvalueA]
          exact .unchanged h (by simp [serve, hreads])
  | getB =>
      cases hreads : direction.reads with
      | false => exact .unchanged h (by simp [serve, hreads])
      | true =>
          simp only [serveValueRef, if_true, hvalueB]
          exact .unchanged h (by simp [serve, hreads])
  | setA new =>
      refine ⟨?_, ?_, .refl _⟩
      · simp [serve, serveValueRef, hwrites]
      · simp [serve, serveValueRef, hwrites, Held, hvalueB]
  | setB new =>
      refine ⟨?_, ?_, .refl _⟩
      · simp [serve, serveValueRef, hwrites]
      · simp [serve, serveValueRef, hwrites, Held, hvalueA]
  | _ => exact .unchanged h rfl

theorem serve_value {direction : Direction} {a b : BitVec 32}
    (h : (value direction a b).Held address state) (op : SlotOp) :
    Simulated address (value direction a b) op state
      ((value direction a b).wrapper.serve op state) := by
  cases direction with
  | input => cases op <;> exact .unchanged h rfl
  | output => exact serve_valueRef rfl h op
  | inout => exact serve_valueRef rfl h op

theorem wrapper_serve_memref {direction : Direction} {contents : List UInt8}
    {reported : Nat} (h : MemrefHeld address direction contents reported state)
    (op : SlotOp) :
    (memref direction contents reported).wrapper.serve op state =
      serveMemref direction contents.length op state := by
  cases direction with
  | input =>
      have hsize : state.raw.size = contents.length := by
        rw [h.size, h.whole rfl]
      simp only [wrapper, ParameterAny.serve, hsize]
  | output => rfl
  | inout => rfl

theorem serve_simulated (slot : Slot) (h : slot.Held address state)
    (op : SlotOp) :
    Simulated address slot op state (slot.wrapper.serve op state) := by
  cases slot with
  | none => exact .unchanged h rfl
  | value direction a b => exact serve_value h op
  | memref direction contents reported =>
      rw [wrapper_serve_memref h]
      exact MemrefHeld.serve_memref h op

end Slot

/-! ## Decoding -/

def Direction.valueType : Direction → ParamType
  | input => .valueInput
  | output => .valueOutput
  | inout => .valueInout

def Direction.memrefType : Direction → ParamType
  | input => .memrefInput
  | output => .memrefOutput
  | inout => .memrefInout

namespace Slot

def paramType : Slot → ParamType
  | none => .none
  | value direction _ _ => direction.valueType
  | memref direction _ _ => direction.memrefType

/-- A buffer arrives at a non-null address with its whole size. -/
def Delivered (address : Nat) : Slot → Prop
  | memref _ contents reported => address ≠ 0 ∧ reported = contents.length
  | _ => True

theorem fromRaw_eq_wrapper {address : Nat} {state : SlotState width}
    {slot : Slot} (hheld : slot.Held address state)
    (hdelivered : slot.Delivered address) :
    ParameterAny.fromRaw slot.paramType.intoPrimitive state.raw =
      .ok slot.wrapper := by
  cases slot with
  | none => rfl
  | value direction a b =>
      obtain ⟨rfl, rfl⟩ := hheld
      cases direction <;> rfl
  | memref direction contents reported =>
      have hbuffer : state.raw.buffer ≠ 0 := by
        rw [hheld.buffer]
        exact hdelivered.1
      have hsize : state.raw.size = contents.length := by
        rw [hheld.size, hdelivered.2]
      cases direction with
      | input =>
          change memrefFromRaw _ _ .memrefInput _ = _
          simp [memrefFromRaw, checkTypeIs, hbuffer, wrapper, paramType,
            Direction.memrefType]
      | output =>
          change memrefFromRaw _ _ .memrefOutput _ = _
          simp [memrefFromRaw, checkTypeIs, hbuffer, hsize, wrapper, paramType,
            Direction.memrefType]
      | inout =>
          change memrefFromRaw _ _ .memrefInout _ = _
          simp [memrefFromRaw, checkTypeIs, hbuffer, hsize, wrapper, paramType,
            Direction.memrefType]

end Slot

def ParameterAny.paramType : ParameterAny → ParamType
  | none => .none
  | valueInput _ _ => .valueInput
  | valueInout => .valueInout
  | valueOutput => .valueOutput
  | memrefInput => .memrefInput
  | memrefInout _ => .memrefInout
  | memrefOutput _ => .memrefOutput
  | unknown rawType => .unknown rawType

theorem Slot.paramType_wrapper (slot : Slot) :
    slot.wrapper.paramType = slot.paramType := by
  cases slot with
  | none => rfl
  | value direction a b => cases direction <;> rfl
  | memref direction contents reported => cases direction <;> rfl

/-! ## What the calls of a run leave behind -/

namespace SlotOp

def storesA : SlotOp → Option (BitVec 32)
  | setA a => some a
  | _ => none

def storesB : SlotOp → Option (BitVec 32)
  | setB b => some b
  | _ => none

def reports : SlotOp → Option Nat
  | setUpdatedSize size => some size
  | setOutput data => some data.length
  | writeAt offset data => some (offset + data.length)
  | _ => none

def writesBytes : SlotOp → Option (Nat × List UInt8)
  | setOutput data => some (0, data)
  | writeAt offset data => some (offset, data)
  | _ => none

def ifDone {β : Type} (part : SlotOp → Option β)
    (entry : SlotOp × SlotAnswer) : Option β :=
  if entry.2 = .done then part entry.1 else none

end SlotOp

def written (contents : List UInt8) (entry : SlotOp × SlotAnswer) :
    List UInt8 :=
  match entry.1.writesBytes, entry.2 with
  | some (offset, data), .done => overlay contents offset data
  | _, _ => contents

namespace Slot

def valueA : Slot → BitVec 32
  | value _ a _ => a
  | _ => 0

def valueB : Slot → BitVec 32
  | value _ _ b => b
  | _ => 0

def reported : Slot → Nat
  | memref _ _ reported => reported
  | _ => 0

def contents : Slot → List UInt8
  | memref _ contents _ => contents
  | _ => []

namespace Effect

variable {op : SlotOp} {slot : Slot} {reply : SlotAnswer × Slot}

theorem valueA_eq (h : Effect op slot reply) :
    reply.2.valueA =
      (SlotOp.ifDone SlotOp.storesA (op, reply.1)).getD slot.valueA := by
  cases h with
  | keep hanswer => simp [SlotOp.ifDone, hanswer]
  | _ => rfl

theorem valueB_eq (h : Effect op slot reply) :
    reply.2.valueB =
      (SlotOp.ifDone SlotOp.storesB (op, reply.1)).getD slot.valueB := by
  cases h with
  | keep hanswer => simp [SlotOp.ifDone, hanswer]
  | _ => rfl

theorem reported_eq (h : Effect op slot reply) :
    reply.2.reported =
      (SlotOp.ifDone SlotOp.reports (op, reply.1)).getD slot.reported := by
  cases h with
  | keep hanswer => simp [SlotOp.ifDone, hanswer]
  | _ => rfl

theorem contents_eq (h : Effect op slot reply) :
    reply.2.contents = written slot.contents (op, reply.1) := by
  cases h with
  | keep hanswer =>
      simp only [written]
      split
      · contradiction
      · rfl
  | _ => rfl

theorem keeps (h : Effect op slot reply) (hanswer : reply.1 ≠ .done) :
    reply.2 = slot := by
  cases h with
  | keep h => rfl
  | _ => exact absurd rfl hanswer

end Effect

end Slot

/-! ## Runs over one slot -/

section Runs

variable {Result : Type} (calls : Dialogue SlotOp SlotAnswer Result)
  (slot : Slot)

theorem Slot.run_reported :
    (calls.run Slot.serve slot).state.reported =
      latest (SlotOp.ifDone SlotOp.reports) slot.reported
        (calls.run Slot.serve slot).transcript := by
  rw [← foldl_getD_eq_latest]
  exact calls.run_view (fun op slot => (slot.serve_effect op).reported_eq) slot

theorem Slot.run_contents :
    (calls.run Slot.serve slot).state.contents =
      (calls.run Slot.serve slot).transcript.foldl written slot.contents :=
  calls.run_view (fun op slot => (slot.serve_effect op).contents_eq) slot

end Runs

/-- The wrapper of `start` holds `slot` and has stayed in its buffer. -/
structure Tracks (address : Nat) (start : Slot) (memory : Memory)
    (state : SlotState width) (slot : Slot) : Prop where
  held : slot.Held address state
  shape : slot.SameShape start
  confined : Memory.Confined address start.extent start.writable memory
    state.memory

theorem Tracks.start {address : Nat} {slot : Slot} {state : SlotState width}
    (h : slot.Held address state) :
    Tracks address slot state.memory state slot :=
  ⟨h, .refl slot, Memory.Confined.refl _⟩

theorem Tracks.serve {address : Nat} {start slot : Slot} {memory : Memory}
    {state : SlotState width} (h : Tracks address start memory state slot)
    (op : SlotOp) :
    (start.wrapper.serve op state).1 = (slot.serve op).1 ∧
      Tracks address start memory (start.wrapper.serve op state).2
        (slot.serve op).2 := by
  have hstep := slot.serve_simulated h.held op
  rw [← h.shape.wrapper]
  refine ⟨hstep.answer, hstep.held, ?_, ?_⟩
  · exact (slot.serve_effect op).sameShape.trans h.shape
  · have hconfined := hstep.confined
    rw [h.shape.extent, h.shape.writable] at hconfined
    exact h.confined.trans hconfined

end TrustZoneSdk.Utee
