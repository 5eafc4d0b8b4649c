import TrustZoneSdk.Foundation.Ending
import TrustZoneSdk.Utee.EntryPoint
import TrustZoneSdk.Utee.Slot

/-!
# Commands of a trusted application

A command works on the context of its session and on its four decoded
parameters.  It returns, reports an error, or panics; an error keeps what the
context and the parameters have become, a panic ends the session.
-/

namespace TrustZoneSdk.TrustedApps

open TrustZoneSdk.Foundation
open TrustZoneSdk.Utee

structure Frame (C : Type) where
  context : C
  slots : ParamIndex → Slot

abbrev CommandM (C α : Type) := Fallible Error (Frame C) α

/-! ## Parameters -/

section Accessors

variable {C : Type} (i : ParamIndex)

def refuse {α : Type} : CommandM C α := Fallible.fail (Error.new .badParameters)

def callSlot (op : SlotOp) : CommandM C SlotAnswer := fun frame =>
  let reply := (frame.slots i).serve op
  .ok reply.1 { frame with slots := Function.update frame.slots i reply.2 }

def wrapperOf : CommandM C ParameterAny := fun frame =>
  .ok (frame.slots i).wrapper frame

def unitAnswer : SlotAnswer → CommandM C Unit
  | .failed error => Fallible.fail error
  | _ => pure ()

def memrefInput : CommandM C (List UInt8) := do
  match ← wrapperOf i with
  | .memrefInput =>
      match ← callSlot i .readToVec with
      | .bytes bytes => return bytes
      | _ => refuse
  | _ => refuse

def memrefOutput : CommandM C Nat := do
  match ← wrapperOf i with
  | .memrefOutput capacity => return capacity
  | _ => refuse

def setOutput (data : List UInt8) : CommandM C Unit := do
  match ← wrapperOf i with
  | .memrefOutput _ => unitAnswer (← callSlot i (.setOutput data))
  | _ => refuse

def valueInput : CommandM C (BitVec 32 × BitVec 32) := do
  match ← wrapperOf i with
  | .valueInput a b => return (a, b)
  | _ => refuse

def setValueA (a : BitVec 32) : CommandM C Unit := do
  match ← wrapperOf i with
  | .valueOutput => unitAnswer (← callSlot i (.setA a))
  | _ => refuse

@[simp] theorem run_refuse {α : Type} (frame : Frame C) :
    (refuse : CommandM C α).run frame =
      .error (.failed (Error.new .badParameters)) frame := rfl

@[simp] theorem run_wrapperOf (frame : Frame C) :
    (wrapperOf i : CommandM C ParameterAny).run frame =
      .ok (frame.slots i).wrapper frame := rfl

@[simp] theorem run_callSlot (op : SlotOp) (frame : Frame C) :
    (callSlot i op).run frame = .ok ((frame.slots i).serve op).1
      ⟨frame.context,
        Function.update frame.slots i ((frame.slots i).serve op).2⟩ := rfl

/-! ### What the accessors find -/

def inputOf : Slot → Option (List UInt8)
  | .memref .input contents _ => some contents
  | _ => none

def capacityOf : Slot → Option Nat
  | .memref .output contents _ => some contents.length
  | _ => none

def valuesOf : Slot → Option (BitVec 32 × BitVec 32)
  | .value .input a b => some (a, b)
  | _ => none

def filled (data : List UInt8) : Slot → Slot
  | .memref .output contents _ =>
      .memref .output (overlay contents 0 data) data.length
  | slot => slot

/-- The bytes of a buffer that are reported as written. -/
def updatedBytes : Slot → List UInt8
  | .memref _ contents reported => contents.take reported
  | _ => []

def withA (a : BitVec 32) : Slot → Option Slot
  | .value .output _ b => some (.value .output a b)
  | _ => none

def Frame.withSlot (slot : Slot) (frame : Frame C) : Frame C :=
  { frame with slots := Function.update frame.slots i slot }

theorem updatedBytes_filled {data : List UInt8} {slot : Slot}
    (h : capacityOf slot ≠ none) : updatedBytes (filled data slot) = data := by
  cases slot with
  | none => exact absurd rfl h
  | value direction a b => exact absurd rfl h
  | memref direction contents reported =>
      cases direction with
      | output => simp [filled, updatedBytes, overlay]
      | input => exact absurd rfl h
      | inout => exact absurd rfl h

variable (frame : Frame C)

theorem run_memrefInput :
    (memrefInput i).run frame =
      match inputOf (frame.slots i) with
      | some contents => .ok contents frame
      | none => .error (.failed (Error.new .badParameters)) frame := by
  cases hslot : frame.slots i with
  | none => simp [memrefInput, hslot, Slot.wrapper, inputOf]
  | value direction a b =>
      cases direction <;> simp [memrefInput, hslot, Slot.wrapper, inputOf]
  | memref direction contents reported =>
      cases direction with
      | input =>
          have hkept : Function.update frame.slots i
              (.memref .input contents reported) = frame.slots := by
            rw [← hslot, Function.update_eq_self]
          simp [memrefInput, hslot, Slot.wrapper, Slot.serve, Direction.reads,
            hkept, inputOf]
      | output => simp [memrefInput, hslot, Slot.wrapper, inputOf]
      | inout => simp [memrefInput, hslot, Slot.wrapper, inputOf]

theorem run_memrefOutput :
    (memrefOutput i).run frame =
      match capacityOf (frame.slots i) with
      | some capacity => .ok capacity frame
      | none => .error (.failed (Error.new .badParameters)) frame := by
  cases hslot : frame.slots i with
  | none => simp [memrefOutput, hslot, Slot.wrapper, capacityOf]
  | value direction a b =>
      cases direction <;> simp [memrefOutput, hslot, Slot.wrapper, capacityOf]
  | memref direction contents reported =>
      cases direction <;> simp [memrefOutput, hslot, Slot.wrapper, capacityOf]

theorem run_setOutput (data : List UInt8) :
    (setOutput i data).run frame =
      match capacityOf (frame.slots i) with
      | some capacity =>
          if capacity < data.length then
            .error (.failed (Error.new .shortBuffer)) frame
          else .ok () (frame.withSlot i (filled data (frame.slots i)))
      | none => .error (.failed (Error.new .badParameters)) frame := by
  cases hslot : frame.slots i with
  | none => simp [setOutput, hslot, Slot.wrapper, capacityOf]
  | value direction a b =>
      cases direction <;> simp [setOutput, hslot, Slot.wrapper, capacityOf]
  | memref direction contents reported =>
      cases direction with
      | input => simp [setOutput, hslot, Slot.wrapper, capacityOf]
      | inout => simp [setOutput, hslot, Slot.wrapper, capacityOf]
      | output =>
          have hkept : Function.update frame.slots i
              (.memref .output contents reported) = frame.slots := by
            rw [← hslot, Function.update_eq_self]
          by_cases hshort : contents.length < data.length
          · simp [setOutput, hslot, Slot.wrapper, Slot.serve, Slot.store,
              Direction.writes, hkept, capacityOf, hshort, unitAnswer]
          · simp [setOutput, hslot, Slot.wrapper, Slot.serve, Slot.store,
              Direction.writes, capacityOf, hshort, unitAnswer, filled,
              Frame.withSlot]

theorem run_valueInput :
    (valueInput i).run frame =
      match valuesOf (frame.slots i) with
      | some values => .ok values frame
      | none => .error (.failed (Error.new .badParameters)) frame := by
  cases hslot : frame.slots i with
  | none => simp [valueInput, hslot, Slot.wrapper, valuesOf]
  | value direction a b =>
      cases direction <;> simp [valueInput, hslot, Slot.wrapper, valuesOf]
  | memref direction contents reported =>
      cases direction <;> simp [valueInput, hslot, Slot.wrapper, valuesOf]

theorem run_setValueA (a : BitVec 32) :
    (setValueA i a).run frame =
      match withA a (frame.slots i) with
      | some slot => .ok () (frame.withSlot i slot)
      | none => .error (.failed (Error.new .badParameters)) frame := by
  cases hslot : frame.slots i with
  | none => simp [setValueA, hslot, Slot.wrapper, withA]
  | value direction a b =>
      cases direction <;>
        simp [setValueA, hslot, Slot.wrapper, withA, Slot.serve,
          Direction.writes, unitAnswer, Frame.withSlot]
  | memref direction contents reported =>
      cases direction <;> simp [setValueA, hslot, Slot.wrapper, withA]

/-! ### Rules -/

variable {frame} {Failed : Error → Frame C → Prop} {Killed : Frame C → Prop}
  (hbad : Failed (Error.new .badParameters) frame)

include hbad

theorem memrefInput_ends :
    Ends (memrefInput i) frame
      (fun input next => next = frame ∧ inputOf (frame.slots i) = some input)
      Failed Killed := by
  unfold Ends
  rw [run_memrefInput]
  cases hinput : inputOf (frame.slots i) with
  | none => exact hbad
  | some input => exact ⟨rfl, rfl⟩

theorem memrefOutput_ends :
    Ends (memrefOutput i) frame
      (fun capacity next =>
        next = frame ∧ capacityOf (frame.slots i) = some capacity)
      Failed Killed := by
  unfold Ends
  rw [run_memrefOutput]
  cases hcapacity : capacityOf (frame.slots i) with
  | none => exact hbad
  | some capacity => exact ⟨rfl, rfl⟩

omit hbad in
theorem valueInput_ends (hbad : valuesOf (frame.slots i) = none →
      Failed (Error.new .badParameters) frame) :
    Ends (valueInput i) frame
      (fun values next => next = frame ∧ valuesOf (frame.slots i) = some values)
      Failed Killed := by
  unfold Ends
  rw [run_valueInput]
  cases hvalues : valuesOf (frame.slots i) with
  | none => exact hbad hvalues
  | some values => exact ⟨rfl, rfl⟩

omit hbad in
theorem setOutput_ends {context : C} {slots : ParamIndex → Slot}
    {data : List UInt8} {capacity : Nat}
    (hcapacity : capacityOf (slots i) = some capacity)
    (hfits : data.length ≤ capacity) :
    Ends (setOutput i data) ⟨context, slots⟩
      (fun _ next => next =
        ⟨context, Function.update slots i (filled data (slots i))⟩)
      Failed Killed := by
  unfold Ends
  rw [run_setOutput, hcapacity]
  dsimp only
  rw [if_neg (Nat.not_lt.mpr hfits)]
  rfl

end Accessors

/-! ## Sessions -/

/-- What a host asks of a session; `tee` is how the TEE behaves meanwhile. -/
structure CommandRequest (Tee : Type) where
  cmdId : UInt32
  slots : ParamIndex → Slot
  tee : Tee

structure CommandReply where
  code : TeeResult
  slots : ParamIndex → Slot

def conclude {C : Type} : Run Error (Frame C) Unit → CommandReply × Option C
  | .ok () frame => (⟨teeSuccess, frame.slots⟩, some frame.context)
  | .error (.failed error) frame =>
      (⟨error.rawCode, frame.slots⟩, some frame.context)
  | .error .killed frame =>
      (⟨ErrorKind.targetDead.intoPrimitive, frame.slots⟩, none)

def serveCommand {C Tee : Type}
    (invokeCommand : Tee → UInt32 → CommandM C Unit)
    (request : CommandRequest Tee) :
    Option C → CommandReply × Option C
  -- A session whose TA has panicked does nothing any more.
  | none => (⟨ErrorKind.targetDead.intoPrimitive, request.slots⟩, none)
  | some context =>
      conclude ((invokeCommand request.tee request.cmdId).run
        ⟨context, request.slots⟩)

theorem conclude_ends {C : Type} {x : CommandM C Unit} {frame : Frame C}
    {Done : Unit → Frame C → Prop} {Failed : Error → Frame C → Prop}
    {Killed : Frame C → Prop} {P : CommandReply × Option C → Prop}
    (h : Ends x frame Done Failed Killed)
    (hdone : ∀ next, Done () next →
      P (⟨teeSuccess, next.slots⟩, some next.context))
    (hfailed : ∀ error next, Failed error next →
      P (⟨error.rawCode, next.slots⟩, some next.context))
    (hkilled : ∀ next, Killed next →
      P (⟨ErrorKind.targetDead.intoPrimitive, next.slots⟩, none)) :
    P (conclude (x.run frame)) := by
  unfold Ends at h
  cases hrun : x.run frame with
  | ok value next =>
      rw [hrun] at h
      exact hdone next h
  | error halt next =>
      rw [hrun] at h
      cases halt with
      | failed error => exact hfailed error next h
      | killed => exact hkilled next h

end TrustZoneSdk.TrustedApps
