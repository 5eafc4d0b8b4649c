import TrustZoneSdk.Teec.PluginOutput
import TrustZoneSdk.Utee.Slot

/-!
# The positioned write of a plugin and of a TA

A plugin writes at a position of its buffer with `write_output_at`, a TA at a
position of a memory reference with `write_at`.  Both store the data and
report where it ends, or refuse an end that the buffer does not reach.  The TA
computes the end with a checked addition and the plugin with a plain one.
-/

namespace TrustZoneSdk.Boundary

open TrustZoneSdk.Foundation
open TrustZoneSdk.Teec (Build PluginParameters)
open TrustZoneSdk.Utee (Direction SlotState MemrefHeld)

variable {width : PointerWidth}

/-- Both writes stored the same, or both were refused and changed nothing. -/
inductive SameWrite (self : PluginParameters) (state : SlotState width) :
    Option (Except Teec.Error Unit × PluginParameters) →
      Except Utee.Error Unit × SlotState width → Prop
  | stored {next : PluginParameters} {after : SlotState width}
      (hbuf : readBytes after.memory.bytes state.raw.buffer self.buf.length =
        next.buf)
      (hlength : next.outLen = some after.raw.size) :
      SameWrite self state (some (.ok (), next)) (.ok (), after)
  | refused :
      SameWrite self state (some (.error (Teec.Error.new .shortBuffer), self))
        (.error (Utee.Error.new .shortBuffer), state)

section Write

variable {build : Build} {self : PluginParameters}
  {state : SlotState build.width} {address outLen reported pos : Nat}
  {direction : Direction} {data : List UInt8}

theorem writeAt_stored
    (h : MemrefHeld address direction self.buf reported state)
    (hwrites : direction.writes = true)
    (hfits : pos + data.length ≤ self.buf.length) :
    ∃ after, Utee.writeAt self.buf.length state pos data = (.ok (), after) ∧
      readBytes after.memory.bytes address self.buf.length =
        overlay self.buf pos data ∧
      after.raw.size = pos + data.length := by
  have hroom : ¬ self.buf.length < pos + data.length := by omega
  have hserve : (Utee.Slot.memref direction self.buf reported).serve
      (.writeAt pos data) =
        Utee.Slot.store direction self.buf reported pos data := by
    simp [Utee.Slot.serve, hwrites]
  have hheld := (h.writeAt_simulated hwrites hserve).held
  rw [hserve, Utee.Slot.store, if_neg hroom, h.writeAt_eq,
    if_neg hroom] at hheld
  rw [h.writeAt_eq, if_neg hroom]
  have hbytes := hheld.bytes
  rw [length_overlay hfits] at hbytes
  exact ⟨_, rfl, hbytes, hheld.size⟩

theorem sameWrite_of_sum_lt
    (h : MemrefHeld address direction self.buf reported state)
    (hwrites : direction.writes = true) (hout : self.outLen = some outLen)
    (hsum : pos + data.length < 2 ^ build.width.bits) :
    SameWrite self state (self.writeOutputAt build pos data)
      (Utee.writeAt self.buf.length state pos data) := by
  by_cases hfits : pos + data.length ≤ self.buf.length
  · obtain ⟨after, hafter, hbytes, hsize⟩ := writeAt_stored h hwrites hfits
    rw [hafter, PluginParameters.writeOutputAt_of_fits hout hsum hfits]
    exact .stored (by rw [h.buffer, hbytes]) (by rw [hsize])
  · have hshort : self.buf.length < pos + data.length := by omega
    rw [h.writeAt_eq, if_pos hshort,
      PluginParameters.writeOutputAt_of_short hout hsum hshort]
    exact .refused

theorem sameWrite_of_overflow_iff
    (h : MemrefHeld address direction self.buf reported state)
    (hout : self.outLen = some outLen)
    (hsum : ¬ pos + data.length < 2 ^ build.width.bits) :
    SameWrite self state (self.writeOutputAt build pos data)
        (Utee.writeAt self.buf.length state pos data) ↔
      build.overflowChecks = false ∧
        self.buf.length < (pos + data.length) % 2 ^ build.width.bits := by
  have hshort : self.buf.length < pos + data.length := by
    have := h.representable
    omega
  rw [h.writeAt_eq, if_pos hshort,
    PluginParameters.writeOutputAt_of_overflow hout hsum]
  split_ifs with hwrapped
  · exact ⟨fun _ => hwrapped, fun _ => .refused⟩
  · exact ⟨nofun, fun hcond => absurd hcond hwrapped⟩

end Write

/--
The two writes agree exactly if the end does not leave `usize`, or wraps to one
that the buffer does not reach either.
-/
theorem positioned_writes_agree_iff (build : Build) (self : PluginParameters)
    (state : SlotState build.width) (address outLen reported pos : Nat)
    (direction : Direction) (data : List UInt8)
    (hheld : MemrefHeld address direction self.buf reported state)
    (hwrites : direction.writes = true) (hout : self.outLen = some outLen) :
    SameWrite self state (self.writeOutputAt build pos data)
        (Utee.writeAt self.buf.length state pos data) ↔
      pos + data.length < 2 ^ build.width.bits ∨
        build.overflowChecks = false ∧
          self.buf.length < (pos + data.length) % 2 ^ build.width.bits := by
  by_cases hsum : pos + data.length < 2 ^ build.width.bits
  · have hsame := sameWrite_of_sum_lt hheld hwrites hout hsum
    exact ⟨fun _ => .inl hsum, fun _ => hsame⟩
  · rw [sameWrite_of_overflow_iff hheld hout hsum, or_iff_right hsum]

def twoBytes : PluginParameters := ⟨0, 0, [0, 0], some 0⟩

def twoBytesMemref : SlotState .aarch64 :=
  ⟨.ofMemref _ 0x2000 2, ⟨fun _ => 0, []⟩⟩

theorem twoBytesMemref_held :
    MemrefHeld 0x2000 .output twoBytes.buf 2 twoBytesMemref :=
  ⟨by decide, by decide, by decide, by decide, nofun, by decide⟩

theorem positioned_writes_agree_on_two_bytes :
    SameWrite twoBytes twoBytesMemref
      (twoBytes.writeOutputAt ⟨.aarch64, true⟩ 1 [7])
      (Utee.writeAt 2 twoBytesMemref 1 [7]) :=
  (positioned_writes_agree_iff ⟨.aarch64, true⟩ twoBytes twoBytesMemref 0x2000
    0 2 1 .output [7] twoBytesMemref_held rfl rfl).mpr (.inl (by decide))

theorem position_past_address_space_panics :
    twoBytes.writeOutputAt ⟨.aarch64, true⟩ (2 ^ 64 - 1) [7] = none ∧
      twoBytes.writeOutputAt ⟨.aarch64, false⟩ (2 ^ 64 - 1) [7] = none ∧
      (Utee.writeAt 2 twoBytesMemref (2 ^ 64 - 1) [7]).1 =
        .error (Utee.Error.new .shortBuffer) := by
  decide

end TrustZoneSdk.Boundary
