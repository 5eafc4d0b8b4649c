import Mathlib.Algebra.Group.Nat.Defs
import Mathlib.Data.List.Basic

/-!
# Flat byte memory

Memory is a byte for every address.  Reads and writes take ranges, and every
access is logged, so that where a program reads and writes is a property of
its log and not of what it happens to find there.
-/

namespace TrustZoneSdk.Foundation

/-! ## Lists of bytes -/

section Overlay

variable {α : Type}

def overlay (contents : List α) (offset : Nat) (data : List α) : List α :=
  contents.take offset ++ data ++ contents.drop (offset + data.length)

theorem length_overlay {contents : List α} {offset : Nat} {data : List α}
    (h : offset + data.length ≤ contents.length) :
    (overlay contents offset data).length = contents.length := by
  simp only [overlay, List.length_append, List.length_take, List.length_drop]
  omega

theorem getElem?_overlay {contents : List α} {offset : Nat} {data : List α}
    (h : offset + data.length ≤ contents.length) (i : Nat) :
    (overlay contents offset data)[i]? =
      if offset ≤ i ∧ i < offset + data.length then data[i - offset]?
      else contents[i]? := by
  have htake : (contents.take offset).length = offset := by
    rw [List.length_take]
    omega
  rw [overlay, List.append_assoc]
  by_cases hlow : i < offset
  · have hrange : ¬ (offset ≤ i ∧ i < offset + data.length) := by omega
    rw [List.getElem?_append_left (by omega), if_neg hrange,
      List.getElem?_take_of_lt hlow]
  · rw [List.getElem?_append_right (by omega), htake]
    by_cases hhigh : i < offset + data.length
    · rw [List.getElem?_append_left (by omega), if_pos ⟨by omega, hhigh⟩]
    · have hrange : ¬ (offset ≤ i ∧ i < offset + data.length) := by omega
      rw [List.getElem?_append_right (by omega), if_neg hrange,
        List.getElem?_drop]
      congr 1
      omega

end Overlay

/-! ## Addresses -/

structure PointerWidth where
  bits : Nat
  wide : 32 ≤ bits

def PointerWidth.arm : PointerWidth := ⟨32, by decide⟩

def PointerWidth.aarch64 : PointerWidth := ⟨64, by decide⟩

/-- A borrowed slice; references are never null. -/
structure ByteSlice (width : PointerWidth) where
  address : Nat
  length : Nat
  nonNull : address ≠ 0
  address_lt : address < 2 ^ width.bits
  length_lt : length < 2 ^ width.bits

/-! ## Ranges of memory -/

abbrev ByteStore := Nat → UInt8

def readBytes (bytes : ByteStore) (address length : Nat) : List UInt8 :=
  (List.range length).map fun i => bytes (address + i)

def writeBytes (bytes : ByteStore) (address : Nat) (data : List UInt8) :
    ByteStore := fun target =>
  if address ≤ target then
    (data[target - address]?).getD (bytes target)
  else bytes target

@[simp] theorem length_readBytes (bytes : ByteStore) (address length : Nat) :
    (readBytes bytes address length).length = length := by
  simp [readBytes]

theorem getElem?_readBytes (bytes : ByteStore) (address length i : Nat) :
    (readBytes bytes address length)[i]? =
      if i < length then some (bytes (address + i)) else none := by
  by_cases h : i < length <;> simp [readBytes, h]

theorem readBytes_congr {bytes bytes' : ByteStore} {address length : Nat}
    (h : ∀ target, address ≤ target → target < address + length →
      bytes target = bytes' target) :
    readBytes bytes address length = readBytes bytes' address length := by
  apply List.map_congr_left
  intro i hi
  have hbound : i < length := List.mem_range.mp hi
  exact h _ (by omega) (by omega)

theorem writeBytes_outside (bytes : ByteStore) (address : Nat)
    (data : List UInt8) {target : Nat}
    (h : target < address ∨ address + data.length ≤ target) :
    writeBytes bytes address data target = bytes target := by
  unfold writeBytes
  by_cases hle : address ≤ target
  · have hnone : data[target - address]? = none := by
      rw [List.getElem?_eq_none_iff]
      omega
    simp [hle, hnone]
  · simp [hle]

theorem readBytes_sub {address length offset count : Nat} (bytes : ByteStore)
    (h : offset + count ≤ length) :
    readBytes bytes (address + offset) count =
      ((readBytes bytes address length).drop offset).take count := by
  apply List.ext_getElem?
  intro i
  rw [getElem?_readBytes, List.getElem?_take, List.getElem?_drop,
    getElem?_readBytes]
  by_cases hi : i < count
  · have hbound : offset + i < length := by omega
    simp [hi, hbound, Nat.add_assoc]
  · simp [hi]

theorem readBytes_writeBytes {address length offset : Nat}
    (bytes : ByteStore) {data : List UInt8}
    (h : offset + data.length ≤ length) :
    readBytes (writeBytes bytes (address + offset) data) address length =
      overlay (readBytes bytes address length) offset data := by
  apply List.ext_getElem?
  intro i
  rw [getElem?_readBytes, getElem?_overlay (by simpa using h),
    getElem?_readBytes]
  by_cases hrange : offset ≤ i ∧ i < offset + data.length
  · have hbound : i < length := by omega
    have hsome : i - offset < data.length := by omega
    have hle : address + offset ≤ address + i := by omega
    have hindex : address + i - (address + offset) = i - offset := by omega
    simp [hrange, hbound, writeBytes, hle, hindex, hsome]
  · rw [if_neg hrange, writeBytes_outside _ _ _ (by omega)]

/-! ## Logged accesses -/

structure Access where
  address : Nat
  length : Nat
  deriving DecidableEq, Repr

def Access.Within (address length : Nat) (access : Access) : Prop :=
  address ≤ access.address ∧ access.address + access.length ≤ address + length

structure Memory where
  bytes : ByteStore
  log : List Access

namespace Memory

def load (memory : Memory) (address length : Nat) : List UInt8 × Memory :=
  (readBytes memory.bytes address length,
    ⟨memory.bytes, memory.log ++ [⟨address, length⟩]⟩)

def store (memory : Memory) (address : Nat) (data : List UInt8) : Memory :=
  ⟨writeBytes memory.bytes address data,
    memory.log ++ [⟨address, data.length⟩]⟩

/--
Between the two memories every access stayed in the first `length` bytes at
`address`, and nothing changed but, perhaps, the first `written` of them.
-/
structure Confined (address length written : Nat) (before after : Memory) :
    Prop where
  log : ∃ accesses, after.log = before.log ++ accesses ∧
    ∀ access ∈ accesses, access.Within address length
  bytes : ∀ target, target < address ∨ address + written ≤ target →
    after.bytes target = before.bytes target

namespace Confined

variable {address length written : Nat} {before middle after : Memory}

theorem refl (memory : Memory) :
    Confined address length written memory memory :=
  ⟨⟨[], by simp, by simp⟩, fun _ _ => rfl⟩

theorem trans (hfirst : Confined address length written before middle)
    (hsecond : Confined address length written middle after) :
    Confined address length written before after := by
  obtain ⟨⟨first, hfirstLog, hfirstIn⟩, hfirstBytes⟩ := hfirst
  obtain ⟨⟨second, hsecondLog, hsecondIn⟩, hsecondBytes⟩ := hsecond
  refine ⟨⟨first ++ second, ?_, ?_⟩, ?_⟩
  · rw [hsecondLog, hfirstLog, List.append_assoc]
  · intro access haccess
    rcases List.mem_append.mp haccess with h | h
    · exact hfirstIn access h
    · exact hsecondIn access h
  · intro target htarget
    rw [hsecondBytes target htarget, hfirstBytes target htarget]

theorem load {offset count : Nat} (memory : Memory)
    (h : offset + count ≤ length) :
    Confined address length written memory
      (memory.load (address + offset) count).2 := by
  refine ⟨⟨[⟨address + offset, count⟩], rfl, ?_⟩, fun _ _ => rfl⟩
  intro access haccess
  rw [List.mem_singleton.mp haccess]
  constructor
  · exact Nat.le_add_right address offset
  · dsimp only
    omega

theorem store {offset : Nat} {data : List UInt8} (memory : Memory)
    (h : offset + data.length ≤ written) (hwritten : written ≤ length) :
    Confined address length written memory
      (memory.store (address + offset) data) := by
  refine ⟨⟨[⟨address + offset, data.length⟩], rfl, ?_⟩, ?_⟩
  · intro access haccess
    rw [List.mem_singleton.mp haccess]
    constructor
    · exact Nat.le_add_right address offset
    · dsimp only
      omega
  · intro target htarget
    exact writeBytes_outside _ _ _ (by omega)

theorem readBytes_eq {other count : Nat}
    (h : Confined address length written before after)
    (hapart : ∀ target, address ≤ target → target < address + written →
      target < other ∨ other + count ≤ target) :
    readBytes after.bytes other count = readBytes before.bytes other count := by
  apply readBytes_congr
  intro target hlow hhigh
  apply h.bytes
  by_contra hinside
  have hoverlap := hapart target (by omega) (by omega)
  omega

end Confined

end Memory

end TrustZoneSdk.Foundation
