import Mathlib.Data.List.Induction
import TrustZoneSdk.Foundation.MachineWord
import TrustZoneSdk.Foundation.Rfc4122

/-!
# Counters kept in bytes

A counter kept as big-endian bytes is increased from its last byte on; a byte
that wraps hands a carry to the one before it.  With overflow checks the first
byte that would wrap ends the program.
-/

namespace TrustZoneSdk.Foundation

def increaseBelow (overflowChecks : Bool) :
    Nat → List UInt8 → Option (List UInt8)
  -- The loop over the places below `place`, from the last one down.
  | 0, counter => some counter
  | place + 1, counter =>
      match wordAdd 8 overflowChecks (counter.getD place 0).toNat 1 with
      | none => none
      | some byte =>
          let counter := counter.set place (UInt8.ofNat byte)
          if byte > 0 then some counter
          else increaseBelow overflowChecks place counter

def increase (overflowChecks : Bool) (counter : List UInt8) :
    Option (List UInt8) :=
  increaseBelow overflowChecks counter.length counter

theorem length_increaseBelow {overflowChecks : Bool} {place : Nat}
    {counter next : List UInt8}
    (h : increaseBelow overflowChecks place counter = some next) :
    next.length = counter.length := by
  induction place generalizing counter with
  | zero =>
      rw [increaseBelow, Option.some.injEq] at h
      rw [h]
  | succ place ih =>
      rw [increaseBelow] at h
      split at h
      · exact absurd h nofun
      · split at h
        · rw [Option.some.injEq] at h
          rw [← h, List.length_set]
        · rw [ih h, List.length_set]

theorem length_increase {overflowChecks : Bool} {counter next : List UInt8}
    (h : increase overflowChecks counter = some next) :
    next.length = counter.length :=
  length_increaseBelow h

theorem decodeBe_concat (bytes : List UInt8) (last : UInt8) :
    decodeBe (bytes ++ [last]) = 256 * decodeBe bytes + last.toNat := by
  simp only [decodeBe, List.reverse_append, List.reverse_singleton,
    List.singleton_append, decodeLe]
  omega

theorem wordAdd_byte (overflowChecks : Bool) (byte : UInt8) :
    wordAdd 8 overflowChecks byte.toNat 1 =
      if byte.toNat = 255 then if overflowChecks then none else some 0
      else some (byte.toNat + 1) := by
  have hbyte : byte.toNat < 256 := byte.toNat_lt
  by_cases hfull : byte.toNat = 255
  · simp [wordAdd, narrow, hfull]
  · have hroom : byte.toNat + 1 < 2 ^ 8 := by omega
    rw [wordAdd_of_lt hroom, if_neg hfull]

theorem increaseBelow_concat (overflowChecks : Bool) (front : List UInt8)
    (last : UInt8) (back : List UInt8) :
    increaseBelow overflowChecks (front.length + 1)
        (front ++ [last] ++ back) =
      if last.toNat = 255 then
        if overflowChecks then none
        else increaseBelow overflowChecks front.length (front ++ 0 :: back)
      else some (front ++ UInt8.ofNat (last.toNat + 1) :: back) := by
  have hget : (front ++ [last] ++ back).getD front.length 0 = last := by
    simp
  have hset : ∀ byte, (front ++ [last] ++ back).set front.length byte =
      front ++ byte :: back := by simp
  rw [increaseBelow, hget, wordAdd_byte]
  by_cases hfull : last.toNat = 255
  · cases overflowChecks with
    | false => simp [hfull]
    | true => simp [hfull]
  · simp [hfull]

theorem increaseBelow_wrapping (front back : List UInt8) :
    ∃ next, increaseBelow false front.length (front ++ back) =
        some (next ++ back) ∧
      next.length = front.length ∧
      decodeBe next = (decodeBe front + 1) % 256 ^ front.length := by
  induction front using List.reverseRecOn generalizing back with
  | nil => exact ⟨[], rfl, rfl, by simp [decodeBe, decodeLe]⟩
  | append_singleton front last ih =>
      have hlast : last.toNat < 256 := last.toNat_lt
      have hfront : decodeBe front < 256 ^ front.length := decodeBe_lt rfl
      rw [List.length_append, List.length_singleton, increaseBelow_concat,
        decodeBe_concat, Nat.pow_succ]
      by_cases hfull : last.toNat = 255
      · obtain ⟨next, hnext, hlength, hvalue⟩ := ih (0 :: back)
        refine ⟨next ++ [0], ?_, by simp [hlength], ?_⟩
        · simpa [hfull] using hnext
        · have hcarry : 256 * decodeBe front + last.toNat + 1 =
              256 * (decodeBe front + 1) := by omega
          rw [decodeBe_concat, hvalue, hcarry, Nat.mul_comm (256 ^ _),
            Nat.mul_mod_mul_left]
          rfl
      · have hbyte : (UInt8.ofNat (last.toNat + 1)).toNat =
            last.toNat + 1 := by
          rw [UInt8.toNat_ofNat', Nat.mod_eq_of_lt (by omega)]
        refine ⟨front ++ [UInt8.ofNat (last.toNat + 1)], ?_, by simp, ?_⟩
        · simp [hfull]
        · rw [decodeBe_concat, hbyte, Nat.mod_eq_of_lt (by omega)]
          omega

theorem increase_wrapping (counter : List UInt8) :
    ∃ next, increase false counter = some next ∧
      next.length = counter.length ∧
      decodeBe next = (decodeBe counter + 1) % 256 ^ counter.length := by
  simpa [increase] using increaseBelow_wrapping counter []

/-- With overflow checks the last byte never hands on a carry. -/
theorem increase_checked {counter : List UInt8} (h : counter ≠ []) :
    increase true counter =
      if decodeBe counter % 256 = 255 then none
      else increase false counter := by
  obtain ⟨front, last, rfl⟩ : ∃ front last, counter = front ++ [last] :=
    ⟨counter.dropLast, counter.getLast h,
      (List.dropLast_append_getLast h).symm⟩
  have hlast : last.toNat < 256 := last.toNat_lt
  have hvalue : decodeBe (front ++ [last]) % 256 = last.toNat := by
    rw [decodeBe_concat]
    omega
  have hchecked := increaseBelow_concat true front last []
  have hwrapping := increaseBelow_concat false front last []
  rw [List.append_nil] at hchecked hwrapping
  rw [increase, increase, hvalue, List.length_append, List.length_singleton,
    hchecked, hwrapping]
  by_cases hfull : last.toNat = 255
  · simp [hfull]
  · simp [hfull]

end TrustZoneSdk.Foundation
