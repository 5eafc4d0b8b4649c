import Mathlib.Algebra.Order.Group.Unbundled.Int
import Mathlib.Data.Int.GCD

/-!
# Bit lengths of integers

The bit length of an integer is the number of bits of its magnitude, and zero
has none.  It is at most `bits` exactly if the magnitude is below
`2 ^ bits`; the lemmas below bound the length of a result by those of the
operands.
-/

namespace TrustZoneSdk.Foundation

def bitLength (value : Int) : Nat :=
  if value.natAbs = 0 then 0 else value.natAbs.log2 + 1

theorem bitLength_le_iff {value : Int} {bits : Nat} :
    bitLength value ≤ bits ↔ value.natAbs < 2 ^ bits := by
  unfold bitLength
  split_ifs with hzero
  · rw [hzero]
    exact iff_of_true (Nat.zero_le bits) (Nat.two_pow_pos bits)
  · rw [Nat.succ_le_iff, Nat.log2_lt hzero]

theorem natAbs_lt_bitLength (value : Int) :
    value.natAbs < 2 ^ bitLength value :=
  bitLength_le_iff.mp (Nat.le_refl _)

theorem bitLength_le_of_natAbs_le {first second : Int}
    (h : first.natAbs ≤ second.natAbs) : bitLength first ≤ bitLength second :=
  bitLength_le_iff.mpr (Nat.lt_of_le_of_lt h (natAbs_lt_bitLength second))

theorem bitLength_pos {value : Int} (h : value ≠ 0) : 0 < bitLength value := by
  simp [bitLength, h]

theorem two_pow_le_natAbs {value : Int} (h : value ≠ 0) :
    2 ^ (bitLength value - 1) ≤ value.natAbs := by
  have hpos := bitLength_pos h
  by_contra hlt
  have := bitLength_le_iff.mpr (Nat.lt_of_not_le hlt)
  omega

@[simp] theorem bitLength_neg (value : Int) :
    bitLength (-value) = bitLength value := by
  simp [bitLength]

theorem bitLength_add_le (first second : Int) :
    bitLength (first + second) ≤
      max (bitLength first) (bitLength second) + 1 := by
  rw [bitLength_le_iff]
  have hfirst : first.natAbs < 2 ^ max (bitLength first) (bitLength second) :=
    bitLength_le_iff.mp (Nat.le_max_left _ _)
  have hsecond :
      second.natAbs < 2 ^ max (bitLength first) (bitLength second) :=
    bitLength_le_iff.mp (Nat.le_max_right _ _)
  have hsum := Int.natAbs_add_le first second
  omega

theorem bitLength_sub_le (first second : Int) :
    bitLength (first - second) ≤
      max (bitLength first) (bitLength second) + 1 := by
  have h := bitLength_add_le first (-second)
  rwa [bitLength_neg, ← Int.sub_eq_add_neg] at h

theorem bitLength_mul_le (first second : Int) :
    bitLength (first * second) ≤ bitLength first + bitLength second := by
  rw [bitLength_le_iff, Int.natAbs_mul, Nat.pow_add]
  exact Nat.mul_lt_mul'' (natAbs_lt_bitLength first)
    (natAbs_lt_bitLength second)

theorem bitLength_emod_le (value : Int) {modulus : Int} (h : 0 < modulus) :
    bitLength (value % modulus) ≤ bitLength modulus := by
  apply bitLength_le_of_natAbs_le
  have hnonneg := Int.emod_nonneg value (Int.ne_of_gt h)
  have hlt := Int.emod_lt_of_pos value h
  omega

/-- The divisor has at least the bits that the quotient does without. -/
theorem bitLength_tdiv_le {dividend divisor : Int} (hne : divisor ≠ 0)
    (hle : bitLength divisor ≤ bitLength dividend) :
    bitLength (dividend.tdiv divisor) ≤
      bitLength dividend - bitLength divisor + 1 := by
  have hquotient : (dividend.tdiv divisor).natAbs =
      dividend.natAbs / divisor.natAbs := Int.natAbs_tdiv dividend divisor
  have hpos := bitLength_pos hne
  rw [bitLength_le_iff, hquotient,
    Nat.div_lt_iff_lt_mul (Int.natAbs_pos.mpr hne)]
  calc dividend.natAbs < 2 ^ bitLength dividend := natAbs_lt_bitLength dividend
    _ = 2 ^ (bitLength dividend - bitLength divisor + 1) *
          2 ^ (bitLength divisor - 1) := by
        rw [← Nat.pow_add]
        congr 1
        omega
    _ ≤ 2 ^ (bitLength dividend - bitLength divisor + 1) *
          divisor.natAbs := Nat.mul_le_mul_left _ (two_pow_le_natAbs hne)

theorem bitLength_tmod_le (dividend : Int) {divisor : Int}
    (hne : divisor ≠ 0) :
    bitLength (dividend.tmod divisor) ≤ bitLength divisor := by
  apply bitLength_le_of_natAbs_le
  rw [Int.natAbs_tmod]
  exact Nat.le_of_lt (Nat.mod_lt _ (Int.natAbs_pos.mpr hne))

theorem bitLength_gcd_le (first second : Int) :
    bitLength (Int.gcd first second : Int) ≤
      max (bitLength first) (bitLength second) := by
  by_cases hfirst : first = 0
  · subst hfirst
    refine Nat.le_trans (bitLength_le_of_natAbs_le ?_) (Nat.le_max_right _ _)
    rw [Int.gcd_zero_left, Int.natAbs_natCast]
  · refine Nat.le_trans (bitLength_le_of_natAbs_le ?_) (Nat.le_max_left _ _)
    exact Nat.le_of_dvd (Int.natAbs_pos.mpr hfirst)
      (Int.gcd_dvd_natAbs_left first second)

end TrustZoneSdk.Foundation
