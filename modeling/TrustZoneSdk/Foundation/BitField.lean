import Mathlib.Data.BitVec

/-!
# Fields of a bit pattern

A field is a range of bits of a larger pattern.  An untagged union is a
pattern whose members are fields that overlap: writing one and reading another
is defined, and gives whatever the common bits say.
-/

namespace TrustZoneSdk.Foundation

variable {n width width' : Nat}

def getField (offset width : Nat) (bits : BitVec n) : BitVec width :=
  bits.extractLsb' offset width

def setField (offset : Nat) (value : BitVec width) (bits : BitVec n) :
    BitVec n :=
  (bits &&& ~~~((BitVec.allOnes width).setWidth n <<< offset)) |||
    value.setWidth n <<< offset

theorem getLsbD_setField (offset : Nat) (value : BitVec width)
    (bits : BitVec n) {i : Nat} (h : i < n) :
    (setField offset value bits).getLsbD i =
      if offset ≤ i ∧ i < offset + width then value.getLsbD (i - offset)
      else bits.getLsbD i := by
  by_cases hoffset : i < offset
  · have hrange : ¬ (offset ≤ i ∧ i < offset + width) := by omega
    simp [setField, h, hoffset, hrange]
  · by_cases hwidth : i - offset < width
    · have hrange : offset ≤ i ∧ i < offset + width := by omega
      simp [setField, h, hoffset, hwidth, hrange]
    · have hrange : ¬ (offset ≤ i ∧ i < offset + width) := by omega
      have hvalue : value.getLsbD (i - offset) = false :=
        BitVec.getLsbD_of_ge _ _ (by omega)
      simp [setField, h, hoffset, hwidth, hrange, hvalue]

@[simp] theorem getField_setField_self {offset : Nat} (value : BitVec width)
    (bits : BitVec n) (h : offset + width ≤ n) :
    getField offset width (setField offset value bits) = value := by
  apply BitVec.eq_of_getLsbD_eq
  intro i hi
  have hrange : offset ≤ offset + i ∧ offset + i < offset + width := by omega
  rw [getField, BitVec.getLsbD_extractLsb',
    getLsbD_setField offset value bits (by omega), if_pos hrange]
  simp [hi]

theorem getField_setField_of_disjoint {offset offset' : Nat}
    (value : BitVec width') (bits : BitVec n)
    (h : offset + width ≤ offset' ∨ offset' + width' ≤ offset) :
    getField offset width (setField offset' value bits) =
      getField offset width bits := by
  apply BitVec.eq_of_getLsbD_eq
  intro i hi
  rw [getField, getField, BitVec.getLsbD_extractLsb',
    BitVec.getLsbD_extractLsb']
  by_cases hbound : offset + i < n
  · have hrange : ¬ (offset' ≤ offset + i ∧ offset + i < offset' + width') := by
      omega
    rw [getLsbD_setField offset' value bits hbound, if_neg hrange]
  · rw [BitVec.getLsbD_of_ge _ _ (by omega), BitVec.getLsbD_of_ge _ _ (by omega)]

/-! ## Packed tags -/

inductive ArgIndex where
  | arg0
  | arg1
  | arg2
  | arg3
  deriving DecidableEq, Repr

namespace ArgIndex

def toNat : ArgIndex → Nat
  | arg0 => 0
  | arg1 => 1
  | arg2 => 2
  | arg3 => 3

def all : List ArgIndex := [arg0, arg1, arg2, arg3]

theorem nodup_all : all.Nodup := by decide

theorem mem_all (i : ArgIndex) : i ∈ all := by
  cases i <;> decide

def tuple {α : Type} (a0 a1 a2 a3 : α) : ArgIndex → α
  | arg0 => a0
  | arg1 => a1
  | arg2 => a2
  | arg3 => a3

theorem tuple_eta {α : Type} (f : ArgIndex → α) :
    tuple (f arg0) (f arg1) (f arg2) (f arg3) = f := by
  funext i
  cases i <;> rfl

end ArgIndex

/-- Four 4-bit tags in the low half of one word, the first lowest. -/
def packTags (tags : ArgIndex → BitVec 32) : BitVec 32 :=
  tags .arg0 ||| tags .arg1 <<< 4 ||| tags .arg2 <<< 8 |||
    tags .arg3 <<< 12

def tagAt (word : BitVec 32) (i : ArgIndex) : BitVec 32 :=
  (word >>> (i.toNat * 4)) &&& 0xF#32

theorem getLsbD_of_small {tag : BitVec 32} (h : tag.toNat < 16) {k : Nat}
    (hk : 4 ≤ k) : tag.getLsbD k = false := by
  apply Nat.testBit_lt_two_pow
  calc tag.toNat < 2 ^ 4 := h
    _ ≤ 2 ^ k := Nat.pow_le_pow_right (by decide) hk

theorem getLsbD_mask {k : Nat} (hk : k < 32) :
    (0xF#32).getLsbD k = decide (k < 4) := by
  have hmask : ∀ k : Fin 32, (0xF#32).getLsbD k.val = decide (k.val < 4) := by
    decide
  exact hmask ⟨k, hk⟩

theorem tagAt_packTags (tags : ArgIndex → BitVec 32)
    (h : ∀ i, (tags i).toNat < 16) (i : ArgIndex) :
    tagAt (packTags tags) i = tags i := by
  apply BitVec.eq_of_getLsbD_eq
  intro k hk
  rw [tagAt, BitVec.getLsbD_and, getLsbD_mask hk, BitVec.getLsbD_ushiftRight]
  by_cases hlow : k < 4
  · have hsmall : ∀ j k, 4 ≤ k → (tags j).getLsbD k = false :=
      fun j k hk => getLsbD_of_small (h j) hk
    simp only [packTags, BitVec.getLsbD_or, BitVec.getLsbD_shiftLeft]
    cases i with
    | arg0 =>
      have h4 : k < 8 := by omega
      have h8 : k < 12 := by omega
      simp [ArgIndex.toNat, hlow, h4, h8]
    | arg1 =>
      have hword : 4 + k < 32 := by omega
      have h4 : 4 + k < 8 := by omega
      have h8 : 4 + k < 12 := by omega
      simp [-BitVec.getLsbD_eq_getElem, ArgIndex.toNat, hlow, hsmall,
        hword, h4, h8]
    | arg2 =>
      have hword : 8 + k < 32 := by omega
      have h4 : 4 ≤ 8 + k - 4 := by omega
      have h8 : 8 + k < 12 := by omega
      have h0 : 4 ≤ 8 + k := by omega
      have hskip : ¬8 + k < 8 := by omega
      simp [-BitVec.getLsbD_eq_getElem, ArgIndex.toNat, hlow, hsmall,
        hword, h0, h4, h8, hskip]
    | arg3 =>
      have hword : 12 + k < 32 := by omega
      have h0 : 4 ≤ 12 + k := by omega
      have h4 : 4 ≤ 12 + k - 4 := by omega
      have h8 : 4 ≤ 12 + k - 8 := by omega
      have hskip : ¬12 + k < 12 := by omega
      simp [-BitVec.getLsbD_eq_getElem, ArgIndex.toNat, hlow, hsmall,
        hword, h0, h4, h8, hskip]
  · rw [getLsbD_of_small (h i) (by omega)]
    simp [hlow]

/-- Only the low half of the word holds tags. -/
theorem tagAt_congr {word other : BitVec 32}
    (h : getField 0 16 word = getField 0 16 other) (i : ArgIndex) :
    tagAt word i = tagAt other i := by
  apply BitVec.eq_of_getLsbD_eq
  intro k hk
  rw [tagAt, tagAt, BitVec.getLsbD_and, BitVec.getLsbD_and, getLsbD_mask hk,
    BitVec.getLsbD_ushiftRight, BitVec.getLsbD_ushiftRight]
  by_cases hlow : k < 4
  · have hbound : i.toNat * 4 + k < 16 := by
      cases i <;> simp only [ArgIndex.toNat] <;> omega
    have hbit := congrArg (BitVec.getLsbD · (i.toNat * 4 + k)) h
    simp only [getField, BitVec.getLsbD_extractLsb', hbound, Nat.zero_add,
      decide_true, Bool.true_and] at hbit
    rw [hbit]
  · simp [hlow]

theorem maskedTag (word : BitVec 32) (i : ArgIndex) :
    ((0xF#32 <<< (i.toNat * 4)) &&& word) >>> (i.toNat * 4) =
      tagAt word i := by
  have hmask : (0xF#32 <<< (i.toNat * 4)) >>> (i.toNat * 4) = 0xF#32 := by
    cases i <;> decide
  rw [BitVec.ushiftRight_and_distrib, hmask, BitVec.and_comm]
  rfl

end TrustZoneSdk.Foundation
