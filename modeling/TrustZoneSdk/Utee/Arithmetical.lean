import TrustZoneSdk.Foundation.BitLength
import TrustZoneSdk.Foundation.LittleEndian
import TrustZoneSdk.Foundation.MachineWord
import TrustZoneSdk.Foundation.ByteMemory
import TrustZoneSdk.Utee.Error

/-!
# Big integers

A `BigInt` owns a vector of words, two of which the TEE keeps for itself, and
the TEE panics the TA when a result does not fit the words it was given.  The
wrappers therefore compute from the bit counts of the operands how many bits
the result may need.
-/

namespace TrustZoneSdk.Utee

open TrustZoneSdk.Foundation

/-- A vector of words with the number that the TEE has put into it. -/
structure BigInt where
  len : Nat
  value : Int
  two_le : 2 ≤ len
  fits : bitLength value ≤ 32 * (len - 2)
  count_lt : bitLength value < 2 ^ 32

namespace BigInt

/-! ## Allocation -/

def sizeInU32 (size : Nat) : Nat := (size + 31) / 32 + 2

def new (bits : Nat) : BigInt where
  len := sizeInU32 bits
  value := 0
  two_le := Nat.le_add_left 2 _
  fits := Nat.zero_le _
  count_lt := by decide

def getBitCount (self : BigInt) : Nat := bitLength self.value

def store (self : BigInt) (value : Int) : Option BigInt :=
  -- What the TEE does with a result; none when it panics.
  if h : bitLength value ≤ 32 * (self.len - 2) ∧ bitLength value < 2 ^ 32 then
    some ⟨self.len, value, self.two_le, h.1, h.2⟩
  else none

/-- The allocation was large enough and the result is exact. -/
def Holds (result : Option BigInt) (value : Int) : Prop :=
  ∃ res : BigInt, result = some res ∧ res.value = value

theorem holds_store {bits : Nat} {value : Int} (hbits : bits < 2 ^ 32)
    (h : bitLength value ≤ bits) : Holds ((new bits).store value) value := by
  have hcapacity : bitLength value ≤ 32 * ((new bits).len - 2) ∧
      bitLength value < 2 ^ 32 := by
    simp only [new, sizeInU32]
    omega
  exact ⟨_, dif_pos hcapacity, rfl⟩

/-! ## Operations -/

def abs (self : BigInt) : Except Error BigInt :=
  -- `TEE_BigIntAbs` reports an overflow where the others panic.
  let bits := self.getBitCount
  match (new bits).store |self.value| with
  | some res => .ok res
  | none => .error (Error.new .overflow)

def neg (op : BigInt) : Option BigInt :=
  (new op.getBitCount).store (-op.value)

section Checked

variable (overflowChecks : Bool) (op op1 op2 : BigInt)

def add : Option BigInt := do
  let bits ←
    wordAdd 32 overflowChecks (max op1.getBitCount op2.getBitCount) 1
  (new bits).store (op1.value + op2.value)

def sub : Option BigInt := do
  let bits ←
    wordAdd 32 overflowChecks (max op1.getBitCount op2.getBitCount) 1
  (new bits).store (op1.value - op2.value)

def multiply : Option BigInt := do
  let bits ← wordAdd 32 overflowChecks op1.getBitCount op2.getBitCount
  (new bits).store (op1.value * op2.value)

def square : Option BigInt := do
  let bits ← wordMul 32 overflowChecks 2 op.getBitCount
  (new bits).store (op.value * op.value)

def quotientBits : Option Nat := do
  let difference ←
    wordSub 32 overflowChecks op1.getBitCount op2.getBitCount
  let sum ← wordAdd 32 overflowChecks difference 1
  return max 1 sum

def divide : Option (BigInt × BigInt) := do
  let qBits ← quotientBits overflowChecks op1 op2
  let rBits := op2.getBitCount
  let quotient ← (new qBits).store (op1.value.tdiv op2.value)
  let remainder ← (new rBits).store (op1.value.tmod op2.value)
  return (quotient, remainder)

end Checked

section Modular

variable (op op1 op2 n : BigInt)

def residue (value : Int) : Option BigInt :=
  (new n.getBitCount).store (value % n.value)

def module : Option BigInt := residue n op.value

def addMod : Option BigInt := residue n (op1.value + op2.value)

def subMod : Option BigInt := residue n (op1.value - op2.value)

def mulMod : Option BigInt := residue n (op1.value * op2.value)

def squareMod : Option BigInt := residue n (op.value * op.value)

def invMod : Option BigInt :=
  -- The TEE panics if there is no inverse.
  if Int.gcd op.value n.value = 1 then residue n (Int.gcdA op.value n.value)
  else none

def expMod (code : TeeResult) : Option (Except Error BigInt) :=
  match teeCheck code with
  | .error error => some (.error error)
  | .ok () => (residue n (op1.value ^ op2.value.toNat)).map .ok

end Modular

def computeExtendedGcd (u v : Int) (op1 op2 : BigInt) :
    Option (BigInt × BigInt × BigInt) := do
  let gcdBits := max 1 (max op1.getBitCount op2.getBitCount)
  let gcd ← (new gcdBits).store (Int.gcd op1.value op2.value)
  let uRes ← (new gcdBits).store u
  let vRes ← (new gcdBits).store v
  return (gcd, uRes, vRes)

def octets (self : BigInt) : List UInt8 :=
  (encodeLe ((bitLength self.value + 7) / 8) self.value.natAbs).reverse

def convertToOctetString (self : BigInt) : Except Error (List UInt8) :=
  let bufferSize := (self.len - 2) * 4
  let tmpVec := List.replicate bufferSize 0
  if bufferSize < self.octets.length then .error (Error.new .shortBuffer)
  else .ok ((overlay tmpVec 0 self.octets).take self.octets.length)

/-! ## Results fit -/

theorem getBitCount_lt (self : BigInt) : self.getBitCount < 2 ^ 32 :=
  self.count_lt

theorem abs_fits (op : BigInt) :
    ∃ res, op.abs = .ok res ∧ res.value = |op.value| := by
  have hle : bitLength |op.value| ≤ op.getBitCount :=
    bitLength_le_of_natAbs_le (by rw [Int.natAbs_abs])
  obtain ⟨res, hstore, hvalue⟩ := holds_store op.getBitCount_lt hle
  exact ⟨res, by rw [abs, hstore], hvalue⟩

theorem neg_holds (op : BigInt) : Holds op.neg (-op.value) :=
  holds_store op.getBitCount_lt (by rw [bitLength_neg, getBitCount])

section Checked

variable {overflowChecks : Bool} {op op1 op2 : BigInt}

theorem add_holds (h : max op1.getBitCount op2.getBitCount + 1 < 2 ^ 32) :
    Holds (add overflowChecks op1 op2) (op1.value + op2.value) := by
  rw [add, wordAdd_of_lt h]
  exact holds_store h (bitLength_add_le _ _)

theorem sub_holds (h : max op1.getBitCount op2.getBitCount + 1 < 2 ^ 32) :
    Holds (sub overflowChecks op1 op2) (op1.value - op2.value) := by
  rw [sub, wordAdd_of_lt h]
  exact holds_store h (bitLength_sub_le _ _)

theorem multiply_holds (h : op1.getBitCount + op2.getBitCount < 2 ^ 32) :
    Holds (multiply overflowChecks op1 op2) (op1.value * op2.value) := by
  rw [multiply, wordAdd_of_lt h]
  exact holds_store h (bitLength_mul_le _ _)

theorem square_holds (h : 2 * op.getBitCount < 2 ^ 32) :
    Holds (square overflowChecks op) (op.value * op.value) := by
  rw [square, wordMul_of_lt h]
  refine holds_store h ?_
  rw [Nat.two_mul]
  exact bitLength_mul_le _ _

end Checked

section Modular

variable {op op1 op2 n : BigInt}

theorem residue_holds (value : Int) (h : 2 ≤ n.value) :
    Holds (residue n value) (value % n.value) :=
  holds_store n.getBitCount_lt (bitLength_emod_le value (by omega))

theorem invMod_holds (h : 2 ≤ n.value)
    (hcoprime : Int.gcd op.value n.value = 1) :
    ∃ res, invMod op n = some res ∧ 0 ≤ res.value ∧ res.value < n.value ∧
      op.value * res.value % n.value = 1 := by
  obtain ⟨res, hres, hvalue⟩ :=
    residue_holds (Int.gcdA op.value n.value) h
  refine ⟨res, by rw [invMod, if_pos hcoprime, hres], ?_, ?_, ?_⟩
  · rw [hvalue]
    exact Int.emod_nonneg _ (by omega)
  · rw [hvalue]
    exact Int.emod_lt_of_pos _ (by omega)
  · have hbezout := Int.gcd_eq_gcd_ab op.value n.value
    rw [hcoprime] at hbezout
    have hproduct : op.value * Int.gcdA op.value n.value =
        1 + n.value * -Int.gcdB op.value n.value := by
      rw [Int.mul_neg]
      omega
    rw [hvalue, Int.mul_emod, Int.emod_emod_of_dvd _ (Int.dvd_refl _),
      ← Int.mul_emod, hproduct, Int.add_mul_emod_self_left]
    exact Int.emod_eq_of_lt (by decide) (by omega)

theorem expMod_holds (h : 2 ≤ n.value) :
    ∃ res, expMod op1 op2 n teeSuccess = some (.ok res) ∧
      res.value = op1.value ^ op2.value.toNat % n.value := by
  obtain ⟨res, hres, hvalue⟩ :=
    residue_holds (op1.value ^ op2.value.toNat) h
  exact ⟨res, by simp [expMod, teeCheck, hres], hvalue⟩

end Modular

theorem bitLength_coefficient_le {coefficient op : Int} {divisor bits : Nat}
    (h : coefficient.natAbs ≤ max 1 (op.natAbs / divisor))
    (hbits : bitLength op ≤ bits) :
    bitLength coefficient ≤ max 1 bits := by
  rw [bitLength_le_iff]
  have hop : op.natAbs < 2 ^ max 1 bits :=
    bitLength_le_iff.mp (Nat.le_trans hbits (Nat.le_max_right _ _))
  have hone : 1 < 2 ^ max 1 bits := Nat.one_lt_two_pow (by omega)
  have hquotient : op.natAbs / divisor ≤ op.natAbs := Nat.div_le_self _ _
  omega

theorem computeExtendedGcd_holds {u v : Int} {op1 op2 : BigInt}
    (hu : u.natAbs ≤
      max 1 (op2.value.natAbs / Int.gcd op1.value op2.value))
    (hv : v.natAbs ≤
      max 1 (op1.value.natAbs / Int.gcd op1.value op2.value)) :
    ∃ gcd uRes vRes, computeExtendedGcd u v op1 op2 = some (gcd, uRes, vRes) ∧
      gcd.value = Int.gcd op1.value op2.value ∧ uRes.value = u ∧
      vRes.value = v := by
  have hbits : max 1 (max op1.getBitCount op2.getBitCount) < 2 ^ 32 := by
    have := op1.getBitCount_lt
    have := op2.getBitCount_lt
    omega
  obtain ⟨gcd, hgcd, hgcdValue⟩ := holds_store hbits
    (Nat.le_trans (bitLength_gcd_le op1.value op2.value)
      (Nat.le_max_right 1 _))
  obtain ⟨uRes, huRes, huValue⟩ := holds_store hbits
    (bitLength_coefficient_le hu (Nat.le_max_right _ _))
  obtain ⟨vRes, hvRes, hvValue⟩ := holds_store hbits
    (bitLength_coefficient_le hv (Nat.le_max_left _ _))
  refine ⟨gcd, uRes, vRes, ?_, hgcdValue, huValue, hvValue⟩
  simp [computeExtendedGcd, hgcd, huRes, hvRes]

theorem octets_decode (self : BigInt) :
    decodeLe self.octets.reverse = self.value.natAbs := by
  rw [octets, List.reverse_reverse]
  apply decodeLe_encodeLe
  have hbits : bitLength self.value ≤ 8 * ((bitLength self.value + 7) / 8) := by
    omega
  calc self.value.natAbs < 2 ^ (8 * ((bitLength self.value + 7) / 8)) :=
        bitLength_le_iff.mp hbits
    _ = 256 ^ ((bitLength self.value + 7) / 8) := by rw [Nat.pow_mul]

theorem convertToOctetString_eq (self : BigInt) :
    self.convertToOctetString = .ok self.octets := by
  have hlength : self.octets.length ≤ (self.len - 2) * 4 := by
    have := self.fits
    simp only [octets, List.length_reverse, length_encodeLe]
    omega
  rw [convertToOctetString, if_neg (Nat.not_lt.mpr hlength)]
  simp [overlay]

end BigInt

open BigInt in
theorem bigInt_results_fit (overflowChecks : Bool) :
    (∀ op : BigInt, (∃ res, op.abs = .ok res ∧ res.value = |op.value|) ∧
      Holds op.neg (-op.value)) ∧
    (∀ op1 op2 : BigInt,
      max op1.getBitCount op2.getBitCount + 1 < 2 ^ 32 →
        Holds (add overflowChecks op1 op2) (op1.value + op2.value) ∧
          Holds (sub overflowChecks op1 op2) (op1.value - op2.value)) ∧
    (∀ op1 op2 : BigInt, op1.getBitCount + op2.getBitCount < 2 ^ 32 →
      Holds (multiply overflowChecks op1 op2) (op1.value * op2.value)) ∧
    (∀ op : BigInt, 2 * op.getBitCount < 2 ^ 32 →
      Holds (square overflowChecks op) (op.value * op.value)) ∧
    (∀ op op1 op2 n : BigInt, 2 ≤ n.value →
      Holds (module op n) (op.value % n.value) ∧
      Holds (addMod op1 op2 n) ((op1.value + op2.value) % n.value) ∧
      Holds (subMod op1 op2 n) ((op1.value - op2.value) % n.value) ∧
      Holds (mulMod op1 op2 n) (op1.value * op2.value % n.value) ∧
      Holds (squareMod op n) (op.value * op.value % n.value) ∧
      (Int.gcd op.value n.value = 1 →
        ∃ res, invMod op n = some res ∧ 0 ≤ res.value ∧
          res.value < n.value ∧ op.value * res.value % n.value = 1) ∧
      ∃ res, expMod op1 op2 n teeSuccess = some (.ok res) ∧
        res.value = op1.value ^ op2.value.toNat % n.value) ∧
    (∀ (op1 op2 : BigInt) (u v : Int),
      (op1.value ≠ 0 ∨ op2.value ≠ 0) →
      u.natAbs ≤ max 1 (op2.value.natAbs / Int.gcd op1.value op2.value) →
      v.natAbs ≤ max 1 (op1.value.natAbs / Int.gcd op1.value op2.value) →
        ∃ gcd uRes vRes,
          computeExtendedGcd u v op1 op2 = some (gcd, uRes, vRes) ∧
            gcd.value = Int.gcd op1.value op2.value ∧ uRes.value = u ∧
            vRes.value = v) ∧
    ∀ op : BigInt, ∃ bytes, op.convertToOctetString = .ok bytes ∧
      decodeLe bytes.reverse = op.value.natAbs := by
  refine ⟨fun op => ⟨abs_fits op, neg_holds op⟩,
    fun op1 op2 h => ⟨add_holds h, sub_holds h⟩,
    fun op1 op2 h => multiply_holds h, fun op h => square_holds h,
    fun op op1 op2 n h => ?_,
    fun op1 op2 u v _ hu hv => computeExtendedGcd_holds hu hv,
    fun op => ⟨op.octets, convertToOctetString_eq op, octets_decode op⟩⟩
  exact ⟨residue_holds _ h, residue_holds _ h, residue_holds _ h,
    residue_holds _ h, residue_holds _ h, invMod_holds h, expMod_holds h⟩

/-! ## Division -/

namespace BigInt

variable {overflowChecks : Bool} {op1 op2 : BigInt}

theorem quotientBits_lt (hne : op2.value ≠ 0) :
    op1.getBitCount - op2.getBitCount + 1 < 2 ^ 32 := by
  have hpos : 0 < op2.getBitCount := bitLength_pos hne
  have := op1.getBitCount_lt
  omega

theorem quotientBits_of_le (hne : op2.value ≠ 0)
    (h : op2.getBitCount ≤ op1.getBitCount) :
    quotientBits overflowChecks op1 op2 =
      some (op1.getBitCount - op2.getBitCount + 1) := by
  simp [quotientBits, wordSub_of_le h, wordAdd_of_lt (quotientBits_lt hne)]

theorem quotientBits_checked_of_lt (h : op1.getBitCount < op2.getBitCount) :
    quotientBits true op1 op2 = none := by
  -- The guard comes after the subtraction.
  simp [quotientBits, wordSub_checked_of_lt h]

theorem divide_of_le (hne : op2.value ≠ 0)
    (h : op2.getBitCount ≤ op1.getBitCount) :
    ∃ quotient remainder,
      divide overflowChecks op1 op2 = some (quotient, remainder) ∧
        quotient.value = op1.value.tdiv op2.value ∧
        remainder.value = op1.value.tmod op2.value := by
  obtain ⟨quotient, hquotient, hqValue⟩ :=
    holds_store (quotientBits_lt hne) (bitLength_tdiv_le hne h)
  obtain ⟨remainder, hremainder, hrValue⟩ :=
    holds_store op2.getBitCount_lt (bitLength_tmod_le op1.value hne)
  refine ⟨quotient, remainder, ?_, hqValue, hrValue⟩
  simp [divide, quotientBits_of_le hne h, hquotient, hremainder]

end BigInt

open BigInt in
theorem divide_defined_iff (overflowChecks : Bool) (op1 op2 : BigInt)
    (hne : op2.value ≠ 0) :
    ((∃ bits, quotientBits true op1 op2 = some bits) ∧
      ∃ quotient remainder,
        divide overflowChecks op1 op2 = some (quotient, remainder) ∧
          quotient.value = op1.value.tdiv op2.value ∧
          remainder.value = op1.value.tmod op2.value) ↔
      op2.getBitCount ≤ op1.getBitCount := by
  constructor
  · rintro ⟨⟨bits, hbits⟩, -⟩
    by_contra hlt
    rw [quotientBits_checked_of_lt (Nat.lt_of_not_le hlt)] at hbits
    cases hbits
  · intro h
    exact ⟨⟨_, quotientBits_of_le hne h⟩, divide_of_le hne h⟩

def BigInt.oneWord (value : Int) (h : bitLength value ≤ 32) : BigInt :=
  ⟨3, value, by decide, h, Nat.lt_of_le_of_lt h (by decide)⟩

theorem divide_seven_by_two :
    ∃ quotient remainder, BigInt.divide true (.oneWord 7 (by decide))
        (.oneWord 2 (by decide)) = some (quotient, remainder) ∧
      quotient.value = 3 ∧ remainder.value = 1 :=
  ((divide_defined_iff true (.oneWord 7 (by decide)) (.oneWord 2 (by decide))
    (by decide)).mpr (by decide)).2

theorem divide_panics_on_short_dividend :
    (BigInt.divide true (.oneWord 1 (by decide))
        (.oneWord 4 (by decide))).isNone ∧
      BigInt.quotientBits false (.oneWord 1 (by decide))
        (.oneWord 4 (by decide)) = some (2 ^ 32 - 1) := by
  decide

end TrustZoneSdk.Utee
