import Mathlib.Data.Nat.Basic
import Mathlib.Data.List.Basic
import Mathlib.Algebra.Group.Nat.Defs

/-!
# Hexadecimal text of fixed width

Lower-case digits, most significant first, with leading zeros.  A width that
holds two numbers tells them apart.
-/

namespace TrustZoneSdk.Foundation

def hexDigit (value : Nat) : Char :=
  Char.ofNat (if value < 10 then 48 + value else 87 + value)

theorem hexDigit_injective {first second : Nat} (hfirst : first < 16)
    (hsecond : second < 16) (h : hexDigit first = hexDigit second) :
    first = second := by
  have hall : ∀ first < 16, ∀ second < 16,
      hexDigit first = hexDigit second → first = second := by
    decide
  exact hall first hfirst second hsecond h

def hexText : (width value : Nat) → List Char
  | 0, _ => []
  | width + 1, value => hexText width (value / 16) ++ [hexDigit (value % 16)]

theorem hexText_injective {width first second : Nat}
    (hfirst : first < 16 ^ width) (hsecond : second < 16 ^ width)
    (h : hexText width first = hexText width second) : first = second := by
  induction width generalizing first second with
  | zero => omega
  | succ width ih =>
      rw [Nat.pow_succ] at hfirst hsecond
      rw [hexText, hexText] at h
      obtain ⟨hhigh, hlow⟩ := List.append_inj' h rfl
      have hdigit : first % 16 = second % 16 :=
        hexDigit_injective (Nat.mod_lt _ (by decide))
          (Nat.mod_lt _ (by decide)) (List.singleton_injective hlow)
      have hquotient : first / 16 = second / 16 := by
        refine ih ?_ ?_ hhigh <;> omega
      omega

theorem mem_hexText {width value : Nat} {digit : Char}
    (h : digit ∈ hexText width value) :
    ∃ nibble, nibble < 16 ∧ digit = hexDigit nibble := by
  induction width generalizing value with
  | zero => simp [hexText] at h
  | succ width ih =>
      rw [hexText, List.mem_append, List.mem_singleton] at h
      rcases h with hhigh | hlow
      · exact ih hhigh
      · exact ⟨value % 16, Nat.mod_lt _ (by decide), hlow⟩

@[simp] theorem length_hexText (width value : Nat) :
    (hexText width value).length = width := by
  induction width generalizing value with
  | zero => rfl
  | succ width ih => simp [hexText, ih]

/-! ## Padded numbers -/

/-- A number in as few digits as it takes, as `LowerHex` writes it. -/
def lowerHex (value : Nat) : List Char :=
  if value < 16 then [hexDigit value]
  else lowerHex (value / 16) ++ [hexDigit (value % 16)]

def formatHex (width value : Nat) : List Char :=
  (lowerHex value).leftpad width '0'

theorem hexText_zero (width : Nat) :
    hexText width 0 = List.replicate width '0' := by
  induction width with
  | zero => rfl
  | succ width ih =>
      rw [hexText, Nat.zero_div, ih, List.replicate_succ']
      rfl

theorem formatHex_eq_hexText {width value : Nat} (hwidth : width ≠ 0)
    (h : value < 16 ^ width) : formatHex width value = hexText width value := by
  induction width generalizing value with
  | zero => exact absurd rfl hwidth
  | succ width ih =>
      rw [formatHex, lowerHex, hexText]
      by_cases hsmall : value < 16
      · have hzero : value / 16 = 0 := Nat.div_eq_of_lt hsmall
        have hmod : value % 16 = value := Nat.mod_eq_of_lt hsmall
        rw [if_pos hsmall, hzero, hmod, hexText_zero, List.leftpad]
        simp
      · have hquotient : value / 16 < 16 ^ width := by
          rw [Nat.pow_succ] at h
          omega
        have hpositive : width ≠ 0 := by
          rintro rfl
          omega
        rw [if_neg hsmall, ← ih hpositive hquotient, formatHex, List.leftpad,
          List.leftpad]
        simp

end TrustZoneSdk.Foundation
