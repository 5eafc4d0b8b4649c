import Mathlib.Algebra.Group.Nat.Defs

/-!
# Arithmetic on machine words

An addition, subtraction or multiplication of words that leaves their range
ends the program if it was compiled with overflow checks, and wraps if not.
-/

namespace TrustZoneSdk.Foundation

section Word

variable (bits : Nat)

def checkedSum (first second : Nat) : Option Nat :=
  if first + second < 2 ^ bits then some (first + second) else none

variable (overflowChecks : Bool)

/-- An exact result that the word may be too narrow for. -/
def narrow (exact : Nat) : Option Nat :=
  if exact < 2 ^ bits then some exact
  else if overflowChecks then none
  else some (exact % 2 ^ bits)

def wordAdd (first second : Nat) : Option Nat :=
  narrow bits overflowChecks (first + second)

def wordMul (first second : Nat) : Option Nat :=
  narrow bits overflowChecks (first * second)

def wordSub (first second : Nat) : Option Nat :=
  if second ≤ first then some (first - second)
  else if overflowChecks then none
  else some (2 ^ bits + first - second)

variable {bits overflowChecks} {first second : Nat}

theorem checkedSum_eq_some {sum : Nat} :
    checkedSum bits first second = some sum ↔
      first + second < 2 ^ bits ∧ sum = first + second := by
  by_cases h : first + second < 2 ^ bits
  · simp [checkedSum, h, eq_comm]
  · simp [checkedSum, h]

theorem checkedSum_of_lt (h : first + second < 2 ^ bits) :
    checkedSum bits first second = some (first + second) :=
  if_pos h

theorem checkedSum_of_not_lt (h : ¬ first + second < 2 ^ bits) :
    checkedSum bits first second = none :=
  if_neg h

theorem wordAdd_of_lt (h : first + second < 2 ^ bits) :
    wordAdd bits overflowChecks first second = some (first + second) :=
  if_pos h

theorem wordMul_of_lt (h : first * second < 2 ^ bits) :
    wordMul bits overflowChecks first second = some (first * second) :=
  if_pos h

theorem wordSub_of_le (h : second ≤ first) :
    wordSub bits overflowChecks first second = some (first - second) :=
  if_pos h

theorem wordSub_checked_of_lt (h : first < second) :
    wordSub bits true first second = none := by
  simp [wordSub, Nat.not_le.mpr h]

end Word

end TrustZoneSdk.Foundation
