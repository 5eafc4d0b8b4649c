import Mathlib.Data.List.Basic

/-!
# Enumerations over a code space with a catch-all

An enumeration lists named codes and keeps every other code in a catch-all
variant.  Reading a code looks it up among the named ones first.
-/

namespace TrustZoneSdk.Foundation

section CodeTable

variable {κ γ : Type} [DecidableEq γ]

def fromCode (toCode : κ → γ) (named : List κ) (catchAll : γ → κ)
    (code : γ) : κ :=
  (named.find? fun kind => toCode kind = code).getD (catchAll code)

theorem toCode_fromCode {toCode : κ → γ} {catchAll : γ → κ}
    (h : ∀ code, toCode (catchAll code) = code) (named : List κ) (code : γ) :
    toCode (fromCode toCode named catchAll code) = code := by
  unfold fromCode
  cases hfind : named.find? fun kind => toCode kind = code with
  | none => exact h code
  | some kind => simpa using List.find?_some hfind

end CodeTable

end TrustZoneSdk.Foundation
