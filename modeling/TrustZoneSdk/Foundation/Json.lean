import Mathlib.Data.List.Basic

/-!
# JSON values

Values as a parser hands them on, with the lookups that programs make: every
lookup answers nothing when the value is of another kind.
-/

namespace TrustZoneSdk.Foundation

inductive Json where
  | null
  | bool (value : Bool)
  | number (literal : List Char)
  | string (text : List Char)
  | array (items : List Json)
  | object (members : List (List Char × Json))

namespace Json

def get (value : Json) (key : List Char) : Option Json :=
  match value with
  | object members => members.lookup key
  | _ => none

def asStr : Json → Option (List Char)
  | string text => some text
  | _ => none

def asBool : Json → Option Bool
  | bool value => some value
  | _ => none

def asArray : Json → Option (List Json)
  | array items => some items
  | _ => none

theorem asStr_eq_some_iff {value : Json} {text : List Char} :
    value.asStr = some text ↔ value = string text := by
  cases value <;> simp [asStr]

end Json

end TrustZoneSdk.Foundation
