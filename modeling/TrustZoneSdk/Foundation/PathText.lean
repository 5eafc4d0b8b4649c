import Mathlib.Data.List.Basic

/-!
# Paths as texts

Paths of a system with one separator, as lists of characters or of bytes.
Joining replaces the base by an absolute path and otherwise puts one separator
between the two, unless the base is empty or ends in one.
-/

namespace TrustZoneSdk.Foundation

variable {Symbol : Type} [DecidableEq Symbol] (separator : Symbol)

def IsAbsolute (path : List Symbol) : Prop := path.head? = some separator

instance (path : List Symbol) : Decidable (IsAbsolute separator path) :=
  inferInstanceAs (Decidable (_ = _))

/-- What has to stand between a path and its continuation. -/
def glue (base : List Symbol) : List Symbol :=
  if base = [] ∨ base.getLast? = some separator then [] else [separator]

def joinPath (base path : List Symbol) : List Symbol :=
  if IsAbsolute separator path then path
  else base ++ glue separator base ++ path

variable {separator} {base path rest : List Symbol}

theorem joinPath_of_absolute (h : IsAbsolute separator path) :
    joinPath separator base path = path :=
  if_pos h

theorem joinPath_of_relative (h : ¬ IsAbsolute separator path) :
    joinPath separator base path = base ++ glue separator base ++ path :=
  if_neg h

theorem glue_append_cons (front : List Symbol) (first : Symbol)
    (path : List Symbol) :
    glue separator (front ++ first :: path) =
      glue separator (first :: path) := by
  simp [glue, List.getLast?_append, List.getLast?_cons]

theorem glue_glue (base : List Symbol) :
    glue separator (base ++ glue separator base) = [] := by
  by_cases h : base = [] ∨ base.getLast? = some separator
  · simp [glue, h]
  · simp [glue, h]

theorem isAbsolute_joinPath (hrest : ¬ IsAbsolute separator rest) :
    IsAbsolute separator (joinPath separator path rest) ↔
      IsAbsolute separator path := by
  rw [joinPath_of_relative hrest]
  cases path with
  | nil => simpa [IsAbsolute, glue] using hrest
  | cons first path => rfl

theorem joinPath_assoc (hrest : ¬ IsAbsolute separator rest) :
    joinPath separator (joinPath separator base path) rest =
      joinPath separator base (joinPath separator path rest) := by
  by_cases hpath : IsAbsolute separator path
  · have hjoined := (isAbsolute_joinPath hrest).mpr hpath
    rw [joinPath_of_absolute hpath, joinPath_of_absolute hjoined]
  · have hjoined := mt (isAbsolute_joinPath hrest).mp hpath
    rw [joinPath_of_relative hpath, joinPath_of_relative hjoined,
      joinPath_of_relative hrest, joinPath_of_relative hrest]
    cases path with
    | nil =>
        rw [List.append_nil, glue_glue]
        simp [glue]
    | cons first path =>
        rw [glue_append_cons]
        simp only [List.append_assoc]

end TrustZoneSdk.Foundation
