import Mathlib.Logic.Function.Basic

/-!
# Publishing files in a shared directory

A directory that many processes change at once.  Some names are public; the
others are scratch.  `Certified` says that a public name holds what it held at
the start, or contents that are good for it.  Whatever happens to scratch
names keeps that, and so does renaming a scratch file with good contents onto
a public name.
-/

namespace TrustZoneSdk.Foundation

abbrev Directory (Name Contents : Type) := Name → Option Contents

section Directory

variable {Name Contents : Type} (directory : Directory Name Contents)

/-- Public names hold their first contents or contents that are good. -/
def Certified (Public : Name → Prop) (initial : Directory Name Contents)
    (Good : Name → Contents → Prop) : Prop :=
  ∀ name, Public name → directory name = initial name ∨
    ∃ contents, directory name = some contents ∧ Good name contents

variable [DecidableEq Name]

def Directory.write (name : Name) (contents : Contents) :
    Directory Name Contents :=
  Function.update directory name (some contents)

def Directory.remove (name : Name) : Directory Name Contents :=
  Function.update directory name none

/-- One step: nobody sees the destination half written or missing. -/
def Directory.rename (source dest : Name) : Directory Name Contents :=
  Function.update (Function.update directory dest (directory source)) source
    none

end Directory

namespace Certified

variable {Name Contents : Type}
  {directory initial : Directory Name Contents} {Public : Name → Prop}
  {Good Better : Name → Contents → Prop} {scratch dest : Name}

theorem start : Certified initial Public initial Good :=
  fun _ _ => Or.inl rfl

theorem mono (h : Certified directory Public initial Good)
    (hbetter : ∀ name contents, Good name contents → Better name contents) :
    Certified directory Public initial Better := by
  intro name hname
  refine (h name hname).imp_right ?_
  rintro ⟨contents, hcontents, hgood⟩
  exact ⟨contents, hcontents, hbetter name contents hgood⟩

theorem congr {next : Directory Name Contents}
    (h : Certified directory Public initial Good)
    (hsame : ∀ name, Public name → next name = directory name) :
    Certified next Public initial Good := by
  intro name hname
  rw [hsame name hname]
  exact h name hname

variable [DecidableEq Name]

theorem update (h : Certified directory Public initial Good)
    (hscratch : ¬ Public scratch) (contents : Option Contents) :
    Certified (Function.update directory scratch contents) Public initial
      Good := by
  refine h.congr fun name hname => ?_
  have hne : name ≠ scratch := fun heq => hscratch (heq ▸ hname)
  exact Function.update_of_ne hne contents directory

theorem rename (h : Certified directory Public initial Good)
    (hscratch : ¬ Public scratch) {contents : Contents}
    (hcontents : directory scratch = some contents)
    (hgood : Good dest contents) :
    Certified (directory.rename scratch dest) Public initial Good := by
  refine update ?_ hscratch none
  intro name hname
  by_cases hdest : name = dest
  · subst hdest
    rw [Function.update_self]
    exact Or.inr ⟨contents, hcontents, hgood⟩
  · rw [Function.update_of_ne hdest]
    exact h name hname

end Certified

end TrustZoneSdk.Foundation
