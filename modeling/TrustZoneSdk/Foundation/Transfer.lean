import Mathlib.Algebra.Order.Group.Multiset
import TrustZoneSdk.Foundation.Fallible

/-!
# Computations that hand resources on

A computation takes over some resources from its caller and hands others
back.  `Transfers` says which, when it returns and when it reports an error;
it is never killed.  What else the caller or the state holds is not touched,
so a triple about the resources of one call fits into every larger state.
-/

namespace TrustZoneSdk.Foundation

variable {ε ε' σ R α β : Type}

/--
`Held state loose` says that all is accounted for in `state` when `loose` is
in the hands of the running computation.  It takes over `before` and is left
with `after` when it returns, with `lost` when it fails.
-/
def Transfers (Held : σ → Multiset R → Prop) (before : Multiset R)
    (x : Fallible ε σ α) (after : α → Multiset R) (lost : Multiset R) :
    Prop :=
  ∀ state rest, Held state (before + rest) →
    match x.run state with
    | .ok value next => Held next (after value + rest)
    | .error (.failed _) next => Held next (lost + rest)
    | .error .killed _ => False

namespace Transfers

variable {Held : σ → Multiset R → Prop} {before lost lost' : Multiset R}
  {x : Fallible ε σ α} {after : α → Multiset R}

theorem of_eq {held : Multiset R} (h : Transfers Held before x after lost)
    (heq : held = before) : Transfers Held held x after lost :=
  heq ▸ h

theorem pure {value : α} (h : before = after value) :
    Transfers Held before (Pure.pure value : Fallible ε σ α) after lost := by
  intro state rest hheld
  rw [h] at hheld
  exact hheld

theorem fail (error : ε) :
    Transfers Held lost (Fallible.fail error : Fallible ε σ α) after lost :=
  fun _ _ hheld => hheld

theorem ofExcept (result : Except ε α) :
    Transfers Held lost (Fallible.ofExcept result) (fun _ => lost) lost := by
  cases result with
  | ok value => exact pure rfl
  | error error => exact fail error

theorem bind {f : α → Fallible ε σ β} {final : β → Multiset R}
    (h : Transfers Held before x after lost)
    (hnext : ∀ value, Transfers Held (after value) (f value) final lost) :
    Transfers Held before (x >>= f) final lost := by
  intro state rest hheld
  have hfirst := h state rest hheld
  rw [EStateM.run_bind]
  cases hrun : x.run state with
  | ok value next =>
      rw [hrun] at hfirst
      exact hnext value next rest hfirst
  | error halt next =>
      rw [hrun] at hfirst
      cases halt <;> exact hfirst

theorem attempt (h : Transfers Held before x after lost) :
    Transfers Held before
      (Fallible.attempt x : Fallible ε' σ (Except ε α))
      (fun
        | .ok value => after value
        | .error _ => lost) lost' := by
  intro state rest hheld
  have hrun := h state rest hheld
  rw [Fallible.run_attempt]
  rcases hx : x.run state with value | halt
  · rw [hx] at hrun
    exact hrun
  · rw [hx] at hrun
    cases halt <;> exact hrun

theorem modify_state {f : σ → σ} {after : Multiset R}
    (h : ∀ state rest, Held state (before + rest) →
      Held (f state) (after + rest)) :
    Transfers Held before (modify f : Fallible ε σ PUnit) (fun _ => after)
      lost :=
  h

theorem forM {f : α → Fallible ε σ PUnit} (list : List α)
    (h : ∀ element ∈ list, Transfers Held before (f element)
      (fun _ => before) before) :
    Transfers Held before (list.forM f) (fun _ => before) before := by
  induction list with
  | nil => exact pure rfl
  | cons element list ih =>
      refine bind (h element List.mem_cons_self) fun _ => ih ?_
      exact fun other hother => h other (List.mem_cons_of_mem _ hother)

end Transfers

end TrustZoneSdk.Foundation
