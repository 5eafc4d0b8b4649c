import Mathlib.Data.Set.Basic
import TrustZoneSdk.Foundation.Fallible

/-!
# Computations with a footprint

Two runs of one computation are coupled by a relation on states when related
states give the same outcome and related states again.  `Framed` is the
relation between two stores that agree on a footprint and are each pinned to a
fixed store outside it.  A computation coupled by it reads and writes nothing
but the footprint.
-/

namespace TrustZoneSdk.Foundation

section Coupling

variable {ε ε' σ τ α β : Type}

/-- The two computations agree when started in these two states. -/
def CoupledAt (R : σ → σ → Prop) (x y : Fallible ε σ α) (s t : σ) : Prop :=
  Run.outcome (x.run s) = Run.outcome (y.run t) ∧
    R (Run.state (x.run s)) (Run.state (y.run t))

def Coupled (R : σ → σ → Prop) (x y : Fallible ε σ α) : Prop :=
  ∀ s t, R s t → CoupledAt R x y s t

namespace Coupled

variable {R : σ → σ → Prop}

theorem pure (value : α) :
    Coupled R (Pure.pure value : Fallible ε σ α) (Pure.pure value) :=
  fun _ _ h => ⟨rfl, h⟩

theorem fail (error : ε) :
    Coupled R (Fallible.fail error : Fallible ε σ α) (Fallible.fail error) :=
  fun _ _ h => ⟨rfl, h⟩

/-- The continuations need only agree on values the first part can return. -/
theorem bind_returns {x y : Fallible ε σ α} {f g : α → Fallible ε σ β}
    (h : Coupled R x y)
    (hnext : ∀ value s t, x.run s = .ok value t →
      Coupled R (f value) (g value)) :
    Coupled R (x >>= f) (y >>= g) := by
  intro s t hst
  have hfirst := h s t hst
  unfold CoupledAt at hfirst ⊢
  rw [EStateM.run_bind, EStateM.run_bind]
  cases hx : x.run s <;> cases hy : y.run t <;>
    simp only [hx, hy, Run.outcome_ok, Run.outcome_error, Run.state_ok,
      Run.state_error, Except.ok.injEq, Except.error.injEq, reduceCtorEq,
      false_and] at hfirst ⊢
  · obtain ⟨rfl, hrest⟩ := hfirst
    exact hnext _ _ _ hx _ _ hrest
  · exact hfirst

theorem bind {x y : Fallible ε σ α} {f g : α → Fallible ε σ β}
    (h : Coupled R x y) (hnext : ∀ value, Coupled R (f value) (g value)) :
    Coupled R (x >>= f) (y >>= g) :=
  bind_returns h fun value _ _ _ => hnext value

theorem get_bind {f g : σ → Fallible ε σ α}
    (h : ∀ s t, R s t → CoupledAt R (f s) (g t) s t) :
    Coupled R (MonadState.get >>= f) (MonadState.get >>= g) := h

theorem modify_state {f g : σ → σ} (h : ∀ s t, R s t → R (f s) (g t)) :
    Coupled R (modify f : Fallible ε σ PUnit) (modify g) :=
  fun s t hst => ⟨rfl, h s t hst⟩

theorem mapError {x y : Fallible ε σ α} (f : ε → ε') (h : Coupled R x y) :
    Coupled R (x.mapError f) (y.mapError f) := by
  intro s t hst
  have hrun := h s t hst
  unfold CoupledAt at hrun ⊢
  rw [Fallible.run_mapError, Fallible.run_mapError]
  cases hx : x.run s <;> cases hy : y.run t <;> simp_all

theorem attempt {x y : Fallible ε σ α} (h : Coupled R x y) :
    Coupled R (x.attempt : Fallible ε' σ (Except ε α)) y.attempt := by
  intro s t hst
  have hrun := h s t hst
  unfold CoupledAt at hrun ⊢
  rw [Fallible.run_attempt, Fallible.run_attempt]
  rcases hx : x.run s with value | halt <;> rcases hy : y.run t with _ | _ <;>
    simp only [hx, hy, Run.outcome_ok, Run.outcome_error, Run.state_ok,
      Run.state_error, Except.ok.injEq, Except.error.injEq, reduceCtorEq,
      false_and] at hrun ⊢
  · exact hrun
  · obtain ⟨rfl, hrest⟩ := hrun
    cases halt <;> exact ⟨rfl, hrest⟩

theorem zoom {S : τ → τ → Prop} {get : σ → τ} {set : σ → τ → σ}
    {x y : Fallible ε τ α} (hget : ∀ s t, R s t → S (get s) (get t))
    (hset : ∀ s t u v, R s t → S u v → R (set s u) (set t v))
    (h : Coupled S x y) :
    Coupled R (Fallible.zoom get set x) (Fallible.zoom get set y) := by
  intro s t hst
  have hrun := h (get s) (get t) (hget s t hst)
  unfold CoupledAt at hrun ⊢
  rw [Fallible.run_zoom, Fallible.run_zoom]
  cases hx : x.run (get s) <;> cases hy : y.run (get t) <;>
    simp_all

theorem forM {f g : α → Fallible ε σ PUnit} (list : List α)
    (h : ∀ element ∈ list, Coupled R (f element) (g element)) :
    Coupled R (list.forM f) (list.forM g) := by
  induction list with
  | nil => exact pure PUnit.unit
  | cons element list ih =>
      refine bind (h element List.mem_cons_self) fun _ => ih ?_
      exact fun other hother => h other (List.mem_cons_of_mem _ hother)

theorem foldlM {f g : β → α → Fallible ε σ β} (list : List α)
    (h : ∀ element ∈ list, ∀ result,
      Coupled R (f result element) (g result element)) (result : β) :
    Coupled R (list.foldlM f result) (list.foldlM g result) := by
  induction list generalizing result with
  | nil => exact pure result
  | cons element list ih =>
      rw [List.foldlM_cons, List.foldlM_cons]
      refine bind (h element List.mem_cons_self result) fun next =>
        ih ?_ next
      exact fun other hother => h other (List.mem_cons_of_mem _ hother)

end Coupled

end Coupling

/-! ## Stores that agree on a footprint -/

/-- Equal on the footprint, and equal to `outside` and `outside'` off it. -/
structure Framed {κ β : Type} (footprint : Set κ) (outside outside' : κ → β)
    (store store' : κ → β) : Prop where
  inside : ∀ key ∈ footprint, store key = store' key
  left : ∀ key ∉ footprint, store key = outside key
  right : ∀ key ∉ footprint, store' key = outside' key

namespace Framed

variable {κ β : Type} {footprint : Set κ} {outside outside' : κ → β}
  {store store' : κ → β}

theorem of_eqOn (h : ∀ key ∈ footprint, store key = store' key) :
    Framed footprint store store' store store' :=
  ⟨h, fun _ _ => rfl, fun _ _ => rfl⟩

theorem update [DecidableEq κ]
    (h : Framed footprint outside outside' store store') {key : κ}
    (hkey : key ∈ footprint) (value : β) :
    Framed footprint outside outside' (Function.update store key value)
      (Function.update store' key value) where
  inside := by
    intro other hother
    by_cases hsame : other = key
    · simp [hsame]
    · simp [Function.update_of_ne hsame, h.inside other hother]
  left := by
    intro other hother
    have hsame : other ≠ key := by
      rintro rfl
      exact hother hkey
    rw [Function.update_of_ne hsame, h.left other hother]
  right := by
    intro other hother
    have hsame : other ≠ key := by
      rintro rfl
      exact hother hkey
    rw [Function.update_of_ne hsame, h.right other hother]

end Framed

end TrustZoneSdk.Foundation
