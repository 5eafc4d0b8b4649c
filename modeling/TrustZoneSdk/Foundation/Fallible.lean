import Mathlib.Data.Finset.Sort

/-!
# Fallible stateful computations

A computation over a mutable state either returns, reports an error, or is
killed under way.  In all three cases the state reached so far survives: an
early return does not roll anything back.  Only errors can be caught; nothing
runs after a kill.
-/

namespace TrustZoneSdk.Foundation

inductive Halt (ε : Type) where
  | failed (error : ε)
  | killed
  deriving DecidableEq, Repr

def Halt.map {ε ε' : Type} (f : ε → ε') : Halt ε → Halt ε'
  | .failed error => .failed (f error)
  | .killed => .killed

abbrev Fallible (ε σ α : Type) := EStateM (Halt ε) σ α

abbrev Run (ε σ α : Type) := EStateM.Result (Halt ε) σ α

namespace Run

variable {ε σ α : Type}

def state : Run ε σ α → σ
  | .ok _ state => state
  | .error _ state => state

def outcome : Run ε σ α → Except (Halt ε) α
  | .ok value _ => .ok value
  | .error halt _ => .error halt

@[simp] theorem state_ok (value : α) (s : σ) :
    state (.ok value s : Run ε σ α) = s := rfl

@[simp] theorem state_error (halt : Halt ε) (s : σ) :
    state (.error halt s : Run ε σ α) = s := rfl

@[simp] theorem outcome_ok (value : α) (s : σ) :
    outcome (.ok value s : Run ε σ α) = .ok value := rfl

@[simp] theorem outcome_error (halt : Halt ε) (s : σ) :
    outcome (.error halt s : Run ε σ α) = .error halt := rfl

end Run

namespace Fallible

variable {ε ε' σ τ α β : Type}

def fail (error : ε) : Fallible ε σ α := throw (.failed error)

def kill : Fallible ε σ α := throw .killed

def ofExcept : Except ε α → Fallible ε σ α
  | .ok value => pure value
  | .error error => fail error

def mapError (f : ε → ε') (x : Fallible ε σ α) : Fallible ε' σ α :=
  EStateM.adaptExcept (Halt.map f) x

/-- Hand a reported error to the caller as a value.  A kill passes through. -/
def attempt (x : Fallible ε σ α) : Fallible ε' σ (Except ε α) := fun s =>
  match x.run s with
  | .ok value t => .ok (.ok value) t
  | .error (.failed error) t => .ok (.error error) t
  | .error .killed t => .error .killed t

def zoom (get : τ → σ) (set : τ → σ → τ) (x : Fallible ε σ α) :
    Fallible ε τ α := fun s =>
  match x.run (get s) with
  | .ok value t => .ok value (set s t)
  | .error halt t => .error halt (set s t)

@[simp] theorem run_map (f : α → β) (x : Fallible ε σ α) (s : σ) :
    EStateM.run (f <$> x) s =
      match x.run s with
      | .ok value t => .ok (f value) t
      | .error halt t => .error halt t := by
  change EStateM.map f x s = _
  unfold EStateM.map EStateM.run
  cases x s <;> rfl

@[simp] theorem run_fail (error : ε) (s : σ) :
    (fail error : Fallible ε σ α).run s = .error (.failed error) s := rfl

@[simp] theorem run_kill (s : σ) :
    (kill : Fallible ε σ α).run s = .error .killed s := rfl

@[simp] theorem run_ofExcept_ok (value : α) (s : σ) :
    (ofExcept (.ok value) : Fallible ε σ α).run s = .ok value s := rfl

@[simp] theorem run_ofExcept_error (error : ε) (s : σ) :
    (ofExcept (.error error) : Fallible ε σ α).run s =
      .error (.failed error) s := rfl

@[simp] theorem run_mapError (f : ε → ε') (x : Fallible ε σ α) (s : σ) :
    (mapError f x).run s =
      match x.run s with
      | .ok value t => .ok value t
      | .error halt t => .error (halt.map f) t := by
  rw [mapError, EStateM.run_adaptExcept]
  cases x.run s <;> rfl

@[simp] theorem run_attempt (x : Fallible ε σ α) (s : σ) :
    (attempt x : Fallible ε' σ (Except ε α)).run s =
      match x.run s with
      | .ok value t => .ok (.ok value) t
      | .error (.failed error) t => .ok (.error error) t
      | .error .killed t => .error .killed t := rfl

@[simp] theorem run_zoom (get : τ → σ) (set : τ → σ → τ)
    (x : Fallible ε σ α) (s : τ) :
    (zoom get set x).run s =
      match x.run (get s) with
      | .ok value t => .ok value (set s t)
      | .error halt t => .error halt (set s t) := rfl

end Fallible

/--
The order in which one traversal of an unordered collection visits its
elements.  Every element is visited once; nothing else is promised, and two
traversals need not agree.
-/
structure IterationOrder (α : Type) where
  toList : Finset α → List α
  nodup : ∀ elements, (toList elements).Nodup
  mem_toList : ∀ elements element,
    element ∈ toList elements ↔ element ∈ elements

attribute [simp] IterationOrder.mem_toList

def IterationOrder.sorted {α : Type} [LinearOrder α] : IterationOrder α where
  toList elements := elements.sort (· ≤ ·)
  nodup elements := elements.sort_nodup (· ≤ ·)
  mem_toList _ _ := Finset.mem_sort (· ≤ ·)

@[simp] theorem IterationOrder.toFinset_toList {α : Type} [DecidableEq α]
    (order : IterationOrder α) (elements : Finset α) :
    (order.toList elements).toFinset = elements := by
  ext element
  simp

end TrustZoneSdk.Foundation
