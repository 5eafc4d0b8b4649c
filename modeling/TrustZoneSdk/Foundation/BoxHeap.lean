import Mathlib.Logic.Function.Basic
import TrustZoneSdk.Foundation.Fallible

/-!
# Boxes behind raw pointers

A heap of boxed values addressed by machine addresses, with address zero for
null.  Ownership is not visible in an address: whoever holds one may read,
write or release the box, and using a released box is a trap.  `Represents`
says that a family of pointers owns the heap: every pointer is not null and
has a box of its own, and every box is reached by a pointer.
-/

namespace TrustZoneSdk.Foundation

inductive HeapEvent (α : Type) where
  | allocated (value : α)
  | released (value : α)
  deriving DecidableEq, Repr

structure BoxHeap (α : Type) where
  cells : Nat → Option α
  log : List (HeapEvent α)

namespace BoxHeap

variable {α : Type}

def empty : BoxHeap α := ⟨fun _ => none, []⟩

def alloc (heap : BoxHeap α) (address : Nat) (value : α) : BoxHeap α :=
  ⟨Function.update heap.cells address (some value),
    heap.log ++ [.allocated value]⟩

def write (heap : BoxHeap α) (address : Nat) (value : α) : BoxHeap α :=
  ⟨Function.update heap.cells address (some value), heap.log⟩

def release (heap : BoxHeap α) (address : Nat) (value : α) : BoxHeap α :=
  ⟨Function.update heap.cells address none, heap.log ++ [.released value]⟩

end BoxHeap

/-- The pointers own the boxes, and the boxes hold the values. -/
structure Represents {ι α : Type} (cells : Nat → Option α)
    (pointers : ι → Option Nat) (values : ι → Option α) : Prop where
  owned : ∀ owner address, pointers owner = some address →
    address ≠ 0 ∧ ∃ value, cells address = some value ∧
      values owner = some value
  absent : ∀ owner, pointers owner = none → values owner = none
  unshared : ∀ first second address, pointers first = some address →
    pointers second = some address → first = second
  covered : ∀ address value, cells address = some value →
    ∃ owner, pointers owner = some address

namespace Represents

variable {ι α : Type} {cells : Nat → Option α} {pointers : ι → Option Nat}
  {values : ι → Option α} {owner : ι} {address : Nat}

theorem empty :
    Represents (fun _ => none : Nat → Option α) (fun _ : ι => none)
      (fun _ => none) :=
  ⟨by simp, by simp, by simp, by simp⟩

theorem address_ne (h : Represents cells pointers values) {other : ι}
    {address' : Nat} (hpointer : pointers owner = some address)
    (hother : pointers other = some address') (hne : other ≠ owner) :
    address' ≠ address := by
  rintro rfl
  exact hne (h.unshared other owner address' hother hpointer)

variable [DecidableEq ι]

theorem alloc (h : Represents cells pointers values) (hnull : address ≠ 0)
    (hfresh : cells address = none) (howner : pointers owner = none)
    (value : α) :
    Represents (Function.update cells address (some value))
      (Function.update pointers owner (some address))
      (Function.update values owner (some value)) where
  owned := by
    intro other address' hpointer
    by_cases hsame : other = owner
    · subst other
      obtain rfl : address = address' := by simpa using hpointer
      exact ⟨hnull, value, by simp⟩
    · rw [Function.update_of_ne hsame] at hpointer ⊢
      obtain ⟨hnull', value', hcell, hvalue⟩ := h.owned _ _ hpointer
      have hne : address' ≠ address := by
        rintro rfl
        simp [hfresh] at hcell
      exact ⟨hnull', value', by rw [Function.update_of_ne hne, hcell], hvalue⟩
  absent := by
    intro other hpointer
    have hsame : other ≠ owner := by
      rintro rfl
      simp at hpointer
    rw [Function.update_of_ne hsame] at hpointer ⊢
    exact h.absent other hpointer
  unshared := by
    have hown : ∀ other, other ≠ owner →
        Function.update pointers owner (some address) other ≠
          some address := by
      intro other hsame hpointer
      rw [Function.update_of_ne hsame] at hpointer
      obtain ⟨-, value', hcell, -⟩ := h.owned _ _ hpointer
      simp [hfresh] at hcell
    intro first second address' hfirst hsecond
    by_cases hone : first = owner
    · subst first
      obtain rfl : address = address' := by simpa using hfirst
      by_contra hne
      exact hown second (Ne.symm hne) hsecond
    · by_cases htwo : second = owner
      · subst second
        obtain rfl : address = address' := by simpa using hsecond
        exact absurd hfirst (hown first hone)
      · rw [Function.update_of_ne hone] at hfirst
        rw [Function.update_of_ne htwo] at hsecond
        exact h.unshared first second address' hfirst hsecond
  covered := by
    intro address' value' hcell
    by_cases hsame : address' = address
    · exact ⟨owner, by simp [hsame]⟩
    · rw [Function.update_of_ne hsame] at hcell
      obtain ⟨other, hpointer⟩ := h.covered address' value' hcell
      have hne : other ≠ owner := by
        rintro rfl
        simp [howner] at hpointer
      exact ⟨other, by rw [Function.update_of_ne hne, hpointer]⟩

theorem write (h : Represents cells pointers values)
    (hpointer : pointers owner = some address) (value : α) :
    Represents (Function.update cells address (some value)) pointers
      (Function.update values owner (some value)) where
  owned := by
    intro other address' hother
    by_cases hsame : other = owner
    · subst other
      obtain rfl : address = address' := by simpa [hpointer] using hother
      exact ⟨(h.owned _ _ hpointer).1, value, by simp⟩
    · obtain ⟨hnull, value', hcell, hvalue⟩ := h.owned _ _ hother
      refine ⟨hnull, value', ?_, by rw [Function.update_of_ne hsame, hvalue]⟩
      rw [Function.update_of_ne (h.address_ne hpointer hother hsame), hcell]
  absent := by
    intro other hother
    have hsame : other ≠ owner := by
      rintro rfl
      simp [hpointer] at hother
    rw [Function.update_of_ne hsame]
    exact h.absent other hother
  unshared := h.unshared
  covered := by
    intro address' value' hcell
    by_cases hsame : address' = address
    · exact ⟨owner, by rw [hsame, hpointer]⟩
    · rw [Function.update_of_ne hsame] at hcell
      exact h.covered address' value' hcell

theorem release (h : Represents cells pointers values)
    (hpointer : pointers owner = some address) :
    Represents (Function.update cells address none)
      (Function.update pointers owner none)
      (Function.update values owner none) where
  owned := by
    intro other address' hother
    have hsame : other ≠ owner := by
      rintro rfl
      simp at hother
    rw [Function.update_of_ne hsame] at hother ⊢
    obtain ⟨hnull, value', hcell, hvalue⟩ := h.owned _ _ hother
    refine ⟨hnull, value', ?_, hvalue⟩
    rw [Function.update_of_ne (h.address_ne hpointer hother hsame), hcell]
  absent := by
    intro other hother
    by_cases hsame : other = owner
    · simp [hsame]
    · rw [Function.update_of_ne hsame] at hother ⊢
      exact h.absent other hother
  unshared := by
    intro first second address' hfirst hsecond
    have hkept : ∀ other, Function.update pointers owner none other =
        some address' → pointers other = some address' := by
      intro other hother
      have hsame : other ≠ owner := by
        rintro rfl
        simp at hother
      rwa [Function.update_of_ne hsame] at hother
    exact h.unshared first second address' (hkept _ hfirst)
      (hkept _ hsecond)
  covered := by
    intro address' value' hcell
    have hsame : address' ≠ address := by
      rintro rfl
      simp at hcell
    rw [Function.update_of_ne hsame] at hcell
    obtain ⟨other, hother⟩ := h.covered address' value' hcell
    have hne : other ≠ owner := by
      rintro rfl
      rw [hpointer, Option.some.injEq] at hother
      exact hsame hother.symm
    exact ⟨other, by rw [Function.update_of_ne hne, hother]⟩

end Represents

end TrustZoneSdk.Foundation
