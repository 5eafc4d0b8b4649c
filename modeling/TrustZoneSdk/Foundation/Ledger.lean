import Mathlib.Algebra.BigOperators.Group.Multiset.Basic
import Mathlib.Data.Finset.Erase
import Mathlib.Data.Finset.Lattice.Fold
import Mathlib.Order.Lattice.Nat

/-!
# Resource ledgers

A log of acquisitions, uses and releases is replayed against the set of
resources that are outstanding.  The replay stops at the first entry that
breaks the discipline: a resource acquired while it is outstanding or before
the resource it hangs on, used or released while it is not outstanding, or
released while another one still hangs on it.
-/

namespace TrustZoneSdk.Foundation.Ledger

inductive Event (R : Type) where
  | acquire (resource : R)
  | use (resource : R)
  | release (resource : R)
  deriving DecidableEq, Repr

/-! ## Replaying a log -/

section Replay

variable {R : Type} [DecidableEq R] (parent : R → Option R)

def post (outstanding : Finset R) : Event R → Option (Finset R)
  | .acquire resource =>
      if resource ∉ outstanding ∧
          ∀ above ∈ parent resource, above ∈ outstanding then
        some (insert resource outstanding)
      else none
  | .use resource =>
      if resource ∈ outstanding then some outstanding else none
  | .release resource =>
      if resource ∈ outstanding ∧
          ∀ below ∈ outstanding, parent below ≠ some resource then
        some (outstanding.erase resource)
      else none

def replay (events : List (Event R)) : Option (Finset R) :=
  events.foldlM (post parent) ∅

def settle (outstanding : Finset R) : Event R → Finset R
  | .acquire resource => insert resource outstanding
  | .use _ => outstanding
  | .release resource => outstanding.erase resource

def outstanding (events : List (Event R)) : Finset R :=
  events.foldl settle ∅

/-- The log keeps the discipline and leaves exactly `owned` outstanding. -/
def Accounts (events : List (Event R)) (owned : Multiset R) : Prop :=
  ∃ outstanding, replay parent events = some outstanding ∧
    outstanding.val = owned

variable {parent} {events before after : List (Event R)}
  {owned : Multiset R} {resource above : R}

theorem replay_concat (event : Event R) :
    replay parent (events ++ [event]) =
      (replay parent events).bind fun outstanding =>
        post parent outstanding event := by
  simp [replay, List.foldlM_append]

theorem replay_split {event : Event R} {final : Finset R}
    (h : replay parent (before ++ event :: after) = some final) :
    ∃ outstanding next, replay parent before = some outstanding ∧
      post parent outstanding event = some next := by
  rw [replay, List.foldlM_append] at h
  obtain ⟨outstanding, hbefore, hrest⟩ := Option.bind_eq_some_iff.mp h
  obtain ⟨next, hevent, -⟩ := Option.bind_eq_some_iff.mp hrest
  exact ⟨outstanding, next, hbefore, hevent⟩

theorem replay_append_none {more : List (Event R)}
    (h : replay parent events = none) :
    replay parent (events ++ more) = none := by
  rw [replay, List.foldlM_append]
  exact Option.bind_eq_none_iff.mpr fun held hheld => by
    rw [replay] at h
    rw [h] at hheld
    cases hheld

theorem settle_of_post {held next : Finset R} {event : Event R}
    (h : post parent held event = some next) : settle held event = next := by
  cases event <;>
    simp only [post, Option.ite_none_right_eq_some, Option.some.injEq] at h <;>
    exact h.2

theorem outstanding_of_replay {held : Finset R}
    (h : replay parent events = some held) : outstanding events = held := by
  induction events using List.reverseRecOn generalizing held with
  | nil => exact Option.some.inj h
  | append_singleton events event ih =>
      rw [replay_concat] at h
      obtain ⟨middle, hevents, hevent⟩ := Option.bind_eq_some_iff.mp h
      rw [outstanding, List.foldl_append]
      change settle (outstanding events) event = held
      rw [ih hevents, settle_of_post hevent]

/-! ## Keeping account -/

namespace Accounts

theorem nil : Accounts parent [] 0 := ⟨∅, rfl, rfl⟩

theorem unique {other : Multiset R} (h : Accounts parent events owned)
    (hother : Accounts parent events other) : owned = other := by
  obtain ⟨held, hreplay, rfl⟩ := h
  obtain ⟨held', hreplay', rfl⟩ := hother
  rw [Option.some.inj (hreplay.symm.trans hreplay')]

theorem mem_outstanding (h : Accounts parent events owned) :
    resource ∈ outstanding events ↔ resource ∈ owned := by
  obtain ⟨held, hreplay, rfl⟩ := h
  rw [outstanding_of_replay hreplay, Finset.mem_val]

theorem nodup (h : Accounts parent events owned) : owned.Nodup := by
  obtain ⟨outstanding, -, rfl⟩ := h
  exact outstanding.nodup

theorem acquire (h : Accounts parent events owned) (hnew : resource ∉ owned)
    (habove : ∀ above ∈ parent resource, above ∈ owned) :
    Accounts parent (events ++ [.acquire resource]) (resource ::ₘ owned) := by
  obtain ⟨outstanding, hreplay, rfl⟩ := h
  refine ⟨insert resource outstanding, ?_,
    Finset.insert_val_of_notMem hnew⟩
  rw [replay_concat, hreplay]
  exact if_pos ⟨hnew, habove⟩

theorem use (h : Accounts parent events owned) (hopen : resource ∈ owned) :
    Accounts parent (events ++ [.use resource]) owned := by
  obtain ⟨outstanding, hreplay, rfl⟩ := h
  refine ⟨outstanding, ?_, rfl⟩
  rw [replay_concat, hreplay]
  exact if_pos hopen

theorem uses {ι : Type} {name : ι → R} {used : List ι}
    (h : Accounts parent events owned)
    (hopen : ∀ index ∈ used, name index ∈ owned) :
    Accounts parent (events ++ used.map fun index => .use (name index))
      owned := by
  induction used generalizing events with
  | nil => simpa using h
  | cons index used ih =>
      have hone := h.use (hopen index (by simp))
      have hrest := ih hone fun other hother => hopen other (by simp [hother])
      simpa using hrest

theorem release (h : Accounts parent events (resource ::ₘ owned))
    (hbelow : ∀ below ∈ resource ::ₘ owned, parent below ≠ some resource) :
    Accounts parent (events ++ [.release resource]) owned := by
  obtain ⟨outstanding, hreplay, howned⟩ := h
  refine ⟨outstanding.erase resource, ?_, ?_⟩
  · rw [replay_concat, hreplay]
    refine if_pos ⟨?_, ?_⟩
    · rw [← Finset.mem_val, howned]
      exact Multiset.mem_cons_self resource owned
    · intro below hmem
      rw [← Finset.mem_val, howned] at hmem
      exact hbelow below hmem
  · rw [Finset.erase_val, howned, Multiset.erase_cons_head]

theorem release_notMem (h : Accounts parent events owned)
    (hnot : resource ∉ owned) :
    replay parent (events ++ [.release resource]) = none := by
  obtain ⟨held, hreplay, rfl⟩ := h
  rw [replay_concat, hreplay]
  exact if_neg fun hpost => hnot hpost.1

/-! ## What a kept account says -/

theorem balanced_of_replay {outstanding : Finset R}
    (h : replay parent events = some outstanding) (resource : R) :
    events.count (.acquire resource) =
      events.count (.release resource) +
        if resource ∈ outstanding then 1 else 0 := by
  induction events using List.reverseRecOn generalizing outstanding with
  | nil =>
      obtain rfl : ∅ = outstanding := Option.some.inj h
      simp
  | append_singleton events event ih =>
      rw [replay_concat] at h
      obtain ⟨middle, hevents, hevent⟩ := Option.bind_eq_some_iff.mp h
      have hcount := ih hevents
      cases event with
      | acquire other =>
          simp only [post, Option.ite_none_right_eq_some] at hevent
          obtain ⟨⟨hnew, -⟩, hnext⟩ := hevent
          obtain rfl := Option.some.inj hnext
          by_cases hsame : other = resource
          · subst hsame
            simp_all [List.count_append]
          · have hother : resource ≠ other := fun heq => hsame heq.symm
            simp_all [List.count_append]
      | use other =>
          simp only [post, Option.ite_none_right_eq_some] at hevent
          obtain rfl := Option.some.inj hevent.2
          simpa [List.count_append, List.count_singleton] using hcount
      | release other =>
          simp only [post, Option.ite_none_right_eq_some] at hevent
          obtain ⟨⟨hopen, -⟩, hnext⟩ := hevent
          obtain rfl := Option.some.inj hnext
          by_cases hsame : other = resource
          · subst hsame
            simp_all [List.count_append]
          · have hother : resource ≠ other := fun heq => hsame heq.symm
            simp_all [List.count_append]

theorem balanced (h : Accounts parent events owned) (resource : R) :
    events.count (.acquire resource) =
      events.count (.release resource) + owned.count resource := by
  obtain ⟨outstanding, hreplay, rfl⟩ := h
  rw [balanced_of_replay hreplay, Multiset.count_eq_of_nodup outstanding.nodup]
  simp

theorem at_use
    (h : Accounts parent (before ++ .use resource :: after) owned) :
    ∃ held, Accounts parent before held ∧ resource ∈ held := by
  obtain ⟨_, hreplay, -⟩ := h
  obtain ⟨outstanding, next, hbefore, hevent⟩ := replay_split hreplay
  simp only [post, Option.ite_none_right_eq_some] at hevent
  exact ⟨outstanding.val, ⟨outstanding, hbefore, rfl⟩, hevent.1⟩

theorem at_release
    (h : Accounts parent (before ++ .release resource :: after) owned) :
    ∃ held, Accounts parent before held ∧ resource ∈ held ∧
      ∀ below ∈ held, parent below ≠ some resource := by
  obtain ⟨_, hreplay, -⟩ := h
  obtain ⟨outstanding, next, hbefore, hevent⟩ := replay_split hreplay
  simp only [post, Option.ite_none_right_eq_some] at hevent
  exact ⟨outstanding.val, ⟨outstanding, hbefore, rfl⟩, hevent.1⟩

theorem count_open {held : Multiset R} (h : Accounts parent before held)
    (hopen : resource ∈ held) :
    before.count (.acquire resource) =
      before.count (.release resource) + 1 := by
  rw [h.balanced, Multiset.count_eq_one_of_mem h.nodup hopen]

theorem released_once
    (h : Accounts parent (before ++ .release resource :: after) owned) :
    before.count (.acquire resource) =
      before.count (.release resource) + 1 := by
  obtain ⟨held, hbefore, hopen, -⟩ := h.at_release
  exact hbefore.count_open hopen

/-- Whatever hangs on a resource was given back before the resource is. -/
theorem below_settled {below : R}
    (h : Accounts parent (before ++ .release resource :: after) owned)
    (hbelow : parent below = some resource) :
    before.count (.acquire below) = before.count (.release below) := by
  obtain ⟨held, hbefore, -, hnone⟩ := h.at_release
  have hclosed : below ∉ held := fun hmem => hnone below hmem hbelow
  rw [hbefore.balanced, Multiset.count_eq_zero_of_notMem hclosed, add_zero]

theorem used_open
    (h : Accounts parent (before ++ .use resource :: after) owned) :
    before.count (.acquire resource) =
      before.count (.release resource) + 1 := by
  obtain ⟨held, hbefore, hopen⟩ := h.at_use
  exact hbefore.count_open hopen

end Accounts

end Replay

/-! ## New names -/

/--
How one answer names what it grants.  The name is not null and is not in use;
names of what has been released may come back.
-/
structure Supply {R : Type} (name : Nat → R) where
  pick : Finset R → Nat
  fresh : ∀ used, name (pick used) ∉ used
  nonNull : ∀ used, pick used ≠ 0

def Supply.next {R : Type} {name : Nat → R} (number : R → Nat)
    (hnumber : ∀ count, number (name count) = count) : Supply name where
  pick used := used.sup number + 1
  fresh used hmem := by
    have hle : number (name (used.sup number + 1)) ≤ used.sup number :=
      Finset.le_sup hmem
    rw [hnumber] at hle
    omega
  nonNull used := by omega

/-! ## Holders -/

section Holdings

variable {R V : Type} {owned owned' : V → Multiset R} {values : List V}

def holdings (owned : V → Multiset R) (values : List V) : Multiset R :=
  (values.map owned).sum

@[simp] theorem holdings_nil : holdings owned [] = 0 := rfl

@[simp] theorem holdings_concat (value : V) :
    holdings owned (values ++ [value]) =
      owned value + holdings owned values := by
  simp [holdings, add_comm]

theorem holdings_congr (h : ∀ value ∈ values, owned value = owned' value) :
    holdings owned values = holdings owned' values := by
  rw [holdings, holdings, List.map_congr_left h]

theorem mem_holdings {resource : R} :
    resource ∈ holdings owned values ↔
      ∃ value ∈ values, resource ∈ owned value := by
  induction values with
  | nil => simp
  | cons value values ih =>
      rw [holdings, List.map_cons, List.sum_cons, Multiset.mem_add,
        ← holdings, ih]
      simp

theorem holdings_eraseIdx {index : Nat} {value : V}
    (h : values[index]? = some value) :
    holdings owned values =
      owned value + holdings owned (values.eraseIdx index) := by
  obtain ⟨hlt, rfl⟩ := List.getElem?_eq_some_iff.mp h
  have hperm := (List.getElem_cons_eraseIdx_perm hlt).map owned
  rw [holdings, ← hperm.sum_eq, List.map_cons, List.sum_cons, holdings]

end Holdings

end TrustZoneSdk.Foundation.Ledger
