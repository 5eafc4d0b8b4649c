import Mathlib.Data.List.Basic

/-!
# Draining a buffer

A loop offers what is left of a buffer to a server until nothing is left.
Every answer counts the items that it has dealt with, or is an error.  The
loop stops on an error, and on an answer that counts nothing.
-/

namespace TrustZoneSdk.Foundation

variable {Item Answer Error : Type}

/-- The calls such a loop makes and how it ends. -/
inductive Drained (count : Answer → Except Error Nat) (stalled : Error) :
    List Item → List (List Item × Answer) → Except Error Unit → Prop
  | done : Drained count stalled [] [] (.ok ())
  | refused {items : List Item} {answer : Answer} {error : Error}
      (hitems : items ≠ []) (hcount : count answer = .error error) :
      Drained count stalled items [(items, answer)] (.error error)
  | stuck {items : List Item} {answer : Answer} (hitems : items ≠ [])
      (hcount : count answer = .ok 0) :
      Drained count stalled items [(items, answer)] (.error stalled)
  | step {items : List Item} {answer : Answer} {n : Nat}
      {entries : List (List Item × Answer)} {result : Except Error Unit}
      (hcount : count answer = .ok n) (hpos : 0 < n)
      (hle : n ≤ items.length)
      (hrest : Drained count stalled (items.drop n) entries result) :
      Drained count stalled items ((items, answer) :: entries) result

def drained (count : Answer → Except Error Nat)
    (entries : List (List Item × Answer)) : List Item :=
  entries.flatMap fun entry =>
    match count entry.2 with
    | .ok n => entry.1.take n
    | .error _ => []

def Advances (count : Answer → Except Error Nat) (answer : Answer) : Prop :=
  ∃ n, 0 < n ∧ count answer = .ok n

namespace Drained

variable {count : Answer → Except Error Nat} {stalled : Error}
  {items : List Item} {entries : List (List Item × Answer)}
  {result : Except Error Unit}

theorem length_le (h : Drained count stalled items entries result) :
    entries.length ≤ items.length := by
  induction h with
  | done => exact Nat.le_refl 0
  | refused hitems hcount => exact List.length_pos_iff.mpr hitems
  | stuck hitems hcount => exact List.length_pos_iff.mpr hitems
  | step hcount hpos hle hrest ih =>
      rw [List.length_drop] at ih
      rw [List.length_cons]
      omega

/-- What is drained is the start of the buffer; all of it on success only. -/
theorem drained_append (h : Drained count stalled items entries result) :
    ∃ rest, drained count entries ++ rest = items ∧
      (result = .ok () ↔ rest = []) := by
  induction h with
  | done => exact ⟨[], rfl, by simp⟩
  | @refused items answer error hitems hcount =>
      exact ⟨items, by simp [drained, hcount], by simp [hitems]⟩
  | @stuck items answer hitems hcount =>
      exact ⟨items, by simp [drained, hcount], by simp [hitems]⟩
  | @step items answer n entries result hcount hpos hle hrest ih =>
      obtain ⟨rest, happend, hresult⟩ := ih
      refine ⟨rest, ?_, hresult⟩
      rw [drained, List.flatMap_cons, hcount, List.append_assoc, ← drained,
        happend, List.take_append_drop]

theorem ok_iff (h : Drained count stalled items entries result) :
    result = .ok () ↔ drained count entries = items := by
  obtain ⟨rest, happend, hresult⟩ := h.drained_append
  rw [hresult, ← happend, List.self_eq_append_right]

theorem part_of_error {error : Error}
    (h : Drained count stalled items entries (.error error)) :
    drained count entries <+: items ∧ drained count entries ≠ items := by
  obtain ⟨rest, happend, -⟩ := h.drained_append
  exact ⟨⟨rest, happend⟩, fun heq => nomatch h.ok_iff.mpr heq⟩

theorem failed_last {error : Error}
    (h : Drained count stalled items entries (.error error)) :
    ∃ before last, entries = before ++ [last] ∧
      (∀ entry ∈ before, Advances count entry.2) ∧
      (count last.2 = .error error ∨
        count last.2 = .ok 0 ∧ last.1 ≠ [] ∧ error = stalled) := by
  generalize hresult : Except.error error = result at h
  induction h with
  | done => cases hresult
  | @refused items answer reported hitems hcount =>
      cases hresult
      exact ⟨[], (items, answer), rfl, by simp, .inl hcount⟩
  | @stuck items answer hitems hcount =>
      cases hresult
      exact ⟨[], (items, answer), rfl, by simp, .inr ⟨hcount, hitems, rfl⟩⟩
  | @step items answer n entries result hcount hpos hle hrest ih =>
      obtain ⟨before, last, rfl, hbefore, hlast⟩ := ih hresult
      refine ⟨(items, answer) :: before, last, rfl, ?_, hlast⟩
      exact List.forall_mem_cons.mpr ⟨⟨n, hpos, hcount⟩, hbefore⟩

theorem of_error {entry : List Item × Answer} {error : Error}
    (h : Drained count stalled items entries result) (hmem : entry ∈ entries)
    (herror : count entry.2 = .error error) : result = .error error := by
  induction h with
  | done => cases hmem
  | refused hitems hcount =>
      rw [List.mem_singleton.mp hmem, hcount] at herror
      rw [Except.error.inj herror]
  | stuck hitems hcount =>
      rw [List.mem_singleton.mp hmem, hcount] at herror
      cases herror
  | step hcount hpos hle hrest ih =>
      rcases List.mem_cons.mp hmem with rfl | hmem
      · rw [hcount] at herror
        cases herror
      · exact ih hmem

theorem of_stuck {entry : List Item × Answer}
    (h : Drained count stalled items entries result) (hmem : entry ∈ entries)
    (hzero : count entry.2 = .ok 0) :
    entry.1 ≠ [] ∧ result = .error stalled := by
  induction h with
  | done => cases hmem
  | refused hitems hcount =>
      rw [List.mem_singleton.mp hmem, hcount] at hzero
      cases hzero
  | stuck hitems hcount =>
      rw [List.mem_singleton.mp hmem]
      exact ⟨hitems, rfl⟩
  | step hcount hpos hle hrest ih =>
      rcases List.mem_cons.mp hmem with rfl | hmem
      · rw [hcount, Except.ok.injEq] at hzero
        omega
      · exact ih hmem

end Drained

end TrustZoneSdk.Foundation
