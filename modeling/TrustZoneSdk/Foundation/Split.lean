import Mathlib.Data.List.Basic

/-!
# Splitting at a two-element separator

A list is cut at every occurrence of `a` followed by `b`.  Occurrences are
searched from the left and do not overlap.
-/

namespace TrustZoneSdk.Foundation

variable {α : Type} [DecidableEq α]

def splitPair (a b : α) : List α → List α × List (List α)
  | x :: y :: rest =>
      if x = a ∧ y = b then
        let pieces := splitPair a b rest
        ([], pieces.1 :: pieces.2)
      else
        let pieces := splitPair a b (y :: rest)
        (x :: pieces.1, pieces.2)
  | [x] => ([x], [])
  | [] => ([], [])

def lastPiece (a b : α) (list : List α) : List α :=
  ((splitPair a b list).2.getLast?).getD (splitPair a b list).1

def Unsplit (a b : α) (list : List α) : Prop := (splitPair a b list).2 = []

instance (a b : α) (list : List α) : Decidable (Unsplit a b list) :=
  inferInstanceAs (Decidable (_ = _))

theorem splitPair_cons {a b x : α} (h : x ≠ a) (list : List α) :
    splitPair a b (x :: list) =
      (x :: (splitPair a b list).1, (splitPair a b list).2) := by
  cases list with
  | nil => rfl
  | cons y rest => simp [splitPair, h]

theorem splitPair_append {a b : α} {first : List α} (h : a ∉ first)
    (list : List α) :
    splitPair a b (first ++ list) =
      (first ++ (splitPair a b list).1, (splitPair a b list).2) := by
  induction first with
  | nil => rfl
  | cons x first ih =>
      obtain ⟨hx, hrest⟩ := List.ne_and_not_mem_of_not_mem_cons h
      rw [List.cons_append, splitPair_cons hx.symm, ih hrest]
      rfl

section LastPiece

variable {a b : α} {list : List α}

/-- Behind a separator the last piece does not depend on what comes first. -/
theorem lastPiece_congr {list' : List α}
    (h : (splitPair a b list).2 = (splitPair a b list').2)
    (hsplit : ¬ Unsplit a b list') :
    lastPiece a b list = lastPiece a b list' := by
  rw [lastPiece, lastPiece, h, List.getLast?_eq_some_getLast hsplit]
  rfl

theorem lastPiece_separator (a b : α) (list : List α) :
    lastPiece a b (a :: b :: list) = lastPiece a b list := by
  simp only [lastPiece, splitPair, and_self, if_true, List.getLast?_cons,
    Option.getD_some]

theorem splitPair_fst_of_unsplit (h : Unsplit a b list) :
    (splitPair a b list).1 = list := by
  fun_induction splitPair a b list with
  | case1 x y rest hsep pieces => simp [Unsplit, splitPair, hsep] at h
  | case2 x y rest hsep pieces ih =>
      rw [Unsplit, splitPair, if_neg hsep] at h
      simp [pieces, ih h]
  | case3 x => rfl
  | case4 => rfl

theorem lastPiece_of_unsplit (h : Unsplit a b list) :
    lastPiece a b list = list := by
  rw [lastPiece, h]
  exact splitPair_fst_of_unsplit h

/-- The last piece follows the last separator. -/
theorem lastPiece_of_split (h : ¬ Unsplit a b list) :
    ∃ before, list = before ++ a :: b :: lastPiece a b list := by
  fun_induction splitPair a b list with
  | case1 x y rest hsep pieces ih =>
      obtain ⟨rfl, rfl⟩ := hsep
      rw [lastPiece_separator]
      by_cases hrest : Unsplit x y rest
      · exact ⟨[], by rw [lastPiece_of_unsplit hrest]; rfl⟩
      · obtain ⟨before, hbefore⟩ := ih hrest
        refine ⟨x :: y :: before, ?_⟩
        rw [List.cons_append, List.cons_append, ← hbefore]
  | case2 x y rest hsep pieces ih =>
      have htail : (splitPair a b (x :: y :: rest)).2 =
          (splitPair a b (y :: rest)).2 := by
        rw [splitPair, if_neg hsep]
      have hrest : ¬ Unsplit a b (y :: rest) := by
        rwa [Unsplit, htail] at h
      obtain ⟨before, hbefore⟩ := ih hrest
      refine ⟨x :: before, ?_⟩
      rw [lastPiece_congr htail hrest, List.cons_append, ← hbefore]
  | case3 x => exact absurd rfl h
  | case4 => exact absurd rfl h

theorem lastPiece_append_of_unsplit {first : List α} (h : a ∉ first)
    (hlist : Unsplit a b list) :
    lastPiece a b (first ++ list) = first ++ list := by
  apply lastPiece_of_unsplit
  rw [Unsplit, splitPair_append h]
  exact hlist

theorem lastPiece_append_of_split {first : List α} (h : a ∉ first)
    (hlist : ¬ Unsplit a b list) :
    lastPiece a b (first ++ list) = lastPiece a b list := by
  apply lastPiece_congr _ hlist
  rw [splitPair_append h]

theorem getLast?_splitPair_separator {first : List α}
    (h : first.getLast? ≠ some a) (list : List α) :
    (splitPair a b (first ++ a :: b :: list)).2.getLast? =
      some (lastPiece a b list) := by
  have hsep : (splitPair a b (a :: b :: list)).2.getLast? =
      some (lastPiece a b list) := by
    simp [splitPair, lastPiece, List.getLast?_cons]
  fun_induction splitPair a b first with
  | case1 x y rest heq pieces ih =>
      obtain ⟨rfl, rfl⟩ := heq
      have hrest : rest.getLast? ≠ some x := by
        intro hlast
        exact h (by simp [List.getLast?_cons, hlast])
      simp [splitPair, List.getLast?_cons, ih hrest]
  | case2 x y rest heq pieces ih =>
      have hrest : (y :: rest).getLast? ≠ some a := by
        rwa [List.getLast?_cons_cons] at h
      rw [List.cons_append, List.cons_append, splitPair, if_neg heq]
      exact ih hrest
  | case3 x =>
      have hx : x ≠ a := fun heq => h (by rw [heq]; rfl)
      rw [List.singleton_append, splitPair_cons hx]
      exact hsep
  | case4 => exact hsep

theorem lastPiece_append_separator {first : List α}
    (h : first.getLast? ≠ some a) (list : List α) :
    lastPiece a b (first ++ a :: b :: list) = lastPiece a b list := by
  rw [lastPiece, getLast?_splitPair_separator h]
  rfl

theorem unsplit_concat {x : α} (h : x ≠ b) (list : List α) :
    Unsplit a b (list ++ [x]) ↔ Unsplit a b list := by
  fun_induction splitPair a b list with
  | case1 y z rest hsep pieces ih => simp [Unsplit, splitPair, hsep]
  | case2 y z rest hsep pieces ih =>
      simp only [Unsplit, List.cons_append, splitPair, if_neg hsep] at ih ⊢
      exact ih
  | case3 y => simp [Unsplit, splitPair, h]
  | case4 => rfl

theorem lastPiece_concat {x : α} (h : x ≠ b) (list : List α) :
    lastPiece a b (list ++ [x]) = lastPiece a b list ++ [x] := by
  by_cases hlist : Unsplit a b list
  · rw [lastPiece_of_unsplit ((unsplit_concat h list).mpr hlist),
      lastPiece_of_unsplit hlist]
  · fun_induction splitPair a b list with
    | case1 y z rest hsep pieces ih =>
        obtain ⟨rfl, rfl⟩ := hsep
        rw [List.cons_append, List.cons_append, lastPiece_separator,
          lastPiece_separator]
        by_cases hrest : Unsplit y z rest
        · rw [lastPiece_of_unsplit ((unsplit_concat h rest).mpr hrest),
            lastPiece_of_unsplit hrest]
        · exact ih hrest
    | case2 y z rest hsep pieces ih =>
        have htail : ∀ more, (splitPair a b (y :: z :: more)).2 =
            (splitPair a b (z :: more)).2 := by
          intro more
          rw [splitPair, if_neg hsep]
        have hrest : ¬ Unsplit a b (z :: rest) := by
          rwa [Unsplit, htail] at hlist
        have hmore : ¬ Unsplit a b (z :: rest ++ [x]) := by
          rwa [unsplit_concat h]
        rw [lastPiece_congr (htail rest) hrest, ← ih hrest]
        exact lastPiece_congr (htail (rest ++ [x])) hmore
    | case3 y => exact absurd rfl hlist
    | case4 => exact absurd rfl hlist

end LastPiece

end TrustZoneSdk.Foundation
