import Mathlib.Data.List.Basic
import Mathlib.Logic.Function.Basic

/-!
# Assignments to variables

A list of assignments is carried out from the left, so the last one to a
variable counts.
-/

namespace TrustZoneSdk.Foundation

variable {Key Value : Type} [DecidableEq Key]

def lastValue (assignments : List (Key × Value)) (key : Key) : Option Value :=
  (assignments.filterMap fun assignment =>
    if assignment.1 = key then some assignment.2 else none).getLast?

def assign (environment : Key → Option Value)
    (assignments : List (Key × Value)) : Key → Option Value :=
  assignments.foldl (fun current assignment =>
    Function.update current assignment.1 (some assignment.2)) environment

theorem lastValue_append (first second : List (Key × Value)) (key : Key) :
    lastValue (first ++ second) key =
      (lastValue second key).or (lastValue first key) := by
  rw [lastValue, List.filterMap_append, List.getLast?_append]
  rfl

theorem lastValue_cons (assignment : Key × Value)
    (rest : List (Key × Value)) (key : Key) :
    lastValue (assignment :: rest) key =
      (lastValue rest key).or
        (if assignment.1 = key then some assignment.2 else none) := by
  rw [← List.singleton_append, lastValue_append]
  by_cases heq : assignment.1 = key
  · simp [lastValue, heq]
  · simp [lastValue, heq]

theorem assign_apply (environment : Key → Option Value)
    (assignments : List (Key × Value)) (key : Key) :
    assign environment assignments key =
      (lastValue assignments key).or (environment key) := by
  induction assignments generalizing environment with
  | nil => rfl
  | cons assignment rest ih =>
      rw [lastValue_cons, Option.or_assoc]
      refine (ih _).trans ?_
      dsimp only
      by_cases heq : assignment.1 = key
      · subst heq
        rw [Function.update_self, if_pos rfl]
        rfl
      · rw [Function.update_of_ne (Ne.symm heq), if_neg heq]
        rfl

theorem lastValue_map {Name Text : Type} [DecidableEq Name]
    {rename : Name → Key} (hrename : Function.Injective rename)
    (convert : Text → Value) (list : List (Name × Text)) (name : Name) :
    lastValue (list.map (Prod.map rename convert)) (rename name) =
      (lastValue list name).map convert := by
  induction list with
  | nil => rfl
  | cons assignment rest ih =>
      rw [List.map_cons, lastValue_cons, lastValue_cons, ih]
      by_cases heq : assignment.1 = name
      · simp [heq]
      · simp [heq, hrename.eq_iff]

end TrustZoneSdk.Foundation
