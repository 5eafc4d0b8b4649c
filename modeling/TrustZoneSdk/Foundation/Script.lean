import TrustZoneSdk.Foundation.Fallible

/-!
# Scripts

A script makes calls one after another, each of which may depend on the answers
so far, until it has a value or fails.  Running it against a machine gives the
transcript of the calls and of what the machine has answered.  A plan lists
calls with the answers they should get, and for each the ways in which it may
go wrong.  A script that follows its plan makes the calls of the plan until one
of them goes wrong, and fails with that; otherwise it succeeds.
-/

namespace TrustZoneSdk.Foundation

inductive Script {Call : Type} (Answer : Call → Type) (ε α : Type) where
  | done (value : α)
  | fail (halt : Halt ε)
  | ask (call : Call) (next : Answer call → Script Answer ε α)

namespace Script

variable {Call : Type} {Answer : Call → Type} {ε α β σ : Type}

structure Event (Answer : Call → Type) where
  call : Call
  answer : Answer call

structure Outcome (Answer : Call → Type) (ε α σ : Type) where
  transcript : List (Event Answer)
  result : Except (Halt ε) α
  state : σ

def run (serve : (call : Call) → σ → Answer call × σ) :
    Script Answer ε α → σ → Outcome Answer ε α σ
  | done value, state => ⟨[], .ok value, state⟩
  | fail halt, state => ⟨[], .error halt, state⟩
  | ask call next, state =>
      let reply := serve call state
      let rest := run serve (next reply.1) reply.2
      ⟨⟨call, reply.1⟩ :: rest.transcript, rest.result, rest.state⟩

def bind : Script Answer ε α → (α → Script Answer ε β) → Script Answer ε β
  | done value, next => next value
  | fail halt, _ => fail halt
  | ask call rest, next => ask call fun answer => (rest answer).bind next

instance : Monad (Script Answer ε) where
  pure := done
  bind := bind

/-- One call, and what is made of its answer. -/
def step (call : Call) (judge : Answer call → Except (Halt ε) α) :
    Script Answer ε α :=
  ask call fun answer =>
    match judge answer with
    | .ok value => done value
    | .error halt => fail halt

def leaving : List Call → Script Answer ε α → Script Answer ε α
  | [], script => script
  | call :: calls, script => ask call fun _ => leaving calls script

def closing (atEnd atFailure : List Call) :
    Script Answer ε α → Script Answer ε α
  | done value => leaving atEnd (done value)
  | fail halt => leaving atFailure (fail halt)
  | ask call next => ask call fun answer =>
      closing atEnd atFailure (next answer)

/-! ## Transcripts -/

inductive Yields : Script Answer ε α → List (Event Answer) →
    Except (Halt ε) α → Prop
  | done (value : α) : Yields (done value) [] (.ok value)
  | fail (halt : Halt ε) : Yields (fail halt) [] (.error halt)
  | ask {call : Call} {next : Answer call → Script Answer ε α}
      (answer : Answer call) {transcript : List (Event Answer)}
      {result : Except (Halt ε) α}
      (hnext : Yields (next answer) transcript result) :
      Yields (ask call next) (⟨call, answer⟩ :: transcript) result

theorem run_yields (serve : (call : Call) → σ → Answer call × σ)
    (script : Script Answer ε α) (state : σ) :
    Yields script (script.run serve state).transcript
      (script.run serve state).result := by
  induction script generalizing state with
  | done value => exact .done value
  | fail halt => exact .fail halt
  | ask call next ih => exact .ask _ (ih _ _)

theorem Yields.of_bind {script : Script Answer ε α}
    {next : α → Script Answer ε β} {transcript : List (Event Answer)}
    {result : Except (Halt ε) β}
    (h : Yields (script >>= next) transcript result) :
    (∃ value before after, Yields script before (.ok value) ∧
      Yields (next value) after result ∧ transcript = before ++ after) ∨
    ∃ halt, Yields script transcript (.error halt) ∧
      result = .error halt := by
  induction script generalizing transcript with
  | done value => exact .inl ⟨value, [], transcript, .done value, h, rfl⟩
  | fail halt =>
      cases h
      exact .inr ⟨halt, .fail halt, rfl⟩
  | ask call rest ih =>
      cases h with
      | ask answer hrest =>
          rcases ih answer hrest with
            ⟨value, before, after, hbefore, hafter, rfl⟩ |
              ⟨halt, hhalt, rfl⟩
          · exact .inl ⟨value, _, after, .ask answer hbefore, hafter, rfl⟩
          · exact .inr ⟨halt, .ask answer hhalt, rfl⟩

theorem Yields.of_step {call : Call} {judge : Answer call → Except (Halt ε) α}
    {transcript : List (Event Answer)} {result : Except (Halt ε) α}
    (h : Yields (step call judge) transcript result) :
    ∃ answer, transcript = [⟨call, answer⟩] ∧ result = judge answer := by
  cases h with
  | ask answer hnext =>
      refine ⟨answer, ?_⟩
      dsimp only at hnext
      cases hjudge : judge answer with
      | ok value =>
          rw [hjudge] at hnext
          cases hnext
          exact ⟨rfl, rfl⟩
      | error halt =>
          rw [hjudge] at hnext
          cases hnext
          exact ⟨rfl, rfl⟩

theorem Yields.of_leaving {calls : List Call} {script : Script Answer ε α}
    {transcript : List (Event Answer)} {result : Except (Halt ε) α}
    (h : Yields (leaving calls script) transcript result) :
    ∃ left rest, left.map Event.call = calls ∧ Yields script rest result ∧
      transcript = left ++ rest := by
  induction calls generalizing transcript with
  | nil => exact ⟨[], transcript, rfl, h, rfl⟩
  | cons call calls ih =>
      cases h with
      | ask answer hnext =>
          obtain ⟨left, rest, hleft, hrest, rfl⟩ := ih hnext
          exact ⟨⟨call, answer⟩ :: left, rest, by rw [List.map_cons, hleft],
            hrest, rfl⟩

theorem Yields.of_closing {atEnd atFailure : List Call}
    {script : Script Answer ε α} {transcript : List (Event Answer)}
    {result : Except (Halt ε) α}
    (h : Yields (closing atEnd atFailure script) transcript result) :
    ∃ before left, Yields script before result ∧
      transcript = before ++ left ∧
      (left.map Event.call = atEnd ∨ left.map Event.call = atFailure) := by
  induction script generalizing transcript with
  | done value =>
      obtain ⟨left, rest, hleft, hrest, rfl⟩ := of_leaving h
      cases hrest
      exact ⟨[], left, .done value, by simp, .inl hleft⟩
  | fail halt =>
      obtain ⟨left, rest, hleft, hrest, rfl⟩ := of_leaving h
      cases hrest
      exact ⟨[], left, .fail halt, by simp, .inr hleft⟩
  | ask call next ih =>
      cases h with
      | ask answer hnext =>
          obtain ⟨before, left, hbefore, rfl, hleft⟩ := ih answer hnext
          exact ⟨_, left, .ask answer hbefore, rfl, hleft⟩

/-! ## Plans -/

/--
A call with the answer it should get, what must hold besides, and the events
with which a script stops here instead.
-/
structure Item (Answer : Call → Type) (ε : Type) where
  event : Event Answer
  guard : Prop
  fault : List (Event Answer) → Halt ε → Prop

/-- All of a plan is done, or a part of it and then the fault of an item. -/
inductive Progress (Plan : α → List (Item Answer ε) → Prop) :
    List (Event Answer) → Except (Halt ε) α → Prop
  | finished (value : α) (items : List (Item Answer ε))
      (hplan : Plan value items) (hguards : ∀ item ∈ items, item.guard) :
      Progress Plan (items.map Item.event) (.ok value)
  | stopped (halt : Halt ε) (value : α) (items : List (Item Answer ε))
      (item : Item Answer ε) (rest : List (Item Answer ε))
      (failing : List (Event Answer))
      (hplan : Plan value (items ++ item :: rest))
      (hguards : ∀ item ∈ items, item.guard)
      (hfault : item.fault failing halt) :
      Progress Plan (items.map Item.event ++ failing) (.error halt)

/-- `counts` tells the calls of the plan from those on the way out. -/
structure Follows (counts : Call → Bool) (script : Script Answer ε α)
    (Plan : α → List (Item Answer ε) → Prop) : Prop where
  feasible : ∃ value items, Plan value items
  progress : ∀ transcript result, Yields script transcript result →
    Progress Plan (transcript.filter fun event => counts event.call) result

variable {counts : Call → Bool} {Plan Wider : α → List (Item Answer ε) → Prop}
  {script : Script Answer ε α}

theorem Progress.weaken {transcript : List (Event Answer)}
    {result : Except (Halt ε) α} (h : Progress Plan transcript result)
    (hwider : ∀ value items, Plan value items → Wider value items) :
    Progress Wider transcript result := by
  cases h with
  | finished value items hplan hguards =>
      exact .finished value items (hwider _ _ hplan) hguards
  | stopped halt value items item rest failing hplan hguards hfault =>
      exact .stopped halt value items item rest failing (hwider _ _ hplan)
        hguards hfault

namespace Follows

theorem weaken (h : Follows counts script Plan)
    (hwider : ∀ value items, Plan value items → Wider value items) :
    Follows counts script Wider where
  feasible := by
    obtain ⟨value, items, hplan⟩ := h.feasible
    exact ⟨value, items, hwider _ _ hplan⟩
  progress transcript result hyields :=
    (h.progress transcript result hyields).weaken hwider

theorem pure (value : α) :
    Follows counts (Pure.pure value : Script Answer ε α)
      (fun result items => result = value ∧ items = []) where
  feasible := ⟨value, [], rfl, rfl⟩
  progress transcript result hyields := by
    cases hyields
    exact .finished value [] ⟨rfl, rfl⟩ (by simp)

theorem fail {halt : Halt ε} {value : α} {item : Item Answer ε}
    (hplan : Plan value [item]) (hfault : item.fault [] halt) :
    Follows counts (Script.fail halt) Plan where
  feasible := ⟨value, _, hplan⟩
  progress transcript result hyields := by
    cases hyields
    exact .stopped halt value [] item [] [] hplan (by simp) hfault

theorem step {call : Call} {judge : Answer call → Except (Halt ε) α}
    (hcounts : counts call = true) (hfeasible : ∃ value items, Plan value items)
    (hvalue : ∀ answer value, judge answer = .ok value →
      ∃ guard fault, Plan value [⟨⟨call, answer⟩, guard, fault⟩] ∧ guard)
    (hfault : ∀ answer halt, judge answer = .error halt →
      ∃ value item, Plan value [item] ∧ item.fault [⟨call, answer⟩] halt) :
    Follows counts (Script.step call judge) Plan where
  feasible := hfeasible
  progress transcript result hyields := by
    obtain ⟨answer, rfl, rfl⟩ := hyields.of_step
    have hcounted : [Event.mk call answer].filter
        (fun event => counts event.call) = [⟨call, answer⟩] := by
      simp [hcounts]
    rw [hcounted]
    cases hjudge : judge answer with
    | ok value =>
        obtain ⟨guard, fault, hplan, hguard⟩ := hvalue answer value hjudge
        exact .finished value _ hplan (by simpa using hguard)
    | error halt =>
        obtain ⟨value, item, hplan, hstop⟩ := hfault answer halt hjudge
        exact .stopped halt value [] item [] _ hplan (by simp) hstop

theorem bind {first : Script Answer ε α} {next : α → Script Answer ε β}
    {Next : α → β → List (Item Answer ε) → Prop}
    (hfirst : Follows counts first Plan)
    (hnext : ∀ value, Follows counts (next value) (Next value)) :
    Follows counts (first >>= next)
      (fun result items => ∃ value before after, Plan value before ∧
        Next value result after ∧ items = before ++ after) where
  feasible := by
    obtain ⟨value, before, hplan⟩ := hfirst.feasible
    obtain ⟨result, after, hafter⟩ := (hnext value).feasible
    exact ⟨result, _, value, before, after, hplan, hafter, rfl⟩
  progress transcript result hyields := by
    rcases hyields.of_bind with
      ⟨value, before, after, hbefore, hafter, rfl⟩ | ⟨halt, hhalt, rfl⟩
    · rw [List.filter_append]
      have hdone := hfirst.progress _ _ hbefore
      generalize before.filter _ = before at hdone
      cases hdone with
      | finished _ items hplan hguards =>
          have hrest := (hnext value).progress _ _ hafter
          generalize after.filter _ = after at hrest
          cases hrest with
          | finished result others hothers hguards' =>
              rw [← List.map_append]
              refine .finished result _
                ⟨value, items, others, hplan, hothers, rfl⟩ ?_
              exact List.forall_mem_append.mpr ⟨hguards, hguards'⟩
          | stopped halt result others item rest failing hothers hguards'
              hfault =>
              rw [← List.append_assoc, ← List.map_append]
              refine .stopped halt result _ item rest failing
                ⟨value, items, _, hplan, hothers, List.append_assoc ..⟩ ?_
                hfault
              exact List.forall_mem_append.mpr ⟨hguards, hguards'⟩
    · have hdone := hfirst.progress _ _ hhalt
      generalize transcript.filter _ = before at hdone
      cases hdone with
      | stopped _ value items item rest failing hplan hguards hfault =>
          obtain ⟨result, after, hafter⟩ := (hnext value).feasible
          exact .stopped halt result items item (rest ++ after) failing
            ⟨value, _, after, hplan, hafter, by simp⟩
            hguards hfault

theorem closing {atEnd atFailure : List Call} (h : Follows counts script Plan)
    (hend : ∀ call ∈ atEnd, counts call = false)
    (hfailure : ∀ call ∈ atFailure, counts call = false) :
    Follows counts (Script.closing atEnd atFailure script) Plan where
  feasible := h.feasible
  progress transcript result hyields := by
    obtain ⟨before, left, hbefore, rfl, hleft⟩ := hyields.of_closing
    have hquiet : left.filter (fun event => counts event.call) = [] := by
      rw [List.filter_eq_nil_iff]
      intro event hevent
      have hcall : event.call ∈ left.map Event.call :=
        List.mem_map_of_mem hevent
      rw [Bool.not_eq_true]
      rcases hleft with hleft | hleft
      · exact hend _ (hleft ▸ hcall)
      · exact hfailure _ (hleft ▸ hcall)
    rw [List.filter_append, hquiet, List.append_nil]
    exact h.progress _ _ hbefore

theorem transcript_of_run (h : Follows counts script Plan)
    (serve : (call : Call) → σ → Answer call × σ) (state : σ) :
    Progress Plan
      ((script.run serve state).transcript.filter
        fun event => counts event.call)
      (script.run serve state).result :=
  h.progress _ _ (run_yields serve script state)

end Follows

end Script

end TrustZoneSdk.Foundation
