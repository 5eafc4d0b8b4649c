import Mathlib.Data.List.Basic
import Mathlib.Logic.Function.Basic

/-!
# Programs that talk to a server

A dialogue is a program that makes requests one at a time and may let every
request depend on the answers so far.  Running it against a server gives a
transcript, a result and the server's last state.  The rules below lift what
is known of one request to whole runs.
-/

namespace TrustZoneSdk.Foundation

inductive Dialogue (Request Answer Result : Type) where
  | finish (result : Result)
  | ask (request : Request)
      (next : Answer → Dialogue Request Answer Result)

structure Outcome (Request Answer Result State : Type) where
  transcript : List (Request × Answer)
  result : Result
  state : State

namespace Dialogue

variable {Request Answer Result State State' View : Type}

def run (serve : Request → State → Answer × State) :
    Dialogue Request Answer Result → State →
      Outcome Request Answer Result State
  | finish result, state => ⟨[], result, state⟩
  | ask request next, state =>
      let reply := serve request state
      let rest := run serve (next reply.1) reply.2
      ⟨(request, reply.1) :: rest.transcript, rest.result, rest.state⟩

def ofList (requests : List Request) (result : Result) :
    Dialogue Request Answer Result :=
  match requests with
  | [] => finish result
  | request :: rest => ask request fun _ => ofList rest result

variable {serve : Request → State → Answer × State}

/-- A view that each answered request changes is folded by the transcript. -/
theorem run_view {view : State → View}
    {absorb : View → Request × Answer → View}
    (hview : ∀ request state, view (serve request state).2 =
      absorb (view state) (request, (serve request state).1))
    (dialogue : Dialogue Request Answer Result) (state : State) :
    view (dialogue.run serve state).state =
      (dialogue.run serve state).transcript.foldl absorb (view state) := by
  induction dialogue generalizing state with
  | finish result => rfl
  | ask request next ih =>
      rw [run, List.foldl_cons, ← hview request state]
      exact ih _ _

theorem run_related {serve' : Request → State' → Answer × State'}
    {Related : State → State' → Prop}
    (hstep : ∀ request state state', Related state state' →
      (serve request state).1 = (serve' request state').1 ∧
        Related (serve request state).2 (serve' request state').2)
    (dialogue : Dialogue Request Answer Result) {state : State}
    {state' : State'} (hstate : Related state state') :
    (dialogue.run serve state).transcript =
        (dialogue.run serve' state').transcript ∧
      (dialogue.run serve state).result =
        (dialogue.run serve' state').result ∧
      Related (dialogue.run serve state).state
        (dialogue.run serve' state').state := by
  induction dialogue generalizing state state' with
  | finish result => exact ⟨rfl, rfl, hstate⟩
  | ask request next ih =>
      obtain ⟨hanswer, hafter⟩ := hstep request state state' hstate
      obtain ⟨htranscript, hresult, hrelated⟩ :=
        ih (serve request state).1 hafter
      rw [hanswer] at htranscript hresult hrelated
      simp only [run, hanswer]
      exact ⟨by rw [htranscript], hresult, hrelated⟩

/-- A run can be taken up again at any entry of its transcript. -/
theorem run_resume (Invariant : State → Prop)
    (dialogue : Dialogue Request Answer Result) {state : State}
    {before after : List (Request × Answer)} {request : Request}
    {answer : Answer}
    (h : (dialogue.run serve state).transcript =
      before ++ (request, answer) :: after)
    (hstate : Invariant state)
    (hstep : ∀ entry ∈ before, ∀ state, Invariant state →
      Invariant (serve entry.1 state).2) :
    ∃ (rest : Dialogue Request Answer Result) (middle : State),
      Invariant middle ∧ (serve request middle).1 = answer ∧
        (rest.run serve (serve request middle).2).transcript = after ∧
        (rest.run serve (serve request middle).2).result =
          (dialogue.run serve state).result ∧
        (rest.run serve (serve request middle).2).state =
          (dialogue.run serve state).state := by
  induction before generalizing dialogue state with
  | nil =>
      cases dialogue with
      | finish result => simp [run] at h
      | ask first next =>
          simp only [run, List.nil_append, List.cons.injEq,
            Prod.mk.injEq] at h
          obtain ⟨⟨rfl, hanswer⟩, hafter⟩ := h
          exact ⟨_, state, hstate, hanswer, hafter, rfl, rfl⟩
  | cons entry before ih =>
      cases dialogue with
      | finish result => simp [run] at h
      | ask first next =>
          rw [run, List.cons_append, List.cons.injEq] at h
          obtain ⟨rfl, hrest⟩ := h
          rw [List.forall_mem_cons] at hstep
          exact ih (next (serve first state).1) hrest
            (hstep.1 state hstate) hstep.2

theorem run_invariant {Invariant : State → Prop}
    (hstep : ∀ request state, Invariant state →
      Invariant (serve request state).2)
    (dialogue : Dialogue Request Answer Result) {state : State}
    (hstate : Invariant state) :
    Invariant (dialogue.run serve state).state := by
  induction dialogue generalizing state with
  | finish result => exact hstate
  | ask request next ih => exact ih _ (hstep request state hstate)

/-- A relation to what the transcript so far amounts to. -/
theorem run_tracks {Tracks : View → State → Prop}
    {absorb : View → Request × Answer → View}
    (hstep : ∀ request view state, Tracks view state →
      Tracks (absorb view (request, (serve request state).1))
        (serve request state).2)
    (dialogue : Dialogue Request Answer Result) {view : View} {state : State}
    (hstate : Tracks view state) :
    Tracks ((dialogue.run serve state).transcript.foldl absorb view)
      (dialogue.run serve state).state := by
  induction dialogue generalizing view state with
  | finish result => exact hstate
  | ask request next ih =>
      rw [run, List.foldl_cons]
      exact ih _ (hstep request view state hstate)

theorem run_tracks_at {Tracks : View → State → Prop}
    {absorb : View → Request × Answer → View}
    (hstep : ∀ request view state, Tracks view state →
      Tracks (absorb view (request, (serve request state).1))
        (serve request state).2)
    (dialogue : Dialogue Request Answer Result) {view : View} {state : State}
    (hstate : Tracks view state) {before after : List (Request × Answer)}
    {request : Request} {answer : Answer}
    (h : (dialogue.run serve state).transcript =
      before ++ (request, answer) :: after) :
    ∃ middle, Tracks (before.foldl absorb view) middle ∧
      (serve request middle).1 = answer := by
  induction before generalizing dialogue view state with
  | nil =>
      cases dialogue with
      | finish result => simp [run] at h
      | ask first next =>
          simp only [run, List.nil_append, List.cons.injEq,
            Prod.mk.injEq] at h
          obtain ⟨⟨rfl, hanswer⟩, -⟩ := h
          exact ⟨state, hstate, hanswer⟩
  | cons entry before ih =>
      cases dialogue with
      | finish result => simp [run] at h
      | ask first next =>
          rw [run, List.cons_append, List.cons.injEq] at h
          obtain ⟨rfl, hrest⟩ := h
          exact ih _ (hstep first view state hstate) hrest

def Guarded (absorb : View → Request × Answer → View)
    (Guard : View → Request → Prop) : View → List (Request × Answer) → Prop
  | _, [] => True
  | view, entry :: rest =>
      Guard view entry.1 ∧ Guarded absorb Guard (absorb view entry) rest

theorem run_guarded {Tracks : View → State → Prop}
    {absorb : View → Request × Answer → View} {Guard : View → Request → Prop}
    (hstep : ∀ request view state, Guard view request → Tracks view state →
      Tracks (absorb view (request, (serve request state).1))
        (serve request state).2)
    (dialogue : Dialogue Request Answer Result) {view : View} {state : State}
    (hstate : Tracks view state)
    (h : Guarded absorb Guard view (dialogue.run serve state).transcript) :
    Tracks ((dialogue.run serve state).transcript.foldl absorb view)
      (dialogue.run serve state).state := by
  induction dialogue generalizing view state with
  | finish result => exact hstate
  | ask request next ih =>
      obtain ⟨hfirst, hrest⟩ := h
      rw [run, List.foldl_cons]
      exact ih _ (hstep request view state hfirst hstate) hrest

inductive Trace (step : View → Request × Answer → View → Prop) :
    View → List (Request × Answer) → View → Prop
  | nil {view : View} : Trace step view [] view
  | cons {view middle final : View} {entry : Request × Answer}
      {rest : List (Request × Answer)} (first : step view entry middle)
      (others : Trace step middle rest final) :
      Trace step view (entry :: rest) final

theorem run_trace {step : View → Request × Answer → View → Prop}
    {Related : View → State → Prop}
    (hstep : ∀ request view state, Related view state →
      ∃ next, step view (request, (serve request state).1) next ∧
        Related next (serve request state).2)
    (dialogue : Dialogue Request Answer Result) {view : View} {state : State}
    (hstate : Related view state) :
    ∃ final, Trace step view (dialogue.run serve state).transcript final ∧
      Related final (dialogue.run serve state).state := by
  induction dialogue generalizing view state with
  | finish result => exact ⟨view, .nil, hstate⟩
  | ask request next ih =>
      obtain ⟨middle, hfirst, hmiddle⟩ := hstep request view state hstate
      obtain ⟨final, hothers, hfinal⟩ := ih _ hmiddle
      exact ⟨final, .cons hfirst hothers, hfinal⟩

/--
What holds at the end has held from the start, or else from a last step that
brought it about.
-/
theorem Trace.last_cases {step : View → Request × Answer → View → Prop}
    {P : View → Prop} {view final : View}
    {entries : List (Request × Answer)} (h : Trace step view entries final)
    (hfinal : P final) :
    (P view ∧ ∀ entry ∈ entries, ∃ before after,
      step before entry after ∧ P before ∧ P after) ∨
    ∃ older entry newer, entries = older ++ entry :: newer ∧
      (∃ before after, step before entry after ∧ ¬ P before ∧ P after) ∧
      ∀ other ∈ newer, ∃ before after,
        step before other after ∧ P before ∧ P after := by
  induction h with
  | nil => exact .inl ⟨hfinal, by simp⟩
  | @cons view middle final entry rest first others ih =>
      rcases ih hfinal with ⟨hmiddle, hrest⟩ |
        ⟨older, last, newer, rfl, hlast, hnewer⟩
      · by_cases hview : P view
        · exact .inl ⟨hview, List.forall_mem_cons.mpr
            ⟨⟨view, middle, first, hview, hmiddle⟩, hrest⟩⟩
        · exact .inr ⟨[], entry, rest, rfl,
            ⟨view, middle, first, hview, hmiddle⟩, hrest⟩
      · exact .inr ⟨entry :: older, last, newer, rfl, hlast, hnewer⟩

theorem Trace.split {step : View → Request × Answer → View → Prop}
    {view final : View} {older newer : List (Request × Answer)}
    {entry : Request × Answer}
    (h : Trace step view (older ++ entry :: newer) final) :
    ∃ before after, Trace step view older before ∧ step before entry after ∧
      Trace step after newer final := by
  induction older generalizing view with
  | nil =>
      cases h with
      | cons first others => exact ⟨view, _, .nil, first, others⟩
  | cons head older ih =>
      cases h with
      | cons first others =>
          obtain ⟨before, after, hbefore, hentry, hafter⟩ := ih others
          exact ⟨before, after, .cons first hbefore, hentry, hafter⟩

theorem run_quiet (dialogue : Dialogue Request Answer Result) (state : State)
    (h : ∀ entry ∈ (dialogue.run serve state).transcript,
      ∀ state, (serve entry.1 state).2 = state) :
    (dialogue.run serve state).state = state := by
  induction dialogue generalizing state with
  | finish result => rfl
  | ask request next ih =>
      rw [run, List.forall_mem_cons] at h
      have hfirst := h.1 state
      rw [run]
      dsimp only
      rw [ih _ _ h.2, hfirst]

end Dialogue

/-! ## A server for each index -/

section Indexed

variable {ι Request Answer Result State View : Type} [DecidableEq ι]

def serveAt (serve : Request → State → Answer × State)
    (request : ι × Request) (states : ι → State) : Answer × (ι → State) :=
  let reply := serve request.2 (states request.1)
  (reply.1, Function.update states request.1 reply.2)

def entriesAt (i : ι) (transcript : List ((ι × Request) × Answer)) :
    List (Request × Answer) :=
  transcript.filterMap fun entry =>
    if entry.1.1 = i then some (entry.1.2, entry.2) else none

theorem run_view_at {serve : Request → State → Answer × State}
    {view : State → View} {absorb : View → Request × Answer → View}
    (hview : ∀ request state, view (serve request state).2 =
      absorb (view state) (request, (serve request state).1))
    (dialogue : Dialogue (ι × Request) Answer Result) (states : ι → State)
    (i : ι) :
    view ((dialogue.run (serveAt serve) states).state i) =
      (entriesAt i (dialogue.run (serveAt serve) states).transcript).foldl
        absorb (view (states i)) := by
  induction dialogue generalizing states with
  | finish result => rfl
  | ask request next ih =>
      rw [Dialogue.run, ih, entriesAt, entriesAt, List.filterMap_cons]
      by_cases hindex : request.1 = i
      · subst hindex
        simp [serveAt, hview]
      · have hother : i ≠ request.1 := fun h => hindex h.symm
        simp [serveAt, hindex, hother]

theorem run_related_at {State' : Type}
    {serve : Request → State → Answer × State}
    {serve' : Request → State' → Answer × State'}
    {Related : State → State' → Prop}
    (hstep : ∀ request state state', Related state state' →
      (serve request state).1 = (serve' request state').1 ∧
        Related (serve request state).2 (serve' request state').2)
    (dialogue : Dialogue (ι × Request) Answer Result) {states : ι → State}
    {states' : ι → State'} (h : ∀ i, Related (states i) (states' i)) :
    (dialogue.run (serveAt serve) states).transcript =
        (dialogue.run (serveAt serve') states').transcript ∧
      (dialogue.run (serveAt serve) states).result =
        (dialogue.run (serveAt serve') states').result ∧
      ∀ i, Related ((dialogue.run (serveAt serve) states).state i)
        ((dialogue.run (serveAt serve') states').state i) := by
  have hserved : ∀ (request : ι × Request) (states : ι → State)
      (states' : ι → State'), (∀ i, Related (states i) (states' i)) →
        (serveAt serve request states).1 = (serveAt serve' request states').1 ∧
          ∀ i, Related ((serveAt serve request states).2 i)
            ((serveAt serve' request states').2 i) := by
    intro request states states' h
    obtain ⟨hanswer, hafter⟩ := hstep request.2 _ _ (h request.1)
    refine ⟨hanswer, fun i => ?_⟩
    by_cases hindex : i = request.1
    · subst hindex
      simpa [serveAt] using hafter
    · simpa [serveAt, hindex] using h i
  exact Dialogue.run_related hserved dialogue h

end Indexed

/-! ## The latest value -/

section Latest

variable {α β : Type}

def latest (pick : α → Option β) (initial : β) (entries : List α) : β :=
  (entries.filterMap pick).getLast?.getD initial

theorem foldl_getD_eq_latest (pick : α → Option β) (initial : β)
    (entries : List α) :
    entries.foldl (fun value entry => (pick entry).getD value) initial =
      latest pick initial entries := by
  induction entries generalizing initial with
  | nil => rfl
  | cons entry entries ih =>
      rw [List.foldl_cons, ih, latest, latest, List.filterMap_cons]
      cases hpick : pick entry with
      | none => rfl
      | some value => simp [List.getLast?_cons]

theorem latest_cases (pick : α → Option β) (entries : List α) :
    ((∀ entry ∈ entries, pick entry = none) ∧
      ∀ initial, latest pick initial entries = initial) ∨
    ∃ entry ∈ entries, ∃ value ∈ pick entry,
      ∀ initial, latest pick initial entries = value := by
  cases hlast : (entries.filterMap pick).getLast? with
  | none =>
      rw [List.getLast?_eq_none_iff, List.filterMap_eq_nil_iff] at hlast
      exact .inl ⟨hlast, fun initial => by
        rw [latest, List.filterMap_eq_nil_iff.mpr hlast]
        rfl⟩
  | some value =>
      obtain ⟨entry, hentry, hvalue⟩ :=
        List.mem_filterMap.mp (List.mem_of_getLast? hlast)
      exact .inr ⟨entry, hentry, value, hvalue, fun initial => by
        rw [latest, hlast, Option.getD_some]⟩

end Latest

end TrustZoneSdk.Foundation
