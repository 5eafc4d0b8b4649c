import TrustZoneSdk.Foundation.Ledger
import TrustZoneSdk.Foundation.Transfer
import TrustZoneSdk.Teec.Error

/-!
# Contexts and sessions of a client

A `Context` and every `Session` opened on it hold a clone of one `Arc` around
the `TEEC_Context`, which is finalised when the last clone goes.  A session
closes itself before its clone is dropped, so the context outlives it in
whatever order a program drops its values.
-/

namespace TrustZoneSdk.Teec

open TrustZoneSdk.Foundation

inductive ClientResource where
  | context (context : Nat)
  | session (context session : Nat)
  deriving DecidableEq, Repr

def ClientResource.parent : ClientResource → Option ClientResource
  | .context _ => none
  | .session ctx _ => some (.context ctx)

inductive ClientCall where
  | initializeContext (granted : Option Nat)
  | openSession (context : Nat) (granted : Option Nat)
  | invokeCommand (context session : Nat)
  | closeSession (context session : Nat)
  | finalizeContext (context : Nat)
  deriving DecidableEq, Repr

abbrev ClientEvent := Ledger.Event ClientResource

/-- Every call on a session goes through the context of the session. -/
def ClientCall.events : ClientCall → List ClientEvent
  | .initializeContext granted =>
      granted.toList.map fun context => .acquire (.context context)
  | .openSession context granted =>
      .use (.context context) ::
        granted.toList.map fun session => .acquire (.session context session)
  | .invokeCommand context session =>
      [.use (.context context), .use (.session context session)]
  | .closeSession context session =>
      [.use (.context context), .release (.session context session)]
  | .finalizeContext context => [.release (.context context)]

/-- `raw` is the `Arc`, named by the `TEEC_Context` it guards. -/
structure Context where
  raw : Nat
  deriving DecidableEq, Repr

structure Session where
  raw : Nat
  ctx : Nat
  deriving DecidableEq, Repr

inductive ClientValue where
  | context (self : Context)
  | session (self : Session)
  deriving DecidableEq, Repr

structure ClientState where
  strong : Nat → Nat
  values : List ClientValue
  log : List ClientCall

namespace ClientState

variable (state : ClientState)

def initial : ClientState := ⟨fun _ => 0, [], []⟩

def events : List ClientEvent := state.log.flatMap ClientCall.events

def withCall (call : ClientCall) : ClientState :=
  { state with log := state.log ++ [call] }

def withStrong (context count : Nat) : ClientState :=
  { state with strong := Function.update state.strong context count }

def withValue (value : ClientValue) : ClientState :=
  { state with values := state.values ++ [value] }

def withoutValue (index : Nat) : ClientState :=
  { state with values := state.values.eraseIdx index }

end ClientState

abbrev ClientM (ε α : Type) := Fallible ε ClientState α

variable {ε : Type}

def teecCall (call : ClientCall) : ClientM ε Unit :=
  modify fun state => state.withCall call

def teecGrant {name : Nat → ClientResource} (call : Option Nat → ClientCall)
    (code : TeecResult) (supply : Ledger.Supply name) :
    ClientM ε (TeecResult × Nat) := do
  let granted := supply.pick (Ledger.outstanding (← get).events)
  if code = teecSuccess then
    teecCall (call (some granted))
  else
    teecCall (call none)
  return (code, granted)

def arcNew (context : Nat) : ClientM ε Unit :=
  modify fun state => state.withStrong context 1

def arcClone (context : Nat) : ClientM ε Unit :=
  modify fun state => state.withStrong context (state.strong context + 1)

def arcDrop (context : Nat) : ClientM ε Unit := do
  let strong := (← get).strong context - 1
  modify fun state => state.withStrong context strong
  -- The last clone drops the `InnerContext`, which finalises the context.
  if strong = 0 then teecCall (.finalizeContext context)

namespace Context

def new (code : TeecResult) (supply : Ledger.Supply ClientResource.context) :
    ClientM Error Context := do
  let (code, rawCtx) ← teecGrant .initializeContext code supply
  Fallible.ofExcept (teecCheck code)
  arcNew rawCtx
  return ⟨rawCtx⟩

def innerContext (self : Context) : ClientM ε Nat := do
  arcClone self.raw
  return self.raw

def drop (self : Context) : ClientM ε Unit := arcDrop self.raw

end Context

namespace Session

def openWith (innerCtx : Nat) (code : TeecResult) (errOrigin : UInt32)
    (supply : Ledger.Supply (ClientResource.session innerCtx)) :
    ClientM Error Session := do
  -- The body of `new` after the clone `inner_ctx` was made, which it drops.
  let (code, rawSession) ← teecGrant (.openSession innerCtx) code supply
  match teecCheckWithOrigin code errOrigin with
  | .error error =>
      arcDrop innerCtx
      Fallible.fail error
  | .ok () =>
      let ctx ← Context.innerContext ⟨innerCtx⟩
      arcDrop innerCtx
      return ⟨rawSession, ctx⟩

def new (context : Context) (code : TeecResult) (errOrigin : UInt32)
    (supply : ∀ context, Ledger.Supply (ClientResource.session context)) :
    ClientM Error Session := do
  let innerCtx ← context.innerContext
  openWith innerCtx code errOrigin (supply innerCtx)

def invokeCommand (self : Session) (code : TeecResult) (errOrigin : UInt32) :
    ClientM Error Unit := do
  teecCall (.invokeCommand self.ctx self.raw)
  Fallible.ofExcept (teecCheckWithOrigin code errOrigin)

def drop (self : Session) : ClientM ε Unit := do
  -- The destructor runs before the fields are dropped.
  teecCall (.closeSession self.ctx self.raw)
  arcDrop self.ctx

end Session

/-! ## Programs -/

def ClientValue.drop : ClientValue → ClientM ε Unit
  | .context self => self.drop
  | .session self => self.drop

inductive ClientStep where
  | newContext (code : TeecResult)
      (supply : Ledger.Supply ClientResource.context)
  | openSession (index : Nat) (code : TeecResult) (errOrigin : UInt32)
      (supply : ∀ context, Ledger.Supply (ClientResource.session context))
  | invokeCommand (index : Nat) (code : TeecResult) (errOrigin : UInt32)
  | drop (index : Nat)

def keep {α : Type} (wrap : α → ClientValue) (x : ClientM Error α) :
    ClientM ε Unit := do
  match ← (Fallible.attempt x : ClientM ε (Except Error α)) with
  | .ok self => modify fun state => state.withValue (wrap self)
  | .error _ => return

def ClientStep.exec : ClientStep → ClientM Empty Unit
  | .newContext code supply => keep .context (Context.new code supply)
  | .openSession index code errOrigin supply => do
      match (← get).values[index]? with
      | some (.context self) =>
          keep .session (Session.new self code errOrigin supply)
      | _ => return
  | .invokeCommand index code errOrigin => do
      match (← get).values[index]? with
      | some (.session self) =>
          let _ ← (Fallible.attempt (self.invokeCommand code errOrigin) :
            ClientM Empty (Except Error Unit))
      | _ => return
  | .drop index => do
      match (← get).values[index]? with
      | some value =>
          modify fun state => state.withoutValue index
          value.drop
      | none => return

def runClient (program : List ClientStep) : ClientM Empty Unit :=
  program.forM ClientStep.exec

/-! ## Clones and sessions in hand -/

/--
What a value or a running function has in hand: a clone of the `Arc` of a
context, or an open session together with a clone.
-/
inductive ClientToken where
  | clone (ctx : Nat)
  | session (ctx number : Nat)
  deriving DecidableEq, Repr

namespace ClientToken

variable {tokens : Multiset ClientToken} {ctx number : Nat}

def context : ClientToken → Nat
  | .clone ctx => ctx
  | .session ctx _ => ctx

def opened : ClientToken → Option ClientResource
  | .clone _ => none
  | .session ctx number => some (.session ctx number)

def resources (tokens : Multiset ClientToken) : Multiset ClientResource :=
  (tokens.map context).dedup.map .context + tokens.filterMap opened

theorem mem_filterMap_opened {resource : ClientResource} :
    resource ∈ tokens.filterMap opened ↔
      ∃ ctx number, .session ctx number ∈ tokens ∧
        resource = .session ctx number := by
  rw [Multiset.mem_filterMap]
  constructor
  · rintro ⟨token, htoken, hopened⟩
    cases token with
    | clone ctx => cases hopened
    | session ctx number =>
        exact ⟨ctx, number, htoken, (Option.some.inj hopened).symm⟩
  · rintro ⟨ctx, number, htoken, rfl⟩
    exact ⟨_, htoken, rfl⟩

theorem context_mem_resources :
    .context ctx ∈ resources tokens ↔ ctx ∈ tokens.map context := by
  rw [resources, Multiset.mem_add, mem_filterMap_opened]
  simp

theorem session_mem_resources :
    .session ctx number ∈ resources tokens ↔
      .session ctx number ∈ tokens := by
  rw [resources, Multiset.mem_add, mem_filterMap_opened]
  simp

theorem resources_cons_session :
    resources (.session ctx number ::ₘ tokens) =
      .session ctx number ::ₘ resources (.clone ctx ::ₘ tokens) := by
  simp [resources, context, opened, Multiset.filterMap_cons]

theorem resources_cons_clone_of_mem (h : ctx ∈ tokens.map context) :
    resources (.clone ctx ::ₘ tokens) = resources tokens := by
  simp only [resources, Multiset.map_cons, context,
    Multiset.dedup_cons_of_mem h]
  simp [opened, Multiset.filterMap_cons]

theorem resources_cons_clone_of_notMem (h : ctx ∉ tokens.map context) :
    resources (.clone ctx ::ₘ tokens) =
      .context ctx ::ₘ resources tokens := by
  simp only [resources, Multiset.map_cons, context,
    Multiset.dedup_cons_of_notMem h]
  simp [opened, Multiset.filterMap_cons]

end ClientToken

abbrev ClientAccounts : List ClientEvent → Multiset ClientResource → Prop :=
  Ledger.Accounts ClientResource.parent

/-- The counts are the clones in hand, and the ledger is right. -/
structure Tallied (strong : Nat → Nat) (events : List ClientEvent)
    (tokens : Multiset ClientToken) : Prop where
  strong : ∀ ctx, strong ctx = (tokens.map ClientToken.context).count ctx
  accounts : ClientAccounts events (ClientToken.resources tokens)

namespace Tallied

variable {strong : Nat → Nat} {events : List ClientEvent}
  {tokens : Multiset ClientToken} {ctx number : Nat}

theorem use_context (h : Tallied strong events tokens)
    (hctx : ctx ∈ tokens.map ClientToken.context) :
    Tallied strong (events ++ [.use (.context ctx)]) tokens :=
  ⟨h.strong, h.accounts.use (ClientToken.context_mem_resources.mpr hctx)⟩

theorem use_session (h : Tallied strong events tokens)
    (hsession : .session ctx number ∈ tokens) :
    Tallied strong (events ++ [.use (.session ctx number)]) tokens :=
  ⟨h.strong,
    h.accounts.use (ClientToken.session_mem_resources.mpr hsession)⟩

theorem strong_cons_clone (h : Tallied strong events tokens) {count : Nat}
    (hcount : count = strong ctx + 1) (other : Nat) :
    Function.update strong ctx count other =
      ((ClientToken.clone ctx ::ₘ tokens).map ClientToken.context).count
        other := by
  rw [Multiset.map_cons, ClientToken.context, Multiset.count_cons,
    ← h.strong other, hcount]
  by_cases hsame : other = ctx
  · subst hsame
    simp
  · simp [hsame]

theorem clone (h : Tallied strong events tokens)
    (hctx : ctx ∈ tokens.map ClientToken.context) :
    Tallied (Function.update strong ctx (strong ctx + 1)) events
      (.clone ctx ::ₘ tokens) where
  strong := h.strong_cons_clone rfl
  accounts := by
    rw [ClientToken.resources_cons_clone_of_mem hctx]
    exact h.accounts

theorem init_granted (h : Tallied strong events tokens)
    (hnew : ClientResource.context ctx ∉ Ledger.outstanding events) :
    Tallied (Function.update strong ctx 1)
      (events ++ [.acquire (.context ctx)]) (.clone ctx ::ₘ tokens) := by
  rw [h.accounts.mem_outstanding] at hnew
  have hctx : ctx ∉ tokens.map ClientToken.context :=
    fun hmem => hnew (ClientToken.context_mem_resources.mpr hmem)
  have hzero : strong ctx = 0 := by
    rw [h.strong, Multiset.count_eq_zero_of_notMem hctx]
  refine ⟨h.strong_cons_clone (by rw [hzero]), ?_⟩
  rw [ClientToken.resources_cons_clone_of_notMem hctx]
  exact h.accounts.acquire hnew (by simp [ClientResource.parent])

theorem strong_tail (h : Tallied strong events (.clone ctx ::ₘ tokens)) :
    ∀ other, Function.update strong ctx (strong ctx - 1) other =
      (tokens.map ClientToken.context).count other := by
  intro other
  have hcount := h.strong other
  rw [Multiset.map_cons, ClientToken.context, Multiset.count_cons] at hcount
  by_cases hsame : other = ctx
  · subst hsame
    simp_all
  · simp_all

theorem mem_tail_iff (h : Tallied strong events (.clone ctx ::ₘ tokens)) :
    ctx ∈ tokens.map ClientToken.context ↔ strong ctx - 1 ≠ 0 := by
  rw [← Multiset.count_ne_zero, ← h.strong_tail ctx, Function.update_self]

theorem drop_shared (h : Tallied strong events (.clone ctx ::ₘ tokens))
    (hstrong : strong ctx - 1 ≠ 0) :
    Tallied (Function.update strong ctx (strong ctx - 1)) events tokens where
  strong := h.strong_tail
  accounts := by
    have haccounts := h.accounts
    rwa [ClientToken.resources_cons_clone_of_mem
      (h.mem_tail_iff.mpr hstrong)] at haccounts

theorem drop_last (h : Tallied strong events (.clone ctx ::ₘ tokens))
    (hstrong : strong ctx - 1 = 0) :
    Tallied (Function.update strong ctx (strong ctx - 1))
      (events ++ [.release (.context ctx)]) tokens := by
  -- Without a clone there is no session, so the context may go.
  have hctx : ctx ∉ tokens.map ClientToken.context :=
    fun hmem => h.mem_tail_iff.mp hmem hstrong
  refine ⟨h.strong_tail, ?_⟩
  have haccounts := h.accounts
  rw [ClientToken.resources_cons_clone_of_notMem hctx] at haccounts
  refine haccounts.release fun below hbelow hparent => ?_
  cases below with
  | context other => cases hparent
  | session other number =>
      obtain rfl : other = ctx := by simpa [ClientResource.parent] using hparent
      have hsession : ClientToken.session other number ∈ tokens := by
        simpa [ClientToken.session_mem_resources] using hbelow
      exact hctx (Multiset.mem_map_of_mem ClientToken.context hsession)

theorem open_granted (h : Tallied strong events (.clone ctx ::ₘ tokens))
    (hnew : ClientResource.session ctx number ∉ Ledger.outstanding events) :
    Tallied strong
      (events ++ [.use (.context ctx), .acquire (.session ctx number)])
      (.session ctx number ::ₘ tokens) := by
  have hctx : ctx ∈ (ClientToken.clone ctx ::ₘ tokens).map
      ClientToken.context := by simp [ClientToken.context]
  rw [h.accounts.mem_outstanding] at hnew
  refine ⟨by simpa [ClientToken.context] using h.strong, ?_⟩
  rw [ClientToken.resources_cons_session, List.append_cons]
  refine (h.use_context hctx).accounts.acquire hnew fun above habove => ?_
  obtain rfl : .context ctx = above := Option.some.inj habove
  exact ClientToken.context_mem_resources.mpr hctx

theorem close (h : Tallied strong events (.session ctx number ::ₘ tokens)) :
    Tallied strong
      (events ++ [.use (.context ctx), .release (.session ctx number)])
      (.clone ctx ::ₘ tokens) := by
  have hctx : ctx ∈ (ClientToken.session ctx number ::ₘ tokens).map
      ClientToken.context := by simp [ClientToken.context]
  refine ⟨by simpa [ClientToken.context] using h.strong, ?_⟩
  have haccounts := (h.use_context hctx).accounts
  rw [ClientToken.resources_cons_session] at haccounts
  rw [List.append_cons]
  refine haccounts.release fun below hbelow hparent => ?_
  cases below <;> cases hparent

end Tallied

/-! ## What each function hands on -/

def ClientValue.owned : ClientValue → Multiset ClientToken
  | .context self => {.clone self.raw}
  | .session self => {.session self.ctx self.raw}

namespace ClientState

variable {state : ClientState} {loose : Multiset ClientToken} {ctx : Nat}

def owned (state : ClientState) : Multiset ClientToken :=
  Ledger.holdings ClientValue.owned state.values

def Held (state : ClientState) (loose : Multiset ClientToken) : Prop :=
  Tallied state.strong state.events (state.owned + loose)

@[simp] theorem events_withCall (call : ClientCall) :
    (state.withCall call).events = state.events ++ call.events := by
  simp [events, withCall, List.flatMap_append]

theorem Held.withValue {value : ClientValue}
    (h : state.Held (value.owned + loose)) :
    (state.withValue value).Held loose := by
  have howned : (state.withValue value).owned = value.owned + state.owned :=
    Ledger.holdings_concat value
  rw [Held, howned, add_assoc, add_left_comm]
  exact h

theorem Held.withoutValue {index : Nat} {value : ClientValue}
    (h : state.Held loose) (hvalue : state.values[index]? = some value) :
    (state.withoutValue index).Held (value.owned + loose) := by
  have howned : state.owned =
      value.owned + (state.withoutValue index).owned :=
    Ledger.holdings_eraseIdx hvalue
  rw [Held, howned, add_assoc, add_left_comm] at h
  exact h

theorem token_mem_owned {index : Nat} {value : ClientValue}
    {token : ClientToken} (hvalue : state.values[index]? = some value)
    (htoken : token ∈ value.owned) : token ∈ state.owned :=
  Ledger.mem_holdings.mpr ⟨value, List.mem_of_getElem? hvalue, htoken⟩

theorem Held.arcClone (h : state.Held loose)
    (hctx : ctx ∈ (state.owned + loose).map ClientToken.context) :
    (state.withStrong ctx (state.strong ctx + 1)).Held
      ({.clone ctx} + loose) := by
  have htallied := h.clone hctx
  rw [← Multiset.singleton_add, add_left_comm] at htallied
  exact htallied

end ClientState

section Triples

variable {before lost : Multiset ClientToken} {ctx : Nat}

abbrev ClientTransfers (ε : Type) {α : Type} (before : Multiset ClientToken)
    (x : ClientM ε α) (after : α → Multiset ClientToken)
    (lost : Multiset ClientToken) : Prop :=
  Transfers ClientState.Held before x after lost

theorem withValue_transfers (value : ClientValue) :
    ClientTransfers ε value.owned
      (modify fun state => state.withValue value) (fun _ => 0) lost :=
  Transfers.modify_state fun state rest h => by
    rw [zero_add]
    exact ClientState.Held.withValue h

theorem arcDrop_transfers :
    ClientTransfers ε ({.clone ctx} + before) (arcDrop ctx)
      (fun _ => before) lost := by
  intro state rest h
  have htallied : Tallied state.strong state.events
      (.clone ctx ::ₘ (state.owned + (before + rest))) := by
    rw [← Multiset.singleton_add, add_left_comm, ← add_assoc {_}]
    exact h
  by_cases hstrong : state.strong ctx - 1 = 0
  · have hrun : (arcDrop ctx : ClientM ε Unit).run state =
        .ok () ((state.withStrong ctx (state.strong ctx - 1)).withCall
          (.finalizeContext ctx)) := by
      simp [arcDrop, teecCall, hstrong]
    rw [hrun]
    change Tallied _ (ClientState.events _) _
    rw [ClientState.events_withCall]
    exact htallied.drop_last hstrong
  · have hrun : (arcDrop ctx : ClientM ε Unit).run state =
        .ok () (state.withStrong ctx (state.strong ctx - 1)) := by
      simp [arcDrop, hstrong]
    rw [hrun]
    exact htallied.drop_shared hstrong

theorem Context.new_transfers (code : TeecResult)
    (supply : Ledger.Supply ClientResource.context) :
    ClientTransfers Error 0 (Context.new code supply)
      (fun self => {.clone self.raw}) 0 := by
  intro state rest h
  rw [zero_add] at h
  by_cases hcode : code = teecSuccess
  · have hrun : (Context.new code supply).run state =
        .ok ⟨supply.pick (Ledger.outstanding state.events)⟩
          ((state.withCall (.initializeContext (some
            (supply.pick (Ledger.outstanding state.events))))).withStrong
              (supply.pick (Ledger.outstanding state.events)) 1) := by
      simp [Context.new, teecGrant, teecCall, arcNew, teecCheck, hcode]
    rw [hrun]
    have htallied := h.init_granted (supply.fresh _)
    rw [← Multiset.singleton_add, add_left_comm] at htallied
    change Tallied _ (ClientState.events (state.withCall _)) _
    rw [ClientState.events_withCall]
    exact htallied
  · have hrun : (Context.new code supply).run state =
        .error (.failed (Error.fromRawError code))
          (state.withCall (.initializeContext none)) := by
      simp [Context.new, teecGrant, teecCall, teecCheck, hcode]
    rw [hrun]
    change Tallied _ (ClientState.events _) _
    rw [ClientState.events_withCall, ClientCall.events, zero_add,
      Option.toList_none, List.map_nil, List.append_nil]
    exact h

theorem arcClone_transfers (hctx : ctx ∈ before.map ClientToken.context) :
    ClientTransfers ε before (arcClone ctx) (fun _ => {.clone ctx} + before)
      lost := by
  refine Transfers.modify_state fun state rest h => ?_
  rw [add_assoc]
  refine h.arcClone ?_
  simp only [Multiset.map_add, Multiset.mem_add]
  exact Or.inr (Or.inl hctx)

namespace Session

theorem openSession_transfers (code : TeecResult)
    (supply : Ledger.Supply (ClientResource.session ctx)) :
    ClientTransfers ε {.clone ctx} (teecGrant (.openSession ctx) code supply)
      (fun result => if result.1 = teecSuccess then {.session ctx result.2}
        else {.clone ctx}) lost := by
  -- The clone in hand keeps the context open; with a session it is spent.
  intro state rest h
  have htallied : Tallied state.strong state.events
      (.clone ctx ::ₘ (state.owned + rest)) := by
    rw [← Multiset.singleton_add, add_left_comm]
    exact h
  by_cases hcode : code = teecSuccess
  · have hrun : (teecGrant (.openSession ctx) code supply :
        ClientM ε _).run state =
          .ok (code, supply.pick (Ledger.outstanding state.events))
            (state.withCall (.openSession ctx (some
              (supply.pick (Ledger.outstanding state.events))))) := by
      simp [teecGrant, teecCall, hcode]
    rw [hrun]
    have hopened := htallied.open_granted (supply.fresh _)
    rw [← Multiset.singleton_add, add_left_comm] at hopened
    simp only [if_pos hcode]
    change Tallied _ (ClientState.events _) _
    rw [ClientState.events_withCall]
    exact hopened
  · have hrun : (teecGrant (.openSession ctx) code supply :
        ClientM ε _).run state =
          .ok (code, supply.pick (Ledger.outstanding state.events))
            (state.withCall (.openSession ctx none)) := by
      simp [teecGrant, teecCall, hcode]
    rw [hrun]
    simp only [if_neg hcode]
    change Tallied _ (ClientState.events _) _
    rw [ClientState.events_withCall]
    exact h.use_context (by simp [ClientToken.context])

theorem openWith_transfers (code : TeecResult) (errOrigin : UInt32)
    (supply : Ledger.Supply (ClientResource.session ctx)) :
    ClientTransfers Error {.clone ctx} (openWith ctx code errOrigin supply)
      (fun self => {.session self.ctx self.raw}) 0 := by
  refine (openSession_transfers code supply).bind fun result => ?_
  by_cases hcode : result.1 = teecSuccess
  · simp only [teecCheckWithOrigin, if_pos hcode, Context.innerContext,
      bind_assoc, pure_bind]
    refine (arcClone_transfers (by simp [ClientToken.context])).bind
      fun _ => ?_
    exact arcDrop_transfers.bind fun _ => Transfers.pure rfl
  · simp only [teecCheckWithOrigin, if_neg hcode]
    refine Transfers.bind (arcDrop_transfers.of_eq (add_zero _).symm)
      fun _ => ?_
    exact Transfers.fail _

theorem drop_transfers (self : Session) :
    ClientTransfers ε {.session self.ctx self.raw} self.drop (fun _ => 0)
      lost := by
  have hclose : ClientTransfers ε {.session self.ctx self.raw}
      (teecCall (.closeSession self.ctx self.raw))
      (fun _ => {.clone self.ctx}) lost := by
    refine Transfers.modify_state fun state rest h => ?_
    have htallied : Tallied state.strong state.events
        (.session self.ctx self.raw ::ₘ (state.owned + rest)) := by
      rw [← Multiset.singleton_add, add_left_comm]
      exact h
    have hclosed := htallied.close
    rw [← Multiset.singleton_add, add_left_comm] at hclosed
    change Tallied _ (ClientState.events _) _
    rw [ClientState.events_withCall]
    exact hclosed
  exact hclose.bind fun _ => arcDrop_transfers.of_eq (add_zero _).symm

end Session

theorem ClientValue.drop_transfers (value : ClientValue) :
    ClientTransfers ε value.owned value.drop (fun _ => 0) lost := by
  cases value with
  | context self => exact arcDrop_transfers.of_eq (add_zero _).symm
  | session self => exact self.drop_transfers

theorem keep_transfers {α : Type} {wrap : α → ClientValue}
    {x : ClientM Error α}
    (h : ClientTransfers Error before x (fun self => (wrap self).owned) 0) :
    ClientTransfers ε before (keep wrap x) (fun _ => 0) 0 := by
  refine Transfers.bind h.attempt fun result => ?_
  cases result with
  | ok self => exact withValue_transfers (wrap self)
  | error error => exact Transfers.pure rfl

/-! ## Whole programs -/

namespace ClientStep

variable {state : ClientState} {index : Nat} {code : TeecResult}
  {errOrigin : UInt32}
  {supply : ∀ context, Ledger.Supply (ClientResource.session context)}

theorem live_context {rest : Multiset ClientToken} {self : Context}
    (hself : state.values[index]? = some (.context self)) :
    self.raw ∈ (state.owned + rest).map ClientToken.context := by
  have hclone : ClientToken.clone self.raw ∈ state.owned :=
    ClientState.token_mem_owned hself (Multiset.mem_singleton_self _)
  rw [Multiset.map_add, Multiset.mem_add]
  exact Or.inl (Multiset.mem_map_of_mem ClientToken.context hclone)

theorem exec_openSession {self : Context}
    (hself : state.values[index]? = some (.context self)) :
    (openSession index code errOrigin supply).exec.run state =
      (keep .session (Session.openWith self.raw code errOrigin
        (supply self.raw))).run
          (state.withStrong self.raw (state.strong self.raw + 1)) := by
  rw [exec, EStateM.run_bind]
  simp only [EStateM.run_get, hself]
  rfl

theorem exec_invokeCommand {self : Session}
    (hself : state.values[index]? = some (.session self)) :
    (invokeCommand index code errOrigin).exec.run state =
      .ok () (state.withCall (.invokeCommand self.ctx self.raw)) := by
  rw [exec, EStateM.run_bind]
  simp only [EStateM.run_get, hself]
  by_cases hcode : code = teecSuccess <;>
    simp [Session.invokeCommand, teecCall, teecCheckWithOrigin, hcode]

theorem exec_transfers (step : ClientStep) :
    ClientTransfers Empty 0 step.exec (fun _ => 0) 0 := by
  cases step with
  | newContext code supply =>
      exact keep_transfers (Context.new_transfers code supply)
  | openSession index code errOrigin supply =>
      intro state rest h
      rw [zero_add] at h
      match hself : state.values[index]? with
      | some (.context self) =>
          rw [exec_openSession hself]
          exact keep_transfers (Session.openWith_transfers code errOrigin
            (supply self.raw)) _ rest (h.arcClone (live_context hself))
      | some (.session self) => simpa [exec, hself] using h
      | none => simpa [exec, hself] using h
  | invokeCommand index code errOrigin =>
      intro state rest h
      rw [zero_add] at h
      match hself : state.values[index]? with
      | some (.session self) =>
          have hsession : ClientToken.session self.ctx self.raw ∈
              state.owned + rest :=
            Multiset.mem_add.mpr (Or.inl (ClientState.token_mem_owned hself
              (Multiset.mem_singleton_self _)))
          have hctx := Multiset.mem_map_of_mem ClientToken.context hsession
          rw [exec_invokeCommand hself]
          have hused := (Tallied.use_context h hctx).use_session hsession
          rw [List.append_assoc] at hused
          change Tallied _ (ClientState.events _) (_ + (0 + rest))
          rw [ClientState.events_withCall, zero_add]
          exact hused
      | some (.context self) => simpa [exec, hself] using h
      | none => simpa [exec, hself] using h
  | drop index =>
      intro state rest h
      rw [zero_add] at h
      rw [exec, EStateM.run_bind]
      cases hvalue : state.values[index]? with
      | none =>
          simp only [EStateM.run_get, hvalue]
          exact (zero_add rest).symm ▸ h
      | some value =>
          simp only [EStateM.run_get, hvalue]
          exact value.drop_transfers (state.withoutValue index) rest
            (h.withoutValue hvalue)

theorem exec_openSession_refused {self : Context} (h : state.Held 0)
    (hself : state.values[index]? = some (.context self))
    (hcode : code ≠ teecSuccess) :
    (openSession index code errOrigin supply).exec.run state =
      .ok () (state.withCall (.openSession self.raw none)) := by
  have hstrong : state.strong self.raw ≠ 0 := by
    rw [h.strong, Multiset.count_ne_zero]
    exact live_context hself
  rw [exec_openSession hself]
  simp [keep, Session.openWith, teecGrant, teecCall, arcDrop,
    teecCheckWithOrigin, hcode, hstrong, ClientState.withStrong,
    ClientState.withCall]

end ClientStep

end Triples

theorem runClient_held (program : List ClientStep) :
    ∃ final, (runClient program).run .initial = .ok () final ∧
      final.Held 0 := by
  have hstart : ClientState.initial.Held (0 + 0) :=
    ⟨fun _ => rfl, Ledger.Accounts.nil⟩
  have hheld := Transfers.forM program
    (fun step _ => step.exec_transfers) ClientState.initial 0 hstart
  rw [runClient]
  cases hrun : (program.forM ClientStep.exec).run ClientState.initial with
  | ok done final =>
      rw [hrun] at hheld
      exact ⟨final, rfl, hheld⟩
  | error halt final =>
      rw [hrun] at hheld
      cases halt with
      | failed error => exact error.elim
      | killed => exact hheld.elim

/-- An invocation finds its session and the context of the session open. -/
theorem invoke_reaches_open {final : ClientState} (h : final.Held 0)
    {before after : List ClientCall} {ctx number : Nat}
    (hlog : final.log = before ++ .invokeCommand ctx number :: after) :
    (before.flatMap ClientCall.events).count (.acquire (.context ctx)) =
        (before.flatMap ClientCall.events).count
          (.release (.context ctx)) + 1 ∧
      (before.flatMap ClientCall.events).count
          (.acquire (.session ctx number)) =
        (before.flatMap ClientCall.events).count
          (.release (.session ctx number)) + 1 := by
  have hevents : final.events = before.flatMap ClientCall.events ++
      .use (.context ctx) :: .use (.session ctx number) ::
        after.flatMap ClientCall.events := by
    simp [ClientState.events, hlog, ClientCall.events]
  have haccounts := h.accounts
  rw [hevents] at haccounts
  refine ⟨haccounts.used_open, ?_⟩
  rw [List.append_cons] at haccounts
  simpa using haccounts.used_open

/--
In every program each context that was initialised is finalised exactly once,
unless a live value keeps it, and only when all sessions opened on it have
been closed; each session is closed exactly once, unless it is live; every
invocation finds its context open; and a failed open closes nothing.
-/
theorem context_outlives_sessions (program : List ClientStep) :
    ∃ final, (runClient program).run .initial = .ok () final ∧
      (∀ resource, final.events.count (.acquire resource) =
        final.events.count (.release resource) +
          (ClientToken.resources final.owned).count resource) ∧
      (∀ (before : List ClientEvent) (ctx : Nat) after,
        final.events = before ++ .release (.context ctx) :: after →
          before.count (.acquire (.context ctx)) =
              before.count (.release (.context ctx)) + 1 ∧
            ∀ number, before.count (.acquire (.session ctx number)) =
              before.count (.release (.session ctx number))) ∧
      (∀ (before : List ClientEvent) (ctx number : Nat) after,
        final.events = before ++ .release (.session ctx number) :: after →
          before.count (.acquire (.session ctx number)) =
            before.count (.release (.session ctx number)) + 1) ∧
      (∀ (before : List ClientCall) (ctx number : Nat) after,
        final.log = before ++ .invokeCommand ctx number :: after →
          (before.flatMap ClientCall.events).count
                (.acquire (.context ctx)) =
              (before.flatMap ClientCall.events).count
                (.release (.context ctx)) + 1 ∧
            (before.flatMap ClientCall.events).count
                (.acquire (.session ctx number)) =
              (before.flatMap ClientCall.events).count
                (.release (.session ctx number)) + 1) ∧
      ∀ (index : Nat) (self : Context) code errOrigin supply,
        final.values[index]? = some (.context self) → code ≠ teecSuccess →
          (ClientStep.openSession index code errOrigin supply).exec.run
              final =
            .ok () (final.withCall (.openSession self.raw none)) := by
  obtain ⟨final, hrun, hheld⟩ := runClient_held program
  have haccounts := hheld.accounts
  rw [add_zero] at haccounts
  refine ⟨final, hrun, haccounts.balanced, ?_, ?_, ?_, ?_⟩
  · intro before ctx after hevents
    rw [hevents] at haccounts
    exact ⟨haccounts.released_once,
      fun number => haccounts.below_settled rfl⟩
  · intro before ctx number after hevents
    rw [hevents] at haccounts
    exact haccounts.released_once
  · intro before ctx number after hlog
    exact invoke_reaches_open hheld hlog
  · intro index self code errOrigin supply hself hcode
    exact ClientStep.exec_openSession_refused hheld hself hcode

end TrustZoneSdk.Teec
