import TrustZoneSdk.Utee.EntryPoint

/-!
# Session contexts over whole runs

The TEE opens sessions, invokes commands on them and closes them in any order.
The abstract TA has one context variable for each open session and no memory.
The generated entry points keep the contexts in boxes and hand raw pointers to
the TEE; they behave as the abstract TA does, so no context is lost, shared,
leaked or released twice.
-/

namespace TrustZoneSdk.Utee

open TrustZoneSdk.Foundation

inductive TeeCall (Request : Type) where
  | openSession (session : Nat) (request : Request) (sessCtx address : Nat)
  | invokeCommand (session : Nat) (cmdId : UInt32) (request : Request)
  | closeSession (session : Nat)

inductive Reply where
  | opened (code : TeeResult) (sessCtx : Nat)
  | invoked (code : TeeResult)
  | closed
  | rejected
  deriving DecidableEq, Repr

structure System (T W : Type) where
  ta : TaState T W
  sessions : Nat → Option Nat

variable {Request P T W : Type} (app : TrustedApp Request P T W)

/--
One request to the TEE.  A session counts as open when its opening returned
success; requests for other sessions are rejected without calling the TA.
-/
def TeeCall.exec (system : System T W) :
    TeeCall Request → Except (Halt Trap) (Reply × System T W)
  | .openSession session request sessCtx address =>
      match (app.openSessionEntryPoint request sessCtx address).run
          system.ta with
      | .ok (code, sessCtx) ta =>
          .ok (.opened code sessCtx,
            if code = teeSuccess then
              ⟨ta, Function.update system.sessions session (some sessCtx)⟩
            else ⟨ta, system.sessions⟩)
      | .error halt _ => .error halt
  | .invokeCommand session cmdId request =>
      match system.sessions session with
      | none => .ok (.rejected, system)
      | some sessCtx =>
          match (app.invokeCommandEntryPoint sessCtx cmdId request).run
              system.ta with
          | .ok code ta => .ok (.invoked code, ⟨ta, system.sessions⟩)
          | .error halt _ => .error halt
  | .closeSession session =>
      match system.sessions session with
      | none => .ok (.rejected, system)
      | some sessCtx =>
          match (app.closeSessionEntryPoint sessCtx).run system.ta with
          | .ok () ta =>
              .ok (.closed,
                ⟨ta, Function.update system.sessions session none⟩)
          | .error halt _ => .error halt

def runCalls : List (TeeCall Request) → System T W →
    Except (Halt Trap) (List Reply × System T W)
  | [], system => .ok ([], system)
  | call :: calls, system =>
      match call.exec app system with
      | .error halt => .error halt
      | .ok (reply, system) =>
          match runCalls calls system with
          | .error halt => .error halt
          | .ok (replies, final) => .ok (reply :: replies, final)

/-- The TEE numbers a new session apart, and the allocator finds a free place. -/
def TeeCall.Fresh (system : System T W) : TeeCall Request → Prop
  | .openSession session _ _ address =>
      system.sessions session = none ∧ address ≠ 0 ∧
        system.ta.heap.cells address = none
  | _ => True

def Admissible : List (TeeCall Request) → System T W → Prop
  | [], _ => True
  | call :: calls, system =>
      call.Fresh system ∧ ∀ reply next,
        call.exec app system = .ok (reply, next) → Admissible calls next

/-! ## The abstract TA -/

structure Contexts (T W : Type) where
  contexts : Nat → Option T
  world : W
  log : List (HeapEvent T)

def TeeCall.spec (state : Contexts T W) :
    TeeCall Request → Reply × Contexts T W
  | .openSession session request sessCtx address =>
      match app.fromRaw request with
      | .error error => (.opened error.rawCode sessCtx, state)
      | .ok parameters =>
          match app.openSession parameters app.default state.world with
          | (.ok (), context, world) =>
              (.opened teeSuccess address,
                ⟨Function.update state.contexts session (some context), world,
                  state.log ++ [.allocated context]⟩)
          | (.error error, _, world) =>
              (.opened error.rawCode sessCtx, { state with world })
  | .invokeCommand session cmdId request =>
      match state.contexts session with
      | none => (.rejected, state)
      | some context =>
          match app.fromRaw request with
          | .error error => (.invoked error.rawCode, state)
          | .ok parameters =>
              let (result, context, world) :=
                app.invokeCommand context cmdId parameters state.world
              (.invoked (resultCode result),
                ⟨Function.update state.contexts session (some context), world,
                  state.log⟩)
  | .closeSession session =>
      match state.contexts session with
      | none => (.rejected, state)
      | some context =>
          let (context, world) := app.closeSession context state.world
          (.closed, ⟨Function.update state.contexts session none, world,
            state.log ++ [.released context]⟩)

def specCalls : List (TeeCall Request) → Contexts T W →
    List Reply × Contexts T W
  | [], state => ([], state)
  | call :: calls, state =>
      let (reply, state) := call.spec app state
      let (replies, final) := specCalls calls state
      (reply :: replies, final)

/-! ## Refinement -/

/-- The errors that an opening can end with do not pass for success. -/
structure NonzeroErrors : Prop where
  fromRaw : ∀ request error, app.fromRaw request = .error error →
    error.rawCode ≠ teeSuccess
  openSession : ∀ parameters context world error context' world',
    app.openSession parameters context world =
      (.error error, context', world') → error.rawCode ≠ teeSuccess

/-- The boxes hold the contexts of the open sessions and nothing else. -/
structure Keeps (system : System T W) (state : Contexts T W) : Prop where
  boxes : Represents system.ta.heap.cells system.sessions state.contexts
  world : system.ta.world = state.world
  log : system.ta.heap.log = state.log

def Simulates (system : System T W) (state : Contexts T W)
    (call : TeeCall Request) : Prop :=
  ∃ next,
    call.exec app system = .ok ((call.spec app state).1, next) ∧
    Keeps next (call.spec app state).2

section Refinement

variable {app} {system : System T W} {state : Contexts T W}

theorem openSession_simulates (happ : NonzeroErrors app)
    (h : Keeps system state) {session address : Nat}
    (hsession : system.sessions session = none) (hnull : address ≠ 0)
    (hfresh : system.ta.heap.cells address = none) (request : Request)
    (sessCtx : Nat) :
    Simulates app system state
      (.openSession session request sessCtx address) := by
  obtain ⟨⟨heap, world⟩, sessions⟩ := system
  obtain ⟨contexts, _, _⟩ := state
  obtain ⟨hboxes, rfl, rfl⟩ := h
  cases hparams : app.fromRaw request with
  | error error =>
      have hcode := happ.fromRaw request error hparams
      refine ⟨⟨⟨heap, world⟩, sessions⟩, ?_, ?_⟩
      · simp [TeeCall.exec, TeeCall.spec, hparams, hcode,
          TrustedApp.openSession_undecoded hparams]
      · simpa [TeeCall.spec, hparams] using ⟨hboxes, rfl, rfl⟩
  | ok parameters =>
      rcases hhandler : app.openSession parameters app.default world with
        ⟨result, context, world'⟩
      cases result with
      | ok _ =>
          refine ⟨⟨⟨heap.alloc address context, world'⟩,
            Function.update sessions session (some address)⟩, ?_, ?_⟩
          · simp [TeeCall.exec, TeeCall.spec, hparams, hhandler,
              TrustedApp.openSession_accepted hparams hhandler]
          · simp only [TeeCall.spec, hparams, hhandler]
            exact ⟨hboxes.alloc hnull hfresh hsession context, rfl, rfl⟩
      | error error =>
          have hcode := happ.openSession _ _ _ _ _ _ hhandler
          refine ⟨⟨⟨heap, world'⟩, sessions⟩, ?_, ?_⟩
          · simp [TeeCall.exec, TeeCall.spec, hparams, hhandler, hcode,
              TrustedApp.openSession_refused hparams hhandler]
          · simp only [TeeCall.spec, hparams, hhandler]
            exact ⟨hboxes, rfl, rfl⟩

theorem invokeCommand_simulates (h : Keeps system state) (session : Nat)
    (cmdId : UInt32) (request : Request) :
    Simulates app system state (.invokeCommand session cmdId request) := by
  obtain ⟨⟨heap, world⟩, sessions⟩ := system
  obtain ⟨contexts, _, _⟩ := state
  obtain ⟨hboxes, rfl, rfl⟩ := h
  simp only at hboxes
  cases hpointer : sessions session with
  | none =>
      have hcontext := hboxes.absent session hpointer
      refine ⟨⟨⟨heap, world⟩, sessions⟩, ?_, ?_⟩
      · simp [TeeCall.exec, TeeCall.spec, hpointer, hcontext]
      · simp only [TeeCall.spec, hcontext]
        exact ⟨hboxes, rfl, rfl⟩
  | some sessCtx =>
      obtain ⟨hnull, context, hcell, hcontext⟩ :=
        hboxes.owned session sessCtx hpointer
      cases hparams : app.fromRaw request with
      | error error =>
          refine ⟨⟨⟨heap, world⟩, sessions⟩, ?_, ?_⟩
          · simp [TeeCall.exec, TeeCall.spec, hpointer, hcontext, hparams,
              TrustedApp.invokeCommand_undecoded hnull hparams]
          · simp only [TeeCall.spec, hcontext, hparams]
            exact ⟨hboxes, rfl, rfl⟩
      | ok parameters =>
          rcases hhandler : app.invokeCommand context cmdId parameters world
            with ⟨result, context', world'⟩
          refine ⟨⟨⟨heap.write sessCtx context', world'⟩, sessions⟩, ?_, ?_⟩
          · simp [TeeCall.exec, TeeCall.spec, hpointer, hcontext, hparams,
              hhandler,
              TrustedApp.invokeCommand_decoded hnull hparams hcell hhandler]
          · simp only [TeeCall.spec, hcontext, hparams, hhandler]
            exact ⟨hboxes.write hpointer context', rfl, rfl⟩

theorem closeSession_simulates (h : Keeps system state) (session : Nat) :
    Simulates app system state (.closeSession session) := by
  obtain ⟨⟨heap, world⟩, sessions⟩ := system
  obtain ⟨contexts, _, _⟩ := state
  obtain ⟨hboxes, rfl, rfl⟩ := h
  simp only at hboxes
  cases hpointer : sessions session with
  | none =>
      have hcontext := hboxes.absent session hpointer
      refine ⟨⟨⟨heap, world⟩, sessions⟩, ?_, ?_⟩
      · simp [TeeCall.exec, TeeCall.spec, hpointer, hcontext]
      · simp only [TeeCall.spec, hcontext]
        exact ⟨hboxes, rfl, rfl⟩
  | some sessCtx =>
      obtain ⟨hnull, context, hcell, hcontext⟩ :=
        hboxes.owned session sessCtx hpointer
      rcases hhandler : app.closeSession context world with ⟨context', world'⟩
      refine ⟨⟨⟨heap.release sessCtx context', world'⟩,
        Function.update sessions session none⟩, ?_, ?_⟩
      · simp [TeeCall.exec, TeeCall.spec, hpointer, hcontext, hhandler,
          TrustedApp.closeSession_run hnull hcell hhandler]
      · simp only [TeeCall.spec, hcontext, hhandler]
        exact ⟨hboxes.release hpointer, rfl, rfl⟩

theorem exec_simulates (happ : NonzeroErrors app) (h : Keeps system state)
    {call : TeeCall Request} (hfresh : call.Fresh system) :
    Simulates app system state call := by
  cases call with
  | openSession session request sessCtx address =>
      obtain ⟨hsession, hnull, hcell⟩ := hfresh
      exact openSession_simulates happ h hsession hnull hcell request sessCtx
  | invokeCommand session cmdId request =>
      exact invokeCommand_simulates h session cmdId request
  | closeSession session => exact closeSession_simulates h session

theorem runCalls_simulates (happ : NonzeroErrors app)
    (calls : List (TeeCall Request)) (h : Keeps system state)
    (hcalls : Admissible app calls system) :
    ∃ final,
      runCalls app calls system = .ok ((specCalls app calls state).1, final) ∧
      Keeps final (specCalls app calls state).2 := by
  induction calls generalizing system state with
  | nil => exact ⟨system, rfl, h⟩
  | cons call calls ih =>
      obtain ⟨hfresh, hrest⟩ := hcalls
      obtain ⟨next, hexec, hnext⟩ := exec_simulates happ h hfresh
      obtain ⟨final, hrun, hfinal⟩ := ih hnext (hrest _ _ hexec)
      refine ⟨final, ?_, hfinal⟩
      simp only [runCalls, hexec, hrun, specCalls]

end Refinement

def idleSystem (world : W) : System T W :=
  ⟨⟨BoxHeap.empty, world⟩, fun _ => none⟩

def noContexts (world : W) : Contexts T W := ⟨fun _ => none, world, []⟩

/--
For any interleaving of requests on any number of sessions: nothing traps, all
replies, allocations and releases are those of the abstract TA, and afterwards
the live boxes are the contexts of the open sessions, one for each, behind
pointers that are not null.
-/
theorem entry_points_keep_session_contexts {app : TrustedApp Request P T W}
    (happ : NonzeroErrors app) (calls : List (TeeCall Request)) (world : W)
    (hcalls : Admissible app calls (idleSystem world)) :
    ∃ final,
      runCalls app calls (idleSystem world) =
        .ok ((specCalls app calls (noContexts world)).1, final) ∧
      final.ta.world = (specCalls app calls (noContexts world)).2.world ∧
      final.ta.heap.log = (specCalls app calls (noContexts world)).2.log ∧
      Represents final.ta.heap.cells final.sessions
        (specCalls app calls (noContexts world)).2.contexts := by
  have hidle : Keeps (idleSystem world : System T W) (noContexts world) :=
    ⟨Represents.empty, rfl, rfl⟩
  obtain ⟨final, hrun, hboxes, hworld, hlog⟩ :=
    runCalls_simulates happ calls hidle hcalls
  exact ⟨final, hrun, hworld, hlog, hboxes⟩

theorem admissible_cons {app : TrustedApp Request P T W}
    {call : TeeCall Request} {calls : List (TeeCall Request)} {reply : Reply}
    {system next : System T W}
    (hexec : call.exec app system = .ok (reply, next))
    (hfresh : call.Fresh system) (hrest : Admissible app calls next) :
    Admissible app (call :: calls) system := by
  refine ⟨hfresh, fun reply' next' hexec' => ?_⟩
  rw [hexec, Except.ok.injEq, Prod.mk.injEq] at hexec'
  exact hexec'.2 ▸ hrest

def countingApp : TrustedApp Unit Unit Nat Unit where
  fromRaw _ := .ok ()
  default := 0
  create world := (.ok (), world)
  openSession _ context world := (.ok (), context, world)
  invokeCommand context cmdId _ world :=
    (if cmdId = 1 then .error (Error.new .notSupported) else .ok (),
      context + 1, world)
  closeSession context world := (context, world)

theorem countingApp_nonzeroErrors : NonzeroErrors countingApp :=
  ⟨by simp [countingApp], by simp [countingApp]⟩

def countingCalls : List (TeeCall Unit) :=
  [.openSession 1 () 0 8, .openSession 2 () 0 16, .invokeCommand 1 1 (),
    .invokeCommand 2 0 (), .closeSession 2, .invokeCommand 1 0 (),
    .invokeCommand 2 0 (), .closeSession 1]

theorem countingCalls_admissible :
    Admissible countingApp countingCalls (idleSystem ()) := by
  refine admissible_cons rfl ⟨rfl, by decide, rfl⟩ ?_
  refine admissible_cons rfl ⟨rfl, by decide, rfl⟩ ?_
  iterate 6 refine admissible_cons rfl trivial ?_
  trivial

theorem countingCalls_keep_session_contexts :
    ∃ final,
      runCalls countingApp countingCalls (idleSystem ()) =
        .ok ([.opened 0 8, .opened 0 16, .invoked 0xFFFF000A, .invoked 0,
          .closed, .invoked 0, .rejected, .closed], final) ∧
      final.ta.heap.log =
        [.allocated 0, .allocated 0, .released 1, .released 2] := by
  obtain ⟨final, hrun, -, hlog, -⟩ :=
    entry_points_keep_session_contexts countingApp_nonzeroErrors
      countingCalls () countingCalls_admissible
  exact ⟨final, hrun, hlog⟩

end TrustZoneSdk.Utee
