import TrustZoneSdk.Teec.Error
import TrustZoneSdk.Utee.EntryPoint

/-!
# From a handler's result to the client's

Success and failure cross the boundary as one code.  The entry point flattens
the handler's result, the TEE forwards the code, and the client reads a result
out of it again.  The result survives unless the handler fails with an error
whose code is that of success.
-/

namespace TrustZoneSdk.Boundary

open TrustZoneSdk.Foundation
open TrustZoneSdk.Utee

variable {Request P T W : Type}

inductive Entry (Request P T W : Type) where
  | create (app : TrustedApp Request P T W)
  | openSession (app : TrustedApp Request P T W) (request : Request)
      (sessCtx address : Nat)
  | invokeCommand (app : TrustedApp Request P T W) (sessCtx : Nat)
      (cmdId : UInt32) (request : Request)
  | openSessionPlain (app : PlainApp Request P W) (request : Request)
  | invokeCommandPlain (app : PlainApp Request P W) (cmdId : UInt32)
      (request : Request)

namespace Entry

def run : Entry Request P T W → TaM T W TeeResult
  | .create app => app.createEntryPoint
  | .openSession app request sessCtx address => do
      return (← app.openSessionEntryPoint request sessCtx address).1
  | .invokeCommand app sessCtx cmdId request =>
      app.invokeCommandEntryPoint sessCtx cmdId request
  | .openSessionPlain app request => app.openSessionEntryPoint request
  | .invokeCommandPlain app cmdId request =>
      app.invokeCommandEntryPoint cmdId request

def handlerResult (state : TaState T W) :
    Entry Request P T W → Option (Except Error Unit)
  | .create app => some (app.create state.world).1
  | .openSession app request _ _ =>
      match app.fromRaw request with
      | .error _ => none
      | .ok parameters =>
          some (app.openSession parameters app.default state.world).1
  | .invokeCommand app sessCtx cmdId request =>
      if sessCtx = 0 then none
      else
        match app.fromRaw request, state.heap.cells sessCtx with
        | .ok parameters, some context =>
            some (app.invokeCommand context cmdId parameters state.world).1
        | _, _ => none
  | .openSessionPlain app request =>
      match app.fromRaw request with
      | .error _ => none
      | .ok parameters => some (app.openSession parameters state.world).1
  | .invokeCommandPlain app cmdId request =>
      match app.fromRaw request with
      | .error _ => none
      | .ok parameters =>
          some (app.invokeCommand cmdId parameters state.world).1

theorem run_resultCode (entry : Entry Request P T W) (state : TaState T W)
    {result : Except Error Unit}
    (h : entry.handlerResult state = some result) :
    Run.outcome (entry.run.run state) = .ok (resultCode result) := by
  cases entry with
  | create app =>
      obtain rfl : (app.create state.world).1 = result := by
        simpa [handlerResult] using h
      simp [run, TrustedApp.createEntryPoint, callHandler]
  | openSession app request sessCtx address =>
      cases hparams : app.fromRaw request with
      | error error => simp [handlerResult, hparams] at h
      | ok parameters =>
          rcases hhandler : app.openSession parameters app.default state.world
            with ⟨result', context, world⟩
          obtain rfl : result' = result := by
            simpa [handlerResult, hparams, hhandler] using h
          cases result' with
          | ok _ =>
              simp [run, TrustedApp.openSession_accepted hparams hhandler,
                resultCode]
          | error error =>
              simp [run, TrustedApp.openSession_refused hparams hhandler,
                resultCode]
  | invokeCommand app sessCtx cmdId request =>
      by_cases hnull : sessCtx = 0
      · simp [handlerResult, hnull] at h
      · cases hparams : app.fromRaw request with
        | error error => simp [handlerResult, hnull, hparams] at h
        | ok parameters =>
            cases hcell : state.heap.cells sessCtx with
            | none => simp [handlerResult, hnull, hparams, hcell] at h
            | some context =>
                rcases hhandler : app.invokeCommand context cmdId parameters
                  state.world with ⟨result', context', world⟩
                obtain rfl : result' = result := by
                  simpa [handlerResult, hnull, hparams, hcell, hhandler]
                    using h
                rw [run, TrustedApp.invokeCommand_decoded hnull hparams hcell
                  hhandler]
                rfl
  | openSessionPlain app request =>
      cases hparams : app.fromRaw request with
      | error error => simp [handlerResult, hparams] at h
      | ok parameters =>
          obtain rfl : (app.openSession parameters state.world).1 = result := by
            simpa [handlerResult, hparams] using h
          simp [run, PlainApp.openSessionEntryPoint, hparams, callHandler]
  | invokeCommandPlain app cmdId request =>
      cases hparams : app.fromRaw request with
      | error error => simp [handlerResult, hparams] at h
      | ok parameters =>
          obtain rfl :
              (app.invokeCommand cmdId parameters state.world).1 = result := by
            simpa [handlerResult, hparams] using h
          simp [run, PlainApp.invokeCommandEntryPoint, hparams, callHandler]

end Entry

/-- The entry point and the client both tell what the handler returned. -/
def Transparent (code : TeeResult) (result : Except Error Unit) : Prop :=
  (code = teeSuccess ↔ result = .ok ()) ∧
  ∀ origin,
    (Teec.teecCheckWithOrigin code origin = .ok () ↔ result = .ok ()) ∧
    ∀ error, result = .error error →
      ∃ clientError,
        Teec.teecCheckWithOrigin code origin = .error clientError ∧
        clientError.rawCode = error.rawCode

theorem transparent_ok : Transparent (resultCode (.ok ())) (.ok ()) := by
  simp [Transparent, resultCode, Teec.teecCheckWithOrigin, Teec.teecSuccess,
    teeSuccess]

theorem transparent_error_iff (error : Error) :
    Transparent (resultCode (.error error)) (.error error) ↔
      error.rawCode ≠ teeSuccess := by
  constructor
  · intro htransparent hcode
    have hok := htransparent.1.mp hcode
    cases hok
  · intro hcode
    have hclient : error.rawCode ≠ Teec.teecSuccess := hcode
    simp [Transparent, resultCode, Teec.teecCheckWithOrigin, hcode, hclient]

/--
A handler's result reaches the client exactly when it is not an error that
carries the code of success, which only the catch-all kind can.
-/
theorem handler_result_transparent_iff (entry : Entry Request P T W)
    (state : TaState T W) {result : Except Error Unit}
    (h : entry.handlerResult state = some result) :
    (∃ code, Run.outcome (entry.run.run state) = .ok code ∧
        Transparent code result) ↔
      ∀ error, result = .error error → error.kind ≠ .unknown 0 := by
  have hrun := entry.run_resultCode state h
  have hcode : (∃ code, Run.outcome (entry.run.run state) = .ok code ∧
      Transparent code result) ↔ Transparent (resultCode result) result := by
    simp [hrun]
  rw [hcode]
  cases result with
  | ok _ => exact iff_of_true transparent_ok (by simp)
  | error error =>
      rw [transparent_error_iff]
      have hzero := error.kind.intoPrimitive_eq_zero_iff
      simp [Error.rawCode, teeSuccess, hzero]

def createApp (result : Except Error Unit) :
    TrustedApp Unit Unit Unit Unit where
  fromRaw _ := .ok ()
  default := ()
  create world := (result, world)
  openSession _ context world := (.ok (), context, world)
  invokeCommand context _ _ world := (.ok (), context, world)
  closeSession context world := (context, world)

theorem busy_create_transparent :
    ∃ code,
      Run.outcome ((Entry.create
        (createApp (.error (Error.new .busy)))).run.run
          ⟨BoxHeap.empty, ()⟩) = .ok code ∧
      Transparent code (.error (Error.new .busy)) := by
  refine (handler_result_transparent_iff
    (Entry.create (createApp (.error (Error.new .busy))))
    ⟨BoxHeap.empty, ()⟩ rfl).mpr ?_
  rintro error ⟨⟩
  decide

/-- An error made from the raw code zero reaches the client as success. -/
theorem zero_error_create_succeeds :
    (Entry.create (createApp (.error (Error.fromRawError 0)))).handlerResult
        ⟨BoxHeap.empty, ()⟩ = some (.error (Error.new (.unknown 0))) ∧
      Run.outcome ((Entry.create
        (createApp (.error (Error.fromRawError 0)))).run.run
          ⟨BoxHeap.empty, ()⟩) = .ok teeSuccess ∧
      Teec.teecCheckWithOrigin teeSuccess 4 = .ok () := by
  exact ⟨rfl, rfl, rfl⟩

end TrustZoneSdk.Boundary
