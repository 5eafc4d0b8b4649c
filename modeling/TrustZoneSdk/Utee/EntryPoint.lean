import TrustZoneSdk.Foundation.BoxHeap
import TrustZoneSdk.Utee.Error

/-!
# The generated entry points of a TA

The attribute macros wrap the handlers of a TA into the functions that the TEE
calls.  A session context lives in a box; between two calls only its raw
pointer is kept, by the TEE.  Opening leaks the box, invoking takes it back
and must forget it on every path, and closing drops it.

Handlers are arbitrary.  All that they can touch besides the context, the
memory of the parameters included, is `W`.
-/

namespace TrustZoneSdk.Utee

open TrustZoneSdk.Foundation

/-- What ends a TA instead of returning from an entry point. -/
inductive Trap where
  | danglingBox
  | panic (message : String)
  deriving DecidableEq, Repr

structure TaState (T W : Type) where
  heap : BoxHeap T
  world : W

abbrev TaM (T W α : Type) := Fallible Trap (TaState T W) α

/-- A TA whose handlers take a session context. -/
structure TrustedApp (Request P T W : Type) where
  fromRaw : Request → Except Error P
  default : T
  create : W → Except Error Unit × W
  openSession : P → T → W → Except Error Unit × T × W
  invokeCommand : T → UInt32 → P → W → Except Error Unit × T × W
  closeSession : T → W → T × W

structure PlainApp (Request P W : Type) where
  fromRaw : Request → Except Error P
  openSession : P → W → Except Error Unit × W
  invokeCommand : UInt32 → P → W → Except Error Unit × W

section Boxes

variable {T W : Type}

def boxNew (address : Nat) (value : T) : TaM T W Nat := do
  modify fun state => { state with heap := state.heap.alloc address value }
  return address

/-- `Box::from_raw`: the caller claims that a box lives there. -/
def boxFromRaw (address : Nat) : TaM T W T := do
  match (← get).heap.cells address with
  | some value => return value
  | none => Fallible.fail .danglingBox

/-- The box is forgotten: its value stays, and so does the allocation. -/
def boxForget (address : Nat) (value : T) : TaM T W Unit :=
  modify fun state => { state with heap := state.heap.write address value }

def boxDrop (address : Nat) (value : T) : TaM T W Unit :=
  modify fun state => { state with heap := state.heap.release address value }

def callHandler {α : Type} (handler : W → α × W) : TaM T W α := do
  let (result, world) := handler (← get).world
  modify fun state => { state with world }
  return result

end Boxes

def resultCode : Except Error Unit → TeeResult
  | .ok () => teeSuccess
  | .error error => error.rawCode

namespace TrustedApp

variable {Request P T W : Type} (app : TrustedApp Request P T W)

def createEntryPoint : TaM T W TeeResult := do
  return resultCode (← callHandler app.create)

/--
The code and what `*sess_ctx`, on entry `sessCtx`, holds on return.  `address`
is where the allocator puts the context if it comes to that.
-/
def openSessionEntryPoint (request : Request) (sessCtx address : Nat) :
    TaM T W (TeeResult × Nat) := do
  match app.fromRaw request with
  | .error error => return (error.rawCode, sessCtx)
  | .ok parameters =>
      let (result, context) ← callHandler fun world =>
        let (result, context, world) :=
          app.openSession parameters app.default world
        ((result, context), world)
      match result with
      | .ok () => return (teeSuccess, ← boxNew address context)
      | .error error => return (error.rawCode, sessCtx)

def invokeCommandEntryPoint (sessCtx : Nat) (cmdId : UInt32)
    (request : Request) : TaM T W TeeResult := do
  if sessCtx = 0 then return ErrorKind.security.intoPrimitive
  else
    match app.fromRaw request with
    | .error error => return error.rawCode
    | .ok parameters =>
        let context ← boxFromRaw sessCtx
        let (result, context) ← callHandler fun world =>
          let (result, context, world) :=
            app.invokeCommand context cmdId parameters world
          ((result, context), world)
        match result with
        | .ok () =>
            boxForget sessCtx context
            return teeSuccess
        | .error error =>
            boxForget sessCtx context
            return error.rawCode

def closeSessionEntryPoint (sessCtx : Nat) : TaM T W Unit := do
  if sessCtx = 0 then Fallible.fail (.panic "sess_ctx is null")
  else
    let context ← boxFromRaw sessCtx
    let context ← callHandler (app.closeSession context)
    boxDrop sessCtx context

/-! ## How the entry points run -/

section Runs

variable {app} {request : Request} {heap : BoxHeap T} {world : W}

theorem openSession_undecoded {error : Error}
    (h : app.fromRaw request = .error error) (sessCtx address : Nat) :
    (app.openSessionEntryPoint request sessCtx address).run ⟨heap, world⟩ =
      .ok (error.rawCode, sessCtx) ⟨heap, world⟩ := by
  simp [openSessionEntryPoint, h]

theorem openSession_accepted {parameters : P} {context : T} {world' : W}
    (h : app.fromRaw request = .ok parameters)
    (hhandler : app.openSession parameters app.default world =
      (.ok (), context, world')) (sessCtx address : Nat) :
    (app.openSessionEntryPoint request sessCtx address).run ⟨heap, world⟩ =
      .ok (teeSuccess, address) ⟨heap.alloc address context, world'⟩ := by
  simp [openSessionEntryPoint, h, callHandler, hhandler, boxNew]

theorem openSession_refused {parameters : P} {error : Error} {context : T}
    {world' : W} (h : app.fromRaw request = .ok parameters)
    (hhandler : app.openSession parameters app.default world =
      (.error error, context, world')) (sessCtx address : Nat) :
    (app.openSessionEntryPoint request sessCtx address).run ⟨heap, world⟩ =
      .ok (error.rawCode, sessCtx) ⟨heap, world'⟩ := by
  simp [openSessionEntryPoint, h, callHandler, hhandler]

variable {sessCtx : Nat} (hnull : sessCtx ≠ 0)

include hnull

theorem invokeCommand_undecoded {error : Error}
    (h : app.fromRaw request = .error error) (cmdId : UInt32) :
    (app.invokeCommandEntryPoint sessCtx cmdId request).run ⟨heap, world⟩ =
      .ok error.rawCode ⟨heap, world⟩ := by
  simp [invokeCommandEntryPoint, hnull, h]

theorem invokeCommand_decoded {parameters : P} {context context' : T}
    {world' : W} {result : Except Error Unit}
    (h : app.fromRaw request = .ok parameters)
    (hcell : heap.cells sessCtx = some context) {cmdId : UInt32}
    (hhandler : app.invokeCommand context cmdId parameters world =
      (result, context', world')) :
    (app.invokeCommandEntryPoint sessCtx cmdId request).run ⟨heap, world⟩ =
      .ok (resultCode result) ⟨heap.write sessCtx context', world'⟩ := by
  cases result <;>
    simp [invokeCommandEntryPoint, hnull, h, boxFromRaw, hcell, callHandler,
      hhandler, boxForget, resultCode]

theorem closeSession_run {context context' : T} {world' : W}
    (hcell : heap.cells sessCtx = some context)
    (hhandler : app.closeSession context world = (context', world')) :
    (app.closeSessionEntryPoint sessCtx).run ⟨heap, world⟩ =
      .ok () ⟨heap.release sessCtx context', world'⟩ := by
  simp [closeSessionEntryPoint, hnull, boxFromRaw, hcell, callHandler,
    hhandler, boxDrop]

end Runs

end TrustedApp

namespace PlainApp

variable {Request P T W : Type} (app : PlainApp Request P W)

def openSessionEntryPoint (request : Request) : TaM T W TeeResult := do
  match app.fromRaw request with
  | .error error => return error.rawCode
  | .ok parameters =>
      return resultCode (← callHandler (app.openSession parameters))

def invokeCommandEntryPoint (cmdId : UInt32) (request : Request) :
    TaM T W TeeResult := do
  match app.fromRaw request with
  | .error error => return error.rawCode
  | .ok parameters =>
      return resultCode (← callHandler (app.invokeCommand cmdId parameters))

end PlainApp

end TrustZoneSdk.Utee
