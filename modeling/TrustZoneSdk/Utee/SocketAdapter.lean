import TrustZoneSdk.Foundation.Ledger
import TrustZoneSdk.Utee.Socket

/-!
# TCP and UDP sockets of the TEE

The TEE has one instance of its socket interface for each protocol, and a
handle may be passed only to the instance that returned it, from its opening
to its closing.  The adapters pass the length of a buffer as a 32-bit word,
ask the instance for the protocol's own code when a call fails with one, and
close their handle when they are dropped.
-/

namespace TrustZoneSdk.Utee

open TrustZoneSdk.Foundation

inductive SocketProtocol where
  | tcp
  | udp
  deriving DecidableEq, Repr

inductive IpVersion where
  | dc
  | v4
  | v6
  deriving DecidableEq, Repr

/-- A `CString` holds no NUL besides the one that ends it. -/
structure Setup where
  addr : List UInt8
  port : UInt16
  version : IpVersion
  terminated : addr.contains 0 = false
  deriving DecidableEq

namespace Setup

def new (addr : List UInt8) (port : UInt16) (version : IpVersion) :
    Except Error Setup :=
  if h : addr.contains 0 = false then .ok ⟨addr, port, version, h⟩
  else .error (Error.new .badParameters)

def newV4 (addr : List UInt8) (port : UInt16) : Except Error Setup :=
  new addr port .v4

def newV6 (addr : List UInt8) (port : UInt16) : Except Error Setup :=
  new addr port .v6

end Setup

/-! ## Error codes -/

def teeIsocketErrorProtocol : UInt32 := 0xF1007001

def teeIsocketErrorRemoteClosed : UInt32 := 0xF1007002

def teeIsocketErrorTimeout : UInt32 := 0xF1007003

def teeIsocketErrorOutOfResources : UInt32 := 0xF1007004

def teeIsocketErrorLargeBuffer : UInt32 := 0xF1007005

def teeIsocketWarningProtocol : UInt32 := 0xF1007006

def teeIsocketErrorHostname : UInt32 := 0xF1007007

namespace SocketError

def fromRawError (code protocolError : UInt32) : SocketError :=
  if code = teeIsocketErrorProtocol then errorProtocol protocolError
  else if code = teeIsocketErrorRemoteClosed then remoteClosed
  else if code = teeIsocketErrorTimeout then timeout
  else if code = teeIsocketErrorOutOfResources then outOfResource
  else if code = teeIsocketErrorLargeBuffer then largeBuffer
  else if code = teeIsocketWarningProtocol then warningProtocol protocolError
  else if code = teeIsocketErrorHostname then hostname
  else if code = ErrorKind.cancel.intoPrimitive ∨
      code = ErrorKind.communication.intoPrimitive ∨
      code = ErrorKind.outOfMemory.intoPrimitive ∨
      code = ErrorKind.badParameters.intoPrimitive then
    tee (Error.fromRawError code).kind
  else unknown code

def ofError (error : Error) : SocketError := tee error.kind

end SocketError

/-! ## The TEE -/

/-- A handle together with the instance it belongs to. -/
structure SocketResource where
  protocol : SocketProtocol
  handle : Nat
  deriving DecidableEq, Repr

inductive SocketCall where
  | «open» (protocol : SocketProtocol) (setup : Setup) (granted : Option Nat)
  | send (resource : SocketResource) (data : List UInt8) (timeout : UInt32)
  | recv (resource : SocketResource) (length timeout : UInt32)
  | error (resource : SocketResource)
  | close (resource : SocketResource)
  deriving DecidableEq

namespace SocketCall

def events : SocketCall → List (Ledger.Event SocketResource)
  | .open protocol _ granted =>
      granted.toList.map fun handle => .acquire ⟨protocol, handle⟩
  | send resource _ _ => [.use resource]
  | recv resource _ _ => [.use resource]
  | error resource => [.use resource]
  | close resource => [.release resource]

def passed : SocketCall → Option SocketResource
  | .open _ _ _ => none
  | send resource _ _ => some resource
  | recv resource _ _ => some resource
  | error resource => some resource
  | close resource => some resource

end SocketCall

/-- How `open` is answered; a handle comes with success only. -/
structure OpenReply (protocol : SocketProtocol) where
  code : TeeResult
  supply : Ledger.Supply (SocketResource.mk protocol)
  protocolError : UInt32

structure SocketTee (σ : Type) where
  «open» : (protocol : SocketProtocol) → Setup → σ → OpenReply protocol × σ
  send : SocketResource → List UInt8 → UInt32 → σ → (TeeResult × UInt32) × σ
  recv : SocketResource → UInt32 → UInt32 → σ →
    (TeeResult × UInt32 × List UInt8) × σ
  error : SocketResource → σ → UInt32 × σ
  close : SocketResource → σ → TeeResult × σ

structure SocketWorld (σ : Type) where
  log : List SocketCall
  state : σ

def SocketWorld.events {σ : Type} (world : SocketWorld σ) :
    List (Ledger.Event SocketResource) :=
  world.log.flatMap SocketCall.events

structure SocketHandle (σ : Type) where
  raw : Nat
  world : SocketWorld σ

/-! ## The adapters -/

section Adapter

variable {σ : Type} (tee : SocketTee σ) (protocol : SocketProtocol)

def handleSocketOperationError (resource : SocketResource) (code : UInt32)
    (world : SocketWorld σ) : SocketError × SocketWorld σ :=
  let reply := tee.error resource world.state
  if code = teeIsocketErrorProtocol then
    (.errorProtocol reply.1, ⟨world.log ++ [.error resource], reply.2⟩)
  else if code = teeIsocketWarningProtocol then
    (.warningProtocol reply.1, ⟨world.log ++ [.error resource], reply.2⟩)
  else (.fromRawError code 0, world)

def openHandle (setup : Setup) (world : SocketWorld σ) :
    Except SocketError Nat × SocketWorld σ :=
  let reply := tee.open protocol setup world.state
  if reply.1.code = teeSuccess then
    let handle := reply.1.supply.pick (Ledger.outstanding world.events)
    (.ok handle, ⟨world.log ++ [.open protocol setup (some handle)], reply.2⟩)
  else
    (.error (.fromRawError reply.1.code reply.1.protocolError),
      ⟨world.log ++ [.open protocol setup none], reply.2⟩)

def concludeCall (resource : SocketResource) (ret : TeeResult)
    (length : UInt32) (world : SocketWorld σ) :
    Except SocketError Nat × SocketHandle σ :=
  if ret = teeSuccess then (.ok length.toNat, ⟨resource.handle, world⟩)
  else
    let failed := handleSocketOperationError tee resource ret world
    (.error failed.1, ⟨resource.handle, failed.2⟩)

def sendHandle (self : SocketHandle σ) (buf : List UInt8) (timeout : UInt32) :
    Except SocketError Nat × SocketHandle σ :=
  let resource : SocketResource := ⟨protocol, self.raw⟩
  let data := buf.take (UInt32.ofNat buf.length).toNat
  let reply := tee.send resource data timeout self.world.state
  concludeCall tee resource reply.1.1 reply.1.2
    ⟨self.world.log ++ [.send resource data timeout], reply.2⟩

def recvHandle (self : SocketHandle σ) (buf : List UInt8) (timeout : UInt32) :
    (Except SocketError Nat × List UInt8) × SocketHandle σ :=
  let resource : SocketResource := ⟨protocol, self.raw⟩
  let length := UInt32.ofNat buf.length
  let reply := tee.recv resource length timeout self.world.state
  let concluded := concludeCall tee resource reply.1.1 reply.1.2.1
    ⟨self.world.log ++ [.recv resource length timeout], reply.2⟩
  ((concluded.1, reply.1.2.2), concluded.2)

def dropHandle (self : SocketHandle σ) : SocketWorld σ :=
  let resource : SocketResource := ⟨protocol, self.raw⟩
  ⟨self.world.log ++ [.close resource],
    (tee.close resource self.world.state).2⟩

def socketAdapter (world : SocketWorld σ) :
    SocketAdapter Setup (SocketHandle σ) where
  «open» setup :=
    match openHandle tee protocol setup world with
    | (.ok raw, world) => .ok ⟨raw, world⟩
    | (.error error, _) => .error error
  send := sendHandle tee protocol
  recv := recvHandle tee protocol

def tcpAdapter : SocketWorld σ → SocketAdapter Setup (SocketHandle σ) :=
  socketAdapter tee .tcp

def udpAdapter : SocketWorld σ → SocketAdapter Setup (SocketHandle σ) :=
  socketAdapter tee .udp

end Adapter

/-! ## Whole buffers over an adapter -/

/-- `send` and `recv` report what they did, within what they were given. -/
structure SocketTee.FollowsGp {σ : Type} (tee : SocketTee σ) : Prop where
  send_le : ∀ resource data timeout state,
    (tee.send resource data timeout state).1.2.toNat ≤ data.length
  recv_le : ∀ resource length timeout state,
    (tee.recv resource length timeout state).1.2.1 ≤ length
  recv_length : ∀ resource length timeout state,
    (tee.recv resource length timeout state).1.1 = teeSuccess →
      (tee.recv resource length timeout state).1.2.2.length =
        (tee.recv resource length timeout state).1.2.1.toNat
  recv_failed : ∀ resource length timeout state,
    (tee.recv resource length timeout state).1.1 ≠ teeSuccess →
      (tee.recv resource length timeout state).1.2.2 = []

section Lawful

variable {σ : Type} {tee : SocketTee σ}

theorem toNat_length_le (buf : List UInt8) :
    (UInt32.ofNat buf.length).toNat ≤ buf.length := by
  rw [UInt32.toNat_ofNat']
  exact Nat.mod_le _ _

theorem concludeCall_ok {resource : SocketResource} {ret : TeeResult}
    {length : UInt32} {world : SocketWorld σ} {n : Nat}
    (h : (concludeCall tee resource ret length world).1 = .ok n) :
    ret = teeSuccess ∧ length.toNat = n := by
  rw [concludeCall] at h
  split at h
  · exact ⟨‹_›, Except.ok.inj h⟩
  · cases h

theorem concludeCall_error {resource : SocketResource} {ret : TeeResult}
    {length : UInt32} {world : SocketWorld σ} {error : SocketError}
    (h : (concludeCall tee resource ret length world).1 = .error error) :
    ret ≠ teeSuccess := by
  rw [concludeCall] at h
  split at h
  · cases h
  · assumption

theorem socketAdapter_lawful (h : tee.FollowsGp) (protocol : SocketProtocol)
    (world : SocketWorld σ) : (socketAdapter tee protocol world).Lawful where
  send_le self buf timeout n hn := by
    obtain ⟨-, hlength⟩ := concludeCall_ok hn
    rw [← hlength]
    refine (h.send_le _ _ _ _).trans ?_
    rw [List.length_take]
    exact Nat.min_le_right _ _
  recv_ok self buf timeout n hn := by
    obtain ⟨hcode, hlength⟩ := concludeCall_ok hn
    have hle := UInt32.le_iff_toNat_le.mp
      (h.recv_le ⟨protocol, self.raw⟩ (UInt32.ofNat buf.length) timeout
        self.world.state)
    have hbytes := h.recv_length _ _ _ _ hcode
    rw [hlength] at hle hbytes
    exact ⟨hle.trans (toNat_length_le buf), hbytes⟩
  recv_error self buf timeout error herror :=
    h.recv_failed _ _ _ _ (concludeCall_error herror)

end Lawful

/-! ## Programs with many sockets -/

inductive SocketStep where
  | connect (protocol : SocketProtocol) (addr : List UInt8) (port : UInt16)
      (version : IpVersion)
  | send (index : Nat) (buf : List UInt8)
  | recv (index : Nat) (buf : List UInt8)
  | writeAll (index : Nat) (buf : List UInt8)
  | readExact (index : Nat) (buf : List UInt8)
  | drop (index : Nat)
  deriving DecidableEq

structure LiveSocket where
  protocol : SocketProtocol
  socket : Socket Nat

def LiveSocket.resource (live : LiveSocket) : SocketResource :=
  ⟨live.protocol, live.socket.handle⟩

structure SocketProgram (σ : Type) where
  sockets : List LiveSocket
  world : SocketWorld σ

section Programs

variable {σ : Type} (tee : SocketTee σ)

def LiveSocket.enter (live : LiveSocket) (world : SocketWorld σ) :
    Socket (SocketHandle σ) :=
  ⟨⟨live.socket.handle, world⟩, live.socket.recvTimeout,
    live.socket.sendTimeout⟩

def connectWithIpVersion (protocol : SocketProtocol) (addr : List UInt8)
    (port : UInt16)
    (version : IpVersion) (world : SocketWorld σ) :
    Except SocketError LiveSocket × SocketWorld σ :=
  match Setup.new addr port version with
  | .error error => (.error (.ofError error), world)
  | .ok setup =>
      let opened := openHandle tee protocol setup world
      (opened.1.map fun handle =>
        ⟨protocol, ⟨handle, teeTimeoutInfinite, teeTimeoutInfinite⟩⟩, opened.2)

inductive Connected (protocol : SocketProtocol) (world : SocketWorld σ) :
    Except SocketError LiveSocket × SocketWorld σ → Prop where
  | badAddress (error : SocketError) :
      Connected protocol world (.error error, world)
  | refused (setup : Setup) (error : SocketError) (state : σ) :
      Connected protocol world
        (.error error, ⟨world.log ++ [.open protocol setup none], state⟩)
  | established (setup : Setup) (handle : Nat) (state : σ)
      (fresh : (⟨protocol, handle⟩ : SocketResource) ∉
        Ledger.outstanding world.events) :
      Connected protocol world
        (.ok ⟨protocol, ⟨handle, teeTimeoutInfinite, teeTimeoutInfinite⟩⟩,
          ⟨world.log ++ [.open protocol setup (some handle)], state⟩)

theorem connect_connected (protocol : SocketProtocol) (addr : List UInt8)
    (port : UInt16) (version : IpVersion) (world : SocketWorld σ) :
    Connected protocol world
      (connectWithIpVersion tee protocol addr port version world) := by
  rw [connectWithIpVersion]
  cases Setup.new addr port version with
  | error error => exact .badAddress _
  | ok setup =>
      by_cases hcode : (tee.open protocol setup
          world.state).1.code = teeSuccess
      · simp only [openHandle, hcode, if_true, Except.map]
        exact .established setup _ _ (Ledger.Supply.fresh _ _)
      · simp only [openHandle, hcode, if_false, Except.map]
        exact .refused setup _ _

def callMethod (index : Nat)
    (method : SocketAdapter Setup (SocketHandle σ) →
      Socket (SocketHandle σ) → Socket (SocketHandle σ))
    (program : SocketProgram σ) : SocketProgram σ :=
  match program.sockets[index]? with
  | none => program
  | some live =>
      let after := method (socketAdapter tee live.protocol program.world)
        (live.enter program.world)
      { program with world := after.handle.world }

def SocketStep.exec (program : SocketProgram σ) :
    SocketStep → SocketProgram σ
  | .connect protocol addr port version =>
      let connected :=
        connectWithIpVersion tee protocol addr port version program.world
      match connected.1 with
      | .ok live => ⟨program.sockets ++ [live], connected.2⟩
      | .error _ => ⟨program.sockets, connected.2⟩
  | .send index buf =>
      callMethod tee index (fun adapter socket =>
        (Socket.send adapter buf socket).2) program
  | .recv index buf =>
      callMethod tee index (fun adapter socket =>
        (Socket.recv adapter buf socket).2) program
  | .writeAll index buf =>
      callMethod tee index (fun adapter socket =>
        ((Utee.writeAll buf).run (Socket.send adapter) socket).state) program
  | .readExact index buf =>
      callMethod tee index (fun adapter socket =>
        ((Utee.readExact buf).run (Socket.recv adapter) socket).state) program
  | .drop index =>
      match program.sockets[index]? with
      | none => program
      | some live =>
          ⟨program.sockets.eraseIdx index,
            dropHandle tee live.protocol ⟨live.socket.handle, program.world⟩⟩

def runSockets (steps : List SocketStep) (program : SocketProgram σ) :
    SocketProgram σ :=
  steps.foldl (fun program step => step.exec tee program) program

end Programs

/-! ## Handles and their instances -/

section Uses

variable {σ : Type} {tee : SocketTee σ} {resource : SocketResource}
  {before middle after : SocketWorld σ}

/-- Between two worlds only `resource` was passed, and not closed. -/
def PassesOnly (resource : SocketResource) (before after : SocketWorld σ) :
    Prop :=
  ∃ calls, after.log = before.log ++ calls ∧
    ∀ call ∈ calls, call.events = [.use resource]

theorem PassesOnly.refl (world : SocketWorld σ) :
    PassesOnly resource world world :=
  ⟨[], by simp, by simp⟩

theorem PassesOnly.trans (h : PassesOnly resource before middle)
    (hnext : PassesOnly resource middle after) :
    PassesOnly resource before after := by
  obtain ⟨calls, hlog, hcalls⟩ := h
  obtain ⟨more, hmore, hmoreCalls⟩ := hnext
  refine ⟨calls ++ more, by rw [hmore, hlog, List.append_assoc], ?_⟩
  intro call hcall
  rcases List.mem_append.mp hcall with hcall | hcall
  · exact hcalls call hcall
  · exact hmoreCalls call hcall

theorem PassesOnly.call (world : SocketWorld σ) (call : SocketCall) (state : σ)
    (h : call.events = [.use resource]) :
    PassesOnly resource world ⟨world.log ++ [call], state⟩ :=
  ⟨[call], rfl, by simpa using h⟩

theorem handleSocketOperationError_uses (code : UInt32)
    (world : SocketWorld σ) :
    PassesOnly resource world
      (handleSocketOperationError tee resource code world).2 := by
  rw [handleSocketOperationError]
  split_ifs
  · exact .call world (.error resource) _ rfl
  · exact .call world (.error resource) _ rfl
  · exact .refl world

structure HandleKept (resource : SocketResource) (before : SocketWorld σ)
    (handle : SocketHandle σ) : Prop where
  raw : handle.raw = resource.handle
  uses : PassesOnly resource before handle.world

theorem concludeCall_keeps (ret : TeeResult) (length : UInt32)
    (h : PassesOnly resource before after) :
    HandleKept resource before
      (concludeCall tee resource ret length after).2 := by
  rw [concludeCall]
  split_ifs
  · exact ⟨rfl, h⟩
  · exact ⟨rfl, h.trans (handleSocketOperationError_uses ret after)⟩

variable {socket : Socket (SocketHandle σ)} (world : SocketWorld σ)

variable (tee) in
theorem send_keeps (h : HandleKept resource before socket.handle)
    (buf : List UInt8) :
    HandleKept resource before
      (Socket.send (socketAdapter tee resource.protocol world) buf
        socket).2.handle := by
  have hresource : (⟨resource.protocol, socket.handle.raw⟩ :
      SocketResource) = resource := by rw [h.raw]
  change HandleKept resource before (sendHandle tee resource.protocol
    socket.handle buf socket.sendTimeout).2
  rw [sendHandle, hresource]
  exact concludeCall_keeps _ _ (h.uses.trans (.call _ _ _ rfl))

variable (tee) in
theorem recv_keeps (h : HandleKept resource before socket.handle)
    (buf : List UInt8) :
    HandleKept resource before
      (Socket.recv (socketAdapter tee resource.protocol world) buf
        socket).2.handle := by
  have hresource : (⟨resource.protocol, socket.handle.raw⟩ :
      SocketResource) = resource := by rw [h.raw]
  change HandleKept resource before (recvHandle tee resource.protocol
    socket.handle buf socket.recvTimeout).2
  rw [recvHandle, hresource]
  exact concludeCall_keeps _ _ (h.uses.trans (.call _ _ _ rfl))

def PassesOwn (tee : SocketTee σ)
    (method : SocketAdapter Setup (SocketHandle σ) →
      Socket (SocketHandle σ) → Socket (SocketHandle σ)) : Prop :=
  ∀ resource before world socket,
    HandleKept resource before socket.handle →
      HandleKept resource before
        (method (socketAdapter tee resource.protocol world) socket).handle

variable (tee) in
theorem writeAll_passesOwn (buf : List UInt8) :
    PassesOwn tee fun adapter socket =>
      ((writeAll buf).run (Socket.send adapter) socket).state := by
  intro resource before world socket h
  have hstep : ∀ request (socket : Socket (SocketHandle σ)),
      HandleKept resource before socket.handle →
        HandleKept resource before (Socket.send
          (socketAdapter tee resource.protocol world) request
            socket).2.handle :=
    fun request socket h => send_keeps tee world h request
  exact Dialogue.run_invariant hstep (writeAll buf) h

variable (tee) in
theorem readExact_passesOwn (buf : List UInt8) :
    PassesOwn tee fun adapter socket =>
      ((readExact buf).run (Socket.recv adapter) socket).state := by
  intro resource before world socket h
  have hstep : ∀ request (socket : Socket (SocketHandle σ)),
      HandleKept resource before socket.handle →
        HandleKept resource before (Socket.recv
          (socketAdapter tee resource.protocol world) request
            socket).2.handle :=
    fun request socket h => recv_keeps tee world h request
  exact Dialogue.run_invariant hstep (readExact buf) h

end Uses

section Ledger

variable {σ : Type} {tee : SocketTee σ} {program : SocketProgram σ}

abbrev SocketAccounts :
    List (Ledger.Event SocketResource) → Multiset SocketResource → Prop :=
  Ledger.Accounts fun _ => none

def SocketProgram.owned (program : SocketProgram σ) :
    Multiset SocketResource :=
  Ledger.holdings (fun live => {live.resource}) program.sockets

def SocketProgram.Held (program : SocketProgram σ) : Prop :=
  SocketAccounts program.world.events program.owned

theorem SocketWorld.events_concat (log : List SocketCall) (call : SocketCall)
    (state : σ) :
    (⟨log ++ [call], state⟩ : SocketWorld σ).events =
      log.flatMap SocketCall.events ++ call.events := by
  simp [SocketWorld.events, List.flatMap_append]

theorem PassesOnly.accounts {resource : SocketResource}
    {before after : SocketWorld σ} {owned : Multiset SocketResource}
    (h : PassesOnly resource before after) (hopen : resource ∈ owned)
    (haccounts : SocketAccounts before.events owned) :
    SocketAccounts after.events owned := by
  obtain ⟨calls, hlog, hcalls⟩ := h
  have hevents : after.events =
      before.events ++ calls.map fun _ => .use resource := by
    rw [SocketWorld.events, hlog, List.flatMap_append, List.map_eq_flatMap]
    exact congrArg (_ ++ ·) (List.flatMap_congr hcalls)
  rw [hevents]
  exact haccounts.uses fun _ _ => hopen

theorem SocketProgram.Held.callMethod (h : program.Held) (index : Nat)
    {method : SocketAdapter Setup (SocketHandle σ) →
      Socket (SocketHandle σ) → Socket (SocketHandle σ)}
    (hmethod : PassesOwn tee method) :
    (Utee.callMethod tee index method program).Held := by
  rw [Utee.callMethod]
  cases hlive : program.sockets[index]? with
  | none => exact h
  | some live =>
      have hkept := hmethod live.resource program.world program.world
        (live.enter program.world) ⟨rfl, .refl _⟩
      have hopen : live.resource ∈ program.owned :=
        Ledger.mem_holdings.mpr
          ⟨live, List.mem_of_getElem? hlive, Multiset.mem_singleton_self _⟩
      exact hkept.uses.accounts hopen h

theorem SocketProgram.Held.connect (h : program.Held)
    (protocol : SocketProtocol) (addr : List UInt8) (port : UInt16)
    (version : IpVersion) :
    ((SocketStep.connect protocol addr port version).exec tee
      program).Held := by
  rw [SocketStep.exec]
  generalize hconnect : connectWithIpVersion tee protocol addr port version
    program.world = connected
  have hcases := connect_connected tee protocol addr port version program.world
  rw [hconnect] at hcases
  cases hcases with
  | badAddress error => exact h
  | refused setup error state =>
      dsimp only
      rw [Held, SocketWorld.events_concat, SocketCall.events,
        Option.toList_none, List.map_nil, List.append_nil]
      exact h
  | established setup handle state fresh =>
      dsimp only
      rw [Held, owned, SocketWorld.events_concat, Ledger.holdings_concat]
      refine Ledger.Accounts.acquire h (fun hmem => ?_) (by simp)
      exact fresh ((Ledger.Accounts.mem_outstanding h).mpr hmem)

theorem SocketProgram.Held.drop (h : program.Held) (index : Nat) :
    ((SocketStep.drop index).exec tee program).Held := by
  rw [SocketStep.exec]
  cases hlive : program.sockets[index]? with
  | none => exact h
  | some live =>
      rw [Held, owned, Ledger.holdings_eraseIdx hlive,
        Multiset.singleton_add] at h
      dsimp only
      rw [Held, dropHandle, SocketWorld.events_concat]
      exact h.release (by simp)

theorem SocketProgram.Held.exec (h : program.Held) (step : SocketStep) :
    (step.exec tee program).Held := by
  cases step with
  | connect protocol addr port version =>
      exact h.connect protocol addr port version
  | send index buf =>
      exact h.callMethod index fun _ _ world _ hkept =>
        send_keeps tee world hkept buf
  | recv index buf =>
      exact h.callMethod index fun _ _ world _ hkept =>
        recv_keeps tee world hkept buf
  | writeAll index buf => exact h.callMethod index (writeAll_passesOwn tee buf)
  | readExact index buf =>
      exact h.callMethod index (readExact_passesOwn tee buf)
  | drop index => exact h.drop index

theorem runSockets_held (steps : List SocketStep) (h : program.Held) :
    (runSockets tee steps program).Held := by
  induction steps generalizing program with
  | nil => exact h
  | cons step steps ih => exact ih (h.exec step)

theorem passed_open {owned : Multiset SocketResource} {world : SocketWorld σ}
    (h : SocketAccounts world.events owned) {before after : List SocketCall}
    {call : SocketCall} {resource : SocketResource}
    (hlog : world.log = before ++ call :: after)
    (hpassed : call.passed = some resource) :
    (before.flatMap SocketCall.events).count (.acquire resource) =
      (before.flatMap SocketCall.events).count (.release resource) + 1 := by
  rw [SocketWorld.events, hlog, List.flatMap_append, List.flatMap_cons] at h
  cases call with
  | «open» protocol setup granted => cases hpassed
  | send other data timeout =>
      obtain rfl := Option.some.inj hpassed
      exact h.used_open
  | recv other length timeout =>
      obtain rfl := Option.some.inj hpassed
      exact h.used_open
  | error other =>
      obtain rfl := Option.some.inj hpassed
      exact h.used_open
  | close other =>
      obtain rfl := Option.some.inj hpassed
      exact h.released_once

/--
Whatever a program does with however many sockets and however the TEE answers:
each handle is closed as often as it was opened, up to the sockets that are
still alive, and every call that passes a handle does so while it is open and
to the instance that returned it.
-/
theorem sockets_closed_once_at_their_instance (tee : SocketTee σ)
    (steps : List SocketStep) (start : σ) :
    let final := runSockets tee steps ⟨[], [], start⟩
    (∀ resource, final.world.events.count (.acquire resource) =
      final.world.events.count (.release resource) +
        final.owned.count resource) ∧
    ∀ before call after resource,
      final.world.log = before ++ call :: after →
        call.passed = some resource →
          (before.flatMap SocketCall.events).count (.acquire resource) =
            (before.flatMap SocketCall.events).count
              (.release resource) + 1 := by
  intro final
  have hstart : (⟨[], [], start⟩ : SocketProgram σ).Held :=
    Ledger.Accounts.nil
  have hfinal : final.Held := runSockets_held steps hstart
  exact ⟨hfinal.balanced, fun _ _ _ _ hlog hpassed =>
    passed_open hfinal hlog hpassed⟩

end Ledger

/-! ## Buffers longer than a word can say -/

section LongBuffers

variable {σ : Type} {tee : SocketTee σ}

/-- The peer takes all that it is offered. -/
def SocketTee.Greedy (tee : SocketTee σ) : Prop :=
  ∀ resource data timeout state,
    (tee.send resource data timeout state).1 =
      (teeSuccess, UInt32.ofNat data.length)

variable {protocol : SocketProtocol} {world : SocketWorld σ}

theorem send_greedy (h : tee.Greedy) (buf : List UInt8)
    (socket : Socket (SocketHandle σ)) :
    (Socket.send (socketAdapter tee protocol world) buf socket).1 =
      .ok (buf.length % 2 ^ 32) := by
  have hlength : (UInt32.ofNat (buf.take
      (UInt32.ofNat buf.length).toNat).length).toNat =
        buf.length % 2 ^ 32 := by
    have hle := toNat_length_le buf
    rw [List.length_take, Nat.min_eq_left hle, UInt32.toNat_ofNat',
      UInt32.toNat_ofNat', Nat.mod_mod]
  change (sendHandle tee protocol socket.handle buf socket.sendTimeout).1 = _
  rw [sendHandle, h, concludeCall, if_pos rfl, hlength]

section Modulo

variable {S : Type} {serve : List UInt8 → S → Except SocketError Nat × S}
  {modulus : Nat}

theorem writeAll_empty (state : S) :
    (writeAll []).run serve state = ⟨[], some (.ok ()), state⟩ := by
  rw [writeAll]
  rfl

theorem writeAll_zero {buf : List UInt8} {state : S} (hbuf : buf ≠ [])
    (hanswer : (serve buf state).1 = .ok 0) :
    (writeAll buf).run serve state =
      ⟨[(buf, .ok 0)], some (.error (.tee .generic)),
        (serve buf state).2⟩ := by
  have hsome : ¬ buf.isEmpty = true := by rwa [List.isEmpty_iff]
  rw [writeAll, if_neg hsome]
  simp only [Dialogue.run, hanswer]

theorem writeAll_step {buf : List UInt8} {state : S} {n : Nat}
    (hle : n + 1 ≤ buf.length)
    (hanswer : (serve buf state).1 = .ok (n + 1)) :
    let rest := (writeAll (buf.drop (n + 1))).run serve (serve buf state).2
    (writeAll buf).run serve state =
      ⟨(buf, .ok (n + 1)) :: rest.transcript, rest.result, rest.state⟩ := by
  have hsome : ¬ buf.isEmpty = true := by
    rw [List.isEmpty_iff]
    rintro rfl
    simp at hle
  intro rest
  rw [writeAll, if_neg hsome]
  simp only [Dialogue.run, hanswer, if_pos hle]
  rfl

theorem writeAll_modulo (hmodulus : 0 < modulus)
    (hserve : ∀ buf state, (serve buf state).1 = .ok (buf.length % modulus))
    (buf : List UInt8) (state : S) :
    drained id ((writeAll buf).run serve state).transcript =
        buf.take (buf.length % modulus) ∧
      ((writeAll buf).run serve state).result =
        some (if buf.length < modulus then .ok ()
          else .error (.tee .generic)) := by
  -- What the first call leaves is a multiple of the modulus.
  have hstuck : ∀ (buf : List UInt8) (state : S),
      buf.length % modulus = 0 →
        drained id ((writeAll buf).run serve state).transcript = [] ∧
          ((writeAll buf).run serve state).result =
            some (if buf.length < modulus then .ok ()
              else .error (.tee .generic)) := by
    intro buf state hzero
    by_cases hbuf : buf = []
    · subst hbuf
      rw [writeAll_empty]
      simp [drained, hmodulus]
    · have hlong : ¬ buf.length < modulus := by
        intro hlt
        rw [Nat.mod_eq_of_lt hlt, List.length_eq_zero_iff] at hzero
        exact hbuf hzero
      rw [writeAll_zero hbuf (by rw [hserve, hzero]), if_neg hlong]
      simp [drained]
  cases hrest : buf.length % modulus with
  | zero => exact hstuck buf state hrest
  | succ n =>
      have hle : n + 1 ≤ buf.length := hrest ▸ Nat.mod_le _ _
      have hleft : (buf.drop (n + 1)).length % modulus = 0 := by
        rw [List.length_drop, ← hrest]
        exact Nat.sub_mod_eq_zero_of_mod_eq (Nat.mod_mod _ _).symm
      obtain ⟨hdrained, hresult⟩ :=
        hstuck (buf.drop (n + 1)) (serve buf state).2 hleft
      have hshort : (buf.drop (n + 1)).length < modulus ↔
          buf.length < modulus := by
        rw [List.length_drop]
        constructor
        · intro hlt
          have hzero : buf.length - (n + 1) = 0 := by
            rwa [List.length_drop, Nat.mod_eq_of_lt hlt] at hleft
          have hmod := Nat.mod_lt buf.length hmodulus
          omega
        · omega
      rw [writeAll_step hle (by rw [hserve, hrest])]
      refine ⟨?_, ?_⟩
      · rw [drained, List.flatMap_cons, ← drained, hdrained, List.append_nil]
        rfl
      · simp only [hresult, hshort]

end Modulo

def SocketResource.supply (protocol : SocketProtocol) :
    Ledger.Supply (SocketResource.mk protocol) :=
  .next SocketResource.handle fun _ => rfl

def sinkTee : SocketTee Unit where
  «open» protocol _ _ :=
    (⟨teeSuccess, SocketResource.supply protocol, 0⟩, ())
  send _ data _ _ := ((teeSuccess, UInt32.ofNat data.length), ())
  recv _ _ _ _ := ((teeSuccess, 0, []), ())
  error _ _ := (0, ())
  close _ _ := (teeSuccess, ())

end LongBuffers

end TrustZoneSdk.Utee
