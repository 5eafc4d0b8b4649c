import TrustZoneSdk.Foundation.Utf8
import TrustZoneSdk.TrustedApps.Command
import TrustZoneSdk.Utee.SocketAdapter

/-!
# Commands that talk to a server

The TCP client sends a request and collects what comes back until the server
ends the stream; the UDP client sends a greeting and waits for one datagram
that is not empty.  Both work on a socket that lives as long as the call, trace
what they have collected and return nothing.
-/

namespace TrustZoneSdk.TrustedApps.SocketClient

open TrustZoneSdk.Foundation
open TrustZoneSdk.Utee

variable {σ : Type} (tee : SocketTee σ) (lossy : LossyDecoder)

/-- What a client has come to when the calls that are followed run out. -/
inductive Progress where
  | waiting
  | panicked
  | returned (answer : Except Error Unit)
  deriving DecidableEq

inductive Trace where
  | invoked
  | badAddress
  | badIpVersion
  | connectFailed (address : List UInt8) (port : UInt16) (error : SocketError)
  | writeFailed (error : SocketError)
  | readFailed (error : SocketError)
  | response (text : List Char)
  deriving DecidableEq

/-- How a client ends, what it has traced, and what it leaves. -/
structure Ending (ρ : Type) where
  progress : Progress
  traced : List Trace
  rest : ρ

def failed {ρ : Type} (trace : Trace) (rest : ρ) : Ending ρ :=
  ⟨.returned (.error (Error.new .generic)), [trace], rest⟩

def answered {ρ : Type} (response : List UInt8) (rest : ρ) : Ending ρ :=
  ⟨.returned (.ok ()), [.response (lossy.decode response)], rest⟩

abbrev adapterOf (protocol : SocketProtocol)
    (socket : Socket (SocketHandle σ)) :
    SocketAdapter Setup (SocketHandle σ) :=
  socketAdapter tee protocol socket.handle.world

/-- The loop of `tcp_client`; `fuel` bounds the calls that are followed. -/
def readToEnd : Nat → List UInt8 → List UInt8 → Socket (SocketHandle σ) →
    Ending (Socket (SocketHandle σ))
  | 0, _, _, stream => ⟨.waiting, [], stream⟩
  | fuel + 1, response, chunk, stream =>
      let reply := Socket.recv (adapterOf tee .tcp stream) chunk stream
      let chunk := overlay chunk 0 (reply.1.2.take chunk.length)
      match reply.1.1 with
      | .ok 0 => answered lossy response reply.2
      | .ok (n + 1) =>
          if n + 1 ≤ chunk.length then
            readToEnd fuel (response ++ chunk.take (n + 1)) chunk reply.2
          else ⟨.panicked, [], reply.2⟩
      | .error error => failed (.readFailed error) reply.2

def readDatagram : Nat → List UInt8 → Socket (SocketHandle σ) →
    Ending (Socket (SocketHandle σ))
  | 0, _, stream => ⟨.waiting, [], stream⟩
  | fuel + 1, chunk, stream =>
      let reply := Socket.recv (adapterOf tee .udp stream) chunk stream
      let chunk := overlay chunk 0 (reply.1.2.take chunk.length)
      match reply.1.1 with
      -- An empty datagram is passed over.
      | .ok 0 => readDatagram fuel chunk reply.2
      | .ok (n + 1) =>
          if n + 1 ≤ chunk.length then
            answered lossy (chunk.take (n + 1)) reply.2
          else ⟨.panicked, [], reply.2⟩
      | .error error => failed (.readFailed error) reply.2

def chunk : List UInt8 := List.replicate 1024 0

abbrev Receive (σ : Type) :=
  Socket (SocketHandle σ) → Ending (Socket (SocketHandle σ))

def converse (protocol : SocketProtocol) (request : List UInt8)
    (receive : Receive σ) (stream : Socket (SocketHandle σ)) :
    Ending (Socket (SocketHandle σ)) :=
  let stream := stream.setSendTimeoutInMilli (60 * 1000)
  let stream := stream.setRecvTimeoutInMilli (60 * 1000)
  let written := (writeAll request).run
    (Socket.send (adapterOf tee protocol stream)) stream
  match written.result with
  | some (.ok ()) => receive written.state
  | some (.error error) => failed (.writeFailed error) written.state
  | none => ⟨.panicked, [], written.state⟩

def client (protocol : SocketProtocol) (request : List UInt8)
    (receive : Receive σ) (address : List UInt8) (port : UInt16)
    (ipVersion : IpVersion) (world : SocketWorld σ) :
    Ending (SocketWorld σ) :=
  -- The socket is dropped when the client returns, on every path.
  let connected :=
    connectWithIpVersion tee protocol address port ipVersion world
  match connected.1 with
  | .error error => failed (.connectFailed address port error) connected.2
  | .ok live =>
      let done := converse tee protocol request receive
        (live.enter connected.2)
      match done.progress with
      | .returned answer =>
          ⟨.returned answer, done.traced,
            dropHandle tee protocol done.rest.handle⟩
      | progress => ⟨progress, done.traced, done.rest.handle.world⟩

def tcpClient (fuel : Nat) (address : List UInt8) (port : UInt16)
    (ipVersion : IpVersion) (httpData : List UInt8) :
    SocketWorld σ → Ending (SocketWorld σ) :=
  client tee .tcp httpData (readToEnd tee lossy fuel [] chunk) address port
    ipVersion

def greeting : List UInt8 := encodeUtf8 "[TA]: Hello, Teaclave!".toList

def udpSocket (fuel : Nat) (address : List UInt8) (port : UInt16)
    (ipVersion : IpVersion) : SocketWorld σ → Ending (SocketWorld σ) :=
  client tee .udp greeting (readDatagram tee lossy fuel chunk) address port
    ipVersion

/-! ## The command of the TCP client -/

inductive Command where
  | start
  | unknown
  deriving DecidableEq, Repr

def Command.fromPrimitive (cmdId : UInt32) : Command :=
  if cmdId = 0 then start else unknown

def ipVersionTryFrom (version : BitVec 32) : Option IpVersion :=
  if version = 1 then some .v4
  else if version = 2 then some .v6
  else none

structure Surroundings (σ : Type) where
  world : SocketWorld σ
  traced : List Trace

def trace (line : Trace) : CommandM (Surroundings σ) Unit :=
  modify fun frame =>
    { frame with context :=
        { frame.context with traced := frame.context.traced ++ [line] } }

def startParameters :
    CommandM (Surroundings σ)
      (List UInt8 × UInt16 × IpVersion × List UInt8) := do
  let addressBuf ← memrefInput .arg0
  let p1 ← valueInput .arg1
  let httpData ← memrefInput .arg2
  if (decodeUtf8 addressBuf).isNone then
    trace .badAddress
    refuse
  else
    match ipVersionTryFrom p1.2 with
    | some ipVersion =>
        -- The port is cut to sixteen bits.
        return (addressBuf, UInt16.ofNat p1.1.toNat, ipVersion, httpData)
    | none =>
        trace .badIpVersion
        refuse

def concludeClient (done : Ending (SocketWorld σ)) :
    CommandM (Surroundings σ) (Option Unit) := fun frame =>
  let frame := { frame with
    context := ⟨done.rest, frame.context.traced ++ done.traced⟩ }
  match done.progress with
  -- The answer is `none` for a command that still waits.
  | .waiting => .ok none frame
  | .panicked => .error .killed frame
  | .returned (.ok ()) => .ok (some ()) frame
  | .returned (.error error) => .error (.failed error) frame

def invokeCommand (fuel : Nat) (cmdId : UInt32) :
    CommandM (Surroundings σ) (Option Unit) := do
  trace .invoked
  match Command.fromPrimitive cmdId with
  | .start =>
      let (address, port, ipVersion, httpData) ← startParameters
      concludeClient (tcpClient tee lossy fuel address port ipVersion httpData
        (← get).context.world)
  | .unknown => refuse

/-! ## Sockets are closed -/

section Closing

variable {tee} {protocol : SocketProtocol} {before : SocketWorld σ}

/-- What a client that has returned has done with sockets. -/
inductive Leaves (protocol : SocketProtocol) (before : SocketWorld σ) :
    SocketWorld σ → Prop where
  | refused : Leaves protocol before before
  | unconnected {after : SocketWorld σ} (setup : Setup)
      (h : after.log = before.log ++ [.open protocol setup none]) :
      Leaves protocol before after
  | closed {after : SocketWorld σ} (setup : Setup) (handle : Nat)
      (calls : List SocketCall)
      (hcalls : ∀ call ∈ calls, call.events = [.use ⟨protocol, handle⟩])
      (h : after.log = before.log ++ .open protocol setup (some handle) ::
        calls ++ [.close ⟨protocol, handle⟩]) :
      Leaves protocol before after

/-- What the loop of a client does passes the client's own handle only. -/
def ReceivesOwn (protocol : SocketProtocol) (receive : Receive σ) : Prop :=
  ∀ handle (before : SocketWorld σ) stream,
    HandleKept ⟨protocol, handle⟩ before stream.handle →
      HandleKept ⟨protocol, handle⟩ before (receive stream).rest.handle

variable (tee) in
theorem readToEnd_receivesOwn (fuel : Nat) (response chunk : List UInt8) :
    ReceivesOwn .tcp (readToEnd tee lossy fuel response chunk) := by
  induction fuel generalizing response chunk with
  | zero => exact fun _ _ _ h => h
  | succ fuel ih =>
      intro handle before stream h
      have hrecv := recv_keeps tee stream.handle.world h chunk
      rw [readToEnd]
      split
      · exact hrecv
      · split_ifs
        · exact ih _ _ handle before _ hrecv
        · exact hrecv
      · exact hrecv

variable (tee) in
theorem readDatagram_receivesOwn (fuel : Nat) (chunk : List UInt8) :
    ReceivesOwn .udp (readDatagram tee lossy fuel chunk) := by
  induction fuel generalizing chunk with
  | zero => exact fun _ _ _ h => h
  | succ fuel ih =>
      intro handle before stream h
      have hrecv := recv_keeps tee stream.handle.world h chunk
      rw [readDatagram]
      split
      · exact ih _ handle before _ hrecv
      · split_ifs
        · exact hrecv
        · exact hrecv
      · exact hrecv

variable (tee) in
theorem converse_receivesOwn {receive : Receive σ} (request : List UInt8)
    (h : ReceivesOwn protocol receive) :
    ReceivesOwn protocol (converse tee protocol request receive) := by
  intro handle before stream hkept
  have hwritten := writeAll_passesOwn tee request ⟨protocol, handle⟩
    before stream.handle.world
    ((stream.setSendTimeoutInMilli (60 * 1000)).setRecvTimeoutInMilli
      (60 * 1000)) hkept
  rw [converse]
  split
  · exact h handle before _ hwritten
  · exact hwritten
  · exact hwritten

theorem client_leaves {receive : Receive σ} (request : List UInt8)
    (h : ReceivesOwn protocol receive) (address : List UInt8) (port : UInt16)
    (ipVersion : IpVersion) (world : SocketWorld σ)
    {answer : Except Error Unit} {traced : List Trace} {after : SocketWorld σ}
    (hclient : client tee protocol request receive address port ipVersion
      world = ⟨.returned answer, traced, after⟩) :
    Leaves protocol world after := by
  rw [client] at hclient
  generalize hconnect : connectWithIpVersion tee protocol address port
    ipVersion world = connected at hclient
  have hcases := connect_connected tee protocol address port ipVersion world
  rw [hconnect] at hcases
  cases hcases with
  | badAddress error =>
      obtain rfl : world = after := congrArg Ending.rest hclient
      exact .refused
  | refused setup error state =>
      obtain rfl := congrArg Ending.rest hclient
      exact .unconnected setup rfl
  | established setup handle state fresh =>
      dsimp only at hclient
      generalize hopened : (⟨world.log ++ [.open protocol setup (some handle)],
        state⟩ : SocketWorld σ) = opened at hclient
      generalize hstream : LiveSocket.enter ⟨protocol, ⟨handle,
        teeTimeoutInfinite, teeTimeoutInfinite⟩⟩ opened = stream at hclient
      have hkept := converse_receivesOwn tee request h handle opened stream
        (hstream ▸ ⟨rfl, .refl _⟩)
      split at hclient
      · obtain ⟨calls, hlog, hcalls⟩ := hkept.uses
        obtain rfl := congrArg Ending.rest hclient
        refine .closed setup handle calls hcalls ?_
        simp only [dropHandle, hlog, hkept.raw, ← hopened]
        simp
      · rename_i hother
        exact absurd (congrArg Ending.progress hclient) (hother answer)

/--
Whatever the TEE answers: a client that returns, with success or with an
error, has opened at most one socket, has passed its handle only to the
instance it came from, and has closed it last.
-/
theorem clients_close_their_socket (tee : SocketTee σ) (lossy : LossyDecoder)
    (fuel : Nat) (address : List UInt8) (port : UInt16)
    (ipVersion : IpVersion) (httpData : List UInt8)
    (world after : SocketWorld σ) (answer : Except Error Unit)
    (traced : List Trace) :
    (tcpClient tee lossy fuel address port ipVersion httpData world =
        ⟨.returned answer, traced, after⟩ → Leaves .tcp world after) ∧
    (udpSocket tee lossy fuel address port ipVersion world =
        ⟨.returned answer, traced, after⟩ → Leaves .udp world after) :=
  ⟨client_leaves httpData (readToEnd_receivesOwn tee lossy fuel [] chunk)
      address port ipVersion world,
    client_leaves greeting (readDatagram_receivesOwn tee lossy fuel chunk)
      address port ipVersion world⟩

theorem sink_connection_closed :
    Leaves .tcp ⟨[], ()⟩
      (tcpClient sinkTee strictDecoder 1 [97] 80 .v4 [] ⟨[], ()⟩).rest := by
  have hrun : tcpClient sinkTee strictDecoder 1 [97] 80 .v4 [] ⟨[], ()⟩ =
      ⟨.returned (.ok ()), [.response (strictDecoder.decode [])],
        (tcpClient sinkTee strictDecoder 1 [97] 80 .v4 [] ⟨[], ()⟩).rest⟩ := by
    simp only [tcpClient, client, connectWithIpVersion, openHandle, sinkTee,
      Setup.new, converse, writeAll_empty]
    rfl
  exact (clients_close_their_socket sinkTee strictDecoder 1 [97] 80 .v4 []
    ⟨[], ()⟩ _ (.ok ()) [.response (strictDecoder.decode [])]).1 hrun

end Closing

/-! ## A server that answers -/

section Conversations

variable {tee}

/--
A network that brings everything across, in pieces of any size.  `sent` is
what has reached the server and `pending` what it still has to say; it ends
the stream when that is nothing.
-/
structure Conversation (tee : SocketTee σ) where
  sent : σ → List UInt8
  pending : σ → List UInt8
  connects : ∀ protocol setup state,
    (tee.open protocol setup state).1.code = teeSuccess ∧
      sent (tee.open protocol setup state).2 = []
  takes : ∀ resource data timeout state, data ≠ [] →
    (tee.send resource data timeout state).1.1 = teeSuccess ∧
      0 < (tee.send resource data timeout state).1.2.toNat ∧
      (tee.send resource data timeout state).1.2.toNat ≤ data.length ∧
      sent (tee.send resource data timeout state).2 = sent state ++
        data.take (tee.send resource data timeout state).1.2.toNat
  gives : ∀ resource length timeout state, length ≠ 0 →
    (tee.recv resource length timeout state).1.1 = teeSuccess ∧
      (tee.recv resource length timeout state).1.2.1 ≤ length ∧
      (tee.recv resource length timeout state).1.2.1.toNat ≤
        (pending state).length ∧
      (tee.recv resource length timeout state).1.2.2 = (pending state).take
        (tee.recv resource length timeout state).1.2.1.toNat ∧
      ((tee.recv resource length timeout state).1.2.1 = 0 →
        pending state = []) ∧
      pending (tee.recv resource length timeout state).2 =
        (pending state).drop
          (tee.recv resource length timeout state).1.2.1.toNat ∧
      sent (tee.recv resource length timeout state).2 = sent state

abbrev network (stream : Socket (SocketHandle σ)) : σ :=
  stream.handle.world.state

theorem Conversation.send (talk : Conversation tee)
    {protocol : SocketProtocol} (world : SocketWorld σ) {buf : List UInt8}
    (hbuf : buf ≠ []) (hword : buf.length < 2 ^ 32)
    (stream : Socket (SocketHandle σ)) :
    ∃ n, n + 1 ≤ buf.length ∧
      (Socket.send (socketAdapter tee protocol world) buf stream).1 =
        .ok (n + 1) ∧
      talk.sent (network (Socket.send (socketAdapter tee protocol world) buf
        stream).2) = talk.sent (network stream) ++ buf.take (n + 1) := by
  have hwhole : buf.take (UInt32.ofNat buf.length).toNat = buf := by
    rw [UInt32.toNat_ofNat', Nat.mod_eq_of_lt hword, List.take_length]
  obtain ⟨hcode, hpos, hle, hsent⟩ := talk.takes
    ⟨protocol, stream.handle.raw⟩ buf stream.sendTimeout (network stream) hbuf
  obtain ⟨n, hn⟩ := Nat.exists_eq_succ_of_ne_zero (Nat.pos_iff_ne_zero.mp hpos)
  have hsend : sendHandle tee protocol stream.handle buf stream.sendTimeout =
      (.ok (n + 1), ⟨stream.handle.raw,
        ⟨stream.handle.world.log ++ [.send ⟨protocol, stream.handle.raw⟩ buf
          stream.sendTimeout], (tee.send ⟨protocol, stream.handle.raw⟩ buf
            stream.sendTimeout (network stream)).2⟩⟩) := by
    simp only [sendHandle, hwhole, concludeCall, hcode, if_true, hn]
  rw [hn] at hle
  refine ⟨n, hle, congrArg Prod.fst hsend, ?_⟩
  change talk.sent (sendHandle tee protocol stream.handle buf
    stream.sendTimeout).2.world.state = _
  rw [hsend, hsent, hn]

theorem Conversation.writeAll (talk : Conversation tee)
    (protocol : SocketProtocol) (world : SocketWorld σ) (buf : List UInt8)
    (hword : buf.length < 2 ^ 32) (stream : Socket (SocketHandle σ)) :
    let run := (Utee.writeAll buf).run
      (Socket.send (socketAdapter tee protocol world)) stream
    run.result = some (.ok ()) ∧
      talk.sent (network run.state) = talk.sent (network stream) ++ buf := by
  induction hlength : buf.length using Nat.strongRecOn
    generalizing buf stream with
  | _ length ih =>
      by_cases hbuf : buf = []
      · subst hbuf
        simp [writeAll_empty]
      · obtain ⟨n, hle, hanswer, hsent⟩ := talk.send world hbuf hword stream
        obtain ⟨hresult, hrest⟩ := ih (buf.drop (n + 1)).length
          (by rw [List.length_drop]; omega) (buf.drop (n + 1))
          (by rw [List.length_drop]; omega)
          (Socket.send (socketAdapter tee protocol world) buf stream).2 rfl
        rw [writeAll_step hle hanswer]
        refine ⟨hresult, ?_⟩
        rw [hrest, hsent, List.append_assoc, List.take_append_drop]

theorem Conversation.recv (talk : Conversation tee)
    (protocol : SocketProtocol) (world : SocketWorld σ) {buf : List UInt8}
    (hbuf : buf ≠ []) (hword : buf.length < 2 ^ 32)
    (stream : Socket (SocketHandle σ)) :
    let reply := Socket.recv (socketAdapter tee protocol world) buf stream
    let pending := talk.pending (network stream)
    ∃ n, n ≤ buf.length ∧ n ≤ pending.length ∧
      reply.1 = (.ok n, pending.take n) ∧
      (n = 0 → pending = []) ∧
      talk.pending (network reply.2) = pending.drop n ∧
      talk.sent (network reply.2) = talk.sent (network stream) := by
  intro reply pending
  have hlength : (UInt32.ofNat buf.length).toNat = buf.length := by
    rw [UInt32.toNat_ofNat', Nat.mod_eq_of_lt hword]
  have hsome : UInt32.ofNat buf.length ≠ 0 := by
    intro hzero
    rw [hzero] at hlength
    exact hbuf (List.length_eq_zero_iff.mp hlength.symm)
  obtain ⟨hcode, hle, hpending, hbytes, hzero, hrest, hsent⟩ := talk.gives
    ⟨protocol, stream.handle.raw⟩ _ stream.recvTimeout (network stream) hsome
  have hrecv : recvHandle tee protocol stream.handle buf stream.recvTimeout =
      ((.ok (tee.recv ⟨protocol, stream.handle.raw⟩ (UInt32.ofNat buf.length)
          stream.recvTimeout (network stream)).1.2.1.toNat,
        (tee.recv ⟨protocol, stream.handle.raw⟩ (UInt32.ofNat buf.length)
          stream.recvTimeout (network stream)).1.2.2),
        ⟨stream.handle.raw,
          ⟨stream.handle.world.log ++ [.recv ⟨protocol, stream.handle.raw⟩
            (UInt32.ofNat buf.length) stream.recvTimeout],
          (tee.recv ⟨protocol, stream.handle.raw⟩ (UInt32.ofNat buf.length)
            stream.recvTimeout (network stream)).2⟩⟩) := by
    simp only [recvHandle, concludeCall, hcode, if_true]
  have hle := UInt32.le_iff_toNat_le.mp hle
  rw [hlength] at hle
  refine ⟨_, hle, hpending, ?_, ?_, ?_, ?_⟩
  · exact (congrArg Prod.fst hrecv).trans (by rw [hbytes])
  · exact fun h => hzero (UInt32.toNat_inj.mp h)
  · change talk.pending (recvHandle tee protocol stream.handle buf
      stream.recvTimeout).2.world.state = _
    rw [hrecv, hrest]
  · change talk.sent (recvHandle tee protocol stream.handle buf
      stream.recvTimeout).2.world.state = _
    rw [hrecv, hsent]

theorem Conversation.readToEnd (talk : Conversation tee)
    (lossy : LossyDecoder) (fuel : Nat) (response chunk : List UInt8)
    (hchunk : chunk.length = 1024)
    (stream : Socket (SocketHandle σ))
    (hfuel : (talk.pending (network stream)).length < fuel) :
    ∃ final, SocketClient.readToEnd tee lossy fuel response chunk stream =
        answered lossy (response ++ talk.pending (network stream)) final ∧
      talk.sent (network final) = talk.sent (network stream) := by
  induction fuel generalizing response chunk stream with
  | zero => omega
  | succ fuel ih =>
      have hsome : chunk ≠ [] := by
        rintro rfl
        simp at hchunk
      obtain ⟨n, hle, hpending, hanswer, hzero, hrest, hsent⟩ :=
        talk.recv .tcp stream.handle.world hsome (by omega) stream
      rw [SocketClient.readToEnd, hanswer]
      cases n with
      | zero =>
          rw [hzero rfl, List.append_nil]
          exact ⟨_, rfl, hsent⟩
      | succ n =>
          have htaken : ((talk.pending (network stream)).take
              (n + 1)).length = n + 1 := by
            rw [List.length_take]
            omega
          have hlength : ((talk.pending (network stream)).take (n + 1) ++
              chunk.drop (n + 1)).length = 1024 := by
            rw [List.length_append, htaken, List.length_drop]
            omega
          dsimp only
          rw [overlay_start (by omega), htaken, if_pos (by omega),
            List.take_left' htaken]
          obtain ⟨final, hfinal, hkept⟩ := ih
            (response ++ (talk.pending (network stream)).take (n + 1)) _
            hlength (Socket.recv (adapterOf tee .tcp stream) chunk stream).2
            (by rw [hrest, List.length_drop]; omega)
          refine ⟨final, hfinal.trans ?_, hkept.trans hsent⟩
          rw [hrest, List.append_assoc, List.take_append_drop]

theorem Conversation.tcpClient (talk : Conversation tee)
    (lossy : LossyDecoder) (address : List UInt8) (port : UInt16)
    (ipVersion : IpVersion)
    (httpData : List UInt8) (world : SocketWorld σ)
    (haddress : address.contains 0 = false)
    (hword : httpData.length < 2 ^ 32) :
    ∃ asked, talk.sent asked = httpData ∧
      ∀ fuel, (talk.pending asked).length < fuel →
        ∃ final, SocketClient.tcpClient tee lossy fuel address port ipVersion
            httpData world = answered lossy (talk.pending asked) final := by
  have hsetup : Setup.new address port ipVersion =
      .ok ⟨address, port, ipVersion, haddress⟩ := dif_pos haddress
  obtain ⟨live, opened, hconnect, hfresh⟩ : ∃ live opened,
      connectWithIpVersion tee .tcp address port ipVersion world =
        (.ok live, opened) ∧ talk.sent opened.state = [] := by
    obtain ⟨hcode, hsent⟩ :=
      talk.connects .tcp ⟨address, port, ipVersion, haddress⟩ world.state
    simp only [connectWithIpVersion, hsetup, openHandle, hcode, if_true]
    exact ⟨_, _, rfl, hsent⟩
  generalize hstream : ((live.enter opened).setSendTimeoutInMilli
    (60 * 1000)).setRecvTimeoutInMilli (60 * 1000) = stream
  have hstate : talk.sent (network stream) = [] := by
    rw [← hstream]
    exact hfresh
  obtain ⟨hresult, hsent⟩ :=
    talk.writeAll .tcp stream.handle.world httpData hword stream
  refine ⟨_, hsent.trans (by rw [hstate, List.nil_append]),
    fun fuel hfuel => ?_⟩
  obtain ⟨final, hfinal, -⟩ := talk.readToEnd lossy fuel [] chunk
    List.length_replicate _ hfuel
  refine ⟨dropHandle tee .tcp final.handle, ?_⟩
  simp only [SocketClient.tcpClient, client, hconnect, converse, hstream,
    hresult, hfinal, answered, List.nil_append]

theorem run_startParameters (frame : Frame (Surroundings σ))
    {address httpData : List UInt8} {port version : BitVec 32}
    {text : List Char} {ipVersion : IpVersion}
    (haddress : inputOf (frame.slots .arg0) = some address)
    (hvalues : valuesOf (frame.slots .arg1) = some (port, version))
    (hdata : inputOf (frame.slots .arg2) = some httpData)
    (htext : decodeUtf8 address = some text)
    (hversion : ipVersionTryFrom version = some ipVersion) :
    startParameters.run frame =
      .ok (address, UInt16.ofNat port.toNat, ipVersion, httpData) frame := by
  simp [startParameters, run_memrefInput, run_valueInput, haddress, hvalues,
    hdata, htext, hversion]

def echoTee : SocketTee (List UInt8 × List UInt8) where
  «open» protocol _ _ :=
    (⟨teeSuccess, SocketResource.supply protocol, 0⟩, ([], []))
  send _ data _ state :=
    ((teeSuccess, UInt32.ofNat (data.take 1).length),
      (state.1 ++ data.take 1, state.2 ++ data.take 1))
  recv _ _ _ state :=
    ((teeSuccess, UInt32.ofNat (state.2.take 1).length, state.2.take 1),
      (state.1, state.2.drop 1))
  error _ state := (0, state)
  close _ state := (teeSuccess, state)

def echoConversation : Conversation echoTee where
  sent := Prod.fst
  pending := Prod.snd
  connects _ _ _ := ⟨rfl, rfl⟩
  takes _ data _ _ hdata := by
    obtain ⟨first, rest, rfl⟩ := List.exists_cons_of_ne_nil hdata
    simp [echoTee]
  gives _ length _ state hlength := by
    have hpos : 1 ≤ length := by
      rw [UInt32.le_iff_toNat_le]
      exact Nat.one_le_iff_ne_zero.mpr fun h => hlength (UInt32.toNat_inj.mp h)
    obtain ⟨sent, pending⟩ := state
    cases pending with
    | nil => simp [echoTee]
    | cons first rest => simp [echoTee, hpos]

def startSlots : ParamIndex → Slot :=
  ArgIndex.tuple (.memref .input (encodeUtf8 ['a']) 1) (.value .input 80 1)
    (.memref .input [1, 2, 3] 3) .none

end Conversations

end TrustZoneSdk.TrustedApps.SocketClient
