import TrustZoneSdk.Teec.Error
import TrustZoneSdk.TrustedApps.Command

/-!
# The TLS server

The TA keeps the TLS connections of all clients in one map, and the host carries
bytes between the sockets and the map: one command for what a client has sent,
one for what the connection has to say.  The specification is a server without
a TA and without buffers, where each client has its connection to itself.  The
TLS library is any that does to its buffers what such connections are for.
-/

namespace TrustZoneSdk.TrustedApps.TlsServer

open TrustZoneSdk.Foundation
open TrustZoneSdk.Utee

inductive Command where
  | newTlsSession
  | closeTlsSession
  | doTlsRead
  | doTlsWrite
  | unknown
  deriving DecidableEq, Repr

def Command.intoPrimitive : Command → UInt32
  | newTlsSession => 0
  | closeTlsSession => 1
  | doTlsRead => 2
  | doTlsWrite => 3
  | unknown => 4

def Command.fromPrimitive (cmdId : UInt32) : Command :=
  if cmdId = 0 then newTlsSession
  else if cmdId = 1 then closeTlsSession
  else if cmdId = 2 then doTlsRead
  else if cmdId = 3 then doTlsWrite
  else unknown

theorem Command.fromPrimitive_intoPrimitive (command : Command) :
    Command.fromPrimitive command.intoPrimitive = command := by
  cases command <;> rfl

/-! ## The TLS library -/

/-- `Session` is a `ServerConnection`, made of what the library has drawn. -/
structure Rustls (State Session : Type) where
  serverConnection : State → Session
  readTls : List UInt8 → EStateM Unit Session Nat
  processNewPackets : EStateM Unit Session Unit
  readToEnd : Session → List UInt8 × Session
  writeAll : List UInt8 → EStateM Unit Session Unit
  wantsWrite : Session → Bool
  -- What a writer with so much room is given.
  writeTls : Nat → Session → List UInt8 × Session

structure Cursor where
  inner : List UInt8
  position : Nat

def Cursor.room (cursor : Cursor) : Nat := cursor.inner.length - cursor.position

def Cursor.write (cursor : Cursor) (bytes : List UInt8) : Cursor :=
  ⟨overlay cursor.inner cursor.position bytes, cursor.position + bytes.length⟩

section Library

variable {State Session : Type} (rustls : Rustls State Session)

def writeWhileWanted (fuel rc : Nat) (wr : Cursor) (session : Session) :
    Option (Nat × Cursor × Session) :=
  -- `none` if the loop has not ended after `fuel` turns.
  if rustls.wantsWrite session then
    match fuel with
    | 0 => none
    | fuel + 1 =>
        let (bytes, session) := rustls.writeTls wr.room session
        writeWhileWanted fuel (rc + bytes.length) (wr.write bytes) session
  else some (rc, wr, session)

def echo (buf : List UInt8) : EStateM Unit Session Unit := do
  -- What the library leaves of `buf` is not offered to it again.
  let _ ← rustls.readTls buf
  rustls.processNewPackets
  let plaintext ← modifyGet rustls.readToEnd
  if plaintext ≠ [] then rustls.writeAll plaintext

end Library

/-! ## The TA -/

abbrev Sessions (Session : Type) := BitVec 32 → Option Session

section TrustedApp

variable {State Session : Type} (rustls : Rustls State Session)

def fault {α : Type} : CommandM (Sessions Session) α :=
  Fallible.fail (Error.new .generic)

def tlsSession (sessionId : BitVec 32) :
    CommandM (Sessions Session) Session := do
  match (← get).context sessionId with
  | some session => return session
  | none => fault

def setSession (sessionId : BitVec 32) (entry : Option Session) :
    CommandM (Sessions Session) Unit :=
  modify fun frame =>
    { frame with context := Function.update frame.context sessionId entry }

def newTlsSession (made : Except Unit State)
    (sessionId : BitVec 32) : CommandM (Sessions Session) Unit :=
  match made with
  | .error _ => fault
  | .ok state => setSession sessionId (some (rustls.serverConnection state))

def closeTlsSession (sessionId : BitVec 32) :
    CommandM (Sessions Session) Unit := do
  let _ ← tlsSession sessionId
  setSession sessionId none

def doTlsRead (sessionId : BitVec 32) (buf : List UInt8) :
    CommandM (Sessions Session) Unit := do
  let session ← tlsSession sessionId
  match (echo rustls buf).run session with
  | .ok _ session => setSession sessionId (some session)
  | .error _ session =>
      setSession sessionId (some session)
      fault

def doTlsWrite (fuel : Nat) (sessionId : BitVec 32) (buf : List UInt8) :
    CommandM (Sessions Session) (Nat × List UInt8) := do
  let session ← tlsSession sessionId
  match writeWhileWanted rustls fuel 0 ⟨buf, 0⟩ session with
  -- A command that does not come back leaves as if it was killed.
  | none => Fallible.kill
  | some (rc, wr, session) =>
      setSession sessionId (some session)
      return (rc, wr.inner)

def invokeCommand (fuel : Nat) (made : Except Unit State)
    (cmdId : UInt32) : CommandM (Sessions Session) Unit := do
  let (sessionId, _) ← valueInput .arg0
  match Command.fromPrimitive cmdId with
  | .newTlsSession => newTlsSession rustls made sessionId
  | .doTlsRead =>
      let buffer ← memrefInput .arg1
      doTlsRead rustls sessionId buffer
  | .doTlsWrite =>
      let bufferLen ← memrefOutput .arg1
      let (lens, outBuf) ←
        doTlsWrite rustls fuel sessionId (List.replicate bufferLen 0)
      setOutput .arg1 (outBuf.take lens)
  | .closeTlsSession => closeTlsSession sessionId
  | .unknown => refuse

end TrustedApp

/-! ## The host -/

def maxPayload : Nat := 16384 + 2048

def headerSize : Nat := 1 + 2 + 2

def maxWireSize : Nat := maxPayload + headerSize

/--
What a socket does.  It gives the pieces of `reads` and then ends; `writes` says
which of the writes succeed, and those after the last one do.  `made` is what
the library makes the connection of.
-/
structure Client (State : Type) where
  peer : Nat
  reads : List (Except Unit (List UInt8))
  writes : List Bool
  made : Except Unit State
  fits : ∀ piece, .ok piece ∈ reads → piece.length ≤ maxWireSize

inductive HostError where
  | teec (error : Teec.Error)
  | overflow
  deriving DecidableEq

abbrev Sent := List (Nat × List UInt8)

structure HostState (Session : Type) where
  sessions : Sessions Session
  sent : Sent

abbrev HostM (Session α : Type) := Fallible HostError (HostState Session) α

def trustedAppOrigin : UInt32 := 4

namespace Host

variable {State Session : Type} (rustls : Rustls State Session) (fuel : Nat)
  (made : Except Unit State)

def finish (state : HostState Session) (code : TeeResult)
    (frame : Frame (Sessions Session)) :
    Run HostError (HostState Session) (ParamIndex → Slot) :=
  match Teec.teecCheckWithOrigin code trustedAppOrigin with
  | .ok () => .ok frame.slots { state with sessions := frame.context }
  | .error error =>
      .error (.failed (.teec error)) { state with sessions := frame.context }

def conclude (state : HostState Session) :
    Run Error (Frame (Sessions Session)) Unit →
      Run HostError (HostState Session) (ParamIndex → Slot)
  | .ok () frame => finish state teeSuccess frame
  | .error (.failed error) frame => finish state error.rawCode frame
  | .error .killed frame =>
      .error .killed { state with sessions := frame.context }

def invokeCommand (command : Command) (slots : ParamIndex → Slot) :
    HostM Session (ParamIndex → Slot) := fun state =>
  conclude state
    ((TlsServer.invokeCommand rustls fuel made command.intoPrimitive).run
      ⟨state.sessions, slots⟩)

def newTlsSession (sessionId : BitVec 32) : HostM Session Unit := do
  let _ ← invokeCommand rustls fuel made .newTlsSession
    (ArgIndex.tuple (.value .input sessionId 0) .none .none .none)

def closeTlsSession (sessionId : BitVec 32) : HostM Session Unit := do
  let _ ← invokeCommand rustls fuel made .closeTlsSession
    (ArgIndex.tuple (.value .input sessionId 0) .none .none .none)

def doTlsRead (sessionId : BitVec 32) (buf : List UInt8) :
    HostM Session Unit := do
  let _ ← invokeCommand rustls fuel made .doTlsRead
    (ArgIndex.tuple (.value .input sessionId 0)
      (.memref .input buf buf.length) .none .none)

def doTlsWrite (sessionId : BitVec 32) (buf : List UInt8) :
    HostM Session (List UInt8) := do
  let slots ← invokeCommand rustls fuel made .doTlsWrite
    (ArgIndex.tuple (.value .input sessionId 0)
      (.memref .output buf buf.length) .none .none)
  return updatedBytes (slots .arg1)

def emit (peer : Nat) (bytes : List UInt8) : HostM Session Unit :=
  modify fun state => { state with sent := state.sent ++ [(peer, bytes)] }

def exchange (peer : Nat) (sessionId : BitVec 32) :
    List (Except Unit (List UInt8)) → List Bool → HostM Session Unit
  | [], _ => closeTlsSession rustls fuel made sessionId
  | .error _ :: _, _ => closeTlsSession rustls fuel made sessionId
  | .ok [] :: _, _ => closeTlsSession rustls fuel made sessionId
  | .ok (byte :: bytes) :: reads, writes => do
      let buf := overlay (List.replicate maxWireSize 0) 0 (byte :: bytes)
      doTlsRead rustls fuel made sessionId (byte :: bytes)
      let output ← doTlsWrite rustls fuel made sessionId buf
      if writes.headD true then
        emit peer output
        exchange peer sessionId reads writes.tail
      else closeTlsSession rustls fuel made sessionId

def handleClient (sessionId : BitVec 32) (client : Client State) :
    HostM Session Unit := do
  newTlsSession rustls fuel client.made sessionId
  exchange rustls fuel client.made client.peer sessionId client.reads
    client.writes

def increment (overflowChecks : Bool) (sessionId : BitVec 32) :
    HostM Session (BitVec 32) :=
  if overflowChecks ∧ sessionId = BitVec.allOnes 32 then
    Fallible.fail .overflow
  else return sessionId + 1

def serveFrom (overflowChecks : Bool) (sessionId : BitVec 32) :
    List (Except Unit (Client State)) → HostM Session Unit
  | [] => pure ()
  | arrival :: arrivals => do
      let sessionId ← increment overflowChecks sessionId
      match arrival with
      | .error _ => Fallible.fail (.teec (Teec.Error.new .communication))
      | .ok client =>
          handleClient rustls fuel sessionId client
          serveFrom overflowChecks sessionId arrivals

def main (overflowChecks : Bool)
    (arrivals : List (Except Unit (Client State))) : HostM Session Unit :=
  serveFrom rustls fuel overflowChecks 0 arrivals

end Host

/-! ## A server without a TA -/

/--
What a TLS connection is for.  Bytes of the network become plaintext and an
answer of the protocol's own, and plaintext becomes bytes for the network.  One
reading takes no more than `room` bytes.
-/
structure Tls (State : Type) where
  room : State → Nat
  receive : List UInt8 → State → Option (List UInt8 × List UInt8 × State)
  send : List UInt8 → State → Option (List UInt8 × State)

abbrev EchoM (α : Type) := Fallible HostError Sent α

def refusedByTa : HostError :=
  .teec ((Teec.Error.new .generic).withOrigin .ta)

section Specification

variable {State : Type} (tls : Tls State)

def Tls.reply (piece : List UInt8) (state : State) :
    Option (List UInt8 × State) :=
  -- What goes back for a piece.  Of the piece, only its beginning counts.
  match tls.receive (piece.take (tls.room state)) state with
  | none => none
  | some (plaintext, answer, state) =>
      if plaintext = [] then some (answer, state)
      else (tls.send plaintext state).map fun (bytes, state) =>
        (answer ++ bytes, state)

/--
An answer that the host's buffer cannot hold is never given, nor is anything
after it.
-/
def Tls.converse (peer : Nat) :
    List (Except Unit (List UInt8)) → List Bool → State → EchoM Unit
  | .ok (byte :: bytes) :: reads, writes, state =>
      match tls.reply (byte :: bytes) state with
      | none => Fallible.fail refusedByTa
      | some (output, state) =>
          if output.length ≤ maxWireSize then
            if writes.headD true then do
              modify (· ++ [(peer, output)])
              converse peer reads writes.tail state
            else pure ()
          else Fallible.kill
  | _, _, _ => pure ()

def Client.served (client : Client State) : EchoM Unit :=
  match client.made with
  | .error _ => Fallible.fail refusedByTa
  | .ok state => tls.converse client.peer client.reads client.writes state

def Tls.inTurn (overflowChecks : Bool) (accepted : Nat) :
    List (Except Unit (Client State)) → EchoM Unit
  | [] => pure ()
  | arrival :: arrivals =>
      if overflowChecks ∧ accepted + 1 = 2 ^ 32 then Fallible.fail .overflow
      else
        match arrival with
        | .error _ => Fallible.fail (.teec (Teec.Error.new .communication))
        | .ok client => do
            client.served tls
            inTurn overflowChecks (accepted + 1) arrivals

theorem Tls.reply_append (piece lost : List UInt8) {state : State}
    (h : tls.room state ≤ piece.length) :
    tls.reply (piece ++ lost) state = tls.reply piece state := by
  rw [Tls.reply, Tls.reply, List.take_append_of_le_length h]

end Specification

/-! ## Libraries that implement it -/

/-- A connection with what is held in the buffers of the library. -/
structure Buffers (State : Type) where
  state : State
  received : List UInt8
  plaintext : List UInt8
  sendable : List UInt8

/-- Nothing is waiting, or only what is to be sent. -/
def Buffers.idle {State : Type} (state : State) (sendable : List UInt8) :
    Buffers State :=
  ⟨state, [], [], sendable⟩

/-- Read through `view`, the buffers of the library are those of `tls`. -/
structure Rustls.Implements {State Session : Type}
    (rustls : Rustls State Session) (tls : Tls State)
    (view : Session → Buffers State) : Prop where
  serverConnection : ∀ state,
    view (rustls.serverConnection state) = .idle state []
  readTls : ∀ {session state sendable} bytes,
    view session = .idle state sendable →
      match (rustls.readTls bytes).run session with
      | .ok _ next =>
          view next = ⟨state, bytes.take (tls.room state), [], sendable⟩
      | .error _ _ => tls.receive (bytes.take (tls.room state)) state = none
  processNewPackets : ∀ {session state received sendable},
    view session = ⟨state, received, [], sendable⟩ →
      match rustls.processNewPackets.run session with
      | .ok _ next => ∃ plaintext answer after,
          tls.receive received state = some (plaintext, answer, after) ∧
            view next = ⟨after, [], plaintext, sendable ++ answer⟩
      | .error _ _ => tls.receive received state = none
  readToEnd : ∀ {session state plaintext sendable},
    view session = ⟨state, [], plaintext, sendable⟩ →
      (rustls.readToEnd session).1 = plaintext ∧
        view (rustls.readToEnd session).2 = .idle state sendable
  writeAll : ∀ {session state sendable} bytes,
    view session = .idle state sendable →
      match (rustls.writeAll bytes).run session with
      | .ok _ next => ∃ output after,
          tls.send bytes state = some (output, after) ∧
            view next = .idle after (sendable ++ output)
      | .error _ _ => tls.send bytes state = none
  wantsWrite : ∀ {session state sendable},
    view session = .idle state sendable →
      (rustls.wantsWrite session = true ↔ sendable ≠ [])
  -- One call hands over a portion, and not nothing if there is room for it.
  writeTls : ∀ {session state sendable} room,
    view session = .idle state sendable →
      ∃ used, used ≤ room ∧ used ≤ sendable.length ∧
        (0 < room → sendable ≠ [] → 0 < used) ∧
        (rustls.writeTls room session).1 = sendable.take used ∧
        view (rustls.writeTls room session).2 =
          .idle state (sendable.drop used)

def Tls.buffered {State : Type} (tls : Tls State) :
    Rustls State (Buffers State) where
  serverConnection state := .idle state []
  readTls bytes := fun session =>
    let taken := bytes.take (tls.room session.state)
    .ok taken.length { session with received := session.received ++ taken }
  processNewPackets := fun session =>
    match tls.receive session.received session.state with
    | none => .error () session
    | some (plaintext, answer, state) =>
        .ok () ⟨state, [], session.plaintext ++ plaintext,
          session.sendable ++ answer⟩
  readToEnd session := (session.plaintext, { session with plaintext := [] })
  writeAll bytes := fun session =>
    match tls.send bytes session.state with
    | none => .error () session
    | some (output, state) =>
        .ok () { session with state, sendable := session.sendable ++ output }
  wantsWrite session := !session.sendable.isEmpty
  writeTls room session :=
    (session.sendable.take room,
      { session with sendable := session.sendable.drop room })

theorem Tls.buffered_implements {State : Type} (tls : Tls State) :
    tls.buffered.Implements tls id where
  serverConnection _ := rfl
  readTls bytes h := by
    cases h
    rfl
  processNewPackets {session state received sendable} h := by
    cases h
    cases hreceive : tls.receive received state with
    | none => simp [Tls.buffered, EStateM.run, hreceive]
    | some found =>
        simp [Tls.buffered, EStateM.run, hreceive]
  readToEnd h := by
    cases h
    exact ⟨rfl, rfl⟩
  writeAll {session state sendable} bytes h := by
    cases h
    cases hsend : tls.send bytes state with
    | none => simp [Tls.buffered, EStateM.run, Buffers.idle, hsend]
    | some found => simp [Tls.buffered, EStateM.run, Buffers.idle, hsend]
  wantsWrite h := by
    cases h
    simp [Tls.buffered, Buffers.idle]
  writeTls {session state sendable} room h := by
    cases h
    refine ⟨min room sendable.length, Nat.min_le_left _ _,
      Nat.min_le_right _ _, ?_, ?_, ?_⟩
    · intro hroom hempty
      exact Nat.lt_min.mpr ⟨hroom, List.length_pos_of_ne_nil hempty⟩
    · exact List.take_eq_take_min ..
    · exact congrArg (Buffers.idle state) (List.drop_eq_drop_min ..)

/-! ## The TA's use of the library -/

theorem overlay_overlay {contents first second : List UInt8} {offset : Nat}
    (h : offset + first.length ≤ contents.length) :
    overlay (overlay contents offset first) (offset + first.length) second =
      overlay contents offset (first ++ second) := by
  have hhead : (contents.take offset ++ first).length =
      offset + first.length := by
    rw [List.length_append, List.length_take]
    omega
  have htake : (overlay contents offset first).take (offset + first.length) =
      contents.take offset ++ first := by
    exact List.take_left' hhead
  have hdrop : (overlay contents offset first).drop
      (offset + first.length + second.length) =
        contents.drop (offset + (first ++ second).length) := by
    rw [← List.drop_drop, overlay, List.drop_left' hhead, List.drop_drop,
      List.length_append, Nat.add_assoc]
  rw [overlay, htake, hdrop, overlay]
  simp only [List.append_assoc]

theorem Cursor.write_write {wr : Cursor} {first second : List UInt8}
    (h : wr.position + first.length ≤ wr.inner.length) :
    (wr.write first).write second = wr.write (first ++ second) := by
  simp only [Cursor.write, overlay_overlay h, List.length_append, Nat.add_assoc]

theorem Cursor.room_write {wr : Cursor} {bytes : List UInt8}
    (h : wr.position + bytes.length ≤ wr.inner.length) :
    (wr.write bytes).room = wr.room - bytes.length := by
  simp only [Cursor.room, Cursor.write, length_overlay h]
  omega

section Calls

variable {State Session : Type} {rustls : Rustls State Session}
  {tls : Tls State} {view : Session → Buffers State}
  (himplements : rustls.Implements tls view)

include himplements

theorem writeBack_reply {session : Session} {state : State}
    {plaintext answer : List UInt8}
    (h : view session = ⟨state, [], plaintext, answer⟩) :
    match (modifyGet rustls.readToEnd >>= fun plaintext =>
        if plaintext ≠ [] then rustls.writeAll plaintext
        else pure () : EStateM Unit Session Unit).run session with
    | .ok _ next => ∃ output after,
        (if plaintext = [] then some (answer, state)
          else (tls.send plaintext state).map fun (bytes, state) =>
            (answer ++ bytes, state)) = some (output, after) ∧
          view next = .idle after output
    | .error _ _ =>
        (if plaintext = [] then some (answer, state)
          else (tls.send plaintext state).map fun (bytes, state) =>
            (answer ++ bytes, state)) = none := by
  obtain ⟨hplain, hidle⟩ := himplements.readToEnd h
  have hget : (modifyGet rustls.readToEnd :
      EStateM Unit Session (List UInt8)).run session =
        .ok (rustls.readToEnd session).1 (rustls.readToEnd session).2 := rfl
  rw [EStateM.run_bind, hget]
  dsimp only
  rw [hplain]
  by_cases hempty : plaintext = []
  · rw [if_neg (not_not.mpr hempty), if_pos hempty]
    exact ⟨answer, state, rfl, hidle⟩
  · rw [if_pos hempty, if_neg hempty]
    have hwrite := himplements.writeAll plaintext hidle
    cases hw : (rustls.writeAll plaintext).run
        (rustls.readToEnd session).2 with
    | error refusal next =>
        rw [hw] at hwrite
        dsimp only at hwrite ⊢
        rw [hwrite, Option.map_none]
    | ok done next =>
        rw [hw] at hwrite
        dsimp only at hwrite ⊢
        obtain ⟨output, last, hsend, hlast⟩ := hwrite
        exact ⟨answer ++ output, last, by rw [hsend]; rfl, hlast⟩

theorem echo_reply (piece : List UInt8) {session : Session} {state : State}
    (h : view session = .idle state []) :
    match (echo rustls piece).run session with
    | .ok _ next => ∃ output after,
        tls.reply piece state = some (output, after) ∧
          view next = .idle after output
    | .error _ _ => tls.reply piece state = none := by
  have hread := himplements.readTls piece h
  rw [echo, EStateM.run_bind, Tls.reply]
  cases hr : (rustls.readTls piece).run session with
  | error refusal next =>
      rw [hr] at hread
      dsimp only at hread ⊢
      rw [hread]
  | ok count next =>
      rw [hr] at hread
      dsimp only at hread ⊢
      have hprocess := himplements.processNewPackets hread
      rw [EStateM.run_bind]
      cases hp : rustls.processNewPackets.run next with
      | error refusal next =>
          rw [hp] at hprocess
          dsimp only at hprocess ⊢
          rw [hprocess]
      | ok done next =>
          rw [hp] at hprocess
          dsimp only at hprocess ⊢
          obtain ⟨plaintext, answer, after, hreceive, hnext⟩ := hprocess
          rw [List.nil_append] at hnext
          rw [hreceive]
          exact writeBack_reply himplements hnext

theorem writeWhileWanted_turn (fuel rc : Nat) (wr : Cursor)
    {session : Session} {state : State} {sendable : List UInt8}
    (h : view session = .idle state sendable)
    (hwr : wr.position ≤ wr.inner.length) (hempty : sendable ≠ []) :
    ∃ used next, used ≤ sendable.length ∧ used ≤ wr.room ∧
      (0 < wr.room → 0 < used) ∧
      (wr.write (sendable.take used)).position ≤
        (wr.write (sendable.take used)).inner.length ∧
      (wr.write (sendable.take used)).room = wr.room - used ∧
      (wr.write (sendable.take used)).write (sendable.drop used) =
        wr.write sendable ∧
      view next = .idle state (sendable.drop used) ∧
      writeWhileWanted rustls (fuel + 1) rc wr session =
        writeWhileWanted rustls fuel (rc + used)
          (wr.write (sendable.take used)) next := by
  obtain ⟨used, hused, hlength, hpos, hbytes, hnext⟩ :=
    himplements.writeTls wr.room h
  have htaken : (sendable.take used).length = used :=
    List.length_take_of_le hlength
  have hwritten : wr.position + (sendable.take used).length ≤
      wr.inner.length := by
    rw [Cursor.room] at hused
    omega
  refine ⟨used, _, hlength, hused, fun hroom => hpos hroom hempty, ?_, ?_, ?_,
    hnext, ?_⟩
  · simpa only [Cursor.write, length_overlay hwritten] using hwritten
  · rw [Cursor.room_write hwritten, htaken]
  · rw [Cursor.write_write hwritten, List.take_append_drop]
  · rw [writeWhileWanted, if_pos ((himplements.wantsWrite h).mpr hempty)]
    dsimp only
    rw [hbytes, htaken]

theorem writeWhileWanted_done (fuel rc : Nat) (wr : Cursor)
    {session : Session} {state : State} (h : view session = .idle state []) :
    writeWhileWanted rustls fuel rc wr session = some (rc, wr, session) := by
  have hdone : ¬rustls.wantsWrite session = true := fun hwants =>
    (himplements.wantsWrite h).mp hwants rfl
  unfold writeWhileWanted
  rw [if_neg hdone]

theorem writeWhileWanted_fits {fuel : Nat} (rc : Nat) (wr : Cursor)
    {session : Session} {state : State} {sendable : List UInt8}
    (h : view session = .idle state sendable)
    (hwr : wr.position ≤ wr.inner.length) (hroom : sendable.length ≤ wr.room)
    (hfuel : sendable.length ≤ fuel) :
    ∃ next, writeWhileWanted rustls fuel rc wr session =
        some (rc + sendable.length, wr.write sendable, next) ∧
      view next = .idle state [] := by
  induction fuel generalizing rc wr session sendable with
  | zero =>
      obtain rfl : sendable = [] :=
        List.length_eq_zero_iff.mp (Nat.le_zero.mp hfuel)
      refine ⟨session, ?_, h⟩
      rw [writeWhileWanted_done himplements _ _ _ h]
      simp [Cursor.write, overlay]
  | succ fuel ih =>
      by_cases hempty : sendable = []
      · subst hempty
        refine ⟨session, ?_, h⟩
        rw [writeWhileWanted_done himplements _ _ _ h]
        simp [Cursor.write, overlay]
      · obtain ⟨used, next, hlength, hused, hpos, hposition, hleft, hwhole,
          hnext, hturn⟩ :=
          writeWhileWanted_turn himplements fuel rc wr h hwr hempty
        have hnonempty := List.length_pos_of_ne_nil hempty
        have hprogress := hpos (by omega)
        obtain ⟨last, hlast, hidle⟩ := ih (rc + used) _ hnext hposition
          (by rw [hleft, List.length_drop]; omega)
          (by rw [List.length_drop]; omega)
        refine ⟨last, ?_, hidle⟩
        rw [hturn, hlast, hwhole, List.length_drop]
        simp only [Option.some.injEq, Prod.mk.injEq, and_true]
        omega

theorem writeWhileWanted_stuck (fuel rc : Nat) (wr : Cursor)
    {session : Session} {state : State} {sendable : List UInt8}
    (h : view session = .idle state sendable)
    (hwr : wr.position ≤ wr.inner.length)
    (hroom : wr.room < sendable.length) :
    writeWhileWanted rustls fuel rc wr session = none := by
  -- A buffer that is too small is filled, and then the loop goes on idly.
  induction fuel generalizing rc wr session sendable with
  | zero =>
      have hempty : sendable ≠ [] := List.ne_nil_of_length_pos (by omega)
      rw [writeWhileWanted, if_pos ((himplements.wantsWrite h).mpr hempty)]
  | succ fuel ih =>
      have hempty : sendable ≠ [] := List.ne_nil_of_length_pos (by omega)
      obtain ⟨used, next, hlength, hused, -, hposition, hleft, -, hnext,
        hturn⟩ := writeWhileWanted_turn himplements fuel rc wr h hwr hempty
      rw [hturn]
      refine ih _ _ hnext hposition ?_
      rw [hleft, List.length_drop]
      omega

end Calls

/-! ## The TA's commands -/

section Commands

variable {State Session : Type} {rustls : Rustls State Session}
  {tls : Tls State} {view : Session → Buffers State}
  {sessions : Sessions Session} {slots : ParamIndex → Slot}
  {sessionId : BitVec 32} {session : Session}

@[simp] theorem run_fault {α : Type} (frame : Frame (Sessions Session)) :
    (fault : CommandM (Sessions Session) α).run frame =
      .error (.failed (Error.new .generic)) frame := rfl

@[simp] theorem run_setSession (entry : Option Session) :
    (setSession sessionId entry).run ⟨sessions, slots⟩ =
      .ok () ⟨Function.update sessions sessionId entry, slots⟩ := rfl

variable (h : sessions sessionId = some session)

include h

theorem run_tlsSession :
    (tlsSession sessionId).run ⟨sessions, slots⟩ =
      .ok session ⟨sessions, slots⟩ := by
  simp [tlsSession, h]

theorem run_closeTlsSession :
    (closeTlsSession sessionId).run ⟨sessions, slots⟩ =
      .ok () ⟨Function.update sessions sessionId none, slots⟩ := by
  simp [closeTlsSession, run_tlsSession h]

theorem run_doTlsRead (buf : List UInt8) :
    (doTlsRead rustls sessionId buf).run ⟨sessions, slots⟩ =
      match (echo rustls buf).run session with
      | .ok _ next =>
          .ok () ⟨Function.update sessions sessionId (some next), slots⟩
      | .error _ next => .error (.failed (Error.new .generic))
          ⟨Function.update sessions sessionId (some next), slots⟩ := by
  cases hecho : (echo rustls buf).run session with
  | ok done next => simp [doTlsRead, run_tlsSession h, hecho]
  | error refusal next => simp [doTlsRead, run_tlsSession h, hecho]

theorem run_doTlsWrite (himplements : rustls.Implements tls view) {fuel : Nat}
    {buf sendable : List UInt8} {state : State}
    (hview : view session = .idle state sendable) (hfuel : buf.length ≤ fuel) :
    if sendable.length ≤ buf.length then
      ∃ next, view next = .idle state [] ∧ ∀ slots,
        (doTlsWrite rustls fuel sessionId buf).run ⟨sessions, slots⟩ =
          .ok (sendable.length, overlay buf 0 sendable)
            ⟨Function.update sessions sessionId (some next), slots⟩
    else ∀ slots,
      (doTlsWrite rustls fuel sessionId buf).run ⟨sessions, slots⟩ =
        .error .killed ⟨sessions, slots⟩ := by
  split
  · next hfits =>
      obtain ⟨next, hloop, hnext⟩ := writeWhileWanted_fits himplements 0
        ⟨buf, 0⟩ hview (Nat.zero_le _) hfits (hfits.trans hfuel)
      refine ⟨next, hnext, fun slots => ?_⟩
      simp [doTlsWrite, run_tlsSession h, hloop, Cursor.write]
  · next hfits =>
      have hloop := writeWhileWanted_stuck himplements fuel 0 ⟨buf, 0⟩ hview
        (Nat.zero_le _) (Nat.lt_of_not_le hfits)
      intro slots
      simp [doTlsWrite, run_tlsSession h, hloop]

end Commands

/-! ## The host's calls -/

section HostCalls

variable {State Session : Type} (rustls : Rustls State Session) (fuel : Nat)
  (made : Except Unit State) (sessionId : BitVec 32)
  (state : HostState Session)

def HostState.withSession (entry : Option Session) : HostState Session :=
  { state with sessions := Function.update state.sessions sessionId entry }

theorem HostState.withSession_self (entry : Option Session) :
    (state.withSession sessionId entry).sessions sessionId = entry :=
  Function.update_self ..

theorem HostState.update_withSession (entry : Option Session) :
    Function.update (state.withSession sessionId entry).sessions sessionId none
      = Function.update state.sessions sessionId none :=
  Function.update_idem ..

theorem HostState.withSession_withSession
    (first second : Option Session) :
    (state.withSession sessionId first).withSession sessionId second =
      state.withSession sessionId second := by
  simp [HostState.withSession]

@[simp] theorem run_invokeCommand (command : Command)
    (slots : ParamIndex → Slot) :
    (Host.invokeCommand rustls fuel made command slots).run state =
      Host.conclude state
        ((invokeCommand rustls fuel made command.intoPrimitive).run
          ⟨state.sessions, slots⟩) := rfl

@[simp] theorem conclude_ok (frame : Frame (Sessions Session)) :
    Host.conclude state (.ok () frame) =
      .ok frame.slots { state with sessions := frame.context } := rfl

@[simp] theorem conclude_fault (frame : Frame (Sessions Session)) :
    Host.conclude state (.error (.failed (Error.new .generic)) frame) =
      .error (.failed refusedByTa) { state with sessions := frame.context } :=
  rfl

@[simp] theorem conclude_killed (frame : Frame (Sessions Session)) :
    Host.conclude state (.error .killed frame) =
      .error .killed { state with sessions := frame.context } := rfl

theorem host_newTlsSession :
    (Host.newTlsSession rustls fuel made sessionId).run state =
      match made with
      | .ok drawn => .ok () (state.withSession sessionId
          (some (rustls.serverConnection drawn)))
      | .error _ => .error (.failed refusedByTa) state := by
  cases made with
  | error refusal =>
      simp [Host.newTlsSession, invokeCommand, run_valueInput, ArgIndex.tuple,
        valuesOf, newTlsSession, Command.fromPrimitive_intoPrimitive]
  | ok drawn =>
      simp [Host.newTlsSession, invokeCommand, run_valueInput, ArgIndex.tuple,
        valuesOf, newTlsSession, Command.fromPrimitive_intoPrimitive,
        HostState.withSession]

variable {sessionId state} {session : Session}
  (h : state.sessions sessionId = some session)

include h

theorem host_closeTlsSession :
    (Host.closeTlsSession rustls fuel made sessionId).run state =
      .ok () (state.withSession sessionId none) := by
  simp [Host.closeTlsSession, invokeCommand, run_valueInput, ArgIndex.tuple,
    valuesOf, Command.fromPrimitive_intoPrimitive, run_closeTlsSession h,
    HostState.withSession]

theorem host_doTlsRead (buf : List UInt8) :
    (Host.doTlsRead rustls fuel made sessionId buf).run state =
      match (echo rustls buf).run session with
      | .ok _ next => .ok () (state.withSession sessionId (some next))
      | .error _ next => .error (.failed refusedByTa)
          (state.withSession sessionId (some next)) := by
  cases hecho : (echo rustls buf).run session with
  | ok done next =>
      simp [Host.doTlsRead, invokeCommand, run_valueInput, run_memrefInput,
        ArgIndex.tuple, valuesOf, inputOf, Command.fromPrimitive_intoPrimitive,
        run_doTlsRead h, hecho, HostState.withSession]
  | error refusal next =>
      simp [Host.doTlsRead, invokeCommand, run_valueInput, run_memrefInput,
        ArgIndex.tuple, valuesOf, inputOf, Command.fromPrimitive_intoPrimitive,
        run_doTlsRead h, hecho, HostState.withSession]

theorem host_doTlsWrite {tls : Tls State} {view : Session → Buffers State}
    (himplements : rustls.Implements tls view) {buf sendable : List UInt8}
    {idle : State} (hview : view session = .idle idle sendable)
    (hfuel : buf.length ≤ fuel) :
    if sendable.length ≤ buf.length then
      ∃ next, (Host.doTlsWrite rustls fuel made sessionId buf).run state =
        .ok sendable (state.withSession sessionId (some next)) ∧
        view next = .idle idle []
    else (Host.doTlsWrite rustls fuel made sessionId buf).run state =
      .error .killed state := by
  have hzeros : (List.replicate buf.length (0 : UInt8)).length ≤ fuel := by
    rwa [List.length_replicate]
  have hwrite := run_doTlsWrite h himplements hview hzeros
  rw [List.length_replicate] at hwrite
  split
  · next hfits =>
      rw [if_pos hfits] at hwrite
      obtain ⟨next, hnext, hrun⟩ := hwrite
      refine ⟨next, ?_, hnext⟩
      have hfront : (overlay (List.replicate buf.length 0) 0 sendable).take
          sendable.length = sendable := by
        simp [overlay]
      have hback : (overlay buf 0 sendable).take sendable.length =
          sendable := by
        simp [overlay]
      simp [Host.doTlsWrite, invokeCommand, run_valueInput, run_memrefOutput,
        run_setOutput, ArgIndex.tuple, valuesOf, capacityOf,
        Command.fromPrimitive_intoPrimitive, hrun, Nat.not_lt.mpr hfits,
        hfront, hback, HostState.withSession, updatedBytes, filled,
        Frame.withSlot]
  · next hfits =>
      rw [if_neg hfits] at hwrite
      simp [Host.doTlsWrite, invokeCommand, run_valueInput, run_memrefOutput,
        ArgIndex.tuple, valuesOf, capacityOf, hwrite,
        Command.fromPrimitive_intoPrimitive]

end HostCalls

/-! ## Refinement -/

theorem length_received {piece : List UInt8}
    (h : piece.length ≤ maxWireSize) :
    (overlay (List.replicate maxWireSize 0) 0 piece).length = maxWireSize := by
  rw [length_overlay (by simpa using h), List.length_replicate]

section Refinement

variable {Session : Type}

/--
The host ends like the server without a TA, after writing the same bytes to the
same sockets.  If it ends well it leaves the map as `final`.
-/
structure Follows (final : Sessions Session)
    (run : Run HostError (HostState Session) Unit)
    (spec : Run HostError Sent Unit) : Prop where
  outcome : run.outcome = spec.outcome
  sent : run.state.sent = spec.state
  closed : run.outcome = .ok () → run.state.sessions = final

theorem Follows.halted {final : Sessions Session} {halt : Halt HostError}
    {state : HostState Session} {sent : Sent} (h : state.sent = sent) :
    Follows final (.error halt state) (.error halt sent) :=
  ⟨rfl, h, nofun⟩

theorem Follows.done {final : Sessions Session} {state : HostState Session}
    {sent : Sent} (hfinal : state.sessions = final) (h : state.sent = sent) :
    Follows final (.ok () state) (.ok () sent) :=
  ⟨rfl, h, fun _ => hfinal⟩

theorem Follows.bind {middle final : Sessions Session}
    {x y : HostM Session Unit} {a b : EchoM Unit}
    {state : HostState Session}
    (h : Follows middle (x.run state) (a.run state.sent))
    (hnext : ∀ next : HostState Session, next.sessions = middle →
      Follows final (y.run next) (b.run next.sent)) :
    Follows final ((x >>= fun _ => y).run state)
      ((a >>= fun _ => b).run state.sent) := by
  rw [EStateM.run_bind, EStateM.run_bind]
  obtain ⟨houtcome, hsent, hclosed⟩ := h
  cases hx : x.run state with
  | ok value next =>
      cases ha : a.run state.sent with
      | ok value' sent =>
          rw [hx, ha] at hsent
          rw [hx] at hclosed
          have hfollows := hnext next (hclosed rfl)
          rw [show next.sent = sent from hsent] at hfollows
          exact hfollows
      | error halt sent =>
          rw [hx, ha] at houtcome
          cases houtcome
  | error halt next =>
      cases ha : a.run state.sent with
      | ok value' sent =>
          rw [hx, ha] at houtcome
          cases houtcome
      | error halt' sent =>
          rw [hx, ha] at houtcome hsent
          cases houtcome
          exact .halted hsent

variable {State : Type} {rustls : Rustls State Session} {tls : Tls State}
  {view : Session → Buffers State} {fuel : Nat}

theorem closeTlsSession_follows (made : Except Unit State)
    {sessionId : BitVec 32} {state : HostState Session} {session : Session}
    (h : state.sessions sessionId = some session) :
    Follows (Function.update state.sessions sessionId none)
      ((Host.closeTlsSession rustls fuel made sessionId).run state)
      (.ok () state.sent) := by
  rw [host_closeTlsSession rustls fuel made h]
  exact .done rfl rfl

variable (himplements : rustls.Implements tls view)

include himplements

theorem exchange_follows (hfuel : maxWireSize ≤ fuel)
    (made : Except Unit State) (peer : Nat)
    {sessionId : BitVec 32} {reads : List (Except Unit (List UInt8))}
    (writes : List Bool) (state : HostState Session) {session : Session}
    {idle : State}
    (hfits : ∀ piece, .ok piece ∈ reads → piece.length ≤ maxWireSize)
    (h : state.sessions sessionId = some session)
    (hview : view session = .idle idle []) :
    Follows (Function.update state.sessions sessionId none)
      ((Host.exchange rustls fuel made peer sessionId reads writes).run state)
      ((tls.converse peer reads writes idle).run state.sent) := by
  induction reads generalizing writes state session idle with
  | nil => exact closeTlsSession_follows made h
  | cons read reads ih =>
      match read with
      | .error _ => exact closeTlsSession_follows made h
      | .ok [] => exact closeTlsSession_follows made h
      | .ok (byte :: bytes) =>
          have hlength := length_received
            (hfits (byte :: bytes) List.mem_cons_self)
          have hreply := echo_reply himplements (byte :: bytes) hview
          rw [Host.exchange, Tls.converse, EStateM.run_bind,
            host_doTlsRead rustls fuel made h]
          cases hecho : (echo rustls (byte :: bytes)).run session with
          | error refusal next =>
              rw [hecho] at hreply
              dsimp only at hreply
              rw [hreply]
              exact .halted rfl
          | ok done next =>
              rw [hecho] at hreply
              dsimp only at hreply
              obtain ⟨output, after, hreply, hnext⟩ := hreply
              rw [hreply]
              dsimp only
              have hwrite := host_doTlsWrite rustls fuel made
                (state.withSession_self sessionId (some next)) himplements
                hnext (hlength.trans_le hfuel)
              rw [hlength] at hwrite
              rw [EStateM.run_bind]
              by_cases hwire : output.length ≤ maxWireSize
              · rw [if_pos hwire] at hwrite
                obtain ⟨last, hrun, hlast⟩ := hwrite
                rw [hrun, if_pos hwire, HostState.withSession_withSession,
                  ← state.update_withSession sessionId (some last)]
                dsimp only
                by_cases hsent : writes.headD true = true
                · rw [if_pos hsent, if_pos hsent]
                  exact ih writes.tail ⟨_, state.sent ++ [(peer, output)]⟩
                    (fun piece hmem =>
                      hfits piece (List.mem_cons_of_mem _ hmem))
                    (state.withSession_self sessionId _) hlast
                · rw [if_neg hsent, if_neg hsent]
                  exact closeTlsSession_follows made
                    (state.withSession_self sessionId _)
              · rw [if_neg hwire] at hwrite
                rw [hwrite, if_neg hwire]
                exact .halted rfl

theorem handleClient_follows (hfuel : maxWireSize ≤ fuel)
    (sessionId : BitVec 32) (client : Client State)
    {state : HostState Session} (h : state.sessions sessionId = none) :
    Follows state.sessions
      ((Host.handleClient rustls fuel sessionId client).run state)
      ((client.served tls).run state.sent) := by
  rw [Host.handleClient, Client.served, EStateM.run_bind,
    host_newTlsSession rustls fuel client.made sessionId state]
  cases hmade : client.made with
  | error refusal => exact .halted rfl
  | ok drawn =>
      have hfollows := exchange_follows himplements hfuel (.ok drawn)
        client.peer client.writes
        (state.withSession sessionId (some (rustls.serverConnection drawn)))
        client.fits (state.withSession_self sessionId _)
        (himplements.serverConnection drawn)
      -- The identifier was free, so closing the session restores the map.
      rw [HostState.update_withSession, ← h, Function.update_eq_self]
        at hfollows
      exact hfollows

omit himplements in
theorem run_increment (overflowChecks : Bool) {accepted : Nat}
    {state : HostState Session}
    (haccepted : overflowChecks = true → accepted < 2 ^ 32) :
    (Host.increment overflowChecks (BitVec.ofNat 32 accepted)).run state =
      if overflowChecks = true ∧ accepted + 1 = 2 ^ 32 then
        .error (.failed .overflow) state
      else .ok (BitVec.ofNat 32 (accepted + 1)) state := by
  have hlast : (overflowChecks = true ∧
      BitVec.ofNat 32 accepted = BitVec.allOnes 32) ↔
        (overflowChecks = true ∧ accepted + 1 = 2 ^ 32) := by
    refine and_congr_right fun hchecks => ?_
    have hbound := haccepted hchecks
    rw [← BitVec.toNat_inj, BitVec.toNat_ofNat, BitVec.toNat_allOnes,
      Nat.mod_eq_of_lt hbound]
    omega
  have hnext : BitVec.ofNat 32 accepted + 1 =
      BitVec.ofNat 32 (accepted + 1) := (BitVec.ofNat_add ..).symm
  simp only [Host.increment, hlast, hnext]
  split_ifs <;> rfl

theorem serveFrom_follows (hfuel : maxWireSize ≤ fuel) (overflowChecks : Bool)
    (arrivals : List (Except Unit (Client State))) {accepted : Nat}
    {state : HostState Session} (h : state.sessions = fun _ => none)
    (haccepted : overflowChecks = true → accepted < 2 ^ 32) :
    Follows (fun _ => none)
      ((Host.serveFrom rustls fuel overflowChecks (BitVec.ofNat 32 accepted)
        arrivals).run state)
      ((tls.inTurn overflowChecks accepted arrivals).run state.sent) := by
  induction arrivals generalizing accepted state with
  | nil => exact .done h rfl
  | cons arrival arrivals ih =>
      unfold Tls.inTurn
      rw [Host.serveFrom, EStateM.run_bind,
        run_increment overflowChecks haccepted]
      by_cases hlast : overflowChecks = true ∧ accepted + 1 = 2 ^ 32
      · rw [if_pos hlast, if_pos hlast]
        exact .halted rfl
      · rw [if_neg hlast, if_neg hlast]
        cases arrival with
        | error refusal => exact .halted rfl
        | ok client =>
            have hfirst := handleClient_follows himplements hfuel
              (BitVec.ofNat 32 (accepted + 1)) client (congrFun h _)
            rw [h] at hfirst
            refine hfirst.bind fun next hnext => ih hnext fun hchecks => ?_
            have hbound := haccepted hchecks
            have hnotlast : accepted + 1 ≠ 2 ^ 32 :=
              fun heq => hlast ⟨hchecks, heq⟩
            exact Nat.lt_of_le_of_ne hbound hnotlast

end Refinement

def narrowTls : Tls Unit where
  room _ := 4
  receive bytes _ := some (bytes, [], ())
  send bytes _ := some (23 :: bytes, ())

def twoPieces : Client Unit where
  peer := 7
  reads := [.ok [1, 2, 3], .ok [4, 5, 6, 7, 8, 9]]
  writes := []
  made := .ok ()
  fits := by
    intro piece hpiece
    simp only [List.mem_cons, Except.ok.injEq, List.not_mem_nil,
      or_false] at hpiece
    rcases hpiece with rfl | rfl <;> decide

end TrustZoneSdk.TrustedApps.TlsServer
