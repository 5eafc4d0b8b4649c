import TrustZoneSdk.Foundation.ByteMemory
import TrustZoneSdk.Foundation.Dialogue
import TrustZoneSdk.Foundation.Drain
import TrustZoneSdk.Utee.Error

/-!
# Sockets

A socket keeps a handle of its adapter and a timeout for each direction, and
passes both to the adapter.  `write_all` and `read_exact` call it again and
again with what is left of their buffer.
-/

namespace TrustZoneSdk.Utee

open TrustZoneSdk.Foundation

inductive SocketError where
  | errorProtocol (code : UInt32)
  | remoteClosed
  | timeout
  | outOfResource
  | warningProtocol (code : UInt32)
  | largeBuffer
  | hostname
  | tee (kind : ErrorKind)
  | unknown (code : UInt32)
  deriving DecidableEq, Repr

/--
With its result `recv` gives the bytes that it has written over the start of
the buffer.
-/
structure SocketAdapter (Setup Handle : Type) where
  «open» : Setup → Except SocketError Handle
  send : Handle → List UInt8 → UInt32 → Except SocketError Nat × Handle
  recv : Handle → List UInt8 → UInt32 →
    (Except SocketError Nat × List UInt8) × Handle

structure Socket (Handle : Type) where
  handle : Handle
  recvTimeout : UInt32
  sendTimeout : UInt32
  deriving DecidableEq, Repr

def teeTimeoutInfinite : UInt32 := 0xFFFFFFFF

structure Duration where
  secs : UInt64
  nanos : UInt32
  nanos_lt : nanos.toNat < 1000000000
  deriving DecidableEq

def Duration.asMillis (dur : Duration) : Nat :=
  dur.secs.toNat * 1000 + dur.nanos.toNat / 1000000

def convertDurationOptionToTimeout : Option Duration → Except Error UInt32
  | none => .ok teeTimeoutInfinite
  | some v =>
      let milliseconds := v.asMillis
      if 2 ^ 32 - 1 < milliseconds then .error (Error.new .badParameters)
      else .ok (.ofNat milliseconds)

namespace Socket

variable {Setup Handle : Type}

def «open» (adapter : SocketAdapter Setup Handle) (setup : Setup) :
    Except SocketError (Socket Handle) := do
  let handle ← adapter.open setup
  return ⟨handle, teeTimeoutInfinite, teeTimeoutInfinite⟩

def setRecvTimeoutInMilli (milliseconds : UInt32) (self : Socket Handle) :
    Socket Handle :=
  { self with recvTimeout := milliseconds }

def setSendTimeoutInMilli (milliseconds : UInt32) (self : Socket Handle) :
    Socket Handle :=
  { self with sendTimeout := milliseconds }

def setRecvTimeout (dur : Option Duration) (self : Socket Handle) :
    Except Error Unit × Socket Handle :=
  match convertDurationOptionToTimeout dur with
  | .error error => (.error error, self)
  | .ok milliseconds => (.ok (), self.setRecvTimeoutInMilli milliseconds)

def setSendTimeout (dur : Option Duration) (self : Socket Handle) :
    Except Error Unit × Socket Handle :=
  match convertDurationOptionToTimeout dur with
  | .error error => (.error error, self)
  | .ok milliseconds => (.ok (), self.setSendTimeoutInMilli milliseconds)

def send (adapter : SocketAdapter Setup Handle) (buf : List UInt8)
    (self : Socket Handle) : Except SocketError Nat × Socket Handle :=
  let (result, handle) := adapter.send self.handle buf self.sendTimeout
  (result, { self with handle := handle })

def recv (adapter : SocketAdapter Setup Handle) (buf : List UInt8)
    (self : Socket Handle) :
    (Except SocketError Nat × List UInt8) × Socket Handle :=
  let (answer, handle) := adapter.recv self.handle buf self.recvTimeout
  (answer, { self with handle := handle })

end Socket

/-! ## Timeouts -/

inductive SocketDirection where
  | recv
  | send
  deriving DecidableEq, Repr

structure TimeoutCall where
  direction : SocketDirection
  dur : Option Duration
  deriving DecidableEq

section Timeouts

variable {Handle : Type}

def TimeoutCall.exec (call : TimeoutCall) (socket : Socket Handle) :
    Except Error Unit × Socket Handle :=
  match call.direction with
  | .recv => socket.setRecvTimeout call.dur
  | .send => socket.setSendTimeout call.dur

def runTimeouts (calls : List TimeoutCall) (socket : Socket Handle) :
    Socket Handle :=
  calls.foldl (fun socket call => (call.exec socket).2) socket

namespace Socket

def timeout (socket : Socket Handle) : SocketDirection → UInt32
  | .recv => socket.recvTimeout
  | .send => socket.sendTimeout

def Passes (socket : Socket Handle) (timeout : UInt32) :
    SocketDirection → Prop
  | .recv => ∀ (Setup : Type) (adapter : SocketAdapter Setup Handle) buf,
      (socket.recv adapter buf).1 =
        (adapter.recv socket.handle buf timeout).1
  | .send => ∀ (Setup : Type) (adapter : SocketAdapter Setup Handle) buf,
      (socket.send adapter buf).1 =
        (adapter.send socket.handle buf timeout).1

theorem passes_iff {socket : Socket Handle} {timeout : UInt32}
    {direction : SocketDirection} :
    socket.Passes timeout direction ↔ timeout = socket.timeout direction := by
  cases direction with
  | recv =>
      constructor
      · intro h
        have hprobe := h Unit ⟨fun _ => .error .timeout,
          fun handle _ _ => (.ok 0, handle),
          fun handle _ given => ((.ok given.toNat, []), handle)⟩ []
        exact UInt32.toNat_inj.mp (Except.ok.inj
          (congrArg Prod.fst hprobe.symm))
      · rintro rfl Setup adapter buf
        rfl
  | send =>
      constructor
      · intro h
        have hprobe := h Unit ⟨fun _ => .error .timeout,
          fun handle _ given => (.ok given.toNat, handle),
          fun handle _ _ => ((.ok 0, []), handle)⟩ []
        exact UInt32.toNat_inj.mp (Except.ok.inj hprobe.symm)
      · rintro rfl Setup adapter buf
        rfl

end Socket

/-- What a call may do to the timeouts. -/
structure TimeoutCall.KeepsFinite (call : TimeoutCall)
    (socket : Socket Handle) : Prop where
  other : ∀ direction, direction ≠ call.direction →
    (call.exec socket).2.Passes (socket.timeout direction) direction
  infinite : call.dur = none → (call.exec socket).1 = .ok () ∧
    (call.exec socket).2.Passes teeTimeoutInfinite call.direction
  finite : ∀ dur, call.dur = some dur →
    ((∃ error, (call.exec socket).1 = .error error) ∧
      ∀ direction,
        (call.exec socket).2.Passes (socket.timeout direction) direction) ∨
    (call.exec socket).1 = .ok () ∧
      ∃ timeout, (call.exec socket).2.Passes timeout call.direction ∧
        timeout.toNat = dur.asMillis ∧ timeout ≠ teeTimeoutInfinite

theorem TimeoutCall.exec_cases (call : TimeoutCall) (socket : Socket Handle) :
    (∃ error, convertDurationOptionToTimeout call.dur = .error error ∧
      call.exec socket = (.error error, socket)) ∨
    ∃ milliseconds,
      convertDurationOptionToTimeout call.dur = .ok milliseconds ∧
      (call.exec socket).1 = .ok () ∧
      (call.exec socket).2.timeout call.direction = milliseconds ∧
      ∀ direction, direction ≠ call.direction →
        (call.exec socket).2.timeout direction = socket.timeout direction := by
  obtain ⟨direction, dur⟩ := call
  cases hconvert : convertDurationOptionToTimeout dur with
  | error error =>
      refine .inl ⟨error, rfl, ?_⟩
      cases direction with
      | recv => simp [exec, Socket.setRecvTimeout, hconvert]
      | send => simp [exec, Socket.setSendTimeout, hconvert]
  | ok milliseconds =>
      refine .inr ⟨milliseconds, rfl, ?_⟩
      cases direction with
      | recv =>
          simp only [exec, Socket.setRecvTimeout, hconvert]
          refine ⟨trivial, rfl, fun direction hne => ?_⟩
          cases direction with
          | recv => exact absurd rfl hne
          | send => rfl
      | send =>
          simp only [exec, Socket.setSendTimeout, hconvert]
          refine ⟨trivial, rfl, fun direction hne => ?_⟩
          cases direction with
          | recv => rfl
          | send => exact absurd rfl hne

theorem convert_some_ok {dur : Duration} {milliseconds : UInt32}
    (h : convertDurationOptionToTimeout (some dur) = .ok milliseconds) :
    milliseconds.toNat = dur.asMillis := by
  simp only [convertDurationOptionToTimeout] at h
  split_ifs at h with hlarge
  cases h
  rw [UInt32.toNat_ofNat']
  omega

theorem TimeoutCall.keepsFinite_iff (call : TimeoutCall)
    (socket : Socket Handle) :
    call.KeepsFinite socket ↔
      ∀ dur ∈ call.dur, dur.asMillis ≠ 2 ^ 32 - 1 := by
  -- The largest timeout of a `u32` is the one that means none.
  have hinfinite : teeTimeoutInfinite.toNat = 2 ^ 32 - 1 := rfl
  constructor
  · intro h dur hdur heq
    rcases h.finite dur hdur with ⟨⟨error, herror⟩, -⟩ |
      ⟨-, timeout, -, hmillis, hne⟩
    · rcases call.exec_cases socket with ⟨refused, hconvert, -⟩ |
        ⟨milliseconds, -, hok, -⟩
      · rw [Option.mem_def.mp hdur, convertDurationOptionToTimeout,
          if_neg (by omega)] at hconvert
        cases hconvert
      · rw [hok] at herror
        cases herror
    · exact hne (UInt32.toNat_inj.mp (by omega))
  · intro h
    rcases call.exec_cases socket with ⟨error, hconvert, hexec⟩ |
      ⟨milliseconds, hconvert, hok, htimeout, hother⟩
    · refine ⟨fun direction _ => ?_, fun hnone => ?_, fun dur _ => ?_⟩
      · rw [hexec, Socket.passes_iff]
      · rw [hnone] at hconvert
        cases hconvert
      · rw [hexec]
        exact .inl ⟨⟨error, rfl⟩, fun direction => Socket.passes_iff.mpr rfl⟩
    · refine ⟨fun direction hne => ?_, fun hnone => ?_, fun dur hdur => ?_⟩
      · exact Socket.passes_iff.mpr (hother direction hne).symm
      · rw [hnone] at hconvert
        cases hconvert
        exact ⟨hok, Socket.passes_iff.mpr htimeout.symm⟩
      · rw [hdur] at hconvert
        have hmillis := convert_some_ok hconvert
        refine .inr ⟨hok, milliseconds, Socket.passes_iff.mpr htimeout.symm,
          hmillis, ?_⟩
        rintro rfl
        exact h dur hdur (by omega)

theorem finite_timeouts_stay_finite_iff (socket : Socket Handle)
    (calls : List TimeoutCall) :
    (∀ before call after, calls = before ++ call :: after →
      call.KeepsFinite (runTimeouts before socket)) ↔
      ∀ call ∈ calls, ∀ dur ∈ call.dur, dur.asMillis ≠ 2 ^ 32 - 1 := by
  constructor
  · intro h call hcall
    obtain ⟨before, after, hsplit⟩ := List.append_of_mem hcall
    exact (call.keepsFinite_iff _).mp (h before call after hsplit)
  · intro h before call after hsplit
    exact (call.keepsFinite_iff _).mpr (h call (by simp [hsplit]))

theorem largest_timeout_is_infinite :
    let dur : Duration := ⟨4294967, 295000000, by decide⟩
    dur.asMillis = 4294967295 ∧
      (⟨(), 5, 7⟩ : Socket Unit).setSendTimeout (some dur) =
        (.ok (), ⟨(), 5, teeTimeoutInfinite⟩) := by
  decide

end Timeouts

/-! ## Whole buffers -/

def writeAll (buf : List UInt8) :
    Dialogue (List UInt8) (Except SocketError Nat)
      (Option (Except SocketError Unit)) :=
  if buf.isEmpty then .finish (some (.ok ()))
  else
    .ask buf fun
      | .error error => .finish (some (.error error))
      | .ok 0 => .finish (some (.error (.tee .generic)))
      | .ok (n + 1) =>
          if n + 1 ≤ buf.length then writeAll (buf.drop (n + 1))
          else .finish none
termination_by buf.length
decreasing_by
  rw [List.length_drop]
  omega

def readEnd (buf : List UInt8) : Except SocketError Unit :=
  if buf.isEmpty then .ok () else .error (.tee .generic)

/--
The loop of `read_exact` on the rest of a buffer whose start is filled.  It
ends with the contents of the whole buffer.
-/
def readRest (filled buf : List UInt8) :
    Dialogue (List UInt8) (Except SocketError Nat × List UInt8)
      (Option (Except SocketError Unit) × List UInt8) :=
  if buf.isEmpty then .finish (some (readEnd buf), filled ++ buf)
  else
    .ask buf fun answer =>
      let after := overlay buf 0 (answer.2.take buf.length)
      match answer.1 with
      | .error error => .finish (some (.error error), filled ++ after)
      | .ok 0 => .finish (some (readEnd after), filled ++ after)
      | .ok (n + 1) =>
          if n + 1 ≤ buf.length then
            readRest (filled ++ after.take (n + 1)) (after.drop (n + 1))
          else .finish (none, filled ++ after)
termination_by buf.length
decreasing_by
  rw [List.length_drop, length_overlay (by rw [List.length_take]; omega)]
  omega

def readExact (buf : List UInt8) :
    Dialogue (List UInt8) (Except SocketError Nat × List UInt8)
      (Option (Except SocketError Unit) × List UInt8) :=
  readRest [] buf

/-- What an adapter reports is what it has done. -/
structure SocketAdapter.Lawful {Setup Handle : Type}
    (adapter : SocketAdapter Setup Handle) : Prop where
  send_le : ∀ handle buf timeout n,
    (adapter.send handle buf timeout).1 = .ok n → n ≤ buf.length
  recv_ok : ∀ handle buf timeout n,
    (adapter.recv handle buf timeout).1.1 = .ok n →
      n ≤ buf.length ∧ (adapter.recv handle buf timeout).1.2.length = n
  recv_error : ∀ handle buf timeout error,
    (adapter.recv handle buf timeout).1.1 = .error error →
      (adapter.recv handle buf timeout).1.2 = []

def received
    (entries : List (List UInt8 × (Except SocketError Nat × List UInt8))) :
    List UInt8 :=
  entries.flatMap fun entry => entry.2.2

section Loops

variable {Setup Handle : Type} {adapter : SocketAdapter Setup Handle}

theorem writeAll_drained (h : adapter.Lawful) (buf : List UInt8)
    (socket : Socket Handle) :
    ∃ result,
      ((writeAll buf).run (Socket.send adapter) socket).result =
        some result ∧
      Drained id (.tee .generic) buf
        ((writeAll buf).run (Socket.send adapter) socket).transcript
        result := by
  induction hlength : buf.length using Nat.strongRecOn
    generalizing buf socket with
  | _ length ih =>
      rw [writeAll]
      split_ifs with hempty
      · rw [List.isEmpty_iff.mp hempty]
        exact ⟨_, rfl, .done⟩
      · have hbuf : buf ≠ [] := fun heq => hempty (by rw [heq]; rfl)
        rw [Dialogue.run]
        dsimp only
        cases hanswer : (Socket.send adapter buf socket).1 with
        | error error => exact ⟨_, rfl, .refused hbuf rfl⟩
        | ok n =>
            cases n with
            | zero => exact ⟨_, rfl, .stuck hbuf rfl⟩
            | succ n =>
                have hle : n + 1 ≤ buf.length :=
                  h.send_le socket.handle buf socket.sendTimeout _ hanswer
                dsimp only
                rw [if_pos hle]
                obtain ⟨result, hresult, hrest⟩ := ih (buf.drop (n + 1)).length
                  (by rw [List.length_drop]; omega) (buf.drop (n + 1))
                  (Socket.send adapter buf socket).2 rfl
                exact ⟨result, hresult, .step rfl (Nat.succ_pos n) hle hrest⟩

theorem overlay_start {buf chunk : List UInt8}
    (h : chunk.length ≤ buf.length) :
    overlay buf 0 (chunk.take buf.length) =
      chunk ++ buf.drop chunk.length := by
  rw [List.take_of_length_le h, overlay, List.take_zero, List.nil_append,
    Nat.zero_add]

theorem readRest_drained (h : adapter.Lawful) (filled buf : List UInt8)
    (socket : Socket Handle) :
    let outcome := (readRest filled buf).run (Socket.recv adapter) socket
    ∃ result, outcome.result.1 = some result ∧
      Drained Prod.fst (.tee .generic) buf outcome.transcript result ∧
      (received outcome.transcript).length =
        (drained Prod.fst outcome.transcript).length ∧
      outcome.result.2 = filled ++ (received outcome.transcript ++
        buf.drop (received outcome.transcript).length) := by
  induction hlength : buf.length using Nat.strongRecOn
    generalizing filled buf socket with
  | _ length ih =>
      rw [readRest]
      split_ifs with hempty
      · rw [List.isEmpty_iff.mp hempty]
        exact ⟨_, rfl, .done, rfl, rfl⟩
      · have hbuf : buf ≠ [] := fun heq => hempty (by rw [heq]; rfl)
        rw [Dialogue.run]
        dsimp only
        cases hanswer : (Socket.recv adapter buf socket).1.1 with
        | error error =>
            have hchunk : (Socket.recv adapter buf socket).1.2 = [] :=
              h.recv_error socket.handle buf socket.recvTimeout _ hanswer
            refine ⟨_, rfl, .refused hbuf hanswer, ?_, ?_⟩
            · simp [Dialogue.run, received, drained, hchunk, hanswer]
            · simp [Dialogue.run, received, hchunk, overlay]
        | ok n =>
            obtain ⟨hle, hchunk⟩ :
                n ≤ buf.length ∧
                  (Socket.recv adapter buf socket).1.2.length = n :=
              h.recv_ok socket.handle buf socket.recvTimeout _ hanswer
            rw [overlay_start (by omega), hchunk]
            cases n with
            | zero =>
                have hnone := List.length_eq_zero_iff.mp hchunk
                simp only [hnone, List.nil_append, List.drop_zero, readEnd,
                  if_neg hempty, Dialogue.run]
                refine ⟨_, rfl, .stuck hbuf hanswer, ?_, ?_⟩
                · simp [received, drained, hnone, hanswer]
                · simp [received, hnone]
            | succ n =>
                dsimp only
                rw [if_pos hle, List.take_left' hchunk, List.drop_left' hchunk]
                obtain ⟨result, hresult, hrest, hsame, hcontents⟩ :=
                  ih (buf.drop (n + 1)).length
                    (by rw [List.length_drop]; omega)
                    (filled ++ (Socket.recv adapter buf socket).1.2)
                    (buf.drop (n + 1)) (Socket.recv adapter buf socket).2 rfl
                refine ⟨result, hresult,
                  .step hanswer (Nat.succ_pos n) hle hrest, ?_, ?_⟩
                · rw [received, drained, List.flatMap_cons, List.flatMap_cons,
                    List.length_append, List.length_append, ← received,
                    ← drained, hsame, hchunk, hanswer, List.length_take,
                    Nat.min_eq_left hle]
                · rw [hcontents, received, received, List.flatMap_cons,
                    List.length_append, hchunk, List.drop_drop]
                  simp only [List.append_assoc]

end Loops

/--
What the calls of a loop add up to: `moved` is what they have moved and
`whole` what they should move.
-/
structure LoopAccount {Answer : Type} (count : Answer → Except SocketError Nat)
    (buf : List UInt8) (entries : List (List UInt8 × Answer))
    (result : Except SocketError Unit) (moved whole : List UInt8) : Prop where
  calls : entries.length ≤ buf.length
  complete : result = .ok () ↔ moved = whole
  part : ∀ error, result = .error error → moved <+: whole ∧ moved ≠ whole
  last : ∀ error, result = .error error →
    ∃ before last, entries = before ++ [last] ∧
      (∀ entry ∈ before, Advances count entry.2) ∧
      (count last.2 = .error error ∨
        count last.2 = .ok 0 ∧ error = .tee .generic)
  refused : ∀ entry ∈ entries, ∀ error, count entry.2 = .error error →
    result = .error error
  stalled : ∀ entry ∈ entries, count entry.2 = .ok 0 →
    entry.1 ≠ [] ∧ result = .error (.tee .generic)

theorem LoopAccount.of_drained {Answer : Type}
    {count : Answer → Except SocketError Nat} {buf : List UInt8}
    {entries : List (List UInt8 × Answer)} {result : Except SocketError Unit}
    {moved whole : List UInt8}
    (h : Drained count (.tee .generic) buf entries result)
    (hmoved : moved <+: whole)
    (hwhole : moved = whole ↔ drained count entries = buf) :
    LoopAccount count buf entries result moved whole where
  calls := h.length_le
  complete := h.ok_iff.trans hwhole.symm
  part error herror := by
    subst herror
    exact ⟨hmoved, fun heq => h.part_of_error.2 (hwhole.mp heq)⟩
  last error herror := by
    subst herror
    obtain ⟨before, last, hentries, hbefore, hlast⟩ := h.failed_last
    refine ⟨before, last, hentries, hbefore, hlast.imp_right ?_⟩
    rintro ⟨hzero, -, rfl⟩
    exact ⟨hzero, rfl⟩
  refused entry hentry error herror := h.of_error hentry herror
  stalled entry hentry hzero := h.of_stuck hentry hzero

theorem LoopAccount.of_received {buf contents : List UInt8}
    {entries : List (List UInt8 × (Except SocketError Nat × List UInt8))}
    {result : Except SocketError Unit}
    (h : Drained Prod.fst (.tee .generic) buf entries result)
    (hsame : (received entries).length = (drained Prod.fst entries).length)
    (hcontents : contents =
      received entries ++ buf.drop (received entries).length) :
    LoopAccount Prod.fst buf entries result (received entries) contents ∧
      contents.length = buf.length ∧
      contents.drop (received entries).length =
        buf.drop (received entries).length := by
  obtain ⟨left, hleft, -⟩ := h.drained_append
  have hlength := congrArg List.length hleft
  rw [List.length_append] at hlength
  subst hcontents
  refine ⟨.of_drained h (List.prefix_append _ _) ?_, ?_, List.drop_left ..⟩
  · rw [List.self_eq_append_right, List.drop_eq_nil_iff, hsame]
    constructor
    · intro hle
      have hnone : left = [] := List.length_eq_zero_iff.mp (by omega)
      rwa [hnone, List.append_nil] at hleft
    · intro heq
      exact Nat.le_of_eq (congrArg List.length heq.symm)
  · rw [List.length_append, List.length_drop]
    omega

theorem whole_buffer_loops {Setup Handle : Type}
    (adapter : SocketAdapter Setup Handle) (h : adapter.Lawful)
    (buf : List UInt8) (socket : Socket Handle) :
    let write := (writeAll buf).run (Socket.send adapter) socket
    let read := (readExact buf).run (Socket.recv adapter) socket
    (∃ result, write.result = some result ∧
      LoopAccount id buf write.transcript result
        (drained id write.transcript) buf) ∧
    (∃ result, read.result.1 = some result ∧
      LoopAccount Prod.fst buf read.transcript result
        (received read.transcript) read.result.2 ∧
      read.result.2.length = buf.length ∧
      read.result.2.drop (received read.transcript).length =
        buf.drop (received read.transcript).length) ∧
    (buf = [] → write.transcript = [] ∧ read.transcript = []) := by
  intro write read
  obtain ⟨written, hwritten, hwrite⟩ := writeAll_drained h buf socket
  obtain ⟨taken, htaken, hread, hsame, hcontents⟩ :=
    readRest_drained h [] buf socket
  obtain ⟨rest, hrest, -⟩ := hwrite.drained_append
  refine ⟨⟨written, hwritten, .of_drained hwrite ⟨rest, hrest⟩ Iff.rfl⟩,
    ⟨taken, htaken, LoopAccount.of_received hread hsame hcontents⟩, ?_⟩
  rintro rfl
  exact ⟨List.length_eq_zero_iff.mp (Nat.le_zero.mp hwrite.length_le),
    List.length_eq_zero_iff.mp (Nat.le_zero.mp hread.length_le)⟩

def bytewiseAdapter : SocketAdapter Unit Unit where
  «open» := fun _ => .ok ()
  send := fun _ buf _ => (.ok (min 1 buf.length), ())
  recv := fun _ buf _ =>
    ((.ok (min 1 buf.length), List.replicate (min 1 buf.length) 9), ())

theorem bytewiseAdapter_lawful : bytewiseAdapter.Lawful where
  send_le := by
    intro handle buf timeout n h
    have := Except.ok.inj h
    omega
  recv_ok := by
    intro handle buf timeout n h
    have := Except.ok.inj h
    simp only [bytewiseAdapter, List.length_replicate]
    omega
  recv_error := by
    intro handle buf timeout error h
    cases h

theorem bytewiseAdapter_loops :
    let read :=
      (readExact [1, 2]).run (Socket.recv bytewiseAdapter) ⟨(), 0, 0⟩
    ∃ result, read.result.1 = some result ∧ read.transcript.length ≤ 2 := by
  obtain ⟨-, ⟨result, hresult, haccount, -⟩, -⟩ :=
    whole_buffer_loops bytewiseAdapter bytewiseAdapter_lawful [1, 2] ⟨(), 0, 0⟩
  exact ⟨result, hresult, haccount.calls⟩

end TrustZoneSdk.Utee
