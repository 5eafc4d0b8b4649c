import TrustZoneSdk.Utee.Slot

/-!
# Bounds of the memory reference wrappers

Whatever calls are made on a decoded output or in/out buffer, memory outside
the size the host supplied is neither read nor written, that size stays the
bound of every later call, and the size reported back is the last one a call
succeeded with.
-/

namespace TrustZoneSdk.Utee

open TrustZoneSdk.Foundation

variable {width : PointerWidth}

namespace SlotOp

def offered (direction : Direction) : SlotOp → Bool
  | bufferLen => true
  | readToVec => direction.reads
  | readAt _ _ => direction.reads
  | setUpdatedSize _ => direction.writes
  | setOutput _ => direction.writes
  | writeAt _ _ => direction.writes
  | _ => false

def Exceeds (length : Nat) : SlotOp → Prop
  | readAt offset _ => length < offset
  | setUpdatedSize size => length < size
  | setOutput data => length < data.length
  | writeAt offset data => length < offset + data.length
  | _ => False

end SlotOp

/-- What one call does in a state that a run has reached. -/
structure CallContract (direction : Direction) (raw : RawParam width)
    (wrapper : ParameterAny) (state : SlotState width) : Prop where
  bufferLen : (wrapper.serve .bufferLen state).1 = .length raw.size
  fails_iff : ∀ op : SlotOp, op.offered direction = true →
    ((∃ error, (wrapper.serve op state).1 = .failed error) ↔
      op.Exceeds raw.size)
  failure_keeps : ∀ op error, (wrapper.serve op state).1 = .failed error →
    (wrapper.serve op state).2.raw.size = state.raw.size ∧
      (wrapper.serve op state).2.memory.bytes = state.memory.bytes
  readAt : direction.reads = true → ∀ offset dest, offset ≤ raw.size →
    (wrapper.serve (.readAt offset dest) state).1 =
      .read (min dest.length (raw.size - offset))
        (overlay dest 0 (readBytes state.memory.bytes (raw.buffer + offset)
          (min dest.length (raw.size - offset))))
  readToVec : direction.reads = true →
    (wrapper.serve .readToVec state).1 =
      .bytes (readBytes state.memory.bytes raw.buffer raw.size)

/-- What any calls leave behind, and what the next one will do. -/
structure MemrefContract {Result : Type} (direction : Direction)
    (raw : RawParam width) (memory : Memory) (wrapper : ParameterAny)
    (outcome : Outcome SlotOp SlotAnswer Result (SlotState width)) :
    Prop where
  confined : Memory.Confined raw.buffer raw.size raw.size memory
    outcome.state.memory
  reported : outcome.state.raw.size =
    latest (SlotOp.ifDone SlotOp.reports) raw.size outcome.transcript
  reported_le : outcome.state.raw.size ≤ raw.size
  contents : readBytes outcome.state.memory.bytes raw.buffer raw.size =
    outcome.transcript.foldl written
      (readBytes memory.bytes raw.buffer raw.size)
  next : CallContract direction raw wrapper outcome.state

/-! ## The abstract buffer -/

section AbstractBuffer

variable {direction : Direction} {contents : List UInt8} {reported : Nat}

theorem memref_fails_iff {op : SlotOp} (hoffered : op.offered direction = true) :
    (∃ error, ((Slot.memref direction contents reported).serve op).1 =
      .failed error) ↔ op.Exceeds contents.length := by
  cases op with
  | bufferLen => simp [Slot.serve, SlotOp.Exceeds]
  | readToVec =>
      have hreads : direction.reads = true := hoffered
      simp [Slot.serve, SlotOp.Exceeds, hreads]
  | readAt offset dest =>
      have hreads : direction.reads = true := hoffered
      by_cases hlong : contents.length < offset
      · simp [Slot.serve, SlotOp.Exceeds, hreads, hlong]
      · simp [Slot.serve, SlotOp.Exceeds, hreads, hlong]
  | setUpdatedSize size =>
      have hwrites : direction.writes = true := hoffered
      by_cases hlong : contents.length < size
      · simp [Slot.serve, SlotOp.Exceeds, hwrites, hlong]
      · simp [Slot.serve, SlotOp.Exceeds, hwrites, hlong]
  | setOutput data =>
      have hwrites : direction.writes = true := hoffered
      by_cases hlong : contents.length < data.length
      · simp [Slot.serve, Slot.store, SlotOp.Exceeds, hwrites, hlong]
      · simp [Slot.serve, Slot.store, SlotOp.Exceeds, hwrites, hlong]
  | writeAt offset data =>
      have hwrites : direction.writes = true := hoffered
      by_cases hlong : contents.length < offset + data.length
      · simp [Slot.serve, Slot.store, SlotOp.Exceeds, hwrites, hlong]
      · simp [Slot.serve, Slot.store, SlotOp.Exceeds, hwrites, hlong]
  | getA => cases hoffered
  | getB => cases hoffered
  | setA a => cases hoffered
  | setB b => cases hoffered

end AbstractBuffer

/-! ## The contract of the wrappers -/

def hostSlot (direction : Direction) (raw : RawParam width)
    (memory : Memory) : Slot :=
  .memref direction (readBytes memory.bytes raw.buffer raw.size) raw.size

theorem hostSlot_held (direction : Direction) (raw : RawParam width)
    (memory : Memory) :
    (hostSlot direction raw memory).Held raw.buffer ⟨raw, memory⟩ where
  buffer := rfl
  size := rfl
  reported_le := by simp
  representable := by simpa using raw.size_lt
  whole := by simp
  bytes := by simp

theorem Simulated.bytes_eq {address : Nat} {direction : Direction}
    {contents : List UInt8} {reported : Nat} {op : SlotOp}
    {state : SlotState width} {reply : SlotAnswer × SlotState width}
    (h : Simulated address (.memref direction contents reported) op state reply)
    (hheld : MemrefHeld address direction contents reported state)
    (hanswer : reply.1 ≠ .done) :
    reply.2.raw.size = state.raw.size ∧
      reply.2.memory.bytes = state.memory.bytes := by
  have hkept := h.held
  rw [(Slot.serve_effect op _).keeps (by rw [← h.answer]; exact hanswer)] at hkept
  refine ⟨by rw [hkept.size, hheld.size], ?_⟩
  funext target
  by_cases hinside : address ≤ target ∧ target < address + contents.length
  · have hbytes : (readBytes reply.2.memory.bytes address
        contents.length)[target - address]? =
          (readBytes state.memory.bytes address
            contents.length)[target - address]? := by
      rw [hkept.bytes, hheld.bytes]
    have hindex : target - address < contents.length := by omega
    have htarget : address + (target - address) = target := by omega
    rw [getElem?_readBytes, getElem?_readBytes, if_pos hindex, if_pos hindex,
      htarget] at hbytes
    exact Option.some.inj hbytes
  · have hwritable : (Slot.memref direction contents reported).writable ≤
        contents.length := by
      simp only [Slot.writable]
      split <;> omega
    exact h.confined.bytes target (by omega)

theorem MemrefHeld.callContract {direction : Direction} {raw : RawParam width}
    {contents : List UInt8} {reported : Nat} {state : SlotState width}
    (hheld : MemrefHeld raw.buffer direction contents reported state)
    (hlength : contents.length = raw.size) :
    CallContract direction raw
      (Slot.memref direction contents reported).wrapper state := by
  have hserve : ∀ op, Simulated raw.buffer
      (.memref direction contents reported) op state
      ((Slot.memref direction contents reported).wrapper.serve op state) :=
    fun op => Slot.serve_simulated (.memref direction contents reported) hheld op
  refine ⟨?_, ?_, ?_, ?_, ?_⟩
  · rw [(hserve .bufferLen).answer, ← hlength]
    rfl
  · intro op hoffered
    rw [(hserve op).answer, ← hlength]
    exact memref_fails_iff hoffered
  · intro op error hfailed
    exact (hserve op).bytes_eq hheld (by simp [hfailed])
  · intro hreads offset dest hoffset
    have hbound : offset + min dest.length (raw.size - offset) ≤
        contents.length := by omega
    have hfits : ¬ raw.size < offset := by omega
    have hbytes : readBytes state.memory.bytes (raw.buffer + offset)
        (min dest.length (raw.size - offset)) =
          (contents.drop offset).take dest.length := by
      rw [readBytes_sub _ hbound, hheld.bytes, List.take_eq_take_iff]
      simp [hlength]
    rw [(hserve (.readAt offset dest)).answer, hbytes]
    simp [Slot.serve, hreads, hfits, hlength]
  · intro hreads
    rw [(hserve .readToVec).answer, ← hlength, hheld.bytes]
    simp [Slot.serve, hreads]

/--
Every run of calls on a decoded output or in/out buffer keeps the contract of
its wrapper, at any non-null address and for any size the host supplied.
-/
theorem memref_wrapper_keeps_bounds {Result : Type} {direction : Direction}
    (hwrites : direction.writes = true) {raw : RawParam width}
    (hbuffer : raw.buffer ≠ 0) (memory : Memory)
    (calls : Dialogue SlotOp SlotAnswer Result) :
    ∃ wrapper, ParameterAny.fromRaw direction.memrefType.intoPrimitive raw =
        .ok wrapper ∧
      MemrefContract direction raw memory wrapper
        (calls.run wrapper.serve ⟨raw, memory⟩) := by
  have hheld := hostSlot_held direction raw memory
  have hdecoded : ParameterAny.fromRaw direction.memrefType.intoPrimitive raw =
      .ok (hostSlot direction raw memory).wrapper :=
    Slot.fromRaw_eq_wrapper hheld ⟨hbuffer, by simp⟩
  refine ⟨_, hdecoded, ?_⟩
  obtain ⟨htranscript, -, htracks⟩ := calls.run_related
    (fun op _ _ htracks => htracks.serve op) (Tracks.start hheld)
  obtain ⟨contents, reported, hslot, hlength⟩ := htracks.shape.eq_memref
  rw [length_readBytes] at hlength
  have hfinal := htracks.held
  rw [hslot] at hfinal
  have hreported := Slot.run_reported calls (hostSlot direction raw memory)
  have hcontents := Slot.run_contents calls (hostSlot direction raw memory)
  rw [hslot, ← htranscript] at hreported hcontents
  have hcall := hfinal.callContract hlength
  rw [← hslot, htracks.shape.wrapper] at hcall
  refine ⟨?_, ?_, ?_, ?_, hcall⟩
  · have hconfined := htracks.confined
    simp only [hostSlot, Slot.extent, Slot.writable, hwrites, if_true,
      length_readBytes] at hconfined
    exact hconfined
  · rw [hfinal.size]
    exact hreported
  · rw [hfinal.size, ← hlength]
    exact hfinal.reported_le
  · have hbytes := hfinal.bytes
    rw [hlength] at hbytes
    exact hbytes.trans hcontents

def shrinkThenWrite : Dialogue SlotOp SlotAnswer Unit :=
  .ofList [.setUpdatedSize 1, .writeAt 2 [8, 9], .writeAt 3 [1, 1],
    .readAt 1 [0, 0, 0, 0]] ()

theorem shrinkThenWrite_keeps_bounds :
    (RawParam.ofMemref .aarch64 0x1000 4).buffer ≠ 0 ∧
      ∃ wrapper, ParameterAny.fromRaw Direction.inout.memrefType.intoPrimitive
          (RawParam.ofMemref .aarch64 0x1000 4) = .ok wrapper ∧
        MemrefContract .inout (RawParam.ofMemref .aarch64 0x1000 4)
          ⟨fun _ => 7, []⟩ wrapper
          (shrinkThenWrite.run wrapper.serve
            ⟨RawParam.ofMemref .aarch64 0x1000 4, ⟨fun _ => 7, []⟩⟩) := by
  have hbuffer : (RawParam.ofMemref .aarch64 0x1000 4).buffer ≠ 0 := by
    rw [RawParam.buffer_ofMemref (by decide)]
    decide
  exact ⟨hbuffer, memref_wrapper_keeps_bounds rfl hbuffer ⟨fun _ => 7, []⟩
    shrinkThenWrite⟩

end TrustZoneSdk.Utee
