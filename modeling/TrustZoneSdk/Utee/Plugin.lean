import TrustZoneSdk.Foundation.ByteMemory
import TrustZoneSdk.Utee.Error

/-!
# Calling a plugin from a TA

A command collects its request in a byte vector and shares all of the
allocation with the plugin, so the room for the response is the capacity that
the allocator granted and not what was asked for or written.
-/

namespace TrustZoneSdk.Utee

/--
The capacity that a vector gets when its present one does not do.  None is an
allocation that fails, which ends the TA.
-/
structure VecAllocator where
  grant : (capacity required : Nat) → Option Nat
  enough : ∀ {capacity required granted},
    grant capacity required = some granted → required ≤ granted

structure ByteVec where
  bytes : List UInt8
  capacity : Nat
  fits : bytes.length ≤ capacity
  deriving DecidableEq, Repr

namespace ByteVec

def withCapacity (allocator : VecAllocator) (capacity : Nat) :
    Option ByteVec :=
  (allocator.grant 0 capacity).map fun granted => ⟨[], granted, by simp⟩

def extendFromSlice (allocator : VecAllocator) (self : ByteVec)
    (data : List UInt8) : Option ByteVec :=
  if hroom : self.bytes.length + data.length ≤ self.capacity then
    some ⟨self.bytes ++ data, self.capacity, by simpa using hroom⟩
  else
    match hgrant : allocator.grant self.capacity
        (self.bytes.length + data.length) with
    | some granted =>
        some ⟨self.bytes ++ data, granted,
          by simpa using allocator.enough hgrant⟩
    | none => none

end ByteVec

def resize (bytes : List UInt8) (length : Nat) (value : UInt8) :
    List UInt8 :=
  bytes.take length ++ List.replicate (length - bytes.length) value

structure LoadablePlugin where
  uuid : BitVec 128
  deriving DecidableEq, Repr

structure LoadablePluginCommand where
  plugin : LoadablePlugin
  cmdId : UInt32
  subCmdId : UInt32
  buffer : ByteVec
  deriving DecidableEq, Repr

structure SuppReply where
  code : TeeResult
  buf : List UInt8
  outlen : Nat
  deriving DecidableEq, Repr

/-- `tee_invoke_supp_plugin`; none when it does not return. -/
abbrev SuppPlugin :=
  (uuid : BitVec 128) → (cmd subCmd : UInt32) → (buf : List UInt8) →
    (outlen : Nat) → Option SuppReply

namespace LoadablePluginCommand

def newWithCapacity (allocator : VecAllocator) (plugin : LoadablePlugin)
    (cmdId subCmdId : UInt32) (capacity : Nat) :
    Option LoadablePluginCommand := do
  return ⟨plugin, cmdId, subCmdId, ← ByteVec.withCapacity allocator capacity⟩

def writeBody (allocator : VecAllocator) (self : LoadablePluginCommand)
    (data : List UInt8) : Option LoadablePluginCommand := do
  return { self with buffer := ← self.buffer.extendFromSlice allocator data }

/-- The buffer that `call` shares: the vector, resized to its capacity. -/
def shared (self : LoadablePluginCommand) : List UInt8 :=
  resize self.buffer.bytes self.buffer.capacity 0

def call (invokeSuppPlugin : SuppPlugin) (self : LoadablePluginCommand) :
    Option (Except Error (List UInt8)) := do
  let reply ← invokeSuppPlugin self.plugin.uuid self.cmdId self.subCmdId
    self.shared 0
  match teeCheck reply.code with
  | .error error => return .error error
  | .ok () =>
      if reply.buf.length < reply.outlen then
        return .error (Error.new .shortBuffer)
      else
        return .ok (resize reply.buf reply.outlen 0)

end LoadablePluginCommand

namespace LoadablePlugin

def invokeWithCapacity (allocator : VecAllocator) (self : LoadablePlugin)
    (commandId subcommandId : UInt32) (capacity : Nat) :
    Option LoadablePluginCommand :=
  LoadablePluginCommand.newWithCapacity allocator self commandId subcommandId
    capacity

def prepare (allocator : VecAllocator) (self : LoadablePlugin)
    (commandId subcommandId : UInt32) (capacity : Nat)
    (chunks : List (List UInt8)) : Option LoadablePluginCommand := do
  let command ← self.invokeWithCapacity allocator commandId subcommandId
    capacity
  chunks.foldlM (LoadablePluginCommand.writeBody allocator) command

def invoke (allocator : VecAllocator) (invokeSuppPlugin : SuppPlugin)
    (self : LoadablePlugin) (commandId subcommandId : UInt32)
    (data : List UInt8) : Option (Except Error (List UInt8)) := do
  let command ← self.invokeWithCapacity allocator commandId subcommandId
    data.length
  (← command.writeBody allocator data).call invokeSuppPlugin

theorem invoke_eq_prepare (allocator : VecAllocator)
    (invokeSuppPlugin : SuppPlugin) (self : LoadablePlugin)
    (commandId subcommandId : UInt32) (data : List UInt8) :
    self.invoke allocator invokeSuppPlugin commandId subcommandId data =
      (self.prepare allocator commandId subcommandId data.length
        [data]).bind (LoadablePluginCommand.call invokeSuppPlugin) := by
  simp [invoke, prepare, Option.bind_assoc]

end LoadablePlugin

/-! ## What is shared -/

namespace LoadablePluginCommand

variable {allocator : VecAllocator} {self next : LoadablePluginCommand}
  {data : List UInt8}

/-- A command that holds what was written and has room for `capacity`. -/
structure Holds (command : LoadablePluginCommand) (plugin : LoadablePlugin)
    (cmdId subCmdId : UInt32) (capacity : Nat) (request : List UInt8) :
    Prop where
  plugin : command.plugin = plugin
  cmdId : command.cmdId = cmdId
  subCmdId : command.subCmdId = subCmdId
  room : capacity ≤ command.buffer.capacity
  written : command.buffer.bytes = request

variable {plugin : LoadablePlugin} {cmdId subCmdId : UInt32} {capacity : Nat}
  {request : List UInt8}

theorem holds_newWithCapacity
    (h : newWithCapacity allocator plugin cmdId subCmdId capacity =
      some self) :
    self.Holds plugin cmdId subCmdId capacity [] := by
  simp only [newWithCapacity, ByteVec.withCapacity, Option.bind_eq_bind,
    Option.bind_eq_some_iff, Option.map_eq_some_iff, Option.pure_def,
    Option.some.injEq] at h
  obtain ⟨buffer, ⟨granted, hgrant, rfl⟩, rfl⟩ := h
  exact ⟨rfl, rfl, rfl, allocator.enough hgrant, rfl⟩

theorem capacity_le_extend {buffer extended : ByteVec}
    (h : buffer.extendFromSlice allocator data = some extended) :
    buffer.capacity ≤ extended.capacity ∧
      extended.bytes = buffer.bytes ++ data := by
  unfold ByteVec.extendFromSlice at h
  split at h
  · obtain rfl := Option.some.inj h
    exact ⟨Nat.le_refl _, rfl⟩
  · split at h
    · next hroom granted hgrant =>
        obtain rfl := Option.some.inj h
        have henough := allocator.enough hgrant
        have hfits := buffer.fits
        exact ⟨show buffer.capacity ≤ granted by omega, rfl⟩
    · cases h

theorem holds_writeBody
    (h : self.Holds plugin cmdId subCmdId capacity request)
    (hwrite : self.writeBody allocator data = some next) :
    next.Holds plugin cmdId subCmdId capacity (request ++ data) := by
  simp only [writeBody, Option.bind_eq_bind, Option.bind_eq_some_iff,
    Option.pure_def, Option.some.injEq] at hwrite
  obtain ⟨buffer, hextend, rfl⟩ := hwrite
  obtain ⟨hroom, hbytes⟩ := capacity_le_extend hextend
  exact ⟨h.plugin, h.cmdId, h.subCmdId, Nat.le_trans h.room hroom,
    by rw [hbytes, h.written]⟩

theorem holds_foldlM {chunks : List (List UInt8)}
    (h : self.Holds plugin cmdId subCmdId capacity request)
    (hwrite : chunks.foldlM (writeBody allocator) self = some next) :
    next.Holds plugin cmdId subCmdId capacity
      (request ++ chunks.flatten) := by
  induction chunks generalizing self request with
  | nil =>
      obtain rfl := Option.some.inj hwrite
      simpa using h
  | cons chunk chunks ih =>
      rw [List.foldlM_cons] at hwrite
      obtain ⟨middle, hfirst, hrest⟩ := Option.bind_eq_some_iff.mp hwrite
      have hchunks := ih (holds_writeBody h hfirst) hrest
      simpa using hchunks

theorem holds_prepare {chunks : List (List UInt8)}
    (h : plugin.prepare allocator cmdId subCmdId capacity chunks =
      some self) :
    self.Holds plugin cmdId subCmdId capacity chunks.flatten := by
  obtain ⟨command, hnew, hwrite⟩ := Option.bind_eq_some_iff.mp h
  exact holds_foldlM (holds_newWithCapacity hnew) hwrite

theorem Holds.shared_eq
    (h : self.Holds plugin cmdId subCmdId capacity request) :
    self.shared = request ++
      List.replicate (self.buffer.capacity - request.length) 0 := by
  have hfits := self.buffer.fits
  rw [shared, resize, ← h.written, List.take_of_length_le hfits]

theorem Holds.length_shared
    (h : self.Holds plugin cmdId subCmdId capacity request) :
    max capacity request.length ≤ self.shared.length := by
  have hfits := self.buffer.fits
  have hroom := h.room
  rw [h.written] at hfits
  rw [h.shared_eq, List.length_append, List.length_replicate]
  omega

end LoadablePluginCommand

end TrustZoneSdk.Utee
