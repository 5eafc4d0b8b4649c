import TrustZoneSdk.EthWallet.Wallets
import TrustZoneSdk.Boundary.Operation
import TrustZoneSdk.Teec.Error

/-!
# The host of the Ethereum wallet

The host serializes its arguments, offers 1024 bytes for the reply and decodes
what the TA has put there.  If nothing is lost between the two sides, the host
works on a map of wallets.
-/

namespace TrustZoneSdk.EthWallet

open TrustZoneSdk.Foundation
open TrustZoneSdk.SecureDb
open TrustZoneSdk.Utee

/-! ## A call -/

def outputMaxSize : Nat := 1024

def hostBuilt {width : PointerWidth} (source target : ByteSlice width) :
    ParamIndex → Teec.Built width :=
  ArgIndex.tuple (.input source) (.output target) .none .none

theorem hostBuilt_tagged {width : PointerWidth}
    (source target : ByteSlice width) :
    Boundary.ValuesTagged (hostBuilt source target) := by
  intro i a b paramType hbuilt
  cases i <;> cases hbuilt

/-- The host's operation with this input, and the TA's copy of it. -/
structure Delivery (width : PointerWidth) (input : Bytes) where
  clientWidth : PointerWidth
  source : ByteSlice clientWidth
  target : ByteSlice clientWidth
  memory : Memory
  uninit : ParamIndex → Teec.RawParameter clientWidth
  rawTypes : BitVec 32
  call : CallState width
  given : readBytes memory.bytes source.address source.length = input
  offered : target.length = outputMaxSize
  delivered : Boundary.Delivered (Teec.Operation.ofBuilt uninit 0
    (hostBuilt source target)) memory rawTypes call

/-- What happens around a call that the host does not decide. -/
structure Exchange (width : PointerWidth) where
  deliver : (input : Bytes) → Except Teec.Error (Delivery width input)
  order : IterationOrder String
  draw : Draw
  schedule : List Verdict

inductive HostError where
  | teec (error : Teec.Error)
  | bincode (message : String)
  | sliceIndex
  deriving DecidableEq

abbrev HostM (α : Type) := Fallible HostError Tee α

namespace Host

variable {width : PointerWidth} (libraries : Libraries) (formats : Formats)
  (codec : KeyListCodec)

def trustedAppOrigin : UInt32 := 4

def received (call : CallState width) : Bytes :=
  overlay (List.replicate outputMaxSize 0) 0
    (readBytes call.memory.bytes (call.raws .arg1).buffer
      (call.raws .arg1).size)

def conclude : Run Empty (Invocation width) TeeResult → Run HostError Tee Bytes
  | .error _ final => .error .killed final.tee
  | .ok code final =>
      let output := received final.call
      let outputLen := (final.call.raws .arg1).size
      -- The slice of the buffer is taken whether or not the command failed.
      if outputLen ≤ output.length then
        match Teec.teecCheckWithOrigin code trustedAppOrigin with
        | .ok () => .ok (output.take outputLen) final.tee
        | .error error => .error (.failed (.teec error)) final.tee
      else .error (.failed .sliceIndex) final.tee

def invokeCommand (exchange : Exchange width) (command : Command)
    (input : Bytes) : HostM Bytes := fun tee =>
  match exchange.deliver input with
  -- Opening a session may fail, and so may carrying the operation over.
  | .error error => .error (.failed (.teec error)) tee
  | .ok delivery =>
      conclude ((invokeCommandEntryPoint libraries formats codec exchange.order
        exchange.draw command.intoPrimitive delivery.rawTypes).run
          ⟨delivery.call, tee⟩)

def fromBincode {α : Type} (result : Except String α) : HostM α :=
  Fallible.ofExcept (result.mapError .bincode)

def createWallet (exchange : Exchange width) : HostM Uuid := do
  let serializedOutput ←
    invokeCommand libraries formats codec exchange .createWallet []
  let output ←
    fromBincode (formats.createWalletOutput.deserialize serializedOutput)
  return output.walletId

def removeWallet (exchange : Exchange width) (walletId : Uuid) :
    HostM Unit := do
  let serializedInput ←
    fromBincode (formats.removeWalletInput.serialize ⟨walletId⟩)
  let _ ← invokeCommand libraries formats codec exchange .removeWallet
    serializedInput

def deriveAddress (exchange : Exchange width) (walletId : Uuid)
    (hdPath : String) : HostM Address := do
  let serializedInput ←
    fromBincode (formats.deriveAddressInput.serialize ⟨walletId, hdPath⟩)
  let serializedOutput ← invokeCommand libraries formats codec exchange
    .deriveAddress serializedInput
  let output ←
    fromBincode (formats.deriveAddressOutput.deserialize serializedOutput)
  return output.address

end Host

/-- The transaction that the arguments of `sign_transaction` make. -/
structure Transfer where
  chainId : UInt64
  nonce : BitVec 128
  «to» : Address
  value : BitVec 128
  gasPrice : BitVec 128
  gas : BitVec 128
  deriving DecidableEq

def Transfer.transaction (transfer : Transfer) : EthTransaction where
  chainId := transfer.chainId
  nonce := transfer.nonce
  «to» := some transfer.to
  value := transfer.value
  gasPrice := transfer.gasPrice
  gas := transfer.gas
  data := []

def Host.signTransaction {width : PointerWidth} (libraries : Libraries)
    (formats : Formats) (codec : KeyListCodec) (exchange : Exchange width)
    (walletId : Uuid) (hdPath : String) (transfer : Transfer) :
    HostM Bytes := do
  let serializedInput ← fromBincode (formats.signTransactionInput.serialize
    ⟨walletId, hdPath, transfer.transaction⟩)
  let serializedOutput ← invokeCommand libraries formats codec exchange
    .signTransaction serializedInput
  let output ←
    fromBincode (formats.signTransactionOutput.deserialize serializedOutput)
  return output.signature

/-! ## What the host gets back -/

section Replies

variable {width : PointerWidth} {libraries : Libraries} {formats : Formats}
  {codec : KeyListCodec} {input : Bytes}

def walletSlots (input stale : Bytes) : ParamIndex → Slot :=
  ArgIndex.tuple (.memref .input input input.length)
    (.memref .output stale stale.length) .none .none

def Delivery.stale (delivery : Delivery width input) : Bytes :=
  readBytes delivery.call.memory.bytes (delivery.call.raws .arg1).buffer
    delivery.target.length

theorem Delivery.length_stale (delivery : Delivery width input) :
    delivery.stale.length = outputMaxSize :=
  (length_readBytes ..).trans delivery.offered

theorem Delivery.presents (delivery : Delivery width input) :
    Presents delivery.rawTypes delivery.call
      (fun i => (delivery.call.raws i).buffer)
      (walletSlots input delivery.stale) := by
  have hpresents := delivery.delivered.presents
    (hostBuilt_tagged delivery.source delivery.target)
  have hslots : (fun i => Boundary.clientSlot delivery.memory
      (delivery.call.slot i)
      (hostBuilt delivery.source delivery.target i)) =
        walletSlots input delivery.stale := by
    have hlength := congrArg List.length delivery.given
    rw [length_readBytes] at hlength
    funext i
    cases i with
    | arg0 =>
        simp only [walletSlots, hostBuilt, ArgIndex.tuple,
          Boundary.clientSlot, delivery.given]
        rw [hlength]
    | arg1 =>
        simp [walletSlots, hostBuilt, ArgIndex.tuple, Boundary.clientSlot,
          Delivery.stale, length_readBytes, CallState.slot]
    | arg2 => rfl
    | arg3 => rfl
  rw [hslots] at hpresents
  exact hpresents

theorem Delivery.fromRaw_eq (delivery : Delivery width input) :
    fromRaw delivery.rawTypes delivery.call.raws = .ok outputMaxSize := by
  have htag := delivery.presents.tags
  have hinput := delivery.presents.held .arg0
  have hinput' := delivery.presents.delivered .arg0
  have houtput := delivery.presents.held .arg1
  have houtput' := delivery.presents.delivered .arg1
  have hbuffer0 : (delivery.call.raws .arg0).buffer ≠ 0 :=
    hinput.buffer ▸ hinput'.1
  have hbuffer1 : (delivery.call.raws .arg1).buffer ≠ 0 :=
    houtput.buffer ▸ houtput'.1
  have hsize : (delivery.call.raws .arg1).size = outputMaxSize :=
    houtput.size.trans delivery.length_stale
  simp [fromRaw, htag, walletSlots, ArgIndex.tuple, Slot.paramType,
    ParameterMemrefInput.fromRaw, ParameterMemrefOutput.fromRaw, memrefFromRaw,
    checkTypeIs, hbuffer0, hbuffer1, hsize, bind, Except.bind, pure,
    Except.pure, Direction.memrefType]

def written (libraries : Libraries) (capacity : Nat) :
    Run WalletError Tee Bytes → Bytes
  | .ok output _ => if output.length ≤ capacity then output else []
  | .error (.failed error) _ =>
      if (asBytes (libraries.debug error)).length ≤ capacity then
        asBytes (libraries.debug error)
      else []
  | .error .killed _ => []

/-- The buffer for the reply holds `bytes`, and their number is reported. -/
structure Reports (call : CallState width) (bytes : Bytes) : Prop where
  size : (call.raws .arg1).size = bytes.length
  bytes : readBytes call.memory.bytes (call.raws .arg1).buffer bytes.length =
    bytes

theorem readBytes_store (memory : Memory) (address : Nat) (text : Bytes) :
    readBytes (memory.store address text).bytes address text.length =
      text := by
  refine (readBytes_writeBytes memory.bytes
    (Nat.le_of_eq (Nat.zero_add text.length))).trans ?_
  simp [overlay]

theorem setOutput_reports {address : Nat} {stale : Bytes}
    {call : CallState width}
    (h : MemrefHeld address .output stale 0 (call.slot .arg1)) (text : Bytes) :
    Reports (withSlot call .arg1
        (setOutput stale.length (call.slot .arg1) text).2)
      (if text.length ≤ stale.length then text else []) := by
  rw [setOutput, h.writeAt_eq, Nat.zero_add, Nat.add_zero]
  by_cases hfits : text.length ≤ stale.length
  · have hreported := h.report rfl hfits
    rw [if_neg (by omega), if_pos hfits]
    refine ⟨?_, ?_⟩
    · simpa [withSlot] using hreported.size
    · have hbuffer : ((call.slot .arg1).raw.setSize text.length).buffer =
          address := hreported.buffer
      simp only [withSlot, Function.update_self, hbuffer]
      by_cases hempty : text = []
      · subst hempty
        rfl
      · rw [if_pos hempty]
        exact readBytes_store _ _ _
  · rw [if_pos (by omega), if_neg hfits]
    refine ⟨?_, rfl⟩
    simpa [withSlot] using h.size

def cleared (delivery : Delivery width input) : CallState width :=
  withSlot delivery.call .arg1
    (setUpdatedSize outputMaxSize (delivery.call.slot .arg1) 0).2

def begun (delivery : Delivery width input) : CallState width :=
  withSlot (cleared delivery) .arg0
    (readToVec ((cleared delivery).slot .arg0).raw.size
      ((cleared delivery).slot .arg0)).2

theorem inputOf_delivery (delivery : Delivery width input) :
    inputOf delivery.call = input := by
  have hheld := delivery.presents.held .arg0
  have hsize : (delivery.call.raws .arg0).size = input.length := hheld.size
  rw [inputOf, hsize, readToVec]
  split_ifs with hempty
  · exact hheld.buffer ▸ hheld.bytes
  · obtain rfl : input = [] :=
      List.length_eq_zero_iff.mp (Decidable.not_not.mp hempty)
    rfl

theorem readToVec_bytes (bufferLen : Nat) (state : SlotState width) :
    (readToVec bufferLen state).2.memory.bytes = state.memory.bytes := by
  unfold readToVec
  split_ifs <;> rfl

theorem begun_held (delivery : Delivery width input) :
    MemrefHeld (delivery.call.raws .arg1).buffer .output delivery.stale 0
      ((begun delivery).slot .arg1) := by
  have hheld := (delivery.presents.held .arg1).report rfl (Nat.zero_le _)
  have hraw : ((begun delivery).slot .arg1).raw =
      (delivery.call.raws .arg1).setSize 0 := rfl
  have hbytes : ((begun delivery).slot .arg1).memory.bytes =
      delivery.call.memory.bytes := readToVec_bytes _ _
  refine ⟨?_, ?_, hheld.reported_le, hheld.representable, hheld.whole, ?_⟩
  · rw [hraw]
    exact hheld.buffer
  · rw [hraw]
    exact hheld.size
  · rw [hbytes]
    exact hheld.bytes

variable (libraries formats codec) in
theorem invokeCommandEntryPoint_answers (delivery : Delivery width input)
    (order : IterationOrder String) (draw : Draw) (cmdId : UInt32)
    (tee : Tee) :
    ∃ call',
      (invokeCommandEntryPoint libraries formats codec order draw cmdId
          delivery.rawTypes).run ⟨delivery.call, tee⟩ =
        answered libraries outputMaxSize call'
          ((handleInvoke libraries formats codec order draw
            (.fromPrimitive cmdId) input).run tee) ∧
      Reports call' (written libraries outputMaxSize
        ((handleInvoke libraries formats codec order draw
          (.fromPrimitive cmdId) input).run tee)) := by
  have hcapacity := fromRaw_capacity delivery.fromRaw_eq
  have hheld := begun_held delivery
  have hupdated : (setUpdatedSize outputMaxSize
      (delivery.call.slot .arg1) 0).1 = .ok () := by
    simp [setUpdatedSize]
  rw [invokeCommandEntryPoint_eq libraries formats codec order draw
    delivery.fromRaw_eq]
  simp only [invokeCommand, EStateM.run_bind, run_onSlot, hupdated,
    Fallible.run_ofExcept_ok, Fallible.run_zoom, Fallible.run_attempt]
  have hread : (readToVec ((cleared delivery).slot .arg0).raw.size
      ((cleared delivery).slot .arg0)).1 = input := inputOf_delivery delivery
  rw [← cleared, hread, ← begun]
  cases (handleInvoke libraries formats codec order draw (.fromPrimitive cmdId)
      input).run tee with
  | ok output tee' =>
      have hreports := setOutput_reports hheld output
      rw [delivery.length_stale] at hreports
      refine ⟨_, ?_, hreports⟩
      simp only [reply, EStateM.run_bind, run_onSlot, setOutput_fst hcapacity,
        answered]
      split_ifs <;> rfl
  | error halt tee' =>
      cases halt with
      | killed => exact ⟨begun delivery, rfl, hheld.size, rfl⟩
      | failed error =>
          have hreports :=
            setOutput_reports hheld (asBytes (libraries.debug error))
          rw [delivery.length_stale] at hreports
          refine ⟨_, ?_, hreports⟩
          simp only [reply, EStateM.run_bind, run_onSlot,
            setOutput_fst hcapacity, answered]
          split_ifs <;> rfl

theorem Reports.received {call : CallState width} {bytes : Bytes}
    (h : Reports call bytes) (hfits : bytes.length ≤ outputMaxSize) :
    (call.raws .arg1).size ≤ (Host.received call).length ∧
      (Host.received call).take (call.raws .arg1).size = bytes := by
  have hreceived : Host.received call =
      overlay (List.replicate outputMaxSize 0) 0 bytes := by
    rw [Host.received, h.size, h.bytes]
  have hlength : (overlay (List.replicate outputMaxSize 0) 0 bytes).length =
      outputMaxSize := by
    rw [length_overlay (by simpa using hfits), List.length_replicate]
  rw [hreceived, h.size, hlength]
  exact ⟨hfits, by simp [overlay]⟩

theorem length_written_le (capacity : Nat) (run : Run WalletError Tee Bytes) :
    (written libraries capacity run).length ≤ capacity := by
  cases run with
  | ok output tee =>
      rw [written]
      split_ifs with hfits
      · exact hfits
      · exact Nat.zero_le _
  | error halt tee =>
      cases halt with
      | killed => exact Nat.zero_le _
      | failed error =>
          rw [written]
          split_ifs with hfits
          · exact hfits
          · exact Nat.zero_le _

end Replies

/-! ## The host's calls under any schedule -/

/--
What a call of the host may come to.  It never panics and never fails to decode
a reply: what it reports is an error of the TEE.
-/
inductive Answered {α : Type} (formats : Formats) (codec : KeyListCodec)
    (wallets after : Wallets) (undisturbed : Prop) (expected : Option α) :
    Run HostError Tee α → Prop
  | done {value : α} {tee : Tee} (hexpected : expected = some value)
      (hafter : Holds formats codec after tee.storage) :
      Answered formats codec wallets after undisturbed expected
        (.ok value tee)
  | failed {error : Teec.Error} {tee : Tee}
      (hreason : undisturbed → expected = none)
      (heffect : Holds formats codec wallets tee.storage ∨
        Holds formats codec after tee.storage) :
      Answered formats codec wallets after undisturbed expected
        (.error (.failed (.teec error)) tee)
  | killed {tee : Tee} (hreason : undisturbed → expected = none)
      (heffect : Holds formats codec wallets tee.storage ∨
        Holds formats codec after tee.storage) :
      Answered formats codec wallets after undisturbed expected
        (.error .killed tee)

def Exchange.Undisturbed {width : PointerWidth} (exchange : Exchange width)
    (input : Bytes) : Prop :=
  (exchange.deliver input).toOption ≠ none ∧ exchange.schedule = []

section Answers

variable {width : PointerWidth} {libraries : Libraries} {formats : Formats}
  {codec : KeyListCodec} {wallets after : Wallets} {storage : Storage}

theorem run_invokeCommand_refused {command : Command}
    {exchange : Exchange width} {input : Bytes} {error : Teec.Error}
    {tee : Tee} (hdeliver : exchange.deliver input = .error error) :
    (Host.invokeCommand libraries formats codec exchange command input).run
      tee = .error (.failed (.teec error)) tee := by
  simp only [Host.invokeCommand, EStateM.run, hdeliver]

theorem run_invokeCommand_delivered {command : Command}
    {exchange : Exchange width} {input : Bytes}
    {delivery : Delivery width input} {tee : Tee}
    (hdeliver : exchange.deliver input = .ok delivery) :
    (Host.invokeCommand libraries formats codec exchange command input).run
        tee =
      Host.conclude ((invokeCommandEntryPoint libraries formats codec
        exchange.order exchange.draw command.intoPrimitive
          delivery.rawTypes).run ⟨delivery.call, tee⟩) := by
  simp only [Host.invokeCommand, EStateM.run, hdeliver]

def told (libraries : Libraries) :
    Run WalletError Tee Bytes → Run HostError Tee Bytes
  | .ok output tee =>
      if output.length ≤ outputMaxSize then .ok output tee
      else .error (.failed (.teec
        ((Teec.Error.new .shortBuffer).withOrigin .ta))) tee
  | .error (.failed error) tee =>
      .error (.failed (.teec ((Teec.Error.new
        (if (asBytes (libraries.debug error)).length ≤ outputMaxSize then
          .badParameters
        else .shortBuffer)).withOrigin .ta))) tee
  | .error .killed tee => .error .killed tee

theorem conclude_answered {call : CallState width}
    {handled : Run WalletError Tee Bytes}
    (hreports : Reports call (written libraries outputMaxSize handled)) :
    Host.conclude (answered libraries outputMaxSize call handled) =
      told libraries handled := by
  obtain ⟨hslice, htake⟩ := hreports.received (length_written_le _ _)
  cases handled with
  | ok output tee =>
      simp only [answered, Host.conclude, if_pos hslice, htake, written, told]
      split_ifs <;> rfl
  | error halt tee =>
      cases halt with
      | killed => rfl
      | failed error =>
          simp only [answered, Host.conclude, if_pos hslice, told]
          split_ifs <;> rfl

theorem invokeCommand_answered {command : Command}
    {exchange : Exchange width} {input : Bytes} {expected : Option Bytes}
    (hstorage : Holds formats codec wallets storage)
    (h : Served formats codec wallets after exchange.schedule expected
      ((handleInvoke libraries formats codec exchange.order exchange.draw
        command input).run ⟨storage, exchange.schedule⟩))
    (hfits : ∀ output ∈ expected, output.length ≤ outputMaxSize) :
    Answered formats codec wallets after (exchange.Undisturbed input) expected
      ((Host.invokeCommand libraries formats codec exchange command input).run
        ⟨storage, exchange.schedule⟩) := by
  cases hdeliver : exchange.deliver input with
  | error error =>
      rw [run_invokeCommand_refused hdeliver]
      refine .failed (fun hundisturbed => ?_) (.inl hstorage)
      rw [Exchange.Undisturbed, hdeliver] at hundisturbed
      exact absurd rfl hundisturbed.1
  | ok delivery =>
      obtain ⟨call, hentry, hreports⟩ := invokeCommandEntryPoint_answers
        libraries formats codec delivery exchange.order exchange.draw
        command.intoPrimitive ⟨storage, exchange.schedule⟩
      rw [Command.fromPrimitive_intoPrimitive] at hentry hreports
      rw [run_invokeCommand_delivered hdeliver, hentry,
        conclude_answered hreports]
      generalize (handleInvoke libraries formats codec exchange.order
        exchange.draw command input).run ⟨storage, exchange.schedule⟩ =
          handled at h
      cases h with
      | done hexpected hafter =>
          rw [told, if_pos (hfits _ hexpected)]
          exact .done hexpected hafter
      | @failed halt tee hreason heffect =>
          cases halt with
          | killed => exact .killed (fun hquiet => hreason hquiet.2) heffect
          | failed error =>
              exact .failed (fun hquiet => hreason hquiet.2) heffect

abbrev written? {α : Type} (values : ValueCodec α) (expected : Option α) :
    Option Bytes :=
  expected.bind fun value => (values.serialize value).toOption

theorem written?_eq_none {α : Type} {values : ValueCodec α}
    (hfaithful : Faithful values) {expected : Option α}
    (h : written? values expected = none) : expected = none := by
  cases expected with
  | none => rfl
  | some value =>
      obtain ⟨bytes, hbytes, -⟩ := hfaithful value
      rw [written?, Option.bind_some, hbytes] at h
      cases h

theorem of_written?_eq_some {α : Type} {values : ValueCodec α}
    (hfaithful : Faithful values) {expected : Option α} {bytes : Bytes}
    (h : written? values expected = some bytes) :
    ∃ value, expected = some value ∧ values.serialize value = .ok bytes ∧
      values.deserialize bytes = .ok value := by
  cases expected with
  | none => cases h
  | some value =>
      obtain ⟨written, hbytes, hread⟩ := hfaithful value
      rw [written?, Option.bind_some, hbytes] at h
      obtain rfl : written = bytes := Option.some.inj h
      exact ⟨value, rfl, hbytes, hread⟩

theorem map_written? {α β : Type} {values : ValueCodec α}
    (hfaithful : Faithful values) (expected : Option α) (answer : β) :
    (written? values expected).map (fun _ => answer) =
      expected.map fun _ => answer := by
  cases expected with
  | none => rfl
  | some value =>
      obtain ⟨bytes, hbytes, -⟩ := hfaithful value
      rw [written?, Option.bind_some, hbytes]
      rfl

theorem Answered.deserialize {α β : Type} {undisturbed : Prop}
    {expected : Option α} {values : ValueCodec α} {x : HostM Bytes}
    {tee : Tee}
    (h : Answered formats codec wallets after undisturbed
      (written? values expected) (x.run tee))
    (hfaithful : Faithful values) (pick : α → β) :
    Answered formats codec wallets after undisturbed (expected.map pick)
      ((x >>= fun output => Host.fromBincode (values.deserialize output) >>=
        fun value => pure (pick value)).run tee) := by
  rw [EStateM.run_bind]
  generalize x.run tee = run at h
  cases h with
  | @done output tee' hexpected hafter =>
      obtain ⟨value, hvalue, -, hread⟩ :=
        of_written?_eq_some hfaithful hexpected
      simp only [Host.fromBincode, hread, Except.mapError, EStateM.run_bind,
        Fallible.run_ofExcept_ok, EStateM.run_pure]
      exact .done (by rw [hvalue]; rfl) hafter
  | failed hreason heffect =>
      refine .failed (fun hquiet => ?_) heffect
      rw [written?_eq_none hfaithful (hreason hquiet)]
      rfl
  | killed hreason heffect =>
      refine .killed (fun hquiet => ?_) heffect
      rw [written?_eq_none hfaithful (hreason hquiet)]
      rfl

end Answers

/-! ## A delivery -/

def inputSlice (input : Bytes) (h : input.length < 2 ^ 32) :
    ByteSlice .aarch64 :=
  ⟨16384, input.length, by decide, by decide, h.trans (by decide)⟩

def replySlice : ByteSlice .aarch64 :=
  ⟨4096, outputMaxSize, by decide, by decide, by decide⟩

def sideBySideCall (input : Bytes) : CallState .aarch64 :=
  ⟨ArgIndex.tuple (.ofMemref .aarch64 16384 input.length)
      (.ofMemref .aarch64 4096 outputMaxSize) ⟨0⟩ ⟨0⟩,
    Memory.store ⟨fun _ => 0, []⟩ 16384 input⟩

theorem sideBySide_delivered (input : Bytes) (h : input.length < 2 ^ 32) :
    Boundary.Delivered (Teec.Operation.ofBuilt (fun _ => ⟨0⟩) 0
        (hostBuilt (inputSlice input h) replySlice))
      (sideBySideCall input).memory
      (Teec.Operation.ofBuilt (fun _ => ⟨0⟩) 0
        (hostBuilt (inputSlice input h) replySlice)).paramTypes
      (sideBySideCall input) := by
  have hpayload := Boundary.payload_ofBuilt
    (hostBuilt_tagged (inputSlice input h) replySlice) (fun _ => ⟨0⟩) 0
  have hsize : input.length < 2 ^ PointerWidth.aarch64.bits :=
    h.trans (by decide)
  have hinput : ((sideBySideCall input).raws .arg0).buffer = 16384 ∧
      ((sideBySideCall input).raws .arg0).size = input.length :=
    ⟨RawParam.buffer_ofMemref (by decide) _, RawParam.size_ofMemref _ hsize⟩
  have hreply : ((sideBySideCall input).raws .arg1).buffer = 4096 ∧
      ((sideBySideCall input).raws .arg1).size = outputMaxSize :=
    ⟨RawParam.buffer_ofMemref (by decide) _,
      RawParam.size_ofMemref _ (by decide)⟩
  refine ⟨rfl, ?_, ?_, ?_, ?_⟩
  · intro i a b hvalue
    rw [hpayload] at hvalue
    cases i <;> cases hvalue
  · intro i buffer size hbuffer
    rw [hpayload] at hbuffer
    cases i with
    | arg0 =>
        cases hbuffer
        exact ⟨by rw [hinput.1]; decide, hinput.2⟩
    | arg1 =>
        cases hbuffer
        exact ⟨by rw [hreply.1]; decide, hreply.2⟩
    | arg2 => cases hbuffer
    | arg3 => cases hbuffer
  · intro i buffer size hbuffer _
    rw [hpayload] at hbuffer
    cases i with
    | arg0 =>
        cases hbuffer
        rw [hinput.1]
        rfl
    | arg1 =>
        cases hbuffer
        rw [hreply.1]
        rfl
    | arg2 => cases hbuffer
    | arg3 => cases hbuffer
  · intro i j buffer size buffer' size' hij hi hj htag target hlow hhigh
    rw [hpayload] at hi hj
    cases i with
    | arg0 => exact absurd (Teec.Operation.tagAt_ofBuilt ..) htag
    | arg1 =>
        cases hi
        cases j with
        | arg0 =>
            have hend : target < 4096 + outputMaxSize := hreply.1 ▸ hhigh
            rw [hinput.1]
            exact .inl (hend.trans (by decide))
        | arg1 => exact absurd rfl hij
        | arg2 => cases hj
        | arg3 => cases hj
    | arg2 => cases hi
    | arg3 => cases hi

def sideBySide (input : Bytes) (h : input.length < 2 ^ 32) :
    Delivery .aarch64 input where
  clientWidth := .aarch64
  source := inputSlice input h
  target := replySlice
  memory := (sideBySideCall input).memory
  uninit := fun _ => ⟨0⟩
  rawTypes := _
  call := sideBySideCall input
  given := readBytes_store _ _ _
  offered := rfl
  delivered := sideBySide_delivered input h

end TrustZoneSdk.EthWallet
