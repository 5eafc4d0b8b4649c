import TrustZoneSdk.EthWallet.Host

/-!
# Hosts that share the wallets

Any number of hosts ask for wallets, one command after the other.  What they
are told is a run of a map from identifiers to entropy, whatever the TEE
refuses and wherever the device is switched off, and an answer about a wallet
goes back to the command that made it.
-/

namespace TrustZoneSdk.EthWallet

open TrustZoneSdk.Foundation
open TrustZoneSdk.SecureDb
open TrustZoneSdk.Utee

/-! ## Programs of hosts -/

inductive HostCall where
  | createWallet
  | removeWallet (walletId : Uuid)
  | deriveAddress (walletId : Uuid) (hdPath : String)
  | signTransaction (walletId : Uuid) (hdPath : String) (transfer : Transfer)

inductive HostValue where
  | walletId (walletId : Uuid)
  | removed
  | address (address : Address)
  | signature (signature : Bytes)
  deriving DecidableEq

namespace HostCall

def input (formats : Formats) : HostCall → Except String Bytes
  | createWallet => .ok []
  | removeWallet walletId => formats.removeWalletInput.serialize ⟨walletId⟩
  | deriveAddress walletId hdPath =>
      formats.deriveAddressInput.serialize ⟨walletId, hdPath⟩
  | signTransaction walletId hdPath transfer =>
      formats.signTransactionInput.serialize
        ⟨walletId, hdPath, transfer.transaction⟩

def run {width : PointerWidth} (libraries : Libraries) (formats : Formats)
    (codec : KeyListCodec) (exchange : Exchange width) :
    HostCall → HostM HostValue
  | createWallet =>
      .walletId <$> Host.createWallet libraries formats codec exchange
  | removeWallet walletId =>
      (fun _ => .removed) <$>
        Host.removeWallet libraries formats codec exchange walletId
  | deriveAddress walletId hdPath =>
      .address <$>
        Host.deriveAddress libraries formats codec exchange walletId hdPath
  | signTransaction walletId hdPath transfer =>
      .signature <$> Host.signTransaction libraries formats codec exchange
        walletId hdPath transfer

/-! What a call is on a map of wallets. -/

variable (libraries : Libraries) (draw : Draw) (wallets : Wallets)

def expected : HostCall → Option HostValue
  | createWallet => some (.walletId (Wallet.new draw).id)
  | removeWallet walletId => (wallets walletId).map fun _ => .removed
  | deriveAddress walletId hdPath =>
      (wallets walletId).bind fun entropy =>
        (libraries.deriveAddress ⟨walletId, entropy⟩ hdPath).toOption.map
          fun output => .address output.address
  | signTransaction walletId hdPath transfer =>
      (wallets walletId).bind fun entropy =>
        (libraries.signTransaction ⟨walletId, entropy⟩ hdPath
          transfer.transaction).toOption.map .signature

def effect : HostCall → Wallets
  | createWallet =>
      Function.update wallets (Wallet.new draw).id (some draw.entropy)
  | removeWallet walletId => Function.update wallets walletId none
  | deriveAddress _ _ => wallets
  | signTransaction _ _ _ => wallets

end HostCall

/--
What the hosts' calls are answered with fits into the buffer that the host
offers.  Of transactions, only those that a host can ask for count.
-/
structure RepliesFit (libraries : Libraries) (formats : Formats) : Prop where
  created : ∀ draw bytes, formats.createWalletOutput.serialize
      ⟨(Wallet.new draw).id, libraries.phrase draw.entropy⟩ = .ok bytes →
    bytes.length ≤ outputMaxSize
  removed : ∀ bytes, formats.removeWalletOutput.serialize ⟨⟩ = .ok bytes →
    bytes.length ≤ outputMaxSize
  derived : ∀ wallet hdPath output bytes,
    libraries.deriveAddress wallet hdPath = .ok output →
    formats.deriveAddressOutput.serialize output = .ok bytes →
      bytes.length ≤ outputMaxSize
  signed : ∀ wallet hdPath (transfer : Transfer) signature bytes,
    libraries.signTransaction wallet hdPath transfer.transaction =
      .ok signature →
    formats.signTransactionOutput.serialize ⟨signature⟩ = .ok bytes →
      bytes.length ≤ outputMaxSize

theorem eq_ok_of_toOption {ε α : Type} {x : Except ε α} {value : α}
    (h : x.toOption = some value) : x = .ok value := by
  cases x with
  | ok other => rw [Option.some.inj h]
  | error error => cases h

section Calls

variable {width : PointerWidth} {libraries : Libraries} {formats : Formats}
  {codec : KeyListCodec} {wallets : Wallets} {storage : Storage}

theorem Answered.map {α β : Type} {after : Wallets} {undisturbed : Prop}
    {expected : Option α} {x : HostM α} {tee : Tee}
    (h : Answered formats codec wallets after undisturbed expected
      (x.run tee)) (f : α → β) :
    Answered formats codec wallets after undisturbed (expected.map f)
      ((f <$> x).run tee) := by
  rw [Fallible.run_map]
  generalize x.run tee = run at h
  cases h with
  | done hexpected hafter => exact .done (by rw [hexpected]; rfl) hafter
  | failed hreason heffect =>
      exact .failed (fun hquiet => by rw [hreason hquiet]; rfl) heffect
  | killed hreason heffect =>
      exact .killed (fun hquiet => by rw [hreason hquiet]; rfl) heffect

theorem Answered.of_quiet {α : Type} {after : Wallets} {quiet quieter : Prop}
    {expected : Option α} {run : Run HostError Tee α}
    (h : Answered formats codec wallets after quiet expected run)
    (hquiet : quieter → quiet) :
    Answered formats codec wallets after quieter expected run := by
  cases h with
  | done hexpected hafter => exact .done hexpected hafter
  | failed hreason heffect =>
      exact .failed (fun h => hreason (hquiet h)) heffect
  | killed hreason heffect =>
      exact .killed (fun h => hreason (hquiet h)) heffect

theorem Answered.serialize {α β : Type} {after : Wallets}
    {expected : Option β} {values : ValueCodec α} {value : α}
    {exchange : Exchange width} {body : Bytes → HostM β} {tee : Tee}
    (hfaithful : Faithful values)
    (h : ∀ input, values.serialize value = .ok input →
      values.deserialize input = .ok value →
      Answered formats codec wallets after (exchange.Undisturbed input)
        expected ((body input).run tee)) :
    Answered formats codec wallets after
      (∀ input, values.serialize value = .ok input →
        exchange.Undisturbed input) expected
      ((Host.fromBincode (values.serialize value) >>= body).run tee) := by
  obtain ⟨input, hinput, hread⟩ := hfaithful value
  have hbody := (h input hinput hread).of_quiet
    fun hquiet : ∀ input, values.serialize value = .ok input →
      exchange.Undisturbed input => hquiet input hinput
  rw [hinput] at hbody ⊢
  exact hbody

variable (hfaithful : formats.Faithful) (hfits : RepliesFit libraries formats)
  (h : Holds formats codec wallets storage) (exchange : Exchange width)

include hfaithful hfits h

theorem createWallet_answered :
    Answered formats codec wallets (Function.update wallets
        (Wallet.new exchange.draw).id (some exchange.draw.entropy))
      (exchange.Undisturbed []) (some (Wallet.new exchange.draw).id)
      ((Host.createWallet libraries formats codec exchange).run
        ⟨storage, exchange.schedule⟩) := by
  have hserved := (createWallet_served libraries exchange.order
    exchange.schedule hfaithful h exchange.draw ⟨⟩).process
      formats.createWalletOutput hfaithful.emptyInput
  have hreply := @invokeCommand_answered _ libraries _ _ _ _ _ .createWallet
    exchange _ _ h hserved fun output houtput => by
      obtain ⟨value, hvalue, hbytes, -⟩ :=
        of_written?_eq_some hfaithful.createWalletOutput houtput
      cases hvalue
      exact hfits.created exchange.draw output hbytes
  exact hreply.deserialize hfaithful.createWalletOutput
    CreateWalletOutput.walletId

theorem removeWallet_answered (walletId : Uuid) :
    Answered formats codec wallets (Function.update wallets walletId none)
      (∀ input, formats.removeWalletInput.serialize ⟨walletId⟩ = .ok input →
        exchange.Undisturbed input)
      ((wallets walletId).map fun _ => ())
      ((Host.removeWallet libraries formats codec exchange walletId).run
        ⟨storage, exchange.schedule⟩) := by
  refine .serialize hfaithful.removeWalletInput fun input _ hread => ?_
  have hserved := (removeWallet_served exchange.order exchange.schedule
    hfaithful h ⟨walletId⟩).process formats.removeWalletOutput hread
  have hreply := @invokeCommand_answered _ libraries _ _ _ _ _ .removeWallet
    exchange _ _ h hserved fun output houtput => by
      obtain ⟨value, -, hbytes, -⟩ :=
        of_written?_eq_some hfaithful.removeWalletOutput houtput
      exact hfits.removed output hbytes
  have hanswer := hreply.map fun _ => ()
  rw [map_written? hfaithful.removeWalletOutput, Option.map_map] at hanswer
  exact hanswer

theorem deriveAddress_answered (walletId : Uuid) (hdPath : String) :
    Answered formats codec wallets wallets
      (∀ input, formats.deriveAddressInput.serialize ⟨walletId, hdPath⟩ =
        .ok input → exchange.Undisturbed input)
      (((wallets walletId).bind fun entropy => (libraries.deriveAddress
        ⟨walletId, entropy⟩ hdPath).toOption).map DeriveAddressOutput.address)
      ((Host.deriveAddress libraries formats codec exchange walletId
        hdPath).run ⟨storage, exchange.schedule⟩) := by
  refine .serialize hfaithful.deriveAddressInput fun input _ hread => ?_
  have hserved := (deriveAddress_served libraries exchange.schedule hfaithful h
    ⟨walletId, hdPath⟩).process formats.deriveAddressOutput hread
  have hreply := @invokeCommand_answered _ libraries _ _ _ _ _ .deriveAddress
    exchange _ _ h hserved fun bytes houtput => by
      obtain ⟨output, houtput, hbytes, -⟩ :=
        of_written?_eq_some hfaithful.deriveAddressOutput houtput
      obtain ⟨entropy, -, hlibrary⟩ := Option.bind_eq_some_iff.mp houtput
      exact hfits.derived _ _ _ bytes (eq_ok_of_toOption hlibrary) hbytes
  exact hreply.deserialize hfaithful.deriveAddressOutput
    DeriveAddressOutput.address

theorem signTransaction_answered (walletId : Uuid) (hdPath : String)
    (transfer : Transfer) :
    Answered formats codec wallets wallets
      (∀ input, formats.signTransactionInput.serialize
        ⟨walletId, hdPath, transfer.transaction⟩ = .ok input →
          exchange.Undisturbed input)
      (((wallets walletId).bind fun entropy => (libraries.signTransaction
        ⟨walletId, entropy⟩ hdPath transfer.transaction).toOption.map
          SignTransactionOutput.mk).map SignTransactionOutput.signature)
      ((Host.signTransaction libraries formats codec exchange walletId hdPath
        transfer).run ⟨storage, exchange.schedule⟩) := by
  refine .serialize hfaithful.signTransactionInput fun input _ hread => ?_
  have hserved := (signTransaction_served libraries exchange.schedule hfaithful
    h ⟨walletId, hdPath, transfer.transaction⟩).process
      formats.signTransactionOutput hread
  have hreply := @invokeCommand_answered _ libraries _ _ _ _ _
    .signTransaction exchange _ _ h hserved fun bytes houtput => by
      obtain ⟨output, houtput, hbytes, -⟩ :=
        of_written?_eq_some hfaithful.signTransactionOutput houtput
      obtain ⟨entropy, -, hoption⟩ := Option.bind_eq_some_iff.mp houtput
      obtain ⟨signature, hlibrary, rfl⟩ := Option.map_eq_some_iff.mp hoption
      exact hfits.signed _ _ transfer _ bytes (eq_ok_of_toOption hlibrary)
        hbytes
  exact hreply.deserialize hfaithful.signTransactionOutput
    SignTransactionOutput.signature

theorem HostCall.run_answered (call : HostCall) :
    Answered formats codec wallets (call.effect exchange.draw wallets)
      (∀ input, call.input formats = .ok input → exchange.Undisturbed input)
      (call.expected libraries exchange.draw wallets)
      ((call.run libraries formats codec exchange).run
        ⟨storage, exchange.schedule⟩) := by
  cases call with
  | createWallet =>
      exact ((createWallet_answered hfaithful hfits h exchange).map
        HostValue.walletId).of_quiet fun hquiet => hquiet [] rfl
  | removeWallet walletId =>
      have hanswer := (removeWallet_answered hfaithful hfits h exchange
        walletId).map fun _ => HostValue.removed
      rw [Option.map_map] at hanswer
      exact hanswer
  | deriveAddress walletId hdPath =>
      have hanswer := (deriveAddress_answered hfaithful hfits h exchange
        walletId hdPath).map HostValue.address
      rw [Option.map_map, Option.map_bind] at hanswer
      exact hanswer
  | signTransaction walletId hdPath transfer =>
      have hanswer := (signTransaction_answered hfaithful hfits h exchange
        walletId hdPath transfer).map HostValue.signature
      simp only [Option.map_bind, Function.comp_def, Option.map_map] at hanswer
      exact hanswer

end Calls

/-! ## Hosts and the wallets they share -/

structure HostRequest (width : PointerWidth) where
  call : HostCall
  exchange : Exchange width

def HostRequest.Undisturbed {width : PointerWidth} (formats : Formats)
    (request : HostRequest width) : Prop :=
  ∀ input, request.call.input formats = .ok input →
    request.exchange.Undisturbed input

/-- `none` stands for a call that the TEE did not survive. -/
abbrev HostAnswer := Option (Except HostError HostValue)

def HostRequest.serve {width : PointerWidth} (libraries : Libraries)
    (formats : Formats) (codec : KeyListCodec) (request : HostRequest width)
    (storage : Storage) : HostAnswer × Storage :=
  match (request.call.run libraries formats codec request.exchange).run
      ⟨storage, request.exchange.schedule⟩ with
  | .ok value tee => (some (.ok value), tee.storage)
  | .error (.failed error) tee => (some (.error error), tee.storage)
  | .error .killed tee => (none, tee.storage)

section Sharing

variable {width : PointerWidth} (libraries : Libraries) (formats : Formats)
  {codec : KeyListCodec}

/--
A call on the map of wallets.  A call that fails may have had its effect, but
no other, and fails for a reason.
-/
inductive WalletStep (wallets : Wallets) :
    HostRequest width × HostAnswer → Wallets → Prop
  | done {request : HostRequest width} {value : HostValue}
      (hvalue : request.call.expected libraries request.exchange.draw wallets =
        some value) :
      WalletStep wallets (request, some (.ok value))
        (request.call.effect request.exchange.draw wallets)
  | failed {request : HostRequest width} {answer : HostAnswer}
      {after : Wallets}
      (hanswer : answer = none ∨ ∃ error, answer = some (.error (.teec error)))
      (hreason : request.Undisturbed formats →
        request.call.expected libraries request.exchange.draw wallets = none)
      (heffect : after = wallets ∨
        after = request.call.effect request.exchange.draw wallets) :
      WalletStep wallets (request, answer) after

variable {libraries formats} (hfaithful : formats.Faithful)
  (hfits : RepliesFit libraries formats)

include hfaithful hfits

theorem HostRequest.serve_step (request : HostRequest width)
    (wallets : Wallets) (storage : Storage)
    (h : Holds formats codec wallets storage) :
    ∃ after,
      WalletStep libraries formats wallets
        (request, (request.serve libraries formats codec storage).1) after ∧
      Holds formats codec after
        (request.serve libraries formats codec storage).2 := by
  have hanswered := request.call.run_answered hfaithful hfits h
    request.exchange
  unfold HostRequest.serve
  generalize (request.call.run libraries formats codec request.exchange).run
    ⟨storage, request.exchange.schedule⟩ = run at hanswered
  cases hanswered with
  | done hexpected hafter => exact ⟨_, .done hexpected, hafter⟩
  | failed hreason heffect =>
      rcases heffect with heffect | heffect
      · exact ⟨_, .failed (.inr ⟨_, rfl⟩) hreason (.inl rfl), heffect⟩
      · exact ⟨_, .failed (.inr ⟨_, rfl⟩) hreason (.inr rfl), heffect⟩
  | killed hreason heffect =>
      rcases heffect with heffect | heffect
      · exact ⟨_, .failed (.inl rfl) hreason (.inl rfl), heffect⟩
      · exact ⟨_, .failed (.inl rfl) hreason (.inr rfl), heffect⟩

theorem HostRequest.serve_undisturbed {request : HostRequest width}
    {wallets : Wallets} {storage : Storage}
    (h : Holds formats codec wallets storage)
    (hquiet : request.Undisturbed formats) {value : HostValue}
    (hvalue : request.call.expected libraries request.exchange.draw wallets =
      some value) :
    (request.serve libraries formats codec storage).1 = some (.ok value) ∧
      Holds formats codec (request.call.effect request.exchange.draw wallets)
        (request.serve libraries formats codec storage).2 := by
  have hanswered := request.call.run_answered hfaithful hfits h
    request.exchange
  unfold HostRequest.serve
  generalize (request.call.run libraries formats codec request.exchange).run
    ⟨storage, request.exchange.schedule⟩ = run at hanswered
  cases hanswered with
  | done hexpected hafter =>
      rw [hvalue, Option.some.injEq] at hexpected
      exact ⟨by rw [hexpected], hafter⟩
  | failed hreason heffect =>
      rw [hreason hquiet] at hvalue
      cases hvalue
  | killed hreason heffect =>
      rw [hreason hquiet] at hvalue
      cases hvalue

/--
Whatever hosts ask, one command after the other, and wherever calls of the TEE
are refused or cut short, what they are told is a run of a map of wallets, and
the map is in the storage.
-/
theorem hosts_share_one_wallet_map {Result : Type} {wallets : Wallets}
    {storage : Storage} (hstorage : Holds formats codec wallets storage)
    (hosts : Dialogue (HostRequest width) HostAnswer Result) :
    ∃ final,
      Dialogue.Trace (WalletStep libraries formats) wallets
        (hosts.run (HostRequest.serve libraries formats codec)
          storage).transcript final ∧
      Holds formats codec final
        (hosts.run (HostRequest.serve libraries formats codec)
          storage).state :=
  hosts.run_trace (fun request wallets storage h =>
    request.serve_step hfaithful hfits wallets storage h) hstorage

end Sharing

/-! A wallet is made, used and removed again. -/

theorem length_encodeBytes_le {bound : Nat} (hbound : bound ≤ 1024)
    {bytes : Bytes} (h : bytes.length ≤ bound) :
    (PrefixCodec.bytes.encode bytes).length ≤ 8 + bound := by
  have hword : bytes.length < maxWord :=
    Nat.lt_of_le_of_lt (h.trans hbound) (by decide)
  have hlength : (encodeLength bytes.length).length = 8 := by
    simp [encodeLength, Nat.div_eq_of_lt hword]
  rw [PrefixCodec.bytes, List.length_append, hlength]
  omega

theorem someLibraries_repliesFit :
    RepliesFit someLibraries Bincode.formats where
  created := by
    rintro draw bytes ⟨⟩
    have hid : (Bincode.uuid.encode (Wallet.new draw).id).length ≤ 8 + 16 :=
      length_encodeBytes_le (by decide) (Wallet.new draw).id.size.le
    have htext : (Bincode.text.encode "abandon").length = 15 := by decide
    refine (List.length_append.trans_le
      (Nat.add_le_add hid htext.le)).trans (by decide)
  removed := by
    rintro bytes ⟨⟩
    exact Nat.zero_le _
  derived := by
    rintro wallet hdPath output bytes houtput ⟨⟩
    simp only [someLibraries] at houtput
    split at houtput
    · cases houtput
      have hkey : (PrefixCodec.bytes.encode (wallet.entropy.take 33)).length ≤
          8 + 33 :=
        length_encodeBytes_le (by decide) (List.length_take_le ..)
      have haddress : (wallet.entropy.take 20).length ≤ 20 :=
        List.length_take_le ..
      exact (List.length_append.trans_le
        (Nat.add_le_add haddress hkey)).trans (by decide)
    · cases houtput
  signed := by
    rintro wallet hdPath transfer signature bytes ⟨⟩ ⟨⟩
    have hsignature : (wallet.entropy.take 65 ++
        transfer.transaction.data).length ≤ 65 := by
      simp [Transfer.transaction]
    exact (length_encodeBytes_le (by decide) hsignature).trans (by decide)

def quietExchange : Exchange .aarch64 where
  deliver input :=
    if h : input.length < 2 ^ 32 then .ok (sideBySide input h)
    else .error (Teec.Error.new .outOfMemory)
  order := .sorted
  draw := someDraw
  schedule := []

theorem quietExchange_undisturbed {call : HostCall} {input : Bytes}
    (hinput : call.input Bincode.formats = .ok input)
    (h : input.length < 2 ^ 32) :
    HostRequest.Undisturbed Bincode.formats ⟨call, quietExchange⟩ := by
  intro other hother
  obtain rfl := Except.ok.inj (hinput.symm.trans hother)
  have hdeliver : quietExchange.deliver input = .ok (sideBySide input h) :=
    dif_pos h
  refine ⟨?_, rfl⟩
  rw [hdeliver]
  nofun

def someTransfer : Transfer where
  chainId := 1
  nonce := 0
  «to» := ⟨List.replicate 20 9, rfl⟩
  value := 5
  gasPrice := 1
  gas := 21000

def makeWallet : HostRequest .aarch64 := ⟨.createWallet, quietExchange⟩

def askAddress : HostRequest .aarch64 :=
  ⟨.deriveAddress (Wallet.new someDraw).id "m/44'/60'/0'/0/0", quietExchange⟩

def askSignature : HostRequest .aarch64 :=
  ⟨.signTransaction (Wallet.new someDraw).id "m/44'/60'/0'/0/0" someTransfer,
    quietExchange⟩

def dropWallet : HostRequest .aarch64 :=
  ⟨.removeWallet (Wallet.new someDraw).id, quietExchange⟩

def makeUseAndDrop : Dialogue (HostRequest .aarch64) HostAnswer Unit :=
  .ofList [makeWallet, askAddress, askSignature, dropWallet] ()

theorem makeWallet_undisturbed : makeWallet.Undisturbed Bincode.formats :=
  quietExchange_undisturbed rfl (by decide)

theorem askAddress_undisturbed : askAddress.Undisturbed Bincode.formats :=
  quietExchange_undisturbed rfl (by decide)

theorem askSignature_undisturbed :
    askSignature.Undisturbed Bincode.formats :=
  quietExchange_undisturbed rfl (by decide +kernel)

theorem dropWallet_undisturbed : dropWallet.Undisturbed Bincode.formats :=
  quietExchange_undisturbed rfl (by decide)

def someAddress : Address := ⟨List.replicate 20 7, rfl⟩

theorem makeUseAndDrop_transcript :
    (makeUseAndDrop.run (HostRequest.serve someLibraries Bincode.formats
      SecureDb.Bincode.codec) emptyStorage).transcript =
        [(makeWallet, some (.ok (.walletId (Wallet.new someDraw).id))),
          (askAddress, some (.ok (.address someAddress))),
          (askSignature, some (.ok (.signature (List.replicate 32 7)))),
          (dropWallet, some (.ok .removed))] := by
  have hserve := @HostRequest.serve_undisturbed .aarch64 someLibraries
    Bincode.formats SecureDb.Bincode.codec Bincode.formats_faithful
    someLibraries_repliesFit
  have hcreated : makeWallet.call.expected someLibraries
      makeWallet.exchange.draw (fun _ => none) =
        some (.walletId (Wallet.new someDraw).id) := rfl
  have hstored : makeWallet.call.effect makeWallet.exchange.draw
      (fun _ => none) (Wallet.new someDraw).id = some someDraw.entropy := by
    simp [makeWallet, quietExchange, HostCall.effect]
  have haddress : askAddress.call.expected someLibraries
      askAddress.exchange.draw (makeWallet.call.effect
        makeWallet.exchange.draw fun _ => none) =
        some (.address someAddress) := by
    simp only [askAddress, HostCall.expected, hstored, Option.bind_some]
    rfl
  have hsignature : askSignature.call.expected someLibraries
      askSignature.exchange.draw (makeWallet.call.effect
        makeWallet.exchange.draw fun _ => none) =
        some (.signature (List.replicate 32 7)) := by
    simp only [askSignature, HostCall.expected, hstored, Option.bind_some]
    rfl
  have hremoved : dropWallet.call.expected someLibraries
      dropWallet.exchange.draw (makeWallet.call.effect
        makeWallet.exchange.draw fun _ => none) = some .removed := by
    simp only [dropWallet, HostCall.expected, hstored, Option.map_some]
  obtain ⟨hmade, hholds⟩ := hserve (holds_emptyStorage _ _)
    makeWallet_undisturbed hcreated
  obtain ⟨hderived, hholds⟩ := hserve hholds askAddress_undisturbed haddress
  obtain ⟨hsigned, hholds⟩ :=
    hserve hholds askSignature_undisturbed hsignature
  obtain ⟨hdropped, -⟩ := hserve hholds dropWallet_undisturbed hremoved
  simp only [makeUseAndDrop, Dialogue.ofList, Dialogue.run, hmade, hderived,
    hsigned, hdropped]

theorem makeUseAndDrop_shares_map :
    ∃ final,
      Dialogue.Trace (WalletStep someLibraries Bincode.formats)
        (fun _ => none)
        [(makeWallet, some (.ok (.walletId (Wallet.new someDraw).id))),
          (askAddress, some (.ok (.address someAddress))),
          (askSignature, some (.ok (.signature (List.replicate 32 7)))),
          (dropWallet, some (.ok .removed))] final ∧
      Holds Bincode.formats SecureDb.Bincode.codec final
        (makeUseAndDrop.run (HostRequest.serve someLibraries Bincode.formats
          SecureDb.Bincode.codec) emptyStorage).state := by
  rw [← makeUseAndDrop_transcript]
  exact hosts_share_one_wallet_map Bincode.formats_faithful
    someLibraries_repliesFit (holds_emptyStorage _ _) makeUseAndDrop

section Provenance

variable {width : PointerWidth} {libraries : Libraries} {formats : Formats}
  {codec : KeyListCodec}

/-! ### Where an answer comes from -/

def HostCall.target : HostCall → Option Uuid
  | .createWallet => none
  | .removeWallet walletId => some walletId
  | .deriveAddress walletId _ => some walletId
  | .signTransaction walletId _ _ => some walletId

def onlyWallet (walletId : Uuid) (entropy : Bytes) : Wallets :=
  Function.update (fun _ => none) walletId (some entropy)

theorem HostCall.expected_of_target {call : HostCall} {walletId : Uuid}
    (htarget : call.target = some walletId) {draw : Draw} {wallets : Wallets}
    {value : HostValue}
    (h : call.expected libraries draw wallets = some value) :
    ∃ entropy, wallets walletId = some entropy ∧
      call.expected libraries draw (onlyWallet walletId entropy) =
        some value := by
  cases call with
  | createWallet => cases htarget
  | removeWallet target =>
      cases htarget
      cases hwallet : wallets walletId with
      | none => simp [HostCall.expected, hwallet] at h
      | some entropy =>
          refine ⟨entropy, rfl, ?_⟩
          simpa [HostCall.expected, hwallet, onlyWallet] using h
  | deriveAddress target hdPath =>
      cases htarget
      cases hwallet : wallets walletId with
      | none => simp [HostCall.expected, hwallet] at h
      | some entropy =>
          refine ⟨entropy, rfl, ?_⟩
          simpa [HostCall.expected, hwallet, onlyWallet] using h
  | signTransaction target hdPath transfer =>
      cases htarget
      cases hwallet : wallets walletId with
      | none => simp [HostCall.expected, hwallet] at h
      | some entropy =>
          refine ⟨entropy, rfl, ?_⟩
          simpa [HostCall.expected, hwallet, onlyWallet] using h

theorem WalletStep.after_cases {wallets after : Wallets}
    {entry : HostRequest width × HostAnswer}
    (h : WalletStep libraries formats wallets entry after) :
    after = wallets ∨
      after = entry.1.call.effect entry.1.exchange.draw wallets := by
  cases h with
  | done hvalue => exact .inr rfl
  | failed hanswer hreason heffect => exact heffect

/-- Only the creation of a wallet gives its identifier this entropy. -/
theorem HostCall.effect_brings {call : HostCall} {draw : Draw}
    {wallets : Wallets} {walletId : Uuid} {entropy : Bytes}
    (hbefore : wallets walletId ≠ some entropy)
    (hafter : call.effect draw wallets walletId = some entropy) :
    call = .createWallet ∧ (Wallet.new draw).id = walletId ∧
      draw.entropy = entropy := by
  cases call with
  | createWallet =>
      rw [HostCall.effect, Function.update_apply] at hafter
      split_ifs at hafter with hid
      · exact ⟨rfl, hid.symm, Option.some.inj hafter⟩
      · exact absurd hafter hbefore
  | removeWallet target =>
      rw [HostCall.effect, Function.update_apply] at hafter
      split_ifs at hafter with hid
      exact absurd hafter hbefore
  | deriveAddress target hdPath => exact absurd hafter hbefore
  | signTransaction target hdPath transfer => exact absurd hafter hbefore

theorem HostCall.effect_of_remove {call : HostCall} {walletId : Uuid}
    (hcall : call = .removeWallet walletId) (draw : Draw) (wallets : Wallets) :
    call.effect draw wallets walletId = none := by
  subst hcall
  exact Function.update_self _ _ _

/--
On a device that began without wallets, an answer about a wallet is computed
from the entropy that an earlier creation drew for it, and no host was told
since then that the wallet is removed.
-/
theorem answers_come_from_created_wallets {Result : Type}
    (hfaithful : formats.Faithful) (hfits : RepliesFit libraries formats)
    (hosts : Dialogue (HostRequest width) HostAnswer Result)
    {before after : List (HostRequest width × HostAnswer)}
    {request : HostRequest width} {value : HostValue} {walletId : Uuid}
    (hrun : (hosts.run (HostRequest.serve libraries formats codec)
      emptyStorage).transcript =
        before ++ (request, some (.ok value)) :: after)
    (htarget : request.call.target = some walletId) :
    ∃ older creation newer, before = older ++ creation :: newer ∧
      creation.1.call = .createWallet ∧
      (Wallet.new creation.1.exchange.draw).id = walletId ∧
      request.call.expected libraries request.exchange.draw
        (onlyWallet walletId creation.1.exchange.draw.entropy) = some value ∧
      ∀ other ∈ newer, other.1.call = .removeWallet walletId →
        ∀ reply, other.2 ≠ some (.ok reply) := by
  obtain ⟨final, htrace, -⟩ := hosts.run_trace (fun request wallets storage h =>
    request.serve_step hfaithful hfits wallets storage h)
      (holds_emptyStorage formats codec)
  rw [hrun] at htrace
  obtain ⟨wallets, next, hbefore, hstep, -⟩ := htrace.split
  have hexpected : request.call.expected libraries request.exchange.draw
      wallets = some value := by
    cases hstep with
    | done hvalue => exact hvalue
    | failed hanswer _ _ => simp at hanswer
  obtain ⟨entropy, hwallet, hvalue⟩ :=
    HostCall.expected_of_target htarget hexpected
  rcases hbefore.last_cases
      (P := fun wallets => wallets walletId = some entropy) hwallet with
    ⟨hnone, -⟩ | ⟨older, creation, newer, rfl,
      ⟨first, second, hlast, hfirst, hsecond⟩, hnewer⟩
  · cases hnone
  · rcases hlast.after_cases with rfl | rfl
    · exact absurd hsecond hfirst
    obtain ⟨hcreate, hid, rfl⟩ := HostCall.effect_brings hfirst hsecond
    refine ⟨older, creation, newer, rfl, hcreate, hid, hvalue, ?_⟩
    rintro ⟨other, answer⟩ hother hremove reply rfl
    obtain ⟨third, fourth, hremoved, -, hkept⟩ := hnewer _ hother
    cases hremoved with
    | done _ =>
        rw [HostCall.effect_of_remove hremove] at hkept
        cases hkept
    | failed hanswer _ _ => simp at hanswer

end Provenance

theorem signature_of_made_wallet :
    ∃ older creation newer,
      [(makeWallet, (some (.ok (.walletId (Wallet.new someDraw).id)) :
          HostAnswer)),
        (askAddress, some (.ok (.address someAddress)))] =
          older ++ creation :: newer ∧
      creation.1.call = .createWallet ∧
      askSignature.call.expected someLibraries askSignature.exchange.draw
        (onlyWallet (Wallet.new someDraw).id
          creation.1.exchange.draw.entropy) =
        some (.signature (List.replicate 32 7)) := by
  have hrun : (makeUseAndDrop.run (HostRequest.serve someLibraries
      Bincode.formats SecureDb.Bincode.codec) emptyStorage).transcript =
        [(makeWallet, some (.ok (.walletId (Wallet.new someDraw).id))),
          (askAddress, some (.ok (.address someAddress)))] ++
          (askSignature, some (.ok (.signature (List.replicate 32 7)))) ::
            [(dropWallet, some (.ok .removed))] := makeUseAndDrop_transcript
  obtain ⟨older, creation, newer, hbefore, hcreate, -, hvalue, -⟩ :=
    answers_come_from_created_wallets Bincode.formats_faithful
      someLibraries_repliesFit makeUseAndDrop hrun rfl
  exact ⟨older, creation, newer, hbefore, hcreate, hvalue⟩

end TrustZoneSdk.EthWallet
