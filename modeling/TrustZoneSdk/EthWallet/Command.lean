import TrustZoneSdk.EthWallet.Bincode
import TrustZoneSdk.Utee.Call

/-!
# The commands of the Ethereum wallet

A command decodes its input, works on the wallet database and writes its reply
into a buffer whose size the host has chosen.  The database is written before
the reply, and nothing takes the write back when there is no reply or it does
not fit.
-/

namespace TrustZoneSdk.EthWallet

open TrustZoneSdk.Foundation
open TrustZoneSdk.SecureDb
open TrustZoneSdk.Utee

def dbName : String := "eth_wallet_db"

inductive WalletError where
  | bincode (message : String)
  | unsupportedCommand
  | entropyLength
  | client (cause : ClientError)
  | walletNotFound (context : String) (cause : ClientError)
  | crypto (message : String)
  deriving DecidableEq, Repr

structure Libraries where
  phrase : Bytes → String
  deriveAddress : Wallet → String → Except String DeriveAddressOutput
  signTransaction : Wallet → String → EthTransaction → Except String Bytes
  debug : WalletError → String

structure Draw where
  entropy : Bytes
  random : Uuid
  size : entropy.length = 32

def Wallet.new (draw : Draw) : Wallet :=
  ⟨draw.random.fromRandomBytes, draw.entropy⟩

abbrev WalletM (α : Type) := TeeM WalletError α

/-! ## Handlers -/

section Handlers

variable (libraries : Libraries) (formats : Formats) (codec : KeyListCodec)
  (order : IterationOrder String)

def Wallet.getMnemonic (wallet : Wallet) : Except WalletError String :=
  if wallet.entropy.length = 32 then .ok (libraries.phrase wallet.entropy)
  else .error .entropyLength

def withClient {α : Type} (client : SecureStorageClient) (x : ClientM α) :
    TeeM ClientError α :=
  Fallible.zoom (fun tee => ⟨tee, client⟩) (fun _ state => state.tee) x

def createWallet (draw : Draw) (_input : CreateWalletInput) :
    WalletM CreateWalletOutput := do
  let wallet := Wallet.new draw
  let mnemonic ← Fallible.ofExcept (wallet.getMnemonic libraries)
  let dbClient ← (SecureStorageClient.open codec dbName).mapError .client
  (withClient dbClient (SecureStorageClient.put codec walletTable
    formats.wallet order wallet)).mapError .client
  return ⟨wallet.id, mnemonic⟩

def removeWallet (input : RemoveWalletInput) :
    WalletM RemoveWalletOutput := do
  let dbClient ← (SecureStorageClient.open codec dbName).mapError .client
  (withClient dbClient (SecureStorageClient.deleteEntry codec walletTable
    order input.walletId)).mapError .client
  return ⟨⟩

def loadWallet (context : String) (walletId : Uuid) : WalletM Wallet := do
  let dbClient ← (SecureStorageClient.open codec dbName).mapError .client
  (dbClient.get walletTable formats.wallet walletId).mapError
    (.walletNotFound context)

def deriveAddress (input : DeriveAddressInput) :
    WalletM DeriveAddressOutput := do
  let wallet ← loadWallet formats codec
    "[+] Deriving address: error: wallet not found: " input.walletId
  Fallible.ofExcept
    ((libraries.deriveAddress wallet input.hdPath).mapError .crypto)

def signTransaction (input : SignTransactionInput) :
    WalletM SignTransactionOutput := do
  let wallet ← loadWallet formats codec
    "[+] Sign transaction: error: wallet not found: " input.walletId
  Fallible.ofExcept
    (((libraries.signTransaction wallet input.hdPath
      input.transaction).mapError .crypto).map .mk)

def process {T U : Type} (inputs : ValueCodec T) (outputs : ValueCodec U)
    (serializedInput : Bytes) (handler : T → WalletM U) : WalletM Bytes := do
  let input ← Fallible.ofExcept
    ((inputs.deserialize serializedInput).mapError .bincode)
  let output ← handler input
  Fallible.ofExcept ((outputs.serialize output).mapError .bincode)

def handleInvoke (draw : Draw) (command : Command) (serializedInput : Bytes) :
    WalletM Bytes :=
  match command with
  | .createWallet =>
      process formats.createWalletInput formats.createWalletOutput
        serializedInput (createWallet libraries formats codec order draw)
  | .removeWallet =>
      process formats.removeWalletInput formats.removeWalletOutput
        serializedInput (removeWallet codec order)
  | .deriveAddress =>
      process formats.deriveAddressInput formats.deriveAddressOutput
        serializedInput (deriveAddress libraries formats codec)
  | .signTransaction =>
      process formats.signTransactionInput formats.signTransactionOutput
        serializedInput (signTransaction libraries formats codec)
  | .unknown => Fallible.fail .unsupportedCommand

end Handlers

/-! ## The entry point -/

structure Invocation (width : PointerWidth) where
  call : CallState width
  tee : Tee

section EntryPoint

variable {width : PointerWidth} (libraries : Libraries) (formats : Formats)
  (codec : KeyListCodec) (order : IterationOrder String) (draw : Draw)

/--
The tuple of one input, one output and two empty parameters.  What the wrapper
of the output keeps is the size of its buffer.
-/
def fromRaw (rawTypes : BitVec 32) (raws : ParamIndex → RawParam width) :
    Except Error Nat := do
  let _ ← ParameterMemrefInput.fromRaw (paramTypeGet rawTypes .arg0)
    (raws .arg0)
  let _ ← ParameterMemrefOutput.fromRaw (paramTypeGet rawTypes .arg1)
    (raws .arg1)
  checkTypeIs (paramTypeGet rawTypes .arg2) .none
  checkTypeIs (paramTypeGet rawTypes .arg3) .none
  return (raws .arg1).size

def withSlot (call : CallState width) (i : ParamIndex)
    (slot : SlotState width) : CallState width :=
  ⟨Function.update call.raws i slot.raw, slot.memory⟩

def onSlot {ε α : Type} (i : ParamIndex)
    (f : SlotState width → α × SlotState width) :
    Fallible ε (Invocation width) α := fun state =>
  let reply := f (state.call.slot i)
  .ok reply.1 ⟨withSlot state.call i reply.2, state.tee⟩

def reply (capacity : Nat) (handled : Except WalletError Bytes) :
    Fallible Error (Invocation width) Unit := do
  match handled with
  | .ok output =>
      Fallible.ofExcept
        (← onSlot .arg1 fun p1 => setOutput capacity p1 output)
  | .error error =>
      Fallible.ofExcept (← onSlot .arg1 fun p1 =>
        setOutput capacity p1 (asBytes (libraries.debug error)))
      Fallible.fail (Error.new .badParameters)

def invokeCommand (cmdId : UInt32) (capacity : Nat) :
    Fallible Error (Invocation width) Unit := do
  Fallible.ofExcept (← onSlot .arg1 fun p1 => setUpdatedSize capacity p1 0)
  let input ← onSlot .arg0 fun p0 => readToVec p0.raw.size p0
  let handled ← Fallible.zoom Invocation.tee
    (fun state tee => { state with tee })
    (handleInvoke libraries formats codec order draw (.fromPrimitive cmdId)
      input).attempt
  reply libraries capacity handled

def invokeCommandEntryPoint (cmdId : UInt32) (rawTypes : BitVec 32) :
    Fallible Empty (Invocation width) TeeResult := do
  match fromRaw rawTypes (← get).call.raws with
  | .error error => return error.rawCode
  | .ok capacity =>
      match ← (invokeCommand libraries formats codec order draw cmdId
        capacity).attempt with
      | .ok () => return teeSuccess
      | .error error => return error.rawCode

end EntryPoint

/-! ## What a command does to the database -/

abbrev keyOf (id : Uuid) : String :=
  walletTable.concatKey (walletTable.keyToString id)

theorem keyOf_ne_dbName (id : Uuid) : keyOf id ≠ dbName :=
  (walletTable.isStorageKey_concatKey _).ne_name (by decide)

/-- The bytes stored for a wallet, as a client opened now would read them. -/
def walletAt (codec : KeyListCodec) (storage : Storage) (id : Uuid) :
    Option Bytes :=
  match SecureStorageDb.persistedKeyList codec dbName storage with
  | none => none
  | some keys =>
      (SecureStorageDb.contents storage ⟨dbName, keys⟩).lookup (keyOf id)

section Effects

variable (libraries : Libraries) (formats : Formats) (codec : KeyListCodec)
  (order : IterationOrder String) (draw : Draw) {storage : Storage}

variable {codec} in
theorem walletAt_eq {keys : Finset String}
    (hkeys : SecureStorageDb.persistedKeyList codec dbName storage = some keys)
    (id : Uuid) :
    walletAt codec storage id =
      if keyOf id ∈ keys then storage (asBytes (keyOf id)) else none := by
  simp [walletAt, hkeys]

variable {codec} in
theorem clientOpen_unreadable {name : String}
    (h : SecureStorageDb.persistedKeyList codec name storage = none) :
    ∃ error, (SecureStorageClient.open codec name).run ⟨storage, []⟩ =
      .error (.failed error) ⟨storage, []⟩ := by
  have hload : (loadFromSecureStorage (asBytes name)).run ⟨storage, []⟩ =
      .ok (storage (asBytes name)) ⟨storage, []⟩ := by
    simpa using loadFromSecureStorage_served storage (asBytes name)
      (served_nil 3)
  unfold SecureStorageDb.persistedKeyList at h
  cases hobject : storage (asBytes name) with
  | none => simp [hobject] at h
  | some data =>
      cases hkeys : codec.deserialize data with
      | ok keys => simp [hobject, hkeys] at h
      | error message =>
          refine ⟨.db (.bincode message), ?_⟩
          simp [SecureStorageClient.open, SecureStorageDb.open, hload, hobject,
            hkeys, Halt.map]

variable {codec} in
theorem clientOpen_readable {name : String} {keys : Finset String}
    (h : SecureStorageDb.persistedKeyList codec name storage = some keys) :
    (SecureStorageClient.open codec name).run ⟨storage, []⟩ =
      .ok ⟨⟨name, keys⟩, false⟩ ⟨storage, []⟩ := by
  simp [SecureStorageClient.open, SecureStorageDb.open_undisturbed _ _ h]

theorem getMnemonic_new :
    (Wallet.new draw).getMnemonic libraries =
      .ok (libraries.phrase draw.entropy) :=
  if_pos draw.size

theorem createWallet_refused (input : CreateWalletInput)
    (h : SecureStorageDb.persistedKeyList codec dbName storage = none ∨
      ∃ message, formats.wallet.serialize (Wallet.new draw) =
        .error message) :
    ∃ error, (createWallet libraries formats codec order draw input).run
      ⟨storage, []⟩ = .error (.failed error) ⟨storage, []⟩ := by
  cases hkeys : SecureStorageDb.persistedKeyList codec dbName storage with
  | none =>
      obtain ⟨error, hopen⟩ := clientOpen_unreadable hkeys
      exact ⟨.client error, by
        simp [createWallet, getMnemonic_new, hopen, Halt.map]⟩
  | some keys =>
      obtain ⟨message, hmessage⟩ := h.resolve_left (by simp [hkeys])
      refine ⟨.client (.bincode message), ?_⟩
      simp [createWallet, getMnemonic_new, clientOpen_readable hkeys,
        withClient, SecureStorageClient.put, hmessage, fromSerde, Halt.map]

theorem createWallet_readable {keys : Finset String} {bytes : Bytes}
    (input : CreateWalletInput)
    (h : SecureStorageDb.persistedKeyList codec dbName storage = some keys)
    (hbytes : formats.wallet.serialize (Wallet.new draw) = .ok bytes) :
    (createWallet libraries formats codec order draw input).run
        ⟨storage, []⟩ =
      .ok ⟨(Wallet.new draw).id, libraries.phrase draw.entropy⟩
        ⟨SecureStorageDb.afterPut codec order storage ⟨dbName, keys⟩
          (walletTable.storageKey (Wallet.new draw)) bytes, []⟩ := by
  have hput := clientPut_undisturbed codec walletTable formats.wallet order
    storage ⟨dbName, keys⟩ hbytes
  simp [createWallet, getMnemonic_new, clientOpen_readable h, withClient, hput]

theorem removeWallet_missing {input : RemoveWalletInput}
    (h : walletAt codec storage input.walletId = none) :
    ∃ halt rest, (removeWallet codec order input).run ⟨storage, []⟩ =
      .error halt ⟨storage, rest⟩ := by
  cases hkeys : SecureStorageDb.persistedKeyList codec dbName storage with
  | none =>
      obtain ⟨error, hopen⟩ := clientOpen_unreadable hkeys
      exact ⟨.failed (.client error), [], by
        simp [removeWallet, hopen, Halt.map]⟩
  | some keys =>
      rw [walletAt_eq hkeys] at h
      have hmissing : keyOf input.walletId ∉ keys ∨
          storage (asBytes (keyOf input.walletId)) = none := by
        by_cases hlisted : keyOf input.walletId ∈ keys
        · rw [if_pos hlisted] at h
          exact .inr h
        · exact .inl hlisted
      obtain ⟨halt, rest, hdelete⟩ := clientDelete_missing codec walletTable
        order storage ⟨dbName, keys⟩ hmissing
      exact ⟨halt.map .client, rest, by
        simp [removeWallet, clientOpen_readable hkeys, withClient, hdelete]⟩

theorem removeWallet_present {keys : Finset String}
    {input : RemoveWalletInput}
    (hkeys : SecureStorageDb.persistedKeyList codec dbName storage = some keys)
    (h : walletAt codec storage input.walletId ≠ none) :
    (removeWallet codec order input).run ⟨storage, []⟩ =
      .ok ⟨⟩ ⟨SecureStorageDb.afterDelete codec order storage ⟨dbName, keys⟩
        (keyOf input.walletId), []⟩ := by
  rw [walletAt_eq hkeys] at h
  have hlisted : keyOf input.walletId ∈ keys := by
    by_contra hlisted
    exact h (if_neg hlisted)
  rw [if_pos hlisted] at h
  have hdelete := clientDelete_undisturbed codec walletTable order storage
    ⟨dbName, keys⟩ (Option.ne_none_iff_isSome.mp h) hlisted
  simp [removeWallet, clientOpen_readable hkeys, withClient, hdelete]

theorem clientGet_storage {V : Type} (storable : Storable V)
    (values : ValueCodec V) (db : SecureStorageDb) (key : storable.Key)
    (storage : Storage) :
    (Run.state ((SecureStorageClient.get storable values ⟨db, false⟩ key).run
      ⟨storage, []⟩)).storage = storage := by
  have hread : (Run.state ((db.get (storable.concatKey
      (storable.keyToString key))).run ⟨storage, []⟩)).storage = storage :=
    SecureStorageDb.get_storage storage db []
  cases hget : (db.get (storable.concatKey (storable.keyToString key))).run
      ⟨storage, []⟩ with
  | error halt tee =>
      rw [hget] at hread
      simpa [SecureStorageClient.get, SecureStorageClient.acquire, hget]
        using hread
  | ok bytes tee =>
      rw [hget] at hread
      cases hvalue : values.deserialize bytes <;>
        simpa [SecureStorageClient.get, SecureStorageClient.acquire, hget,
          hvalue, fromSerde] using hread

theorem loadWallet_storage (storage : Storage) (context : String)
    (walletId : Uuid) :
    (Run.state ((loadWallet formats codec context walletId).run
      ⟨storage, []⟩)).storage = storage := by
  cases hkeys : SecureStorageDb.persistedKeyList codec dbName storage with
  | none =>
      obtain ⟨error, hopen⟩ := clientOpen_unreadable hkeys
      simp [loadWallet, hopen]
  | some keys =>
      have hread := clientGet_storage walletTable formats.wallet
        ⟨dbName, keys⟩ walletId storage
      cases hget : (SecureStorageClient.get walletTable formats.wallet
          ⟨⟨dbName, keys⟩, false⟩ walletId).run ⟨storage, []⟩ <;>
        simpa [loadWallet, clientOpen_readable hkeys, hget] using hread

theorem bind_ofExcept_storage {α β : Type} {x : WalletM α}
    (h : (Run.state (x.run ⟨storage, []⟩)).storage = storage)
    (answer : α → Except WalletError β) :
    (Run.state ((x >>= fun value => Fallible.ofExcept (answer value)).run
      ⟨storage, []⟩)).storage = storage := by
  cases hrun : x.run ⟨storage, []⟩ with
  | error halt tee =>
      rw [hrun] at h
      simpa [hrun] using h
  | ok value tee =>
      rw [hrun] at h
      cases hanswer : answer value <;> simpa [hrun, hanswer] using h

theorem process_storage {T U : Type} (inputs : ValueCodec T)
    (outputs : ValueCodec U) {serializedInput : Bytes}
    {handler : T → WalletM U}
    (h : ∀ input, inputs.deserialize serializedInput = .ok input →
      (Run.state ((handler input).run ⟨storage, []⟩)).storage = storage) :
    (Run.state ((process inputs outputs serializedInput handler).run
      ⟨storage, []⟩)).storage = storage := by
  rw [process]
  cases hinput : inputs.deserialize serializedInput with
  | error message => rfl
  | ok input => exact bind_ofExcept_storage (h input hinput) _

/-- The serialized output of a command, or the error that there is none. -/
def serialized (output : Except String Bytes) (tee : Tee) :
    Run WalletError Tee Bytes :=
  match output with
  | .ok bytes => .ok bytes tee
  | .error message => .error (.failed (.bincode message)) tee

@[simp] theorem state_serialized (output : Except String Bytes) (tee : Tee) :
    Run.state (serialized output tee) = tee := by
  cases output <;> rfl

theorem serialized_inj {first second : Except String Bytes} {tee tee' : Tee}
    (h : serialized first tee = serialized second tee') :
    first = second ∧ tee = tee' := by
  cases first <;> cases second <;> cases h <;> exact ⟨rfl, rfl⟩

theorem process_done {T U : Type} {inputs : ValueCodec T}
    {outputs : ValueCodec U} {serializedInput : Bytes} {input : T}
    {handler : T → WalletM U} {output : U} {tee tee' : Tee}
    (hinput : inputs.deserialize serializedInput = .ok input)
    (hrun : (handler input).run tee = .ok output tee') :
    (process inputs outputs serializedInput handler).run tee =
      serialized (outputs.serialize output) tee' := by
  rw [process, hinput]
  cases houtput : outputs.serialize output <;>
    simp [Except.mapError, hrun, houtput, serialized]

inductive Changes (libraries : Libraries) (formats : Formats)
    (codec : KeyListCodec) (order : IterationOrder String) (draw : Draw)
    (storage : Storage) (serializedInput : Bytes) :
    Command → Storage → Except String Bytes → Prop
  | created {input : CreateWalletInput} {keys : Finset String} {bytes : Bytes}
      (hinput : formats.createWalletInput.deserialize serializedInput =
        .ok input)
      (hkeys : SecureStorageDb.persistedKeyList codec dbName storage =
        some keys)
      (hbytes : formats.wallet.serialize (Wallet.new draw) = .ok bytes) :
      Changes libraries formats codec order draw storage serializedInput
        .createWallet
        (SecureStorageDb.afterPut codec order storage ⟨dbName, keys⟩
          (walletTable.storageKey (Wallet.new draw)) bytes)
        (formats.createWalletOutput.serialize
          ⟨(Wallet.new draw).id, libraries.phrase draw.entropy⟩)
  | removed {input : RemoveWalletInput} {keys : Finset String}
      (hinput : formats.removeWalletInput.deserialize serializedInput =
        .ok input)
      (hkeys : SecureStorageDb.persistedKeyList codec dbName storage =
        some keys)
      (hpresent : walletAt codec storage input.walletId ≠ none) :
      Changes libraries formats codec order draw storage serializedInput
        .removeWallet
        (SecureStorageDb.afterDelete codec order storage ⟨dbName, keys⟩
          (keyOf input.walletId))
        (formats.removeWalletOutput.serialize ⟨⟩)

variable {libraries formats codec order draw} in
theorem Changes.handleInvoke_run {serializedInput : Bytes} {command : Command}
    {changed : Storage} {output : Except String Bytes}
    (h : Changes libraries formats codec order draw storage serializedInput
      command changed output) :
    (handleInvoke libraries formats codec order draw command
      serializedInput).run ⟨storage, []⟩ = serialized output ⟨changed, []⟩ := by
  cases h with
  | @created input keys bytes hinput hkeys hbytes =>
      exact process_done hinput (createWallet_readable libraries formats codec
        order draw input hkeys hbytes)
  | removed hinput hkeys hpresent =>
      exact process_done hinput
        (removeWallet_present codec order hkeys hpresent)

theorem handleInvoke_cases (storage : Storage) (command : Command)
    (serializedInput : Bytes) :
    (∃ changed output, Changes libraries formats codec order draw storage
      serializedInput command changed output) ∨
    (Run.state ((handleInvoke libraries formats codec order draw command
      serializedInput).run ⟨storage, []⟩)).storage = storage := by
  cases command with
  | createWallet =>
      by_cases hrefused :
          SecureStorageDb.persistedKeyList codec dbName storage = none ∨
            ∃ message, formats.wallet.serialize (Wallet.new draw) =
              .error message
      · refine .inr (process_storage _ _ fun input _ => ?_)
        obtain ⟨error, hrun⟩ := createWallet_refused libraries formats codec
          order draw input hrefused
        rw [hrun]
        rfl
      · obtain ⟨hkeys, hbytes⟩ := not_or.mp hrefused
        obtain ⟨keys, hkeys⟩ := Option.ne_none_iff_exists'.mp hkeys
        cases hwallet : formats.wallet.serialize (Wallet.new draw) with
        | error message => exact absurd ⟨message, hwallet⟩ hbytes
        | ok bytes =>
            cases hinput :
                formats.createWalletInput.deserialize serializedInput with
            | error message =>
                refine .inr (process_storage _ _ fun input hok => ?_)
                cases hinput.symm.trans hok
            | ok input => exact .inl ⟨_, _, .created hinput hkeys hwallet⟩
  | removeWallet =>
      cases hinput : formats.removeWalletInput.deserialize serializedInput with
      | error message =>
          refine .inr (process_storage _ _ fun input hok => ?_)
          cases hinput.symm.trans hok
      | ok input =>
          by_cases hpresent : walletAt codec storage input.walletId = none
          · refine .inr (process_storage _ _ fun other hok => ?_)
            obtain rfl := Except.ok.inj (hinput.symm.trans hok)
            obtain ⟨halt, rest, hrun⟩ :=
              removeWallet_missing codec order hpresent
            rw [hrun]
            rfl
          · cases hkeys :
                SecureStorageDb.persistedKeyList codec dbName storage with
            | none => exact absurd (by simp [walletAt, hkeys]) hpresent
            | some keys => exact .inl ⟨_, _, .removed hinput hkeys hpresent⟩
  | deriveAddress =>
      exact .inr (process_storage _ _ fun input _ => bind_ofExcept_storage
        (loadWallet_storage formats codec storage _ input.walletId) _)
  | signTransaction =>
      exact .inr (process_storage _ _ fun input _ => bind_ofExcept_storage
        (loadWallet_storage formats codec storage _ input.walletId) _)
  | unknown => exact .inr rfl

theorem walletAt_afterPut {keys : Finset String}
    (h : SecureStorageDb.persistedKeyList codec dbName storage = some keys)
    (wallet : Wallet) (bytes : Bytes) (id : Uuid) :
    walletAt codec (SecureStorageDb.afterPut codec order storage
        ⟨dbName, keys⟩ (walletTable.storageKey wallet) bytes) id =
      if keyOf id = walletTable.storageKey wallet then some bytes
      else walletAt codec storage id := by
  have hlist : SecureStorageDb.persistedKeyList codec dbName
      (SecureStorageDb.afterPut codec order storage ⟨dbName, keys⟩
        (walletTable.storageKey wallet) bytes) =
      some (insert (walletTable.storageKey wallet) keys) :=
    SecureStorageDb.persistedKeyList_withKeyList codec order _ dbName _
  rw [walletAt_eq hlist, walletAt_eq h]
  by_cases hsame : keyOf id = walletTable.storageKey wallet
  · rw [if_pos hsame, hsame, if_pos (Finset.mem_insert_self _ _),
      SecureStorageDb.afterPut_self codec order storage _ _ bytes
        (keyOf_ne_dbName wallet.id)]
  · rw [if_neg hsame, SecureStorageDb.afterPut_of_ne order
      (by simpa using keyOf_ne_dbName id) (by simpa using hsame)]
    simp [hsame]

theorem walletAt_afterDelete {keys : Finset String}
    (h : SecureStorageDb.persistedKeyList codec dbName storage = some keys)
    (target id : Uuid) :
    walletAt codec (SecureStorageDb.afterDelete codec order storage
        ⟨dbName, keys⟩ (keyOf target)) id =
      if keyOf id = keyOf target then none else walletAt codec storage id := by
  have hlist : SecureStorageDb.persistedKeyList codec dbName
      (SecureStorageDb.afterDelete codec order storage ⟨dbName, keys⟩
        (keyOf target)) = some (keys.erase (keyOf target)) :=
    SecureStorageDb.persistedKeyList_withKeyList codec order _ dbName _
  rw [walletAt_eq hlist, walletAt_eq h]
  by_cases hsame : keyOf id = keyOf target
  · rw [if_pos hsame, hsame, if_neg (Finset.notMem_erase _ _)]
  · rw [if_neg hsame, SecureStorageDb.afterDelete_of_ne order
      (by simpa using keyOf_ne_dbName id) (by simpa using hsame)]
    simp [hsame]

theorem walletAt_created_iff {keys : Finset String}
    (h : SecureStorageDb.persistedKeyList codec dbName storage = some keys)
    (wallet : Wallet) (bytes : Bytes) :
    (∀ id, walletAt codec (SecureStorageDb.afterPut codec order storage
        ⟨dbName, keys⟩ (walletTable.storageKey wallet) bytes) id =
          walletAt codec storage id) ↔
      walletAt codec storage wallet.id = some bytes := by
  constructor
  · intro hsame
    rw [← hsame wallet.id, walletAt_afterPut codec order h]
    exact if_pos rfl
  · intro hstored id
    rw [walletAt_afterPut codec order h]
    split_ifs with hkey
    · rw [walletAt_eq h] at hstored ⊢
      rw [hkey]
      exact hstored.symm
    · rfl

end Effects

/-! ## Whether a failed command leaves the wallets alone -/

section Replies

variable {width : PointerWidth} (libraries : Libraries) (formats : Formats)
  (codec : KeyListCodec) (order : IterationOrder String) (draw : Draw)

theorem setOutput_fst {capacity : Nat} (h : capacity < 2 ^ width.bits)
    (p1 : SlotState width) (data : Bytes) :
    (setOutput capacity p1 data).1 =
      if data.length ≤ capacity then .ok ()
      else .error (Error.new .shortBuffer) := by
  unfold setOutput writeAt checkedAdd
  by_cases hfits : data.length ≤ capacity
  · rw [if_pos hfits, if_pos (by omega)]
    simp only [Nat.zero_add]
    rw [if_neg (by omega)]
  · rw [if_neg hfits]
    by_cases hsize : 0 + data.length < 2 ^ width.bits
    · rw [if_pos hsize]
      simp only [Nat.zero_add]
      rw [if_pos (by omega)]
    · rw [if_neg hsize]

theorem fromRaw_capacity {rawTypes : BitVec 32}
    {raws : ParamIndex → RawParam width} {capacity : Nat}
    (h : fromRaw rawTypes raws = .ok capacity) :
    capacity < 2 ^ width.bits := by
  have hsize : capacity = (raws .arg1).size := by
    unfold fromRaw at h
    simp only [bind, Except.bind] at h
    split at h <;> try cases h
    split at h <;> try cases h
    split at h <;> try cases h
    split at h <;> cases h
    rfl
  rw [hsize]
  exact (raws .arg1).size_lt

@[simp] theorem run_onSlot {ε α : Type} (i : ParamIndex)
    (f : SlotState width → α × SlotState width) (call : CallState width)
    (tee : Tee) :
    (onSlot i f : Fallible ε (Invocation width) α).run ⟨call, tee⟩ =
      .ok (f (call.slot i)).1
        ⟨withSlot call i (f (call.slot i)).2, tee⟩ := rfl

theorem reply_run {capacity : Nat} (h : capacity < 2 ^ width.bits)
    (handled : Except WalletError Bytes) (call : CallState width) (tee : Tee) :
    ∃ call', (reply libraries capacity handled).run ⟨call, tee⟩ =
      match handled with
      | .ok output =>
          if output.length ≤ capacity then .ok () ⟨call', tee⟩
          else .error (.failed (Error.new .shortBuffer)) ⟨call', tee⟩
      | .error error =>
          if (asBytes (libraries.debug error)).length ≤ capacity then
            .error (.failed (Error.new .badParameters)) ⟨call', tee⟩
          else .error (.failed (Error.new .shortBuffer)) ⟨call', tee⟩ := by
  cases handled with
  | ok output =>
      refine ⟨withSlot call .arg1
        (setOutput capacity (call.slot .arg1) output).2, ?_⟩
      rw [reply, EStateM.run_bind, run_onSlot]
      simp only [setOutput_fst h]
      split_ifs <;> rfl
  | error error =>
      refine ⟨withSlot call .arg1 (setOutput capacity (call.slot .arg1)
        (asBytes (libraries.debug error))).2, ?_⟩
      rw [reply, EStateM.run_bind, run_onSlot]
      simp only [setOutput_fst h]
      split_ifs <;> rfl

def inputOf (call : CallState width) : Bytes :=
  (readToVec (call.raws .arg0).size (call.slot .arg0)).1

theorem invokeCommand_run (cmdId : UInt32) (capacity : Nat)
    (call : CallState width) (tee : Tee) :
    ∃ call',
      (invokeCommand libraries formats codec order draw cmdId capacity).run
          ⟨call, tee⟩ =
        match (handleInvoke libraries formats codec order draw
          (.fromPrimitive cmdId) (inputOf call)).run tee with
        | .ok output tee' =>
            (reply libraries capacity (.ok output)).run ⟨call', tee'⟩
        | .error (.failed error) tee' =>
            (reply libraries capacity (.error error)).run ⟨call', tee'⟩
        | .error .killed tee' => .error .killed ⟨call', tee'⟩ := by
  have hupdated : (setUpdatedSize capacity (call.slot .arg1) 0).1 =
      .ok () := by
    simp [setUpdatedSize]
  generalize hcleared : withSlot call .arg1
    (setUpdatedSize capacity (call.slot .arg1) 0).2 = cleared
  have hinput : (readToVec (cleared.slot .arg0).raw.size
      (cleared.slot .arg0)).1 = inputOf call := by
    rw [← hcleared]
    rfl
  refine ⟨withSlot cleared .arg0
    (readToVec (cleared.slot .arg0).raw.size (cleared.slot .arg0)).2, ?_⟩
  simp only [invokeCommand, EStateM.run_bind, run_onSlot, hupdated, hcleared,
    hinput, Fallible.run_ofExcept_ok, Fallible.run_zoom, Fallible.run_attempt]
  cases (handleInvoke libraries formats codec order draw (.fromPrimitive cmdId)
      (inputOf call)).run tee with
  | ok output tee' => rfl
  | error halt tee' => cases halt <;> rfl

variable {rawTypes : BitVec 32} {call : CallState width} {capacity : Nat}

theorem invokeCommandEntryPoint_eq
    (h : fromRaw rawTypes call.raws = .ok capacity) (cmdId : UInt32)
    (tee : Tee) :
    (invokeCommandEntryPoint libraries formats codec order draw cmdId
        rawTypes).run ⟨call, tee⟩ =
      match (invokeCommand libraries formats codec order draw cmdId
        capacity).run ⟨call, tee⟩ with
      | .ok _ state => .ok teeSuccess state
      | .error (.failed error) state => .ok error.rawCode state
      | .error .killed state => .error .killed state := by
  simp only [invokeCommandEntryPoint, EStateM.run_bind, EStateM.run_get, h,
    Fallible.run_attempt]
  cases (invokeCommand libraries formats codec order draw cmdId capacity).run
      ⟨call, tee⟩ with
  | ok value state => rfl
  | error halt state => cases halt <;> rfl

theorem invokeCommandEntryPoint_undecoded {error : Error}
    (h : fromRaw rawTypes call.raws = .error error) (cmdId : UInt32)
    (tee : Tee) :
    (invokeCommandEntryPoint libraries formats codec order draw cmdId
        rawTypes).run ⟨call, tee⟩ = .ok error.rawCode ⟨call, tee⟩ := by
  simp only [invokeCommandEntryPoint, EStateM.run_bind, EStateM.run_get, h]
  rfl

def answered (capacity : Nat) (call : CallState width) :
    Run WalletError Tee Bytes → Run Empty (Invocation width) TeeResult
  | .ok output tee =>
      .ok (if output.length ≤ capacity then teeSuccess
        else (Error.new .shortBuffer).rawCode) ⟨call, tee⟩
  | .error (.failed error) tee =>
      .ok (if (asBytes (libraries.debug error)).length ≤ capacity then
        (Error.new .badParameters).rawCode
        else (Error.new .shortBuffer).rawCode) ⟨call, tee⟩
  | .error .killed tee => .error .killed ⟨call, tee⟩

theorem answered_tee {run : Run WalletError Tee Bytes} {code : TeeResult}
    {final : Invocation width}
    (h : answered libraries capacity call run = .ok code final) :
    final.tee = Run.state run := by
  cases run with
  | ok output tee =>
      cases h
      rfl
  | error halt tee =>
      cases halt with
      | killed => cases h
      | failed error =>
          cases h
          rfl

/--
The code tells whether the command was handled and whether its reply fits;
what the handling left in the storage stays either way.
-/
theorem invokeCommandEntryPoint_run
    (h : fromRaw rawTypes call.raws = .ok capacity) (cmdId : UInt32)
    (tee : Tee) :
    ∃ call',
      (invokeCommandEntryPoint libraries formats codec order draw cmdId
          rawTypes).run ⟨call, tee⟩ =
        answered libraries capacity call'
          ((handleInvoke libraries formats codec order draw
            (.fromPrimitive cmdId) (inputOf call)).run tee) := by
  have hcapacity := fromRaw_capacity h
  obtain ⟨call', hinvoke⟩ := invokeCommand_run libraries formats codec order
    draw cmdId capacity call tee
  rw [invokeCommandEntryPoint_eq libraries formats codec order draw h, hinvoke]
  cases (handleInvoke libraries formats codec order draw (.fromPrimitive cmdId)
      (inputOf call)).run tee with
  | ok output tee' =>
      obtain ⟨replied, hreply⟩ :=
        reply_run libraries hcapacity (.ok output) call' tee'
      refine ⟨replied, ?_⟩
      simp only [hreply, answered]
      split_ifs <;> rfl
  | error halt tee' =>
      cases halt with
      | killed => exact ⟨call', rfl⟩
      | failed error =>
          obtain ⟨replied, hreply⟩ :=
            reply_run libraries hcapacity (.error error) call' tee'
          refine ⟨replied, ?_⟩
          simp only [hreply, answered]
          split_ifs <;> rfl

/-- There is no reply, or it is longer than the buffer for it. -/
def Unanswered (capacity : Nat) (output : Except String Bytes) : Prop :=
  ∀ reply, output = .ok reply → capacity < reply.length

theorem answered_serialized (output : Except String Bytes) (storage : Storage) :
    ∃ code, answered libraries capacity call (serialized output
        ⟨storage, []⟩) = .ok code ⟨call, ⟨storage, []⟩⟩ ∧
      (code ≠ teeSuccess ↔ Unanswered capacity output) := by
  have hshort : (Error.new .shortBuffer).rawCode ≠ teeSuccess := by decide
  have hbad : (Error.new .badParameters).rawCode ≠ teeSuccess := by decide
  cases output with
  | ok bytes =>
      refine ⟨_, rfl, ?_⟩
      by_cases hfits : bytes.length ≤ capacity
      · simp [hfits, Unanswered]
      · simp [hfits, Unanswered, hshort, Nat.lt_of_not_le hfits]
  | error message =>
      refine ⟨_, rfl, iff_of_true ?_ nofun⟩
      split_ifs
      · exact hbad
      · exact hshort

/--
A wallet is created or removed, but there is no reply, or it does not fit into
the buffer of the host.
-/
inductive ReplyLost (rawTypes : BitVec 32) (cmdId : UInt32)
    (call : CallState width) (storage : Storage) : Prop
  | created {capacity : Nat} {input : CreateWalletInput} {bytes : Bytes}
      (hcommand : Command.fromPrimitive cmdId = .createWallet)
      (hcapacity : fromRaw rawTypes call.raws = .ok capacity)
      (hinput : formats.createWalletInput.deserialize (inputOf call) =
        .ok input)
      (hreadable :
        SecureStorageDb.persistedKeyList codec dbName storage ≠ none)
      (hbytes : formats.wallet.serialize (Wallet.new draw) = .ok bytes)
      (hfresh : walletAt codec storage (Wallet.new draw).id ≠ some bytes)
      (hlost : Unanswered capacity (formats.createWalletOutput.serialize
        ⟨(Wallet.new draw).id, libraries.phrase draw.entropy⟩))
  | removed {capacity : Nat} {input : RemoveWalletInput}
      (hcommand : Command.fromPrimitive cmdId = .removeWallet)
      (hcapacity : fromRaw rawTypes call.raws = .ok capacity)
      (hinput : formats.removeWalletInput.deserialize (inputOf call) =
        .ok input)
      (hpresent : walletAt codec storage input.walletId ≠ none)
      (hlost : Unanswered capacity
        (formats.removeWalletOutput.serialize ⟨⟩))

variable {libraries formats codec order draw} {cmdId : UInt32}
  {storage : Storage}

theorem replyLost_iff (hcapacity : fromRaw rawTypes call.raws = .ok capacity) :
    ReplyLost libraries formats codec draw rawTypes cmdId call storage ↔
      ∃ changed output, Changes libraries formats codec order draw storage
          (inputOf call) (.fromPrimitive cmdId) changed output ∧
        (∃ id, walletAt codec changed id ≠ walletAt codec storage id) ∧
        Unanswered capacity output := by
  constructor
  · intro h
    cases h with
    | created hcommand hraw hinput hreadable hbytes hfresh hlost =>
        obtain rfl := Except.ok.inj (hcapacity.symm.trans hraw)
        obtain ⟨keys, hkeys⟩ := Option.ne_none_iff_exists'.mp hreadable
        rw [hcommand]
        refine ⟨_, _, .created hinput hkeys hbytes, ?_, hlost⟩
        by_contra hsame
        exact hfresh ((walletAt_created_iff codec order hkeys _ _).mp
          fun id => not_not.mp fun hne => hsame ⟨id, hne⟩)
    | @removed _ input hcommand hraw hinput hpresent hlost =>
        obtain rfl := Except.ok.inj (hcapacity.symm.trans hraw)
        cases hkeys :
            SecureStorageDb.persistedKeyList codec dbName storage with
        | none => exact absurd (by simp [walletAt, hkeys]) hpresent
        | some keys =>
            rw [hcommand]
            refine ⟨_, _, .removed hinput hkeys hpresent,
              ⟨input.walletId, ?_⟩, hlost⟩
            rw [walletAt_afterDelete codec order hkeys, if_pos rfl]
            exact hpresent.symm
  · rintro ⟨changed, output, hchanges, ⟨id, hid⟩, hlost⟩
    generalize hcommand : Command.fromPrimitive cmdId = command at hchanges
    cases hchanges with
    | created hinput hkeys hbytes =>
        refine .created hcommand hcapacity hinput (by simp [hkeys]) hbytes
          (fun hstored => hid ?_) hlost
        exact (walletAt_created_iff codec order hkeys _ _).mpr hstored id
    | removed hinput hkeys hpresent =>
        exact .removed hcommand hcapacity hinput hpresent hlost

variable (libraries formats codec order draw)

/--
A command that returns an error leaves every wallet as it was, unless it has
created or removed one and its reply is lost.
-/
theorem failed_command_keeps_wallets_iff (rawTypes : BitVec 32)
    (cmdId : UInt32) (call : CallState width) (storage : Storage) :
    (∀ code final,
      (invokeCommandEntryPoint libraries formats codec order draw cmdId
        rawTypes).run ⟨call, ⟨storage, []⟩⟩ = .ok code final →
      code ≠ teeSuccess →
        ∀ id, walletAt codec final.tee.storage id =
          walletAt codec storage id) ↔
      ¬ ReplyLost libraries formats codec draw rawTypes cmdId call storage := by
  cases hdecode : fromRaw rawTypes call.raws with
  | error error =>
      constructor
      · rintro - (⟨-, hcapacity, -⟩ | ⟨-, hcapacity, -⟩)
        · cases hdecode.symm.trans hcapacity
        · cases hdecode.symm.trans hcapacity
      · intro _ code final hfinal _ id
        rw [invokeCommandEntryPoint_undecoded libraries formats codec order
          draw hdecode] at hfinal
        cases hfinal
        rfl
  | ok capacity =>
      obtain ⟨call', hrun⟩ := invokeCommandEntryPoint_run libraries formats
        codec order draw hdecode cmdId ⟨storage, []⟩
      rw [@replyLost_iff _ libraries formats codec order draw _ _ _ _ _
        hdecode]
      rcases handleInvoke_cases libraries formats codec order draw storage
        (.fromPrimitive cmdId) (inputOf call) with
        ⟨changed, output, hchanges⟩ | hkept
      · obtain ⟨code, hanswered, hcode⟩ :=
          @answered_serialized _ libraries call' capacity output changed
        rw [hchanges.handleInvoke_run, hanswered] at hrun
        constructor
        · rintro hkeep ⟨other, reply, hother, ⟨id, hid⟩, hlost⟩
          have hsame : serialized reply ⟨other, []⟩ =
              serialized output ⟨changed, []⟩ :=
            hother.handleInvoke_run.symm.trans hchanges.handleInvoke_run
          obtain ⟨rfl, htee⟩ := serialized_inj hsame
          obtain rfl : other = changed := congrArg Tee.storage htee
          exact hid (hkeep _ _ hrun (hcode.mpr hlost) id)
        · intro hlost found final hfinal hfailed id
          rw [hrun] at hfinal
          cases hfinal
          by_contra hid
          exact hlost ⟨changed, output, hchanges, ⟨id, hid⟩,
            hcode.mp hfailed⟩
      · constructor
        · rintro - ⟨changed, output, hchanges, ⟨id, hid⟩, -⟩
          rw [hchanges.handleInvoke_run, state_serialized] at hkept
          exact hid (congrArg (walletAt codec · id) hkept)
        · intro _ code final hfinal _ id
          rw [hrun] at hfinal
          rw [answered_tee libraries hfinal, hkept]

end Replies

/-! A host that offers 16 bytes for the reply. -/

def someLibraries : Libraries where
  phrase _ := "abandon"
  deriveAddress wallet _ :=
    if h : 20 ≤ wallet.entropy.length then
      .ok ⟨⟨wallet.entropy.take 20, by simpa using h⟩,
        wallet.entropy.take 33⟩
    else .error "no key"
  signTransaction wallet _ transaction :=
    .ok (wallet.entropy.take 65 ++ transaction.data)
  debug _ := "error"

def someDraw : Draw where
  entropy := List.replicate 32 7
  random := ⟨List.replicate 16 1, rfl⟩
  size := rfl

def shortReply : CallState .aarch64 where
  raws := ArgIndex.tuple (.ofMemref .aarch64 4096 0)
    (.ofMemref .aarch64 8192 16) (.ofMemref .aarch64 0 0)
    (.ofMemref .aarch64 0 0)
  memory := ⟨fun _ => 0, []⟩

theorem short_reply_keeps_new_wallet :
    ∃ final,
      (invokeCommandEntryPoint someLibraries Bincode.formats
          SecureDb.Bincode.codec .sorted someDraw 0 0x65).run
          ⟨shortReply, ⟨emptyStorage, []⟩⟩ =
        .ok (Error.new .shortBuffer).rawCode final ∧
      walletAt SecureDb.Bincode.codec emptyStorage
        (Wallet.new someDraw).id = none ∧
      walletAt SecureDb.Bincode.codec final.tee.storage
          (Wallet.new someDraw).id =
        some (Bincode.wallet.encode (Wallet.new someDraw)) := by
  have hdecode : fromRaw 0x65 shortReply.raws = .ok 16 := by decide
  have hkeys : SecureStorageDb.persistedKeyList SecureDb.Bincode.codec dbName
      emptyStorage = some ∅ := rfl
  obtain ⟨call', hrun⟩ := invokeCommandEntryPoint_run someLibraries
    Bincode.formats SecureDb.Bincode.codec .sorted someDraw hdecode 0
    ⟨emptyStorage, []⟩
  have hchanges : Changes someLibraries Bincode.formats SecureDb.Bincode.codec
      .sorted someDraw emptyStorage (inputOf shortReply) (.fromPrimitive 0)
      _ _ := .created rfl hkeys rfl
  rw [hchanges.handleInvoke_run] at hrun
  have hshort : ¬ (Bincode.uuid.encode (Wallet.new someDraw).id ++
      Bincode.text.encode "abandon").length ≤ 16 := by decide
  have houtput : Bincode.formats.createWalletOutput.serialize
      ⟨(Wallet.new someDraw).id, someLibraries.phrase someDraw.entropy⟩ =
      .ok (Bincode.uuid.encode (Wallet.new someDraw).id ++
        Bincode.text.encode "abandon") := rfl
  rw [houtput, serialized, answered, if_neg hshort] at hrun
  refine ⟨_, hrun, rfl, ?_⟩
  rw [walletAt_afterPut SecureDb.Bincode.codec .sorted hkeys]
  exact if_pos rfl

end TrustZoneSdk.EthWallet
