import TrustZoneSdk.EthWallet.Command

/-!
# The wallets behind the commands

The database stands for a map from identifiers to entropy.  Whatever calls the
TEE refuses and wherever it is switched off, a command has its whole effect on
that map or none, and a command that is not disturbed fails only if the map
gives it a reason to.
-/

namespace TrustZoneSdk.EthWallet

open TrustZoneSdk.Foundation
open TrustZoneSdk.SecureDb

theorem keyOf_inj {first second : Uuid} :
    keyOf first = keyOf second ↔ first = second := by
  refine ⟨fun h => ?_, fun h => h ▸ rfl⟩
  simp only [Storable.concatKey, String.append_right_inj] at h
  exact UuidOctets.text_injective (String.ofList_injective h)

theorem storageKey_eq_keyOf (wallet : Wallet) :
    walletTable.storageKey wallet = keyOf wallet.id := rfl

/-! ## The wallets of a storage -/

/-- The entropy of every wallet that exists. -/
abbrev Wallets := Uuid → Option Bytes

structure Holds (formats : Formats) (codec : KeyListCodec) (wallets : Wallets)
    (storage : Storage) : Prop where
  readable : ∃ keys,
    SecureStorageDb.persistedKeyList codec dbName storage = some keys
  stored : ∀ id, walletAt codec storage id = (wallets id).bind fun entropy =>
    (formats.wallet.serialize ⟨id, entropy⟩).toOption

theorem holds_emptyStorage (formats : Formats) (codec : KeyListCodec) :
    Holds formats codec (fun _ => none) emptyStorage where
  readable := ⟨∅, rfl⟩
  stored := fun _ => by
    simp [walletAt, SecureStorageDb.persistedKeyList, emptyStorage]

section Holding

variable {formats : Formats} {codec : KeyListCodec} {wallets : Wallets}
  {storage : Storage} {keys : Finset String}

theorem Holds.afterPut (h : Holds formats codec wallets storage)
    (hkeys : SecureStorageDb.persistedKeyList codec dbName storage = some keys)
    (order : IterationOrder String) {wallet : Wallet} {bytes : Bytes}
    (hbytes : formats.wallet.serialize wallet = .ok bytes) :
    Holds formats codec
      (Function.update wallets wallet.id (some wallet.entropy))
      (SecureStorageDb.afterPut codec order storage ⟨dbName, keys⟩
        (walletTable.storageKey wallet) bytes) where
  readable :=
    ⟨_, SecureStorageDb.persistedKeyList_withKeyList codec order _ dbName _⟩
  stored := by
    intro id
    rw [walletAt_afterPut codec order hkeys, storageKey_eq_keyOf]
    by_cases hid : id = wallet.id
    · subst hid
      rw [if_pos rfl, Function.update_self, Option.bind_some, hbytes]
      rfl
    · have hkey : keyOf id ≠ keyOf wallet.id := fun h => hid (keyOf_inj.mp h)
      rw [if_neg hkey, Function.update_of_ne hid, h.stored]

theorem walletAt_update
    (hkeys : SecureStorageDb.persistedKeyList codec dbName storage = some keys)
    (target : Uuid) (content : Option Bytes) (id : Uuid) :
    walletAt codec
        (Function.update storage (asBytes (keyOf target)) content) id =
      if id = target then (if keyOf target ∈ keys then content else none)
      else walletAt codec storage id := by
  have hkept := SecureStorageDb.persistedKeyList_update_of_ne codec storage
    (keyOf_ne_dbName target) content
  rw [walletAt_eq (hkept.trans hkeys), walletAt_eq hkeys]
  by_cases hid : id = target
  · subst hid
    rw [if_pos rfl, Function.update_self]
  · have hkey : asBytes (keyOf id) ≠ asBytes (keyOf target) := by
      simpa using fun h => hid (keyOf_inj.mp h)
    rw [if_neg hid, Function.update_of_ne hkey]

theorem Holds.valueWritten (h : Holds formats codec wallets storage)
    (hkeys : SecureStorageDb.persistedKeyList codec dbName storage = some keys)
    {wallet : Wallet} {bytes : Bytes}
    (hbytes : formats.wallet.serialize wallet = .ok bytes) :
    Holds formats codec (if keyOf wallet.id ∈ keys then
        Function.update wallets wallet.id (some wallet.entropy) else wallets)
      (Function.update storage (asBytes (walletTable.storageKey wallet))
        (some bytes)) where
  readable := ⟨keys, (SecureStorageDb.persistedKeyList_update_of_ne codec
    storage (keyOf_ne_dbName wallet.id) _).trans hkeys⟩
  stored := by
    intro id
    refine (walletAt_update hkeys wallet.id (some bytes) id).trans ?_
    by_cases hid : id = wallet.id
    · subst hid
      by_cases hlisted : keyOf wallet.id ∈ keys
      · simp [hlisted, hbytes, Except.toOption]
      · have habsent := h.stored wallet.id
        rw [walletAt_eq hkeys, if_neg hlisted] at habsent
        simpa [hlisted] using habsent
    · rw [if_neg hid, h.stored]
      split_ifs <;> simp [hid]

theorem Holds.valueDeleted (h : Holds formats codec wallets storage)
    (hkeys : SecureStorageDb.persistedKeyList codec dbName storage = some keys)
    (target : Uuid) :
    Holds formats codec (Function.update wallets target none)
      (Function.update storage (asBytes (keyOf target)) none) where
  readable := ⟨keys, (SecureStorageDb.persistedKeyList_update_of_ne codec
    storage (keyOf_ne_dbName target) _).trans hkeys⟩
  stored := by
    intro id
    rw [walletAt_update hkeys]
    by_cases hid : id = target
    · subst hid
      simp
    · rw [if_neg hid, Function.update_of_ne hid, h.stored]

theorem Holds.afterDelete (h : Holds formats codec wallets storage)
    (hkeys : SecureStorageDb.persistedKeyList codec dbName storage = some keys)
    (order : IterationOrder String) (target : Uuid) :
    Holds formats codec (Function.update wallets target none)
      (SecureStorageDb.afterDelete codec order storage ⟨dbName, keys⟩
        (keyOf target)) where
  readable :=
    ⟨_, SecureStorageDb.persistedKeyList_withKeyList codec order _ dbName _⟩
  stored := by
    intro id
    rw [walletAt_afterDelete codec order hkeys]
    by_cases hid : id = target
    · subst hid
      simp
    · have hkey : keyOf id ≠ keyOf target := fun h => hid (keyOf_inj.mp h)
      rw [if_neg hkey, Function.update_of_ne hid, h.stored]

theorem Holds.absent (h : Holds formats codec wallets storage)
    (hfaithful : formats.Faithful) {id : Uuid}
    (hnone : walletAt codec storage id = none) : wallets id = none := by
  rw [h.stored] at hnone
  cases hwallet : wallets id with
  | none => rfl
  | some entropy =>
      obtain ⟨bytes, hbytes, -⟩ := hfaithful.wallet ⟨id, entropy⟩
      rw [hwallet, Option.bind_some, hbytes] at hnone
      cases hnone

theorem Holds.present (h : Holds formats codec wallets storage)
    (hfaithful : formats.Faithful) {id : Uuid} {bytes : Bytes}
    (hsome : walletAt codec storage id = some bytes) :
    ∃ entropy, wallets id = some entropy ∧
      formats.wallet.deserialize bytes = .ok ⟨id, entropy⟩ := by
  rw [h.stored] at hsome
  cases hwallet : wallets id with
  | none => simp [hwallet] at hsome
  | some entropy =>
      obtain ⟨written, hbytes, hread⟩ := hfaithful.wallet ⟨id, entropy⟩
      rw [hwallet, Option.bind_some, hbytes] at hsome
      obtain rfl : written = bytes := Option.some.inj hsome
      exact ⟨entropy, rfl, hread⟩

end Holding

/-! ## Commands under any schedule -/

/--
What a command may come to.  If it is carried out, its answer is `expected`
and the wallets it leaves are `after`.
-/
inductive Served {α : Type} (formats : Formats) (codec : KeyListCodec)
    (wallets after : Wallets) (schedule : List Verdict)
    (expected : Option α) : Run WalletError Tee α → Prop
  | done {value : α} {tee : Tee} (hexpected : expected = some value)
      (hafter : Holds formats codec after tee.storage) :
      Served formats codec wallets after schedule expected (.ok value tee)
  | failed {halt : Halt WalletError} {tee : Tee}
      (hreason : schedule = [] → expected = none)
      (heffect : Holds formats codec wallets tee.storage ∨
        Holds formats codec after tee.storage) :
      Served formats codec wallets after schedule expected (.error halt tee)

section Serving

variable {formats : Formats} {codec : KeyListCodec} {wallets after : Wallets}
  {storage : Storage} {schedule rest : List Verdict} {keys : Finset String}
  {α β : Type} {expected : Option α}

theorem Served.of_rest {run : Run WalletError Tee α}
    (h : Served formats codec wallets after rest expected run)
    (hrest : schedule = [] → rest = []) :
    Served formats codec wallets after schedule expected run := by
  cases h with
  | done hexpected hafter => exact .done hexpected hafter
  | failed hreason heffect =>
      exact .failed (fun hnil => hreason (hrest hnil)) heffect

theorem Served.bind_ofExcept {x : WalletM α} {tee : Tee}
    (h : Served formats codec wallets after schedule expected (x.run tee))
    (answer : α → Except WalletError β) :
    Served formats codec wallets after schedule
      (expected.bind fun value => (answer value).toOption)
      ((x >>= fun value => Fallible.ofExcept (answer value)).run tee) := by
  rw [EStateM.run_bind]
  cases hrun : x.run tee with
  | error halt tee' =>
      rw [hrun] at h
      cases h with
      | failed hreason heffect =>
          exact .failed (fun hnil => by rw [hreason hnil]; rfl) heffect
  | ok value tee' =>
      rw [hrun] at h
      cases h with
      | done hexpected hafter =>
          subst hexpected
          rw [Option.bind_some]
          dsimp only
          cases answer value with
          | ok reply => exact .done rfl hafter
          | error error => exact .failed (fun _ => rfl) (.inr hafter)

theorem toOption_mapError {ε ε' α : Type} (f : ε → ε') (x : Except ε α) :
    (x.mapError f).toOption = x.toOption := by
  cases x <;> rfl

theorem toOption_map {ε α β : Type} (f : α → β) (x : Except ε α) :
    (x.map f).toOption = x.toOption.map f := by
  cases x <;> rfl

theorem Served.process {T : Type} {inputs : ValueCodec T}
    (outputs : ValueCodec α) {serializedInput : Bytes} {input : T}
    {handler : T → WalletM α} {tee : Tee}
    (h : Served formats codec wallets after schedule expected
      ((handler input).run tee))
    (hinput : inputs.deserialize serializedInput = .ok input) :
    Served formats codec wallets after schedule
      (expected.bind fun value => (outputs.serialize value).toOption)
      ((process inputs outputs serializedInput handler).run tee) := by
  have hserved := h.bind_ofExcept fun value =>
    (outputs.serialize value).mapError .bincode
  simp only [toOption_mapError] at hserved
  rw [EthWallet.process, hinput]
  exact hserved

theorem Served.afterOpen (h : Holds formats codec wallets storage)
    {body : SecureStorageClient → WalletM α}
    (hbody : ∀ keys rest,
      SecureStorageDb.persistedKeyList codec dbName storage = some keys →
      Served formats codec wallets after rest expected
        ((body ⟨⟨dbName, keys⟩, false⟩).run ⟨storage, rest⟩)) :
    Served formats codec wallets after schedule expected
      (((SecureStorageClient.open codec dbName).mapError .client >>=
        body).run ⟨storage, schedule⟩) := by
  obtain ⟨keys, hkeys⟩ := h.readable
  rw [EStateM.run_bind, Fallible.run_mapError]
  by_cases hnil : schedule = []
  · subst hnil
    rw [clientOpen_readable hkeys]
    exact hbody keys [] hkeys
  · obtain ⟨rest, hopen | ⟨halt, hopen⟩⟩ :=
      SecureStorageDb.open_cases codec storage hkeys schedule
    · simp only [SecureStorageClient.open, EStateM.run_bind,
        Fallible.run_mapError, hopen]
      exact (hbody keys rest hkeys).of_rest fun h => absurd h hnil
    · simp only [SecureStorageClient.open, EStateM.run_bind,
        Fallible.run_mapError, hopen]
      exact .failed (fun h => absurd h hnil) (.inl h)

def afterClient : Run DbError DbState α → Run WalletError Tee α
  | .ok value state => .ok value state.tee
  | .error halt state =>
      .error (halt.map fun cause => .client (.db cause)) state.tee

theorem run_putWallet (db : SecureStorageDb) (order : IterationOrder String)
    {wallet : Wallet} {bytes : Bytes}
    (hbytes : formats.wallet.serialize wallet = .ok bytes) (tee : Tee) :
    ((withClient ⟨db, false⟩ (SecureStorageClient.put codec walletTable
        formats.wallet order wallet)).mapError .client : WalletM Unit).run
          tee =
      afterClient ((SecureStorageDb.put codec order
        (walletTable.storageKey wallet) bytes).run ⟨tee, db⟩) := by
  simp only [Fallible.run_mapError, withClient, Fallible.run_zoom,
    SecureStorageClient.put, hbytes, fromSerde, EStateM.run_bind,
    EStateM.run_pure, EStateM.run_get, SecureStorageClient.acquire,
    SecureStorageClient.onDb, Bool.false_eq_true, if_false]
  cases (SecureStorageDb.put codec order (walletTable.storageKey wallet)
      bytes).run ⟨tee, db⟩ with
  | ok value state => rfl
  | error halt state => cases halt <;> rfl

theorem run_deleteWallet (db : SecureStorageDb) (order : IterationOrder String)
    (id : Uuid) (tee : Tee) :
    ((withClient ⟨db, false⟩ (SecureStorageClient.deleteEntry codec walletTable
        order id)).mapError .client : WalletM Unit).run tee =
      afterClient ((SecureStorageDb.delete codec order (keyOf id)).run
        ⟨tee, db⟩) := by
  simp only [Fallible.run_mapError, withClient, Fallible.run_zoom,
    SecureStorageClient.deleteEntry, EStateM.run_bind, EStateM.run_pure,
    EStateM.run_get, SecureStorageClient.acquire, SecureStorageClient.onDb,
    Bool.false_eq_true, if_false]
  cases (SecureStorageDb.delete codec order (keyOf id)).run ⟨tee, db⟩ with
  | ok value state => rfl
  | error halt state => cases halt <;> rfl

theorem ne_nil_of_unserved {calls : Nat} (h : served calls rest = false) :
    rest ≠ [] := by
  rintro rfl
  simp at h

variable (rest) in
theorem put_served_wallets (h : Holds formats codec wallets storage)
    (hkeys : SecureStorageDb.persistedKeyList codec dbName storage = some keys)
    (order : IterationOrder String) {wallet : Wallet} {bytes : Bytes}
    (hbytes : formats.wallet.serialize wallet = .ok bytes) :
    Served formats codec wallets
      (Function.update wallets wallet.id (some wallet.entropy)) rest (some ())
      (afterClient ((SecureStorageDb.put codec order
        (walletTable.storageKey wallet) bytes).run
          ⟨⟨storage, rest⟩, ⟨dbName, keys⟩⟩)) := by
  cases hvalue : served 1 rest with
  | false =>
      obtain ⟨halt, left, hrun⟩ := SecureStorageDb.put_unserved codec order
        storage ⟨dbName, keys⟩ (walletTable.storageKey wallet) bytes hvalue
      rw [hrun]
      exact .failed (fun hnil => absurd hnil (ne_nil_of_unserved hvalue))
        (.inl h)
  | true =>
      cases hlist : served 2 rest with
      | false =>
          obtain ⟨halt, left, hrun⟩ := SecureStorageDb.put_unlisted codec order
            storage ⟨dbName, keys⟩ (walletTable.storageKey wallet) bytes
            hvalue hlist
          rw [hrun]
          refine .failed (fun hnil => absurd hnil (ne_nil_of_unserved hlist)) ?_
          have hwritten := h.valueWritten hkeys hbytes
          split_ifs at hwritten
          · exact .inr hwritten
          · exact .inl hwritten
      | true =>
          rw [SecureStorageDb.put_served codec order storage ⟨dbName, keys⟩
            (walletTable.storageKey wallet) bytes hlist]
          exact .done rfl (h.afterPut hkeys order hbytes)

variable (hfaithful : formats.Faithful)

include hfaithful

variable (rest) in
theorem delete_served_wallets (h : Holds formats codec wallets storage)
    (hkeys : SecureStorageDb.persistedKeyList codec dbName storage = some keys)
    (order : IterationOrder String) (id : Uuid) :
    Served formats codec wallets (Function.update wallets id none) rest
      ((wallets id).map fun _ => ())
      (afterClient ((SecureStorageDb.delete codec order (keyOf id)).run
        ⟨⟨storage, rest⟩, ⟨dbName, keys⟩⟩)) := by
  have hobject := walletAt_eq hkeys id
  by_cases hkey : keyOf id ∈ keys
  · rw [if_pos hkey] at hobject
    cases hstored : storage (asBytes (keyOf id)) with
    | none =>
        obtain ⟨halt, left, hrun⟩ := SecureStorageDb.delete_unserved codec
          order storage ⟨dbName, keys⟩ hkey (.inr hstored)
        rw [hrun, h.absent hfaithful (hobject.trans hstored)]
        exact .failed (fun _ => rfl) (.inl h)
    | some bytes =>
        obtain ⟨entropy, hwallet, -⟩ :=
          h.present hfaithful (hobject.trans hstored)
        rw [hwallet]
        cases hvalue : served 2 rest with
        | false =>
            obtain ⟨halt, left, hrun⟩ := SecureStorageDb.delete_unserved codec
              order storage ⟨dbName, keys⟩ hkey (.inl hvalue)
            rw [hrun]
            exact .failed (fun hnil => absurd hnil (ne_nil_of_unserved hvalue))
              (.inl h)
        | true =>
            cases hlist : served 3 rest with
            | false =>
                obtain ⟨halt, left, hrun⟩ := SecureStorageDb.delete_torn codec
                  order storage ⟨dbName, keys⟩ hkey hstored hvalue hlist
                rw [hrun]
                exact .failed
                  (fun hnil => absurd hnil (ne_nil_of_unserved hlist))
                  (.inr (h.valueDeleted hkeys id))
            | true =>
                rw [SecureStorageDb.delete_served codec order storage
                  ⟨dbName, keys⟩ hkey hstored hlist]
                exact .done rfl (h.afterDelete hkeys order id)
  · rw [if_neg hkey] at hobject
    rw [SecureStorageDb.delete_absent codec order ⟨dbName, keys⟩ _ hkey,
      h.absent hfaithful hobject]
    exact .failed (fun _ => rfl) (.inl h)

theorem get_served_wallets (h : Holds formats codec wallets storage)
    (hkeys : SecureStorageDb.persistedKeyList codec dbName storage = some keys)
    (context : String) (id : Uuid) :
    Served formats codec wallets wallets rest
      ((wallets id).map fun entropy => ⟨id, entropy⟩)
      ((((⟨⟨dbName, keys⟩, false⟩ : SecureStorageClient).get walletTable
        formats.wallet id).mapError (.walletNotFound context)).run
          ⟨storage, rest⟩) := by
  have hobject := walletAt_eq hkeys id
  simp only [Fallible.run_mapError, SecureStorageClient.get, EStateM.run_bind,
    SecureStorageClient.acquire, EStateM.run_pure, Bool.false_eq_true, if_false]
  by_cases hkey : keyOf id ∈ keys
  · rw [if_pos hkey] at hobject
    obtain ⟨left, hload | ⟨halt, hload⟩⟩ :=
      loadFromSecureStorage_cases storage (asBytes (keyOf id)) rest
    · cases hstored : storage (asBytes (keyOf id)) with
      | none =>
          rw [h.absent hfaithful (hobject.trans hstored)]
          simp only [SecureStorageDb.get, hkey, not_true_eq_false, if_false,
            EStateM.run_bind, Fallible.run_mapError, hload, hstored]
          exact .failed (fun _ => rfl) (.inl h)
      | some bytes =>
          obtain ⟨entropy, hwallet, hread⟩ :=
            h.present hfaithful (hobject.trans hstored)
          rw [hwallet]
          simp only [SecureStorageDb.get, hkey, not_true_eq_false, if_false,
            EStateM.run_bind, Fallible.run_mapError, hload, hstored,
            EStateM.run_pure, hread, fromSerde]
          exact .done rfl h
    · simp only [SecureStorageDb.get, hkey, not_true_eq_false, if_false,
        EStateM.run_bind, Fallible.run_mapError, hload]
      refine .failed (fun hnil => ?_) (.inl h)
      subst hnil
      have hserved := loadFromSecureStorage_served storage
        (asBytes (keyOf id)) (served_nil 3)
      rw [hload] at hserved
      cases hserved
  · rw [if_neg hkey] at hobject
    rw [h.absent hfaithful hobject]
    simp only [SecureStorageDb.get, hkey, not_false_eq_true, if_true]
    exact .failed (fun _ => rfl) (.inl h)

end Serving

/-! ## The handlers -/

section Handlers

variable {formats : Formats} {codec : KeyListCodec} {wallets : Wallets}
  {storage : Storage} (libraries : Libraries) (order : IterationOrder String)
  (schedule : List Verdict) (hfaithful : formats.Faithful)
  (h : Holds formats codec wallets storage)

include hfaithful h

theorem createWallet_served (draw : Draw) (input : CreateWalletInput) :
    Served formats codec wallets (Function.update wallets (Wallet.new draw).id
        (some draw.entropy)) schedule
      (some ⟨(Wallet.new draw).id, libraries.phrase draw.entropy⟩)
      ((createWallet libraries formats codec order draw input).run
        ⟨storage, schedule⟩) := by
  obtain ⟨bytes, hbytes, -⟩ := hfaithful.wallet (Wallet.new draw)
  rw [createWallet]
  simp only [getMnemonic_new, Fallible.ofExcept, pure_bind]
  refine Served.afterOpen h fun keys rest hkeys => ?_
  have hput := put_served_wallets rest h hkeys order hbytes
  rw [← run_putWallet ⟨dbName, keys⟩ order hbytes] at hput
  exact hput.bind_ofExcept fun _ =>
    .ok (CreateWalletOutput.mk (Wallet.new draw).id
      (libraries.phrase draw.entropy))

theorem removeWallet_served (input : RemoveWalletInput) :
    Served formats codec wallets
      (Function.update wallets input.walletId none) schedule
      ((wallets input.walletId).map fun _ => ⟨⟩)
      ((removeWallet codec order input).run ⟨storage, schedule⟩) := by
  refine Served.afterOpen h fun keys rest hkeys => ?_
  have hdelete := delete_served_wallets rest hfaithful h hkeys order
    input.walletId
  rw [← run_deleteWallet] at hdelete
  have hreply := hdelete.bind_ofExcept fun _ => .ok RemoveWalletOutput.mk
  rw [Option.bind_map] at hreply
  rw [Option.map_eq_bind]
  exact hreply

theorem loadWallet_served (context : String) (id : Uuid) :
    Served formats codec wallets wallets schedule
      ((wallets id).map fun entropy => ⟨id, entropy⟩)
      ((loadWallet formats codec context id).run ⟨storage, schedule⟩) :=
  .afterOpen h fun _ _ hkeys =>
    get_served_wallets hfaithful h hkeys context id

theorem deriveAddress_served (input : DeriveAddressInput) :
    Served formats codec wallets wallets schedule
      ((wallets input.walletId).bind fun entropy =>
        (libraries.deriveAddress ⟨input.walletId, entropy⟩
          input.hdPath).toOption)
      ((deriveAddress libraries formats codec input).run
        ⟨storage, schedule⟩) := by
  have hserved := (loadWallet_served schedule hfaithful h
    "[+] Deriving address: error: wallet not found: "
    input.walletId).bind_ofExcept fun wallet =>
      (libraries.deriveAddress wallet input.hdPath).mapError .crypto
  simp only [Option.bind_map, Function.comp_def, toOption_mapError] at hserved
  exact hserved

theorem signTransaction_served (input : SignTransactionInput) :
    Served formats codec wallets wallets schedule
      ((wallets input.walletId).bind fun entropy =>
        (libraries.signTransaction ⟨input.walletId, entropy⟩ input.hdPath
          input.transaction).toOption.map SignTransactionOutput.mk)
      ((signTransaction libraries formats codec input).run
        ⟨storage, schedule⟩) := by
  have hserved := (loadWallet_served schedule hfaithful h
    "[+] Sign transaction: error: wallet not found: "
    input.walletId).bind_ofExcept fun wallet =>
      ((libraries.signTransaction wallet input.hdPath
        input.transaction).mapError .crypto).map SignTransactionOutput.mk
  simp only [Option.bind_map, Function.comp_def, toOption_map,
    toOption_mapError] at hserved
  exact hserved

end Handlers

end TrustZoneSdk.EthWallet
