import TrustZoneSdk.SecureDb.Client
import TrustZoneSdk.SecureDb.Failure

/-!
# Listing one table

Tables are a convention on keys.  A client writes a value under its table name,
a separator and its identifier, but lists a table by its name alone, and decodes
whatever it finds there as values of that table.  So a listing is right exactly
if no key of another table starts with the name of the listed one.
-/

namespace TrustZoneSdk.SecureDb

open TrustZoneSdk.Foundation

def ValueCodec.Lawful {V : Type} (values : ValueCodec V) : Prop :=
  ∀ value bytes, values.serialize value = .ok bytes →
    values.deserialize bytes = .ok value

/-! ## The listing -/

section Listing

variable {V : Type} (storable : Storable V) (values : ValueCodec V)
  [DecidableEq storable.Key]

/-- The loop of `list_entries` over the values of the map it was given. -/
def decodeEntries :
    List Bytes → Finmap (fun _ : storable.Key => V) →
      Except String (Finmap fun _ : storable.Key => V)
  | [], result => .ok result
  | bytes :: rest, result =>
      match values.deserialize bytes with
      | .ok value =>
          decodeEntries rest (result.insert (storable.uniqueId value) value)
      | .error message => .error message

def SecureStorageClient.listEntries (order entriesOrder : IterationOrder String)
    (client : SecureStorageClient) :
    TeeM ClientError (Finmap fun _ : storable.Key => V) := do
  client.acquire .read
  let map ← (client.db.listEntriesWithPrefix order
    storable.tableName).mapError .db
  fromSerde (decodeEntries storable values
    ((entriesOrder.toList map.keys).filterMap map.lookup) ∅)

variable {values} in
theorem decodeEntries_ok {list : List Bytes} (h : ∀ bytes ∈ list, ∃ value,
      values.deserialize bytes = .ok value)
    (start : Finmap fun _ : storable.Key => V) :
    ∃ result, decodeEntries storable values list start = .ok result := by
  induction list generalizing start with
  | nil => exact ⟨start, rfl⟩
  | cons bytes rest ih =>
      obtain ⟨value, hvalue⟩ := h bytes List.mem_cons_self
      simp only [decodeEntries, hvalue]
      exact ih (fun other hother => h other (List.mem_cons_of_mem _ hother)) _

variable {storable values} {list : List Bytes}
  {start result : Finmap fun _ : storable.Key => V}

theorem decodeEntries_sound
    (h : decodeEntries storable values list start = .ok result)
    {key : storable.Key} {value : V} (hkey : result.lookup key = some value) :
    start.lookup key = some value ∨
      storable.uniqueId value = key ∧
        ∃ bytes ∈ list, values.deserialize bytes = .ok value := by
  induction list generalizing start with
  | nil =>
      obtain rfl := Except.ok.inj h
      exact .inl hkey
  | cons bytes rest ih =>
      unfold decodeEntries at h
      split at h
      · rename_i first hfirst
        rcases ih h with hstart | ⟨hid, other, hother, hvalue⟩
        · by_cases hsame : key = storable.uniqueId first
          · subst hsame
            obtain rfl : first = value := by simpa using hstart
            exact .inr ⟨rfl, bytes, List.mem_cons_self, hfirst⟩
          · rw [Finmap.lookup_insert_of_ne _ hsame] at hstart
            exact .inl hstart
        · exact .inr ⟨hid, other, List.mem_cons_of_mem _ hother, hvalue⟩
      · cases h

theorem decodeEntries_complete
    (h : decodeEntries storable values list start = .ok result) :
    (∀ key ∈ start, key ∈ result) ∧
      ∀ bytes ∈ list, ∃ value, values.deserialize bytes = .ok value ∧
        storable.uniqueId value ∈ result := by
  induction list generalizing start with
  | nil =>
      obtain rfl := Except.ok.inj h
      simp
  | cons bytes rest ih =>
      unfold decodeEntries at h
      split at h
      · rename_i first hfirst
        obtain ⟨hstart, hrest⟩ := ih h
        refine ⟨fun key hkey => hstart key ?_, ?_⟩
        · exact Finmap.mem_insert.mpr (.inr hkey)
        · intro other hother
          rcases List.mem_cons.mp hother with rfl | hother
          · exact ⟨first, hfirst, hstart _ (Finmap.mem_insert.mpr (.inl rfl))⟩
          · exact hrest other hother
      · cases h

variable (storable values)

theorem listEntries_run (order entriesOrder : IterationOrder String)
    {storage : Storage} {db : SecureStorageDb}
    (hstored : ∀ key ∈ db.keyList, (storage (asBytes key)).isSome) :
    ∃ list,
      (SecureStorageClient.listEntries storable values order entriesOrder
          ⟨db, false⟩).run ⟨storage, []⟩ =
        (fromSerde (decodeEntries storable values list ∅)).run ⟨storage, []⟩ ∧
      ∀ bytes, bytes ∈ list ↔ ∃ key ∈ db.keyList,
        startsWith storable.tableName key ∧
          storage (asBytes key) = some bytes := by
  have hread := SecureStorageDb.listEntriesWithPrefix_undisturbed order
    hstored storable.tableName
  generalize hmap : filterKeys (startsWith storable.tableName)
    (db.contents storage) = map at hread
  refine ⟨(entriesOrder.toList map.keys).filterMap map.lookup, ?_, ?_⟩
  · simp [SecureStorageClient.listEntries, SecureStorageClient.acquire, hread]
  · subst hmap
    intro bytes
    simp only [List.mem_filterMap, IterationOrder.mem_toList, Finmap.mem_keys,
      lookup_filterKeys, SecureStorageDb.lookup_contents]
    constructor
    · rintro ⟨key, -, hkey⟩
      split_ifs at hkey with hstart hlisted
      exact ⟨key, hlisted, hstart, hkey⟩
    · rintro ⟨key, hlisted, hstart, hkey⟩
      refine ⟨key, ?_, by simp [hstart, hlisted, hkey]⟩
      rw [← Finmap.lookup_isSome]
      simp [hstart, hlisted, hkey]

theorem listEntries_returns (order entriesOrder : IterationOrder String)
    {storage : Storage} {db : SecureStorageDb}
    (hstored : SecureStorageDb.Stored storage db)
    {result : Finmap fun _ : storable.Key => V}
    (h : Run.outcome ((SecureStorageClient.listEntries storable values order
      entriesOrder ⟨db, false⟩).run ⟨storage, []⟩) = .ok result) :
    (∀ key ∈ db.keyList, startsWith storable.tableName key = true →
      ∃ value, storable.uniqueId value ∈ result) ∧
    ∀ id value, result.lookup id = some value →
      ∃ key ∈ db.keyList, startsWith storable.tableName key = true ∧
        ∃ bytes, storage (asBytes key) = some bytes ∧
          values.deserialize bytes = .ok value := by
  obtain ⟨list, hrun, hlist⟩ :=
    listEntries_run storable values order entriesOrder hstored
  rw [hrun] at h
  cases hdecode : decodeEntries storable values list ∅ with
  | error message => simp [hdecode, fromSerde] at h
  | ok decoded =>
      obtain rfl : decoded = result := by simpa [hdecode, fromSerde] using h
      constructor
      · intro key hkey hstart
        obtain ⟨bytes, hbytes⟩ := Option.isSome_iff_exists.mp (hstored key hkey)
        obtain ⟨value, -, hvalue⟩ := (decodeEntries_complete hdecode).2 bytes
          ((hlist bytes).mpr ⟨key, hkey, hstart, hbytes⟩)
        exact ⟨value, hvalue⟩
      · intro id value hvalue
        rcases decodeEntries_sound hdecode hvalue with
          hnone | ⟨-, bytes, hmem, hbytes⟩
        · simp at hnone
        · obtain ⟨key, hkey, hstart, hobject⟩ := (hlist bytes).mp hmem
          exact ⟨key, hkey, hstart, bytes, hobject, hbytes⟩

end Listing

/-! ## One client over a family of tables -/

section Family

variable {τ : Type} {V : τ → Type} {tables : ∀ table, Storable (V table)}
  (codec : KeyListCodec) (name : String)
  (values : ∀ table, ValueCodec (V table))

def runCalls (calls : List (IterationOrder String × Call tables)) :
    ClientM Unit :=
  calls.forM fun call => call.2.run codec values call.1

def Call.applyTable [DecidableEq τ] (listed : τ)
    [DecidableEq (tables listed).Key]
    (live : Finmap fun _ : (tables listed).Key => V listed) :
    Call tables → Finmap fun _ : (tables listed).Key => V listed
  | .put table value =>
      if h : table = listed then
        let value : V listed := h ▸ value
        live.insert ((tables listed).uniqueId value) value
      else live
  | .deleteEntry table key =>
      if h : table = listed then live.erase (h ▸ key) else live

def liveValues [DecidableEq τ] (listed : τ) [DecidableEq (tables listed).Key]
    (calls : List (IterationOrder String × Call tables)) :
    Finmap fun _ : (tables listed).Key => V listed :=
  calls.foldl (fun live call => call.2.applyTable listed live) ∅

def FamilyKey (tables : ∀ table, Storable (V table)) (key : String) : Prop :=
  ∃ table value bytes, (values table).serialize value = .ok bytes ∧
    (tables table).storageKey value = key

/-- No other table writes behind the name of `listed` or deletes its keys. -/
structure TablesApart (tables : ∀ table, Storable (V table)) (listed : τ) :
    Prop where
  foreign : ∀ table, table ≠ listed → ∀ value bytes,
    (values table).serialize value = .ok bytes →
      startsWith (tables listed).tableName
        ((tables table).storageKey value) = false
  kept : ∀ table, table ≠ listed → ∀ key value bytes,
    (values listed).serialize value = .ok bytes →
      (tables table).concatKey ((tables table).keyToString key) ≠
        (tables listed).storageKey value

/--
A value whose key is the name of the database is replaced by the key list, so
it is listed only if every such list decodes to it.
-/
def ReadInKeyList (tables : ∀ table, Storable (V table)) {listed : τ}
    (value : V listed) : Prop :=
  ∀ bytes, (values listed).serialize value = .ok bytes →
    (tables listed).storageKey value = name →
      ∀ (order : IterationOrder String) (keys : Finset String), name ∈ keys →
        (∀ key ∈ keys, FamilyKey values tables key) →
          (values listed).deserialize (codec.bytes (order.toList keys)) =
            .ok value

def NameApart (tables : ∀ table, Storable (V table)) (listed : τ) : Prop :=
  ∀ value : V listed, ReadInKeyList codec name values tables value

def Call.KeepsOff (listed : τ) : Call tables → Prop
  | .put table value => table ≠ listed → ∀ bytes,
      (values table).serialize value = .ok bytes →
        startsWith (tables listed).tableName
          ((tables table).storageKey value) = false
  | .deleteEntry table key => table ≠ listed → ∀ value bytes,
      (values listed).serialize value = .ok bytes →
        (tables table).concatKey ((tables table).keyToString key) ≠
          (tables listed).storageKey value

variable {values} in
theorem TablesApart.keepsOff {listed : τ}
    (h : TablesApart values tables listed) (request : Call tables) :
    request.KeepsOff values listed := by
  cases request with
  | put table value => exact fun htable => h.foreign table htable value
  | deleteEntry table key => exact fun htable => h.kept table htable key

/-- What every run of the family keeps, seen from the listed table. -/
structure Listed (listed : τ) [DecidableEq (tables listed).Key]
    (storage : Storage) (keys : Finset String)
    (live : Finmap fun _ : (tables listed).Key => V listed) : Prop where
  family : ∀ key ∈ keys, FamilyKey values tables key
  stored : SecureStorageDb.Stored storage ⟨name, keys⟩
  shown : ∀ key ∈ keys, startsWith (tables listed).tableName key = true →
    ∃ value bytes, (values listed).serialize value = .ok bytes ∧
      (tables listed).storageKey value = key ∧
      live.lookup ((tables listed).uniqueId value) = some value ∧
      (key ≠ name → storage (asBytes key) = some bytes)
  complete : ∀ id value, live.lookup id = some value →
    id = (tables listed).uniqueId value ∧
      (tables listed).storageKey value ∈ keys ∧
      ∃ bytes, (values listed).serialize value = .ok bytes
  listing : name ∈ keys → ∃ order : IterationOrder String,
    storage (asBytes name) = some (codec.bytes (order.toList keys))

variable {codec name values} {listed : τ} [DecidableEq (tables listed).Key]
  {storage : Storage} {keys : Finset String}
  {live : Finmap fun _ : (tables listed).Key => V listed}

theorem listing_withKeyList (order : IterationOrder String)
    (storage : Storage) (name : String) (keys : Finset String) :
    ∃ order' : IterationOrder String,
      SecureStorageDb.withKeyList codec order storage name keys
          (asBytes name) =
        some (codec.bytes (order'.toList keys)) :=
  ⟨order, Function.update_self _ _ _⟩

theorem Listed.write (h : Listed codec name values listed storage keys live)
    (order : IterationOrder String) {key : String} {bytes : Bytes}
    (hfamily : FamilyKey values tables key)
    {live' : Finmap fun _ : (tables listed).Key => V listed}
    (hself : startsWith (tables listed).tableName key = true →
      ∃ value, (values listed).serialize value = .ok bytes ∧
        (tables listed).storageKey value = key ∧
        live'.lookup ((tables listed).uniqueId value) = some value)
    (hkeep : ∀ id value, live.lookup id = some value →
      (tables listed).storageKey value ≠ key → live'.lookup id = some value)
    (hsub : ∀ id value, live'.lookup id = some value →
      live.lookup id = some value ∨
        id = (tables listed).uniqueId value ∧
          (tables listed).storageKey value = key ∧
          (values listed).serialize value = .ok bytes) :
    Listed codec name values listed
      (SecureStorageDb.afterPut codec order storage ⟨name, keys⟩ key bytes)
      (insert key keys) live' where
  family := by
    intro other hother
    rcases Finset.mem_insert.mp hother with rfl | hother
    · exact hfamily
    · exact h.family other hother
  stored := h.stored.afterPut codec order key bytes
  shown := by
    intro other hother hstart
    by_cases hsame : other = key
    · subst other
      obtain ⟨value, hbytes, hkey, hlive⟩ := hself hstart
      exact ⟨value, bytes, hbytes, hkey, hlive, fun hname =>
        SecureStorageDb.afterPut_self codec order storage _ _ _ hname⟩
    · obtain ⟨value, data, hdata, rfl, hlive, hobject⟩ :=
        h.shown other (Finset.mem_of_mem_insert_of_ne hother hsame) hstart
      refine ⟨value, data, hdata, rfl, hkeep _ _ hlive hsame, fun hname => ?_⟩
      rw [SecureStorageDb.afterPut_of_ne order (by simpa using hname)
        (by simpa using hsame), hobject hname]
  complete := by
    intro id value hvalue
    rcases hsub id value hvalue with hlive | ⟨hid, rfl, hbytes⟩
    · obtain ⟨hid, hkey, hdata⟩ := h.complete id value hlive
      exact ⟨hid, Finset.mem_insert_of_mem hkey, hdata⟩
    · exact ⟨hid, Finset.mem_insert_self _ _, bytes, hbytes⟩
  listing := fun _ => listing_withKeyList order _ _ _

theorem Listed.remove (h : Listed codec name values listed storage keys live)
    (order : IterationOrder String) (key : String)
    {live' : Finmap fun _ : (tables listed).Key => V listed}
    (hsub : ∀ id value, live'.lookup id = some value →
      live.lookup id = some value ∧ (tables listed).storageKey value ≠ key)
    (hkeep : ∀ id value, live.lookup id = some value →
      (tables listed).storageKey value ≠ key → live'.lookup id = some value) :
    Listed codec name values listed
      (SecureStorageDb.afterDelete codec order storage ⟨name, keys⟩ key)
      (keys.erase key) live' where
  family := fun other hother => h.family other (Finset.mem_of_mem_erase hother)
  stored := h.stored.afterDelete codec order key
  shown := by
    intro other hother hstart
    obtain ⟨hsame, hlisted⟩ := Finset.mem_erase.mp hother
    obtain ⟨value, data, hdata, rfl, hlive, hobject⟩ :=
      h.shown other hlisted hstart
    refine ⟨value, data, hdata, rfl, hkeep _ _ hlive hsame, fun hname => ?_⟩
    rw [SecureStorageDb.afterDelete_of_ne order (by simpa using hname)
      (by simpa using hsame), hobject hname]
  complete := by
    intro id value hvalue
    obtain ⟨hlive, hsame⟩ := hsub id value hvalue
    obtain ⟨hid, hkey, hdata⟩ := h.complete id value hlive
    exact ⟨hid, Finset.mem_erase.mpr ⟨hsame, hkey⟩, hdata⟩
  listing := fun _ => listing_withKeyList order _ _ _

/-! ### What is read -/

theorem asBytes_append (first second : String) :
    asBytes (first ++ second) = asBytes first ++ asBytes second := by
  simp [asBytes]

theorem startsWith_storageKey {V : Type} (storable : Storable V) (value : V) :
    startsWith storable.tableName (storable.storageKey value) = true := by
  simp [startsWith, Storable.storageKey, asBytes_append,
    List.isPrefixOf_iff_prefix]

theorem Listed.decodes
    (h : Listed codec name values listed storage keys live)
    (hlaw : (values listed).Lawful) {key : String} {bytes : Bytes}
    (hkey : key ∈ keys)
    (hstart : startsWith (tables listed).tableName key = true)
    (hbytes : storage (asBytes key) = some bytes) :
    ∃ value, (tables listed).storageKey value = key ∧
      live.lookup ((tables listed).uniqueId value) = some value ∧
      (key ≠ name ∨ ReadInKeyList codec name values tables value →
        (values listed).deserialize bytes = .ok value) := by
  obtain ⟨value, data, hdata, rfl, hlive, hobject⟩ := h.shown key hkey hstart
  refine ⟨value, rfl, hlive, fun hcase => ?_⟩
  by_cases hname : (tables listed).storageKey value = name
  · have hread := hcase.resolve_left (not_not_intro hname)
    rw [hname] at hkey hbytes
    obtain ⟨order, hlisting⟩ := h.listing hkey
    obtain rfl : codec.bytes (order.toList keys) = bytes := by
      simpa [hlisting] using hbytes
    exact hread data hdata hname order keys hkey h.family
  · obtain rfl : data = bytes := by simpa [hobject hname] using hbytes
    exact hlaw value data hdata

theorem Listed.object
    (h : Listed codec name values listed storage keys live)
    (hinj : Function.Injective (tables listed).keyToString)
    (hlaw : (values listed).Lawful) {id : (tables listed).Key}
    {value : V listed} (hvalue : live.lookup id = some value)
    (hread : ReadInKeyList codec name values tables value) :
    id = (tables listed).uniqueId value ∧
      ∃ key ∈ keys, startsWith (tables listed).tableName key = true ∧
        ∃ bytes, storage (asBytes key) = some bytes ∧
          (values listed).deserialize bytes = .ok value := by
  obtain ⟨rfl, hkey, -⟩ := h.complete id value hvalue
  have hstart := startsWith_storageKey (tables listed) value
  obtain ⟨bytes, hbytes⟩ := Option.isSome_iff_exists.mp (h.stored _ hkey)
  obtain ⟨other, hother, hlive, hdecode⟩ := h.decodes hlaw hkey hstart hbytes
  have hid : (tables listed).uniqueId other = (tables listed).uniqueId value :=
    (Storable.storageKey_eq_concatKey hinj).mp hother
  rw [hid, hvalue] at hlive
  obtain rfl := Option.some.inj hlive
  exact ⟨rfl, _, hkey, hstart, bytes, hbytes, hdecode (.inr hread)⟩

theorem Listed.listEntries
    (h : Listed codec name values listed storage keys live)
    (hinj : Function.Injective (tables listed).keyToString)
    (hlaw : (values listed).Lawful)
    (hread : ∀ id value, live.lookup id = some value →
      ReadInKeyList codec name values tables value)
    (order entriesOrder : IterationOrder String) :
    (SecureStorageClient.listEntries (tables listed) (values listed) order
        entriesOrder ⟨⟨name, keys⟩, false⟩).run ⟨storage, []⟩ =
      .ok live ⟨storage, []⟩ := by
  obtain ⟨list, hrun, hlist⟩ := listEntries_run (tables listed) (values listed)
    order entriesOrder h.stored
  have hdecode : ∀ bytes ∈ list, ∃ value,
      (values listed).deserialize bytes = .ok value ∧
        live.lookup ((tables listed).uniqueId value) = some value := by
    intro bytes hmem
    obtain ⟨key, hkey, hstart, hbytes⟩ := (hlist bytes).mp hmem
    obtain ⟨value, -, hlive, hvalue⟩ := h.decodes hlaw hkey hstart hbytes
    exact ⟨value, hvalue (.inr (hread _ value hlive)), hlive⟩
  obtain ⟨result, hresult⟩ := decodeEntries_ok (tables listed)
    (fun bytes hmem => (hdecode bytes hmem).imp fun _ => And.left) ∅
  have hsound : ∀ id value, result.lookup id = some value →
      live.lookup id = some value := by
    intro id value hvalue
    rcases decodeEntries_sound hresult hvalue with
      hnone | ⟨rfl, bytes, hmem, hbytes⟩
    · simp at hnone
    · obtain ⟨other, hother, hlive⟩ := hdecode bytes hmem
      obtain rfl : other = value := by simpa [hbytes] using hother.symm
      exact hlive
  have hlive : result = live := by
    apply Finmap.ext_lookup
    intro id
    apply Option.ext
    intro value
    refine ⟨hsound id value, fun hvalue => ?_⟩
    obtain ⟨rfl, key, hkey, hstart, bytes, hbytes, hdecoded⟩ :=
      h.object hinj hlaw hvalue (hread id value hvalue)
    obtain ⟨other, hother, hmem⟩ := (decodeEntries_complete hresult).2 bytes
      ((hlist bytes).mpr ⟨key, hkey, hstart, hbytes⟩)
    obtain rfl : other = value := by simpa [hdecoded] using hother.symm
    obtain ⟨found, hfound⟩ := Finmap.mem_iff.mp hmem
    have hsame := hsound _ found hfound
    rw [hvalue] at hsame
    rw [hfound, ← hsame]
  rw [hrun, hresult, hlive]
  rfl

/-! ### Steps and runs -/

theorem open_fresh (hfresh : storage (asBytes name) = none) :
    (SecureStorageClient.open codec name).run ⟨storage, []⟩ =
      .ok ⟨⟨name, ∅⟩, false⟩ ⟨storage, []⟩ := by
  apply clientOpen_coherent
  exact ⟨by simp [SecureStorageDb.persistedKeyList, hfresh], by simp, by simp⟩

theorem stored_fresh (storage : Storage) (name : String) :
    SecureStorageDb.Stored storage ⟨name, ∅⟩ := by
  simp [SecureStorageDb.Stored]

theorem listed_fresh (listed : τ) [DecidableEq (tables listed).Key]
    (storage : Storage) :
    Listed codec name values listed storage ∅
      (∅ : Finmap fun _ : (tables listed).Key => V listed) where
  family := by simp
  stored := stored_fresh storage name
  shown := by simp
  complete := by simp
  listing := by simp

theorem runCalls_put (order : IterationOrder String) {table : τ}
    {value : V table} {bytes : Bytes}
    (hbytes : (values table).serialize value = .ok bytes)
    (calls : List (IterationOrder String × Call tables)) :
    (runCalls codec values ((order, .put table value) :: calls)).run
        ⟨⟨storage, []⟩, ⟨⟨name, keys⟩, false⟩⟩ =
      (runCalls codec values calls).run
        ⟨⟨SecureStorageDb.afterPut codec order storage ⟨name, keys⟩
            ((tables table).storageKey value) bytes, []⟩,
          ⟨⟨name, insert ((tables table).storageKey value) keys⟩, false⟩⟩ := by
  rw [runCalls, List.forM, EStateM.run_bind, Call.run,
    clientPut_undisturbed codec (tables table) (values table) order storage
      ⟨name, keys⟩ hbytes]
  rfl

theorem runCalls_deleteEntry (order : IterationOrder String) {table : τ}
    {key : (tables table).Key}
    (hstored : SecureStorageDb.Stored storage ⟨name, keys⟩)
    (hkey : (tables table).concatKey ((tables table).keyToString key) ∈ keys)
    (calls : List (IterationOrder String × Call tables)) :
    (runCalls codec values ((order, .deleteEntry table key) :: calls)).run
        ⟨⟨storage, []⟩, ⟨⟨name, keys⟩, false⟩⟩ =
      (runCalls codec values calls).run
        ⟨⟨SecureStorageDb.afterDelete codec order storage ⟨name, keys⟩
            ((tables table).concatKey ((tables table).keyToString key)), []⟩,
          ⟨⟨name, keys.erase ((tables table).concatKey
            ((tables table).keyToString key))⟩, false⟩⟩ := by
  rw [runCalls, List.forM, EStateM.run_bind, Call.run,
    clientDelete_undisturbed codec (tables table) order storage ⟨name, keys⟩
      (hstored _ hkey) hkey]
  rfl

theorem runCalls_append
    (calls more : List (IterationOrder String × Call tables))
    (state : ClientState) :
    (runCalls codec values (calls ++ more)).run state =
      (runCalls codec values calls >>= fun _ =>
        runCalls codec values more).run state := by
  change EStateM.run (forM (calls ++ more) _) state = _
  rw [List.forM_append]
  rfl

theorem exists_runCalls (codec : KeyListCodec) (name : String)
    (added : Finset String) (h : ∀ key ∈ added, FamilyKey values tables key) :
    ∃ calls : List (IterationOrder String × Call tables),
      ∀ storage keys, ∃ storage', (runCalls codec values calls).run
          ⟨⟨storage, []⟩, ⟨⟨name, keys⟩, false⟩⟩ =
        .ok () ⟨⟨storage', []⟩, ⟨⟨name, added ∪ keys⟩, false⟩⟩ := by
  induction added using Finset.induction_on with
  | empty => exact ⟨[], fun storage keys => ⟨storage, by simp [runCalls]⟩⟩
  | insert key added _ ih =>
      obtain ⟨table, value, bytes, hbytes, rfl⟩ :=
        h key (Finset.mem_insert_self _ _)
      obtain ⟨calls, hcalls⟩ :=
        ih fun other hother => h other (Finset.mem_insert_of_mem hother)
      refine ⟨(.sorted, .put table value) :: calls, fun storage keys => ?_⟩
      obtain ⟨storage', hrun⟩ := hcalls
        (SecureStorageDb.afterPut codec .sorted storage ⟨name, keys⟩
          ((tables table).storageKey value) bytes)
        (insert ((tables table).storageKey value) keys)
      refine ⟨storage', ?_⟩
      rw [runCalls_put .sorted hbytes, hrun, Finset.union_insert,
        Finset.insert_union]

variable [DecidableEq τ]

theorem put_listed (h : Listed codec name values listed storage keys live)
    (order : IterationOrder String) {table : τ} {value : V table}
    {bytes : Bytes} (hbytes : (values table).serialize value = .ok bytes)
    (hoff : (Call.put table value : Call tables).KeepsOff values listed) :
    Listed codec name values listed
      (SecureStorageDb.afterPut codec order storage ⟨name, keys⟩
        ((tables table).storageKey value) bytes)
      (insert ((tables table).storageKey value) keys)
      ((Call.put table value : Call tables).applyTable listed live) := by
  apply h.write order ⟨table, value, bytes, hbytes, rfl⟩
  · intro hstart
    by_cases htable : table = listed
    · subst htable
      exact ⟨value, hbytes, rfl, by simp [Call.applyTable]⟩
    · simp [hoff htable bytes hbytes] at hstart
  · intro id other hother hkey
    by_cases htable : table = listed
    · subst htable
      have hid : id ≠ (tables table).uniqueId value := by
        rintro rfl
        obtain ⟨hid, -⟩ := h.complete _ other hother
        exact hkey (by rw [Storable.storageKey, ← hid]; rfl)
      simp [Call.applyTable, Finmap.lookup_insert_of_ne _ hid, hother]
    · simp [Call.applyTable, htable, hother]
  · intro id other hother
    by_cases htable : table = listed
    · subst htable
      simp only [Call.applyTable, dite_true] at hother
      by_cases hid : id = (tables table).uniqueId value
      · subst hid
        obtain rfl : value = other := by simpa using hother
        exact .inr ⟨rfl, rfl, hbytes⟩
      · rw [Finmap.lookup_insert_of_ne _ hid] at hother
        exact .inl hother
    · exact .inl (by simpa [Call.applyTable, htable] using hother)

theorem delete_listed (h : Listed codec name values listed storage keys live)
    (hinj : Function.Injective (tables listed).keyToString)
    (order : IterationOrder String) {table : τ} {key : (tables table).Key}
    (hoff : (Call.deleteEntry table key : Call tables).KeepsOff values
      listed) :
    Listed codec name values listed
      (SecureStorageDb.afterDelete codec order storage ⟨name, keys⟩
        ((tables table).concatKey ((tables table).keyToString key)))
      (keys.erase ((tables table).concatKey ((tables table).keyToString key)))
      ((Call.deleteEntry table key : Call tables).applyTable listed live) := by
  apply h.remove order
  · intro id value hvalue
    by_cases htable : table = listed
    · subst htable
      have hid : id ≠ key := by
        rintro rfl
        simp [Call.applyTable] at hvalue
      have hlive : live.lookup id = some value := by
        simpa [Call.applyTable, Finmap.lookup_erase_ne hid] using hvalue
      obtain ⟨rfl, -⟩ := h.complete id value hlive
      exact ⟨hlive, mt (Storable.storageKey_eq_concatKey hinj).mp hid⟩
    · have hlive : live.lookup id = some value := by
        simpa [Call.applyTable, htable] using hvalue
      obtain ⟨-, -, bytes, hbytes⟩ := h.complete id value hlive
      exact ⟨hlive, (hoff htable value bytes hbytes).symm⟩
  · intro id value hvalue hne
    by_cases htable : table = listed
    · subst htable
      obtain ⟨rfl, -⟩ := h.complete id value hvalue
      have hid : (tables table).uniqueId value ≠ key :=
        mt (Storable.storageKey_eq_concatKey hinj).mpr hne
      simpa [Call.applyTable, Finmap.lookup_erase_ne hid] using hvalue
    · simpa [Call.applyTable, htable] using hvalue

theorem call_listed (h : Listed codec name values listed storage keys live)
    (hinj : Function.Injective (tables listed).keyToString)
    (order : IterationOrder String) {request : Call tables}
    (hoff : request.KeepsOff values listed) {final : ClientState}
    (hrun : (request.run codec values order).run
      ⟨⟨storage, []⟩, ⟨⟨name, keys⟩, false⟩⟩ = .ok () final) :
    ∃ storage' keys', final = ⟨⟨storage', []⟩, ⟨⟨name, keys'⟩, false⟩⟩ ∧
      Listed codec name values listed storage' keys'
        (request.applyTable listed live) := by
  cases request with
  | put table value =>
      cases hbytes : (values table).serialize value with
      | error message =>
          simp [Call.run, SecureStorageClient.put, hbytes, fromSerde] at hrun
      | ok bytes =>
          rw [Call.run, clientPut_undisturbed codec (tables table)
            (values table) order storage ⟨name, keys⟩ hbytes] at hrun
          cases hrun
          exact ⟨_, _, rfl, put_listed h order hbytes hoff⟩
  | deleteEntry table key =>
      rw [Call.run] at hrun
      by_cases hkey :
          (tables table).concatKey ((tables table).keyToString key) ∈ keys
      · rw [clientDelete_undisturbed codec (tables table) order storage
          ⟨name, keys⟩ (h.stored _ hkey) hkey] at hrun
        cases hrun
        exact ⟨_, _, rfl, delete_listed h hinj order hoff⟩
      · rw [clientDelete_absent codec (tables table) order storage
          ⟨name, keys⟩ hkey] at hrun
        cases hrun

theorem runCalls_listed
    (h : Listed codec name values listed storage keys live)
    (hinj : Function.Injective (tables listed).keyToString)
    {calls : List (IterationOrder String × Call tables)}
    (hoff : ∀ call ∈ calls, call.2.KeepsOff values listed)
    {final : ClientState}
    (hrun : (runCalls codec values calls).run
      ⟨⟨storage, []⟩, ⟨⟨name, keys⟩, false⟩⟩ = .ok () final) :
    ∃ storage' keys', final = ⟨⟨storage', []⟩, ⟨⟨name, keys'⟩, false⟩⟩ ∧
      Listed codec name values listed storage' keys'
        (calls.foldl (fun live call => call.2.applyTable listed live) live) := by
  induction calls generalizing storage keys live with
  | nil =>
      cases hrun
      exact ⟨storage, keys, rfl, h⟩
  | cons call calls ih =>
      rw [runCalls, List.forM, EStateM.run_bind] at hrun
      cases hcall : (call.2.run codec values call.1).run
          ⟨⟨storage, []⟩, ⟨⟨name, keys⟩, false⟩⟩ with
      | error halt state =>
          rw [hcall] at hrun
          cases hrun
      | ok _ state =>
          rw [hcall] at hrun
          obtain ⟨storage', keys', rfl, hlisted⟩ :=
            call_listed h hinj call.1 (hoff call List.mem_cons_self) hcall
          exact ih hlisted
            (fun other hother => hoff other (List.mem_cons_of_mem _ hother))
            hrun

/-- A run whose own calls keep off the listed table is listed exactly. -/
theorem run_lists_exactly (hfresh : storage (asBytes name) = none)
    (hinj : Function.Injective (tables listed).keyToString)
    (hlaw : (values listed).Lawful)
    {calls : List (IterationOrder String × Call tables)}
    (hoff : ∀ call ∈ calls, call.2.KeepsOff values listed)
    (hread : ∀ id value, (liveValues listed calls).lookup id = some value →
      ReadInKeyList codec name values tables value)
    {client : SecureStorageClient} {tee : Tee} {final : ClientState}
    (hopen : (SecureStorageClient.open codec name).run ⟨storage, []⟩ =
      .ok client tee)
    (hrun : (runCalls codec values calls).run ⟨tee, client⟩ = .ok () final)
    (order entriesOrder : IterationOrder String) :
    Run.outcome ((SecureStorageClient.listEntries (tables listed)
      (values listed) order entriesOrder final.client).run final.tee) =
        .ok (liveValues listed calls) := by
  rw [open_fresh hfresh] at hopen
  cases hopen
  obtain ⟨storage', keys', rfl, hlisted⟩ := runCalls_listed
    (listed_fresh listed storage) hinj hoff hrun
  rw [hlisted.listEntries hinj hlaw hread order entriesOrder]
  rfl

/-! ### Exact listings -/

/--
After every run of successful calls through a client of an empty database,
listing `listed` returns exactly its live values.
-/
def ListsExactly (codec : KeyListCodec) (name : String)
    (values : ∀ table, ValueCodec (V table))
    (tables : ∀ table, Storable (V table)) (listed : τ)
    [DecidableEq (tables listed).Key] (storage : Storage) : Prop :=
  ∀ (client : SecureStorageClient) (tee : Tee)
    (calls : List (IterationOrder String × Call tables)) (final : ClientState)
    (order entriesOrder : IterationOrder String),
    (SecureStorageClient.open codec name).run ⟨storage, []⟩ =
      .ok client tee →
    (runCalls codec values calls).run ⟨tee, client⟩ = .ok () final →
    Run.outcome ((SecureStorageClient.listEntries (tables listed)
      (values listed) order entriesOrder final.client).run final.tee) =
        .ok (liveValues listed calls)

section Necessary

variable (hfresh : storage (asBytes name) = none)
  (h : ListsExactly codec name values tables listed storage)

include hfresh h

theorem ListsExactly.foreign {table : τ} (htable : table ≠ listed)
    {value : V table} {bytes : Bytes}
    (hbytes : (values table).serialize value = .ok bytes) :
    startsWith (tables listed).tableName
      ((tables table).storageKey value) = false := by
  -- A foreign value behind the name of the table is listed or stops the list.
  rw [← Bool.not_eq_true]
  intro hstart
  have hlist := h _ _ [(.sorted, .put table value)] _ .sorted .sorted
    (open_fresh hfresh) (runCalls_put .sorted hbytes [])
  have hlive : liveValues listed [(.sorted, (.put table value : Call tables))]
      = (∅ : Finmap fun _ : (tables listed).Key => V listed) := by
    simp [liveValues, Call.applyTable, htable]
  rw [hlive] at hlist
  obtain ⟨other, hother⟩ := (listEntries_returns _ _ _ _
    ((stored_fresh storage name).afterPut codec .sorted _ bytes) hlist).1
    ((tables table).storageKey value) (by simp) hstart
  exact absurd hother Finmap.notMem_empty

theorem ListsExactly.kept {table : τ} (htable : table ≠ listed)
    (key : (tables table).Key) {value : V listed} {bytes : Bytes}
    (hbytes : (values listed).serialize value = .ok bytes) :
    (tables table).concatKey ((tables table).keyToString key) ≠
      (tables listed).storageKey value := by
  -- A delete through another table takes a live value away.
  intro hkey
  have hmem : (tables table).concatKey ((tables table).keyToString key) ∈
      insert ((tables listed).storageKey value) (∅ : Finset String) := by
    simp [hkey]
  have hstored := (stored_fresh storage name).afterPut codec .sorted
    ((tables listed).storageKey value) bytes
  have hlist := h _ _
    [(.sorted, .put listed value), (.sorted, .deleteEntry table key)] _
    .sorted .sorted (open_fresh hfresh)
    ((runCalls_put .sorted hbytes _).trans
      (runCalls_deleteEntry .sorted hstored hmem []))
  have hlive : (liveValues listed [(.sorted, .put listed value),
      (.sorted, (.deleteEntry table key : Call tables))]).lookup
        ((tables listed).uniqueId value) = some value := by
    simp [liveValues, Call.applyTable, htable]
  obtain ⟨other, hother, -⟩ := (listEntries_returns _ _ _ _
    (hstored.afterDelete codec .sorted _) hlist).2 _ value hlive
  simp [hkey] at hother

theorem ListsExactly.nameApart
    (hinj : Function.Injective (tables listed).keyToString)
    (hlaw : (values listed).Lawful) :
    NameApart codec name values tables listed := by
  -- The last key list of a run must decode to the value it has replaced.
  intro value bytes hbytes hkey order keys hmem hfamily
  have hapart : TablesApart values tables listed :=
    ⟨fun _ htable _ _ => h.foreign hfresh htable,
      fun _ htable key _ _ => h.kept hfresh htable key⟩
  obtain ⟨calls, hcalls⟩ := exists_runCalls codec name keys hfamily
  obtain ⟨storage', hrun⟩ := hcalls storage ∅
  rw [Finset.union_empty] at hrun
  have hlast : (runCalls codec values
      (calls ++ [(order, .put listed value)])).run
        ⟨⟨storage, []⟩, ⟨⟨name, ∅⟩, false⟩⟩ =
      .ok () ⟨⟨SecureStorageDb.afterPut codec order storage' ⟨name, keys⟩ name
          bytes, []⟩, ⟨⟨name, keys⟩, false⟩⟩ := by
    rw [runCalls_append, EStateM.run_bind, hrun]
    dsimp only
    rw [runCalls_put order hbytes, hkey, Finset.insert_eq_of_mem hmem]
    rfl
  obtain ⟨_, _, hfinal, hlisted⟩ := runCalls_listed
    (listed_fresh listed storage) hinj
    (fun call _ => hapart.keepsOff call.2) hlast
  obtain ⟨rfl, rfl⟩ : _ ∧ _ := by simpa using hfinal
  have hlive : (liveValues listed
      (calls ++ [(order, .put listed value)])).lookup
        ((tables listed).uniqueId value) = some value := by
    simp [liveValues, Call.applyTable]
  have hlist := h _ _ _ _ .sorted .sorted (open_fresh hfresh) hlast
  obtain ⟨key, hkeys, hstart, data, hdata, hdecode⟩ :=
    (listEntries_returns _ _ _ _ hlisted.stored hlist).2 _ value hlive
  by_cases hsame : key = name
  · have hlisting : SecureStorageDb.afterPut codec order storage'
        ⟨name, keys⟩ name bytes (asBytes name) =
          some (codec.bytes (order.toList (insert name keys))) :=
      Function.update_self _ _ _
    rw [hsame, hlisting, Finset.insert_eq_of_mem hmem] at hdata
    rw [Option.some.inj hdata, hdecode]
  · obtain ⟨other, hother, -, hread⟩ :=
      hlisted.decodes hlaw hkeys hstart hdata
    obtain rfl : other = value := by
      simpa [hdecode] using (hread (.inl hsame)).symm
    exact absurd (hother.symm.trans hkey) hsame

end Necessary

/--
A listing after successful calls is exact, for every run, if and only if the
other tables keep off the name of the listed one and the keys of its values,
and none of its values has the name of the database for a key.
-/
theorem lists_exactly_iff (codec : KeyListCodec) (name : String)
    (values : ∀ table, ValueCodec (V table))
    (tables : ∀ table, Storable (V table)) (listed : τ)
    [DecidableEq (tables listed).Key] {storage : Storage}
    (hfresh : storage (asBytes name) = none)
    (hinj : Function.Injective (tables listed).keyToString)
    (hlaw : (values listed).Lawful) :
    ListsExactly codec name values tables listed storage ↔
      TablesApart values tables listed ∧
        NameApart codec name values tables listed := by
  constructor
  · intro h
    refine ⟨⟨?_, ?_⟩, h.nameApart hfresh hinj hlaw⟩
    · exact fun _ htable _ _ hbytes => h.foreign hfresh htable hbytes
    · exact fun _ htable key _ _ hbytes => h.kept hfresh htable key hbytes
  · rintro ⟨hapart, hname⟩ client tee calls final order entriesOrder hopen hrun
    exact run_lists_exactly hfresh hinj hlaw
      (fun call _ => hapart.keepsOff call.2) (fun _ value _ => hname value)
      hopen hrun order entriesOrder

end Family

/-! ## Two tables, one name the beginning of the other -/

inductive WalletTable where
  | wallet
  | walletMeta
  deriving DecidableEq

def walletTables : WalletTable → Storable String
  | .wallet => ⟨String, id, id, "Wallet"⟩
  | .walletMeta => ⟨String, id, id, "WalletMeta"⟩

instance : ∀ table, DecidableEq (walletTables table).Key
  | .wallet => inferInstanceAs (DecidableEq String)
  | .walletMeta => inferInstanceAs (DecidableEq String)

theorem noteCodec_lawful : noteCodec.Lawful := by
  intro value bytes hbytes
  obtain rfl : Bincode.encodeText value = bytes := by
    simpa [noteCodec] using hbytes
  have hdecode := Bincode.decodeText_suffix value []
  rw [List.append_nil] at hdecode
  simp [noteCodec, hdecode]

theorem wallet_not_walletMeta (id : String) :
    startsWith "WalletMeta" ((walletTables .wallet).concatKey id) = false := by
  rw [startsWith, Storable.concatKey, asBytes_append]
  rfl

theorem walletMeta_lists_exactly :
    ListsExactly Bincode.codec "db" (fun _ => noteCodec) walletTables
      .walletMeta emptyStorage := by
  refine (lists_exactly_iff Bincode.codec "db" (fun _ => noteCodec)
    walletTables .walletMeta rfl Function.injective_id noteCodec_lawful).mpr
    ⟨⟨?_, ?_⟩, ?_⟩
  · intro table htable value bytes hbytes
    cases table with
    | wallet => exact wallet_not_walletMeta value
    | walletMeta => exact absurd rfl htable
  · intro table htable key value bytes hbytes hkey
    cases table with
    | wallet =>
        have hstart := startsWith_storageKey (walletTables .walletMeta) value
        rw [← hkey] at hstart
        exact Bool.false_ne_true ((wallet_not_walletMeta key).symm.trans hstart)
    | walletMeta => exact absurd rfl htable
  · intro value bytes hbytes hkey
    have hname : '#' ∉ "db".toList := by decide
    exact absurd hkey
      (((walletTables .walletMeta).isStorageKey_storageKey value).ne_name hname)

def putMeta : List (IterationOrder String × Call walletTables) :=
  [(.sorted, .put .walletMeta "a")]

theorem wallet_lists_walletMeta :
    (walletTables .wallet).tableName ≠ (walletTables .walletMeta).tableName ∧
      ∃ final,
        (runCalls Bincode.codec (fun _ => noteCodec) putMeta).run
            ⟨⟨emptyStorage, []⟩, ⟨⟨"db", ∅⟩, false⟩⟩ = .ok () final ∧
        Run.outcome ((SecureStorageClient.listEntries (walletTables .wallet)
          noteCodec .sorted .sorted final.client).run final.tee) ≠
            .ok (liveValues .wallet putMeta) := by
  refine ⟨by decide, _, runCalls_put .sorted rfl [], ?_⟩
  intro hlist
  obtain ⟨value, hvalue⟩ := (listEntries_returns _ _ _ _
    ((stored_fresh emptyStorage "db").afterPut Bincode.codec .sorted _
      (Bincode.encodeText "a")) hlist).1 "WalletMeta#a" (by decide) (by decide)
  exact absurd hvalue Finmap.notMem_empty

end TrustZoneSdk.SecureDb
