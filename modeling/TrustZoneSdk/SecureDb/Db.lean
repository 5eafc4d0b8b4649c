import TrustZoneSdk.Foundation.FiniteMap
import TrustZoneSdk.SecureDb.Backend

/-!
# The key-value database over secure storage

A database keeps its keys three times: in the memory of its handle, in one
object named after the database, and as the names of the value objects.  All
of them live in the same flat storage.  The traversal order of the key set is
an argument of every operation that depends on it.
-/

namespace TrustZoneSdk.SecureDb

open TrustZoneSdk.Foundation
open TrustZoneSdk.Utee

/--
The serializer of the key list and what the database rests on: a list of texts
is within every limit of the serializer, and it is read back as it was.
-/
structure KeyListCodec where
  serialize : List String → Except String Bytes
  deserialize : Bytes → Except String (List String)
  serialized : ∀ keys, ∃ data, serialize keys = .ok data ∧
    deserialize data = .ok keys

namespace KeyListCodec

variable (codec : KeyListCodec) (keys : List String)

def bytes : Bytes := (codec.serialize keys).toOption.getD []

@[simp] theorem serialize_eq :
    codec.serialize keys = .ok (codec.bytes keys) := by
  obtain ⟨data, hdata, -⟩ := codec.serialized keys
  rw [bytes, hdata]
  rfl

@[simp] theorem deserialize_bytes :
    codec.deserialize (codec.bytes keys) = .ok keys := by
  obtain ⟨data, hdata, hkeys⟩ := codec.serialized keys
  obtain rfl : codec.bytes keys = data := by
    rw [serialize_eq] at hdata
    exact Except.ok.inj hdata
  exact hkeys

end KeyListCodec

abbrev Entries := Finmap fun _ : String => Bytes

inductive DbError where
  | keyNotFound
  | objectNotFound
  | insertFailed (cause : BackendError)
  | getFailed (cause : BackendError)
  | deleteFailed (cause : BackendError)
  | backend (cause : BackendError)
  | bincode (message : String)
  deriving DecidableEq, Repr

def DbError.display : DbError → String
  | .keyNotFound => "Key not found in key list"
  | .objectNotFound => "[+] SecureStorage::get(): object not found in db"
  | .insertFailed cause =>
      "[+] SecureStorage::insert(): save error: " ++ cause.display
  | .getFailed cause =>
      "[+] SecureStorage::get(): load error: " ++ cause.display
  | .deleteFailed cause =>
      "[+] SecureStorage::delete(): delete error: " ++ cause.display
  | .backend cause => cause.display
  | .bincode message => message

structure SecureStorageDb where
  name : String
  keyList : Finset String
  deriving DecidableEq

structure DbState where
  tee : Tee
  db : SecureStorageDb

abbrev DbM (α : Type) := Fallible DbError DbState α

def onTee {ε α : Type} (x : TeeM ε α) : Fallible ε DbState α :=
  Fallible.zoom DbState.tee (fun state tee => { state with tee }) x

def startsWith (pre key : String) : Bool :=
  (asBytes pre).isPrefixOf (asBytes key)

namespace SecureStorageDb

variable (codec : KeyListCodec)

def «open» (name : String) : TeeM DbError SecureStorageDb := do
  match ← (loadFromSecureStorage (asBytes name)).mapError .backend with
  | some data =>
      match codec.deserialize data with
      | .ok keys => return ⟨name, keys.toFinset⟩
      | .error message => Fallible.fail (.bincode message)
  | none => return ⟨name, ∅⟩

def storeKeyList (order : IterationOrder String) (db : SecureStorageDb) :
    TeeM DbError Unit :=
  match codec.serialize (order.toList db.keyList) with
  | .ok keyList =>
      (saveInSecureStorage (asBytes db.name) keyList).mapError .backend
  | .error message => Fallible.fail (.bincode message)

def put (order : IterationOrder String) (key : String) (value : Bytes) :
    DbM Unit := do
  onTee ((saveInSecureStorage (asBytes key) value).mapError .insertFailed)
  modify fun state =>
    { state with
      db := { state.db with keyList := insert key state.db.keyList } }
  onTee (storeKeyList codec order (← get).db)

def get (db : SecureStorageDb) (key : String) : TeeM DbError Bytes := do
  if key ∉ db.keyList then Fallible.fail .keyNotFound
  else
    match ← (loadFromSecureStorage (asBytes key)).mapError .getFailed with
    | some value => return value
    | none => Fallible.fail .objectNotFound

def delete (order : IterationOrder String) (key : String) : DbM Unit := do
  if key ∉ (← MonadState.get).db.keyList then Fallible.fail .keyNotFound
  else
    onTee ((deleteFromSecureStorage (asBytes key)).mapError .deleteFailed)
    modify fun state =>
      { state with
        db := { state.db with keyList := state.db.keyList.erase key } }
    onTee (storeKeyList codec order (← MonadState.get).db)

def clear (order : IterationOrder String) : DbM Unit := do
  (order.toList (← MonadState.get).db.keyList).forM (delete codec order)

def listEntry (db : SecureStorageDb) (pre : String) (result : Entries)
    (key : String) : TeeM DbError Entries := do
  if startsWith pre key then
    let value ← get db key
    return result.insert key value
  else return result

def listEntriesWithPrefix (order : IterationOrder String)
    (db : SecureStorageDb) (pre : String) : TeeM DbError Entries :=
  (order.toList db.keyList).foldlM (listEntry db pre) ∅

def persistedKeyList (name : String) (storage : Storage) :
    Option (Finset String) :=
  match storage (asBytes name) with
  | none => some ∅
  | some data =>
      match codec.deserialize data with
      | .ok keys => some keys.toFinset
      | .error _ => none

/-! ## How the operations run under a schedule -/

section Runs

variable (order : IterationOrder String) (storage : Storage)
  (db : SecureStorageDb) (key : String) {schedule : List Verdict}

def withKeyList (name : String) (keys : Finset String) : Storage :=
  Function.update storage (asBytes name)
    (some (codec.bytes (order.toList keys)))

@[simp] theorem persistedKeyList_withKeyList (name : String)
    (keys : Finset String) :
    persistedKeyList codec name (withKeyList codec order storage name keys) =
      some keys := by
  simp [persistedKeyList, withKeyList]

theorem withKeyList_of_ne {name key : String} (h : key ≠ name)
    (keys : Finset String) :
    withKeyList codec order storage name keys (asBytes key) =
      storage (asBytes key) :=
  Function.update_of_ne (by simpa using h) _ _

theorem persistedKeyList_update_of_ne {name key : String} (h : key ≠ name)
    (content : Option Bytes) :
    persistedKeyList codec name
        (Function.update storage (asBytes key) content) =
      persistedKeyList codec name storage := by
  have hname : asBytes name ≠ asBytes key := by simpa using h.symm
  simp [persistedKeyList, Function.update_of_ne hname]

def afterPut (value : Bytes) : Storage :=
  withKeyList codec order
    (Function.update storage (asBytes key) (some value))
    db.name (insert key db.keyList)

theorem afterPut_self (value : Bytes) (h : key ≠ db.name) :
    afterPut codec order storage db key value (asBytes key) = some value := by
  rw [afterPut, withKeyList_of_ne codec order _ h, Function.update_self]

def afterDelete : Storage :=
  withKeyList codec order (Function.update storage (asBytes key) none)
    db.name (db.keyList.erase key)

theorem storeKeyList_served (h : served 1 schedule = true) :
    (storeKeyList codec order db).run ⟨storage, schedule⟩ =
      .ok () ⟨withKeyList codec order storage db.name db.keyList,
        schedule.drop 1⟩ := by
  simp [storeKeyList, saveInSecureStorage_served storage _ _ h, withKeyList]

theorem storeKeyList_unserved (h : served 1 schedule = false) :
    ∃ halt, (storeKeyList codec order db).run ⟨storage, schedule⟩ =
      .error halt ⟨storage, schedule.drop 1⟩ := by
  obtain ⟨halt, hrun⟩ := saveInSecureStorage_unserved storage
    (asBytes db.name) (codec.bytes (order.toList db.keyList)) h
  exact ⟨halt.map .backend, by simp [storeKeyList, hrun]⟩

theorem put_served (value : Bytes) (h : served 2 schedule = true) :
    (put codec order key value).run ⟨⟨storage, schedule⟩, db⟩ =
      .ok () ⟨⟨afterPut codec order storage db key value, schedule.drop 2⟩,
        ⟨db.name, insert key db.keyList⟩⟩ := by
  rw [served_add 1 1, Bool.and_eq_true] at h
  simp [put, onTee, saveInSecureStorage_served storage _ _ h.1,
    storeKeyList_served codec order _ _ h.2, afterPut, -List.drop_one]

theorem put_unlisted (value : Bytes) (hvalue : served 1 schedule = true)
    (hlist : served 2 schedule = false) :
    ∃ halt rest,
      (put codec order key value).run ⟨⟨storage, schedule⟩, db⟩ =
        .error halt
          ⟨⟨Function.update storage (asBytes key) (some value), rest⟩,
            ⟨db.name, insert key db.keyList⟩⟩ := by
  have hstore : served 1 (schedule.drop 1) = false := by
    simpa [served_add 1 1, hvalue] using hlist
  obtain ⟨halt, hrun⟩ := storeKeyList_unserved codec order
    (Function.update storage (asBytes key) (some value))
    ⟨db.name, insert key db.keyList⟩ hstore
  exact ⟨halt, schedule.drop 2, by
    simp [put, onTee, saveInSecureStorage_served storage _ _ hvalue, hrun,
      -List.drop_one]⟩

theorem put_unserved (value : Bytes) (h : served 1 schedule = false) :
    ∃ halt rest,
      (put codec order key value).run ⟨⟨storage, schedule⟩, db⟩ =
        .error halt ⟨⟨storage, rest⟩, db⟩ := by
  obtain ⟨halt, hrun⟩ :=
    saveInSecureStorage_unserved storage (asBytes key) value h
  exact ⟨halt.map .insertFailed, schedule.drop 1, by simp [put, onTee, hrun]⟩

theorem delete_absent (h : key ∉ db.keyList) (tee : Tee) :
    (delete codec order key).run ⟨tee, db⟩ =
      .error (.failed .keyNotFound) ⟨tee, db⟩ := by
  simp [delete, h]

variable {key}

theorem delete_served {value : Bytes} (hkey : key ∈ db.keyList)
    (hobject : storage (asBytes key) = some value)
    (h : served 3 schedule = true) :
    (delete codec order key).run ⟨⟨storage, schedule⟩, db⟩ =
      .ok () ⟨⟨afterDelete codec order storage db key, schedule.drop 3⟩,
        ⟨db.name, db.keyList.erase key⟩⟩ := by
  rw [served_add 2 1, Bool.and_eq_true] at h
  simp [delete, hkey, onTee,
    deleteFromSecureStorage_served storage _ h.1 hobject,
    storeKeyList_served codec order _ _ h.2, afterDelete]

theorem delete_torn {value : Bytes} (hkey : key ∈ db.keyList)
    (hobject : storage (asBytes key) = some value)
    (hvalue : served 2 schedule = true) (hlist : served 3 schedule = false) :
    ∃ halt rest,
      (delete codec order key).run ⟨⟨storage, schedule⟩, db⟩ =
        .error halt ⟨⟨Function.update storage (asBytes key) none, rest⟩,
          ⟨db.name, db.keyList.erase key⟩⟩ := by
  have hstore : served 1 (schedule.drop 2) = false := by
    simpa [served_add 2 1, hvalue] using hlist
  obtain ⟨halt, hrun⟩ := storeKeyList_unserved codec order
    (Function.update storage (asBytes key) none)
    ⟨db.name, db.keyList.erase key⟩ hstore
  exact ⟨halt, schedule.drop 3, by
    simp [delete, hkey, onTee,
      deleteFromSecureStorage_served storage _ hvalue hobject, hrun]⟩

theorem delete_unserved (hkey : key ∈ db.keyList)
    (h : served 2 schedule = false ∨ storage (asBytes key) = none) :
    ∃ halt rest,
      (delete codec order key).run ⟨⟨storage, schedule⟩, db⟩ =
        .error halt ⟨⟨storage, rest⟩, db⟩ := by
  obtain ⟨halt, rest, hrun⟩ : ∃ halt rest,
      (deleteFromSecureStorage (asBytes key)).run ⟨storage, schedule⟩ =
        .error halt ⟨storage, rest⟩ := by
    rcases h with h | h
    · exact deleteFromSecureStorage_unserved storage (asBytes key) h
    · exact deleteFromSecureStorage_missing storage (asBytes key) h
  exact ⟨halt.map .deleteFailed, rest, by simp [delete, hkey, onTee, hrun]⟩

/-! ### Reads under any schedule -/

theorem open_of_load {name : String} {keys : Finset String} {tee tee' : Tee}
    (h : persistedKeyList codec name storage = some keys)
    (hload : (loadFromSecureStorage (asBytes name)).run tee =
      .ok (storage (asBytes name)) tee') :
    («open» codec name).run tee = .ok ⟨name, keys⟩ tee' := by
  unfold persistedKeyList at h
  cases hobject : storage (asBytes name) with
  | none =>
      simp only [hobject, Option.some.injEq] at h
      simp [«open», hload, hobject, h]
  | some data =>
      cases hkeys : codec.deserialize data with
      | error message => simp [hobject, hkeys] at h
      | ok list =>
          simp only [hobject, hkeys, Option.some.injEq] at h
          simp [«open», hload, hobject, hkeys, h]

theorem open_cases {name : String} {keys : Finset String}
    (h : persistedKeyList codec name storage = some keys)
    (schedule : List Verdict) :
    ∃ rest,
      («open» codec name).run ⟨storage, schedule⟩ =
          .ok ⟨name, keys⟩ ⟨storage, rest⟩ ∨
        ∃ halt, («open» codec name).run ⟨storage, schedule⟩ =
          .error halt ⟨storage, rest⟩ := by
  obtain ⟨rest, hload | ⟨halt, hload⟩⟩ :=
    loadFromSecureStorage_cases storage (asBytes name) schedule
  · exact ⟨rest, .inl (open_of_load codec storage h hload)⟩
  · exact ⟨rest, .inr ⟨halt.map .backend, by simp [«open», hload]⟩⟩

theorem open_returns {name : String} {tee tee' : Tee} {db : SecureStorageDb}
    (h : («open» codec name).run tee = .ok db tee') :
    db.name = name ∧
      persistedKeyList codec name tee.storage = some db.keyList := by
  obtain ⟨storage, schedule⟩ := tee
  obtain ⟨rest, hload | ⟨halt, hload⟩⟩ :=
    loadFromSecureStorage_cases storage (asBytes name) schedule
  · cases hkeys : persistedKeyList codec name storage with
    | some keys =>
        rw [open_of_load codec storage hkeys hload] at h
        cases h
        exact ⟨rfl, rfl⟩
    | none =>
        unfold persistedKeyList at hkeys
        cases hobject : storage (asBytes name) with
        | none => simp [hobject] at hkeys
        | some data =>
            cases hlist : codec.deserialize data with
            | ok list => simp [hobject, hlist] at hkeys
            | error message => simp [«open», hload, hobject, hlist] at h
  · simp [«open», hload] at h

theorem get_storage (schedule : List Verdict) :
    (Run.state ((get db key).run ⟨storage, schedule⟩)).storage = storage := by
  by_cases hkey : key ∈ db.keyList
  · obtain ⟨rest, hload | ⟨halt, hload⟩⟩ :=
      loadFromSecureStorage_cases storage (asBytes key) schedule
    · cases hobject : storage (asBytes key) <;>
        simp [get, hkey, hload, hobject]
    · simp [get, hkey, hload]
  · simp [get, hkey]

theorem foldlM_listEntry_storage (pre : String) (keys : List String)
    (result : Entries) (schedule : List Verdict) :
    (Run.state ((keys.foldlM (listEntry db pre) result).run
      ⟨storage, schedule⟩)).storage = storage := by
  induction keys generalizing result schedule with
  | nil => simp
  | cons key keys ih =>
      cases hstart : startsWith pre key with
      | false => simpa [listEntry, hstart] using ih result schedule
      | true =>
          have hread : (Run.state
              ((get db key).run ⟨storage, schedule⟩)).storage = storage :=
            get_storage storage db schedule
          cases hget : (get db key).run ⟨storage, schedule⟩ with
          | ok value tee =>
              rw [hget] at hread
              obtain ⟨storage', rest⟩ := tee
              obtain rfl : storage' = storage := hread
              simpa [listEntry, hstart, hget] using ih _ rest
          | error halt tee =>
              rw [hget] at hread
              simpa [listEntry, hstart, hget] using hread

theorem listEntriesWithPrefix_storage (pre : String)
    (schedule : List Verdict) :
    (Run.state ((listEntriesWithPrefix order db pre).run
      ⟨storage, schedule⟩)).storage = storage :=
  foldlM_listEntry_storage storage db pre _ ∅ schedule

/-! ### Undisturbed calls -/

theorem open_undisturbed {name : String} {keys : Finset String}
    (h : persistedKeyList codec name storage = some keys) :
    («open» codec name).run ⟨storage, []⟩ =
      .ok ⟨name, keys⟩ ⟨storage, []⟩ := by
  apply open_of_load codec storage h
  simpa using loadFromSecureStorage_served storage (asBytes name)
    (served_nil 3)

theorem get_absent (h : key ∉ db.keyList) (tee : Tee) :
    (get db key).run tee = .error (.failed .keyNotFound) tee := by
  simp [get, h]

theorem get_undisturbed {value : Bytes} (hkey : key ∈ db.keyList)
    (hobject : storage (asBytes key) = some value) :
    (get db key).run ⟨storage, []⟩ = .ok value ⟨storage, []⟩ := by
  have hload := loadFromSecureStorage_served storage (asBytes key)
    (served_nil 3)
  simp [get, hkey, hload, hobject]

end Runs

/-! ## Coherent handles -/

/-- The map from keys to values that a handle stands for. -/
def contents (storage : Storage) (db : SecureStorageDb) : Entries :=
  tabulate db.keyList fun key => storage (asBytes key)

@[simp] theorem lookup_contents (storage : Storage) (db : SecureStorageDb)
    (key : String) :
    (contents storage db).lookup key =
      if key ∈ db.keyList then storage (asBytes key) else none := by
  simp [contents]

def Stored (storage : Storage) (db : SecureStorageDb) : Prop :=
  ∀ key ∈ db.keyList, (storage (asBytes key)).isSome

/--
The three copies of the key set agree: the key-list object holds the set of
the handle, every key of it has its object, and none is the database's name.
-/
structure Coherent (storage : Storage) (db : SecureStorageDb) : Prop where
  persisted : persistedKeyList codec db.name storage = some db.keyList
  stored : ∀ key ∈ db.keyList, (storage (asBytes key)).isSome
  apart : db.name ∉ db.keyList

section Coherence

variable {codec} (order : IterationOrder String) {storage : Storage}
  {db : SecureStorageDb} {key : String}

theorem coherent_emptyStorage (codec : KeyListCodec) (name : String) :
    Coherent codec emptyStorage ⟨name, ∅⟩ where
  persisted := rfl
  stored := by simp
  apart := by simp

theorem Coherent.ne_name (h : Coherent codec storage db)
    (hkey : key ∈ db.keyList) : key ≠ db.name := by
  rintro rfl
  exact h.apart hkey

theorem Stored.write (h : Stored storage db) (objectId data : Bytes) :
    Stored (Function.update storage objectId (some data)) db := by
  intro other hother
  by_cases hsame : asBytes other = objectId
  · simp [hsame]
  · rw [Function.update_of_ne hsame]
    exact h other hother

theorem Stored.list (h : Stored storage db)
    (hkey : (storage (asBytes key)).isSome) :
    Stored storage ⟨db.name, insert key db.keyList⟩ := by
  intro other hother
  rcases Finset.mem_insert.mp hother with rfl | hlisted
  · exact hkey
  · exact h other hlisted

theorem Stored.remove (h : Stored storage db) (key : String) :
    Stored (Function.update storage (asBytes key) none)
      ⟨db.name, db.keyList.erase key⟩ := by
  intro other hother
  obtain ⟨hsame, hlisted⟩ := Finset.mem_erase.mp hother
  rw [Function.update_of_ne (by simpa using hsame)]
  exact h other hlisted

theorem Stored.afterPut (h : Stored storage db) (codec : KeyListCodec)
    (order : IterationOrder String) (key : String) (value : Bytes) :
    Stored (SecureStorageDb.afterPut codec order storage db key value)
      ⟨db.name, insert key db.keyList⟩ :=
  ((h.write (asBytes key) value).list (by simp)).write _ _

theorem Stored.afterDelete (h : Stored storage db) (codec : KeyListCodec)
    (order : IterationOrder String) (key : String) :
    Stored (SecureStorageDb.afterDelete codec order storage db key)
      ⟨db.name, db.keyList.erase key⟩ :=
  (h.remove key).write _ _

theorem coherent_afterPut
    (hstored : ∀ key ∈ db.keyList, (storage (asBytes key)).isSome)
    (hapart : db.name ∉ db.keyList) (hkey : key ≠ db.name) (value : Bytes) :
    Coherent codec (afterPut codec order storage db key value)
      ⟨db.name, insert key db.keyList⟩ where
  persisted := persistedKeyList_withKeyList codec order _ _ _
  stored := Stored.afterPut hstored codec order key value
  apart := by
    simp only [Finset.mem_insert, not_or]
    exact ⟨hkey.symm, hapart⟩

theorem coherent_afterDelete
    (hstored : ∀ key ∈ db.keyList, (storage (asBytes key)).isSome)
    (hapart : db.name ∉ db.keyList) (key : String) :
    Coherent codec (afterDelete codec order storage db key)
      ⟨db.name, db.keyList.erase key⟩ where
  persisted := persistedKeyList_withKeyList codec order _ _ _
  stored := Stored.afterDelete hstored codec order key
  apart := fun hname => hapart (Finset.mem_of_mem_erase hname)

theorem Coherent.put (h : Coherent codec storage db) (hkey : key ≠ db.name)
    (value : Bytes) :
    Coherent codec (afterPut codec order storage db key value)
      ⟨db.name, insert key db.keyList⟩ :=
  coherent_afterPut order h.stored h.apart hkey value

theorem Coherent.delete (h : Coherent codec storage db) (key : String) :
    Coherent codec (afterDelete codec order storage db key)
      ⟨db.name, db.keyList.erase key⟩ :=
  coherent_afterDelete order h.stored h.apart key

theorem contents_put (h : Coherent codec storage db) (hkey : key ≠ db.name)
    (value : Bytes) :
    contents (afterPut codec order storage db key value)
        ⟨db.name, insert key db.keyList⟩ =
      (contents storage db).insert key value := by
  apply tabulate_insert
  · exact afterPut_self codec order storage db key value hkey
  · intro other hother hsame
    rw [afterPut, withKeyList_of_ne codec order _ (h.ne_name hother),
      Function.update_of_ne (by simpa using hsame)]

theorem contents_delete (h : Coherent codec storage db) (key : String) :
    contents (afterDelete codec order storage db key)
        ⟨db.name, db.keyList.erase key⟩ =
      (contents storage db).erase key := by
  apply tabulate_erase
  intro other hother hsame
  rw [afterDelete, withKeyList_of_ne codec order _ (h.ne_name hother),
    Function.update_of_ne (by simpa using hsame)]

theorem afterDelete_of_ne {objectId : Bytes}
    (hname : objectId ≠ asBytes db.name) (hkey : objectId ≠ asBytes key) :
    afterDelete codec order storage db key objectId = storage objectId := by
  rw [afterDelete, withKeyList, Function.update_of_ne hname,
    Function.update_of_ne hkey]

theorem afterPut_of_ne {objectId value : Bytes}
    (hname : objectId ≠ asBytes db.name) (hkey : objectId ≠ asBytes key) :
    afterPut codec order storage db key value objectId =
      storage objectId := by
  rw [afterPut, withKeyList, Function.update_of_ne hname,
    Function.update_of_ne hkey]

theorem forM_delete_undisturbed (h : Coherent codec storage db)
    {keys : List String} (hnodup : keys.Nodup)
    (hlisted : ∀ key ∈ keys, key ∈ db.keyList) :
    ∃ storage',
      (keys.forM (delete codec order)).run ⟨⟨storage, []⟩, db⟩ =
        .ok () ⟨⟨storage', []⟩, ⟨db.name, db.keyList \ keys.toFinset⟩⟩ ∧
      Coherent codec storage' ⟨db.name, db.keyList \ keys.toFinset⟩ ∧
      ∀ objectId, objectId ≠ asBytes db.name →
        (∀ key ∈ keys, objectId ≠ asBytes key) →
        storage' objectId = storage objectId := by
  -- Deleting listed keys one after the other, each with its key-list write.
  induction keys generalizing storage db with
  | nil => exact ⟨storage, by simp [List.forM], by simpa using h, by simp⟩
  | cons key keys ih =>
      obtain ⟨hfresh, hnodup⟩ := List.nodup_cons.mp hnodup
      have hkey : key ∈ db.keyList := hlisted key List.mem_cons_self
      obtain ⟨value, hvalue⟩ := Option.isSome_iff_exists.mp (h.stored key hkey)
      have hrest : ∀ other ∈ keys, other ∈ db.keyList.erase key := by
        intro other hother
        refine Finset.mem_erase.mpr
          ⟨?_, hlisted other (List.mem_cons_of_mem _ hother)⟩
        rintro rfl
        exact hfresh hother
      have hset : db.keyList.erase key \ keys.toFinset =
          db.keyList \ (key :: keys).toFinset := by
        ext other
        simp only [Finset.mem_sdiff, Finset.mem_erase, List.mem_toFinset,
          List.mem_cons]
        tauto
      obtain ⟨storage', hrun, hcoherent, hframe⟩ :=
        ih (h.delete order key) hnodup hrest
      simp only [hset] at hrun hcoherent hframe
      refine ⟨storage', ?_, hcoherent, ?_⟩
      · rw [List.forM, EStateM.run_bind,
          delete_served codec order storage db hkey hvalue (served_nil 3)]
        exact hrun
      · intro objectId hname hkeys
        rw [hframe objectId hname
            (fun other hother => hkeys other (List.mem_cons_of_mem _ hother)),
          afterDelete_of_ne order hname (hkeys key List.mem_cons_self)]

theorem clear_undisturbed (h : Coherent codec storage db) :
    ∃ storage',
      (clear codec order).run ⟨⟨storage, []⟩, db⟩ =
        .ok () ⟨⟨storage', []⟩, ⟨db.name, ∅⟩⟩ ∧
      Coherent codec storage' ⟨db.name, ∅⟩ ∧
      ∀ objectId, objectId ≠ asBytes db.name →
        (∀ key ∈ db.keyList, objectId ≠ asBytes key) →
        storage' objectId = storage objectId := by
  obtain ⟨storage', hrun, hcoherent, hframe⟩ :=
    forM_delete_undisturbed order h (order.nodup db.keyList)
      (fun key hkey => (order.mem_toList db.keyList key).mp hkey)
  simp only [IterationOrder.toFinset_toList, sdiff_self,
    Finset.bot_eq_empty] at hrun hcoherent
  refine ⟨storage', ?_, hcoherent, ?_⟩
  · simpa [clear] using hrun
  · intro objectId hname hkeys
    exact hframe objectId hname
      (fun key hkey => hkeys key ((order.mem_toList db.keyList key).mp hkey))

theorem foldlM_listEntry (hstored : ∀ key ∈ db.keyList,
      (storage (asBytes key)).isSome) (pre : String)
    {keys : List String} (hlisted : ∀ key ∈ keys, key ∈ db.keyList)
    (result : Entries) :
    ∃ result',
      (keys.foldlM (listEntry db pre) result).run ⟨storage, []⟩ =
        .ok result' ⟨storage, []⟩ ∧
      ∀ key, result'.lookup key =
        if key ∈ keys ∧ startsWith pre key then storage (asBytes key)
        else result.lookup key := by
  induction keys generalizing result with
  | nil => exact ⟨result, by simp, by simp⟩
  | cons first keys ih =>
      have hrest : ∀ key ∈ keys, key ∈ db.keyList :=
        fun key hkey => hlisted key (List.mem_cons_of_mem _ hkey)
      have hfirst : first ∈ db.keyList := hlisted first List.mem_cons_self
      obtain ⟨value, hvalue⟩ :=
        Option.isSome_iff_exists.mp (hstored first hfirst)
      cases hstart : startsWith pre first with
      | false =>
          obtain ⟨result', hrun, hlookup⟩ := ih hrest result
          refine ⟨result', ?_, ?_⟩
          · simpa [listEntry, hstart] using hrun
          · intro key
            rw [hlookup key]
            by_cases hsame : key = first
            · subst key
              simp [hstart]
            · simp [hsame]
      | true =>
          obtain ⟨result', hrun, hlookup⟩ :=
            ih hrest (result.insert first value)
          refine ⟨result', ?_, ?_⟩
          · simpa [listEntry, hstart,
              get_undisturbed storage db hfirst hvalue] using hrun
          · intro key
            rw [hlookup key]
            by_cases hsame : key = first
            · subst key
              simp [hstart, hvalue]
            · simp [hsame, Finmap.lookup_insert_of_ne]

theorem listEntriesWithPrefix_undisturbed
    (hstored : ∀ key ∈ db.keyList, (storage (asBytes key)).isSome)
    (pre : String) :
    (listEntriesWithPrefix order db pre).run ⟨storage, []⟩ =
      .ok (filterKeys (startsWith pre) (contents storage db))
        ⟨storage, []⟩ := by
  obtain ⟨result, hrun, hlookup⟩ := foldlM_listEntry hstored pre
    (fun key hkey => (order.mem_toList db.keyList key).mp hkey) ∅
  have hresult :
      result = filterKeys (startsWith pre) (contents storage db) := by
    apply Finmap.ext_lookup
    intro key
    rw [hlookup key]
    by_cases hkey : key ∈ db.keyList <;>
      cases hstart : startsWith pre key <;> simp [hkey, hstart]
  rw [listEntriesWithPrefix, hrun, hresult]

end Coherence

end SecureStorageDb

end TrustZoneSdk.SecureDb
