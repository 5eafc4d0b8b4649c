import Mathlib.Data.Set.BooleanAlgebra
import Mathlib.Data.String.Basic
import Mathlib.Order.CompletePartialOrder
import TrustZoneSdk.Foundation.Footprint
import TrustZoneSdk.SecureDb.Bincode
import TrustZoneSdk.SecureDb.Failure
import TrustZoneSdk.SecureDb.Program
import TrustZoneSdk.SecureDb.Storable

/-!
# Databases that share one storage

All databases of a TA keep their key lists and their values in one flat
namespace, addressed by bare names and bare keys.  What an operation reads and
writes is the object of its database's name and the objects of the keys in its
list, and only a put adds to that list.  Two databases whose names and keys do
not meet are isolated from each other; two that put the same key are not.
-/

namespace TrustZoneSdk.SecureDb

open TrustZoneSdk.Foundation
open TrustZoneSdk.Utee
open SecureStorageDb

/-! ## The footprint of the backend -/

/--
Two TEEs under the same schedule whose storages agree on the footprint, are
fixed outside it, and both satisfy `Safe`.
-/
structure TeeFramed (footprint : Set Bytes) (Safe : Storage → Prop)
    (outside outside' : Storage) (tee tee' : Tee) : Prop where
  schedule : tee.schedule = tee'.schedule
  framed : Framed footprint outside outside' tee.storage tee'.storage
  safe : Safe tee.storage
  safe' : Safe tee'.storage

section Backend

variable {footprint : Set Bytes} {Safe : Storage → Prop}
  {outside outside' : Storage} {objectId : Bytes}

def Confined {α : Type} (footprint : Set Bytes) (Safe : Storage → Prop)
    (serve : Storage → TeeResult × α × Storage) : Prop :=
  ∀ outside outside' storage storage',
    Framed footprint outside outside' storage storage' →
    Safe storage → Safe storage' →
    (serve storage).1 = (serve storage').1 ∧
    (serve storage).2.1 = (serve storage').2.1 ∧
    Framed footprint outside outside' (serve storage).2.2
      (serve storage').2.2 ∧
    Safe (serve storage).2.2 ∧ Safe (serve storage').2.2

theorem coupled_teeCall {ε α : Type} {out : α}
    {serve : Storage → TeeResult × α × Storage}
    (h : Confined footprint Safe serve) :
    Coupled (TeeFramed footprint Safe outside outside')
      (teeCall out serve : TeeM ε _) (teeCall out serve) := by
  rintro ⟨storage, schedule⟩ ⟨storage', schedule'⟩ hframed
  obtain ⟨rfl, hstorage, hsafe, hsafe'⟩ := hframed
  obtain ⟨hcode, hout, hafter, hkept, hkept'⟩ :=
    h outside outside' storage storage' hstorage hsafe hsafe'
  unfold CoupledAt
  cases hserved : served 1 schedule with
  | true =>
      rw [teeCall_served _ _ _ hserved, teeCall_served _ _ _ hserved]
      refine ⟨?_, rfl, hafter, hkept, hkept'⟩
      simp only [Run.outcome_ok, hcode, hout]
  | false =>
      cases schedule with
      | nil => simp at hserved
      | cons verdict rest =>
          cases verdict with
          | proceed => simp [served, Verdict.isProceed] at hserved
          | refuse fault => exact ⟨rfl, rfl, hstorage, hsafe, hsafe'⟩
          | powerOff => exact ⟨rfl, rfl, hstorage, hsafe, hsafe'⟩

theorem coupled_checked (code : TeeResult) :
    Coupled (TeeFramed footprint Safe outside outside')
      (checked code) (checked code) := by
  unfold checked
  split
  · exact .pure ()
  · exact .fail _

theorem coupled_open (hid : objectId ∈ footprint) :
    Coupled (TeeFramed footprint Safe outside outside')
      (PersistentObject.open objectId) (PersistentObject.open objectId) := by
  refine .bind (coupled_teeCall ?_) fun _ =>
    .bind (coupled_checked _) fun _ => .pure _
  intro outside outside' storage storage' h hsafe hsafe'
  dsimp only
  rw [h.inside objectId hid]
  cases storage' objectId <;> exact ⟨rfl, rfl, h, hsafe, hsafe'⟩

theorem coupled_dataSize {object : PersistentObject}
    (hid : object.objectId ∈ footprint) :
    Coupled (TeeFramed footprint Safe outside outside')
      object.dataSize object.dataSize := by
  refine .bind (coupled_teeCall ?_) fun _ =>
    .bind (coupled_checked _) fun _ => .pure _
  intro outside outside' storage storage' h hsafe hsafe'
  dsimp only
  rw [h.inside _ hid]
  cases storage' object.objectId <;> exact ⟨rfl, rfl, h, hsafe, hsafe'⟩

theorem coupled_read {object : PersistentObject}
    (hid : object.objectId ∈ footprint) (buffer : Bytes) :
    Coupled (TeeFramed footprint Safe outside outside')
      (object.read buffer) (object.read buffer) := by
  refine .bind (coupled_teeCall ?_) fun _ =>
    .bind (coupled_checked _) fun _ => .pure _
  intro outside outside' storage storage' h hsafe hsafe'
  dsimp only
  rw [h.inside _ hid]
  cases storage' object.objectId <;> exact ⟨rfl, rfl, h, hsafe, hsafe'⟩

theorem coupled_closeAndDelete {object : PersistentObject}
    (hid : object.objectId ∈ footprint)
    (hsafe : ∀ storage, Safe storage →
      Safe (Function.update storage object.objectId none)) :
    Coupled (TeeFramed footprint Safe outside outside')
      object.closeAndDelete object.closeAndDelete := by
  refine .bind (coupled_teeCall ?_) fun _ => coupled_checked _
  intro outside outside' storage storage' h hkept hkept'
  exact ⟨rfl, rfl, h.update hid none, hsafe _ hkept, hsafe _ hkept'⟩

theorem coupled_saveInSecureStorage (hid : objectId ∈ footprint)
    {data : Bytes} (hsafe : ∀ storage, Safe storage →
      Safe (Function.update storage objectId (some data))) :
    Coupled (TeeFramed footprint Safe outside outside')
      (saveInSecureStorage objectId data)
      (saveInSecureStorage objectId data) := by
  refine .bind (.mapError _ (.bind (coupled_teeCall ?_) fun _ =>
    .bind (coupled_checked _) fun _ => .pure _)) fun _ => .pure _
  intro outside outside' storage storage' h hkept hkept'
  exact ⟨rfl, rfl, h.update hid _, hsafe _ hkept, hsafe _ hkept'⟩

theorem open_objectId {tee tee' : Tee} {object : PersistentObject}
    (h : (PersistentObject.open objectId).run tee = .ok object tee') :
    object.objectId = objectId := by
  obtain ⟨storage, schedule⟩ := tee
  cases hserved : served 1 schedule with
  | true =>
      cases hobject : storage objectId with
      | none =>
          rw [open_missing storage objectId hserved hobject] at h
          cases h
      | some data =>
          rw [open_served storage objectId hserved hobject] at h
          cases h
          rfl
  | false =>
      obtain ⟨halt, hrun⟩ := open_unserved storage objectId hserved
      rw [hrun] at h
      cases h

theorem coupled_attempt_open {ε α : Type} (hid : objectId ∈ footprint)
    {next : Except Error PersistentObject → TeeM ε α}
    (herror : ∀ error, Coupled (TeeFramed footprint Safe outside outside')
      (next (.error error)) (next (.error error)))
    (hobject : ∀ object : PersistentObject, object.objectId ∈ footprint →
      object.objectId = objectId →
      Coupled (TeeFramed footprint Safe outside outside')
        (next (.ok object)) (next (.ok object))) :
    Coupled (TeeFramed footprint Safe outside outside')
      ((PersistentObject.open objectId).attempt >>= next)
      ((PersistentObject.open objectId).attempt >>= next) := by
  refine .bind_returns (.attempt (coupled_open hid)) ?_
  intro value s t hrun
  rw [Fallible.run_attempt] at hrun
  cases value with
  | error error => exact herror error
  | ok object =>
      have hsame : object.objectId = objectId := by
        cases hopen : (PersistentObject.open objectId).run s with
        | ok found rest =>
            rw [hopen] at hrun
            cases hrun
            exact open_objectId hopen
        | error halt rest =>
            rw [hopen] at hrun
            cases halt <;> cases hrun
      exact hobject object (hsame ▸ hid) hsame

theorem coupled_loadFromSecureStorage (hid : objectId ∈ footprint) :
    Coupled (TeeFramed footprint Safe outside outside')
      (loadFromSecureStorage objectId) (loadFromSecureStorage objectId) := by
  refine coupled_attempt_open hid (fun error => ?_) fun object hobject _ => ?_
  · dsimp only
    split
    · exact .pure none
    · exact .fail _
  · refine .bind (.mapError _ (coupled_dataSize hobject)) fun size =>
      .bind (.mapError _ (coupled_read hobject _)) fun _ => ?_
    dsimp only
    split
    · exact .fail _
    · exact .pure _

theorem coupled_deleteFromSecureStorage (hid : objectId ∈ footprint)
    (hsafe : ∀ storage, Safe storage →
      Safe (Function.update storage objectId none)) :
    Coupled (TeeFramed footprint Safe outside outside')
      (deleteFromSecureStorage objectId)
      (deleteFromSecureStorage objectId) := by
  refine coupled_attempt_open hid (fun error => .fail _)
    fun object hobject hsame => ?_
  refine .mapError _ (coupled_closeAndDelete hobject ?_)
  rw [hsame]
  exact hsafe

end Backend

/-! ## The footprint of a database -/

/-- The key-list object of `name`, as far as it can be read, is harmless. -/
def SafeList (codec : KeyListCodec) (footprint : Set Bytes) (name : String)
    (storage : Storage) : Prop :=
  ∀ keys, persistedKeyList codec name storage = some keys →
    ∀ key ∈ keys, asBytes key ∈ footprint

structure OwnHandle (footprint : Set Bytes) (name : String)
    (db : SecureStorageDb) : Prop where
  name_eq : db.name = name
  name_mem : asBytes name ∈ footprint
  listed : ∀ key ∈ db.keyList, asBytes key ∈ footprint

structure DbFramed (codec : KeyListCodec) (footprint : Set Bytes)
    (name : String) (outside outside' : Storage) (state state' : DbState) :
    Prop where
  db_eq : state.db = state'.db
  own : OwnHandle footprint name state.db
  tee : TeeFramed footprint (SafeList codec footprint name) outside outside'
    state.tee state'.tee

section Database

variable {codec : KeyListCodec} {footprint : Set Bytes} {name key : String}
  {outside outside' : Storage} {db : SecureStorageDb}
  (order : IterationOrder String)

theorem SafeList.put {storage : Storage} {value : Bytes}
    (hsafe : SafeList codec footprint name storage)
    (hvalue : key = name → ∀ keys, codec.deserialize value = .ok keys →
      ∀ other ∈ keys, asBytes other ∈ footprint) :
    SafeList codec footprint name
      (Function.update storage (asBytes key) (some value)) := by
  -- A value put under the name of the database is read as a key list.
  intro keys hkeys
  by_cases hsame : key = name
  · simp only [persistedKeyList, ← hsame, Function.update_self] at hkeys
    split at hkeys
    · rename_i list hlist
      cases hkeys
      exact fun other hother =>
        hvalue hsame list hlist other (List.mem_toFinset.mp hother)
    · cases hkeys
  · rw [persistedKeyList_update_of_ne codec storage hsame] at hkeys
    exact hsafe keys hkeys

theorem SafeList.delete {storage : Storage}
    (hsafe : SafeList codec footprint name storage) (key : String) :
    SafeList codec footprint name
      (Function.update storage (asBytes key) none) := by
  -- A database without its key list has no keys.
  intro keys hkeys
  by_cases hsame : key = name
  · simp only [persistedKeyList, ← hsame, Function.update_self,
      Option.some.injEq] at hkeys
    subst hkeys
    simp
  · rw [persistedKeyList_update_of_ne codec storage hsame] at hkeys
    exact hsafe keys hkeys

theorem SafeList.withKeyList (storage : Storage) {keys : Finset String}
    (h : ∀ key ∈ keys, asBytes key ∈ footprint) :
    SafeList codec footprint name
      (withKeyList codec order storage name keys) := by
  intro found hfound
  rw [persistedKeyList_withKeyList, Option.some.injEq] at hfound
  exact hfound ▸ h

theorem coupled_storeKeyList (h : OwnHandle footprint name db) :
    Coupled (TeeFramed footprint (SafeList codec footprint name) outside
        outside')
      (storeKeyList codec order db) (storeKeyList codec order db) := by
  obtain ⟨rfl, hname, hlisted⟩ := h
  rw [storeKeyList, codec.serialize_eq]
  refine .mapError _ (coupled_saveInSecureStorage hname ?_)
  exact fun storage _ => .withKeyList order storage hlisted

theorem coupled_onTee {ε α : Type} {x : TeeM ε α}
    (h : Coupled (TeeFramed footprint (SafeList codec footprint name) outside
      outside') x x) :
    Coupled (DbFramed codec footprint name outside outside')
      (onTee x) (onTee x) :=
  .zoom (fun _ _ hframed => hframed.tee)
    (fun _ _ _ _ hframed htee => ⟨hframed.db_eq, hframed.own, htee⟩) h

theorem coupled_get_storeKeyList :
    Coupled (DbFramed codec footprint name outside outside')
      (MonadState.get >>= fun state : DbState =>
        onTee (storeKeyList codec order state.db))
      (MonadState.get >>= fun state : DbState =>
        onTee (storeKeyList codec order state.db)) := by
  refine .get_bind ?_
  intro state state' hframed
  rw [← hframed.db_eq]
  exact coupled_onTee (coupled_storeKeyList order hframed.own) _ _ hframed

theorem OwnHandle.insert (h : OwnHandle footprint name db)
    (hkey : asBytes key ∈ footprint) :
    OwnHandle footprint name ⟨db.name, Insert.insert key db.keyList⟩ := by
  refine ⟨h.name_eq, h.name_mem, fun other hother => ?_⟩
  rcases Finset.mem_insert.mp hother with rfl | hold
  · exact hkey
  · exact h.listed other hold

theorem coupled_put (hkey : asBytes key ∈ footprint) {value : Bytes}
    (hvalue : key = name → ∀ keys, codec.deserialize value = .ok keys →
      ∀ other ∈ keys, asBytes other ∈ footprint) :
    Coupled (DbFramed codec footprint name outside outside')
      (put codec order key value) (put codec order key value) := by
  refine .bind (coupled_onTee (.mapError _ (coupled_saveInSecureStorage
    hkey fun storage hsafe => hsafe.put hvalue))) fun _ =>
    .bind (.modify_state ?_) fun _ => coupled_get_storeKeyList order
  intro state state' hframed
  exact ⟨by rw [hframed.db_eq], hframed.own.insert hkey, hframed.tee⟩

theorem put_framed_of_served {state state' : DbState}
    (h : DbFramed codec footprint name outside outside' state state')
    (hkey : asBytes key ∈ footprint) (value : Bytes)
    (hserved : served 2 state.tee.schedule = true) :
    CoupledAt (DbFramed codec footprint name outside outside')
      (put codec order key value) (put codec order key value) state state' := by
  -- A put that is served leaves the key list behind, whatever the value was.
  obtain ⟨⟨storage, schedule⟩, db⟩ := state
  obtain ⟨⟨storage', schedule'⟩, db'⟩ := state'
  obtain ⟨rfl, hown, rfl, hframed, -, -⟩ := h
  have hnext := hown.insert hkey
  obtain ⟨rfl, hmem, hlisted⟩ := hnext
  unfold CoupledAt
  rw [put_served codec order storage db key value hserved,
    put_served codec order storage' db key value hserved]
  exact ⟨rfl, rfl, ⟨rfl, hmem, hlisted⟩, rfl,
    (hframed.update hkey _).update hmem _, .withKeyList order _ hlisted,
    .withKeyList order _ hlisted⟩

theorem coupled_delete (key : String) :
    Coupled (DbFramed codec footprint name outside outside')
      (delete codec order key) (delete codec order key) := by
  refine .get_bind ?_
  intro state state' hframed
  rw [← hframed.db_eq]
  by_cases hlisted : key ∉ state.db.keyList
  · simp only [if_pos hlisted]
    exact Coupled.fail _ _ _ hframed
  · simp only [if_neg hlisted]
    have hkey := hframed.own.listed key (not_not.mp hlisted)
    refine Coupled.bind (coupled_onTee (.mapError _
      (coupled_deleteFromSecureStorage hkey
        fun storage hsafe => hsafe.delete key))) (fun _ =>
      .bind (.modify_state ?_) fun _ => coupled_get_storeKeyList order)
      _ _ hframed
    intro state state' hframed
    obtain ⟨hdb, ⟨hname, hmem, hlisted⟩, htee⟩ := hframed
    refine ⟨by rw [hdb], ⟨hname, hmem, ?_⟩, htee⟩
    exact fun other hother => hlisted other (Finset.mem_of_mem_erase hother)

theorem coupled_clear :
    Coupled (DbFramed codec footprint name outside outside')
      (clear codec order) (clear codec order) := by
  refine .get_bind ?_
  intro state state' hframed
  rw [← hframed.db_eq]
  exact Coupled.forM _ (fun key _ => coupled_delete order key) _ _ hframed

theorem coupled_get (h : OwnHandle footprint name db) (key : String) :
    Coupled (TeeFramed footprint (SafeList codec footprint name) outside
        outside')
      (SecureStorageDb.get db key) (SecureStorageDb.get db key) := by
  unfold SecureStorageDb.get
  by_cases hkey : key ∈ db.keyList
  · simp only [hkey, not_true_eq_false, if_false]
    refine .bind (.mapError _
      (coupled_loadFromSecureStorage (h.listed key hkey))) fun value => ?_
    cases value with
    | none => exact .fail _
    | some value => exact .pure value
  · simp only [hkey, not_false_eq_true, if_true]
    exact .fail _

theorem coupled_listEntriesWithPrefix (h : OwnHandle footprint name db)
    (pre : String) :
    Coupled (TeeFramed footprint (SafeList codec footprint name) outside
        outside')
      (listEntriesWithPrefix order db pre)
      (listEntriesWithPrefix order db pre) := by
  refine .foldlM _ (fun key _ result => ?_) ∅
  unfold listEntry
  split
  · exact .bind (coupled_get h key) fun value => .pure _
  · exact .pure result

theorem coupled_dbOpen (hname : asBytes name ∈ footprint) :
    Coupled (TeeFramed footprint (SafeList codec footprint name) outside
        outside')
      («open» codec name) («open» codec name) := by
  refine .bind (.mapError _ (coupled_loadFromSecureStorage hname))
    fun value => ?_
  cases value with
  | none => exact .pure _
  | some data =>
      dsimp only
      cases codec.deserialize data with
      | ok keys => exact .pure _
      | error message => exact .fail _

variable (codec name) in
/--
The object names that a step brings in.  A value that is put under the name of
the database and not replaced by a key list is itself one.
-/
def Op.names (schedule : List Verdict) : Op → Set String
  | .put key value =>
      {text | text = key ∨ key = name ∧ served 2 schedule = false ∧
        ∃ keys, codec.deserialize value = .ok keys ∧ text ∈ keys}
  | _ => ∅

theorem exec_framed {state state' : DbState} (op : Op)
    (hnames : ∀ text ∈ op.names codec name state.tee.schedule,
      asBytes text ∈ footprint)
    (h : DbFramed codec footprint name outside outside' state state') :
    (op.exec codec order state).1 = (op.exec codec order state').1 ∧
      DbFramed codec footprint name outside outside'
        (op.exec codec order state).2 (op.exec codec order state').2 := by
  cases op with
  | put key value =>
      have hkey := hnames key (.inl rfl)
      have hput : CoupledAt (DbFramed codec footprint name outside outside')
          (put codec order key value) (put codec order key value) state
          state' := by
        cases hserved : served 2 state.tee.schedule with
        | true => exact put_framed_of_served order h hkey value hserved
        | false =>
            refine coupled_put order hkey ?_ _ _ h
            exact fun hsame keys hkeys other hother =>
              hnames other (.inr ⟨hsame, hserved, keys, hkeys, hother⟩)
      obtain ⟨houtcome, hstate⟩ := hput
      exact ⟨congrArg Answer.done houtcome, hstate⟩
  | get key =>
      obtain ⟨houtcome, htee⟩ := coupled_get h.own key _ _ h.tee
      simp only [Op.exec, ← h.db_eq]
      exact ⟨congrArg Answer.value houtcome, rfl, h.own, htee⟩
  | delete key =>
      obtain ⟨houtcome, hstate⟩ := coupled_delete order key _ _ h
      exact ⟨congrArg Answer.done houtcome, hstate⟩
  | clear =>
      obtain ⟨houtcome, hstate⟩ := coupled_clear order _ _ h
      exact ⟨congrArg Answer.done houtcome, hstate⟩
  | listEntriesWithPrefix pre =>
      obtain ⟨houtcome, htee⟩ :=
        coupled_listEntriesWithPrefix order h.own pre _ _ h.tee
      simp only [Op.exec, ← h.db_eq]
      exact ⟨congrArg Answer.entries houtcome, rfl, h.own, htee⟩
  | reopen =>
      obtain ⟨hdb, ⟨hname, hmem, hlisted⟩, htee⟩ := h
      have hopen := coupled_dbOpen hmem _ _ htee
      unfold CoupledAt at hopen
      simp only [Op.exec, ← hdb, hname]
      cases hfirst : («open» codec name).run state.tee with
      | ok db tee =>
          cases hsecond : («open» codec name).run state'.tee with
          | ok db' tee' =>
              rw [hfirst, hsecond] at hopen
              obtain ⟨houtcome, hafter⟩ := hopen
              obtain rfl : db = db' := by simpa using houtcome
              obtain ⟨hsame, hpersisted⟩ := open_returns codec hfirst
              exact ⟨rfl, rfl,
                ⟨hsame, hmem, htee.safe db.keyList hpersisted⟩, hafter⟩
          | error halt' tee' => simp [hfirst, hsecond] at hopen
      | error halt tee =>
          cases hsecond : («open» codec name).run state'.tee with
          | ok db' tee' => simp [hfirst, hsecond] at hopen
          | error halt' tee' =>
              rw [hfirst, hsecond] at hopen
              obtain ⟨houtcome, hafter⟩ := hopen
              obtain rfl : halt = halt' := by simpa using houtcome
              exact ⟨rfl, rfl, ⟨hname, hmem, hlisted⟩, hafter⟩

end Database

/-! ## Interleaved databases -/

structure Databases (ι : Type) where
  tee : Tee
  dbs : ι → SecureStorageDb

section Interleaving

variable {ι : Type} [DecidableEq ι] (codec : KeyListCodec)

def ownedBy {α : Type} (owner : ι) (list : List (ι × α)) : List α :=
  (list.filter fun entry => entry.1 = owner).map Prod.snd

@[simp] theorem ownedBy_nil {α : Type} (owner : ι) :
    ownedBy owner ([] : List (ι × α)) = [] := rfl

@[simp] theorem ownedBy_cons_self {α : Type} (owner : ι) (value : α)
    (list : List (ι × α)) :
    ownedBy owner ((owner, value) :: list) = value :: ownedBy owner list := by
  simp [ownedBy]

theorem ownedBy_cons_of_ne {α : Type} {owner other : ι} (h : other ≠ owner)
    (value : α) (list : List (ι × α)) :
    ownedBy owner ((other, value) :: list) = ownedBy owner list := by
  simp [ownedBy, h]

def Databases.exec (state : Databases ι) (owner : ι) (step : Step) :
    Answer × Databases ι :=
  let (answer, final) := step.exec codec ⟨state.tee, state.dbs owner⟩
  (answer, ⟨final.tee, Function.update state.dbs owner final.db⟩)

/-- All databases live in one TA, so a kill ends the steps of all of them. -/
def runOwned : List (ι × Step) → Databases ι →
    List (ι × Answer) × Databases ι
  | [], state => ([], state)
  | (owner, step) :: steps, state =>
      let (answer, state) := state.exec codec owner step
      if answer.isKilled then ([(owner, answer)], state)
      else
        let (answers, final) := runOwned steps state
        ((owner, answer) :: answers, final)

/-- Every database keeps to its own footprint. -/
structure Separated (footprints : ι → Set Bytes) (names : ι → String)
    (storage : Storage) (dbs : ι → SecureStorageDb) : Prop where
  handles : ∀ owner, OwnHandle (footprints owner) (names owner) (dbs owner)
  lists : ∀ owner,
    SafeList codec (footprints owner) (names owner) storage

variable {codec} {footprints : ι → Set Bytes} {names : ι → String}
  {storage solo : Storage} {dbs : ι → SecureStorageDb}

theorem SafeList.congr {footprint : Set Bytes} {name : String}
    (hsame : storage (asBytes name) = solo (asBytes name))
    (h : SafeList codec footprint name storage) :
    SafeList codec footprint name solo := by
  intro keys hkeys
  refine h keys ?_
  rw [persistedKeyList, hsame]
  exact hkeys

/--
A step of one database over the shared storage and the same step over a
storage that agrees on its footprint: the answers are equal, the storages
still agree there, and the shared storage changed nowhere else.
-/
theorem exec_separated
    (hapart : ∀ first second, first ≠ second →
      Disjoint (footprints first) (footprints second))
    (h : Separated codec footprints names storage dbs) {owner : ι}
    (hsolo : ∀ objectId ∈ footprints owner,
      storage objectId = solo objectId) {step : Step}
    (hnames : ∀ text ∈ step.op.names codec (names owner) step.schedule,
      asBytes text ∈ footprints owner)
    (schedule schedule' : List Verdict) :
    ∃ answer storage' solo' rest db,
      step.exec codec ⟨⟨storage, schedule⟩, dbs owner⟩ =
        (answer, ⟨⟨storage', rest⟩, db⟩) ∧
      step.exec codec ⟨⟨solo, schedule'⟩, dbs owner⟩ =
        (answer, ⟨⟨solo', rest⟩, db⟩) ∧
      Separated codec footprints names storage'
        (Function.update dbs owner db) ∧
      (∀ objectId ∈ footprints owner,
        storage' objectId = solo' objectId) ∧
      ∀ objectId ∉ footprints owner,
        storage' objectId = storage objectId := by
  have hstart : DbFramed codec (footprints owner) (names owner) storage solo
      ⟨⟨storage, step.schedule⟩, dbs owner⟩
      ⟨⟨solo, step.schedule⟩, dbs owner⟩ :=
    ⟨rfl, h.handles owner, rfl, .of_eqOn hsolo, h.lists owner,
      (h.lists owner).congr (hsolo _ (h.handles owner).name_mem)⟩
  have hstep := exec_framed step.order step.op hnames hstart
  generalize hfirst : step.op.exec codec step.order
    ⟨⟨storage, step.schedule⟩, dbs owner⟩ = first at hstep
  generalize hsecond : step.op.exec codec step.order
    ⟨⟨solo, step.schedule⟩, dbs owner⟩ = second at hstep
  obtain ⟨answer, ⟨storage', rest⟩, db⟩ := first
  obtain ⟨answer', ⟨solo', rest'⟩, db'⟩ := second
  obtain ⟨rfl, rfl, hown, rfl, hframed, hsafe, -⟩ := hstep
  refine ⟨answer, storage', solo', rest, db, hfirst, hsecond, ⟨?_, ?_⟩,
    hframed.inside, hframed.left⟩
  · intro other
    by_cases hsame : other = owner
    · subst other
      simpa using hown
    · rw [Function.update_of_ne hsame]
      exact h.handles other
  · intro other
    by_cases hsame : other = owner
    · subst other
      exact hsafe
    · have hforeign : asBytes (names other) ∉ footprints owner :=
        Set.disjoint_left.mp (hapart other owner hsame)
          (h.handles other).name_mem
      exact (h.lists other).congr (hframed.left _ hforeign).symm

theorem runOwned_answers
    (hapart : ∀ first second, first ≠ second →
      Disjoint (footprints first) (footprints second))
    (steps : List (ι × Step))
    (hnames : ∀ entry ∈ steps,
      ∀ text ∈ entry.2.op.names codec (names entry.1) entry.2.schedule,
        asBytes text ∈ footprints entry.1)
    (h : Separated codec footprints names storage dbs) {owner : ι}
    (hsolo : ∀ objectId ∈ footprints owner,
      storage objectId = solo objectId)
    (schedule schedule' : List Verdict) :
    ownedBy owner (runOwned codec steps ⟨⟨storage, schedule⟩, dbs⟩).1 <+:
        (run codec (ownedBy owner steps)
          ⟨⟨solo, schedule'⟩, dbs owner⟩).1 ∧
      ((∀ entry ∈ (runOwned codec steps ⟨⟨storage, schedule⟩, dbs⟩).1,
          entry.2.isKilled = false) →
        ownedBy owner (runOwned codec steps ⟨⟨storage, schedule⟩, dbs⟩).1 =
          (run codec (ownedBy owner steps)
            ⟨⟨solo, schedule'⟩, dbs owner⟩).1) := by
  induction steps generalizing storage solo dbs schedule schedule' with
  | nil => exact ⟨List.prefix_refl _, fun _ => rfl⟩
  | cons entry steps ih =>
      obtain ⟨actor, step⟩ := entry
      have hrest : ∀ entry ∈ steps,
          ∀ text ∈ entry.2.op.names codec (names entry.1) entry.2.schedule,
            asBytes text ∈ footprints entry.1 :=
        fun entry hentry => hnames entry (List.mem_cons_of_mem _ hentry)
      have hstep := hnames (actor, step) List.mem_cons_self
      by_cases hactor : actor = owner
      · subst hactor
        obtain ⟨answer, storage', solo', rest, db, hshared, halone, hnext,
          hinside, -⟩ :=
          exec_separated hapart h hsolo hstep schedule schedule'
        obtain ⟨hpre, hequal⟩ := ih hrest hnext hinside rest rest
        simp only [Function.update_self] at hpre hequal
        rw [ownedBy_cons_self]
        simp only [runOwned, Databases.exec, run, hshared, halone]
        cases hkilled : answer.isKilled with
        | true => simp
        | false =>
            simp only [Bool.false_eq_true, if_false, ownedBy_cons_self,
              List.mem_cons, forall_eq_or_imp, List.cons_prefix_cons,
              true_and, List.cons.injEq]
            exact ⟨hpre, fun halive => hequal halive.2⟩
      · obtain ⟨answer, storage', -, rest, db, hshared, -, hnext, -,
          hforeign⟩ :=
          exec_separated hapart h (fun _ _ => rfl) hstep schedule schedule
        have hkept : ∀ objectId ∈ footprints owner,
            storage' objectId = solo objectId := by
          intro objectId hmem
          rw [hforeign objectId, hsolo objectId hmem]
          exact Set.disjoint_right.mp (hapart actor owner hactor) hmem
        obtain ⟨hpre, hequal⟩ := ih hrest hnext hkept rest schedule'
        rw [Function.update_of_ne (Ne.symm hactor)] at hpre hequal
        rw [ownedBy_cons_of_ne hactor]
        simp only [runOwned, Databases.exec, hshared]
        cases hkilled : answer.isKilled with
        | true =>
            simp only [if_true, ownedBy_cons_of_ne hactor, ownedBy_nil]
            refine ⟨List.nil_prefix, fun halive => ?_⟩
            simp [hkilled] at halive
        | false =>
            simp only [Bool.false_eq_true, if_false,
              ownedBy_cons_of_ne hactor, List.mem_cons, forall_eq_or_imp]
            exact ⟨hpre, fun halive => hequal halive.2⟩

variable (codec) in
/-- The object names of a database: its own and those of the keys it puts. -/
def objectNames (db : SecureStorageDb) (steps : List Step) : Set String :=
  {text | text = db.name ∨ text ∈ db.keyList ∨
    ∃ step ∈ steps, text ∈ step.op.names codec db.name step.schedule}

/--
Databases of one TA whose names and keys do not meet, though they may ask for
each other's.  In any interleaving, and with any calls of the TEE refused, each
gets the answers it would get if the steps of the others were not there.
-/
theorem databases_isolated (codec : KeyListCodec) (state : Databases ι)
    (steps : List (ι × Step))
    (hopened : ∀ owner,
      persistedKeyList codec (state.dbs owner).name state.tee.storage =
        some (state.dbs owner).keyList)
    (hapart : ∀ first second, first ≠ second →
      Disjoint (objectNames codec (state.dbs first) (ownedBy first steps))
        (objectNames codec (state.dbs second) (ownedBy second steps)))
    (owner : ι) :
    ownedBy owner (runOwned codec steps state).1 <+:
        (run codec (ownedBy owner steps) ⟨state.tee, state.dbs owner⟩).1 ∧
      ((∀ entry ∈ (runOwned codec steps state).1,
          entry.2.isKilled = false) →
        ownedBy owner (runOwned codec steps state).1 =
          (run codec (ownedBy owner steps)
            ⟨state.tee, state.dbs owner⟩).1) := by
  let footprints := fun owner =>
    Set.image asBytes
      (objectNames codec (state.dbs owner) (ownedBy owner steps))
  have hdisjoint : ∀ first second, first ≠ second →
      Disjoint (footprints first) (footprints second) := by
    intro first second hne
    exact (Set.disjoint_image_iff asBytes_injective).mpr
      (hapart first second hne)
  have hlisted : ∀ owner, ∀ key ∈ (state.dbs owner).keyList,
      asBytes key ∈ footprints owner :=
    fun owner key hkey => Set.mem_image_of_mem _ (.inr (.inl hkey))
  have hseparated : Separated codec footprints
      (fun owner => (state.dbs owner).name) state.tee.storage state.dbs := by
    refine ⟨fun owner =>
      ⟨rfl, Set.mem_image_of_mem _ (.inl rfl), hlisted owner⟩, ?_⟩
    intro owner keys hkeys
    rw [hopened owner, Option.some.injEq] at hkeys
    exact hkeys ▸ hlisted owner
  refine runOwned_answers hdisjoint steps ?_ hseparated (fun _ _ => rfl) _ _
  intro entry hentry text htext
  have howned : entry.2 ∈ ownedBy entry.1 steps := by
    simp only [ownedBy, List.mem_map, List.mem_filter, decide_eq_true_eq]
    exact ⟨entry, ⟨hentry, rfl⟩, rfl⟩
  exact Set.mem_image_of_mem _ (.inr (.inr ⟨entry.2, howned, htext⟩))

end Interleaving

/-! ### Two databases with and without a common key -/

def twoDatabases : Databases Bool :=
  ⟨⟨emptyStorage, []⟩, fun owner => ⟨if owner then "b" else "a", ∅⟩⟩

def putBetween (first second : String) : List (Bool × Step) :=
  [(false, .put first [1]), (true, .put second [2]), (false, .get first)].map
    fun entry => (entry.1, ⟨entry.2, .sorted, []⟩)

theorem twoDatabases_isolated :
    ownedBy false
        (runOwned Bincode.codec (putBetween "A#1" "B#1") twoDatabases).1 <+:
      (run Bincode.codec (ownedBy false (putBetween "A#1" "B#1"))
        ⟨twoDatabases.tee, twoDatabases.dbs false⟩).1 ∧
    ownedBy true
        (runOwned Bincode.codec (putBetween "A#1" "B#1") twoDatabases).1 <+:
      (run Bincode.codec (ownedBy true (putBetween "A#1" "B#1"))
        ⟨twoDatabases.tee, twoDatabases.dbs true⟩).1 := by
  have hisolated := databases_isolated Bincode.codec twoDatabases
    (putBetween "A#1" "B#1") (fun _ => rfl) ?_
  · exact ⟨(hisolated false).1, (hisolated true).1⟩
  · intro first second hne
    rw [Set.disjoint_left]
    cases first <;> cases second <;>
      simp [objectNames, twoDatabases, putBetween, ownedBy, Op.names] at hne ⊢

theorem shared_key_leaks :
    ownedBy false
        (runOwned Bincode.codec (putBetween "T#1" "T#1") twoDatabases).1 =
      [.done (.ok ()), .value (.ok [2])] ∧
    (run Bincode.codec (ownedBy false (putBetween "T#1" "T#1"))
        ⟨twoDatabases.tee, twoDatabases.dbs false⟩).1 =
      [.done (.ok ()), .value (.ok [1])] := by
  have hput : ∀ (storage : Storage) (name : String) (value : Bytes),
      (put Bincode.codec .sorted "T#1" value).run
          ⟨⟨storage, []⟩, ⟨name, ∅⟩⟩ =
        .ok () ⟨⟨afterPut Bincode.codec .sorted storage ⟨name, ∅⟩ "T#1" value,
          []⟩, ⟨name, {"T#1"}⟩⟩ :=
    fun storage name value =>
      put_served Bincode.codec .sorted storage ⟨name, ∅⟩ "T#1" value
        (served_nil 2)
  have hget : ∀ (storage : Storage) (name : String) (value : Bytes),
      "T#1" ≠ name →
      (SecureStorageDb.get ⟨"a", {"T#1"}⟩ "T#1").run
          ⟨afterPut Bincode.codec .sorted storage ⟨name, ∅⟩ "T#1" value, []⟩ =
        .ok value
          ⟨afterPut Bincode.codec .sorted storage ⟨name, ∅⟩ "T#1" value, []⟩ :=
    fun storage name value hname =>
      get_undisturbed _ _ (Finset.mem_singleton_self _)
        (afterPut_self Bincode.codec .sorted storage ⟨name, ∅⟩ "T#1" value
          hname)
  constructor
  · simp [putBetween, twoDatabases, runOwned, Databases.exec, Step.exec,
      Op.exec, hput, hget, Answer.isKilled, ownedBy]
  · simp [putBetween, twoDatabases, run, Step.exec, Op.exec, hput, hget,
      Answer.isKilled, ownedBy]

/--
Database `a` puts a value under its own name, the key list that follows is
refused, and `a` is opened again.
-/
def readAsKeyList : List (Bool × Step) :=
  [(true, ⟨.put "B#1" [2], .sorted, []⟩),
    (false, ⟨.put "a" (Bincode.serialize ["B#1"]), .sorted,
      [.proceed, .refuse noSpace]⟩),
    (false, ⟨.reopen, .sorted, []⟩),
    (false, ⟨.get "B#1", .sorted, []⟩)]

theorem value_read_as_keyList_leaks :
    (ownedBy false
        (runOwned Bincode.codec readAsKeyList twoDatabases).1).getLast? =
      some (.value (.ok [2])) ∧
    (run Bincode.codec (ownedBy false readAsKeyList)
        ⟨twoDatabases.tee, twoDatabases.dbs false⟩).1.getLast? =
      some (.value (.error (.failed .objectNotFound))) := by
  have hput : ∀ storage : Storage,
      (put Bincode.codec .sorted "a" (Bincode.serialize ["B#1"])).run
          ⟨⟨storage, [.proceed, .refuse noSpace]⟩, ⟨"a", ∅⟩⟩ =
        .error (.failed (.backend (.createFailed (asBytes "a")
            (Error.fromRawError noSpace.code))))
          ⟨⟨Function.update storage (asBytes "a")
            (some (Bincode.serialize ["B#1"])), []⟩, ⟨"a", insert "a" ∅⟩⟩ :=
    fun _ => rfl
  have hopen : ∀ storage : Storage,
      («open» Bincode.codec "a").run ⟨Function.update storage (asBytes "a")
          (some (Bincode.serialize ["B#1"])), []⟩ =
        .ok ⟨"a", {"B#1"}⟩ ⟨Function.update storage (asBytes "a")
          (some (Bincode.serialize ["B#1"])), []⟩ := by
    intro storage
    refine open_undisturbed Bincode.codec _ ?_
    simp [persistedKeyList, Bincode.codec, Bincode.deserialize_serialize]
  have hbytes : asBytes "B#1" ≠ asBytes "a" := by decide
  have hother : (put Bincode.codec .sorted "B#1" [2]).run
      ⟨⟨emptyStorage, []⟩, ⟨"b", ∅⟩⟩ =
        .ok () ⟨⟨afterPut Bincode.codec .sorted emptyStorage ⟨"b", ∅⟩ "B#1"
          [2], []⟩, ⟨"b", {"B#1"}⟩⟩ :=
    put_served Bincode.codec .sorted emptyStorage ⟨"b", ∅⟩ "B#1" [2]
      (served_nil 2)
  have hvalue := afterPut_self Bincode.codec .sorted emptyStorage ⟨"b", ∅⟩
    "B#1" [2] (by decide)
  rw [← Function.update_of_ne hbytes (some (Bincode.serialize ["B#1"]))
    (afterPut Bincode.codec .sorted emptyStorage ⟨"b", ∅⟩ "B#1" [2])] at hvalue
  have hfound := get_undisturbed _ ⟨"a", {"B#1"}⟩
    (Finset.mem_singleton_self _) hvalue
  constructor
  · simp [readAsKeyList, twoDatabases, runOwned, Databases.exec, Step.exec,
      Op.exec, hother, hput, hopen, hfound, Answer.isKilled, ownedBy]
  · have hmissing : (SecureStorageDb.get ⟨"a", {"B#1"}⟩ "B#1").run
        ⟨Function.update emptyStorage (asBytes "a")
          (some (Bincode.serialize ["B#1"])), []⟩ =
        .error (.failed .objectNotFound) ⟨Function.update emptyStorage
          (asBytes "a") (some (Bincode.serialize ["B#1"])), []⟩ := rfl
    simp [readAsKeyList, twoDatabases, run, Step.exec, Op.exec, hput, hopen,
      hmissing, Answer.isKilled, ownedBy]

end TrustZoneSdk.SecureDb
