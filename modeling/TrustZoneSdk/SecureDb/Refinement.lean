import Mathlib.Data.String.Basic
import TrustZoneSdk.SecureDb.Bincode
import TrustZoneSdk.SecureDb.Program
import TrustZoneSdk.SecureDb.Storable

/-!
# One handle is one finite map

The abstract database is a finite map and nothing else: it has no storage, no
key list and no handle, and opening it again does nothing.  A program over one
handle whose TEE calls all succeed gives the answers of the same program over
the map, whatever the storage held before and in whatever order the key set is
traversed.
-/

namespace TrustZoneSdk.SecureDb

open TrustZoneSdk.Foundation

/-! ## The abstract database -/

def Op.spec (op : Op) (entries : Entries) : Answer × Entries :=
  match op with
  | .put key value => (.done (.ok ()), entries.insert key value)
  | .get key =>
      match entries.lookup key with
      | some value => (.value (.ok value), entries)
      | none => (.value (.error (.failed .keyNotFound)), entries)
  | .delete key =>
      match entries.lookup key with
      | some _ => (.done (.ok ()), entries.erase key)
      | none => (.done (.error (.failed .keyNotFound)), entries)
  | .clear => (.done (.ok ()), ∅)
  | .listEntriesWithPrefix pre =>
      (.entries (.ok (filterKeys (startsWith pre) entries)), entries)
  | .reopen => (.done (.ok ()), entries)

def specRun : List Op → Entries → List Answer × Entries
  | [], entries => ([], entries)
  | op :: ops, entries =>
      let (answer, entries) := op.spec entries
      let (answers, final) := specRun ops entries
      (answer :: answers, final)

theorem Op.spec_not_killed (op : Op) (entries : Entries) :
    (op.spec entries).1.isKilled = false := by
  cases op with
  | put | clear | listEntriesWithPrefix | reopen => rfl
  | get key =>
      cases hlookup : entries.lookup key <;> simp [Op.spec, hlookup,
        Answer.isKilled]
  | delete key =>
      cases hlookup : entries.lookup key <;> simp [Op.spec, hlookup,
        Answer.isKilled]

def Op.putKeys : Op → List String
  | .put key _ => [key]
  | _ => []

/-! ## Simulation -/

section Simulation

variable {codec : KeyListCodec} {storage : Storage} {db : SecureStorageDb}

/--
`state` is what `db` over `storage` may become when only `keys` are put: the
copies of the key set agree and no object but those of the database changed.
-/
structure Evolved (codec : KeyListCodec) (storage : Storage)
    (db : SecureStorageDb) (keys : List String) (state : DbState) : Prop where
  coherent : SecureStorageDb.Coherent codec state.tee.storage state.db
  name : state.db.name = db.name
  listed : ∀ key ∈ state.db.keyList, key ∈ db.keyList ∨ key ∈ keys
  framed : ∀ objectId, objectId ≠ asBytes db.name →
    (∀ key ∈ db.keyList, objectId ≠ asBytes key) →
    (∀ key ∈ keys, objectId ≠ asBytes key) →
    state.tee.storage objectId = storage objectId

theorem Evolved.refl (h : SecureStorageDb.Coherent codec storage db)
    (keys : List String) (schedule : List Verdict) :
    Evolved codec storage db keys ⟨⟨storage, schedule⟩, db⟩ where
  coherent := h
  name := rfl
  listed := fun _ hkey => .inl hkey
  framed := fun _ _ _ _ => rfl

theorem Evolved.trans {keys keys' : List String} {state state' : DbState}
    (h : Evolved codec storage db keys state)
    (h' : Evolved codec state.tee.storage state.db keys' state') :
    Evolved codec storage db (keys ++ keys') state' where
  coherent := h'.coherent
  name := h'.name.trans h.name
  listed := by
    intro key hkey
    rcases h'.listed key hkey with hbefore | hput
    · rcases h.listed key hbefore with hstart | hput
      · exact .inl hstart
      · exact .inr (List.mem_append_left _ hput)
    · exact .inr (List.mem_append_right _ hput)
  framed := by
    intro objectId hname hlisted hput
    have hfirst : state.tee.storage objectId = storage objectId :=
      h.framed objectId hname hlisted
        (fun key hkey => hput key (List.mem_append_left _ hkey))
    have hmiddle : ∀ key ∈ state.db.keyList, objectId ≠ asBytes key := by
      intro key hkey
      rcases h.listed key hkey with hstart | hkey
      · exact hlisted key hstart
      · exact hput key (List.mem_append_left _ hkey)
    rw [h'.framed objectId (h.name ▸ hname) hmiddle
      (fun key hkey => hput key (List.mem_append_right _ hkey)), hfirst]

/-- The operation answers as on the map and leaves a handle for its result. -/
def Refines (codec : KeyListCodec) (order : IterationOrder String)
    (storage : Storage) (db : SecureStorageDb) (op : Op) : Prop :=
  ∃ state,
    op.exec codec order ⟨⟨storage, []⟩, db⟩ =
      ((op.spec (db.contents storage)).1, state) ∧
    state.db.contents state.tee.storage = (op.spec (db.contents storage)).2 ∧
    Evolved codec storage db op.putKeys state

variable (order : IterationOrder String)

theorem put_refines (h : SecureStorageDb.Coherent codec storage db)
    {key : String} (hname : key ≠ db.name) (value : Bytes) :
    Refines codec order storage db (.put key value) := by
  refine ⟨⟨⟨SecureStorageDb.afterPut codec order storage db key value, []⟩,
    ⟨db.name, insert key db.keyList⟩⟩, ?_,
    SecureStorageDb.contents_put order h hname value,
    h.put order hname value, rfl, ?_, ?_⟩
  · simp only [Op.exec, SecureStorageDb.put_served codec order storage db key
      value (served_nil 2)]
    rfl
  · intro other hother
    simpa [Op.putKeys, or_comm] using hother
  · intro objectId hown _ hput
    exact SecureStorageDb.afterPut_of_ne order hown
      (hput key (by simp [Op.putKeys]))

theorem get_refines (h : SecureStorageDb.Coherent codec storage db)
    (key : String) : Refines codec order storage db (.get key) := by
  by_cases hkey : key ∈ db.keyList
  · obtain ⟨value, hvalue⟩ := Option.isSome_iff_exists.mp (h.stored key hkey)
    have hspec : Op.spec (.get key) (db.contents storage) =
        (.value (.ok value), db.contents storage) := by
      simp [Op.spec, hkey, hvalue]
    refine ⟨⟨⟨storage, []⟩, db⟩, ?_, by rw [hspec], Evolved.refl h _ _⟩
    simp [Op.exec, hspec,
      SecureStorageDb.get_undisturbed storage db hkey hvalue]
  · have hspec : Op.spec (.get key) (db.contents storage) =
        (.value (.error (.failed .keyNotFound)), db.contents storage) := by
      simp [Op.spec, hkey]
    refine ⟨⟨⟨storage, []⟩, db⟩, ?_, by rw [hspec], Evolved.refl h _ _⟩
    simp [Op.exec, hspec, SecureStorageDb.get_absent db hkey]

theorem delete_refines (h : SecureStorageDb.Coherent codec storage db)
    (key : String) : Refines codec order storage db (.delete key) := by
  by_cases hkey : key ∈ db.keyList
  · obtain ⟨value, hvalue⟩ := Option.isSome_iff_exists.mp (h.stored key hkey)
    have hspec : Op.spec (.delete key) (db.contents storage) =
        (.done (.ok ()), (db.contents storage).erase key) := by
      simp [Op.spec, hkey, hvalue]
    refine ⟨⟨⟨SecureStorageDb.afterDelete codec order storage db key, []⟩,
      ⟨db.name, db.keyList.erase key⟩⟩, ?_, ?_, h.delete order key, rfl,
      ?_, ?_⟩
    · simp [Op.exec, hspec, SecureStorageDb.delete_served codec order storage
        db hkey hvalue (served_nil 3)]
    · rw [hspec]
      exact SecureStorageDb.contents_delete order h key
    · intro other hother
      exact .inl (Finset.mem_of_mem_erase hother)
    · intro objectId hown hlisted _
      exact SecureStorageDb.afterDelete_of_ne order hown (hlisted key hkey)
  · have hspec : Op.spec (.delete key) (db.contents storage) =
        (.done (.error (.failed .keyNotFound)), db.contents storage) := by
      simp [Op.spec, hkey]
    refine ⟨⟨⟨storage, []⟩, db⟩, ?_, by rw [hspec], Evolved.refl h _ _⟩
    simp [Op.exec, hspec, SecureStorageDb.delete_absent codec order db key
      hkey]

theorem clear_refines (h : SecureStorageDb.Coherent codec storage db) :
    Refines codec order storage db .clear := by
  obtain ⟨storage', hrun, hcoherent, hframe⟩ :=
    SecureStorageDb.clear_undisturbed order h
  refine ⟨⟨⟨storage', []⟩, ⟨db.name, ∅⟩⟩, ?_, ?_, hcoherent, rfl, ?_, ?_⟩
  · simp only [Op.exec, Op.spec, hrun]
    rfl
  · simp [Op.spec, SecureStorageDb.contents]
  · intro key hkey
    simp at hkey
  · intro objectId hown hlisted _
    exact hframe objectId hown hlisted

theorem listEntriesWithPrefix_refines
    (h : SecureStorageDb.Coherent codec storage db) (pre : String) :
    Refines codec order storage db (.listEntriesWithPrefix pre) := by
  refine ⟨⟨⟨storage, []⟩, db⟩, ?_, rfl, Evolved.refl h _ _⟩
  simp only [Op.exec, Op.spec,
    SecureStorageDb.listEntriesWithPrefix_undisturbed order h.stored pre]
  rfl

theorem reopen_refines (h : SecureStorageDb.Coherent codec storage db) :
    Refines codec order storage db .reopen := by
  refine ⟨⟨⟨storage, []⟩, db⟩, ?_, rfl, Evolved.refl h _ _⟩
  simp only [Op.exec, Op.spec,
    SecureStorageDb.open_undisturbed codec storage h.persisted]

theorem exec_refines (h : SecureStorageDb.Coherent codec storage db) (op : Op)
    (hkeys : ∀ key ∈ op.keys, key ≠ db.name) :
    Refines codec order storage db op := by
  cases op with
  | put key value =>
      exact put_refines order h (hkeys key (by simp [Op.keys])) value
  | get key => exact get_refines order h key
  | delete key => exact delete_refines order h key
  | clear => exact clear_refines order h
  | listEntriesWithPrefix pre =>
      exact listEntriesWithPrefix_refines order h pre
  | reopen => exact reopen_refines order h

theorem run_refines (steps : List Step)
    (hserved : ∀ step ∈ steps, step.schedule = []) (state : DbState)
    (h : SecureStorageDb.Coherent codec state.tee.storage state.db)
    (hkeys : ∀ step ∈ steps, ∀ key ∈ step.op.keys, key ≠ state.db.name) :
    ∃ final,
      run codec steps state =
        ((specRun (steps.map Step.op)
          (state.db.contents state.tee.storage)).1, final) ∧
      final.db.contents final.tee.storage =
        (specRun (steps.map Step.op)
          (state.db.contents state.tee.storage)).2 ∧
      Evolved codec state.tee.storage state.db
        (steps.flatMap fun step => step.op.putKeys) final := by
  induction steps generalizing state with
  | nil => exact ⟨state, rfl, rfl, Evolved.refl h _ _⟩
  | cons step steps ih =>
      obtain ⟨middle, hexec, hcontents, hevolved⟩ :=
        exec_refines step.order h step.op (hkeys step List.mem_cons_self)
      have hstep : step.exec codec state =
          ((step.op.spec (state.db.contents state.tee.storage)).1,
            middle) := by
        rw [Step.exec, hserved step List.mem_cons_self]
        exact hexec
      obtain ⟨final, hrun, hfinal, hrest⟩ :=
        ih (fun other hother => hserved other (List.mem_cons_of_mem _ hother))
          middle hevolved.coherent (fun other hother key hkey =>
            hevolved.name ▸
              hkeys other (List.mem_cons_of_mem _ hother) key hkey)
      refine ⟨final, ?_, ?_, ?_⟩
      · rw [run, hstep]
        simp only [Op.spec_not_killed, Bool.false_eq_true, if_false, hrun,
          hcontents, List.map_cons, specRun]
      · rw [hfinal, hcontents]
        rfl
      · exact hevolved.trans hrest

end Simulation

/--
From a storage without an object of its name, a database answers every program
as one initially empty finite map does, ends up standing for the map the
program computes, and changes no object but its key list and the keys it put.
-/
theorem database_refines_finite_map (codec : KeyListCodec) {name : String}
    (hname : '#' ∉ name.toList) {storage : Storage}
    (hfresh : storage (asBytes name) = none) (steps : List Step)
    (hserved : ∀ step ∈ steps, step.schedule = [])
    (hkeys : ∀ step ∈ steps, ∀ key ∈ step.op.keys, IsStorageKey key) :
    ∃ db final,
      (SecureStorageDb.open codec name).run ⟨storage, []⟩ =
        .ok db ⟨storage, []⟩ ∧
      run codec steps ⟨⟨storage, []⟩, db⟩ =
        ((specRun (steps.map Step.op) ∅).1, final) ∧
      final.db.contents final.tee.storage =
        (specRun (steps.map Step.op) ∅).2 ∧
      ∀ objectId, objectId ≠ asBytes name →
        (∀ key ∈ steps.flatMap fun step => step.op.putKeys,
          objectId ≠ asBytes key) →
        final.tee.storage objectId = storage objectId := by
  have hpersisted :
      SecureStorageDb.persistedKeyList codec name storage = some ∅ := by
    simp [SecureStorageDb.persistedKeyList, hfresh]
  have hcoherent : SecureStorageDb.Coherent codec storage ⟨name, ∅⟩ :=
    ⟨hpersisted, by simp, by simp⟩
  obtain ⟨final, hrun, hcontents, hevolved⟩ :=
    run_refines steps hserved ⟨⟨storage, []⟩, ⟨name, ∅⟩⟩ hcoherent
      (fun step hstep key hkey => (hkeys step hstep key hkey).ne_name hname)
  have hempty : SecureStorageDb.contents storage ⟨name, ∅⟩ = ∅ := by
    simp [SecureStorageDb.contents]
  rw [hempty] at hrun hcontents
  refine ⟨⟨name, ∅⟩, final,
    SecureStorageDb.open_undisturbed codec storage hpersisted, hrun, hcontents,
    ?_⟩
  intro objectId hown hput
  exact hevolved.framed objectId hown (by simp) hput

def occupiedStorage : Storage :=
  Function.update (fun _ => none) (asBytes "User#7") (some [9])

def occupiedProgram : List Step :=
  [.get "User#7", .put "User#7" [1], .get "User#7", .reopen,
    .delete "User#7", .clear].map fun op => ⟨op, .sorted, []⟩

theorem database_refines_finite_map_over_occupied_storage :
    ∃ db final,
      (SecureStorageDb.open Bincode.codec "db").run ⟨occupiedStorage, []⟩ =
        .ok db ⟨occupiedStorage, []⟩ ∧
      run Bincode.codec occupiedProgram ⟨⟨occupiedStorage, []⟩, db⟩ =
        ([.value (.error (.failed .keyNotFound)), .done (.ok ()),
          .value (.ok [1]), .done (.ok ()), .done (.ok ()), .done (.ok ())],
          final) := by
  have hname : '#' ∉ "db".toList := by decide
  have hfresh : occupiedStorage (asBytes "db") = none := by decide
  have hkeys : ∀ step ∈ occupiedProgram, ∀ key ∈ step.op.keys,
      IsStorageKey key := by
    have huser : IsStorageKey "User#7" := ⟨"User", "7", by decide⟩
    simp [occupiedProgram, Op.keys, huser]
  obtain ⟨db, final, hopen, hrun, -, -⟩ :=
    database_refines_finite_map Bincode.codec hname hfresh
      occupiedProgram (by simp [occupiedProgram]) hkeys
  exact ⟨db, final, hopen, by simpa [occupiedProgram, specRun, Op.spec]
    using hrun⟩

end TrustZoneSdk.SecureDb
