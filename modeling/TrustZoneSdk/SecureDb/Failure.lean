import TrustZoneSdk.SecureDb.Refinement

/-!
# What a failed operation leaves

An operation that fails half-way is not undone.  What survives every failure
is that each key in the memory of the handle has its object: an object is
written before its key is listed, and a key is dropped as soon as its object
is gone.  A failure on the value's own object leaves no trace at all.
-/

namespace TrustZoneSdk.SecureDb

open TrustZoneSdk.Foundation
open SecureStorageDb

/-- A handle of `name` every key of which has its object. -/
structure Kept (name : String) (state : DbState) : Prop where
  name : state.db.name = name
  stored : Stored state.tee.storage state.db

/--
What deletes, completed or not, may make of a handle: keys leave the list
together with their objects, and no object but the key list is written.
-/
structure Shrunk (before after : DbState) : Prop where
  name : after.db.name = before.db.name
  stored : Stored after.tee.storage after.db
  listed : ∀ key, key ≠ before.db.name →
    (key ∈ after.db.keyList ↔
      key ∈ before.db.keyList ∧ (after.tee.storage (asBytes key)).isSome)
  gone : ∀ key, key ≠ before.db.name →
    before.tee.storage (asBytes key) = none →
      after.tee.storage (asBytes key) = none

section Handle

variable (codec : KeyListCodec) (order : IterationOrder String)
  {storage : Storage} {db : SecureStorageDb} {key : String}

theorem put_kept (h : Stored storage db) (key : String) (value : Bytes)
    (schedule : List Verdict) :
    Kept db.name (Run.state ((put codec order key value).run
      ⟨⟨storage, schedule⟩, db⟩)) := by
  cases hvalue : served 1 schedule with
  | false =>
      obtain ⟨halt, rest, hrun⟩ :=
        put_unserved codec order storage db key value hvalue
      rw [hrun]
      exact ⟨rfl, h⟩
  | true =>
      cases hlist : served 2 schedule with
      | false =>
          obtain ⟨halt, rest, hrun⟩ :=
            put_unlisted codec order storage db key value hvalue hlist
          rw [hrun]
          exact ⟨rfl, (h.write _ value).list (by simp)⟩
      | true =>
          rw [put_served codec order storage db key value hlist]
          exact ⟨rfl, h.afterPut codec order key value⟩

theorem Shrunk.refl (h : Stored storage db)
    (schedule schedule' : List Verdict) :
    Shrunk ⟨⟨storage, schedule⟩, db⟩ ⟨⟨storage, schedule'⟩, db⟩ where
  name := rfl
  stored := h
  listed := fun key _ => ⟨fun hkey => ⟨hkey, h key hkey⟩, And.left⟩
  gone := fun _ _ hnone => hnone

theorem Shrunk.trans {first second third : DbState} (h : Shrunk first second)
    (h' : Shrunk second third) : Shrunk first third where
  name := h'.name.trans h.name
  stored := h'.stored
  listed := by
    intro key hkey
    have hkey' : key ≠ second.db.name := h.name ▸ hkey
    rw [h'.listed key hkey', h.listed key hkey]
    refine ⟨fun hall => ⟨hall.1.1, hall.2⟩, fun hall => ⟨⟨hall.1, ?_⟩, hall.2⟩⟩
    by_contra hnone
    rw [Option.not_isSome_iff_eq_none] at hnone
    simp [h'.gone key hkey' hnone] at hall
  gone := by
    intro key hkey hnone
    exact h'.gone key (h.name ▸ hkey) (h.gone key hkey hnone)

theorem Shrunk.remove (h : Stored storage db) (key : String)
    (schedule schedule' : List Verdict) :
    Shrunk ⟨⟨storage, schedule⟩, db⟩
      ⟨⟨Function.update storage (asBytes key) none, schedule'⟩,
        ⟨db.name, db.keyList.erase key⟩⟩ where
  name := rfl
  stored := h.remove key
  listed := by
    intro other hother
    by_cases hsame : other = key
    · simp [hsame]
    · have hbytes : asBytes other ≠ asBytes key := by simpa using hsame
      simp only [Function.update_of_ne hbytes, Finset.mem_erase]
      exact ⟨fun hall => ⟨hall.2, h other hall.2⟩,
        fun hall => ⟨hsame, hall.1⟩⟩
  gone := by
    intro other hother hnone
    by_cases hsame : other = key
    · simp [hsame]
    · simpa [Function.update_of_ne, hsame] using hnone

theorem Shrunk.writeList (h : Stored storage db) (data : Bytes)
    (schedule schedule' : List Verdict) :
    Shrunk ⟨⟨storage, schedule⟩, db⟩
      ⟨⟨Function.update storage (asBytes db.name) (some data), schedule'⟩,
        db⟩ where
  name := rfl
  stored := h.write _ _
  listed := by
    intro other hother
    have hbytes : asBytes other ≠ asBytes db.name := by simpa using hother
    dsimp only
    rw [Function.update_of_ne hbytes]
    exact (Shrunk.refl h schedule schedule').listed other hother
  gone := by
    intro other hother hnone
    have hbytes : asBytes other ≠ asBytes db.name := by simpa using hother
    dsimp only
    rw [Function.update_of_ne hbytes]
    exact hnone

theorem delete_shrunk (h : Stored storage db) (key : String)
    (schedule : List Verdict) :
    Shrunk ⟨⟨storage, schedule⟩, db⟩
      (Run.state ((delete codec order key).run
        ⟨⟨storage, schedule⟩, db⟩)) := by
  by_cases hkey : key ∈ db.keyList
  · obtain ⟨value, hvalue⟩ := Option.isSome_iff_exists.mp (h key hkey)
    cases hobject : served 2 schedule with
    | false =>
        obtain ⟨halt, rest, hrun⟩ :=
          delete_unserved codec order storage db hkey (.inl hobject)
        rw [hrun]
        exact .refl h _ _
    | true =>
        cases hlist : served 3 schedule with
        | false =>
            obtain ⟨halt, rest, hrun⟩ :=
              delete_torn codec order storage db hkey hvalue hobject hlist
            rw [hrun]
            exact .remove h key _ _
        | true =>
            rw [delete_served codec order storage db hkey hvalue hlist]
            exact (Shrunk.remove h key _ []).trans
              (.writeList (h.remove key) _ _ _)
  · rw [delete_absent codec order db key hkey]
    exact .refl h _ _

theorem forM_delete_shrunk (h : Stored storage db) (keys : List String)
    (schedule : List Verdict) :
    Shrunk ⟨⟨storage, schedule⟩, db⟩
      (Run.state ((keys.forM (delete codec order)).run
        ⟨⟨storage, schedule⟩, db⟩)) := by
  -- The loop of `clear`, left early at any element or run to its end.
  induction keys generalizing storage db schedule with
  | nil => exact .refl h _ _
  | cons key keys ih =>
      have hfirst := delete_shrunk codec order h key schedule
      rw [List.forM, EStateM.run_bind]
      cases hrun : (delete codec order key).run ⟨⟨storage, schedule⟩, db⟩ with
      | ok value state =>
          rw [hrun] at hfirst
          obtain ⟨⟨storage', schedule'⟩, db'⟩ := state
          exact hfirst.trans (ih hfirst.stored schedule')
      | error halt state =>
          rw [hrun] at hfirst
          exact hfirst

theorem clear_shrunk (h : Stored storage db) (schedule : List Verdict) :
    Shrunk ⟨⟨storage, schedule⟩, db⟩
      (Run.state ((clear codec order).run ⟨⟨storage, schedule⟩, db⟩)) := by
  have hall := forM_delete_shrunk codec order h
    (order.toList db.keyList) schedule
  simpa [clear] using hall

theorem exec_kept {state : DbState} (h : Stored state.tee.storage state.db)
    {step : Step} (hop : step.op ≠ .reopen) :
    Kept state.db.name (step.exec codec state).2 := by
  obtain ⟨op, order, schedule⟩ := step
  obtain ⟨⟨storage, before⟩, db⟩ := state
  cases op with
  | put key value => exact put_kept codec order h key value schedule
  | get key =>
      have hsame : (Run.state ((db.get key).run ⟨storage, schedule⟩)).storage =
          storage := get_storage storage db schedule
      exact ⟨rfl, by simpa [Step.exec, Op.exec, hsame] using h⟩
  | delete key =>
      have hshrunk := delete_shrunk codec order h key schedule
      exact ⟨hshrunk.name, hshrunk.stored⟩
  | clear =>
      have hshrunk := clear_shrunk codec order h schedule
      exact ⟨hshrunk.name, hshrunk.stored⟩
  | listEntriesWithPrefix pre =>
      have hsame :=
        listEntriesWithPrefix_storage order storage db pre schedule
      exact ⟨rfl, by simpa [Step.exec, Op.exec, hsame] using h⟩
  | reopen => exact absurd rfl hop

theorem run_kept {steps : List Step} (state : DbState)
    (h : Stored state.tee.storage state.db)
    (hops : ∀ step ∈ steps, step.op ≠ .reopen) :
    Kept state.db.name (run codec steps state).2 := by
  induction steps generalizing state with
  | nil => exact ⟨rfl, h⟩
  | cons step steps ih =>
      have hstep := exec_kept codec h (hops step List.mem_cons_self)
      have hrest : ∀ step ∈ steps, step.op ≠ .reopen :=
        fun step hmem => hops step (List.mem_cons_of_mem _ hmem)
      rw [run]
      generalize step.exec codec state = result at hstep ⊢
      obtain ⟨answer, next⟩ := result
      dsimp only at hstep ⊢
      split
      · exact hstep
      · exact hstep.name ▸ ih next hstep.stored hrest

theorem get_finds_object (h : Stored storage db) (hkey : key ∈ db.keyList)
    (schedule : List Verdict) :
    Run.outcome ((db.get key).run ⟨storage, schedule⟩) ≠
      .error (.failed .objectNotFound) := by
  obtain ⟨value, hvalue⟩ := Option.isSome_iff_exists.mp (h key hkey)
  obtain ⟨rest, hload | ⟨halt, hload⟩⟩ :=
    loadFromSecureStorage_cases storage (asBytes key) schedule
  · simp [SecureStorageDb.get, hkey, hload, hvalue]
  · cases halt <;> simp [SecureStorageDb.get, hkey, hload, Halt.map]

end Handle

/-! ## A live handle -/

/--
What holds of a handle that no other handle interferes with.  A clear may stop
at any element: the keys that are left are those whose objects are left.  Only
the database's own name, which is no storage key when it has no separator, is
left out: its object is the key list.
-/
structure LiveHandle (codec : KeyListCodec) (name : String)
    (state : DbState) : Prop where
  stored : Stored state.tee.storage state.db
  found : ∀ key ∈ state.db.keyList, ∀ schedule,
    Run.outcome ((state.db.get key).run ⟨state.tee.storage, schedule⟩) ≠
      .error (.failed .objectNotFound)
  cleared : ∀ order schedule after,
    Run.state ((clear codec order).run
      ⟨⟨state.tee.storage, schedule⟩, state.db⟩) = after →
    ∀ key, key ≠ name →
      (key ∈ after.db.keyList ↔ key ∈ state.db.keyList ∧
        (after.tee.storage (asBytes key)).isSome)

theorem Kept.liveHandle (codec : KeyListCodec) {name : String}
    {state : DbState} (h : Kept name state) :
    LiveHandle codec name state where
  stored := h.stored
  found := fun _ hkey => get_finds_object h.stored hkey
  cleared := by
    intro order schedule after hafter key hkey
    subst hafter
    apply (clear_shrunk codec order h.stored schedule).listed
    dsimp only
    rw [h.name]
    exact hkey

theorem live_handle_lists_existing_objects (codec : KeyListCodec)
    {name : String} {tee tee' : Tee} {db : SecureStorageDb}
    (hopen : («open» codec name).run tee = .ok db tee')
    (hstored : Stored tee'.storage db) {steps : List Step}
    (hops : ∀ step ∈ steps, step.op ≠ .reopen) (count : Nat) :
    LiveHandle codec name (run codec (steps.take count) ⟨tee', db⟩).2 := by
  have hkept : Kept db.name (run codec (steps.take count) ⟨tee', db⟩).2 :=
    run_kept codec ⟨tee', db⟩ hstored
      fun step hmem => hops step (List.mem_of_mem_take hmem)
  rw [(open_returns codec hopen).1] at hkept
  exact hkept.liveHandle codec

def failingSteps (fault : Fault) : List Step :=
  [⟨.put "T#1" [1], .sorted, [.proceed, .refuse fault]⟩,
    ⟨.put "T#2" [2], .sorted, []⟩,
    ⟨.clear, .sorted, [.proceed, .proceed, .proceed, .refuse fault]⟩]

def noSpace : Fault := ⟨0xFFFF3041, by decide, by decide⟩

theorem failingSteps_keep_objects :
    LiveHandle Bincode.codec "db" (run Bincode.codec
      ((failingSteps noSpace).take 3) ⟨⟨emptyStorage, []⟩, ⟨"db", ∅⟩⟩).2 := by
  refine live_handle_lists_existing_objects Bincode.codec
    (open_undisturbed Bincode.codec emptyStorage rfl) ?_ ?_ 3
  · intro key hkey
    simp at hkey
  · intro step hstep
    simp only [failingSteps, List.mem_cons, List.not_mem_nil, or_false] at hstep
    rcases hstep with rfl | rfl | rfl <;> decide

/-! ## Reads after a failed change -/

structure ReadsAs (entries : Entries) (storage : Storage)
    (db : SecureStorageDb) : Prop where
  get : ∀ key, Run.outcome ((db.get key).run ⟨storage, []⟩) =
    match entries.lookup key with
    | some value => .ok value
    | none => .error (.failed .keyNotFound)
  list : ∀ order pre,
    Run.outcome ((db.listEntriesWithPrefix order pre).run ⟨storage, []⟩) =
      .ok (filterKeys (startsWith pre) entries)

def FreshReadsAs (codec : KeyListCodec) (name : String) (entries : Entries)
    (storage : Storage) : Prop :=
  ∃ db, («open» codec name).run ⟨storage, []⟩ = .ok db ⟨storage, []⟩ ∧
    ReadsAs entries storage db

/--
No read tells the two states apart, through the handle or through a new one,
whatever happens to the calls of the read.
-/
structure SameReads (codec : KeyListCodec) (before after : DbState) :
    Prop where
  get : ∀ key schedule,
    Run.outcome ((before.db.get key).run ⟨before.tee.storage, schedule⟩) =
      Run.outcome ((after.db.get key).run ⟨after.tee.storage, schedule⟩)
  list : ∀ order pre schedule,
    Run.outcome ((before.db.listEntriesWithPrefix order pre).run
        ⟨before.tee.storage, schedule⟩) =
      Run.outcome ((after.db.listEntriesWithPrefix order pre).run
        ⟨after.tee.storage, schedule⟩)
  freshGet : ∀ key schedule,
    Run.outcome ((do (← «open» codec before.db.name).get key).run
        ⟨before.tee.storage, schedule⟩) =
      Run.outcome ((do (← «open» codec before.db.name).get key).run
        ⟨after.tee.storage, schedule⟩)
  freshList : ∀ order pre schedule,
    Run.outcome ((do
        (← «open» codec before.db.name).listEntriesWithPrefix order pre).run
          ⟨before.tee.storage, schedule⟩) =
      Run.outcome ((do
        (← «open» codec before.db.name).listEntriesWithPrefix order pre).run
          ⟨after.tee.storage, schedule⟩)

section Reads

variable {codec : KeyListCodec} {storage : Storage} {db : SecureStorageDb}
  {key : String} (order : IterationOrder String)

theorem SameReads.refl (schedule schedule' : List Verdict) :
    SameReads codec ⟨⟨storage, schedule⟩, db⟩ ⟨⟨storage, schedule'⟩, db⟩ :=
  ⟨fun _ _ => rfl, fun _ _ _ => rfl, fun _ _ => rfl, fun _ _ _ => rfl⟩

theorem SecureStorageDb.Stored.readsAs (h : Stored storage db) :
    ReadsAs (db.contents storage) storage db where
  get := by
    intro key
    by_cases hkey : key ∈ db.keyList
    · obtain ⟨value, hvalue⟩ := Option.isSome_iff_exists.mp (h key hkey)
      simp [get_undisturbed storage db hkey hvalue, hkey, hvalue]
    · simp [get_absent db hkey, hkey]
  list := by
    intro order pre
    rw [listEntriesWithPrefix_undisturbed order h pre]
    rfl

theorem SecureStorageDb.Stored.freshReadsAs {name : String} {keys : Finset String}
    (hkeys : persistedKeyList codec name storage = some keys)
    (h : Stored storage ⟨name, keys⟩) :
    FreshReadsAs codec name (contents storage ⟨name, keys⟩) storage :=
  ⟨_, open_undisturbed codec storage hkeys, h.readsAs⟩

theorem contents_write_listed (value : Bytes) :
    contents (Function.update storage (asBytes key) (some value))
        ⟨db.name, insert key db.keyList⟩ =
      (db.contents storage).insert key value := by
  apply tabulate_insert
  · simp
  · intro other _ hsame
    rw [Function.update_of_ne (by simpa using hsame)]

theorem contents_write_unlisted (hkey : key ∉ db.keyList) (value : Bytes) :
    contents (Function.update storage (asBytes key) (some value)) db =
      db.contents storage := by
  apply Finmap.ext_lookup
  intro other
  by_cases hother : other ∈ db.keyList
  · have hsame : other ≠ key := by
      rintro rfl
      exact hkey hother
    simp [hother, Function.update_of_ne, hsame]
  · simp [hother]

theorem put_unlisted_reads (h : Coherent codec storage db)
    (hkey : key ≠ db.name) (value : Bytes) :
    ReadsAs ((db.contents storage).insert key value)
        (Function.update storage (asBytes key) (some value))
        ⟨db.name, insert key db.keyList⟩ ∧
      FreshReadsAs codec db.name
        (if key ∈ db.keyList then (db.contents storage).insert key value
          else db.contents storage)
        (Function.update storage (asBytes key) (some value)) := by
  have hwritten : Stored (Function.update storage (asBytes key) (some value))
      db := Stored.write h.stored _ _
  have hkeys : persistedKeyList codec db.name
      (Function.update storage (asBytes key) (some value)) =
        some db.keyList :=
    (persistedKeyList_update_of_ne codec storage hkey _).trans h.persisted
  constructor
  · rw [← contents_write_listed value]
    exact (hwritten.list (by simp)).readsAs
  · have hfresh := Stored.freshReadsAs hkeys hwritten
    by_cases hlisted : key ∈ db.keyList
    · rw [if_pos hlisted, ← contents_write_listed value,
        Finset.insert_eq_of_mem hlisted]
      exact hfresh
    · rw [if_neg hlisted, ← contents_write_unlisted hlisted value]
      exact hfresh

theorem put_failed_early (codec : KeyListCodec) (storage : Storage)
    (db : SecureStorageDb) (key : String) (value : Bytes)
    {schedule : List Verdict} (hvalue : served 1 schedule = false) :
    SameReads codec ⟨⟨storage, schedule⟩, db⟩
      (Run.state ((put codec order key value).run
        ⟨⟨storage, schedule⟩, db⟩)) := by
  obtain ⟨halt, rest, hrun⟩ :=
    put_unserved codec order storage db key value hvalue
  rw [hrun]
  exact .refl _ _

theorem delete_failed_early (codec : KeyListCodec) (storage : Storage)
    {schedule : List Verdict}
    (hearly : key ∉ db.keyList ∨ served 2 schedule = false) :
    SameReads codec ⟨⟨storage, schedule⟩, db⟩
      (Run.state ((delete codec order key).run
        ⟨⟨storage, schedule⟩, db⟩)) := by
  by_cases hlisted : key ∈ db.keyList
  · obtain ⟨halt, rest, hrun⟩ := delete_unserved codec order storage db
      hlisted (.inl (hearly.resolve_left (not_not_intro hlisted)))
    rw [hrun]
    exact .refl _ _
  · rw [delete_absent codec order db key hlisted]
    exact .refl _ _

/--
A change that fails on the object of its value, or for want of its key, has no
effect.  A put that fails on the key list alone has already replaced the
value: the handle reads the new one, and so does a new handle if the key was
listed before.
-/
theorem failed_change_reads (h : Coherent codec storage db) (value : Bytes)
    (schedule : List Verdict) :
    (ReadsAs (db.contents storage) storage db ∧
      FreshReadsAs codec db.name (db.contents storage) storage) ∧
    (∀ halt after,
      (put codec order key value).run ⟨⟨storage, schedule⟩, db⟩ =
        .error halt after →
      (served 1 schedule = false →
        SameReads codec ⟨⟨storage, schedule⟩, db⟩ after) ∧
      (served 1 schedule = true → key ≠ db.name →
        ReadsAs ((db.contents storage).insert key value) after.tee.storage
            after.db ∧
          FreshReadsAs codec db.name
            (if key ∈ db.keyList then (db.contents storage).insert key value
              else db.contents storage) after.tee.storage)) ∧
    ∀ halt after,
      (delete codec order key).run ⟨⟨storage, schedule⟩, db⟩ =
        .error halt after →
      key ∉ db.keyList ∨ served 2 schedule = false →
        SameReads codec ⟨⟨storage, schedule⟩, db⟩ after := by
  refine ⟨⟨Stored.readsAs h.stored, Stored.freshReadsAs h.persisted h.stored⟩,
    ?_, ?_⟩
  · intro halt after hput
    constructor
    · intro hvalue
      have hsame := put_failed_early order codec storage db key value hvalue
      rwa [hput] at hsame
    · intro hvalue hkey
      cases hlist : served 2 schedule with
      | true =>
          rw [put_served codec order storage db key value hlist] at hput
          cases hput
      | false =>
          obtain ⟨halt', rest, hrun⟩ :=
            put_unlisted codec order storage db key value hvalue hlist
          rw [hrun] at hput
          cases hput
          exact put_unlisted_reads h hkey value
  · intro halt after hdelete hearly
    have hsame := delete_failed_early order codec storage hearly
    rwa [hdelete] at hsame

end Reads

def oneEntry : Storage :=
  afterPut Bincode.codec .sorted emptyStorage ⟨"db", ∅⟩ "T#1" [1]

theorem oneEntry_coherent :
    Coherent Bincode.codec oneEntry ⟨"db", {"T#1"}⟩ :=
  (coherent_emptyStorage Bincode.codec "db").put .sorted (by decide) [1]

theorem failed_put_of_new_key_reads :
    ∃ error after,
      (put Bincode.codec .sorted "T#2" [2]).run
          ⟨⟨oneEntry, [.proceed, .refuse noSpace]⟩, ⟨"db", {"T#1"}⟩⟩ =
        .error (.failed error) after ∧
      FreshReadsAs Bincode.codec "db" (contents oneEntry ⟨"db", {"T#1"}⟩)
        after.tee.storage := by
  -- The list write of a put of a new key is refused.
  obtain ⟨-, hput, -⟩ := failed_change_reads .sorted oneEntry_coherent [2]
    [.proceed, .refuse noSpace]
  exact ⟨_, _, rfl, ((hput _ _ rfl).2 rfl (by decide)).2⟩

theorem failed_put_replaces_value :
    ∃ error after,
      Coherent Bincode.codec oneEntry ⟨"db", {"T#1"}⟩ ∧
      (put Bincode.codec .sorted "T#1" [2]).run
          ⟨⟨oneEntry, [.proceed, .refuse noSpace]⟩, ⟨"db", {"T#1"}⟩⟩ =
        .error (.failed error) after ∧
      ¬ SameReads Bincode.codec
        ⟨⟨oneEntry, [.proceed, .refuse noSpace]⟩, ⟨"db", {"T#1"}⟩⟩ after := by
  -- The same for a key that was listed: the old value is gone.
  refine ⟨_, _, oneEntry_coherent, rfl, ?_⟩
  intro hsame
  have hold : oneEntry (asBytes "T#1") = some [1] :=
    afterPut_self Bincode.codec .sorted emptyStorage _ _ _ (by decide)
  have hnew : Function.update oneEntry (asBytes "T#1") (some [2])
      (asBytes "T#1") = some [2] := Function.update_self _ _ _
  have hbefore := get_undisturbed oneEntry ⟨"db", {"T#1"}⟩ (by simp) hold
  have hafter := get_undisturbed _ ⟨"db", {"T#1"}⟩ (by simp) hnew
  have hget := hsame.get "T#1" []
  rw [hbefore] at hget
  exact absurd (hget.trans (congrArg Run.outcome hafter)) (by simp)

end TrustZoneSdk.SecureDb
