import TrustZoneSdk.SecureDb.Refinement

/-!
# What a crash can leave behind

A mutation is two persistent writes.  `put` writes the value before the list
that names it, so a cut between the two leaves an unlisted object behind.
`delete` removes the value before the list that still names it, so a cut
between the two leaves a listed key without an object, and from then on every
listing and every clearing of the database fails.
-/

namespace TrustZoneSdk.SecureDb

open TrustZoneSdk.Foundation
open SecureStorageDb

/--
What a later start of the TA finds: the database opens, every listed key has
its object and can be read, all entries can be listed and all can be cleared.
-/
structure Recovered (codec : KeyListCodec) (storage : Storage)
    (db : SecureStorageDb) : Prop where
  stored : ∀ key ∈ db.keyList, (storage (asBytes key)).isSome
  readable : ∀ key ∈ db.keyList, ∃ value,
    (db.get key).run ⟨storage, []⟩ = .ok value ⟨storage, []⟩
  listable : ∀ order, ∃ entries,
    (db.listEntriesWithPrefix order "").run ⟨storage, []⟩ =
      .ok entries ⟨storage, []⟩
  clearable : ∀ order, ∃ storage',
    (clear codec order).run ⟨⟨storage, []⟩, db⟩ =
      .ok () ⟨⟨storage', []⟩, ⟨db.name, ∅⟩⟩ ∧
    («open» codec db.name).run ⟨storage', []⟩ =
      .ok ⟨db.name, ∅⟩ ⟨storage', []⟩

def Recoverable (codec : KeyListCodec) (name : String) (storage : Storage) :
    Prop :=
  ∃ keys, («open» codec name).run ⟨storage, []⟩ =
      .ok ⟨name, keys⟩ ⟨storage, []⟩ ∧
    Recovered codec storage ⟨name, keys⟩

section Recovery

variable {codec : KeyListCodec} {storage : Storage}

theorem recoverable_of_coherent {name : String} {keys : Finset String}
    (h : Coherent codec storage ⟨name, keys⟩) :
    Recoverable codec name storage := by
  refine ⟨keys, open_undisturbed codec storage h.persisted, h.stored,
    ?_, ?_, ?_⟩
  · intro key hkey
    obtain ⟨value, hvalue⟩ := Option.isSome_iff_exists.mp (h.stored key hkey)
    exact ⟨value, get_undisturbed storage _ hkey hvalue⟩
  · intro order
    exact ⟨_, listEntriesWithPrefix_undisturbed order h.stored ""⟩
  · intro order
    obtain ⟨storage', hrun, hcoherent, -⟩ := clear_undisturbed order h
    exact ⟨storage', hrun,
      open_undisturbed codec storage' hcoherent.persisted⟩

theorem not_recoverable_of_dangling {name key : String}
    {keys : Finset String}
    (hkeys : persistedKeyList codec name storage = some keys)
    (hkey : key ∈ keys) (hobject : storage (asBytes key) = none) :
    ¬ Recoverable codec name storage := by
  rintro ⟨found, hopen, hrecovered⟩
  rw [open_undisturbed codec storage hkeys] at hopen
  cases hopen
  have hstored := hrecovered.stored key hkey
  simp [hobject] at hstored

end Recovery

/-! ## The condition on a step -/

def persistedKeys (codec : KeyListCodec) (name : String) (storage : Storage) :
    Finset String :=
  (persistedKeyList codec name storage).getD ∅

/--
The deletes of `keys`, in this order and under this schedule, never remove the
object of a key that the key-list object names without rewriting that object.
After the first completed delete the key-list object names all that are left.
-/
def Intact : List String → List Verdict → Finset String → Prop
  | [], _, _ => True
  | key :: keys, schedule, persisted =>
      if served 3 schedule then
        Intact keys (schedule.drop 3) keys.toFinset
      else served 2 schedule = true → key ∉ persisted

def Step.Intact (codec : KeyListCodec) (step : Step) (state : DbState) :
    Prop :=
  match step.op with
  | .delete key =>
      key ∈ state.db.keyList →
        SecureDb.Intact [key] step.schedule
          (persistedKeys codec state.db.name state.tee.storage)
  | .clear =>
      SecureDb.Intact (step.order.toList state.db.keyList) step.schedule
        (persistedKeys codec state.db.name state.tee.storage)
  | _ => True

def IntactRun (codec : KeyListCodec) : List Step → DbState → Prop
  | [], _ => True
  | step :: steps, state =>
      step.Intact codec state ∧
        ((step.exec codec state).1.isKilled = false →
          IntactRun codec steps (step.exec codec state).2)

/-! ## The invariant -/

/-- Both the persisted and the in-memory key list name existing objects. -/
structure Durable (codec : KeyListCodec) (storage : Storage)
    (db : SecureStorageDb) : Prop where
  persisted : ∃ keys, Coherent codec storage ⟨db.name, keys⟩
  stored : ∀ key ∈ db.keyList, (storage (asBytes key)).isSome
  apart : db.name ∉ db.keyList

section Invariant

variable {codec : KeyListCodec} {storage : Storage} {db : SecureStorageDb}
  {key : String} (order : IterationOrder String)

theorem Durable.recoverable (h : Durable codec storage db) :
    Recoverable codec db.name storage := by
  obtain ⟨keys, hcoherent⟩ := h.persisted
  exact recoverable_of_coherent hcoherent

theorem Durable.ne_name (h : Durable codec storage db)
    (hkey : key ∈ db.keyList) : key ≠ db.name := by
  rintro rfl
  exact h.apart hkey

theorem durable_of_coherent (h : Coherent codec storage db) :
    Durable codec storage db :=
  ⟨⟨db.keyList, h⟩, h.stored, h.apart⟩

theorem persistedKeys_eq {keys : Finset String}
    (h : Coherent codec storage ⟨db.name, keys⟩) :
    persistedKeys codec db.name storage = keys := by
  have hkeys : persistedKeyList codec db.name storage = some keys :=
    h.persisted
  rw [persistedKeys, hkeys, Option.getD_some]

theorem Durable.store (h : Durable codec storage db) (hkey : key ≠ db.name)
    (value : Bytes) :
    Durable codec (Function.update storage (asBytes key) (some value))
      ⟨db.name, insert key db.keyList⟩ := by
  have hstored : Stored storage db := h.stored
  obtain ⟨keys, hcoherent⟩ := h.persisted
  have hpersisted : Stored storage ⟨db.name, keys⟩ := hcoherent.stored
  refine ⟨⟨keys, ?_, hpersisted.write _ value, hcoherent.apart⟩,
    (hstored.write _ value).list (by simp), ?_⟩
  · exact (persistedKeyList_update_of_ne codec storage hkey _).trans
      hcoherent.persisted
  · simp only [Finset.mem_insert, not_or]
    exact ⟨hkey.symm, h.apart⟩

theorem Durable.remove (h : Durable codec storage db)
    (hkey : key ∈ db.keyList)
    (hunlisted : key ∉ persistedKeys codec db.name storage) :
    Durable codec (Function.update storage (asBytes key) none)
      ⟨db.name, db.keyList.erase key⟩ := by
  obtain ⟨keys, hcoherent⟩ := h.persisted
  rw [persistedKeys_eq hcoherent] at hunlisted
  have hstored : Stored storage db := h.stored
  have hpersisted : Stored storage ⟨db.name, keys⟩ := hcoherent.stored
  have hkept := hpersisted.remove key
  rw [Finset.erase_eq_of_notMem hunlisted] at hkept
  refine ⟨⟨keys, ?_, hkept, hcoherent.apart⟩, hstored.remove key, ?_⟩
  · exact (persistedKeyList_update_of_ne codec storage (h.ne_name hkey) _).trans
      hcoherent.persisted
  · exact fun hmem => h.apart (Finset.mem_of_mem_erase hmem)

theorem intact_congr {keys : List String} {first second : Finset String}
    (h : ∀ key ∈ keys, key ∈ first ↔ key ∈ second) (schedule : List Verdict) :
    Intact keys schedule first ↔ Intact keys schedule second := by
  cases keys with
  | nil => rfl
  | cons key keys => simp only [Intact, h key List.mem_cons_self]

def Settles (codec : KeyListCodec) (name : String) (intact : Prop)
    (state : DbState) : Prop :=
  (intact → Durable codec state.tee.storage state.db ∧ state.db.name = name) ∧
    (¬ intact → ¬ Recoverable codec name state.tee.storage)

theorem put_settles (h : Durable codec storage db) (hkey : key ≠ db.name)
    (value : Bytes) (schedule : List Verdict) :
    Settles codec db.name True
      (Run.state ((put codec order key value).run
        ⟨⟨storage, schedule⟩, db⟩)) := by
  refine ⟨fun _ => ?_, fun hfalse => absurd trivial hfalse⟩
  cases hvalue : served 1 schedule with
  | false =>
      obtain ⟨halt, rest, hrun⟩ :=
        put_unserved codec order storage db key value hvalue
      rw [hrun]
      exact ⟨h, rfl⟩
  | true =>
      cases hlist : served 2 schedule with
      | false =>
          obtain ⟨halt, rest, hrun⟩ :=
            put_unlisted codec order storage db key value hvalue hlist
          rw [hrun]
          exact ⟨h.store hkey value, rfl⟩
      | true =>
          rw [put_served codec order storage db key value hlist]
          exact ⟨durable_of_coherent
            (coherent_afterPut order h.stored h.apart hkey value), rfl⟩

theorem not_recoverable_of_torn (h : Durable codec storage db)
    (hkey : key ∈ db.keyList)
    (hlisted : key ∈ persistedKeys codec db.name storage) :
    ¬ Recoverable codec db.name
      (Function.update storage (asBytes key) none) := by
  obtain ⟨keys, hcoherent⟩ := h.persisted
  rw [persistedKeys_eq hcoherent] at hlisted
  refine not_recoverable_of_dangling ?_ hlisted (Function.update_self _ _ _)
  exact (persistedKeyList_update_of_ne codec storage (h.ne_name hkey) _).trans
    hcoherent.persisted

theorem forM_delete_settles {keys : List String} (hnodup : keys.Nodup)
    (h : Durable codec storage db) (hkeys : ∀ key ∈ keys, key ∈ db.keyList)
    (schedule : List Verdict) :
    Settles codec db.name
      (Intact keys schedule (persistedKeys codec db.name storage))
      (Run.state ((keys.forM (delete codec order)).run
        ⟨⟨storage, schedule⟩, db⟩)) := by
  -- A sequence of deletes of listed keys under any schedule.  The induction
  -- keeps the invariant up to the first delete that is refused or torn.
  induction keys generalizing storage db schedule with
  | nil =>
      refine ⟨fun _ => ?_, fun hfalse => absurd trivial hfalse⟩
      exact ⟨h, rfl⟩
  | cons key keys ih =>
      obtain ⟨hfresh, hnodup⟩ := List.nodup_cons.mp hnodup
      have hkey : key ∈ db.keyList := hkeys key List.mem_cons_self
      obtain ⟨value, hvalue⟩ := Option.isSome_iff_exists.mp (h.stored key hkey)
      rw [List.forM, EStateM.run_bind]
      cases hlist : served 3 schedule with
      | true =>
          have hrest : ∀ other ∈ keys, other ∈ db.keyList.erase key := by
            intro other hother
            refine Finset.mem_erase.mpr
              ⟨?_, hkeys other (List.mem_cons_of_mem _ hother)⟩
            rintro rfl
            exact hfresh hother
          have hcoherent : Coherent codec
              (afterDelete codec order storage db key)
              ⟨db.name, db.keyList.erase key⟩ :=
            coherent_afterDelete order h.stored h.apart key
          have htail := ih hnodup (durable_of_coherent hcoherent) hrest
            (schedule.drop 3)
          have hlisted : ∀ other ∈ keys,
              other ∈ db.keyList.erase key ↔ other ∈ keys.toFinset := by
            intro other hother
            simp [hother, hrest other hother]
          rw [persistedKeys_eq hcoherent, intact_congr hlisted] at htail
          rw [delete_served codec order storage db hkey hvalue hlist]
          simpa [Intact, hlist] using htail
      | false =>
          cases hobject : served 2 schedule with
          | true =>
              obtain ⟨halt, rest, hrun⟩ :=
                delete_torn codec order storage db hkey hvalue hobject hlist
              simp only [hrun, Intact, hlist, hobject, Bool.false_eq_true,
                if_false, true_implies]
              refine ⟨fun hunlisted => ⟨h.remove hkey hunlisted, rfl⟩, ?_⟩
              intro hlisted
              exact not_recoverable_of_torn h hkey (not_not.mp hlisted)
          | false =>
              obtain ⟨halt, rest, hrun⟩ :=
                delete_unserved codec order storage db hkey (.inl hobject)
              simp only [hrun, Intact, hlist, hobject, Bool.false_eq_true,
                if_false, false_implies]
              exact ⟨fun _ => ⟨h, rfl⟩, fun hfalse => absurd trivial hfalse⟩

theorem delete_settles (h : Durable codec storage db) (key : String)
    (schedule : List Verdict) :
    Settles codec db.name
      (key ∈ db.keyList →
        Intact [key] schedule (persistedKeys codec db.name storage))
      (Run.state ((delete codec order key).run ⟨⟨storage, schedule⟩, db⟩)) := by
  by_cases hkey : key ∈ db.keyList
  · have hone := forM_delete_settles order (List.nodup_singleton key) h
      (by simpa using hkey) schedule
    rw [List.forM, EStateM.run_bind] at hone
    cases hrun : (delete codec order key).run ⟨⟨storage, schedule⟩, db⟩ <;>
      simpa [hrun, hkey, List.forM] using hone
  · rw [delete_absent codec order db key hkey]
    exact ⟨fun _ => ⟨h, rfl⟩, fun hfalse => absurd (absurd · hkey) hfalse⟩

theorem clear_settles (h : Durable codec storage db)
    (schedule : List Verdict) :
    Settles codec db.name
      (Intact (order.toList db.keyList) schedule
        (persistedKeys codec db.name storage))
      (Run.state ((clear codec order).run ⟨⟨storage, schedule⟩, db⟩)) := by
  have hall := forM_delete_settles order (order.nodup db.keyList) h
    (fun key hkey => (order.mem_toList db.keyList key).mp hkey) schedule
  simpa [clear] using hall

theorem reopen_settles (h : Durable codec storage db)
    (schedule : List Verdict) :
    Settles codec db.name True
      (Op.exec codec order .reopen ⟨⟨storage, schedule⟩, db⟩).2 := by
  refine ⟨fun _ => ?_, fun hfalse => absurd trivial hfalse⟩
  obtain ⟨keys, hcoherent⟩ := h.persisted
  obtain ⟨rest, hrun | ⟨halt, hrun⟩⟩ :=
    open_cases codec storage hcoherent.persisted schedule
  · rw [Op.exec, hrun]
    exact ⟨durable_of_coherent hcoherent, rfl⟩
  · rw [Op.exec, hrun]
    exact ⟨h, rfl⟩

theorem settles_of_unchanged (h : Durable codec storage db) {tee : Tee}
    (htee : tee.storage = storage) :
    Settles codec db.name True ⟨tee, db⟩ := by
  subst htee
  exact ⟨fun _ => ⟨h, rfl⟩, fun hfalse => absurd trivial hfalse⟩

theorem exec_settles (h : Durable codec storage db) (step : Step)
    (hkeys : ∀ key ∈ step.op.keys, key ≠ db.name) (before : List Verdict) :
    Settles codec db.name (step.Intact codec ⟨⟨storage, before⟩, db⟩)
      (step.exec codec ⟨⟨storage, before⟩, db⟩).2 := by
  obtain ⟨op, order, schedule⟩ := step
  cases op with
  | put key value =>
      exact put_settles order h (hkeys key (by simp [Op.keys])) value schedule
  | get key =>
      exact settles_of_unchanged h (get_storage storage db schedule)
  | delete key => exact delete_settles order h key schedule
  | clear => exact clear_settles order h schedule
  | listEntriesWithPrefix pre =>
      exact settles_of_unchanged h
        (listEntriesWithPrefix_storage order storage db pre schedule)
  | reopen => exact reopen_settles order h schedule

/--
Cutting the run after any number of steps leaves a recoverable database
exactly when no step before the cut was torn.
-/
theorem run_recoverable_iff {steps : List Step}
    (h : Durable codec storage db)
    (hkeys : ∀ step ∈ steps, ∀ key ∈ step.op.keys, key ≠ db.name)
    (before : List Verdict) :
    (∀ count, Recoverable codec db.name
        (run codec (steps.take count)
          ⟨⟨storage, before⟩, db⟩).2.tee.storage) ↔
      IntactRun codec steps ⟨⟨storage, before⟩, db⟩ := by
  induction steps generalizing storage db before with
  | nil => simpa [run, IntactRun] using h.recoverable
  | cons step steps ih =>
      have hstep := exec_settles h step (hkeys step List.mem_cons_self) before
      have hrest : ∀ step ∈ steps, ∀ key ∈ step.op.keys, key ≠ db.name :=
        fun step hmem => hkeys step (List.mem_cons_of_mem _ hmem)
      rw [IntactRun]
      generalize hexec : step.exec codec ⟨⟨storage, before⟩, db⟩ = result
      obtain ⟨answer, ⟨storage', rest⟩, db'⟩ := result
      rw [hexec] at hstep
      have hrun : ∀ count,
          (run codec ((step :: steps).take (count + 1))
              ⟨⟨storage, before⟩, db⟩).2 =
            if answer.isKilled then ⟨⟨storage', rest⟩, db'⟩
            else (run codec (steps.take count) ⟨⟨storage', rest⟩, db'⟩).2 := by
        intro count
        simp only [List.take_succ_cons, run, hexec]
        split <;> rfl
      have hnext : step.Intact codec ⟨⟨storage, before⟩, db⟩ →
          Recoverable codec db.name storage' ∧
          ((∀ count, Recoverable codec db.name
              (run codec (steps.take count)
                ⟨⟨storage', rest⟩, db'⟩).2.tee.storage) ↔
            IntactRun codec steps ⟨⟨storage', rest⟩, db'⟩) := by
        intro hintact
        obtain ⟨hdurable, hname⟩ := hstep.1 hintact
        simp only at hdurable hname
        rw [← hname] at hrest ⊢
        exact ⟨hdurable.recoverable, ih hdurable hrest rest⟩
      constructor
      · intro hall
        have hintact : step.Intact codec ⟨⟨storage, before⟩, db⟩ := by
          by_contra htorn
          refine hstep.2 htorn ?_
          have hone := hall 1
          rw [hrun 0] at hone
          simpa [run] using hone
        refine ⟨hintact, fun hkilled => (hnext hintact).2.mp ?_⟩
        intro count
        have hmore := hall (count + 1)
        rw [hrun count] at hmore
        simpa [hkilled] using hmore
      · rintro ⟨hintact, htail⟩ count
        obtain ⟨hcut, hmore⟩ := hnext hintact
        cases count with
        | zero => exact h.recoverable
        | succ count =>
            rw [hrun count]
            cases hkilled : answer.isKilled with
            | true => exact hcut
            | false => exact hmore.mpr (htail hkilled) count

end Invariant

/-! ## Runs from an empty storage -/

def freshState (name : String) : DbState := ⟨⟨emptyStorage, []⟩, ⟨name, ∅⟩⟩

theorem recoverable_iff_no_torn_delete (codec : KeyListCodec) {name : String}
    (hname : '#' ∉ name.toList) (steps : List Step)
    (hkeys : ∀ step ∈ steps, ∀ key ∈ step.op.keys, IsStorageKey key) :
    (∀ count, Recoverable codec name
        (run codec (steps.take count) (freshState name)).2.tee.storage) ↔
      IntactRun codec steps (freshState name) := by
  refine run_recoverable_iff
    (durable_of_coherent (coherent_emptyStorage codec name)) ?_ []
  intro step hstep key hkey
  exact (hkeys step hstep key hkey).ne_name hname

def putThenDelete (schedule : List Verdict) : List Step :=
  [⟨.put "T#1" [1], .sorted, []⟩, ⟨.delete "T#1", .sorted, schedule⟩]

theorem putThenDelete_keys (schedule : List Verdict) :
    ∀ step ∈ putThenDelete schedule, ∀ key ∈ step.op.keys,
      IsStorageKey key := by
  intro step hstep key hkey
  refine ⟨"T", "1", ?_⟩
  simp only [putThenDelete, List.mem_cons, List.not_mem_nil, or_false] at hstep
  rcases hstep with rfl | rfl <;>
    exact (List.mem_singleton.mp hkey).trans (by decide)

/-- Power lost before the object is removed: nothing is torn. -/
theorem recoverable_after_cut_delete :
    '#' ∉ "db".toList ∧
      ∀ count, Recoverable Bincode.codec "db"
        (run Bincode.codec ((putThenDelete [.proceed, .powerOff]).take count)
          (freshState "db")).2.tee.storage := by
  have hname : '#' ∉ "db".toList := by decide
  refine ⟨hname, (recoverable_iff_no_torn_delete Bincode.codec hname _
    (putThenDelete_keys _)).mpr ?_⟩
  refine ⟨trivial, fun _ => ⟨fun _ => ?_, fun _ => trivial⟩⟩
  intro hserved
  exact absurd hserved (by decide)

/--
Power lost between the two writes of a delete: the key list still names the
entry, whose object is gone.
-/
theorem putThenDelete_torn :
    ∃ storage,
      (run Bincode.codec (putThenDelete [.proceed, .proceed, .powerOff])
        (freshState "db")).2.tee.storage = storage ∧
      («open» Bincode.codec "db").run ⟨storage, []⟩ =
        .ok ⟨"db", {"T#1"}⟩ ⟨storage, []⟩ ∧
      (SecureStorageDb.get ⟨"db", {"T#1"}⟩ "T#1").run ⟨storage, []⟩ =
        .error (.failed .objectNotFound) ⟨storage, []⟩ ∧
      ¬ Recoverable Bincode.codec "db" storage := by
  have hput := put_served Bincode.codec .sorted emptyStorage ⟨"db", ∅⟩ "T#1"
    [1] (served_nil 2)
  have hkey : "T#1" ≠ "db" := by decide
  have hcoherent := (coherent_emptyStorage Bincode.codec "db").put .sorted
    hkey [1]
  simp only [List.drop_nil] at hput
  generalize SecureStorageDb.afterPut Bincode.codec .sorted emptyStorage
    ⟨"db", ∅⟩ "T#1" [1] = filled at hput hcoherent
  obtain ⟨value, hvalue⟩ := Option.isSome_iff_exists.mp
    (hcoherent.stored "T#1" (by simp))
  have hobject : served 2 [.proceed, .proceed, .powerOff] = true := rfl
  have htorn : served 3 [.proceed, .proceed, .powerOff] = false := rfl
  obtain ⟨halt, rest, hdelete⟩ := delete_torn Bincode.codec .sorted filled
    ⟨"db", insert "T#1" ∅⟩ (by simp) hvalue hobject htorn
  have hlist : persistedKeyList Bincode.codec "db"
      (Function.update filled (asBytes "T#1") none) = some {"T#1"} :=
    (persistedKeyList_update_of_ne _ _ hkey _).trans hcoherent.persisted
  refine ⟨Function.update filled (asBytes "T#1") none, ?_,
    open_undisturbed _ _ hlist, ?_, ?_⟩
  · have hfirst : (Answer.done (.ok ())).isKilled = false := rfl
    simp only [putThenDelete, freshState, run, Step.exec, Op.exec, hput,
      Run.state_ok, Run.outcome_ok, hfirst, Bool.false_eq_true, if_false,
      hdelete, Run.state_error]
    split <;> rfl
  · have hload := loadFromSecureStorage_served
      (Function.update filled (asBytes "T#1") none) (asBytes "T#1")
      (served_nil 3)
    simp [SecureStorageDb.get, hload]
  · exact not_recoverable_of_dangling hlist (Finset.mem_singleton_self _)
      (Function.update_self _ _ _)

end TrustZoneSdk.SecureDb
