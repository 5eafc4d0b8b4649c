import TrustZoneSdk.SecureDb.Refinement

/-!
# Typed clients and several clients of one database

A client stores values of storable types and guards its database by a lock of
its own.  Two clients opened on the same name share nothing but the storage:
each keeps the key list it read when it was opened, and writes all of it back
on every change.  A client that is opened again after the other's last call is
up to date, and calls through up-to-date clients lose nothing.
-/

namespace TrustZoneSdk.SecureDb

open TrustZoneSdk.Foundation

/-! ## The client -/

inductive LockMode where
  | read
  | write
  deriving DecidableEq, Repr

inductive ClientError where
  | lock (mode : LockMode)
  | db (cause : DbError)
  | bincode (message : String)
  deriving DecidableEq, Repr

def ClientError.display : ClientError → String
  | .lock .read => "Failed to acquire read lock"
  | .lock .write => "Failed to acquire write lock"
  | .db cause => cause.display
  | .bincode message => message

structure ValueCodec (V : Type) where
  serialize : V → Except String Bytes
  deserialize : Bytes → Except String V

/-- A lock is poisoned by a panic of its holder; then it is never taken again. -/
structure SecureStorageClient where
  db : SecureStorageDb
  poisoned : Bool
  deriving DecidableEq

structure ClientState where
  tee : Tee
  client : SecureStorageClient

abbrev ClientM (α : Type) := Fallible ClientError ClientState α

def fromSerde {σ α : Type} (result : Except String α) :
    Fallible ClientError σ α :=
  match result with
  | .ok value => return value
  | .error message => Fallible.fail (.bincode message)

namespace SecureStorageClient

variable {V : Type} (codec : KeyListCodec) (storable : Storable V)
  (values : ValueCodec V)

def acquire {σ : Type} (client : SecureStorageClient) (mode : LockMode) :
    Fallible ClientError σ Unit :=
  if client.poisoned then Fallible.fail (.lock mode) else return ()

def onDb {α : Type} (x : DbM α) : ClientM α :=
  (Fallible.zoom (fun state => ⟨state.tee, state.client.db⟩)
    (fun state inner => ⟨inner.tee, ⟨inner.db, state.client.poisoned⟩⟩)
    x).mapError .db

def «open» (dbName : String) : TeeM ClientError SecureStorageClient := do
  let db ← (SecureStorageDb.open codec dbName).mapError .db
  return ⟨db, false⟩

def get (client : SecureStorageClient) (key : storable.Key) :
    TeeM ClientError V := do
  let storageKey := storable.concatKey (storable.keyToString key)
  client.acquire .read
  let value ← (client.db.get storageKey).mapError .db
  fromSerde (values.deserialize value)

def put (order : IterationOrder String) (value : V) : ClientM Unit := do
  let key := storable.storageKey value
  let value ← fromSerde (values.serialize value)
  (← MonadState.get).client.acquire .write
  onDb (SecureStorageDb.put codec order key value)

def deleteEntry (order : IterationOrder String) (key : storable.Key) :
    ClientM Unit := do
  let storageKey := storable.concatKey (storable.keyToString key)
  (← MonadState.get).client.acquire .write
  onDb (SecureStorageDb.delete codec order storageKey)

end SecureStorageClient

/-! ## Calls that nothing disturbs -/

section Undisturbed

variable {V : Type} (codec : KeyListCodec) (storable : Storable V)
  (values : ValueCodec V) (order : IterationOrder String) (storage : Storage)
  (db : SecureStorageDb)

theorem clientPut_undisturbed {value : V} {bytes : Bytes}
    (hbytes : values.serialize value = .ok bytes) :
    (SecureStorageClient.put codec storable values order value).run
        ⟨⟨storage, []⟩, ⟨db, false⟩⟩ =
      .ok () ⟨⟨db.afterPut codec order storage (storable.storageKey value)
          bytes, []⟩,
        ⟨⟨db.name, insert (storable.storageKey value) db.keyList⟩,
          false⟩⟩ := by
  simp [SecureStorageClient.put, hbytes, fromSerde,
    SecureStorageClient.acquire, SecureStorageClient.onDb,
    SecureStorageDb.put_served codec order storage db
      (storable.storageKey value) bytes (served_nil 2)]

theorem clientDelete_undisturbed {key : storable.Key}
    (hobject : (storage (asBytes (storable.concatKey
      (storable.keyToString key)))).isSome)
    (hkey : storable.concatKey (storable.keyToString key) ∈ db.keyList) :
    (SecureStorageClient.deleteEntry codec storable order key).run
        ⟨⟨storage, []⟩, ⟨db, false⟩⟩ =
      .ok () ⟨⟨db.afterDelete codec order storage
          (storable.concatKey (storable.keyToString key)), []⟩,
        ⟨⟨db.name, db.keyList.erase
          (storable.concatKey (storable.keyToString key))⟩, false⟩⟩ := by
  obtain ⟨bytes, hbytes⟩ := Option.isSome_iff_exists.mp hobject
  simp [SecureStorageClient.deleteEntry, SecureStorageClient.acquire,
    SecureStorageClient.onDb, SecureStorageDb.delete_served codec order storage
      db hkey hbytes (served_nil 3)]

theorem clientDelete_absent {key : storable.Key}
    (hkey : storable.concatKey (storable.keyToString key) ∉ db.keyList) :
    (SecureStorageClient.deleteEntry codec storable order key).run
        ⟨⟨storage, []⟩, ⟨db, false⟩⟩ =
      .error (.failed (.db .keyNotFound)) ⟨⟨storage, []⟩, ⟨db, false⟩⟩ := by
  simp [SecureStorageClient.deleteEntry, SecureStorageClient.acquire,
    SecureStorageClient.onDb, SecureStorageDb.delete_absent codec order db _
      hkey, Halt.map]

theorem clientDelete_missing {key : storable.Key}
    (h : storable.concatKey (storable.keyToString key) ∉ db.keyList ∨
      storage (asBytes (storable.concatKey (storable.keyToString key))) =
        none) :
    ∃ halt rest,
      (SecureStorageClient.deleteEntry codec storable order key).run
        ⟨⟨storage, []⟩, ⟨db, false⟩⟩ =
      .error halt ⟨⟨storage, rest⟩, ⟨db, false⟩⟩ := by
  by_cases hkey : storable.concatKey (storable.keyToString key) ∈ db.keyList
  · obtain ⟨halt, rest, hrun⟩ : ∃ halt rest,
        (SecureStorageDb.delete codec order (storable.concatKey
          (storable.keyToString key))).run ⟨⟨storage, []⟩, db⟩ =
          .error halt ⟨⟨storage, rest⟩, db⟩ :=
      SecureStorageDb.delete_unserved codec order storage db hkey
        (.inr (h.resolve_left (not_not_intro hkey)))
    refine ⟨halt.map .db, rest, ?_⟩
    simp [SecureStorageClient.deleteEntry, SecureStorageClient.acquire,
      SecureStorageClient.onDb, hrun]
  · exact ⟨_, [], clientDelete_absent codec storable order storage db hkey⟩

end Undisturbed

/-! ## Several clients -/

section Clients

variable {τ : Type} {V : τ → Type}

inductive Call (tables : ∀ table, Storable (V table)) where
  | put (table : τ) (value : V table)
  | deleteEntry (table : τ) (key : (tables table).Key)

inductive Event (ι : Type) (tables : ∀ table, Storable (V table)) where
  | open (client : ι)
  | call (client : ι) (order : IterationOrder String) (request : Call tables)

structure Clients (ι : Type) where
  tee : Tee
  clients : ι → Option SecureStorageClient

variable {ι : Type} [DecidableEq ι] (codec : KeyListCodec) (name : String)
  {tables : ∀ table, Storable (V table)}
  (values : ∀ table, ValueCodec (V table))

def Call.run (order : IterationOrder String) : Call tables → ClientM Unit
  | .put table value =>
      SecureStorageClient.put codec (tables table) (values table) order value
  | .deleteEntry table key =>
      SecureStorageClient.deleteEntry codec (tables table) order key

/--
One event.  A failed opening leaves the variable of the client as it was, and
a call through a client that was never opened is no call at all.
-/
def Event.exec (state : Clients ι) : Event ι tables → Clients ι
  | .open client =>
      match (SecureStorageClient.open codec name).run state.tee with
      | .ok opened tee =>
          ⟨tee, Function.update state.clients client (some opened)⟩
      | .error _ tee => ⟨tee, state.clients⟩
  | .call client order request =>
      match state.clients client with
      | none => state
      | some handle =>
          let final := Run.state ((request.run codec values order).run
            ⟨state.tee, handle⟩)
          ⟨final.tee, Function.update state.clients client
            (some final.client)⟩

def runEvents (events : List (Event ι tables)) (state : Clients ι) :
    Clients ι :=
  events.foldl (Event.exec codec name values) state

/-! ### The map that the calls describe -/

def Call.apply (entries : Entries) : Call tables → Entries
  | .put table value =>
      match (values table).serialize value with
      | .ok bytes => entries.insert ((tables table).storageKey value) bytes
      | .error _ => entries
  | .deleteEntry table key =>
      entries.erase ((tables table).concatKey ((tables table).keyToString key))

def Event.apply (entries : Entries) : Event ι tables → Entries
  | .open _ => entries
  | .call _ _ request => request.apply values entries

def applyEvents (events : List (Event ι tables)) (entries : Entries) :
    Entries :=
  events.foldl (Event.apply values) entries

/--
Every call goes through a client that was opened, or made a call itself, after
the last call of every other client.  `current` holds the clients of which
this is true so far.
-/
def UpToDate : List (Event ι tables) → Finset ι → Prop
  | [], _ => True
  | .open client :: events, current => UpToDate events (insert client current)
  | .call client _ _ :: events, current =>
      client ∈ current ∧ UpToDate events {client}

/-! ### Calls through up-to-date clients -/

variable {codec name}

/-- What one call leaves behind when its client is up to date. -/
def Settled (codec : KeyListCodec) (name : String) (entries : Entries)
    (state : ClientState) : Prop :=
  ∃ storage keys,
    state = ⟨⟨storage, []⟩, ⟨⟨name, keys⟩, false⟩⟩ ∧
    SecureStorageDb.Coherent codec storage ⟨name, keys⟩ ∧
    SecureStorageDb.contents storage ⟨name, keys⟩ = entries

variable {storage : Storage} {keys : Finset String}

theorem put_settled (order : IterationOrder String)
    (h : SecureStorageDb.Coherent codec storage ⟨name, keys⟩)
    (hname : '#' ∉ name.toList) (table : τ) (value : V table) :
    Settled codec name
      ((Call.put table value : Call tables).apply values
        (SecureStorageDb.contents storage ⟨name, keys⟩))
      (Run.state ((SecureStorageClient.put codec (tables table) (values table)
        order value).run ⟨⟨storage, []⟩, ⟨⟨name, keys⟩, false⟩⟩)) := by
  have hkey : (tables table).storageKey value ≠ name :=
    ((tables table).isStorageKey_storageKey value).ne_name hname
  cases hbytes : (values table).serialize value with
  | error message =>
      refine ⟨storage, keys, ?_, h, by simp [Call.apply, hbytes]⟩
      simp [SecureStorageClient.put, hbytes, fromSerde]
  | ok bytes =>
      refine ⟨_, _, ?_, h.put order hkey bytes, ?_⟩
      · rw [clientPut_undisturbed codec (tables table) (values table) order
          storage ⟨name, keys⟩ hbytes]
        rfl
      · rw [SecureStorageDb.contents_put order h hkey]
        simp [Call.apply, hbytes]

theorem deleteEntry_settled (order : IterationOrder String)
    (h : SecureStorageDb.Coherent codec storage ⟨name, keys⟩) (table : τ)
    (key : (tables table).Key) :
    Settled codec name
      ((Call.deleteEntry table key : Call tables).apply values
        (SecureStorageDb.contents storage ⟨name, keys⟩))
      (Run.state ((SecureStorageClient.deleteEntry codec (tables table) order
        key).run ⟨⟨storage, []⟩, ⟨⟨name, keys⟩, false⟩⟩)) := by
  by_cases hkey :
      (tables table).concatKey ((tables table).keyToString key) ∈ keys
  · refine ⟨_, _, ?_, h.delete order _,
      SecureStorageDb.contents_delete order h _⟩
    rw [clientDelete_undisturbed codec (tables table) order storage
      ⟨name, keys⟩ (h.stored _ hkey) hkey]
    rfl
  · refine ⟨storage, keys, ?_, h, ?_⟩
    · rw [clientDelete_absent codec (tables table) order storage
        ⟨name, keys⟩ hkey]
      rfl
    · apply Finmap.ext_lookup
      intro other
      rw [Call.apply]
      by_cases hsame : other =
          (tables table).concatKey ((tables table).keyToString key)
      · subst other
        simp [hkey]
      · simp [hsame, Finmap.lookup_erase_ne]

theorem call_settled (order : IterationOrder String)
    (h : SecureStorageDb.Coherent codec storage ⟨name, keys⟩)
    (hname : '#' ∉ name.toList) (request : Call tables) :
    Settled codec name
      (request.apply values (SecureStorageDb.contents storage ⟨name, keys⟩))
      (Run.state ((request.run codec values order).run
        ⟨⟨storage, []⟩, ⟨⟨name, keys⟩, false⟩⟩)) := by
  cases request with
  | put table value => exact put_settled values order h hname table value
  | deleteEntry table key => exact deleteEntry_settled values order h table key

/--
The clients in `current` hold the key list that the storage holds, and the
storage stands for `entries`.
-/
def Synced (codec : KeyListCodec) (name : String) (current : Finset ι)
    (entries : Entries) (state : Clients ι) : Prop :=
  ∃ storage keys,
    state.tee = ⟨storage, []⟩ ∧
    SecureStorageDb.Coherent codec storage ⟨name, keys⟩ ∧
    SecureStorageDb.contents storage ⟨name, keys⟩ = entries ∧
    ∀ client ∈ current,
      state.clients client = some ⟨⟨name, keys⟩, false⟩

theorem clientOpen_coherent
    (h : SecureStorageDb.Coherent codec storage ⟨name, keys⟩) :
    (SecureStorageClient.open codec name).run ⟨storage, []⟩ =
      .ok ⟨⟨name, keys⟩, false⟩ ⟨storage, []⟩ := by
  simp [SecureStorageClient.open,
    SecureStorageDb.open_undisturbed codec storage h.persisted]

theorem open_synced {current : Finset ι} {entries : Entries}
    {state : Clients ι} (h : Synced codec name current entries state)
    (client : ι) :
    Synced codec name (insert client current) entries
      ((Event.open client : Event ι tables).exec codec name values state) := by
  obtain ⟨storage, keys, htee, hcoherent, hcontents, hcurrent⟩ := h
  refine ⟨storage, keys, ?_, hcoherent, hcontents, ?_⟩
  · simp [Event.exec, htee, clientOpen_coherent hcoherent]
  · intro other hother
    by_cases hsame : other = client
    · simp [Event.exec, htee, clientOpen_coherent hcoherent, hsame]
    · simp [Event.exec, htee, clientOpen_coherent hcoherent, hsame,
        hcurrent other (Finset.mem_of_mem_insert_of_ne hother hsame)]

theorem call_synced (hname : '#' ∉ name.toList) {current : Finset ι}
    {entries : Entries} {state : Clients ι}
    (h : Synced codec name current entries state) {client : ι}
    (hclient : client ∈ current) (order : IterationOrder String)
    (request : Call tables) :
    Synced codec name {client} (request.apply values entries)
      ((Event.call client order request).exec codec name values state) := by
  obtain ⟨storage, keys, htee, hcoherent, rfl, hcurrent⟩ := h
  obtain ⟨storage', keys', hrun, hcoherent', hcontents⟩ :=
    call_settled values order hcoherent hname request
  refine ⟨storage', keys', ?_, hcoherent', hcontents, ?_⟩
  · simp [Event.exec, hcurrent client hclient, htee, hrun]
  · intro other hother
    rw [Finset.mem_singleton.mp hother]
    simp [Event.exec, hcurrent client hclient, htee, hrun]

theorem runEvents_synced (hname : '#' ∉ name.toList)
    (events : List (Event ι tables)) {current : Finset ι}
    (hcurrent : UpToDate events current) {entries : Entries}
    {state : Clients ι} (h : Synced codec name current entries state) :
    ∃ current', Synced codec name current'
      (applyEvents values events entries)
      (runEvents codec name values events state) := by
  induction events generalizing current entries state with
  | nil => exact ⟨current, h⟩
  | cons event events ih =>
      cases event with
      | «open» client => exact ih hcurrent (open_synced values h client)
      | call client order request =>
          obtain ⟨hclient, hrest⟩ := hcurrent
          exact ih hrest
            (call_synced values hname h hclient order request)

def readBack (entries : Entries) (table : τ) (key : (tables table).Key) :
    Except (Halt ClientError) (V table) :=
  match entries.lookup
      ((tables table).concatKey ((tables table).keyToString key)) with
  | none => .error (.failed (.db .keyNotFound))
  | some bytes =>
      match (values table).deserialize bytes with
      | .ok value => .ok value
      | .error message => .error (.failed (.bincode message))

theorem get_readBack
    (h : SecureStorageDb.Coherent codec storage ⟨name, keys⟩) (table : τ)
    (key : (tables table).Key) :
    Run.outcome ((SecureStorageClient.get (tables table) (values table)
        ⟨⟨name, keys⟩, false⟩ key).run ⟨storage, []⟩) =
      readBack values (SecureStorageDb.contents storage ⟨name, keys⟩)
        table key := by
  simp only [readBack, SecureStorageClient.get, SecureStorageClient.acquire]
  generalize (tables table).concatKey ((tables table).keyToString key) = text
  by_cases hkey : text ∈ keys
  · obtain ⟨bytes, hbytes⟩ :=
      Option.isSome_iff_exists.mp (h.stored text hkey)
    cases hvalue : (values table).deserialize bytes <;>
      simp [SecureStorageDb.get_undisturbed storage ⟨name, keys⟩ hkey hbytes,
        hkey, hbytes, hvalue, fromSerde]
  · simp [SecureStorageDb.get_absent ⟨name, keys⟩ hkey, hkey, Halt.map]

/--
Calls that each go through an up-to-date client are all visible to a client
opened afterwards, in the order in which they were made.
-/
theorem fresh_client_sees_up_to_date_calls (hname : '#' ∉ name.toList)
    (hstart : SecureStorageDb.Coherent codec storage ⟨name, keys⟩)
    (events : List (Event ι tables)) (hcurrent : UpToDate events ∅) :
    ∃ client storage',
      (runEvents codec name values events ⟨⟨storage, []⟩, fun _ => none⟩).tee =
        ⟨storage', []⟩ ∧
      (SecureStorageClient.open codec name).run ⟨storage', []⟩ =
        .ok client ⟨storage', []⟩ ∧
      client.db.contents storage' =
        applyEvents values events
          (SecureStorageDb.contents storage ⟨name, keys⟩) ∧
      ∀ table key,
        Run.outcome ((client.get (tables table) (values table) key).run
            ⟨storage', []⟩) =
          readBack values
            (applyEvents values events
              (SecureStorageDb.contents storage ⟨name, keys⟩))
            table key := by
  have hsynced : Synced codec name (∅ : Finset ι)
      (SecureStorageDb.contents storage ⟨name, keys⟩)
      ⟨⟨storage, []⟩, fun _ => none⟩ :=
    ⟨storage, keys, rfl, hstart, rfl, by simp⟩
  obtain ⟨_, storage', keys', htee, hcoherent, hcontents, -⟩ :=
    runEvents_synced values hname events hcurrent hsynced
  refine ⟨⟨⟨name, keys'⟩, false⟩, storage', htee, clientOpen_coherent hcoherent,
    hcontents, ?_⟩
  intro table key
  rw [get_readBack values hcoherent, hcontents]

end Clients

/-! ### One client for each command -/

section Commands

variable {τ : Type} {V : τ → Type} {tables : ∀ table, Storable (V table)}

def commandEvents :
    Nat → List (IterationOrder String × Call tables) → List (Event Nat tables)
  | _, [] => []
  | number, (order, request) :: commands =>
      .open number :: .call number order request ::
        commandEvents (number + 1) commands

theorem commandEvents_upToDate (number : Nat)
    (commands : List (IterationOrder String × Call tables))
    (current : Finset Nat) :
    UpToDate (commandEvents number commands) current := by
  induction commands generalizing number current with
  | nil => trivial
  | cons command commands ih =>
      exact ⟨Finset.mem_insert_self number current, ih _ _⟩

end Commands

/-! ### Runs with and without a stale client -/

def noteTable : Storable String := ⟨String, id, id, "Note"⟩

def noteCodec : ValueCodec String where
  serialize text := .ok (Bincode.encodeText text)
  deserialize bytes :=
    match Bincode.decodeText bytes with
    | some (text, _) => .ok text
    | none => .error "io error: unexpected end of file"

abbrev NoteCall := Call fun _ : Unit => noteTable

def putNote (text : String) : NoteCall := .put () text

def deleteNote (text : String) : NoteCall := .deleteEntry () text

def noteCommands : List (Event Nat fun _ : Unit => noteTable) :=
  commandEvents 0 [(.sorted, putNote "a"), (.sorted, putNote "b"),
    (.sorted, deleteNote "a")]

theorem fresh_client_sees_note_commands :
    ∃ client storage',
      (runEvents Bincode.codec "db" (fun _ => noteCodec) noteCommands
        ⟨⟨emptyStorage, []⟩, fun _ => none⟩).tee = ⟨storage', []⟩ ∧
      (SecureStorageClient.open Bincode.codec "db").run ⟨storage', []⟩ =
        .ok client ⟨storage', []⟩ ∧
      Run.outcome ((client.get noteTable noteCodec "a").run ⟨storage', []⟩) =
        .error (.failed (.db .keyNotFound)) ∧
      Run.outcome ((client.get noteTable noteCodec "b").run ⟨storage', []⟩) =
        .ok "b" := by
  have hname : '#' ∉ "db".toList := by decide
  obtain ⟨client, storage', htee, hopen, -, hget⟩ :=
    fresh_client_sees_up_to_date_calls (fun _ => noteCodec) hname
      (SecureStorageDb.coherent_emptyStorage Bincode.codec "db") noteCommands
      (commandEvents_upToDate 0 _ ∅)
  refine ⟨client, storage', htee, hopen, ?_, ?_⟩
  · exact (hget () "a").trans (by rfl)
  · exact (hget () "b").trans (by rfl)

def staleNotes : List (Event Nat fun _ : Unit => noteTable) :=
  [.open 0, .open 1, .call 0 .sorted (putNote "a"),
    .call 1 .sorted (putNote "b")]

def afterNote (storage : Storage) (text : String) : Storage :=
  SecureStorageDb.afterPut Bincode.codec .sorted storage ⟨"db", ∅⟩
    (noteTable.storageKey text) (Bincode.encodeText text)

theorem putNote_run (storage : Storage) (text : String) :
    ((putNote text).run Bincode.codec (fun _ => noteCodec) .sorted).run
        ⟨⟨storage, []⟩, ⟨⟨"db", ∅⟩, false⟩⟩ =
      .ok () ⟨⟨afterNote storage text, []⟩,
        ⟨⟨"db", {noteTable.storageKey text}⟩, false⟩⟩ :=
  clientPut_undisturbed Bincode.codec noteTable noteCodec .sorted storage
    ⟨"db", ∅⟩ rfl

theorem stale_client_drops_note :
    ∃ client storage',
      (runEvents Bincode.codec "db" (fun _ => noteCodec) staleNotes
        ⟨⟨emptyStorage, []⟩, fun _ => none⟩).tee = ⟨storage', []⟩ ∧
      (SecureStorageClient.open Bincode.codec "db").run ⟨storage', []⟩ =
        .ok client ⟨storage', []⟩ ∧
      (client.db.contents storage').lookup "Note#a" = none ∧
      (applyEvents (fun _ => noteCodec) staleNotes ∅).lookup "Note#a" =
        some (Bincode.encodeText "a") := by
  have hopen := clientOpen_coherent
    (SecureStorageDb.coherent_emptyStorage Bincode.codec "db")
  have hlist : SecureStorageDb.persistedKeyList Bincode.codec "db"
      (afterNote (afterNote emptyStorage "a") "b") =
        some {noteTable.storageKey "b"} :=
    SecureStorageDb.persistedKeyList_withKeyList Bincode.codec .sorted _ "db" _
  have hlost : "Note#a" ∉ ({noteTable.storageKey "b"} : Finset String) := by
    decide
  refine ⟨⟨⟨"db", {noteTable.storageKey "b"}⟩, false⟩,
    afterNote (afterNote emptyStorage "a") "b", ?_, ?_, ?_, by rfl⟩
  · simp [runEvents, staleNotes, Event.exec, hopen, putNote_run]
  · simp [SecureStorageClient.open,
      SecureStorageDb.open_undisturbed _ _ hlist]
  · rw [SecureStorageDb.lookup_contents, if_neg hlost]

end TrustZoneSdk.SecureDb
