import TrustZoneSdk.Boundary.Uuid
import TrustZoneSdk.Foundation.ByteMemory
import TrustZoneSdk.Foundation.Utf8

/-!
# Properties as a TA reads them

A property of fixed size is read by one call, a string or a binary block by
two: the first asks for the size, the second fetches the value into a buffer
of that size.  Between the two the value may change.
-/

namespace TrustZoneSdk.Utee

open TrustZoneSdk.Foundation

inductive PropertySet where
  | teeImplementation
  | currentClient
  | currentTa
  deriving DecidableEq, Repr

def PropertySet.asRaw : PropertySet → UInt32
  | teeImplementation => 0xFFFFFFFD
  | currentClient => 0xFFFFFFFE
  | currentTa => 0xFFFFFFFF

/-! ## The calls of the TEE -/

/-- What a call with a buffer gives back: a size, and what it has written. -/
structure SizedReply where
  code : TeeResult
  size : Nat
  written : List UInt8
  deriving DecidableEq, Repr

structure RawIdentity where
  login : UInt32
  uuid : UuidFields
  deriving DecidableEq

def nilUuid : UuidFields where
  timeLow := 0
  timeMid := 0
  timeHiAndVersion := 0
  clockSeqAndNode := List.replicate 8 0
  length_node := List.length_replicate

structure PropertyTee (σ : Type) where
  getAsString : UInt32 → List UInt8 → Nat → σ → SizedReply × σ
  getAsBinaryBlock : UInt32 → List UInt8 → Nat → σ → SizedReply × σ
  getAsBool : UInt32 → List UInt8 → σ → (TeeResult × Bool) × σ
  getAsU32 : UInt32 → List UInt8 → σ → (TeeResult × UInt32) × σ
  getAsU64 : UInt32 → List UInt8 → σ → (TeeResult × UInt64) × σ
  getAsUuid : UInt32 → List UInt8 → σ → (TeeResult × UuidFields) × σ
  getAsIdentity : UInt32 → List UInt8 → σ → (TeeResult × RawIdentity) × σ

/-! ## Values -/

section FromRaw

variable {σ α : Type}

def checkedReply (reply : (TeeResult × α) × σ) : Except Error α × σ :=
  ((teeCheck reply.1.1).map fun _ => reply.1.2, reply.2)

/--
The two calls for a value of unknown size.  `finish` makes the value out of
the buffer, which the second call need not have filled.
-/
def fetchSized (call : Nat → σ → SizedReply × σ) (empty : α)
    (finish : List UInt8 → Except Error α) (state : σ) : Except Error α × σ :=
  let asked := call 0 state
  if asked.1.code = teeSuccess then
    (if asked.1.size = 0 then .ok empty else .error (Error.new .generic),
      asked.2)
  else if asked.1.code = ErrorKind.shortBuffer.intoPrimitive then
    let outBuffer := List.replicate asked.1.size 0
    let fetched := call asked.1.size asked.2
    ((teeCheck fetched.1.code).bind fun _ =>
      finish (overlay outBuffer 0 (fetched.1.written.take asked.1.size)),
      fetched.2)
  else (.error (Error.fromRawError asked.1.code), asked.2)

def fromBytesWithNul (bytes : List UInt8) : Option (List UInt8) :=
  if bytes.getLast? = some 0 ∧ 0 ∉ bytes.dropLast then some bytes.dropLast
  else none

variable (lossy : LossyDecoder) (tee : PropertyTee σ) (set : UInt32)
  (key : List UInt8)

def stringFromRaw : σ → Except Error (List Char) × σ :=
  fetchSized (tee.getAsString set key) [] fun outBuffer =>
    match fromBytesWithNul outBuffer with
    | some bytes => .ok (lossy.decode bytes)
    | none => .error (Error.new .badFormat)

def vecFromRaw : σ → Except Error (List UInt8) × σ :=
  fetchSized (tee.getAsBinaryBlock set key) [] .ok

def boolFromRaw (state : σ) : Except Error Bool × σ :=
  checkedReply (tee.getAsBool set key state)

def u32FromRaw (state : σ) : Except Error UInt32 × σ :=
  checkedReply (tee.getAsU32 set key state)

def u64FromRaw (state : σ) : Except Error UInt64 × σ :=
  checkedReply (tee.getAsU64 set key state)

def uuidFromRaw (state : σ) : Except Error Uuid × σ :=
  let reply := checkedReply (tee.getAsUuid set key state)
  (reply.1.map Uuid.mk, reply.2)

structure Identity where
  raw : RawIdentity
  deriving DecidableEq

def identityFromRaw (state : σ) : Except Error Identity × σ :=
  let reply := checkedReply (tee.getAsIdentity set key state)
  (reply.1.map Identity.mk, reply.2)

end FromRaw

/-! ## Keys -/

inductive PropertyKind where
  | string
  | bool
  | u32
  | u64
  | binaryBlock
  | uuid
  | identity
  deriving DecidableEq, Repr

inductive PropertyOutput where
  | string (value : List Char)
  | bool (value : Bool)
  | u32 (value : UInt32)
  | u64 (value : UInt64)
  | binaryBlock (value : List UInt8)
  | uuid (value : Uuid)
  | identity (value : Identity)
  deriving DecidableEq

def PropertyOutput.kind : PropertyOutput → PropertyKind
  | string _ => .string
  | bool _ => .bool
  | u32 _ => .u32
  | u64 _ => .u64
  | binaryBlock _ => .binaryBlock
  | uuid _ => .uuid
  | identity _ => .identity

structure PropertyKey where
  set : PropertySet
  key : List Char
  output : PropertyKind
  deriving DecidableEq, Repr

def PropertyKey.cKey (key : PropertyKey) : List UInt8 :=
  -- A text with a NUL in it makes an empty key.
  if '\x00' ∈ key.key then [0] else encodeUtf8 key.key ++ [0]

def PropertyKey.get {σ : Type} (lossy : LossyDecoder) (tee : PropertyTee σ)
    (key : PropertyKey) (state : σ) : Except Error PropertyOutput × σ :=
  let set := key.set.asRaw
  match key.output with
  | .string => (stringFromRaw lossy tee set key.cKey state).map
      (Except.map .string) id
  | .bool => (boolFromRaw tee set key.cKey state).map (Except.map .bool) id
  | .u32 => (u32FromRaw tee set key.cKey state).map (Except.map .u32) id
  | .u64 => (u64FromRaw tee set key.cKey state).map (Except.map .u64) id
  | .binaryBlock => (vecFromRaw tee set key.cKey state).map
      (Except.map .binaryBlock) id
  | .uuid => (uuidFromRaw tee set key.cKey state).map (Except.map .uuid) id
  | .identity => (identityFromRaw tee set key.cKey state).map
      (Except.map .identity) id

def taAppId : PropertyKey := ⟨.currentTa, "gpd.ta.appID".toList, .uuid⟩

def taSingleInstance : PropertyKey :=
  ⟨.currentTa, "gpd.ta.singleInstance".toList, .bool⟩

def taMultiSession : PropertyKey :=
  ⟨.currentTa, "gpd.ta.multiSession".toList, .bool⟩

def taInstanceKeepAlive : PropertyKey :=
  ⟨.currentTa, "gpd.ta.instanceKeepAlive".toList, .bool⟩

def taInstanceKeepCrashed : PropertyKey :=
  ⟨.currentTa, "gpd.ta.instanceKeepCrashed".toList, .bool⟩

def taDataSize : PropertyKey := ⟨.currentTa, "gpd.ta.dataSize".toList, .u32⟩

def taStackSize : PropertyKey := ⟨.currentTa, "gpd.ta.stackSize".toList, .u32⟩

def taVersion : PropertyKey := ⟨.currentTa, "gpd.ta.version".toList, .string⟩

def taDescription : PropertyKey :=
  ⟨.currentTa, "gpd.ta.description".toList, .string⟩

def taEndian : PropertyKey := ⟨.currentTa, "gpd.ta.endian".toList, .u32⟩

def taDoesNotCloseHandleOnCorruptObject : PropertyKey :=
  ⟨.currentTa, "gpd.ta.doesNotCloseHandleOnCorruptObject".toList, .bool⟩

/-! ## A TEE as GlobalPlatform has it -/

inductive StoredProperty where
  | string (bytes : List UInt8)
  | bool (value : Bool)
  | u32 (value : UInt32)
  | u64 (value : UInt64)
  | binaryBlock (bytes : List UInt8)
  | uuid (value : UuidFields)
  | identity (value : RawIdentity)
  deriving DecidableEq

/-- What a key of the right kind makes of a property. -/
def StoredProperty.output (lossy : LossyDecoder) :
    StoredProperty → PropertyOutput
  | string bytes => .string (lossy.decode bytes)
  | bool value => .bool value
  | u32 value => .u32 value
  | u64 value => .u64 value
  | binaryBlock bytes => .binaryBlock bytes
  | uuid value => .uuid ⟨value⟩
  | identity value => .identity ⟨value⟩

def sizedAnswer (data : List UInt8) (capacity : Nat) : SizedReply :=
  if capacity < data.length then
    ⟨ErrorKind.shortBuffer.intoPrimitive, data.length, []⟩
  else ⟨teeSuccess, data.length, data⟩

/--
Every call answers by the store of its moment.  A property that is read as
another kind than its own is left open.
-/
structure PropertyTee.Serves {σ : Type} (tee : PropertyTee σ)
    (store : σ → UInt32 → List UInt8 → Option StoredProperty) : Prop where
  string : ∀ set key capacity state bytes,
    store state set key = some (.string bytes) →
      (tee.getAsString set key capacity state).1 =
        sizedAnswer (bytes ++ [0]) capacity
  binaryBlock : ∀ set key capacity state bytes,
    store state set key = some (.binaryBlock bytes) →
      (tee.getAsBinaryBlock set key capacity state).1 =
        sizedAnswer bytes capacity
  bool : ∀ set key state value, store state set key = some (.bool value) →
    (tee.getAsBool set key state).1 = (teeSuccess, value)
  u32 : ∀ set key state value, store state set key = some (.u32 value) →
    (tee.getAsU32 set key state).1 = (teeSuccess, value)
  u64 : ∀ set key state value, store state set key = some (.u64 value) →
    (tee.getAsU64 set key state).1 = (teeSuccess, value)
  uuid : ∀ set key state value, store state set key = some (.uuid value) →
    (tee.getAsUuid set key state).1 = (teeSuccess, value)
  identity : ∀ set key state value,
    store state set key = some (.identity value) →
      (tee.getAsIdentity set key state).1 = (teeSuccess, value)

/-! ## What the two calls make of a value that changes -/

section Changing

variable {σ α : Type} {call : Nat → σ → SizedReply × σ} {empty : α}
  {finish : List UInt8 → Except Error α} {state : σ} {old new : List UInt8}

theorem fetchSized_changing (hold : old ≠ [])
    (hasked : (call 0 state).1 = sizedAnswer old 0)
    (hfetched : (call old.length (call 0 state).2).1 =
      sizedAnswer new old.length) :
    (fetchSized call empty finish state).1 =
      if old.length < new.length then .error (Error.new .shortBuffer)
      else finish (new ++ List.replicate (old.length - new.length) 0) := by
  have hlength : 0 < old.length := List.length_pos_iff.mpr hold
  have hshort : ErrorKind.shortBuffer.intoPrimitive ≠ teeSuccess := by decide
  have hanswer : (call 0 state).1 =
      ⟨ErrorKind.shortBuffer.intoPrimitive, old.length, []⟩ := by
    rw [hasked, sizedAnswer, if_pos hlength]
  rw [fetchSized]
  simp only [hanswer, if_neg hshort, if_true, hfetched, sizedAnswer]
  split
  · have herror : teeCheck ErrorKind.shortBuffer.intoPrimitive =
        .error (Error.new .shortBuffer) := by decide
    rw [herror]
    rfl
  · next hfits =>
      have hcheck : teeCheck teeSuccess = .ok () := rfl
      rw [hcheck]
      have hbuffer : overlay (List.replicate old.length 0) 0
          (new.take old.length) =
          new ++ List.replicate (old.length - new.length) 0 := by
        rw [List.take_of_length_le (by omega), overlay]
        simp
      simp only [Except.bind, hbuffer]

theorem fromBytesWithNul_padded {bytes : List UInt8} (h : 0 ∉ bytes)
    (count : Nat) :
    fromBytesWithNul (bytes ++ [0] ++ List.replicate count 0) =
      if count = 0 then some bytes else none := by
  cases count with
  | zero => simp [fromBytesWithNul, h]
  | succ count =>
      have hsplit : bytes ++ [0] ++ List.replicate (count + 1) 0 =
          (bytes ++ 0 :: List.replicate count 0) ++ [0] := by
        rw [List.replicate_succ']
        simp
      rw [hsplit, fromBytesWithNul, List.dropLast_concat]
      simp

end Changing

section Served

variable {σ : Type} {lossy : LossyDecoder} {tee : PropertyTee σ}
  {store : σ → UInt32 → List UInt8 → Option StoredProperty}
  {set : UInt32} {key old new : List UInt8} {state : σ}

theorem stringFromRaw_changing (h : tee.Serves store) (hnul : 0 ∉ new)
    (hold : store state set key = some (.string old))
    (hnew : store (tee.getAsString set key 0 state).2 set key =
      some (.string new)) :
    (stringFromRaw lossy tee set key state).1 =
      if old.length < new.length then .error (Error.new .shortBuffer)
      else if new.length < old.length then .error (Error.new .badFormat)
      else .ok (lossy.decode new) := by
  rw [stringFromRaw, fetchSized_changing (by simp)
    (h.string _ _ _ _ _ hold) (h.string _ _ _ _ _ hnew)]
  simp only [List.length_append, List.length_singleton,
    Nat.add_lt_add_iff_right, Nat.add_sub_add_right,
    fromBytesWithNul_padded hnul]
  split
  · rfl
  · next hfits =>
      by_cases hless : new.length < old.length
      · have hpadded : old.length - new.length ≠ 0 := by omega
        simp only [if_neg hpadded, if_pos hless]
      · have hequal : old.length - new.length = 0 := by omega
        simp only [if_pos hequal, if_neg hless]

theorem vecFromRaw_changing (h : tee.Serves store)
    (hold : store state set key = some (.binaryBlock old))
    (hnew : store (tee.getAsBinaryBlock set key 0 state).2 set key =
      some (.binaryBlock new)) :
    (vecFromRaw tee set key state).1 =
      if old = [] then .ok []
      else if old.length < new.length then .error (Error.new .shortBuffer)
      else .ok (new ++ List.replicate (old.length - new.length) 0) := by
  by_cases hempty : old = []
  · subst hempty
    have hasked := h.binaryBlock _ _ 0 _ _ hold
    have hanswer : (tee.getAsBinaryBlock set key 0 state).1 =
        ⟨teeSuccess, 0, []⟩ := hasked
    simp [vecFromRaw, fetchSized, hanswer]
  · rw [vecFromRaw, fetchSized_changing hempty
      (h.binaryBlock _ _ _ _ _ hold) (h.binaryBlock _ _ _ _ _ hnew),
      if_neg hempty]

theorem checkedReply_of_success {α : Type} {reply : (TeeResult × α) × σ}
    {value : α} (h : reply.1 = (teeSuccess, value)) :
    (checkedReply reply).1 = .ok value := by
  rw [checkedReply, h]
  rfl

variable (lossy) in
theorem PropertyKey.get_constant (h : tee.Serves store) {key : PropertyKey}
    {stored : StoredProperty}
    (hstore : ∀ state, store state key.set.asRaw key.cKey = some stored)
    (hnul : ∀ bytes, stored = .string bytes → 0 ∉ bytes)
    (hkind : key.output = (stored.output lossy).kind) (state : σ) :
    (key.get lossy tee state).1 = .ok (stored.output lossy) := by
  rw [PropertyKey.get, hkind]
  cases stored with
  | string bytes =>
      have hread : (stringFromRaw lossy tee key.set.asRaw key.cKey state).1 =
          .ok (lossy.decode bytes) := by
        rw [stringFromRaw_changing h (hnul bytes rfl) (hstore state)
          (hstore _)]
        simp
      simp only [StoredProperty.output, PropertyOutput.kind, Prod.map, hread]
      rfl
  | binaryBlock bytes =>
      have hread : (vecFromRaw tee key.set.asRaw key.cKey state).1 =
          .ok bytes := by
        rw [vecFromRaw_changing h (hstore state) (hstore _)]
        by_cases hempty : bytes = []
        · rw [if_pos hempty, hempty]
        · simp [hempty]
      simp only [StoredProperty.output, PropertyOutput.kind, Prod.map, hread]
      rfl
  | bool value =>
      have hread := checkedReply_of_success (h.bool _ _ _ _ (hstore state))
      simp only [StoredProperty.output, PropertyOutput.kind, Prod.map,
        boolFromRaw, hread]
      rfl
  | u32 value =>
      have hread := checkedReply_of_success (h.u32 _ _ _ _ (hstore state))
      simp only [StoredProperty.output, PropertyOutput.kind, Prod.map,
        u32FromRaw, hread]
      rfl
  | u64 value =>
      have hread := checkedReply_of_success (h.u64 _ _ _ _ (hstore state))
      simp only [StoredProperty.output, PropertyOutput.kind, Prod.map,
        u64FromRaw, hread]
      rfl
  | uuid value =>
      have hread := checkedReply_of_success (h.uuid _ _ _ _ (hstore state))
      simp only [StoredProperty.output, PropertyOutput.kind, Prod.map,
        uuidFromRaw, hread]
      rfl
  | identity value =>
      have hread := checkedReply_of_success
        (h.identity _ _ _ _ (hstore state))
      simp only [StoredProperty.output, PropertyOutput.kind, Prod.map,
        identityFromRaw, hread]
      rfl

end Served

/--
A value that changes between the two calls: a string is read as it is at the
second call or not at all, while a binary block that has become shorter is
returned with zero bytes at its end, and one that was empty as empty.
-/
theorem properties_read_while_changing {σ : Type} (lossy : LossyDecoder)
    (tee : PropertyTee σ)
    (store : σ → UInt32 → List UInt8 → Option StoredProperty)
    (h : tee.Serves store) (set : UInt32) (key old new : List UInt8)
    (state : σ) :
    (0 ∉ new → store state set key = some (.string old) →
      store (tee.getAsString set key 0 state).2 set key =
          some (.string new) →
        (stringFromRaw lossy tee set key state).1 =
          if old.length < new.length then .error (Error.new .shortBuffer)
          else if new.length < old.length then .error (Error.new .badFormat)
          else .ok (lossy.decode new)) ∧
    (store state set key = some (.binaryBlock old) →
      store (tee.getAsBinaryBlock set key 0 state).2 set key =
          some (.binaryBlock new) →
        (vecFromRaw tee set key state).1 =
          if old = [] then .ok []
          else if old.length < new.length then .error (Error.new .shortBuffer)
          else .ok (new ++ List.replicate (old.length - new.length) 0)) :=
  ⟨stringFromRaw_changing h, vecFromRaw_changing h⟩

def storeTee {σ : Type}
    (store : σ → UInt32 → List UInt8 → Option StoredProperty)
    (next : σ → σ) : PropertyTee σ where
  getAsString set key capacity state :=
    (match store state set key with
    | some (.string bytes) => sizedAnswer (bytes ++ [0]) capacity
    | some _ => ⟨ErrorKind.badFormat.intoPrimitive, 0, []⟩
    | none => ⟨ErrorKind.itemNotFound.intoPrimitive, 0, []⟩, next state)
  getAsBinaryBlock set key capacity state :=
    (match store state set key with
    | some (.binaryBlock bytes) => sizedAnswer bytes capacity
    | some _ => ⟨ErrorKind.badFormat.intoPrimitive, 0, []⟩
    | none => ⟨ErrorKind.itemNotFound.intoPrimitive, 0, []⟩, next state)
  getAsBool set key state :=
    (match store state set key with
    | some (.bool value) => (teeSuccess, value)
    | some _ => (ErrorKind.badFormat.intoPrimitive, false)
    | none => (ErrorKind.itemNotFound.intoPrimitive, false), next state)
  getAsU32 set key state :=
    (match store state set key with
    | some (.u32 value) => (teeSuccess, value)
    | some _ => (ErrorKind.badFormat.intoPrimitive, 0)
    | none => (ErrorKind.itemNotFound.intoPrimitive, 0), next state)
  getAsU64 set key state :=
    (match store state set key with
    | some (.u64 value) => (teeSuccess, value)
    | some _ => (ErrorKind.badFormat.intoPrimitive, 0)
    | none => (ErrorKind.itemNotFound.intoPrimitive, 0), next state)
  getAsUuid set key state :=
    (match store state set key with
    | some (.uuid value) => (teeSuccess, value)
    | some _ => (ErrorKind.badFormat.intoPrimitive, nilUuid)
    | none => (ErrorKind.itemNotFound.intoPrimitive, nilUuid), next state)
  getAsIdentity set key state :=
    (match store state set key with
    | some (.identity value) => (teeSuccess, value)
    | some _ => (ErrorKind.badFormat.intoPrimitive, ⟨0, nilUuid⟩)
    | none => (ErrorKind.itemNotFound.intoPrimitive, ⟨0, nilUuid⟩),
      next state)

theorem storeTee_serves {σ : Type}
    (store : σ → UInt32 → List UInt8 → Option StoredProperty)
    (next : σ → σ) : (storeTee store next).Serves store where
  string set key capacity state bytes h := by simp [storeTee, h]
  binaryBlock set key capacity state bytes h := by simp [storeTee, h]
  bool set key state value h := by simp [storeTee, h]
  u32 set key state value h := by simp [storeTee, h]
  u64 set key state value h := by simp [storeTee, h]
  uuid set key state value h := by simp [storeTee, h]
  identity set key state value h := by simp [storeTee, h]

/-- A block of three bytes that has one byte when it is fetched. -/
theorem shrinking_block_is_padded :
    (vecFromRaw (storeTee (fun changed _ _ => some (.binaryBlock
      (if changed then [7] else [1, 2, 3]))) fun _ => true) 0 [0]
        false).1 = .ok [7, 0, 0] :=
  (properties_read_while_changing strictDecoder _ _ (storeTee_serves _ _) 0
    [0] [1, 2, 3] [7] false).2 rfl rfl

end TrustZoneSdk.Utee
