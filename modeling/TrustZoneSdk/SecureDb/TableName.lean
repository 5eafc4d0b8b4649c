import Mathlib.Data.String.Basic
import TrustZoneSdk.Foundation.Split
import TrustZoneSdk.SecureDb.Storable

/-!
# Table names cut out of type names

The default table name of a type is what follows the last path separator in
its printed name.  That is the type's own identifier as long as no generic
argument is printed with a path; otherwise it is the end of the last argument
that is, and the identifier is lost.
-/

namespace TrustZoneSdk.SecureDb

open TrustZoneSdk.Foundation

/-- The default `Storable::table_name`, applied to what `type_name` prints. -/
def tableName (typeName : String) : String :=
  let pieces := splitPair ':' ':' typeName.toList
  match (pieces.1 :: pieces.2).getLast? with
  | some piece => String.ofList piece
  | none => "WRONG_TABLE_NAME"

theorem tableName_ofList (text : List Char) :
    tableName (String.ofList text) =
      String.ofList (lastPiece ':' ':' text) := by
  simp [tableName, lastPiece, List.getLast?_cons]

/-! ## Reading printed types

Angle brackets nest, except that the arrow of a function type is no bracket and
that characters inside a character literal are text.  A quote that no literal
follows belongs to a lifetime.
-/

inductive Reading where
  | code (previous : Char)
  | quoted
  | single (quoted : Char)
  | escape
  | escaped
  deriving DecidableEq

def beginsLifetime (c : Char) : Bool :=
  c ≠ ':' ∧ c ≠ '<' ∧ c ≠ '>' ∧ c ≠ '-' ∧ c ≠ '#' ∧ c ≠ '\''

def Reading.previous : Reading → Option Char
  | .code previous => some previous
  | .single c => if beginsLifetime c then some c else none
  | _ => none

def readCode (previous : Char) (depth : Nat) (c : Char) :
    Option (Reading × Nat) :=
  if c = '\'' then some (.quoted, depth)
  else if c = '#' then none
  else if c = '<' then some (.code c, depth + 1)
  else if c = '>' ∧ previous ≠ '-' then
    if depth = 0 then none else some (.code c, depth - 1)
  else some (.code c, depth)

def readChar : Reading × Nat → Char → Option (Reading × Nat)
  | (.code previous, depth), c => readCode previous depth c
  | (.quoted, depth), c =>
      if c = '\\' then some (.escape, depth) else some (.single c, depth)
  | (.single quoted, depth), c =>
      if c = '\'' then some (.code c, depth)
      else if beginsLifetime quoted then readCode quoted depth c
      else none
  | (.escape, depth), _ => some (.escaped, depth)
  | (.escaped, depth), c =>
      if c = '\'' then some (.code c, depth)
      else if c = ':' then none
      else some (.escaped, depth)

def readText (state : Reading × Nat) (text : List Char) :
    Option (Reading × Nat) :=
  text.foldlM readChar state

def bracketed (text : List Char) : Bool :=
  match readText (.code '<', 0) text with
  | some (reading, 0) => reading.previous.any (· ≠ '-')
  | _ => false

example : bracketed "alloc::borrow::Cow<'_, str>".toList = true := by decide

theorem readCode_deeper {previous c : Char} {after : Reading}
    {depth left : Nat} (h : readCode previous depth c = some (after, left))
    (more : Nat) :
    readCode previous (depth + more) c = some (after, left + more) := by
  unfold readCode at h ⊢
  split_ifs at h ⊢ <;> grind

theorem readChar_of_previous {reading : Reading} {previous c : Char}
    (h : reading.previous = some previous) (hquote : c ≠ '\'') (depth : Nat) :
    readChar (reading, depth) c = readCode previous depth c := by
  cases reading with
  | code last =>
      cases h
      rfl
  | single quoted =>
      simp only [Reading.previous] at h
      split_ifs at h with hlifetime
      cases h
      simp [readChar, hquote, hlifetime]
  | quoted => cases h
  | escape => cases h
  | escaped => cases h

theorem readChar_deeper {reading after : Reading} {depth left : Nat} {c : Char}
    (h : readChar (reading, depth) c = some (after, left)) (more : Nat) :
    readChar (reading, depth + more) c = some (after, left + more) := by
  cases reading with
  | code previous => exact readCode_deeper h more
  | quoted =>
      simp only [readChar] at h ⊢
      split_ifs at h ⊢ <;> simp_all
  | single quoted =>
      simp only [readChar] at h ⊢
      split_ifs at h ⊢
      · simp_all
      · exact readCode_deeper h more
  | escape => simp_all [readChar]
  | escaped =>
      simp only [readChar] at h ⊢
      split_ifs at h ⊢ <;> simp_all

theorem readText_deeper {text : List Char} {reading after : Reading}
    {depth left : Nat}
    (h : readText (reading, depth) text = some (after, left)) (more : Nat) :
    readText (reading, depth + more) text = some (after, left + more) := by
  induction text generalizing reading depth with
  | nil => simp_all [readText]
  | cons c rest ih =>
      obtain ⟨⟨next, deep⟩, hchar, hrest⟩ := Option.bind_eq_some_iff.mp h
      exact Option.bind_eq_some_iff.mpr
        ⟨_, readChar_deeper hchar more, ih hrest⟩

theorem readText_append (state : Reading × Nat) (first second : List Char) :
    readText state (first ++ second) =
      (readText state first).bind fun next => readText next second :=
  List.foldlM_append

theorem readText_separator {state next : Reading × Nat}
    (h : readText state [':', ':'] = some next) :
    ∃ depth, next = (.code ':', depth) := by
  -- A path separator is never inside a literal.
  obtain ⟨reading, depth⟩ := state
  cases reading with
  | code previous =>
      simp [readText, readChar, readCode] at h
      exact ⟨depth, h.symm⟩
  | single quoted =>
      by_cases hlifetime : beginsLifetime quoted = true
      · simp [readText, readChar, readCode, hlifetime] at h
        exact ⟨depth, h.symm⟩
      · simp [readText, readChar, hlifetime] at h
  | quoted => simp [readText, readChar, beginsLifetime] at h
  | escape => simp [readText, readChar] at h
  | escaped => simp [readText, readChar] at h

/-- A text that ends outside literals, read from some depth on. -/
def Readable (text : List Char) : Prop :=
  ∃ depth reading left,
    readText (.code ':', depth) text = some (reading, left) ∧
      reading.previous ≠ none

theorem Readable.not_separated {text more : List Char} (h : Readable text) :
    ¬ Readable (text ++ '#' :: more) := by
  obtain ⟨depth, reading, left, hread, hend⟩ := h
  obtain ⟨previous, hprevious⟩ := Option.ne_none_iff_exists'.mp hend
  rintro ⟨depth', reading', left', hread', -⟩
  have hfirst := readText_deeper hread depth'
  have hboth := readText_deeper hread' depth
  have hmark : readChar (reading, left + depth') '#' = none := by
    rw [readChar_of_previous hprevious (by decide)]
    rfl
  rw [Nat.add_comm depth' depth, readText_append, hfirst] at hboth
  simp [readText, hmark] at hboth

theorem Readable.eq_of_separated {text other id id' : List Char}
    (h : Readable text) (hother : Readable other)
    (heq : text ++ '#' :: id = other ++ '#' :: id') : text = other := by
  obtain ⟨more, rfl, hmore⟩ | ⟨more, rfl, hmore⟩ :=
    List.append_eq_append_iff.mp heq
  · cases more with
    | nil => simp
    | cons c more =>
        obtain ⟨rfl, -⟩ := List.cons.inj hmore
        exact absurd hother h.not_separated
  · cases more with
    | nil => simp
    | cons c more =>
        obtain ⟨rfl, -⟩ := List.cons.inj hmore
        exact absurd h hother.not_separated

/-! ## Printed type names -/

structure Ident where
  text : List Char
  plain : ∀ c ∈ text, c ≠ '\'' ∧ c ≠ '#' ∧ c ≠ ':' ∧ c ≠ '<' ∧ c ≠ '>'
  deriving DecidableEq

/-- A type as `type_name` prints it: its path, its name, its arguments. -/
structure TypeName where
  modules : List (List Char)
  name : Ident
  args : List Char
  modulesEnd : ∀ segment ∈ modules, segment.getLast? ≠ some ':'
  argsBracketed : bracketed args = true
  deriving DecidableEq

namespace TypeName

def path (modules : List (List Char)) : List Char :=
  modules.flatMap fun segment => segment ++ [':', ':']

def generics (args : List Char) : List Char :=
  if args = [] then [] else '<' :: (args ++ ['>'])

def print (type : TypeName) : String :=
  String.ofList (path type.modules ++ (type.name.text ++ generics type.args))

/-- What follows the last path separator among the generic arguments. -/
def argTail (type : TypeName) : Option (List Char) :=
  if Unsplit ':' ':' type.args then none
  else some (lastPiece ':' ':' type.args)

theorem lastPiece_path {modules : List (List Char)}
    (h : ∀ segment ∈ modules, segment.getLast? ≠ some ':')
    (rest : List Char) :
    lastPiece ':' ':' (path modules ++ rest) = lastPiece ':' ':' rest := by
  induction modules with
  | nil => rfl
  | cons segment modules ih =>
      have hpath : path (segment :: modules) ++ rest =
          segment ++ ':' :: ':' :: (path modules ++ rest) := by
        simp [path]
      rw [hpath, lastPiece_append_separator (h segment (by simp)),
        ih fun other hother => h other (by simp [hother])]

theorem unsplit_generics (args : List Char) :
    Unsplit ':' ':' (generics args) ↔ Unsplit ':' ':' args := by
  by_cases hargs : args = []
  · simp [generics, hargs]
  · have hopen : '<' ≠ ':' := by decide
    rw [generics, if_neg hargs, Unsplit, splitPair_cons hopen]
    exact unsplit_concat (by decide) args

def table (type : TypeName) : List Char :=
  match type.argTail with
  | none => type.name.text ++ generics type.args
  | some tail => tail ++ ['>']

theorem tableName_print (type : TypeName) :
    tableName type.print = String.ofList type.table := by
  have hname : ':' ∉ type.name.text := fun h => (type.name.plain _ h).2.2.1 rfl
  rw [print, tableName_ofList, lastPiece_path type.modulesEnd, table, argTail]
  split_ifs with hargs
  · rw [lastPiece_append_of_unsplit hname ((unsplit_generics _).mpr hargs)]
  · rw [lastPiece_append_of_split hname (mt (unsplit_generics _).mp hargs)]
    have hnonempty : type.args ≠ [] := by
      intro hnil
      exact hargs (by rw [hnil]; rfl)
    rw [generics, if_neg hnonempty, ← List.singleton_append,
      lastPiece_append_of_split (by decide), lastPiece_concat (by decide)]
    rwa [unsplit_concat (by decide)]

/-! ## What a table name still tells -/

theorem readText_name (name : Ident) (previous : Char) (depth : Nat) :
    ∃ last, readText (.code previous, depth) name.text =
      some (.code last, depth) := by
  obtain ⟨text, hplain⟩ := name
  induction text generalizing previous with
  | nil => exact ⟨previous, rfl⟩
  | cons c rest ih =>
      obtain ⟨hquote, hmark, -, hopen, hclose⟩ := hplain c (by simp)
      obtain ⟨last, hlast⟩ :=
        ih c fun other hother => hplain other (by simp [hother])
      refine ⟨last, ?_⟩
      rw [← hlast]
      simp [readText, readChar, readCode, hquote, hmark, hopen, hclose]

theorem readText_bracketed {args : List Char} (h : bracketed args = true) :
    ∃ reading last, reading.previous = some last ∧ last ≠ '-' ∧
      readText (.code '<', 0) args = some (reading, 0) := by
  unfold bracketed at h
  split at h
  · rename_i reading hread
    cases hlast : reading.previous with
    | none =>
        rw [hlast] at h
        cases h
    | some last =>
        rw [hlast] at h
        exact ⟨reading, last, hlast, by simpa using h, hread⟩
  · exact absurd h (by decide)

theorem readChar_close {reading : Reading} {last : Char}
    (h : reading.previous = some last) (hdash : last ≠ '-') (depth : Nat) :
    readChar (reading, depth + 1) '>' = some (.code '>', depth) := by
  rw [readChar_of_previous h (by decide)]
  simp [readCode, hdash]

theorem readChar_overclose {reading : Reading} {last : Char}
    (h : reading.previous = some last) (hdash : last ≠ '-') :
    readChar (reading, 0) '>' = none := by
  rw [readChar_of_previous h (by decide)]
  simp [readCode, hdash]

theorem readText_unqualified (type : TypeName) (depth : Nat) :
    ∃ last, readText (.code ':', depth)
      (type.name.text ++ generics type.args) = some (.code last, depth) := by
  obtain ⟨last, hname⟩ := readText_name type.name ':' depth
  rw [readText_append, hname]
  by_cases hargs : type.args = []
  · exact ⟨last, by simp [generics, hargs, readText]⟩
  · obtain ⟨reading, final, hfinal, hdash, hread⟩ :=
      readText_bracketed type.argsBracketed
    have hinner := readText_deeper hread (depth + 1)
    refine ⟨'>', ?_⟩
    have hopen : readText (.code last, depth) ('<' :: (type.args ++ ['>'])) =
        readText (.code '<', depth + 1) (type.args ++ ['>']) := rfl
    rw [generics, if_neg hargs, Option.bind_some, hopen, readText_append]
    rw [Nat.zero_add] at hinner
    rw [hinner]
    simp [readText, readChar_close hfinal hdash]

theorem readText_qualified {type : TypeName} {tail : List Char}
    (h : type.argTail = some tail) :
    ∃ depth reading last, reading.previous = some last ∧ last ≠ '-' ∧
      readText (.code ':', depth) tail = some (reading, 0) := by
  -- The end of the arguments closes a bracket it has not opened.
  rw [argTail] at h
  split_ifs at h with hargs
  obtain rfl := Option.some.inj h
  obtain ⟨before, hbefore⟩ := lastPiece_of_split hargs
  obtain ⟨reading, last, hlast, hdash, hread⟩ :=
    readText_bracketed type.argsBracketed
  have hsplit : type.args =
      before ++ ([':', ':'] ++ lastPiece ':' ':' type.args) := hbefore
  rw [hsplit, readText_append] at hread
  obtain ⟨state, -, hrest⟩ := Option.bind_eq_some_iff.mp hread
  rw [readText_append] at hrest
  obtain ⟨next, hsep, htail⟩ := Option.bind_eq_some_iff.mp hrest
  obtain ⟨depth, rfl⟩ := readText_separator hsep
  exact ⟨depth, reading, last, hlast, hdash, htail⟩

theorem readable_table (type : TypeName) : Readable type.table := by
  unfold table
  split
  · obtain ⟨last, hread⟩ := readText_unqualified type 0
    exact ⟨0, .code last, 0, hread, nofun⟩
  · rename_i tail htail
    obtain ⟨depth, reading, last, hlast, hdash, hread⟩ :=
      readText_qualified htail
    refine ⟨depth + 1, .code '>', 0, ?_, nofun⟩
    rw [readText_append, readText_deeper hread 1]
    simp [readText, readChar_close hlast hdash 0]

theorem unqualified_ne_qualified {type other : TypeName} {tail : List Char}
    (h : other.argTail = some tail) :
    type.name.text ++ generics type.args ≠ tail ++ ['>'] := by
  intro heq
  obtain ⟨depth, reading, last, hlast, hdash, hread⟩ := readText_qualified h
  obtain ⟨final, hfinal⟩ := readText_unqualified type depth
  rw [heq, readText_append, hread] at hfinal
  simp [readText, readChar_overclose hlast hdash] at hfinal

theorem name_of_unqualified {type other : TypeName}
    (h : type.name.text ++ generics type.args =
      other.name.text ++ generics other.args) :
    type.name = other.name := by
  have hcut : ∀ t : TypeName,
      (t.name.text ++ generics t.args).takeWhile (· ≠ '<') = t.name.text := by
    intro t
    have hplain : ∀ c ∈ t.name.text, (decide (c ≠ '<')) = true :=
      fun c hc => by simpa using (t.name.plain c hc).2.2.2.1
    rw [List.takeWhile_append_of_pos hplain]
    unfold generics
    split_ifs <;> simp
  have htext := congrArg (List.takeWhile (· ≠ '<')) h
  rw [hcut, hcut] at htext
  cases htype : type.name
  cases hother : other.name
  simpa [htype, hother] using htext

/-- Types of different names share a table exactly if both tables are cut from
the arguments, at the same text. -/
theorem table_eq_iff {type other : TypeName} (h : type.name ≠ other.name) :
    type.table = other.table ↔
      ∃ tail, type.argTail = some tail ∧ other.argTail = some tail := by
  unfold table
  cases htype : type.argTail with
  | none =>
      cases hother : other.argTail with
      | none => simpa using mt name_of_unqualified h
      | some tail => simpa using unqualified_ne_qualified hother
  | some tail =>
      cases hother : other.argTail with
      | none => simpa using (unqualified_ne_qualified htype).symm
      | some tail' => simp [eq_comm]

end TypeName

/-! ## Keys of two types -/

namespace Storable

/-- `V` keeps the default table name; its type is printed as `type`. -/
def Default {V : Type} (storable : Storable V) (type : TypeName) : Prop :=
  storable.tableName = SecureDb.tableName type.print

/-- A key that a put, a get or a delete of the type can use. -/
def Addresses {V : Type} (storable : Storable V) (key : String) : Prop :=
  (∃ value, key = storable.storageKey value) ∨
    ∃ id, key = storable.concatKey id

variable {V W : Type} {storable : Storable V} {other : Storable W}
  {type otherType : TypeName}

theorem addresses_iff (key : String) :
    storable.Addresses key ↔ ∃ id, key = storable.concatKey id := by
  constructor
  · rintro (⟨value, rfl⟩ | ⟨id, rfl⟩)
    · exact ⟨storable.keyToString (storable.uniqueId value), rfl⟩
    · exact ⟨id, rfl⟩
  · exact Or.inr

theorem toList_concatKey (h : storable.Default type) (id : String) :
    (storable.concatKey id).toList = type.table ++ '#' :: id.toList := by
  have htable : storable.tableName = String.ofList type.table := by
    rw [← TypeName.tableName_print]
    exact h
  rw [concatKey, htable]
  simp [concat]

theorem concatKey_eq_iff (h : storable.Default type)
    (hother : other.Default otherType) (id id' : String) :
    storable.concatKey id = other.concatKey id' ↔
      type.table = otherType.table ∧ id = id' := by
  rw [← String.toList_inj, toList_concatKey h, toList_concatKey hother]
  constructor
  · intro heq
    have htable := type.readable_table.eq_of_separated
      otherType.readable_table heq
    rw [htable] at heq
    refine ⟨htable, String.toList_inj.mp ?_⟩
    exact (List.cons.inj (List.append_cancel_left heq)).2
  · rintro ⟨htable, rfl⟩
    rw [htable]

end Storable

/--
Types of different names never use the same storage key, unless the printed
generic arguments of both have a path and end in the same text behind it.
-/
theorem default_storage_keys_apart_iff {V W : Type} (storable : Storable V)
    (other : Storable W) (type otherType : TypeName)
    (h : storable.Default type) (hother : other.Default otherType)
    (hname : type.name ≠ otherType.name) :
    (∀ key, storable.Addresses key → ¬ other.Addresses key) ↔
      ¬ ∃ tail, type.argTail = some tail ∧ otherType.argTail = some tail := by
  rw [← TypeName.table_eq_iff hname]
  simp only [Storable.addresses_iff]
  constructor
  · intro hapart htable
    have hmeet := (Storable.concatKey_eq_iff h hother "" "").mpr ⟨htable, rfl⟩
    exact hapart _ ⟨"", rfl⟩ ⟨"", hmeet⟩
  · rintro htable key ⟨id, rfl⟩ ⟨id', heq⟩
    exact htable ((Storable.concatKey_eq_iff h hother id id').mp heq).1

/-! `wallet::Wallet`, `wallet::Cache<wallet::Wallet>` and
`wallet::Index<wallet::Wallet>`. -/

def walletIdent : Ident where
  text := "Wallet".toList
  plain := by simp

def cacheIdent : Ident where
  text := "Cache".toList
  plain := by simp

def indexIdent : Ident where
  text := "Index".toList
  plain := by simp

def inWallet (name : Ident) (args : String)
    (h : bracketed args.toList = true) : TypeName where
  modules := ["wallet".toList]
  name := name
  args := args.toList
  modulesEnd := by decide
  argsBracketed := h

def walletType : TypeName := inWallet walletIdent "" (by decide)

theorem bracketed_wallet : bracketed "wallet::Wallet".toList = true := by
  decide

def cacheType : TypeName :=
  inWallet cacheIdent "wallet::Wallet" bracketed_wallet

def indexType : TypeName :=
  inWallet indexIdent "wallet::Wallet" bracketed_wallet

def defaultTexts (type : TypeName) : Storable String where
  Key := String
  uniqueId value := value
  keyToString key := key
  tableName := tableName type.print

theorem wallet_keys_apart_from_cache :
    walletType.name ≠ cacheType.name ∧
      ∀ key, (defaultTexts walletType).Addresses key →
        ¬ (defaultTexts cacheType).Addresses key := by
  have hname : walletType.name ≠ cacheType.name := by decide
  have hnone : walletType.argTail = none := by decide
  refine ⟨hname, (default_storage_keys_apart_iff (defaultTexts walletType)
    (defaultTexts cacheType) walletType cacheType rfl rfl hname).mpr ?_⟩
  simp [hnone]

theorem cache_and_index_share_keys :
    cacheType.name ≠ indexType.name ∧
      (defaultTexts cacheType).storageKey "7" = "Wallet>#7" ∧
      (defaultTexts indexType).storageKey "7" = "Wallet>#7" := by
  decide

end TrustZoneSdk.SecureDb
