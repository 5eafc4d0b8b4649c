import TrustZoneSdk.UteeBuild.CodeGenerator
import TrustZoneSdk.Foundation.CString
import Mathlib.Data.List.Nodup

/-!
# Properties read back

The meaning of the generated items: which constant a name stands for, the bytes
that a pointer leads to, and what a reader of the table makes of them by the
tag of the entry.  Every extension property is read back as it was declared,
whatever the number, the kinds and the contents of the properties.
-/

namespace TrustZoneSdk.UteeBuild

open TrustZoneSdk.Foundation

/-! ## Names -/

def Item.name : Item → Option Text
  | useDecl _ => none
  | constItem name _ _ => some name
  | staticItem name _ _ => some name
  | function name => some name

def definedNames (items : List Item) : List Text :=
  items.filterMap Item.name

def Item.asConst (name : Text) : Item → Option (RustType × Expr)
  | constItem other type value =>
      if other = name then some (type, value) else none
  | _ => none

def Item.asStatic (name : Text) : Item → Option (RustType × Expr)
  | staticItem other type value =>
      if other = name then some (type, value) else none
  | _ => none

def findConst (items : List Item) (name : Text) :
    Option (RustType × Expr) :=
  items.findSome? (Item.asConst name)

def findStatic (items : List Item) (name : Text) :
    Option (RustType × Expr) :=
  items.findSome? (Item.asStatic name)

/-! ## Values in memory -/

def Expr.type : Expr → RustType
  | u32 _ => .u32
  | u64 _ => .u64
  | bool _ => .bool
  | i32 _ => .cInt
  | usize _ => .usize
  | byteString _ => .byteSlice
  | teeUuid _ => .teeUuid
  | teeIdentity _ _ => .teeIdentity
  | flagSet _ => .bool
  | properties entries => .properties entries.length
  | taHead _ _ => .taHead
  | zeros => .heap
  | heapSize => .usize

def boolByte (value : Bool) : List UInt8 := [if value then 1 else 0]

/-- The bytes of the values that properties have, on a little-endian target. -/
def Expr.object (flags : UInt32) : Expr → Option (List UInt8)
  | u32 value => some (encodeLe 4 value.toNat)
  | u64 value => some (encodeLe 8 value.toNat)
  | bool value => some (boolByte value)
  | teeUuid fields => some (CargoOptee.uuidStruct fields)
  | teeIdentity login fields =>
      some (layout [⟨4, encodeLe 4 login.toNat⟩,
        ⟨4, CargoOptee.uuidStruct fields⟩])
  | flagSet flag => some (boolByte (flags &&& flag != 0))
  | _ => none

def PointerExpr.constant : PointerExpr → Text
  | ofRef name _ => name
  | ofSlice name => name

def PointerExpr.expects : PointerExpr → RustType
  | ofRef _ target => target
  | ofSlice _ => .byteSlice

def PointerExpr.target (flags : UInt32) (value : Expr) :
    PointerExpr → Option (List UInt8)
  | ofRef _ _ => value.object flags
  | ofSlice _ =>
      match value with
      | .byteString bytes => some bytes
      | _ => none

def taFlags (items : List Item) : Option UInt32 :=
  match findConst items "TA_FLAGS".toList with
  | some (.u32, .u32 flags) => some flags
  | _ => none

/-- None if the items do not compile. -/
def PointerExpr.pointee (items : List Item) (pointer : PointerExpr) :
    Option (List UInt8) := do
  let flags ← taFlags items
  let (type, value) ← findConst items pointer.constant
  if type = pointer.expects ∧ value.type = type then
    pointer.target flags value
  else none

/-! ## The reader -/

def NameExpr.bytes : NameExpr → List UInt8
  | path constant => encodeUtf8 constant.text ++ [0]
  | literal bytes => bytes

def lookupProperty (entries : List PropertyEntry) (name : List UInt8) :
    Option PropertyEntry :=
  entries.find? fun entry => cString entry.name.bytes = cString name

inductive ReadValue where
  | bool (value : Bool)
  | u32 (value : UInt32)
  | uuid (value : UuidOctets)
  | identity (login : UInt32) (uuid : UuidOctets)
  | bytes (value : List UInt8)
  | u64 (value : UInt64)
  deriving DecidableEq

def readWord (width : Nat) (memory : List UInt8) : Option Nat :=
  if width ≤ memory.length then some (decodeLe (memory.take width)) else none

def readUuid (memory : List UInt8) : Option UuidOctets :=
  if h : (memory.take 16).length = 16 then some (.fromBytesLe _ h) else none

/-- None if the reader leaves the memory that the pointer leads to. -/
def readProperty (propType : PropType) (memory : List UInt8) :
    Option ReadValue :=
  match propType with
  | .bool => (readWord 1 memory).map fun word => .bool (word != 0)
  | .u32 => (readWord 4 memory).map fun word => .u32 (.ofNat word)
  | .u64 => (readWord 8 memory).map fun word => .u64 (.ofNat word)
  | .uuid => (readUuid memory).map .uuid
  | .identity => do
      let login ← readWord 4 memory
      let uuid ← readUuid (memory.drop 4)
      return .identity (.ofNat login) uuid
  | .string => if 0 ∈ memory then some (.bytes (cString memory)) else none
  | .binaryBlock =>
      if 0 ∈ memory then some (.bytes (cString memory)) else none
  | .invalid => none

/-- The value that the configuration declares. -/
def PropertyValue.declared : PropertyValue → ReadValue
  | .bool value => .bool value
  | .u32 value => .u32 value
  | .uuid value => .uuid value
  | .identity login user => .identity login user
  | .str value => .bytes (cString (encodeUtf8 value))
  | .binaryBlock value => .bytes (cString (encodeUtf8 value))
  | .u64 value => .u64 value

/-! ## The four tables agree -/

theorem readWord_encodeLe {width n : Nat} (h : n < 256 ^ width)
    (rest : List UInt8) :
    readWord width (encodeLe width n ++ rest) = some n := by
  rw [readWord, if_pos (by simp),
    List.take_left' (length_encodeLe width n), decodeLe_encodeLe h]

theorem readUuid_uuidStruct (uuid : UuidOctets) :
    readUuid (CargoOptee.uuidStruct uuid.asFields) = some uuid := by
  have hlength := uuid.asFields.length_bytesLe
  have htake : uuid.asFields.bytesLe.take 16 = uuid.asFields.bytesLe :=
    List.take_of_length_le hlength.le
  rw [CargoOptee.uuidStruct_eq, readUuid, dif_pos (by rw [htake, hlength])]
  simp only [htake, UuidFields.fromBytesLe_bytesLe,
    UuidOctets.octets_asFields]

theorem readProperty_bool (value : Bool) :
    readProperty .bool (boolByte value) = some (.bool value) := by
  cases value <;> rfl

theorem readProperty_u32 (value : UInt32) :
    readProperty .u32 (encodeLe 4 value.toNat) = some (.u32 value) := by
  have h : readWord 4 (encodeLe 4 value.toNat ++ []) = some value.toNat :=
    readWord_encodeLe value.toNat_lt []
  rw [List.append_nil] at h
  simp only [readProperty, h, Option.map_some, UInt32.ofNat_toNat]

theorem readProperty_u64 (value : UInt64) :
    readProperty .u64 (encodeLe 8 value.toNat) = some (.u64 value) := by
  have h : readWord 8 (encodeLe 8 value.toNat ++ []) = some value.toNat :=
    readWord_encodeLe value.toNat_lt []
  rw [List.append_nil] at h
  simp only [readProperty, h, Option.map_some, UInt64.ofNat_toNat]

theorem readProperty_uuid (value : UuidOctets) :
    readProperty .uuid (CargoOptee.uuidStruct value.asFields) =
      some (.uuid value) := by
  rw [readProperty, readUuid_uuidStruct]
  rfl

theorem readProperty_identity (login : UInt32) (uuid : UuidOctets) :
    readProperty .identity (layout [⟨4, encodeLe 4 login.toNat⟩,
      ⟨4, CargoOptee.uuidStruct uuid.asFields⟩]) =
        some (.identity login uuid) := by
  have hlayout : layout [⟨4, encodeLe 4 login.toNat⟩,
      ⟨4, CargoOptee.uuidStruct uuid.asFields⟩] =
        encodeLe 4 login.toNat ++ CargoOptee.uuidStruct uuid.asFields := by
    simp [layout, place, padding]
  have hlogin : readWord 4 (encodeLe 4 login.toNat ++
      CargoOptee.uuidStruct uuid.asFields) = some login.toNat :=
    readWord_encodeLe login.toNat_lt _
  have hdrop : (encodeLe 4 login.toNat ++
      CargoOptee.uuidStruct uuid.asFields).drop 4 =
        CargoOptee.uuidStruct uuid.asFields :=
    List.drop_left' (length_encodeLe 4 login.toNat)
  simp only [readProperty, hlayout, hlogin, hdrop, readUuid_uuidStruct,
    Option.bind_eq_bind, Option.bind_some, UInt32.ofNat_toNat]
  rfl

theorem readProperty_string (text : Text) :
    readProperty .string (stringToBinaryCodes text) =
        some (.bytes (cString (encodeUtf8 text))) ∧
      readProperty .binaryBlock (stringToBinaryCodes text) =
        some (.bytes (cString (encodeUtf8 text))) := by
  have hzero : 0 ∈ stringToBinaryCodes text :=
    List.mem_append_right _ (List.mem_singleton_self 0)
  have hstring : cString (stringToBinaryCodes text) =
      cString (encodeUtf8 text) := cString_terminated _ _
  refine ⟨?_, ?_⟩
  · rw [readProperty, if_pos hzero, hstring]
  · rw [readProperty, if_pos hzero, hstring]

theorem tables_agree (flags : UInt32) (name : Text) (value : PropertyValue) :
    (propertyValueAsUteeValueCodes name value).constant = name ∧
      (propertyValueAsUteeValueCodes name value).expects =
        propertyValueRustTypeDeclarationCodes value ∧
      (propertyValueDataCodes value).type =
        propertyValueRustTypeDeclarationCodes value ∧
      ((propertyValueAsUteeValueCodes name value).target flags
          (propertyValueDataCodes value)).bind
        (readProperty (propertyValueUteeTypeCodes value)) =
          some value.declared := by
  cases value with
  | bool value =>
      exact ⟨rfl, rfl, rfl,
        (Option.bind_some _ _).trans (readProperty_bool value)⟩
  | u32 value =>
      exact ⟨rfl, rfl, rfl,
        (Option.bind_some _ _).trans (readProperty_u32 value)⟩
  | u64 value =>
      exact ⟨rfl, rfl, rfl,
        (Option.bind_some _ _).trans (readProperty_u64 value)⟩
  | uuid value =>
      exact ⟨rfl, rfl, rfl,
        (Option.bind_some _ _).trans (readProperty_uuid value)⟩
  | identity login uuid =>
      exact ⟨rfl, rfl, rfl,
        (Option.bind_some _ _).trans (readProperty_identity login uuid)⟩
  | str value =>
      exact ⟨rfl, rfl, rfl,
        (Option.bind_some _ _).trans (readProperty_string value).1⟩
  | binaryBlock value =>
      exact ⟨rfl, rfl, rfl,
        (Option.bind_some _ _).trans (readProperty_string value).2⟩

/-! ## Constants of the extension properties -/

theorem extPropName_injective {first second : Nat}
    (h : extPropName first = extPropName second) : first = second := by
  have hdigits := congrArg (Nat.ofDigitChars 10 · 0)
    (List.append_cancel_left h)
  rw [Nat.ofDigitChars_toDigits (by decide) (by decide),
    Nat.ofDigitChars_toDigits (by decide) (by decide)] at hdigits
  exact Nat.succ.inj hdigits

theorem head_extPropName (index : Nat) :
    (extPropName index).head? = some 'E' := rfl

theorem extNames_eq (conf : TaConfig) :
    conf.extProperties.zipIdx.map (fun entry => extPropName entry.2) =
      (List.range conf.extProperties.length).map extPropName := by
  rw [List.range_eq_range', ← List.zipIdx_map_snd, List.map_map]
  rfl

theorem extNames_nodup (conf : TaConfig) :
    (conf.extProperties.zipIdx.map
      fun entry => extPropName entry.2).Nodup := by
  rw [extNames_eq]
  exact List.Nodup.map (fun _ _ => extPropName_injective) List.nodup_range

theorem findConst_append (first second : List Item) (name : Text) :
    findConst (first ++ second) name =
      (findConst first name).or (findConst second name) :=
  List.findSome?_append

theorem findStatic_append (first second : List Item) (name : Text) :
    findStatic (first ++ second) name =
      (findStatic first name).or (findStatic second name) :=
  List.findSome?_append

theorem findConst_eq_none {items : List Item} {name : Text}
    (h : name ∉ definedNames items) : findConst items name = none := by
  rw [findConst, List.findSome?_eq_none_iff]
  intro item hitem
  cases item with
  | constItem other type value =>
      refine if_neg fun heq => h ?_
      exact List.mem_filterMap.mpr ⟨_, hitem, congrArg some heq⟩
  | useDecl path => rfl
  | staticItem other type value => rfl
  | function other => rfl

theorem findConst_extConst {properties : List Property} {start : Nat}
    {prop : Property} {index : Nat}
    (h : (prop, index) ∈ properties.zipIdx start) :
    findConst ((properties.zipIdx start).map
        fun entry => extConst entry.1 entry.2) (extPropName index) =
      some (propertyValueRustTypeDeclarationCodes prop.value,
        propertyValueDataCodes prop.value) := by
  induction properties generalizing start with
  | nil => cases h
  | cons first rest ih =>
      rw [List.zipIdx_cons, List.mem_cons] at h
      rw [List.zipIdx_cons, List.map_cons, findConst, List.findSome?_cons]
      rcases h with hfirst | hrest
      · obtain ⟨rfl, rfl⟩ := Prod.mk.inj hfirst
        simp only [extConst, Item.asConst, if_pos]
      · have hstart := List.le_snd_of_mem_zipIdx hrest
        have hne : extPropName start ≠ extPropName index := by
          intro heq
          have hindex := extPropName_injective heq
          omega
        simp only [extConst, Item.asConst, if_neg hne]
        exact ih hrest

/-! ## The generated file -/

def leadingItems (conf : TaConfig) : List Item :=
  writeIncludes ++ writeConfigurations conf ++ writeTrace conf

def trailingItems (uuid : UuidFields) (stackSize : Nat) : List Item :=
  [.staticItem "ta_head".toList .taHead (.taHead uuid stackSize)] ++
    writeTaHeap

theorem generate_eq_some {conf : TaConfig} {overflowChecks : Bool}
    {items : List Item} (h : generate conf overflowChecks = some items) :
    ∃ uuid stackSize, items = leadingItems conf ++ (extConsts conf ++
      (tableItems conf ++ trailingItems uuid stackSize)) := by
  obtain ⟨head, hhead, hitems⟩ := Option.bind_eq_some_iff.mp h
  obtain ⟨taHead, -, hstatic⟩ := Option.bind_eq_some_iff.mp hhead
  obtain rfl := Option.some.inj hstatic
  obtain rfl := Option.some.inj hitems
  refine ⟨taHead.uuid, taHead.stackSize, ?_⟩
  simp only [leadingItems, writeProperties, trailingItems, List.append_assoc]

def leadingNames : List Text :=
  ["TA_FLAGS".toList, "TA_DATA_SIZE".toList, "TA_STACK_SIZE".toList,
    "TA_VERSION".toList, "TA_DESCRIPTION".toList, "trace_level".toList,
    "trace_ext_prefix".toList, "tahead_get_trace_level".toList]

def trailingNames : List Text :=
  ["IS_SINGLE_INSTANCE".toList, "IS_MULTI_SESSION".toList,
    "IS_KEEP_ALIVE".toList, "IS_KEEP_CRASHED".toList, "TA_ENDIAN".toList,
    "DONT_CLOSE_HANDLE_ON_CORRUPT_OBJECT".toList, "ta_num_props".toList,
    "ta_props".toList, "ta_head".toList, "ta_heap".toList,
    "ta_heap_size".toList]

theorem definedNames_extConsts (conf : TaConfig) :
    definedNames (extConsts conf) =
      conf.extProperties.zipIdx.map fun entry => extPropName entry.2 := by
  rw [definedNames, extConsts, List.filterMap_map]
  exact congrFun List.filterMap_eq_map conf.extProperties.zipIdx

theorem definedNames_generate {conf : TaConfig} {overflowChecks : Bool}
    {items : List Item} (h : generate conf overflowChecks = some items) :
    definedNames items = leadingNames ++
      (conf.extProperties.zipIdx.map (fun entry => extPropName entry.2) ++
        trailingNames) := by
  obtain ⟨uuid, stackSize, rfl⟩ := generate_eq_some h
  rw [definedNames, List.filterMap_append, List.filterMap_append,
    ← definedNames_extConsts]
  rfl

theorem extPropName_not_mem {names : List Text}
    (h : ∀ name ∈ names, name.head? ≠ some 'E') (index : Nat) :
    extPropName index ∉ names :=
  fun hmem => h _ hmem (head_extPropName index)

theorem leadingNames_head : ∀ name ∈ leadingNames, name.head? ≠ some 'E' := by
  decide +kernel

theorem trailingNames_head :
    ∀ name ∈ trailingNames, name.head? ≠ some 'E' := by
  decide +kernel

theorem definedNames_nodup {conf : TaConfig} {overflowChecks : Bool}
    {items : List Item} (h : generate conf overflowChecks = some items) :
    (definedNames items).Nodup := by
  have hfixed : ∀ name ∈ leadingNames, name ∉ trailingNames := by
    decide +kernel
  rw [definedNames_generate h]
  refine List.nodup_append.mpr ⟨by decide +kernel, List.nodup_append.mpr
    ⟨extNames_nodup conf, by decide +kernel, ?_⟩, ?_⟩
  · rintro name hname other hother rfl
    obtain ⟨entry, -, rfl⟩ := List.mem_map.mp hname
    exact extPropName_not_mem trailingNames_head entry.2 hother
  · rintro name hname other hother rfl
    rcases List.mem_append.mp hother with hext | htrailing
    · obtain ⟨entry, -, rfl⟩ := List.mem_map.mp hext
      exact extPropName_not_mem leadingNames_head entry.2 hname
    · exact hfixed name hname htrailing

section Generated

variable {conf : TaConfig} {overflowChecks : Bool} {items : List Item}

theorem taFlags_generate (h : generate conf overflowChecks = some items) :
    taFlags items = some conf.taFlags := by
  obtain ⟨uuid, stackSize, rfl⟩ := generate_eq_some h
  rfl

theorem findConst_generate (h : generate conf overflowChecks = some items)
    {prop : Property} {index : Nat}
    (hprop : (prop, index) ∈ conf.extProperties.zipIdx) :
    findConst items (extPropName index) =
      some (propertyValueRustTypeDeclarationCodes prop.value,
        propertyValueDataCodes prop.value) := by
  obtain ⟨uuid, stackSize, rfl⟩ := generate_eq_some h
  have hleading : findConst (leadingItems conf) (extPropName index) = none :=
    findConst_eq_none (extPropName_not_mem leadingNames_head index)
  rw [findConst_append, findConst_append, hleading, extConsts,
    findConst_extConst hprop]
  rfl

theorem findStatic_extConsts (conf : TaConfig) (name : Text) :
    findStatic (extConsts conf) name = none := by
  rw [findStatic, List.findSome?_eq_none_iff]
  intro item hitem
  obtain ⟨entry, -, rfl⟩ := List.mem_map.mp hitem
  rfl

theorem findStatic_props (h : generate conf overflowChecks = some items) :
    findStatic items "ta_num_props".toList = some (.usize,
        .usize (originPropertyLen + conf.extProperties.length)) ∧
      findStatic items "ta_props".toList =
        some (.properties (originPropertyLen + conf.extProperties.length),
          .properties (standardEntries ++ extPropertyCodes conf)) := by
  obtain ⟨uuid, stackSize, rfl⟩ := generate_eq_some h
  have hskip : ∀ name, findStatic (leadingItems conf ++ (extConsts conf ++
      (tableItems conf ++ trailingItems uuid stackSize))) name =
        findStatic (leadingItems conf ++
          (tableItems conf ++ trailingItems uuid stackSize)) name := by
    intro name
    rw [findStatic_append, findStatic_append, findStatic_extConsts,
      Option.none_or, ← findStatic_append]
  rw [hskip, hskip]
  exact ⟨rfl, rfl⟩

end Generated

/-! ## Looking a property up -/

/-- Names that a reader can tell apart. -/
structure TaConfig.WellNamed (conf : TaConfig) : Prop where
  noNul : ∀ prop ∈ conf.extProperties, '\x00' ∉ prop.name
  distinct : (conf.extProperties.map Property.name).Nodup
  notStandard : ∀ prop ∈ conf.extProperties, ∀ constant : PropStr,
    prop.name ≠ constant.text

theorem cString_stringToBinaryCodes (text : Text) :
    cString (stringToBinaryCodes text) = encodeUtf8 (cText text) :=
  (cString_terminated _ _).trans (cString_encodeUtf8 text)

theorem cString_name_eq_iff (first second : Text) :
    cString (stringToBinaryCodes first) =
      cString (stringToBinaryCodes second) ↔ cText first = cText second := by
  -- A reader tells names apart by what comes before their NUL.
  rw [cString_stringToBinaryCodes, cString_stringToBinaryCodes]
  exact encodeUtf8_injective.eq_iff

theorem lookupProperty_append (first second : List PropertyEntry)
    (name : List UInt8) :
    lookupProperty (first ++ second) name =
      (lookupProperty first name).or (lookupProperty second name) :=
  List.find?_append

theorem standardEntries_name :
    ∀ entry ∈ standardEntries, ∃ constant, entry.name = .path constant := by
  simp [standardEntries, standardEntry]

theorem PropStr.noNul (constant : PropStr) : '\x00' ∉ constant.text := by
  cases constant <;> decide

theorem lookupProperty_standardEntries {name : Text}
    (hname : ∀ constant : PropStr, cText name ≠ constant.text) :
    lookupProperty standardEntries (stringToBinaryCodes name) = none := by
  rw [lookupProperty, List.find?_eq_none]
  intro entry hentry
  obtain ⟨constant, hconstant⟩ := standardEntries_name entry hentry
  rw [hconstant, decide_eq_true_iff]
  intro heq
  have hsame := (cString_name_eq_iff constant.text name).mp heq
  rw [cText_of_not_mem constant.noNul] at hsame
  exact hname constant hsame.symm

def TaConfig.firstNamed (conf : TaConfig) (name : Text) : Option Property :=
  conf.extProperties.find? fun prop => cText prop.name = cText name

theorem lookupProperty_extEntries (properties : List Property) (name : Text)
    (start : Nat) :
    (∃ prop index,
      properties.find? (fun prop => cText prop.name = cText name) =
        some prop ∧
      (prop, index) ∈ properties.zipIdx start ∧
      lookupProperty ((properties.zipIdx start).map
          fun entry => extEntry entry.1 entry.2)
        (stringToBinaryCodes name) = some (extEntry prop index)) ∨
    properties.find? (fun prop => cText prop.name = cText name) = none ∧
      lookupProperty ((properties.zipIdx start).map
          fun entry => extEntry entry.1 entry.2)
        (stringToBinaryCodes name) = none := by
  induction properties generalizing start with
  | nil => exact .inr ⟨rfl, rfl⟩
  | cons first rest ih =>
      simp only [List.zipIdx_cons, List.map_cons, lookupProperty]
      by_cases hfirst : cText first.name = cText name
      · refine .inl ⟨first, start, ?_, List.mem_cons_self, ?_⟩
        · exact List.find?_cons_of_pos (decide_eq_true hfirst)
        · refine List.find?_cons_of_pos (decide_eq_true ?_)
          exact (cString_name_eq_iff first.name name).mpr hfirst
      · have hne : ¬ cString (extEntry first start).name.bytes =
            cString (stringToBinaryCodes name) :=
          fun heq => hfirst ((cString_name_eq_iff first.name name).mp heq)
        simp only [List.find?_cons, decide_eq_false hfirst,
          decide_eq_false hne]
        rcases ih (start + 1) with ⟨prop, index, hfind, hmem, hlookup⟩ | hnone
        · exact .inl ⟨prop, index, hfind, List.mem_cons_of_mem _ hmem, hlookup⟩
        · exact .inr hnone

theorem lookupProperty_firstNamed {conf : TaConfig} {name : Text}
    {prop : Property} (h : conf.firstNamed name = some prop) :
    ∃ index, (prop, index) ∈ conf.extProperties.zipIdx ∧
      lookupProperty (extPropertyCodes conf) (stringToBinaryCodes name) =
        some (extEntry prop index) := by
  rcases lookupProperty_extEntries conf.extProperties name 0 with
    ⟨found, index, hfound, hmem, hlookup⟩ | ⟨hnone, -⟩
  · obtain rfl := Option.some.inj (hfound.symm.trans h)
    exact ⟨index, hmem, hlookup⟩
  · cases hnone.symm.trans h

theorem lookupProperty_unnamed {conf : TaConfig} {name : Text}
    (h : conf.firstNamed name = none) :
    lookupProperty (extPropertyCodes conf) (stringToBinaryCodes name) =
      none := by
  rcases lookupProperty_extEntries conf.extProperties name 0 with
    ⟨found, index, hfound, -, -⟩ | ⟨-, hlookup⟩
  · cases hfound.symm.trans h
  · exact hlookup

theorem TaConfig.WellNamed.firstNamed {conf : TaConfig} (h : conf.WellNamed)
    {prop : Property} (hprop : prop ∈ conf.extProperties) :
    conf.firstNamed prop.name = some prop := by
  have htext := fun other hother => cText_of_not_mem (h.noNul other hother)
  obtain ⟨found, hfound⟩ : ∃ found, conf.firstNamed prop.name = some found :=
    Option.isSome_iff_exists.mp
      (List.find?_isSome.mpr ⟨prop, hprop, decide_eq_true rfl⟩)
  have hmem := List.mem_of_find?_eq_some hfound
  have hname : cText found.name = cText prop.name := by
    simpa using List.find?_some hfound
  rw [htext found hmem, htext prop hprop] at hname
  rw [hfound, List.inj_on_of_nodup_map h.distinct hmem hprop hname]

/-! ## The table -/

def usedNames (entries : List PropertyEntry) : List Text :=
  entries.map fun entry => entry.value.constant

theorem usedNames_eq (conf : TaConfig) :
    usedNames (standardEntries ++ extPropertyCodes conf) =
      usedNames standardEntries ++
        conf.extProperties.zipIdx.map fun entry => extPropName entry.2 := by
  rw [usedNames, List.map_append, extPropertyCodes, List.map_map]
  refine congrArg _ (List.map_congr_left fun entry _ => ?_)
  exact (tables_agree 0 (extPropName entry.2) entry.1.value).1

theorem usedNames_standardEntries_head :
    ∀ name ∈ usedNames standardEntries, name.head? ≠ some 'E' := by
  decide +kernel

section Table

variable {conf : TaConfig} {overflowChecks : Bool} {items : List Item}

theorem extPropName_mem {index : Nat}
    (h : index < conf.extProperties.length) :
    extPropName index ∈
      conf.extProperties.zipIdx.map fun entry => extPropName entry.2 := by
  rw [extNames_eq]
  exact List.mem_map_of_mem (List.mem_range.mpr h)

theorem count_definedNames (h : generate conf overflowChecks = some items)
    {index : Nat} (hindex : index < conf.extProperties.length) :
    (definedNames items).count (extPropName index) = 1 := by
  refine List.count_eq_one_of_mem (definedNames_nodup h) ?_
  rw [definedNames_generate h]
  exact List.mem_append_right _
    (List.mem_append_left _ (extPropName_mem hindex))

theorem count_usedNames {index : Nat}
    (hindex : index < conf.extProperties.length) :
    (usedNames (standardEntries ++ extPropertyCodes conf)).count
      (extPropName index) = 1 := by
  rw [usedNames_eq, List.count_append, List.count_eq_zero.mpr
    (extPropName_not_mem usedNames_standardEntries_head index), Nat.zero_add]
  exact List.count_eq_one_of_mem (extNames_nodup conf)
    (extPropName_mem hindex)

theorem entry_of_constant {entry : PropertyEntry} {index : Nat}
    (hentry : entry ∈ standardEntries ++ extPropertyCodes conf)
    (hconstant : entry.value.constant = extPropName index) :
    ∃ prop, (prop, index) ∈ conf.extProperties.zipIdx ∧
      entry = extEntry prop index := by
  rcases List.mem_append.mp hentry with hstandard | hext
  · have hused : extPropName index ∈ usedNames standardEntries :=
      List.mem_map.mpr ⟨entry, hstandard, hconstant⟩
    exact absurd hused
      (extPropName_not_mem usedNames_standardEntries_head index)
  · obtain ⟨⟨prop, other⟩, hmem, rfl⟩ := List.mem_map.mp hext
    have hother := (tables_agree 0 (extPropName other) prop.value).1
    obtain rfl : other = index :=
      extPropName_injective (hother.symm.trans hconstant)
    exact ⟨prop, hmem, rfl⟩

theorem findConst_expects (h : generate conf overflowChecks = some items)
    {prop : Property} {index : Nat}
    (hprop : (prop, index) ∈ conf.extProperties.zipIdx) :
    ∃ value, findConst items (extPropName index) =
        some ((extEntry prop index).value.expects, value) ∧
      value.type = (extEntry prop index).value.expects := by
  obtain ⟨-, hexpects, htype, -⟩ :=
    tables_agree 0 (extPropName index) prop.value
  refine ⟨propertyValueDataCodes prop.value, ?_, htype.trans hexpects.symm⟩
  rw [findConst_generate h hprop, ← hexpects]
  rfl

theorem pointee_eq_target (h : generate conf overflowChecks = some items)
    {pointer : PointerExpr} {value : Expr}
    (hconst : findConst items pointer.constant =
      some (pointer.expects, value))
    (htype : value.type = pointer.expects) :
    pointer.pointee items = pointer.target conf.taFlags value := by
  simp only [PointerExpr.pointee, taFlags_generate h, hconst, htype,
    Option.bind_eq_bind, Option.bind_some, and_self, if_true]

theorem read_extEntry (h : generate conf overflowChecks = some items)
    {prop : Property} {index : Nat}
    (hprop : (prop, index) ∈ conf.extProperties.zipIdx) :
    ((extEntry prop index).value.pointee items).bind
        (readProperty (extEntry prop index).propType) =
      some prop.value.declared := by
  obtain ⟨hconstant, hexpects, htype, hread⟩ :=
    tables_agree conf.taFlags (extPropName index) prop.value
  have hconst : findConst items (extEntry prop index).value.constant =
      some ((extEntry prop index).value.expects,
        propertyValueDataCodes prop.value) := by
    rw [extEntry, hconstant, hexpects]
    exact findConst_generate h hprop
  rw [pointee_eq_target h hconst (htype.trans hexpects.symm)]
  exact hread

theorem findConst_fixed (h : generate conf overflowChecks = some items)
    {name : Text} (hname : name.head? ≠ some 'E') :
    ∃ rest, findConst items name =
      findConst (leadingItems conf ++ (tableItems conf ++ rest)) name := by
  obtain ⟨uuid, stackSize, rfl⟩ := generate_eq_some h
  have hext : findConst (extConsts conf) name = none := by
    refine findConst_eq_none ?_
    rw [definedNames_extConsts]
    intro hmem
    obtain ⟨entry, -, rfl⟩ := List.mem_map.mp hmem
    exact hname (head_extPropName entry.2)
  refine ⟨trailingItems uuid stackSize, ?_⟩
  rw [findConst_append, findConst_append, hext, Option.none_or,
    ← findConst_append]

end Table

/--
The table has the length that is declared for it, every constant of an
extension property is defined and used once and at one type, and every
extension property is found under its name and read as it was declared.
-/
theorem property_table_reads_back (conf : TaConfig) (overflowChecks : Bool)
    (items : List Item) (hitems : generate conf overflowChecks = some items)
    (hnames : conf.WellNamed) :
    ∃ count length entries,
      findStatic items "ta_num_props".toList = some (.usize, .usize count) ∧
      findStatic items "ta_props".toList =
        some (.properties length, .properties entries) ∧
      count = entries.length ∧ length = entries.length ∧
      entries.length = 10 + conf.extProperties.length ∧
      (∀ index < conf.extProperties.length,
        (definedNames items).count (extPropName index) = 1 ∧
        (usedNames entries).count (extPropName index) = 1 ∧
        ∀ entry ∈ entries, entry.value.constant = extPropName index →
          ∃ value, findConst items (extPropName index) =
              some (entry.value.expects, value) ∧
            value.type = entry.value.expects) ∧
      ∀ prop ∈ conf.extProperties, ∃ entry,
        lookupProperty entries (stringToBinaryCodes prop.name) =
          some entry ∧
        (entry.value.pointee items).bind (readProperty entry.propType) =
          some prop.value.declared := by
  obtain ⟨hnum, hprops⟩ := findStatic_props hitems
  have hlength : (standardEntries ++ extPropertyCodes conf).length =
      10 + conf.extProperties.length := by
    rw [List.length_append, extPropertyCodes, List.length_map,
      List.length_zipIdx]
    rfl
  refine ⟨_, _, _, hnum, hprops, hlength.symm, hlength.symm, hlength, ?_, ?_⟩
  · intro index hindex
    refine ⟨count_definedNames hitems hindex, count_usedNames hindex, ?_⟩
    intro entry hentry hconstant
    obtain ⟨prop, hprop, rfl⟩ := entry_of_constant hentry hconstant
    exact findConst_expects hitems hprop
  · intro prop hprop
    obtain ⟨index, hindex, hlookup⟩ :=
      lookupProperty_firstNamed (hnames.firstNamed hprop)
    have hstandard : lookupProperty standardEntries
        (stringToBinaryCodes prop.name) = none := by
      refine lookupProperty_standardEntries ?_
      rw [cText_of_not_mem (hnames.noNul prop hprop)]
      exact hnames.notStandard prop hprop
    refine ⟨extEntry prop index, ?_, read_extEntry hitems hindex⟩
    rw [lookupProperty_append, hstandard, Option.none_or]
    exact hlookup

/-- What the configuration says of a standard property. -/
def TaConfig.standardValue (conf : TaConfig) : PropStr → ReadValue
  | .singleInstance => .bool (conf.taFlags &&& taFlagSingleInstance != 0)
  | .multiSession => .bool (conf.taFlags &&& taFlagMultiSession != 0)
  | .keepAlive => .bool (conf.taFlags &&& taFlagInstanceKeepAlive != 0)
  | .keepCrashed => .bool (conf.taFlags &&& taFlagInstanceKeepCrashed != 0)
  | .dataSize => .u32 conf.taDataSize
  | .stackSize => .u32 conf.taStackSize
  | .version => .bytes (cString (encodeUtf8 conf.taVersion))
  | .description => .bytes (cString (encodeUtf8 conf.taDescription))
  | .endian => .u32 0
  | .doesNotCloseHandleOnCorruptObject =>
      .bool (conf.taFlags &&& taFlagDontCloseHandleOnCorruptObject != 0)

/-- The entry of a standard property and the constant that it points to. -/
structure StandardEntry (conf : TaConfig) (constant : PropStr)
    (entry : PropertyEntry) (value : Expr) : Prop where
  lookup : lookupProperty standardEntries
    (stringToBinaryCodes constant.text) = some entry
  found : ∀ rest, findConst (leadingItems conf ++ (tableItems conf ++ rest))
    entry.value.constant = some (entry.value.expects, value)
  typed : value.type = entry.value.expects
  read : (entry.value.target conf.taFlags value).bind
    (readProperty entry.propType) = some (conf.standardValue constant)

theorem exists_standardEntry (conf : TaConfig) (constant : PropStr) :
    ∃ entry value, StandardEntry conf constant entry value := by
  have hbool := fun flag : UInt32 =>
    readProperty_bool (conf.taFlags &&& flag != 0)
  cases constant with
  | singleInstance =>
      exact ⟨_, .flagSet taFlagSingleInstance, rfl, fun _ => rfl, rfl,
        (Option.bind_some _ _).trans (hbool _)⟩
  | multiSession =>
      exact ⟨_, .flagSet taFlagMultiSession, rfl, fun _ => rfl, rfl,
        (Option.bind_some _ _).trans (hbool _)⟩
  | keepAlive =>
      exact ⟨_, .flagSet taFlagInstanceKeepAlive, rfl, fun _ => rfl, rfl,
        (Option.bind_some _ _).trans (hbool _)⟩
  | keepCrashed =>
      exact ⟨_, .flagSet taFlagInstanceKeepCrashed, rfl, fun _ => rfl, rfl,
        (Option.bind_some _ _).trans (hbool _)⟩
  | dataSize =>
      exact ⟨_, .u32 conf.taDataSize, rfl, fun _ => rfl, rfl,
        (Option.bind_some _ _).trans (readProperty_u32 _)⟩
  | stackSize =>
      exact ⟨_, .u32 conf.taStackSize, rfl, fun _ => rfl, rfl,
        (Option.bind_some _ _).trans (readProperty_u32 _)⟩
  | version =>
      exact ⟨_, .byteString (stringToBinaryCodes conf.taVersion), rfl,
        fun _ => rfl, rfl,
        (Option.bind_some _ _).trans (readProperty_string _).1⟩
  | description =>
      exact ⟨_, .byteString (stringToBinaryCodes conf.taDescription), rfl,
        fun _ => rfl, rfl,
        (Option.bind_some _ _).trans (readProperty_string _).1⟩
  | endian =>
      exact ⟨_, .u32 0, rfl, fun _ => rfl, rfl,
        (Option.bind_some _ _).trans (readProperty_u32 _)⟩
  | doesNotCloseHandleOnCorruptObject =>
      exact ⟨_, .flagSet taFlagDontCloseHandleOnCorruptObject, rfl,
        fun _ => rfl, rfl, (Option.bind_some _ _).trans (hbool _)⟩

theorem standard_property_reads {conf : TaConfig} {overflowChecks : Bool}
    {items : List Item} (h : generate conf overflowChecks = some items)
    (constant : PropStr) :
    ∃ entry, lookupProperty (standardEntries ++ extPropertyCodes conf)
        (stringToBinaryCodes constant.text) = some entry ∧
      (entry.value.pointee items).bind (readProperty entry.propType) =
        some (conf.standardValue constant) := by
  -- The standard properties come first, so no extension property hides one.
  obtain ⟨entry, value, hlookup, hfound, htyped, hread⟩ :=
    exists_standardEntry conf constant
  have hentry : entry ∈ standardEntries := List.mem_of_find?_eq_some hlookup
  have hhead : entry.value.constant.head? ≠ some 'E' :=
    usedNames_standardEntries_head _ (List.mem_map_of_mem hentry)
  obtain ⟨rest, hrest⟩ := findConst_fixed h hhead
  refine ⟨entry, ?_, ?_⟩
  · rw [lookupProperty_append, hlookup, Option.some_or]
  · rw [pointee_eq_target h (hrest.trans (hfound rest)) htyped]
    exact hread

def twoPropertyConfig : TaConfig where
  uuid := CargoOptee.countingUuid
  taFlags := 4
  taDataSize := 0x8000
  taStackSize := 0x800
  taVersion := "1.0".toList
  taDescription := "two".toList
  traceLevel := 4
  traceExtPrefix := "TA".toList
  taFrameworkStackSize := 0x800
  extProperties :=
    [⟨"gp.ta.quote\"".toList, .str "\"; é".toList⟩,
      ⟨"gp.ta.owner".toList, .identity 7 CargoOptee.countingUuid⟩]

theorem twoPropertyConfig_wellNamed : twoPropertyConfig.WellNamed where
  noNul := by decide
  distinct := by decide
  notStandard := by
    intro prop hprop constant
    revert prop
    cases constant <;> decide

theorem twoPropertyConfig_reads_back :
    ∃ items, generate twoPropertyConfig true = some items ∧
      ∃ length entries entry,
        findStatic items "ta_props".toList =
          some (.properties length, .properties entries) ∧
        lookupProperty entries (stringToBinaryCodes "gp.ta.owner".toList) =
          some entry ∧
        (entry.value.pointee items).bind (readProperty entry.propType) =
          some (.identity 7 CargoOptee.countingUuid) := by
  obtain ⟨count, length, entries, -, hprops, -, -, -, -, hread⟩ :=
    property_table_reads_back twoPropertyConfig true _ rfl
      twoPropertyConfig_wellNamed
  obtain ⟨entry, hlookup, hvalue⟩ := hread
    ⟨"gp.ta.owner".toList, .identity 7 CargoOptee.countingUuid⟩
    (List.mem_cons_of_mem _ List.mem_cons_self)
  exact ⟨_, rfl, length, entries, entry, hprops, hlookup, hvalue⟩

end TrustZoneSdk.UteeBuild
