import TrustZoneSdk.UteeBuild.PropertyTable
import TrustZoneSdk.Utee.Property

/-!
# Properties from the build to the running TA

The build script writes the configuration of a TA into a table of properties,
the TEE looks names up in that table before it asks its kernel, and the TA
reads them through typed keys.
-/

namespace TrustZoneSdk

open TrustZoneSdk.Foundation
open TrustZoneSdk.UteeBuild (PropStr ReadValue PropType)

/-! ## The store of a TA -/

/-- `decodeBlock` is the reader of binary blocks, which are stored as texts. -/
def storedProperty (decodeBlock : List UInt8 → List UInt8)
    (propType : PropType) : ReadValue → Utee.StoredProperty
  | .bool value => .bool value
  | .u32 value => .u32 value
  | .u64 value => .u64 value
  | .uuid value => .uuid value.asFields
  | .identity login uuid => .identity ⟨login, uuid.asFields⟩
  | .bytes bytes =>
      if propType = .binaryBlock then .binaryBlock (decodeBlock bytes)
      else .string bytes

def tableEntries (items : List UteeBuild.Item) :
    List UteeBuild.PropertyEntry :=
  match UteeBuild.findStatic items "ta_props".toList with
  | some (_, .properties entries) => entries
  | _ => []

/-- The table of the TA comes before what the kernel knows. -/
def currentTaStore (decodeBlock : List UInt8 → List UInt8)
    (kernel : List UInt8 → Option Utee.StoredProperty)
    (items : List UteeBuild.Item) (key : List UInt8) :
    Option Utee.StoredProperty :=
  match UteeBuild.lookupProperty (tableEntries items) key with
  | some entry =>
      ((entry.value.pointee items).bind
        (UteeBuild.readProperty entry.propType)).map
          (storedProperty decodeBlock entry.propType)
  | none => kernel key

/-! ## What the configuration says -/

def standardKey : PropStr → Utee.PropertyKey
  | .singleInstance => Utee.taSingleInstance
  | .multiSession => Utee.taMultiSession
  | .keepAlive => Utee.taInstanceKeepAlive
  | .keepCrashed => Utee.taInstanceKeepCrashed
  | .dataSize => Utee.taDataSize
  | .stackSize => Utee.taStackSize
  | .version => Utee.taVersion
  | .description => Utee.taDescription
  | .endian => Utee.taEndian
  | .doesNotCloseHandleOnCorruptObject =>
      Utee.taDoesNotCloseHandleOnCorruptObject

def standardOutput (conf : UteeBuild.TaConfig) :
    PropStr → Utee.PropertyOutput
  | .singleInstance =>
      .bool (conf.taFlags &&& UteeBuild.taFlagSingleInstance != 0)
  | .multiSession =>
      .bool (conf.taFlags &&& UteeBuild.taFlagMultiSession != 0)
  | .keepAlive =>
      .bool (conf.taFlags &&& UteeBuild.taFlagInstanceKeepAlive != 0)
  | .keepCrashed =>
      .bool (conf.taFlags &&& UteeBuild.taFlagInstanceKeepCrashed != 0)
  | .dataSize => .u32 conf.taDataSize
  | .stackSize => .u32 conf.taStackSize
  | .version => .string (cText conf.taVersion)
  | .description => .string (cText conf.taDescription)
  | .endian => .u32 0
  | .doesNotCloseHandleOnCorruptObject => .bool
      (conf.taFlags &&& UteeBuild.taFlagDontCloseHandleOnCorruptObject != 0)

def declaredOutput (decodeBlock : List UInt8 → List UInt8) :
    UteeBuild.PropertyValue → Utee.PropertyOutput
  | .bool value => .bool value
  | .u32 value => .u32 value
  | .uuid value => .uuid ⟨value.asFields⟩
  | .identity login uuid => .identity ⟨⟨login, uuid.asFields⟩⟩
  | .str value => .string (cText value)
  | .binaryBlock value => .binaryBlock (decodeBlock (encodeUtf8 (cText value)))
  | .u64 value => .u64 value

section ReadBack

variable {σ : Type} {lossy : LossyDecoder}
  {decodeBlock : List UInt8 → List UInt8}
  {conf : UteeBuild.TaConfig} {overflowChecks : Bool}
  {items : List UteeBuild.Item}
  {kernel : List UInt8 → Option Utee.StoredProperty}

theorem tableEntries_generate
    (h : UteeBuild.generate conf overflowChecks = some items) :
    tableEntries items =
      UteeBuild.standardEntries ++ UteeBuild.extPropertyCodes conf := by
  rw [tableEntries, (UteeBuild.findStatic_props h).2]

theorem cKey_eq {key : Utee.PropertyKey} (h : '\x00' ∉ key.key) :
    key.cKey = UteeBuild.stringToBinaryCodes key.key :=
  if_neg h

theorem standardKey_text (constant : PropStr) :
    (standardKey constant).key = constant.text := by
  cases constant <;> rfl

theorem lookup_standard_propType (constant : PropStr) :
    (UteeBuild.lookupProperty UteeBuild.standardEntries
      (UteeBuild.stringToBinaryCodes constant.text)).map
        UteeBuild.PropertyEntry.propType ≠ some .binaryBlock := by
  cases constant <;> decide

variable (decodeBlock kernel) in
theorem currentTaStore_standard
    (h : UteeBuild.generate conf overflowChecks = some items)
    (constant : PropStr) :
    ∃ propType ≠ PropType.binaryBlock,
      currentTaStore decodeBlock kernel items (standardKey constant).cKey =
        some (storedProperty decodeBlock propType
          (conf.standardValue constant)) := by
  obtain ⟨entry, hlookup, hread⟩ :=
    UteeBuild.standard_property_reads h constant
  have hkey : (standardKey constant).cKey =
      UteeBuild.stringToBinaryCodes constant.text := by
    rw [cKey_eq, standardKey_text]
    rw [standardKey_text]
    exact constant.noNul
  refine ⟨entry.propType, ?_, ?_⟩
  · intro hblock
    have htype := lookup_standard_propType constant
    obtain ⟨found, _, hfound, -⟩ := UteeBuild.exists_standardEntry conf constant
    rw [UteeBuild.lookupProperty_append, hfound, Option.some_or,
      Option.some.injEq] at hlookup
    rw [hfound, hlookup, Option.map_some, hblock] at htype
    exact htype rfl
  · rw [currentTaStore, tableEntries_generate h, hkey, hlookup]
    simp only [hread, Option.map_some]

theorem lookup_beyond_standard {name : List Char} (hnul : '\x00' ∉ name)
    (hname : ∀ constant : PropStr, name ≠ constant.text) :
    UteeBuild.lookupProperty
        (UteeBuild.standardEntries ++ UteeBuild.extPropertyCodes conf)
        (UteeBuild.stringToBinaryCodes name) =
      UteeBuild.lookupProperty (UteeBuild.extPropertyCodes conf)
        (UteeBuild.stringToBinaryCodes name) := by
  have hstandard : UteeBuild.lookupProperty UteeBuild.standardEntries
      (UteeBuild.stringToBinaryCodes name) = none := by
    refine UteeBuild.lookupProperty_standardEntries ?_
    rwa [cText_of_not_mem hnul]
  rw [UteeBuild.lookupProperty_append, hstandard, Option.none_or]

variable (decodeBlock kernel) in
theorem currentTaStore_ext
    (h : UteeBuild.generate conf overflowChecks = some items)
    {name : List Char} (hnul : '\x00' ∉ name)
    (hname : ∀ constant : PropStr, name ≠ constant.text)
    {prop : UteeBuild.Property} (hprop : conf.firstNamed name = some prop) :
    currentTaStore decodeBlock kernel items
        (UteeBuild.stringToBinaryCodes name) =
      some (storedProperty decodeBlock
        (UteeBuild.propertyValueUteeTypeCodes prop.value)
        prop.value.declared) := by
  obtain ⟨index, hindex, hlookup⟩ :=
    UteeBuild.lookupProperty_firstNamed hprop
  rw [currentTaStore, tableEntries_generate h,
    lookup_beyond_standard hnul hname, hlookup]
  simp only [UteeBuild.read_extEntry h hindex, Option.map_some]
  rfl

variable (decodeBlock kernel) in
theorem currentTaStore_kernel
    (h : UteeBuild.generate conf overflowChecks = some items)
    {name : List Char} (hnul : '\x00' ∉ name)
    (hname : ∀ constant : PropStr, name ≠ constant.text)
    (hnone : conf.firstNamed name = none) :
    currentTaStore decodeBlock kernel items
        (UteeBuild.stringToBinaryCodes name) =
      kernel (UteeBuild.stringToBinaryCodes name) := by
  rw [currentTaStore, tableEntries_generate h,
    lookup_beyond_standard hnul hname, UteeBuild.lookupProperty_unnamed hnone]

variable (lossy decodeBlock) in
theorem standard_output {propType : PropType}
    (htype : propType ≠ .binaryBlock) (constant : PropStr) :
    (storedProperty decodeBlock propType
      (conf.standardValue constant)).output lossy =
        standardOutput conf constant := by
  cases constant <;>
    simp [UteeBuild.TaConfig.standardValue, storedProperty, htype,
      Utee.StoredProperty.output, standardOutput, cString_encodeUtf8,
      lossy.decode_text]

variable (lossy decodeBlock) in
theorem declared_output (value : UteeBuild.PropertyValue) :
    (storedProperty decodeBlock
      (UteeBuild.propertyValueUteeTypeCodes value) value.declared).output
        lossy = declaredOutput decodeBlock value := by
  cases value <;>
    simp [UteeBuild.PropertyValue.declared, storedProperty,
      UteeBuild.propertyValueUteeTypeCodes, Utee.StoredProperty.output,
      declaredOutput, cString_encodeUtf8, lossy.decode_text]

theorem zero_not_mem_stored {propType : PropType} {value : ReadValue}
    {bytes : List UInt8} (hvalue : ∀ read, value = .bytes read → 0 ∉ read)
    (h : storedProperty decodeBlock propType value = .string bytes) :
    0 ∉ bytes := by
  cases value with
  | bytes read =>
      rw [storedProperty] at h
      split at h
      · cases h
      · cases h
        exact hvalue _ rfl
  | bool value => cases h
  | u32 value => cases h
  | u64 value => cases h
  | uuid value => cases h
  | identity login uuid => cases h

theorem declared_bytes {value : UteeBuild.PropertyValue} {read : List UInt8}
    (h : value.declared = .bytes read) : 0 ∉ read := by
  cases value <;> cases h <;> exact zero_not_mem_cString _

theorem standardValue_bytes {constant : PropStr} {read : List UInt8}
    (h : conf.standardValue constant = .bytes read) : 0 ∉ read := by
  cases constant <;> cases h <;> exact zero_not_mem_cString _

theorem standardKey_kind (constant : PropStr) :
    (standardKey constant).output = (standardOutput conf constant).kind := by
  cases constant <;> rfl

end ReadBack

/--
What the build script is told is what the running TA reads: each standard
property through the key that the TA library has for it, and, under any other
name, the first extension property of that name, through a key of its kind.
Names and texts count up to their first NUL.  The identity of the TA is not in
the table, and the kernel answers for it.
-/
theorem configuration_reaches_running_ta {σ : Type}
    (lossy : LossyDecoder) (decodeBlock : List UInt8 → List UInt8)
    (kernel : List UInt8 → Option Utee.StoredProperty)
    (conf : UteeBuild.TaConfig) (overflowChecks : Bool)
    (items : List UteeBuild.Item)
    (hitems : UteeBuild.generate conf overflowChecks = some items)
    (tee : Utee.PropertyTee σ)
    (store : σ → UInt32 → List UInt8 → Option Utee.StoredProperty)
    (hserves : tee.Serves store)
    (hstore : ∀ state key, store state Utee.PropertySet.currentTa.asRaw key =
      currentTaStore decodeBlock kernel items key) (state : σ) :
    (∀ constant, ((standardKey constant).get lossy tee state).1 =
      .ok (standardOutput conf constant)) ∧
    (∀ name prop, '\x00' ∉ name →
      (∀ constant : PropStr, name ≠ constant.text) →
      conf.firstNamed name = some prop →
        (Utee.PropertyKey.get lossy tee ⟨.currentTa, name,
          (declaredOutput decodeBlock prop.value).kind⟩ state).1 =
            .ok (declaredOutput decodeBlock prop.value)) ∧
    ∀ uuid, conf.firstNamed Utee.taAppId.key = none →
      kernel Utee.taAppId.cKey = some (.uuid uuid) →
        (Utee.taAppId.get lossy tee state).1 = .ok (.uuid ⟨uuid⟩) := by
  refine ⟨?_, ?_, ?_⟩
  · intro constant
    obtain ⟨propType, htype, hstored⟩ := currentTaStore_standard
      decodeBlock kernel hitems constant
    have houtput := @standard_output lossy decodeBlock conf _ htype constant
    have hset : (standardKey constant).set = .currentTa := by
      cases constant <;> rfl
    rw [← houtput]
    refine Utee.PropertyKey.get_constant lossy hserves ?_ ?_ ?_ state
    · intro state
      rw [hset, hstore]
      exact hstored
    · exact fun bytes h => zero_not_mem_stored
        (fun _ => standardValue_bytes) h
    · rw [houtput]
      exact standardKey_kind constant
  · intro name prop hnul hname hprop
    rw [← declared_output lossy decodeBlock prop.value]
    refine Utee.PropertyKey.get_constant lossy hserves ?_ ?_ rfl state
    · intro state
      rw [cKey_eq hnul, hstore]
      exact currentTaStore_ext decodeBlock kernel hitems hnul hname hprop
    · exact fun bytes h => zero_not_mem_stored (fun _ => declared_bytes) h
  · intro uuid hnone hkernel
    have hnul : '\x00' ∉ Utee.taAppId.key := by decide
    have hname : ∀ constant : PropStr, Utee.taAppId.key ≠ constant.text := by
      intro constant
      cases constant <;> decide
    have hstored : ∀ state, store state Utee.taAppId.set.asRaw
        Utee.taAppId.cKey = some (.uuid uuid) := by
      intro state
      rw [cKey_eq hnul] at hkernel ⊢
      rw [← hkernel]
      exact (hstore state _).trans
        (currentTaStore_kernel decodeBlock kernel hitems hnul hname hnone)
    refine Utee.PropertyKey.get_constant lossy hserves hstored ?_ rfl state
    exact fun bytes h => nomatch h

def countingKernel (key : List UInt8) : Option Utee.StoredProperty :=
  if key = Utee.taAppId.cKey then
    some (.uuid CargoOptee.countingUuid.asFields)
  else none

theorem twoPropertyConfig_description_read :
    ∃ items, UteeBuild.generate UteeBuild.twoPropertyConfig true =
        some items ∧
      let tee := Utee.storeTee (fun (_ : Unit) _ key =>
        currentTaStore id countingKernel items key) id
      (Utee.taDescription.get strictDecoder tee ()).1 =
        .ok (.string "two".toList) ∧
      (Utee.PropertyKey.get strictDecoder tee
          ⟨.currentTa, "gp.ta.owner".toList, .identity⟩ ()).1 =
        .ok (.identity ⟨⟨7, CargoOptee.countingUuid.asFields⟩⟩) ∧
      (Utee.taAppId.get strictDecoder tee ()).1 =
        .ok (.uuid ⟨CargoOptee.countingUuid.asFields⟩) := by
  obtain ⟨hstandard, hext, hidentity⟩ := configuration_reaches_running_ta
    strictDecoder id countingKernel UteeBuild.twoPropertyConfig true _ rfl
    (Utee.storeTee (fun (_ : Unit) _ key =>
      currentTaStore id countingKernel _ key) id) _
    (Utee.storeTee_serves _ _) (fun _ _ => rfl) ()
  have howner : ∀ constant : PropStr,
      "gp.ta.owner".toList ≠ constant.text := by
    intro constant
    cases constant <;> decide
  refine ⟨_, rfl, hstandard .description, ?_, hidentity _ (by decide) ?_⟩
  · exact hext _ ⟨"gp.ta.owner".toList, .identity 7 CargoOptee.countingUuid⟩
      (by decide) howner (by decide)
  · exact if_pos rfl

end TrustZoneSdk
