import TrustZoneSdk.CargoOptee.BuildUuid
import TrustZoneSdk.Foundation.Utf8

/-!
# The header that a build script generates

`HeaderFileGenerator` turns the configuration of a TA into items of a Rust
file.  Each extension property becomes a constant and an entry of the table of
properties; what stands in the constant, its type, the cast of its address and
the tag of the entry come from four tables over the kinds of values.
-/

namespace TrustZoneSdk.UteeBuild

open TrustZoneSdk.Foundation

abbrev Text := List Char

/-! ## Configuration -/

inductive PropertyValue where
  | bool (value : Bool)
  | u32 (value : UInt32)
  | uuid (value : UuidOctets)
  | identity (login : UInt32) (uuid : UuidOctets)
  | str (value : Text)
  | binaryBlock (value : Text)
  | u64 (value : UInt64)
  deriving DecidableEq

structure Property where
  name : Text
  value : PropertyValue
  deriving DecidableEq

structure TaConfig where
  uuid : UuidOctets
  taFlags : UInt32
  taDataSize : UInt32
  taStackSize : UInt32
  taVersion : Text
  taDescription : Text
  traceLevel : Int32
  traceExtPrefix : Text
  taFrameworkStackSize : UInt32
  extProperties : List Property

/-! ## Generated items -/

inductive RustType where
  | u32
  | u64
  | bool
  | usize
  | cInt
  | teeUuid
  | teeIdentity
  /-- A slice, `&[u8]`. -/
  | byteSlice
  | taHead
  /-- The table, `[user_ta_property; length]`. -/
  | properties (length : Nat)
  /-- The heap, `[u8; TA_DATA_SIZE as usize]`. -/
  | heap
  deriving DecidableEq, Repr

inductive PropType where
  | bool
  | u32
  | uuid
  | identity
  | string
  | binaryBlock
  | u64
  | invalid
  deriving DecidableEq, Repr

inductive PropStr where
  | singleInstance
  | multiSession
  | keepAlive
  | keepCrashed
  | dataSize
  | stackSize
  | version
  | description
  | endian
  | doesNotCloseHandleOnCorruptObject
  deriving DecidableEq, Repr

def PropStr.text : PropStr → Text
  | singleInstance => "gpd.ta.singleInstance".toList
  | multiSession => "gpd.ta.multiSession".toList
  | keepAlive => "gpd.ta.instanceKeepAlive".toList
  | keepCrashed => "gpd.ta.instanceKeepCrashed".toList
  | dataSize => "gpd.ta.dataSize".toList
  | stackSize => "gpd.ta.stackSize".toList
  | version => "gpd.ta.version".toList
  | description => "gpd.ta.description".toList
  | endian => "gpd.ta.endian".toList
  | doesNotCloseHandleOnCorruptObject =>
      "gpd.ta.doesNotCloseHandleOnCorruptObject".toList

inductive NameExpr where
  | path (constant : PropStr)
  /-- A byte string literal with `.as_ptr()`. -/
  | literal (bytes : List UInt8)
  deriving DecidableEq, Repr

inductive PointerExpr where
  /-- The cast `&X as *const T as *mut _`. -/
  | ofRef (constant : Text) (target : RustType)
  /-- The cast `X as *const [u8] as *mut _`. -/
  | ofSlice (constant : Text)
  deriving DecidableEq, Repr

structure PropertyEntry where
  name : NameExpr
  propType : PropType
  value : PointerExpr
  deriving DecidableEq, Repr

inductive Expr where
  | u32 (value : UInt32)
  | u64 (value : UInt64)
  | bool (value : Bool)
  | i32 (value : Int32)
  | usize (value : Nat)
  | byteString (bytes : List UInt8)
  | teeUuid (fields : UuidFields)
  | teeIdentity (login : UInt32) (uuid : UuidFields)
  /-- The test `(TA_FLAGS & flag) != 0`. -/
  | flagSet (flag : UInt32)
  | properties (entries : List PropertyEntry)
  /-- A `ta_head` with the flags `TA_FLAGS` and the entry `u64::MAX`. -/
  | taHead (uuid : UuidFields) (stackSize : Nat)
  /-- The array `[0; TA_DATA_SIZE as usize]`. -/
  | zeros
  /-- The size `mem::size_of::<u8>() * TA_DATA_SIZE as usize`. -/
  | heapSize
  deriving DecidableEq

inductive Item where
  | useDecl (path : Text)
  | constItem (name : Text) (type : RustType) (value : Expr)
  | staticItem (name : Text) (type : RustType) (value : Expr)
  | function (name : Text)
  deriving DecidableEq

/-! ## The four tables -/

def stringToBinaryCodes (text : Text) : List UInt8 := encodeUtf8 text ++ [0]

def propertyValueDataCodes : PropertyValue → Expr
  | .u32 value => .u32 value
  | .u64 value => .u64 value
  | .bool value => .bool value
  | .uuid value => .teeUuid value.asFields
  | .str value => .byteString (stringToBinaryCodes value)
  | .binaryBlock value => .byteString (stringToBinaryCodes value)
  | .identity login uuid => .teeIdentity login uuid.asFields

def propertyValueRustTypeDeclarationCodes : PropertyValue → RustType
  | .u32 _ => .u32
  | .u64 _ => .u64
  | .bool _ => .bool
  | .uuid _ => .teeUuid
  | .str _ => .byteSlice
  | .binaryBlock _ => .byteSlice
  | .identity _ _ => .teeIdentity

def propertyValueAsUteeValueCodes (varName : Text) :
    PropertyValue → PointerExpr
  | .u32 _ => .ofRef varName .u32
  | .u64 _ => .ofRef varName .u64
  | .bool _ => .ofRef varName .bool
  | .uuid _ => .ofRef varName .teeUuid
  | .str _ => .ofSlice varName
  | .binaryBlock _ => .ofSlice varName
  | .identity _ _ => .ofRef varName .teeIdentity

def propertyValueUteeTypeCodes : PropertyValue → PropType
  | .u32 _ => .u32
  | .u64 _ => .u64
  | .bool _ => .bool
  | .uuid _ => .uuid
  | .str _ => .string
  | .binaryBlock _ => .binaryBlock
  | .identity _ _ => .identity

/-! ## Generation -/

def extPropName (index : Nat) : Text :=
  "EXT_PROP_VALUE_".toList ++ Nat.toDigits 10 (index + 1)

def extConst (prop : Property) (index : Nat) : Item :=
  .constItem (extPropName index)
    (propertyValueRustTypeDeclarationCodes prop.value)
    (propertyValueDataCodes prop.value)

def extEntry (prop : Property) (index : Nat) : PropertyEntry where
  name := .literal (stringToBinaryCodes prop.name)
  propType := propertyValueUteeTypeCodes prop.value
  value := propertyValueAsUteeValueCodes (extPropName index) prop.value

def taFlagSingleInstance : UInt32 := (1 : UInt32) <<< 2

def taFlagMultiSession : UInt32 := (1 : UInt32) <<< 3

def taFlagInstanceKeepAlive : UInt32 := (1 : UInt32) <<< 4

def taFlagDontCloseHandleOnCorruptObject : UInt32 := (1 : UInt32) <<< 11

def taFlagInstanceKeepCrashed : UInt32 := (1 : UInt32) <<< 13

def standardEntry (name : PropStr) (propType : PropType)
    (value : PointerExpr) : PropertyEntry :=
  ⟨.path name, propType, value⟩

def standardEntries : List PropertyEntry :=
  [standardEntry .singleInstance .bool
      (.ofRef "IS_SINGLE_INSTANCE".toList .bool),
    standardEntry .multiSession .bool
      (.ofRef "IS_MULTI_SESSION".toList .bool),
    standardEntry .keepAlive .bool (.ofRef "IS_KEEP_ALIVE".toList .bool),
    standardEntry .keepCrashed .bool (.ofRef "IS_KEEP_CRASHED".toList .bool),
    standardEntry .dataSize .u32 (.ofRef "TA_DATA_SIZE".toList .u32),
    standardEntry .stackSize .u32 (.ofRef "TA_STACK_SIZE".toList .u32),
    standardEntry .version .string (.ofSlice "TA_VERSION".toList),
    standardEntry .description .string (.ofSlice "TA_DESCRIPTION".toList),
    standardEntry .endian .u32 (.ofRef "TA_ENDIAN".toList .u32),
    standardEntry .doesNotCloseHandleOnCorruptObject .bool
      (.ofRef "DONT_CLOSE_HANDLE_ON_CORRUPT_OBJECT".toList .bool)]

def originPropertyLen : Nat := 10

def flagConst (name : String) (flag : UInt32) : Item :=
  .constItem name.toList .bool (.flagSet flag)

section Generate

variable (conf : TaConfig)

def writeIncludes : List Item :=
  [.useDecl "core::ffi::*".toList, .useDecl "core::mem".toList,
    .useDecl "core::primitive::u64".toList]

def writeConfigurations : List Item :=
  [.constItem "TA_FLAGS".toList .u32 (.u32 conf.taFlags),
    .constItem "TA_DATA_SIZE".toList .u32 (.u32 conf.taDataSize),
    .constItem "TA_STACK_SIZE".toList .u32 (.u32 conf.taStackSize),
    .constItem "TA_VERSION".toList .byteSlice
      (.byteString (stringToBinaryCodes conf.taVersion)),
    .constItem "TA_DESCRIPTION".toList .byteSlice
      (.byteString (stringToBinaryCodes conf.taDescription))]

def writeTrace : List Item :=
  [.staticItem "trace_level".toList .cInt (.i32 conf.traceLevel),
    .staticItem "trace_ext_prefix".toList .byteSlice
      (.byteString (stringToBinaryCodes conf.traceExtPrefix)),
    .function "tahead_get_trace_level".toList]

def extConsts : List Item :=
  conf.extProperties.zipIdx.map fun entry => extConst entry.1 entry.2

def extPropertyCodes : List PropertyEntry :=
  conf.extProperties.zipIdx.map fun entry => extEntry entry.1 entry.2

def tableItems : List Item :=
  let propertyLen := originPropertyLen + conf.extProperties.length
  [flagConst "IS_SINGLE_INSTANCE" taFlagSingleInstance,
    flagConst "IS_MULTI_SESSION" taFlagMultiSession,
    flagConst "IS_KEEP_ALIVE" taFlagInstanceKeepAlive,
    flagConst "IS_KEEP_CRASHED" taFlagInstanceKeepCrashed,
    .constItem "TA_ENDIAN".toList .u32 (.u32 0),
    flagConst "DONT_CLOSE_HANDLE_ON_CORRUPT_OBJECT"
      taFlagDontCloseHandleOnCorruptObject,
    .staticItem "ta_num_props".toList .usize (.usize propertyLen),
    .staticItem "ta_props".toList (.properties propertyLen)
      (.properties (standardEntries ++ extPropertyCodes conf))]

def writeProperties : List Item := extConsts conf ++ tableItems conf

/-- None if the build script panics on the sum of the stack sizes. -/
def writeTaHead (overflowChecks : Bool) : Option (List Item) := do
  let head ← CargoOptee.writeTaHead overflowChecks
    ⟨conf.uuid, conf.taFlags, conf.taStackSize, conf.taFrameworkStackSize⟩
  return [.staticItem "ta_head".toList .taHead
    (.taHead head.uuid head.stackSize)]

def writeTaHeap : List Item :=
  [.staticItem "ta_heap".toList .heap .zeros,
    .staticItem "ta_heap_size".toList .usize .heapSize]

def generate (overflowChecks : Bool) : Option (List Item) := do
  let head ← writeTaHead conf overflowChecks
  return writeIncludes ++ writeConfigurations conf ++ writeTrace conf ++
    writeProperties conf ++ head ++ writeTaHeap

end Generate

end TrustZoneSdk.UteeBuild
