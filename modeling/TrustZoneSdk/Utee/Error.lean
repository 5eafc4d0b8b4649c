import TrustZoneSdk.Foundation.CodeTable

/-!
# Error codes of the trusted-application crate

`ErrorKind` carries one discriminant per named GlobalPlatform code and a
catch-all that keeps every other `u32`.  The derived conversions are the
discriminant table read in both directions.
-/

namespace TrustZoneSdk.Utee

open TrustZoneSdk.Foundation

abbrev TeeResult := UInt32

def teeSuccess : TeeResult := 0x00000000

inductive ErrorKind where
  | corruptObject
  | corruptObject2
  | storageNotAvailable
  | storageNotAvailable2
  | generic
  | accessDenied
  | cancel
  | accessConflict
  | excessData
  | badFormat
  | badParameters
  | badState
  | itemNotFound
  | notImplemented
  | notSupported
  | noData
  | outOfMemory
  | busy
  | communication
  | security
  | shortBuffer
  | externalCancel
  | overflow
  | targetDead
  | storageNoSpace
  | macInvalid
  | signatureInvalid
  | timeNotSet
  | timeNeedsReset
  | unknown (code : UInt32)
  deriving DecidableEq, Repr

namespace ErrorKind

def intoPrimitive : ErrorKind → UInt32
  | corruptObject => 0xF0100001
  | corruptObject2 => 0xF0100002
  | storageNotAvailable => 0xF0100003
  | storageNotAvailable2 => 0xF0100004
  | generic => 0xFFFF0000
  | accessDenied => 0xFFFF0001
  | cancel => 0xFFFF0002
  | accessConflict => 0xFFFF0003
  | excessData => 0xFFFF0004
  | badFormat => 0xFFFF0005
  | badParameters => 0xFFFF0006
  | badState => 0xFFFF0007
  | itemNotFound => 0xFFFF0008
  | notImplemented => 0xFFFF0009
  | notSupported => 0xFFFF000A
  | noData => 0xFFFF000B
  | outOfMemory => 0xFFFF000C
  | busy => 0xFFFF000D
  | communication => 0xFFFF000E
  | security => 0xFFFF000F
  | shortBuffer => 0xFFFF0010
  | externalCancel => 0xFFFF0011
  | overflow => 0xFFFF300F
  | targetDead => 0xFFFF3024
  | storageNoSpace => 0xFFFF3041
  | macInvalid => 0xFFFF3071
  | signatureInvalid => 0xFFFF3072
  | timeNotSet => 0xFFFF5000
  | timeNeedsReset => 0xFFFF5001
  | unknown code => code

def named : List ErrorKind :=
  [corruptObject, corruptObject2, storageNotAvailable, storageNotAvailable2,
    generic, accessDenied, cancel, accessConflict, excessData, badFormat,
    badParameters, badState, itemNotFound, notImplemented, notSupported,
    noData, outOfMemory, busy, communication, security, shortBuffer,
    externalCancel, overflow, targetDead, storageNoSpace, macInvalid,
    signatureInvalid, timeNotSet, timeNeedsReset]

def fromPrimitive (code : UInt32) : ErrorKind :=
  fromCode intoPrimitive named unknown code

@[simp] theorem intoPrimitive_fromPrimitive (code : UInt32) :
    (fromPrimitive code).intoPrimitive = code :=
  toCode_fromCode (fun _ => rfl) named code

theorem fromPrimitive_intoPrimitive {kind : ErrorKind} (h : kind ∈ named) :
    fromPrimitive kind.intoPrimitive = kind := by
  revert kind
  decide

theorem intoPrimitive_eq_zero_iff (kind : ErrorKind) :
    kind.intoPrimitive = 0 ↔ kind = unknown 0 := by
  cases kind <;> simp [intoPrimitive]

def asStr : ErrorKind → String
  | corruptObject => "Object corruption."
  | corruptObject2 => "Persistent object corruption."
  | storageNotAvailable => "Object storage is not available."
  | storageNotAvailable2 => "Persistent object storage is not available."
  | generic => "Non-specific cause."
  | accessDenied => "Access privileges are not sufficient."
  | cancel => "The operation was canceled."
  | accessConflict => "Concurrent accesses caused conflict."
  | excessData => "Too much data for the requested operation was passed."
  | badFormat => "Input data was of invalid format."
  | badParameters => "Input parameters were invalid."
  | badState => "Operation is not valid in the current state."
  | itemNotFound => "The requested data item is not found."
  | notImplemented =>
      "The requested operation should exist but is not yet implemented."
  | notSupported =>
      "The requested operation is valid but is not supported in this implementation."
  | noData => "Expected data was missing."
  | outOfMemory => "System ran out of resources."
  | busy => "The system is busy working on something else."
  | communication => "Communication with a remote party failed."
  | security => "A security fault was detected."
  | shortBuffer => "The supplied buffer is too short for the generated output."
  | externalCancel => "Undocumented."
  | overflow => "Data overflow."
  | targetDead => "Trusted Application has panicked during the operation."
  | storageNoSpace => "Insufficient space is available."
  | macInvalid => "MAC is invalid."
  | signatureInvalid => "Signature is invalid."
  | timeNotSet => "The persistent time has not been set."
  | timeNeedsReset =>
      "The persistent time has been set but may have been corrupted and SHALL no longer be trusted."
  | unknown _ => "Unknown error."

end ErrorKind

inductive ErrorOrigin where
  | api
  | comms
  | tee
  | ta
  | unknown
  deriving DecidableEq, Repr

namespace ErrorOrigin

def toU32 : ErrorOrigin → UInt32
  | api => 1
  | comms => 2
  | tee => 3
  | ta => 4
  | unknown => 5

def ofU32 (code : UInt32) : ErrorOrigin :=
  if code = 1 then api
  else if code = 2 then comms
  else if code = 3 then tee
  else if code = 4 then ta
  else unknown

end ErrorOrigin

structure Error where
  kind : ErrorKind
  origin : Option ErrorOrigin
  deriving DecidableEq, Repr

namespace Error

def new (kind : ErrorKind) : Error := ⟨kind, none⟩

def fromRawError (code : UInt32) : Error := new (ErrorKind.fromPrimitive code)

def withOrigin (error : Error) (origin : ErrorOrigin) : Error :=
  { error with origin := some origin }

def rawCode (error : Error) : UInt32 := error.kind.intoPrimitive

def message (error : Error) : String := error.kind.asStr

def lowerHex (code : UInt32) : String :=
  String.ofList (Nat.toDigits 16 code.toNat)

def debug (error : Error) : String :=
  error.message ++ " (error code 0x" ++ lowerHex error.rawCode ++
    ", origin 0x" ++ lowerHex ((error.origin.map ErrorOrigin.toU32).getD 0) ++
    ")"

@[simp] theorem rawCode_fromRawError (code : UInt32) :
    (fromRawError code).rawCode = code :=
  ErrorKind.intoPrimitive_fromPrimitive code

@[simp] theorem rawCode_withOrigin (error : Error) (origin : ErrorOrigin) :
    (error.withOrigin origin).rawCode = error.rawCode := rfl

end Error

def teeCheck (code : TeeResult) : Except Error Unit :=
  if code = teeSuccess then .ok () else .error (Error.fromRawError code)

def teeCheckWithOrigin (code : TeeResult) (origin : UInt32) :
    Except Error Unit :=
  if code = teeSuccess then .ok ()
  else .error ((Error.fromRawError code).withOrigin (ErrorOrigin.ofU32 origin))

end TrustZoneSdk.Utee
