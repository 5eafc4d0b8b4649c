import TrustZoneSdk.Foundation.CodeTable

/-!
# Error codes of the client crate

The client names fewer codes than the TA crate does; all others, those that
only the TA crate names included, go to the catch-all.
-/

namespace TrustZoneSdk.Teec

open TrustZoneSdk.Foundation

abbrev TeecResult := UInt32

def teecSuccess : TeecResult := 0x00000000

inductive ErrorKind where
  | generic
  | accessDenied
  | cancel
  | accessConflict
  | excessData
  | badFormat
  | badParameters
  | badState
  | itemNotFound
  | notImplemented
  | notSupported
  | noData
  | outOfMemory
  | busy
  | communication
  | security
  | shortBuffer
  | externalCancel
  | targetDead
  | unknown (code : UInt32)
  deriving DecidableEq, Repr

namespace ErrorKind

def intoPrimitive : ErrorKind → UInt32
  | generic => 0xFFFF0000
  | accessDenied => 0xFFFF0001
  | cancel => 0xFFFF0002
  | accessConflict => 0xFFFF0003
  | excessData => 0xFFFF0004
  | badFormat => 0xFFFF0005
  | badParameters => 0xFFFF0006
  | badState => 0xFFFF0007
  | itemNotFound => 0xFFFF0008
  | notImplemented => 0xFFFF0009
  | notSupported => 0xFFFF000A
  | noData => 0xFFFF000B
  | outOfMemory => 0xFFFF000C
  | busy => 0xFFFF000D
  | communication => 0xFFFF000E
  | security => 0xFFFF000F
  | shortBuffer => 0xFFFF0010
  | externalCancel => 0xFFFF0011
  | targetDead => 0xFFFF3024
  | unknown code => code

def named : List ErrorKind :=
  [generic, accessDenied, cancel, accessConflict, excessData, badFormat,
    badParameters, badState, itemNotFound, notImplemented, notSupported,
    noData, outOfMemory, busy, communication, security, shortBuffer,
    externalCancel, targetDead]

def fromPrimitive (code : UInt32) : ErrorKind :=
  fromCode intoPrimitive named unknown code

@[simp] theorem intoPrimitive_fromPrimitive (code : UInt32) :
    (fromPrimitive code).intoPrimitive = code :=
  toCode_fromCode (fun _ => rfl) named code

end ErrorKind

inductive ErrorOrigin where
  | api
  | comms
  | tee
  | ta
  | unknown
  deriving DecidableEq, Repr

def ErrorOrigin.ofU32 (code : UInt32) : ErrorOrigin :=
  if code = 1 then api
  else if code = 2 then comms
  else if code = 3 then tee
  else if code = 4 then ta
  else unknown

structure Error where
  kind : ErrorKind
  origin : Option ErrorOrigin
  deriving DecidableEq, Repr

namespace Error

def new (kind : ErrorKind) : Error := ⟨kind, none⟩

def fromRawError (code : UInt32) : Error := new (ErrorKind.fromPrimitive code)

def withOrigin (error : Error) (origin : ErrorOrigin) : Error :=
  { error with origin := some origin }

def rawCode (error : Error) : UInt32 := error.kind.intoPrimitive

@[simp] theorem rawCode_fromRawError (code : UInt32) :
    (fromRawError code).rawCode = code :=
  ErrorKind.intoPrimitive_fromPrimitive code

@[simp] theorem rawCode_withOrigin (error : Error) (origin : ErrorOrigin) :
    (error.withOrigin origin).rawCode = error.rawCode := rfl

end Error

def teecCheck (code : TeecResult) : Except Error Unit :=
  if code = teecSuccess then .ok () else .error (Error.fromRawError code)

def teecCheckWithOrigin (code : TeecResult) (origin : UInt32) :
    Except Error Unit :=
  if code = teecSuccess then .ok ()
  else .error ((Error.fromRawError code).withOrigin (ErrorOrigin.ofU32 origin))

end TrustZoneSdk.Teec
