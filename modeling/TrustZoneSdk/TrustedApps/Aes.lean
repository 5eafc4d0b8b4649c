import TrustZoneSdk.TrustedApps.Command

/-!
# AES in pieces

A session holds one cipher operation and one key object of the TEE.  A host
prepares the session, programs a key, starts with an initialization vector and
feeds a text in pieces.  The TEE panics if the operation is used out of turn, or
a handle after it was closed.  It is any that keeps the promises of the
documentation, and each command is followed from what the session holds.
-/

namespace TrustZoneSdk.TrustedApps.Aes

open TrustZoneSdk.Foundation
open TrustZoneSdk.Utee

inductive Command where
  | prepare
  | setKey
  | setIV
  | cipher
  | unknown
  deriving DecidableEq, Repr

def Command.fromPrimitive (cmdId : UInt32) : Command :=
  if cmdId = 0 then prepare
  else if cmdId = 1 then setKey
  else if cmdId = 2 then setIV
  else if cmdId = 3 then cipher
  else unknown

inductive AlgorithmId where
  | aesEcbNopad
  | aesCbcNopad
  | aesCtr
  deriving DecidableEq, Repr

inductive OperationMode where
  | encrypt
  | decrypt
  deriving DecidableEq, Repr

def ta2teeAlgoId (algoId : BitVec 32) : Except Error AlgorithmId :=
  if algoId = 0 then .ok .aesEcbNopad
  else if algoId = 1 then .ok .aesCbcNopad
  else if algoId = 2 then .ok .aesCtr
  else .error (Error.new .badParameters)

def ta2teeKeySize (keySz : BitVec 32) : Except Error Nat :=
  if keySz = 16 ∨ keySz = 32 then .ok keySz.toNat
  else .error (Error.new .badParameters)

def ta2teeModeId (mode : BitVec 32) : Except Error OperationMode :=
  if mode = 0 then .ok .decrypt
  else if mode = 1 then .ok .encrypt
  else .error (Error.new .badParameters)

/-! ## The TEE -/

/--
The calls of the TEE.  `Op` and `Obj` are what it keeps behind a handle, and
`Env` is all that its answers depend on besides; `none` is a panic.
-/
structure Tee (Env Op Obj : Type) where
  isAlgorithmSupported : Env → AlgorithmId → TeeResult
  allocateOperation : Env → AlgorithmId → OperationMode → Nat → TeeResult × Op
  freeOperation : Env → Op → Option Unit
  allocateTransientObject : Env → Nat → TeeResult × Obj
  closeObject : Env → Obj → Option Unit
  resetTransientObject : Env → Obj → Option Obj
  populateTransientObject : Env → Obj → List UInt8 → Option (TeeResult × Obj)
  setOperationKey : Env → Op → Obj → Option (TeeResult × Op × Obj)
  cipherInit : Env → Op → List UInt8 → Option Op
  cipherUpdate : Env → Op → List UInt8 → Nat →
    Option (TeeResult × List UInt8 × Op)

structure AesCipher (Op Obj : Type) where
  keySize : Nat
  cipher : Option Op
  keyObject : Option Obj

def AesCipher.default {Op Obj : Type} : AesCipher Op Obj := ⟨0, none, none⟩

abbrev AesM (Op Obj α : Type) := CommandM (AesCipher Op Obj) α

section Wrappers

variable {Env Op Obj : Type} (tee : Tee Env Op Obj) (env : Env)

def check (code : TeeResult) : AesM Op Obj Unit :=
  Fallible.ofExcept (teeCheck code)

def survive {α : Type} : Option α → AesM Op Obj α
  | some value => pure value
  | none => Fallible.kill

def alter (f : AesCipher Op Obj → AesCipher Op Obj) : AesM Op Obj Unit :=
  modify fun frame => { frame with context := f frame.context }

/--
`drop(Box::from_raw(null))` aborts in a build with debug assertions.  Without
them the allocator is handed the null pointer, and ignores it.
-/
def Cipher.drop (debugAssertions : Bool) : Option Op → AesM Op Obj Unit
  | none => if debugAssertions then Fallible.kill else pure ()
  | some operation => survive (tee.freeOperation env operation)

def TransientObject.drop : Option Obj → AesM Op Obj Unit
  | none => pure ()
  | some object => survive (tee.closeObject env object)

def reset : AesM Op Obj Unit := do
  -- To reset no object is to do nothing.
  match (← get).context.keyObject with
  | none => pure ()
  | some object =>
      let object ← survive (tee.resetTransientObject env object)
      alter fun aes => { aes with keyObject := some object }

def populate (value : List UInt8) : AesM Op Obj Unit := do
  match (← get).context.keyObject with
  | none => Fallible.kill
  | some object =>
      let (code, object) ←
        survive (tee.populateTransientObject env object value)
      alter fun aes => { aes with keyObject := some object }
      check code

def Cipher.setKey : AesM Op Obj Unit := do
  let aes := (← get).context
  match aes.cipher, aes.keyObject with
  | some operation, some object =>
      let (code, operation, object) ←
        survive (tee.setOperationKey env operation object)
      alter fun aes => { aes with
        cipher := some operation, keyObject := some object }
      check code
  | _, _ => Fallible.kill

def Cipher.init (iv : List UInt8) : AesM Op Obj Unit := do
  match (← get).context.cipher with
  | none => Fallible.kill
  | some operation =>
      let operation ← survive (tee.cipherInit env operation iv)
      alter fun aes => { aes with cipher := some operation }

def Cipher.update (src dest : List UInt8) :
    AesM Op Obj (Nat × List UInt8) := do
  match (← get).context.cipher with
  | none => Fallible.kill
  | some operation =>
      let (code, piece, operation) ←
        survive (tee.cipherUpdate env operation src dest.length)
      alter fun aes => { aes with cipher := some operation }
      check code
      return (piece.length, overlay dest 0 piece)

end Wrappers

/-! ## The commands -/

section Commands

variable {Env Op Obj : Type} (tee : Tee Env Op Obj) (debugAssertions : Bool)
  (env : Env)

def allocResources : AesM Op Obj Unit := do
  let (algoValue, _) ← valueInput .arg0
  let (keySizeValue, _) ← valueInput .arg1
  let (modeIdValue, _) ← valueInput .arg2
  let keySize ← Fallible.ofExcept (ta2teeKeySize keySizeValue)
  alter fun aes => { aes with keySize }
  let algorithm ← Fallible.ofExcept (ta2teeAlgoId algoValue)
  check (tee.isAlgorithmSupported env algorithm)
  let mode ← Fallible.ofExcept (ta2teeModeId modeIdValue)
  let (code, operation) := tee.allocateOperation env algorithm mode
    (keySize * 8)
  check code
  -- An assignment drops what was there, once there is something new.
  Cipher.drop tee env debugAssertions (← get).context.cipher
  alter fun aes => { aes with cipher := some operation }
  let (code, object) := tee.allocateTransientObject env (keySize * 8)
  check code
  TransientObject.drop tee env (← get).context.keyObject
  alter fun aes => { aes with keyObject := some object }
  populate tee env (List.replicate keySize 0)
  Cipher.setKey tee env

def setAesKey : AesM Op Obj Unit := do
  let key ← memrefInput .arg0
  if key.length ≠ (← get).context.keySize then refuse
  else
    reset tee env
    populate tee env key
    Cipher.setKey tee env

def resetAesIv : AesM Op Obj Unit := do
  let iv ← memrefInput .arg0
  Cipher.init tee env iv

def cipherBuffer : AesM Op Obj Unit := do
  let inputBuf ← memrefInput .arg0
  let bufferLen ← memrefOutput .arg1
  if bufferLen < inputBuf.length then refuse
  else
    let (tmpSize, outBuf) ←
      Cipher.update tee env inputBuf (List.replicate bufferLen 0)
    setOutput .arg1 (outBuf.take tmpSize)

def invokeCommand (cmdId : UInt32) : AesM Op Obj Unit :=
  match Command.fromPrimitive cmdId with
  | .prepare => allocResources tee debugAssertions env
  | .setKey => setAesKey tee env
  | .setIV => resetAesIv tee env
  | .cipher => cipherBuffer tee env
  | .unknown => refuse

end Commands

/-! ## What the TEE promises -/

structure Progress where
  iv : List UInt8
  fed : List UInt8
  deriving DecidableEq

structure Operation where
  algorithm : AlgorithmId
  mode : OperationMode
  maxKeySize : Nat
  key : Option (List UInt8)
  progress : Option Progress
  deriving DecidableEq

structure KeyObject where
  maxObjectSize : Nat
  secretValue : Option (List UInt8)
  deriving DecidableEq

/-- What the algorithms compute of a key, a vector and all of an input. -/
structure Algorithms where
  output : AlgorithmId → OperationMode → List UInt8 → List UInt8 →
    List UInt8 → List UInt8
  acceptsIv : AlgorithmId → List UInt8 → Bool

def Algorithms.outputOf (algorithms : Algorithms) (operation : Operation)
    (key : List UInt8) (progress : Progress) : List UInt8 :=
  algorithms.output operation.algorithm operation.mode key progress.iv
    progress.fed

/-- How to read what the TEE keeps; an object that was closed is `none`. -/
structure Reading (Op Obj : Type) where
  operation : Op → Operation
  object : Obj → Option KeyObject

def corruptObject : TeeResult := ErrorKind.corruptObject.intoPrimitive

/--
What the TEE does for callers that use it in turn.  Nothing is said of others,
nor of a key object that is reported as corrupt, nor of the key of an operation
that has refused one.
-/
structure Tee.Lawful {Env Op Obj : Type} (tee : Tee Env Op Obj)
    (algorithms : Algorithms) (reading : Reading Op Obj) : Prop where
  output_nil : ∀ algorithm mode key iv,
    algorithms.output algorithm mode key iv [] = []
  allocateOperation : ∀ env algorithm mode maxKeySize,
    (tee.allocateOperation env algorithm mode maxKeySize).1 = teeSuccess →
      reading.operation
          (tee.allocateOperation env algorithm mode maxKeySize).2 =
        ⟨algorithm, mode, maxKeySize, none, none⟩
  freeOperation : ∀ env op, tee.freeOperation env op = some ()
  allocateTransientObject : ∀ env size,
    (tee.allocateTransientObject env size).1 = teeSuccess →
      reading.object (tee.allocateTransientObject env size).2 =
        some ⟨size, none⟩
  closeObject : ∀ env {obj}, reading.object obj ≠ none →
    tee.closeObject env obj = some ()
  resetTransientObject : ∀ env {obj object},
    reading.object obj = some object →
      ∃ next, tee.resetTransientObject env obj = some next ∧
        reading.object next = some { object with secretValue := none }
  -- A value that is refused leaves the object without one.
  populateTransientObject : ∀ env {obj size} value,
    reading.object obj = some ⟨size, none⟩ → value.length * 8 ≤ size →
      ∃ code next,
        tee.populateTransientObject env obj value = some (code, next) ∧
        reading.object next =
          some ⟨size, if code = teeSuccess then some value else none⟩
  setOperationKey : ∀ env {op obj size key},
    (reading.operation op).progress = none →
      reading.object obj = some ⟨size, some key⟩ →
      key.length * 8 ≤ (reading.operation op).maxKeySize →
      ∃ code next kept,
        tee.setOperationKey env op obj = some (code, next, kept) ∧
        (∃ programmed, reading.operation next =
          { reading.operation op with key := programmed } ∧
            (code = teeSuccess → programmed = some key)) ∧
        (code ≠ corruptObject → reading.object kept = reading.object obj)
  cipherInit : ∀ env {op key} iv, (reading.operation op).key = some key →
    match tee.cipherInit env op iv with
    | some next => reading.operation next =
        { reading.operation op with progress := some ⟨iv, []⟩ }
    | none => algorithms.acceptsIv (reading.operation op).algorithm iv = false
  -- What is refused is not fed, and pieces add up to the output of the whole.
  cipherUpdate : ∀ env {op key progress} src room,
    (reading.operation op).key = some key →
      (reading.operation op).progress = some progress →
      ∃ code piece next,
        tee.cipherUpdate env op src room = some (code, piece, next) ∧
        if code = teeSuccess then
          piece.length ≤ room ∧
            reading.operation next = { reading.operation op with
              progress := some ⟨progress.iv, progress.fed ++ src⟩ } ∧
            algorithms.outputOf (reading.operation op) key progress ++ piece =
              algorithms.outputOf (reading.operation op) key
                ⟨progress.iv, progress.fed ++ src⟩
        else reading.operation next = reading.operation op

/-! ## What a host asks for -/

structure Config where
  algorithm : AlgorithmId
  mode : OperationMode
  keySize : Nat
  deriving DecidableEq

def configOf (slots : ParamIndex → Slot) : Option Config := do
  let algoValue ← valuesOf (slots .arg0)
  let keySizeValue ← valuesOf (slots .arg1)
  let modeIdValue ← valuesOf (slots .arg2)
  let keySize ← (ta2teeKeySize keySizeValue.1).toOption
  let algorithm ← (ta2teeAlgoId algoValue.1).toOption
  let mode ← (ta2teeModeId modeIdValue.1).toOption
  return ⟨algorithm, mode, keySize⟩

theorem configOf_of_untyped {slots : ParamIndex → Slot} {i : ParamIndex}
    (hi : i ≠ .arg3) (h : valuesOf (slots i) = none) :
    configOf slots = none := by
  cases i with
  | arg0 => simp [configOf, h]
  | arg1 => simp [configOf, h]
  | arg2 => simp [configOf, h]
  | arg3 => exact absurd rfl hi

theorem configOf_of_typed {slots : ParamIndex → Slot}
    {algoValue keySizeValue modeIdValue : BitVec 32 × BitVec 32}
    (halgo : valuesOf (slots .arg0) = some algoValue)
    (hkeySize : valuesOf (slots .arg1) = some keySizeValue)
    (hmodeId : valuesOf (slots .arg2) = some modeIdValue) :
    configOf slots = do
      let keySize ← (ta2teeKeySize keySizeValue.1).toOption
      let algorithm ← (ta2teeAlgoId algoValue.1).toOption
      let mode ← (ta2teeModeId modeIdValue.1).toOption
      return ⟨algorithm, mode, keySize⟩ := by
  simp [configOf, halgo, hkeySize, hmodeId]

def Config.passes (config : Config) (slots : ParamIndex → Slot) : Bool :=
  -- A key that is none, or is not of the right length, gets to no operation.
  (inputOf (slots .arg0)).any (·.length == config.keySize)

/-! ## How the commands end -/

section Endings

variable {Env Op Obj : Type} {tee : Tee Env Op Obj} {algorithms : Algorithms}
  {reading : Reading Op Obj}

/-- What a session holds once it is prepared. -/
structure Fitted (reading : Reading Op Obj) (config : Config)
    (key : Option (List UInt8)) (progress : Option Progress)
    (value : Option (List UInt8)) (aes : AesCipher Op Obj) : Prop where
  keySize : aes.keySize = config.keySize
  cipher : ∃ op, aes.cipher = some op ∧ reading.operation op =
    ⟨config.algorithm, config.mode, config.keySize * 8, key, progress⟩
  keyObject : ∃ obj, aes.keyObject = some obj ∧
    reading.object obj = some ⟨config.keySize * 8, value⟩

/-- The value of the key object is of no account. -/
def Ready (reading : Reading Op Obj) (config : Config)
    (key : Option (List UInt8)) (progress : Option Progress)
    (aes : AesCipher Op Obj) : Prop :=
  ∃ value, Fitted reading config key progress value aes

def KeyOpen (reading : Reading Op Obj) (aes : AesCipher Op Obj) : Prop :=
  ∀ obj ∈ aes.keyObject, reading.object obj ≠ none

theorem Ready.keyOpen {config : Config} {key : Option (List UInt8)}
    {progress : Option Progress} {aes : AesCipher Op Obj}
    (h : Ready reading config key progress aes) : KeyOpen reading aes := by
  obtain ⟨value, -, -, obj, hobj, hobject⟩ := h
  intro other hother
  rw [hobj] at hother
  cases hother
  rw [hobject]
  nofun

def Refused (Kept : TeeResult → AesCipher Op Obj → Prop) (error : Error)
    (frame : Frame (AesCipher Op Obj)) : Prop :=
  error.rawCode ≠ teeSuccess ∧ Kept error.rawCode frame.context

theorem refused_badParameters {Kept : TeeResult → AesCipher Op Obj → Prop}
    {frame : Frame (AesCipher Op Obj)}
    (h : Kept ErrorKind.badParameters.intoPrimitive frame.context) :
    Refused Kept (Error.new .badParameters) frame := ⟨by decide, h⟩

theorem check_ends {code : TeeResult} {frame : Frame (AesCipher Op Obj)}
    {Kept : TeeResult → AesCipher Op Obj → Prop}
    {Killed : Frame (AesCipher Op Obj) → Prop}
    (hkept : code ≠ teeSuccess → Kept code frame.context) :
    Ends (check code) frame (fun _ next => next = frame ∧ code = teeSuccess)
      (Refused Kept) Killed := by
  refine Ends.ofExcept ?_ ?_
  · intro _ hok
    unfold teeCheck at hok
    split_ifs at hok with hcode
    exact ⟨rfl, hcode⟩
  · intro error herror
    unfold teeCheck at herror
    split_ifs at herror with hcode
    obtain rfl := Except.error.inj herror
    rw [Refused, Error.rawCode_fromRawError]
    exact ⟨hcode, hkept hcode⟩

theorem survive_ends {α : Type} {answer : Option α}
    {frame : Frame (AesCipher Op Obj)}
    {Failed : Error → Frame (AesCipher Op Obj) → Prop}
    {Killed : Frame (AesCipher Op Obj) → Prop}
    (hkilled : answer = none → Killed frame) :
    Ends (survive answer) frame
      (fun value next => next = frame ∧ answer = some value) Failed Killed := by
  cases answer with
  | none => exact Ends.kill (hkilled rfl)
  | some value => exact Ends.pure ⟨rfl, rfl⟩

theorem argument_ends {α : Type} {frame : Frame (AesCipher Op Obj)}
    {result : Except Error α} {Kept : TeeResult → AesCipher Op Obj → Prop}
    {Killed : Frame (AesCipher Op Obj) → Prop}
    (h : ∀ error, result = .error error → error = Error.new .badParameters)
    (hkept : result.toOption = none →
      Kept ErrorKind.badParameters.intoPrimitive frame.context) :
    Ends (Fallible.ofExcept result) frame
      (fun value next => next = frame ∧ result = .ok value)
      (Refused Kept) Killed := by
  refine Ends.ofExcept (fun value hvalue => ⟨rfl, hvalue⟩) ?_
  intro error herror
  rw [h error herror]
  exact refused_badParameters (hkept (by rw [herror]; rfl))

theorem arguments_refused :
    (∀ keySz error, ta2teeKeySize keySz = .error error →
      error = Error.new .badParameters) ∧
    (∀ algoId error, ta2teeAlgoId algoId = .error error →
      error = Error.new .badParameters) ∧
    ∀ mode error, ta2teeModeId mode = .error error →
      error = Error.new .badParameters := by
  refine ⟨?_, ?_, ?_⟩ <;> intro argument error h
  · unfold ta2teeKeySize at h
    split_ifs at h
    exact (Except.error.inj h).symm
  · unfold ta2teeAlgoId at h
    split_ifs at h
    exact (Except.error.inj h).symm
  · unfold ta2teeModeId at h
    split_ifs at h
    exact (Except.error.inj h).symm

def Grants (tee : Tee Env Op Obj) (env : Env) (config : Config) : Prop :=
  tee.isAlgorithmSupported env config.algorithm = teeSuccess ∧
    (tee.allocateOperation env config.algorithm config.mode
      (config.keySize * 8)).1 = teeSuccess

/-- What `allocResources` does once it has been granted an operation. -/
def assignResources (tee : Tee Env Op Obj) (debugAssertions : Bool)
    (env : Env) (config : Config) : AesM Op Obj Unit := do
  let operation := (tee.allocateOperation env config.algorithm config.mode
    (config.keySize * 8)).2
  Cipher.drop tee env debugAssertions (← get).context.cipher
  alter fun aes => { aes with cipher := some operation }
  let (code, object) := tee.allocateTransientObject env (config.keySize * 8)
  check code
  TransientObject.drop tee env (← get).context.keyObject
  alter fun aes => { aes with keyObject := some object }
  populate tee env (List.replicate config.keySize 0)
  Cipher.setKey tee env

theorem allocResources_of_assign {env : Env} {debugAssertions : Bool}
    {frame : Frame (AesCipher Op Obj)}
    {Done : Unit → Frame (AesCipher Op Obj) → Prop}
    {Kept : TeeResult → AesCipher Op Obj → Prop}
    {Killed : Frame (AesCipher Op Obj) → Prop}
    (hrefused : ∀ code after, after.cipher = frame.context.cipher →
      after.keyObject = frame.context.keyObject →
      (∀ config ∈ configOf frame.slots, ¬ Grants tee env config) →
        Kept code after)
    (hgranted : ∀ config, configOf frame.slots = some config →
      Grants tee env config →
        Ends (assignResources tee debugAssertions env config)
          ⟨{ frame.context with keySize := config.keySize }, frame.slots⟩ Done
          (Refused Kept) Killed) :
    Ends (allocResources tee debugAssertions env) frame Done (Refused Kept)
      Killed := by
  obtain ⟨aes, slots⟩ := frame
  dsimp only at hrefused hgranted
  have hnone : ∀ code after, after.cipher = aes.cipher →
      after.keyObject = aes.keyObject → configOf slots = none →
        Kept code after := by
    intro code after hcipher hkeyObject h
    refine hrefused code after hcipher hkeyObject fun config hconfig => ?_
    rw [h] at hconfig
    cases hconfig
  obtain ⟨hkeySizes, halgorithms, hmodes⟩ := arguments_refused
  refine (valueInput_ends .arg0 fun hbad => refused_badParameters
    (hnone _ _ rfl rfl (configOf_of_untyped (by decide) hbad))).bind ?_
  rintro algoValue _ ⟨rfl, halgo⟩
  refine (valueInput_ends .arg1 fun hbad => refused_badParameters
    (hnone _ _ rfl rfl (configOf_of_untyped (by decide) hbad))).bind ?_
  rintro keySizeValue _ ⟨rfl, hkeySizeValue⟩
  refine (valueInput_ends .arg2 fun hbad => refused_badParameters
    (hnone _ _ rfl rfl (configOf_of_untyped (by decide) hbad))).bind ?_
  rintro modeIdValue _ ⟨rfl, hmodeId⟩
  have hconfigOf := configOf_of_typed halgo hkeySizeValue hmodeId
  refine (argument_ends (hkeySizes _) fun hbad =>
    hnone _ _ rfl rfl (by simp [hconfigOf, hbad])).bind ?_
  rintro keySize _ ⟨rfl, hkeySize⟩
  rw [hkeySize] at hconfigOf
  refine Ends.modify_bind ?_
  refine (argument_ends (halgorithms _) fun hbad =>
    hnone _ _ rfl rfl (by simp [hconfigOf, hbad])).bind ?_
  rintro algorithm _ ⟨rfl, halgorithm⟩
  rw [halgorithm] at hconfigOf
  refine (check_ends fun hcode => hrefused _ _ rfl rfl ?_).bind ?_
  · rintro config hconfig ⟨hsupported, -⟩
    rw [hconfigOf] at hconfig
    obtain ⟨mode, -, hmode⟩ : ∃ mode,
        (ta2teeModeId modeIdValue.1).toOption = some mode ∧
          some ⟨algorithm, mode, keySize⟩ = some config :=
      Option.bind_eq_some_iff.mp hconfig
    cases hmode
    exact hcode hsupported
  rintro _ _ ⟨rfl, hsupported⟩
  refine (argument_ends (hmodes _) fun hbad =>
    hnone _ _ rfl rfl (by simp [hconfigOf, hbad])).bind ?_
  rintro mode _ ⟨rfl, hmode⟩
  have hconfig : configOf slots = some ⟨algorithm, mode, keySize⟩ := by
    rw [hconfigOf, hmode]
    rfl
  refine (check_ends fun hcode => hrefused _ _ rfl rfl ?_).bind ?_
  · rintro config hother ⟨-, hallocated⟩
    rw [hconfig] at hother
    cases hother
    exact hcode hallocated
  rintro _ _ ⟨rfl, hallocated⟩
  have hassign := hgranted _ hconfig ⟨hsupported, hallocated⟩
  unfold assignResources at hassign
  exact hassign

variable (hlawful : tee.Lawful algorithms reading)

include hlawful

theorem reset_ends {env : Env} {aes : AesCipher Op Obj}
    {slots : ParamIndex → Slot} {config : Config}
    {key value : Option (List UInt8)} {progress : Option Progress}
    {Failed : Error → Frame (AesCipher Op Obj) → Prop}
    {Killed : Frame (AesCipher Op Obj) → Prop}
    (h : Fitted reading config key progress value aes) :
    Ends (reset tee env) ⟨aes, slots⟩
      (fun _ next => Fitted reading config key progress none next.context)
      Failed Killed := by
  obtain ⟨hkeySize, hcipher, obj, hobj, hobject⟩ := h
  obtain ⟨fresh, hcall, hfresh⟩ := hlawful.resetTransientObject env hobject
  refine Ends.get_bind ?_
  simp only [hobj]
  refine (survive_ends (by simp [hcall])).bind ?_
  rintro _ _ ⟨rfl, hanswer⟩
  rw [hcall] at hanswer
  cases hanswer
  exact Ends.modified ⟨hkeySize, hcipher, fresh, rfl, hfresh⟩

theorem populate_ends {env : Env} {aes : AesCipher Op Obj}
    {slots : ParamIndex → Slot} {config : Config} {key : Option (List UInt8)}
    {value : List UInt8} {Killed : Frame (AesCipher Op Obj) → Prop}
    (h : Fitted reading config key none none aes)
    (hvalue : value.length = config.keySize) :
    Ends (populate tee env value) ⟨aes, slots⟩
      (fun _ next => Fitted reading config key none (some value) next.context)
      (Refused fun _ after => Fitted reading config key none none after)
      Killed := by
  obtain ⟨hkeySize, hcipher, obj, hobj, hobject⟩ := h
  obtain ⟨code, after, hcall, hafter⟩ :=
    hlawful.populateTransientObject env value hobject (by rw [hvalue])
  refine Ends.get_bind ?_
  simp only [hobj]
  refine (survive_ends (by simp [hcall])).bind ?_
  rintro _ _ ⟨rfl, hanswer⟩
  rw [hcall] at hanswer
  cases hanswer
  refine Ends.modify_bind ?_
  refine (check_ends fun hcode => ?_).mono ?_ (fun _ _ h => h) fun _ h => h
  · rw [if_neg hcode] at hafter
    exact ⟨hkeySize, hcipher, after, rfl, hafter⟩
  · rintro _ _ ⟨rfl, hcode⟩
    rw [if_pos hcode] at hafter
    exact ⟨hkeySize, hcipher, after, rfl, hafter⟩

theorem setKey_ends {env : Env} {frame : Frame (AesCipher Op Obj)}
    {config : Config} {key : Option (List UInt8)} {value : List UInt8}
    {Killed : Frame (AesCipher Op Obj) → Prop}
    (h : Fitted reading config key none (some value) frame.context)
    (hvalue : value.length = config.keySize) :
    Ends (Cipher.setKey tee env) frame
      (fun _ next => Ready reading config (some value) none next.context)
      (Refused fun code after => code ≠ corruptObject →
        ∃ key, Ready reading config key none after) Killed := by
  obtain ⟨hkeySize, ⟨op, hop, hoperation⟩, obj, hobj, hobject⟩ := h
  obtain ⟨code, next, kept, hcall, ⟨programmed, hnext, hkey⟩, hkept⟩ :=
    hlawful.setOperationKey env (by rw [hoperation]) hobject
      (by rw [hoperation, hvalue])
  rw [hoperation] at hnext
  rw [hobject] at hkept
  refine Ends.get_bind ?_
  simp only [hop, hobj]
  refine (survive_ends (by simp [hcall])).bind ?_
  rintro _ _ ⟨rfl, hanswer⟩
  rw [hcall] at hanswer
  cases hanswer
  refine Ends.modify_bind ?_
  refine (check_ends fun _ hcorrupt => ?_).mono ?_ (fun _ _ h => h) fun _ h => h
  · exact ⟨programmed, _, hkeySize, ⟨next, rfl, hnext⟩, kept, rfl,
      hkept hcorrupt⟩
  · rintro _ _ ⟨rfl, hcode⟩
    dsimp only at hcode
    obtain rfl := hkey hcode
    refine ⟨_, hkeySize, ⟨next, rfl, hnext⟩, kept, rfl, hkept ?_⟩
    rw [hcode]
    decide

theorem program_ends {env : Env} {aes : AesCipher Op Obj}
    {slots : ParamIndex → Slot} {config : Config} {key : Option (List UInt8)}
    {value : List UInt8} {Killed : Frame (AesCipher Op Obj) → Prop}
    (h : Fitted reading config key none none aes)
    (hvalue : value.length = config.keySize) :
    Ends (do populate tee env value; Cipher.setKey tee env) ⟨aes, slots⟩
      (fun _ next => Ready reading config (some value) none next.context)
      (Refused fun code after => code ≠ corruptObject →
        ∃ key, Ready reading config key none after) Killed := by
  refine ((populate_ends hlawful h hvalue).mono (fun _ _ h => h) ?_
    fun _ h => h).bind fun _ _ hfitted => setKey_ends hlawful hfitted hvalue
  rintro error next ⟨hcode, hkept⟩
  exact ⟨hcode, fun _ => ⟨key, none, hkept⟩⟩

theorem dropCipher_ends {env : Env} (debugAssertions : Bool)
    {frame : Frame (AesCipher Op Obj)}
    {Failed : Error → Frame (AesCipher Op Obj) → Prop}
    {Killed : Frame (AesCipher Op Obj) → Prop}
    (hkilled : debugAssertions = true → frame.context.cipher = none →
      Killed frame) :
    Ends (Cipher.drop tee env debugAssertions frame.context.cipher) frame
      (fun _ next => next = frame) Failed Killed := by
  cases hcipher : frame.context.cipher with
  | none =>
      rw [Cipher.drop]
      split_ifs with hdebug
      · exact Ends.kill (hkilled hdebug hcipher)
      · exact Ends.pure rfl
  | some op =>
      refine (survive_ends (by simp [hlawful.freeOperation])).mono ?_
        (fun _ _ h => h) fun _ h => h
      rintro _ _ ⟨rfl, -⟩
      rfl

theorem dropKeyObject_ends {env : Env} {frame : Frame (AesCipher Op Obj)}
    {Failed : Error → Frame (AesCipher Op Obj) → Prop}
    {Killed : Frame (AesCipher Op Obj) → Prop}
    (hkilled : ¬ KeyOpen reading frame.context → Killed frame) :
    Ends (TransientObject.drop tee env frame.context.keyObject) frame
      (fun _ next => next = frame) Failed Killed := by
  cases hobj : frame.context.keyObject with
  | none => exact Ends.pure rfl
  | some obj =>
      refine (survive_ends fun hcall => hkilled fun hopen => ?_).mono ?_
        (fun _ _ h => h) fun _ h => h
      · rw [hlawful.closeObject env (hopen obj hobj)] at hcall
        cases hcall
      · rintro _ _ ⟨rfl, -⟩
        rfl

theorem assignResources_ends {env : Env} (debugAssertions : Bool)
    {config : Config} {aes : AesCipher Op Obj} {slots : ParamIndex → Slot}
    (hkeySize : aes.keySize = config.keySize)
    (hgrants : Grants tee env config) :
    Ends (assignResources tee debugAssertions env config) ⟨aes, slots⟩
      (fun _ next => Ready reading config
        (some (List.replicate config.keySize 0)) none next.context)
      (Refused fun code after => KeyOpen reading aes →
        code ≠ corruptObject → KeyOpen reading after)
      (fun _ => KeyOpen reading aes → debugAssertions = true) := by
  have hoperation := hlawful.allocateOperation env _ _ _ hgrants.2
  refine Ends.get_bind ((dropCipher_ends hlawful debugAssertions
    fun hdebug _ _ => hdebug).bind ?_)
  rintro _ _ rfl
  refine Ends.modify_bind ?_
  refine (check_ends fun _ hopen _ => hopen).bind ?_
  rintro _ _ ⟨rfl, hmade⟩
  have hobject := hlawful.allocateTransientObject env _ hmade
  refine Ends.get_bind ((dropKeyObject_ends hlawful
    fun hclosed hopen => absurd hopen hclosed).bind ?_)
  rintro _ _ rfl
  refine Ends.modify_bind ?_
  have hfitted : Fitted reading config none none none
      (.mk aes.keySize
        (some (tee.allocateOperation env config.algorithm config.mode
          (config.keySize * 8)).2)
        (some (tee.allocateTransientObject env (config.keySize * 8)).2)) :=
    ⟨hkeySize, ⟨_, rfl, hoperation⟩, _, rfl, hobject⟩
  refine (program_ends hlawful hfitted List.length_replicate).mono
    (fun _ _ h => h) ?_ fun _ h => h
  rintro error next ⟨hcode, hkept⟩
  refine ⟨hcode, fun _ hcorrupt => ?_⟩
  obtain ⟨key, hready⟩ := hkept hcorrupt
  exact hready.keyOpen

theorem allocResources_ends {env : Env} (debugAssertions : Bool)
    (frame : Frame (AesCipher Op Obj)) :
    Ends (allocResources tee debugAssertions env) frame
      (fun _ next => ∃ config, configOf frame.slots = some config ∧
        Ready reading config (some (List.replicate config.keySize 0)) none
          next.context)
      (Refused fun code after => KeyOpen reading frame.context →
        code ≠ corruptObject → KeyOpen reading after)
      (fun _ => KeyOpen reading frame.context → debugAssertions = true) := by
  refine allocResources_of_assign ?_ ?_
  · intro _ after _ hkeyObject _ hopen _ obj hobj
    rw [hkeyObject] at hobj
    exact hopen obj hobj
  · intro config hconfig hgrants
    exact (assignResources_ends hlawful debugAssertions rfl hgrants).mono
      (fun _ _ hready => ⟨config, hconfig, hready⟩) (fun _ _ h => h)
      fun _ h => h

theorem setAesKey_ends {env : Env} {frame : Frame (AesCipher Op Obj)}
    {config : Config} {key : Option (List UInt8)}
    {Killed : Frame (AesCipher Op Obj) → Prop}
    (h : Ready reading config key none frame.context) :
    Ends (setAesKey tee env) frame
      (fun _ next => ∃ value, inputOf (frame.slots .arg0) = some value ∧
        Ready reading config (some value) none next.context)
      (Refused fun code after =>
        (config.passes frame.slots = false →
          Ready reading config key none after) ∧
        (code ≠ corruptObject → ∃ key, Ready reading config key none after))
      Killed := by
  obtain ⟨aes, slots⟩ := frame
  refine (memrefInput_ends .arg0
    (refused_badParameters ⟨fun _ => h, fun _ => ⟨key, h⟩⟩)).bind ?_
  rintro input _ ⟨rfl, hinput⟩
  dsimp only at hinput
  refine Ends.get_bind ?_
  split_ifs with hlength
  · exact Ends.fail (refused_badParameters ⟨fun _ => h, fun _ => ⟨key, h⟩⟩)
  · obtain ⟨value, hfitted⟩ := h
    rw [not_not, hfitted.keySize] at hlength
    have hpasses : config.passes slots = true := by
      simp [Config.passes, hinput, hlength]
    refine (reset_ends hlawful hfitted).bind ?_
    intro _ _ hreset
    refine (program_ends hlawful hreset hlength).mono ?_ ?_ fun _ h => h
    · intro _ next hready
      exact ⟨input, hinput, hready⟩
    · rintro error next ⟨hcode, hkept⟩
      refine ⟨hcode, fun hrefused => ?_, hkept⟩
      rw [hpasses] at hrefused
      cases hrefused

omit hlawful in
theorem resetAesIv_refused {env : Env} (frame : Frame (AesCipher Op Obj)) :
    Ends (resetAesIv tee env) frame (fun _ _ => True)
      (Refused fun _ after => after = frame.context) (fun _ => True) := by
  refine (memrefInput_ends .arg0 (refused_badParameters rfl)).bind ?_
  rintro iv _ ⟨rfl, -⟩
  refine Ends.get_bind ?_
  split
  · exact Ends.kill trivial
  · refine (survive_ends fun _ => trivial).bind ?_
    rintro _ _ ⟨rfl, -⟩
    exact Ends.modified trivial

theorem resetAesIv_ends {env : Env} {frame : Frame (AesCipher Op Obj)}
    {config : Config} {key : List UInt8} {progress : Option Progress}
    (h : Ready reading config (some key) progress frame.context) :
    Ends (resetAesIv tee env) frame
      (fun _ next => ∃ iv, inputOf (frame.slots .arg0) = some iv ∧
        Ready reading config (some key) (some ⟨iv, []⟩) next.context)
      (Refused fun _ after => after = frame.context)
      (fun _ => ∃ iv ∈ inputOf (frame.slots .arg0),
        algorithms.acceptsIv config.algorithm iv = false) := by
  obtain ⟨aes, slots⟩ := frame
  obtain ⟨value, hkeySize, ⟨op, hop, hoperation⟩, hkeyObject⟩ := h
  refine (memrefInput_ends .arg0 (refused_badParameters rfl)).bind ?_
  rintro iv _ ⟨rfl, hiv⟩
  have hinit := hlawful.cipherInit env iv (by rw [hoperation])
  rw [hoperation] at hinit
  refine Ends.get_bind ?_
  dsimp only at hop
  simp only [hop]
  refine (survive_ends fun hcall => ?_).bind ?_
  · rw [hcall] at hinit
    exact ⟨iv, hiv, hinit⟩
  · rintro next _ ⟨rfl, hcall⟩
    rw [hcall] at hinit
    exact Ends.modified
      ⟨iv, hiv, value, hkeySize, ⟨next, rfl, hinit⟩, hkeyObject⟩

theorem update_ends {env : Env} {aes : AesCipher Op Obj}
    {slots : ParamIndex → Slot} {config : Config}
    {key iv fed : List UInt8} (src dest : List UInt8)
    {Killed : Frame (AesCipher Op Obj) → Prop}
    (h : Ready reading config (some key) (some ⟨iv, fed⟩) aes) :
    Ends (Cipher.update tee env src dest) ⟨aes, slots⟩
      (fun result next => next.slots = slots ∧
        Ready reading config (some key) (some ⟨iv, fed ++ src⟩) next.context ∧
        algorithms.output config.algorithm config.mode key iv fed ++
            result.2.take result.1 =
          algorithms.output config.algorithm config.mode key iv
            (fed ++ src) ∧
        (result.2.take result.1).length ≤ dest.length)
      (Refused fun _ after =>
        Ready reading config (some key) (some ⟨iv, fed⟩) after) Killed := by
  obtain ⟨value, hkeySize, ⟨op, hop, hoperation⟩, hkeyObject⟩ := h
  obtain ⟨code, piece, next, hcall, hnext⟩ :=
    hlawful.cipherUpdate env src dest.length (by rw [hoperation])
      (by rw [hoperation])
  rw [hoperation] at hnext
  have htake : (overlay dest 0 piece).take piece.length = piece := by
    simp [overlay]
  refine Ends.get_bind ?_
  simp only [hop]
  refine (survive_ends (by simp [hcall])).bind ?_
  rintro _ _ ⟨rfl, hanswer⟩
  rw [hcall] at hanswer
  cases hanswer
  refine Ends.modify_bind ?_
  refine (check_ends fun hcode => ?_).bind ?_
  · rw [if_neg hcode] at hnext
    exact ⟨value, hkeySize, ⟨next, rfl, hnext⟩, hkeyObject⟩
  · rintro _ _ ⟨rfl, hcode⟩
    rw [if_pos hcode] at hnext
    obtain ⟨hroom, hnext, houtput⟩ := hnext
    refine Ends.pure ⟨rfl, ⟨value, hkeySize, ⟨next, rfl, hnext⟩,
      hkeyObject⟩, ?_, ?_⟩
    · rw [htake]
      exact houtput
    · rw [htake]
      exact hroom

theorem cipherBuffer_ends {env : Env} {frame : Frame (AesCipher Op Obj)}
    {config : Config} {key iv fed : List UInt8}
    {Killed : Frame (AesCipher Op Obj) → Prop}
    (h : Ready reading config (some key) (some ⟨iv, fed⟩) frame.context) :
    Ends (cipherBuffer tee env) frame
      (fun _ next => ∃ src, inputOf (frame.slots .arg0) = some src ∧
        Ready reading config (some key) (some ⟨iv, fed ++ src⟩) next.context ∧
        algorithms.output config.algorithm config.mode key iv fed ++
            updatedBytes (next.slots .arg1) =
          algorithms.output config.algorithm config.mode key iv (fed ++ src))
      (Refused fun _ after =>
        Ready reading config (some key) (some ⟨iv, fed⟩) after) Killed := by
  obtain ⟨aes, slots⟩ := frame
  refine (memrefInput_ends .arg0 (refused_badParameters h)).bind ?_
  rintro src _ ⟨rfl, hsrc⟩
  refine (memrefOutput_ends .arg1 (refused_badParameters h)).bind ?_
  rintro bufferLen _ ⟨rfl, hcapacity⟩
  split_ifs with hshort
  · exact Ends.fail (refused_badParameters h)
  · refine (update_ends hlawful src (List.replicate bufferLen 0) h).bind ?_
    rintro ⟨tmpSize, outBuf⟩ ⟨after, _⟩ ⟨rfl, hready, hpiece, hlength⟩
    rw [List.length_replicate] at hlength
    refine (setOutput_ends .arg1 hcapacity hlength).mono ?_ (fun _ _ h => h)
      fun _ h => h
    rintro _ _ rfl
    refine ⟨src, hsrc, hready, ?_⟩
    dsimp only at hcapacity hpiece ⊢
    rw [Function.update_self, updatedBytes_filled (by simp [hcapacity]),
      hpiece]

end Endings

end TrustZoneSdk.TrustedApps.Aes
