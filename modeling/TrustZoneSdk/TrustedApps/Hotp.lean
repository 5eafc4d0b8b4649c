import Mathlib.Data.Option.Basic
import Mathlib.Tactic.Ring
import TrustZoneSdk.Foundation.ByteCounter
import TrustZoneSdk.Foundation.Dialogue
import TrustZoneSdk.TrustedApps.Command

/-!
# One-time passwords

A session keeps a shared key and an eight-byte counter, and each computed
password takes the counter one step on.  The specification is the generator
of RFC 4226: a key, and how many passwords it has given out.
-/

namespace TrustZoneSdk.TrustedApps.Hotp

open TrustZoneSdk.Foundation
open TrustZoneSdk.Utee

def sha1HashSize : Nat := 20

def maxKeySize : Nat := 64

def minKeySize : Nat := 10

def dbc2Modulo : UInt32 := 1000000

inductive Command where
  | registerSharedKey
  | getHotp
  | unknown
  deriving DecidableEq, Repr

def Command.fromPrimitive (cmdId : UInt32) : Command :=
  if cmdId = 0 then registerSharedKey
  else if cmdId = 1 then getHotp
  else unknown

structure HmacOtp where
  counter : List UInt8
  key : List UInt8
  keyLen : Nat
  counter_length : counter.length = 8
  key_length : key.length = maxKeySize

def HmacOtp.default : HmacOtp where
  counter := List.replicate 8 0
  key := List.replicate maxKeySize 0
  keyLen := 0
  counter_length := rfl
  key_length := List.length_replicate

structure Hmac where
  tag : List UInt8 → List UInt8 → List UInt8
  length_tag : ∀ key message, (tag key message).length = sha1HashSize

/-- The TEE calls of one computation, each with its error if it fails. -/
structure MacCalls where
  allocateOperation : Option Error
  allocateObject : Option Error
  populate : Option Error
  setKey : Option Error
  computeFinal : Option Error

def check {C : Type} : Option Error → CommandM C Unit
  | none => pure ()
  | some error => Fallible.fail error

/-! ## The commands -/

section Commands

def HmacOtp.withKey (hotp : HmacOtp) (buffer : List UInt8)
    (h : buffer.length ≤ maxKeySize) : HmacOtp :=
  { hotp with
    keyLen := buffer.length
    key := overlay hotp.key 0 buffer
    key_length := by
      rw [length_overlay (by rw [hotp.key_length]; omega), hotp.key_length] }

def registerSharedKey : CommandM HmacOtp Unit := do
  let buffer ← memrefInput .arg0
  if h : buffer.length < minKeySize ∨ buffer.length > maxKeySize then refuse
  else modify fun frame =>
    { frame with context := frame.context.withKey buffer (by omega) }

variable (hmac : Hmac) (overflowChecks : Bool) (calls : MacCalls)

def hmacSha1 : CommandM HmacOtp (List UInt8) := do
  let hotp := (← get).context
  if hotp.keyLen < minKeySize ∨ hotp.keyLen > maxKeySize then refuse
  else do
    check calls.allocateOperation
    check calls.allocateObject
    let tmpKey := hotp.key.take hotp.keyLen
    check calls.populate
    check calls.setKey
    check calls.computeFinal
    return overlay (List.replicate sha1HashSize 0) 0
      (hmac.tag tmpKey hotp.counter)

def truncate (hmacResult : List UInt8) : Option UInt32 := do
  -- An index beyond the end panics.
  let last ← hmacResult[19]?
  let offset := (last &&& 0xf).toNat
  let first ← hmacResult[offset]?
  let second ← hmacResult[offset + 1]?
  let third ← hmacResult[offset + 2]?
  let fourth ← hmacResult[offset + 3]?
  let binCode := (first &&& 0x7f).toUInt32 <<< 24 ||| second.toUInt32 <<< 16 |||
    third.toUInt32 <<< 8 ||| fourth.toUInt32
  return binCode % dbc2Modulo

def HmacOtp.increaseCounter (hotp : HmacOtp) : Option HmacOtp :=
  match h : increase overflowChecks hotp.counter with
  | none => none
  | some counter => some { hotp with
      counter
      counter_length := by rw [length_increase h, hotp.counter_length] }

def orPanic {C α : Type} : Option α → CommandM C α
  -- A panic leaves nothing behind, so `none` ends the command.
  | none => Fallible.kill
  | some value => pure value

def getHotp : CommandM HmacOtp Unit := do
  let mac ← hmacSha1 hmac calls
  let hotp ← orPanic ((← get).context.increaseCounter overflowChecks)
  modify fun frame => { frame with context := hotp }
  let hotpVal ← orPanic (truncate mac)
  setValueA .arg0 hotpVal.toBitVec

def invokeCommand (cmdId : UInt32) : CommandM HmacOtp Unit :=
  match Command.fromPrimitive cmdId with
  | .registerSharedKey => registerSharedKey
  | .getHotp => getHotp hmac overflowChecks calls
  | .unknown => refuse

end Commands

/-! ## The generator of RFC 4226 -/

structure Generator where
  key : Option (List UInt8)
  generated : Nat

section Specification

variable (hmac : Hmac)

def dynamicTruncation (tag : List UInt8) : Nat :=
  decodeBe ((tag.drop ((tag.getD 19 0).toNat % 16)).take 4) % 2 ^ 31

def otp (key : List UInt8) (count : Nat) : Nat :=
  dynamicTruncation (hmac.tag key (encodeBe 8 count)) % 1000000

def MacCalls.refusal (calls : MacCalls) : Option Error :=
  calls.allocateOperation <|> calls.allocateObject <|> calls.populate <|>
    calls.setKey <|> calls.computeFinal

variable (calls : MacCalls)

/-- A TA built with overflow checks is dead after this many passwords. -/
def lifetime (overflowChecks : Bool) : Option Nat :=
  if overflowChecks then some 255 else none

def Generator.fresh : Generator := ⟨none, 0⟩

def refused (slots : ParamIndex → Slot) (generator : Generator) :
    CommandReply × Option Generator :=
  (⟨(Error.new .badParameters).rawCode, slots⟩, some generator)

def Generator.register (slots : ParamIndex → Slot) (generator : Generator) :
    CommandReply × Option Generator :=
  match inputOf (slots .arg0) with
  | none => refused slots generator
  | some key =>
      if key.length < minKeySize ∨ key.length > maxKeySize then
        refused slots generator
      else (⟨teeSuccess, slots⟩, some { generator with key := some key })

def Generator.generate (lifetime : Option Nat) (slots : ParamIndex → Slot)
    (generator : Generator) : CommandReply × Option Generator :=
  match generator.key, calls.refusal with
  | none, _ => refused slots generator
  | some _, some error => (⟨error.rawCode, slots⟩, some generator)
  | some key, none =>
      if lifetime = some generator.generated then
        (⟨ErrorKind.targetDead.intoPrimitive, slots⟩, none)
      else
        let next := { generator with generated := generator.generated + 1 }
        match withA (BitVec.ofNat 32
            (otp hmac key (generator.generated % 2 ^ 64))) (slots .arg0) with
        -- A password that the host left no place for is spent all the same.
        | none => refused slots next
        | some slot =>
            (⟨teeSuccess, Function.update slots .arg0 slot⟩, some next)

def Generator.serve (lifetime : Option Nat)
    (request : CommandRequest MacCalls) :
    Option Generator → CommandReply × Option Generator
  | none => (⟨ErrorKind.targetDead.intoPrimitive, request.slots⟩, none)
  | some generator =>
      match Command.fromPrimitive request.cmdId with
      | .registerSharedKey => generator.register request.slots
      | .getHotp => generator.generate hmac request.tee lifetime request.slots
      | .unknown => refused request.slots generator

end Specification

/-! ## Dynamic truncation -/

theorem or_of_lt {high low : Nat} (bits : Nat) (h : low < 2 ^ bits) :
    high * 2 ^ bits ||| low = high * 2 ^ bits + low := by
  rw [← Nat.shiftLeft_eq, Nat.shiftLeft_add_eq_or_of_lt h]

theorem toNat_shiftLeft_byte (byte : UInt8) {places : UInt32}
    (h : places.toNat ≤ 24) :
    (byte.toUInt32 <<< places).toNat = byte.toNat * 2 ^ places.toNat := by
  have hbyte : byte.toNat < 2 ^ 8 := byte.toNat_lt
  have hplaces : places.toNat % 32 = places.toNat := by omega
  have hfits : byte.toNat * 2 ^ places.toNat < 2 ^ 32 :=
    calc byte.toNat * 2 ^ places.toNat
      _ < 2 ^ 8 * 2 ^ places.toNat :=
          Nat.mul_lt_mul_of_pos_right hbyte (Nat.two_pow_pos _)
      _ = 2 ^ (8 + places.toNat) := (Nat.pow_add 2 8 _).symm
      _ ≤ 2 ^ 32 := Nat.pow_le_pow_right (by decide) (by omega)
  rw [UInt32.toNat_shiftLeft, UInt8.toNat_toUInt32, hplaces, Nat.shiftLeft_eq,
    Nat.mod_eq_of_lt hfits]

theorem join_bytes {first second third fourth : Nat} (hsecond : second < 256)
    (hthird : third < 256) (hfourth : fourth < 256) :
    first * 2 ^ 24 ||| second * 2 ^ 16 ||| third * 2 ^ 8 ||| fourth =
      first * 2 ^ 24 + second * 2 ^ 16 + third * 2 ^ 8 + fourth := by
  have hhigh : first * 2 ^ 24 + second * 2 ^ 16 =
      (first * 2 ^ 8 + second) * 2 ^ 16 := by ring
  have hmiddle : first * 2 ^ 24 + second * 2 ^ 16 + third * 2 ^ 8 =
      (first * 2 ^ 16 + second * 2 ^ 8 + third) * 2 ^ 8 := by ring
  rw [or_of_lt 24 (by omega), hhigh, or_of_lt 16 (by omega), ← hhigh, hmiddle,
    or_of_lt 8 (by omega)]

theorem toNat_binCode (first second third fourth : UInt8) :
    ((first &&& 0x7f).toUInt32 <<< 24 ||| second.toUInt32 <<< 16 |||
      third.toUInt32 <<< 8 ||| fourth.toUInt32).toNat =
      decodeBe [first, second, third, fourth] % 2 ^ 31 := by
  have hsign : (first &&& 0x7f).toNat = first.toNat % 128 := by
    rw [UInt8.toNat_and]
    exact Nat.and_two_pow_sub_one_eq_mod _ 7
  have hsecond : second.toNat < 256 := second.toNat_lt
  have hthird : third.toNat < 256 := third.toNat_lt
  have hfourth : fourth.toNat < 256 := fourth.toNat_lt
  simp only [UInt32.toNat_or, UInt8.toNat_toUInt32,
    toNat_shiftLeft_byte _ (by decide : (24 : UInt32).toNat ≤ 24),
    toNat_shiftLeft_byte _ (by decide : (16 : UInt32).toNat ≤ 24),
    toNat_shiftLeft_byte _ (by decide : (8 : UInt32).toNat ≤ 24), hsign]
  refine (join_bytes hsecond hthird hfourth).trans ?_
  simp only [decodeBe, decodeLe, List.reverse_cons, List.reverse_nil,
    List.nil_append, List.cons_append]
  omega

theorem drop_take_four (tag : List UInt8) (offset : Nat)
    (h : offset + 4 ≤ tag.length) :
    ∃ first second third fourth,
      (tag.drop offset).take 4 = [first, second, third, fourth] ∧
      tag[offset]? = some first ∧ tag[offset + 1]? = some second ∧
      tag[offset + 2]? = some third ∧ tag[offset + 3]? = some fourth := by
  refine ⟨tag[offset], tag[offset + 1], tag[offset + 2], tag[offset + 3],
    ?_, by simp, by simp, by simp, by simp⟩
  rw [List.drop_eq_getElem_cons (by omega),
    List.drop_eq_getElem_cons (by omega), List.drop_eq_getElem_cons (by omega),
    List.drop_eq_getElem_cons (by omega)]
  rfl

theorem truncate_tag {tag : List UInt8} (h : tag.length = sha1HashSize) :
    truncate tag = some (UInt32.ofNat (dynamicTruncation tag % 1000000)) := by
  have hlength : tag.length = 20 := h
  have hlast : tag[19]? = some (tag.getD 19 0) := by
    simp [hlength]
  have hoffset : (tag.getD 19 0 &&& 0xf).toNat =
      (tag.getD 19 0).toNat % 16 := by
    rw [UInt8.toNat_and]
    exact Nat.and_two_pow_sub_one_eq_mod _ 4
  have hrange : (tag.getD 19 0).toNat % 16 < 16 := Nat.mod_lt _ (by decide)
  obtain ⟨first, second, third, fourth, hbytes, hfirst, hsecond, hthird,
    hfourth⟩ :=
      drop_take_four tag ((tag.getD 19 0).toNat % 16) (by omega)
  simp only [truncate, hlast, hoffset, hfirst, hsecond, hthird, hfourth,
    Option.bind_eq_bind, Option.bind_some, Option.pure_def, Option.some.injEq,
    dynamicTruncation, hbytes]
  apply UInt32.toNat_inj.mp
  have hmodulo : dbc2Modulo.toNat = 1000000 := rfl
  rw [UInt32.toNat_mod, toNat_binCode, UInt32.toNat_ofNat', hmodulo]
  omega

/-- The worked example of RFC 4226, section 5.4. -/
example : truncate [0x1f, 0x86, 0x98, 0x69, 0x0e, 0x02, 0xca, 0x16, 0x61, 0x85,
    0x50, 0xef, 0x7f, 0x19, 0xda, 0x8e, 0x94, 0x5b, 0x55, 0x5a] =
      some 872921 := by decide

/-! ## How the commands run -/

section Runs

variable (hmac : Hmac) (overflowChecks : Bool) (calls : MacCalls)

theorem run_checks (frame : Frame HmacOtp) (mac : List UInt8) :
    EStateM.run (do
      check calls.allocateOperation
      check calls.allocateObject
      check calls.populate
      check calls.setKey
      check calls.computeFinal
      return mac : CommandM HmacOtp (List UInt8)) frame =
      match calls.refusal with
      | some error => .error (.failed error) frame
      | none => .ok mac frame := by
  rcases calls with ⟨_ | _, _ | _, _ | _, _ | _, _ | _⟩ <;>
    simp [check, MacCalls.refusal]

theorem run_hmacSha1 (frame : Frame HmacOtp) :
    (hmacSha1 hmac calls).run frame =
      if frame.context.keyLen < minKeySize ∨
          frame.context.keyLen > maxKeySize then
        .error (.failed (Error.new .badParameters)) frame
      else
        match calls.refusal with
        | some error => .error (.failed error) frame
        | none => .ok (hmac.tag
            (frame.context.key.take frame.context.keyLen)
            frame.context.counter) frame := by
  have hwhole : ∀ key message, overlay (List.replicate sha1HashSize 0) 0
      (hmac.tag key message) = hmac.tag key message := by
    intro key message
    simp [overlay, hmac.length_tag, List.drop_replicate]
  have hchecks := run_checks calls frame (hmac.tag
    (frame.context.key.take frame.context.keyLen) frame.context.counter)
  by_cases hkey : frame.context.keyLen < minKeySize ∨
      frame.context.keyLen > maxKeySize
  · simp [hmacSha1, hkey]
  · simpa [hmacSha1, hkey, hwhole] using hchecks

theorem run_registerSharedKey (frame : Frame HmacOtp) :
    registerSharedKey.run frame =
      match inputOf (frame.slots .arg0) with
      | none => .error (.failed (Error.new .badParameters)) frame
      | some buffer =>
          if h : buffer.length < minKeySize ∨ buffer.length > maxKeySize then
            .error (.failed (Error.new .badParameters)) frame
          else .ok () { frame with
            context := frame.context.withKey buffer (by omega) } := by
  cases hinput : inputOf (frame.slots .arg0) with
  | none => simp [registerSharedKey, run_memrefInput, hinput]
  | some buffer =>
      by_cases hlength : buffer.length < minKeySize ∨
          buffer.length > maxKeySize
      · simp [registerSharedKey, run_memrefInput, hinput, hlength]
      · simp [registerSharedKey, run_memrefInput, hinput, hlength]

/-! ## Refinement -/

structure Models (overflowChecks : Bool) (hotp : HmacOtp)
    (generator : Generator) : Prop where
  counter : decodeBe hotp.counter = generator.generated % 2 ^ 64
  key : match generator.key with
    | none => hotp.keyLen < minKeySize
    | some key => minKeySize ≤ hotp.keyLen ∧ hotp.keyLen ≤ maxKeySize ∧
        hotp.key.take hotp.keyLen = key
  alive : overflowChecks = true → generator.generated ≤ 255

variable {hmac overflowChecks calls} {hotp : HmacOtp} {generator : Generator}

theorem Models.fresh :
    Models overflowChecks HmacOtp.default Generator.fresh where
  counter := by decide
  key := show HmacOtp.default.keyLen < minKeySize by decide
  alive := fun _ => Nat.zero_le _

theorem Models.counter_eq (h : Models overflowChecks hotp generator) :
    hotp.counter = encodeBe 8 (generator.generated % 2 ^ 64) := by
  rw [← h.counter, encodeBe_decodeBe hotp.counter_length]

theorem Models.withKey (h : Models overflowChecks hotp generator)
    {buffer : List UInt8} (hmin : minKeySize ≤ buffer.length)
    (hmax : buffer.length ≤ maxKeySize) :
    Models overflowChecks (hotp.withKey buffer hmax)
      { generator with key := some buffer } where
  counter := h.counter
  key := ⟨hmin, hmax, by simp [HmacOtp.withKey, overlay]⟩
  alive := h.alive

theorem increase_eq (overflowChecks : Bool) {counter : List UInt8}
    (h : counter ≠ []) :
    increase overflowChecks counter =
      if overflowChecks = true ∧ decodeBe counter % 256 = 255 then none
      else increase false counter := by
  cases overflowChecks with
  | false => simp
  | true => simp [increase_checked h]

theorem Models.lifetime_iff (h : Models overflowChecks hotp generator) :
    (overflowChecks = true ∧ decodeBe hotp.counter % 256 = 255) ↔
      lifetime overflowChecks = some generator.generated := by
  cases overflowChecks with
  | false => simp [lifetime]
  | true =>
      have halive := h.alive rfl
      have hcounter := h.counter
      simp only [lifetime, if_true, Option.some.injEq, true_and]
      omega

theorem Models.increaseCounter_dead (h : Models overflowChecks hotp generator)
    (hdead : lifetime overflowChecks = some generator.generated) :
    hotp.increaseCounter overflowChecks = none := by
  have hcounter : hotp.counter ≠ [] := by
    intro hnil
    have hlength := hotp.counter_length
    simp [hnil] at hlength
  have hnone : increase overflowChecks hotp.counter = none := by
    rw [increase_eq _ hcounter, if_pos (h.lifetime_iff.mpr hdead)]
  rw [HmacOtp.increaseCounter]
  split
  · rfl
  · simp_all

theorem Models.increaseCounter (h : Models overflowChecks hotp generator)
    (halive : lifetime overflowChecks ≠ some generator.generated) :
    ∃ next, hotp.increaseCounter overflowChecks = some next ∧
      Models overflowChecks next
        { generator with generated := generator.generated + 1 } := by
  have hcounter : hotp.counter ≠ [] := by
    intro hnil
    have hlength := hotp.counter_length
    simp [hnil] at hlength
  obtain ⟨counter, hnext, hlength, hvalue⟩ := increase_wrapping hotp.counter
  have hsome : increase overflowChecks hotp.counter = some counter := by
    rw [increase_eq _ hcounter, if_neg (h.lifetime_iff.not.mpr halive), hnext]
  refine ⟨{ hotp with
    counter := counter
    counter_length := by rw [hlength, hotp.counter_length] }, ?_, ?_, h.key,
    ?_⟩
  · rw [HmacOtp.increaseCounter]
    split
    · simp_all
    · simp_all
  · rw [hotp.counter_length, h.counter] at hvalue
    simp only [hvalue]
    omega
  · intro hchecks
    have hlast : generator.generated ≠ 255 := by
      simpa [lifetime, hchecks, eq_comm] using halive
    have := h.alive hchecks
    simp only
    omega

variable (hmac calls) in
theorem Models.run_hmacSha1_unregistered
    (h : Models overflowChecks hotp generator) (hkey : generator.key = none)
    (slots : ParamIndex → Slot) :
    (hmacSha1 hmac calls).run ⟨hotp, slots⟩ =
      .error (.failed (Error.new .badParameters)) ⟨hotp, slots⟩ := by
  have hshort : hotp.keyLen < minKeySize := by
    have := h.key
    rwa [hkey] at this
  rw [run_hmacSha1, if_pos (.inl hshort)]

variable (hmac calls) in
theorem Models.run_hmacSha1_registered
    (h : Models overflowChecks hotp generator) {key : List UInt8}
    (hkey : generator.key = some key) (slots : ParamIndex → Slot) :
    (hmacSha1 hmac calls).run ⟨hotp, slots⟩ =
      match calls.refusal with
      | some error => .error (.failed error) ⟨hotp, slots⟩
      | none => .ok (hmac.tag key
          (encodeBe 8 (generator.generated % 2 ^ 64))) ⟨hotp, slots⟩ := by
  obtain ⟨hmin, hmax, htake⟩ : minKeySize ≤ hotp.keyLen ∧
      hotp.keyLen ≤ maxKeySize ∧ hotp.key.take hotp.keyLen = key := by
    have := h.key
    rwa [hkey] at this
  have hrange : ¬ (hotp.keyLen < minKeySize ∨ hotp.keyLen > maxKeySize) := by
    omega
  rw [run_hmacSha1, if_neg hrange, ← h.counter_eq, htake]

def Agree (overflowChecks : Bool) (actual : CommandReply × Option HmacOtp)
    (expected : CommandReply × Option Generator) : Prop :=
  actual.1 = expected.1 ∧
    Option.Rel (Models overflowChecks) actual.2 expected.2

theorem Models.register_agrees (h : Models overflowChecks hotp generator)
    (slots : ParamIndex → Slot) :
    Agree overflowChecks (conclude (registerSharedKey.run ⟨hotp, slots⟩))
      (generator.register slots) := by
  rw [run_registerSharedKey, Generator.register]
  cases inputOf (slots .arg0) with
  | none => exact ⟨rfl, .some h⟩
  | some buffer =>
      dsimp only
      split
      · exact ⟨rfl, .some h⟩
      · exact ⟨rfl, .some (h.withKey (by omega) (by omega))⟩

theorem run_getHotp_computed {frame : Frame HmacOtp} {mac : List UInt8}
    {next : HmacOtp} {hotpVal : UInt32}
    (hrun : (hmacSha1 hmac calls).run frame = .ok mac frame)
    (hcounter : frame.context.increaseCounter overflowChecks = some next)
    (htruncate : truncate mac = some hotpVal) :
    (getHotp hmac overflowChecks calls).run frame =
      (setValueA .arg0 hotpVal.toBitVec).run
        { frame with context := next } := by
  simp [getHotp, hrun, hcounter, htruncate, orPanic]

theorem Models.generate_agrees (h : Models overflowChecks hotp generator)
    (slots : ParamIndex → Slot) :
    Agree overflowChecks
      (conclude ((getHotp hmac overflowChecks calls).run ⟨hotp, slots⟩))
      (generator.generate hmac calls (lifetime overflowChecks) slots) := by
  cases hkey : generator.key with
  | none =>
      have hrun := h.run_hmacSha1_unregistered hmac calls hkey slots
      simp only [getHotp, EStateM.run_bind, hrun, Generator.generate, hkey]
      exact ⟨rfl, .some h⟩
  | some key =>
      have hrun := h.run_hmacSha1_registered hmac calls hkey slots
      cases hrefusal : calls.refusal with
      | some error =>
          rw [hrefusal] at hrun
          simp only [getHotp, EStateM.run_bind, hrun, Generator.generate,
            hkey, hrefusal]
          exact ⟨rfl, .some h⟩
      | none =>
          rw [hrefusal] at hrun
          by_cases hdead : lifetime overflowChecks = some generator.generated
          · have hcounter := h.increaseCounter_dead hdead
            simp [getHotp, hrun, Generator.generate, hkey, hrefusal, hdead,
              hcounter, orPanic, conclude, Agree]
          · obtain ⟨next, hcounter, hnext⟩ := h.increaseCounter hdead
            rw [run_getHotp_computed hrun hcounter
                (truncate_tag (hmac.length_tag _ _)), run_setValueA]
            simp only [Generator.generate, hkey, hrefusal, if_neg hdead]
            have hvalue : (UInt32.ofNat (dynamicTruncation (hmac.tag key
                (encodeBe 8 (generator.generated % 2 ^ 64))) %
                  1000000)).toBitVec =
                BitVec.ofNat 32 (otp hmac key
                  (generator.generated % 2 ^ 64)) := rfl
            rw [hkey] at hnext
            rw [hvalue]
            cases withA (BitVec.ofNat 32 (otp hmac key
                (generator.generated % 2 ^ 64))) (slots .arg0) with
            | none => exact ⟨rfl, .some hnext⟩
            | some slot => exact ⟨rfl, .some hnext⟩

theorem serveCommand_agrees (request : CommandRequest MacCalls)
    {session : Option HmacOtp} {generator : Option Generator}
    (h : Option.Rel (Models overflowChecks) session generator) :
    Agree overflowChecks
      (serveCommand (fun calls => invokeCommand hmac overflowChecks calls)
        request session)
      (Generator.serve hmac (lifetime overflowChecks) request generator) := by
  cases h with
  | none => exact ⟨rfl, .none⟩
  | @some hotp generator h =>
      rw [serveCommand, Generator.serve, invokeCommand]
      cases Command.fromPrimitive request.cmdId with
      | registerSharedKey => exact h.register_agrees request.slots
      | getHotp => exact h.generate_agrees request.slots
      | unknown => exact ⟨rfl, .some h⟩

/--
Whatever clients ask of any number of sessions, and however the TEE behaves
meanwhile, each session answers as a generator of its own: a password is that
of the key registered last and of the number of passwords computed before it.
Built with overflow checks, a session panics at its 256th password.
-/
theorem sessions_follow_rfc4226 {Result : Type} (hmac : Hmac)
    (overflowChecks : Bool)
    (clients : Dialogue (Nat × CommandRequest MacCalls) CommandReply Result) :
    (clients.run (serveAt (serveCommand fun calls =>
        invokeCommand hmac overflowChecks calls))
        fun _ => some HmacOtp.default).transcript =
      (clients.run (serveAt (Generator.serve hmac (lifetime overflowChecks)))
        fun _ => some Generator.fresh).transcript := by
  have hstart : ∀ _ : Nat, Option.Rel (Models overflowChecks)
      (some HmacOtp.default) (some Generator.fresh) :=
    fun _ => .some .fresh
  exact (run_related_at
    (fun request _ _ h => serveCommand_agrees request h) clients hstart).1

def rfcKey : List UInt8 :=
  [0x31, 0x32, 0x33, 0x34, 0x35, 0x36, 0x37, 0x38, 0x39, 0x30,
    0x31, 0x32, 0x33, 0x34, 0x35, 0x36, 0x37, 0x38, 0x39, 0x30]

def rfcHmac : Hmac where
  tag key message :=
    if key = rfcKey ∧ message = encodeBe 8 0 then
      [0xcc, 0x93, 0xcf, 0x18, 0x50, 0x8d, 0x94, 0x93, 0x4c, 0x64,
        0xb6, 0x5d, 0x8b, 0xa7, 0x66, 0x7f, 0xb7, 0xcd, 0xe4, 0xb0]
    else if key = rfcKey ∧ message = encodeBe 8 1 then
      [0x75, 0xa4, 0x8a, 0x19, 0xd4, 0xcb, 0xe1, 0x00, 0x64, 0x4e,
        0x8a, 0xc1, 0x39, 0x7e, 0xea, 0x74, 0x7a, 0x2d, 0x33, 0xab]
    else List.replicate sha1HashSize 0
  length_tag key message := by
    split_ifs <;> rfl

def rfcClient :
    Dialogue (Nat × CommandRequest MacCalls) CommandReply Unit :=
  let granted : MacCalls := ⟨none, none, none, none, none⟩
  let password := ArgIndex.tuple (.value .output 0 0) .none .none .none
  .ofList
    [(0, ⟨0, ArgIndex.tuple (.memref .input rfcKey 20) .none .none .none,
        granted⟩),
      (0, ⟨1, password, granted⟩), (0, ⟨1, password, granted⟩)] ()

theorem rfcClient_gets_test_values :
    (rfcClient.run (serveAt (serveCommand fun calls =>
        invokeCommand rfcHmac true calls))
        fun _ => some HmacOtp.default).transcript.map
          (fun entry => (entry.2.code, entry.2.slots .arg0)) =
      [(teeSuccess, .memref .input rfcKey 20),
        (teeSuccess, .value .output 755224 0),
        (teeSuccess, .value .output 287082 0)] := by
  rw [sessions_follow_rfc4226]
  rfl

end Runs

end TrustZoneSdk.TrustedApps.Hotp
