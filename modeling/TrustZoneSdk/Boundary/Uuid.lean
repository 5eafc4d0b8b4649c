import TrustZoneSdk.Foundation.Rfc4122
import TrustZoneSdk.Teec.Error
import TrustZoneSdk.Utee.Error

/-!
# UUIDs on both sides

The client library and the TA library keep a UUID as the four fields of the
GlobalPlatform struct.  Both leave parsing to one crate, whose result they take
apart, and print the fields themselves.
-/

namespace TrustZoneSdk

open TrustZoneSdk.Foundation

def displayUuid (raw : UuidFields) : List Char :=
  hyphenated (formatHex 8 raw.timeLow.toNat) (formatHex 4 raw.timeMid.toNat)
    (formatHex 4 raw.timeHiAndVersion.toNat)
    (hexBytes (raw.clockSeqAndNode.take 2))
    (hexBytes ((raw.clockSeqAndNode.drop 2).take 6))

/-! ## The TA library -/

namespace Utee

structure Uuid where
  raw : UuidFields
  deriving DecidableEq

namespace Uuid

def parseStr (parse : List Char → Option UuidOctets) (input : List Char) :
    Except Error Uuid :=
  match parse input with
  | some uuid => .ok ⟨uuid.asFields⟩
  | none => .error (Error.new .badFormat)

def fromBytes (bytes : UuidOctets) : Uuid := ⟨bytes.asFields⟩

def toString (uuid : Uuid) : List Char := displayUuid uuid.raw

end Uuid

end Utee

/-! ## The client library -/

namespace Teec

structure Uuid where
  raw : UuidFields
  deriving DecidableEq

namespace Uuid

def parseStr (parse : List Char → Option UuidOctets) (input : List Char) :
    Except Error Uuid :=
  match parse input with
  | some uuid => .ok ⟨uuid.asFields⟩
  | none => .error (Error.new .badFormat)

def fromBytes (bytes : UuidOctets) : Uuid := ⟨bytes.asFields⟩

def toString (uuid : Uuid) : List Char := displayUuid uuid.raw

end Uuid

end Teec

/-! ## Text -/

namespace Boundary

theorem displayUuid_eq_text (raw : UuidFields) :
    displayUuid raw = raw.octets.text := by
  have hlow : formatHex 8 raw.timeLow.toNat =
      hexBytes (encodeBe 4 raw.timeLow.toNat) :=
    formatHex_eq_hexBytes 4 (by decide) raw.timeLow.toNat_lt
  have hmid : formatHex 4 raw.timeMid.toNat =
      hexBytes (encodeBe 2 raw.timeMid.toNat) :=
    formatHex_eq_hexBytes 2 (by decide) raw.timeMid.toNat_lt
  have hhigh : formatHex 4 raw.timeHiAndVersion.toNat =
      hexBytes (encodeBe 2 raw.timeHiAndVersion.toNat) :=
    formatHex_eq_hexBytes 2 (by decide) raw.timeHiAndVersion.toNat_lt
  obtain ⟨hfirst, hsecond, hthird, hnode⟩ :=
    parts_append raw.clockSeqAndNode
      (length_encodeBe 4 raw.timeLow.toNat)
      (length_encodeBe 2 raw.timeMid.toNat)
      (length_encodeBe 2 raw.timeHiAndVersion.toNat)
  have hlast : raw.octets.bytes.drop 10 =
      (raw.clockSeqAndNode.drop 2).take 6 := by
    rw [← List.drop_drop (i := 2) (j := 8), UuidFields.octets, hnode,
      List.take_of_length_le (by simp [raw.length_node])]
  rw [displayUuid, hlow, hmid, hhigh, UuidOctets.text, hlast]
  simp only [UuidFields.octets, hfirst, hsecond, hthird, hnode]

/-- A printer and a parser of one library, and its values from octets. -/
structure UuidCodec {α ε : Type} (print : α → List Char)
    (parse : List Char → Except ε α) (fromBytes : UuidOctets → α) :
    Prop where
  canonical : ∀ uuid, CanonicalUuid (print uuid) ∧ (print uuid).length = 36
  parse_print : ∀ uuid, parse (print uuid) = .ok uuid
  print_parse : ∀ text, CanonicalUuid text →
    ∃ uuid, parse text = .ok uuid ∧ print uuid = text
  parse_text : ∀ bytes : UuidOctets, parse bytes.text = .ok (fromBytes bytes)
  print_injective : Function.Injective print

theorem uuidCodec_of_raw {α ε : Type} {print : α → List Char}
    {parse : List Char → Except ε α} {fromBytes : UuidOctets → α}
    (raw : α → UuidFields)
    (hraw : ∀ uuid, fromBytes (raw uuid).octets = uuid)
    (hfrom : ∀ bytes, raw (fromBytes bytes) = bytes.asFields)
    (hprint : ∀ uuid, print uuid = displayUuid (raw uuid))
    (hparse : ∀ bytes : UuidOctets, parse bytes.text = .ok (fromBytes bytes)) :
    UuidCodec print parse fromBytes where
  canonical uuid := by
    rw [hprint, displayUuid_eq_text]
    exact ⟨UuidOctets.text_canonical _, UuidOctets.length_text _⟩
  parse_print uuid := by
    rw [hprint, displayUuid_eq_text, hparse, hraw]
  print_parse text htext := by
    obtain ⟨bytes, rfl⟩ := htext.exists_text
    refine ⟨fromBytes bytes, hparse bytes, ?_⟩
    rw [hprint, hfrom, displayUuid_eq_text, UuidOctets.octets_asFields]
  parse_text := hparse
  print_injective first second h := by
    rw [hprint, hprint, displayUuid_eq_text, displayUuid_eq_text] at h
    rw [← hraw first, ← hraw second, UuidOctets.text_injective h]

theorem uuid_text_codecs (parse : List Char → Option UuidOctets)
    (hparse : ∀ uuid : UuidOctets, parse uuid.text = some uuid) :
    UuidCodec Utee.Uuid.toString (Utee.Uuid.parseStr parse)
        Utee.Uuid.fromBytes ∧
      UuidCodec Teec.Uuid.toString (Teec.Uuid.parseStr parse)
        Teec.Uuid.fromBytes ∧
      (∀ bytes : UuidOctets, (Utee.Uuid.fromBytes bytes).toString =
        (Teec.Uuid.fromBytes bytes).toString) ∧
      ∀ first second : UuidOctets, first ≠ second →
        (Utee.Uuid.fromBytes first).toString ≠
          (Teec.Uuid.fromBytes second).toString := by
  refine ⟨uuidCodec_of_raw Utee.Uuid.raw ?_ (fun _ => rfl) (fun _ => rfl) ?_,
    uuidCodec_of_raw Teec.Uuid.raw ?_ (fun _ => rfl) (fun _ => rfl) ?_,
    fun _ => rfl, fun first second hne h => hne ?_⟩
  · intro uuid
    rw [Utee.Uuid.fromBytes, UuidFields.asFields_octets]
  · intro bytes
    rw [Utee.Uuid.parseStr, hparse]
    rfl
  · intro uuid
    rw [Teec.Uuid.fromBytes, UuidFields.asFields_octets]
  · intro bytes
    rw [Teec.Uuid.parseStr, hparse]
    rfl
  · rw [Utee.Uuid.toString, Teec.Uuid.toString, displayUuid_eq_text,
      displayUuid_eq_text, Utee.Uuid.fromBytes, Teec.Uuid.fromBytes,
      UuidOctets.octets_asFields, UuidOctets.octets_asFields] at h
    exact UuidOctets.text_injective h

/-- A parser that reads the canonical texts and no others. -/
theorem uuid_text_codecs_of_canonical_parse :
    UuidCodec Utee.Uuid.toString
      (Utee.Uuid.parseStr (Function.partialInv UuidOctets.text))
      Utee.Uuid.fromBytes :=
  (uuid_text_codecs (Function.partialInv UuidOctets.text)
    (Function.partialInv_left fun _ _ => UuidOctets.text_injective)).1

end Boundary

end TrustZoneSdk
