import TrustZoneSdk.Foundation.LittleEndian
import TrustZoneSdk.SecureDb.Db

/-!
# The wire format of the key list

A sequence is its length followed by its elements, and a text is its length in
bytes followed by the bytes.  Lengths are 64-bit little-endian words.  No list
in memory reaches the length at which a second word would be needed.
-/

namespace TrustZoneSdk.SecureDb.Bincode

open TrustZoneSdk.Foundation

def encodeText (text : String) : Bytes :=
  encodeLength (asBytes text).length ++ asBytes text

def decodeText (bytes : Bytes) : Option (String × Bytes) := do
  let (length, rest) ← decodeLength bytes.length bytes
  if rest.length < length then none
  else
    let text ← String.fromUTF8? ⟨(rest.take length).toArray⟩
    some (text, rest.drop length)

def encodeTexts (texts : List String) : Bytes := texts.flatMap encodeText

def decodeTexts : Nat → Bytes → Option (List String × Bytes)
  | 0, bytes => some ([], bytes)
  | count + 1, bytes => do
      let (text, bytes) ← decodeText bytes
      let (texts, rest) ← decodeTexts count bytes
      some (text :: texts, rest)

def serialize (keys : List String) : Bytes :=
  encodeLength keys.length ++ encodeTexts keys

def deserialize? (bytes : Bytes) : Option (List String) := do
  let (count, rest) ← decodeLength bytes.length bytes
  let (keys, _) ← decodeTexts count rest
  some keys

def deserialize (bytes : Bytes) : Except String (List String) :=
  match deserialize? bytes with
  | some keys => .ok keys
  | none => .error "io error: unexpected end of file"

theorem fromUTF8?_asBytes (text : String) :
    String.fromUTF8? ⟨(asBytes text).toArray⟩ = some text := by
  have hbytes : (⟨(asBytes text).toArray⟩ : ByteArray) = text.toByteArray := by
    simp [asBytes]
  rw [hbytes, String.fromUTF8?, dif_pos text.isValidUTF8]
  rfl

@[simp] theorem decodeText_suffix (text : String) (rest : Bytes) :
    decodeText (encodeText text ++ rest) = some (text, rest) := by
  have hfuel : (encodeLength (asBytes text).length).length ≤
      (encodeText text ++ rest).length := by
    simp only [encodeText, List.length_append]
    omega
  have hlength := decodeLength_encodeLength hfuel (asBytes text ++ rest)
  rw [← List.append_assoc, ← encodeText] at hlength
  rw [decodeText, hlength]
  simp [fromUTF8?_asBytes]

@[simp] theorem decodeTexts_suffix (texts : List String) (rest : Bytes) :
    decodeTexts texts.length (encodeTexts texts ++ rest) =
      some (texts, rest) := by
  induction texts with
  | nil => rfl
  | cons text texts ih =>
      rw [encodeTexts] at ih
      simp [encodeTexts, decodeTexts, List.append_assoc, ih]

theorem deserialize_serialize (keys : List String) :
    deserialize (serialize keys) = .ok keys := by
  have hfuel : (encodeLength keys.length).length ≤ (serialize keys).length := by
    simp [serialize]
  have hlength := decodeLength_encodeLength hfuel (encodeTexts keys)
  have htexts := decodeTexts_suffix keys []
  rw [List.append_nil] at htexts
  have hkeys : deserialize? (serialize keys) = some keys := by
    rw [← serialize] at hlength
    simp [deserialize?, hlength, htexts]
  rw [deserialize, hkeys]

def codec : KeyListCodec where
  serialize keys := .ok (serialize keys)
  deserialize := deserialize
  serialized keys := ⟨serialize keys, rfl, deserialize_serialize keys⟩

end TrustZoneSdk.SecureDb.Bincode
