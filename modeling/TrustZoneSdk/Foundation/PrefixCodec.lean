import TrustZoneSdk.Foundation.LittleEndian

/-!
# Values in front of other bytes

A codec reads back what it has written, whatever follows.  Codecs of records
are put together from those of their fields.
-/

namespace TrustZoneSdk.Foundation

structure PrefixCodec (α : Type) where
  encode : α → List UInt8
  decode : List UInt8 → Option (α × List UInt8)
  decode_append : ∀ value rest,
    decode (encode value ++ rest) = some (value, rest)

namespace PrefixCodec

variable {α β : Type}

theorem decode_encode (codec : PrefixCodec α) (value : α) :
    codec.decode (codec.encode value) = some (value, []) := by
  have h := codec.decode_append value []
  rwa [List.append_nil] at h

def unit : PrefixCodec Unit where
  encode _ := []
  decode bytes := some ((), bytes)
  decode_append := fun _ _ => rfl

def pair (first : PrefixCodec α) (second : PrefixCodec β) :
    PrefixCodec (α × β) where
  encode value := first.encode value.1 ++ second.encode value.2
  decode bytes := do
    let (left, rest) ← first.decode bytes
    let (right, rest) ← second.decode rest
    some ((left, right), rest)
  decode_append := by
    intro value rest
    simp [first.decode_append, second.decode_append]

/-- A type whose values some of those of another stand for. -/
def refine (codec : PrefixCodec α) (pack : α → Option β) (unpack : β → α)
    (h : ∀ value, pack (unpack value) = some value) : PrefixCodec β where
  encode value := codec.encode (unpack value)
  decode bytes := do
    let (raw, rest) ← codec.decode bytes
    let value ← pack raw
    some (value, rest)
  decode_append := by
    intro value rest
    simp [codec.decode_append, h]

def block (count : Nat) :
    PrefixCodec {bytes : List UInt8 // bytes.length = count} where
  encode value := value.1
  decode bytes :=
    if h : (bytes.take count).length = count then
      some (⟨bytes.take count, h⟩, bytes.drop count)
    else none
  decode_append := by
    rintro ⟨bytes, rfl⟩ rest
    simp

def word (width : Nat) : PrefixCodec (BitVec (8 * width)) :=
  (block width).refine (fun bytes => some (.ofNat _ (decodeLe bytes.1)))
    (fun value => ⟨encodeLe width value.toNat, length_encodeLe _ _⟩) (by
      intro value
      have hlt : value.toNat < 256 ^ width := by
        rw [show 256 = 2 ^ 8 from rfl, ← Nat.pow_mul]
        exact value.isLt
      rw [decodeLe_encodeLe hlt, BitVec.ofNat_toNat, BitVec.setWidth_eq])

def bytes : PrefixCodec (List UInt8) where
  encode value := encodeLength value.length ++ value
  decode input := do
    let found ← decodeLength input.length input
    if found.2.length < found.1 then none
    else some (found.2.take found.1, found.2.drop found.1)
  decode_append := by
    intro value rest
    have hfuel : (encodeLength value.length).length ≤
        (encodeLength value.length ++ value ++ rest).length := by
      simp only [List.length_append]
      omega
    have hlength := decodeLength_encodeLength hfuel (value ++ rest)
    rw [← List.append_assoc] at hlength
    simp only [hlength]
    simp

def option (codec : PrefixCodec α) : PrefixCodec (Option α) where
  encode
    | none => [0]
    | some value => 1 :: codec.encode value
  decode
    | 0 :: rest => some (none, rest)
    | 1 :: rest => (codec.decode rest).map fun found => (some found.1, found.2)
    | _ => none
  decode_append := by
    intro value rest
    cases value with
    | none => rfl
    | some value => simp [codec.decode_append]

end PrefixCodec

end TrustZoneSdk.Foundation
