import Mathlib.Data.List.Basic

/-!
# Texts as bytes
-/

namespace TrustZoneSdk.Foundation

def encodeUtf8 (text : List Char) : List UInt8 :=
  text.flatMap String.utf8EncodeChar

def decodeUtf8 (bytes : List UInt8) : Option (List Char) :=
  bytes.toByteArray.utf8Decode?.map Array.toList

/-- What is no text is replaced; what is text stays. -/
structure LossyDecoder where
  decode : List UInt8 → List Char
  decode_text : ∀ text, decode (encodeUtf8 text) = text

theorem encodeUtf8_injective : Function.Injective encodeUtf8 := by
  intro first second h
  have hbytes : first.utf8Encode = second.utf8Encode :=
    congrArg List.toByteArray h
  rw [← String.toByteArray_ofList, ← String.toByteArray_ofList,
    String.toByteArray_inj] at hbytes
  exact String.ofList_injective hbytes

theorem decodeUtf8_encodeUtf8 (text : List Char) :
    decodeUtf8 (encodeUtf8 text) = some text := by
  have h : text.utf8Encode.utf8Decode? = some text.toArray :=
    List.utf8Decode?_utf8Encode
  rw [decodeUtf8]
  exact (congrArg (Option.map Array.toList) h).trans rfl

def strictDecoder : LossyDecoder where
  decode bytes := (decodeUtf8 bytes).getD []
  decode_text text := by rw [decodeUtf8_encodeUtf8, Option.getD_some]

theorem zero_not_mem_utf8EncodeChar {char : Char} (h : char ≠ '\x00') :
    0 ∉ String.utf8EncodeChar char := by
  have hval : char.val.toNat ≠ 0 := by
    intro hzero
    exact h (Char.ext (UInt32.toNat_inj.mp hzero))
  have hzero : ∀ n, n % 256 ≠ 0 → (0 : UInt8) ≠ UInt8.ofNat n := by
    intro n hn heq
    have hnat := congrArg UInt8.toNat heq
    rw [UInt8.toNat_ofNat'] at hnat
    exact hn hnat.symm
  rw [String.utf8EncodeChar]
  split
  · rw [List.mem_singleton]
    exact hzero _ (by omega)
  · split
    · rw [List.mem_pair, not_or]
      exact ⟨hzero _ (by omega), hzero _ (by omega)⟩
    · split
      · simp only [List.mem_cons, List.not_mem_nil, or_false, not_or]
        exact ⟨hzero _ (by omega), hzero _ (by omega), hzero _ (by omega)⟩
      · simp only [List.mem_cons, List.not_mem_nil, or_false, not_or]
        exact ⟨hzero _ (by omega), hzero _ (by omega), hzero _ (by omega),
          hzero _ (by omega)⟩

end TrustZoneSdk.Foundation
