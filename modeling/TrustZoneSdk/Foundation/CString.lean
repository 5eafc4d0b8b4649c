import Mathlib.Data.List.TakeWhile
import TrustZoneSdk.Foundation.Utf8

/-!
# Strings that end in a NUL

What a reader finds at the start of some memory up to the first NUL.
-/

namespace TrustZoneSdk.Foundation

def cString (memory : List UInt8) : List UInt8 :=
  memory.takeWhile (· ≠ 0)

theorem cString_terminated (bytes rest : List UInt8) :
    cString (bytes ++ 0 :: rest) = cString bytes := by
  induction bytes with
  | nil => rfl
  | cons byte bytes ih =>
      rw [cString, cString] at ih ⊢
      rw [List.cons_append, List.takeWhile_cons, List.takeWhile_cons, ih]

theorem zero_not_mem_cString (memory : List UInt8) : 0 ∉ cString memory := by
  intro h
  have hne := List.mem_takeWhile_imp h
  simp at hne

theorem cString_append_of_not_mem {bytes rest : List UInt8} (h : 0 ∉ bytes) :
    cString (bytes ++ rest) = bytes ++ cString rest := by
  refine List.takeWhile_append_of_pos fun byte hbyte => ?_
  exact decide_eq_true fun heq => h (heq ▸ hbyte)

def cText (text : List Char) : List Char :=
  text.takeWhile (· ≠ '\x00')

theorem cText_of_not_mem {text : List Char} (h : '\x00' ∉ text) :
    cText text = text := by
  rw [cText, List.takeWhile_eq_self_iff]
  intro char hchar
  exact decide_eq_true fun heq => h (heq ▸ hchar)

theorem cString_encodeUtf8 (text : List Char) :
    cString (encodeUtf8 text) = encodeUtf8 (cText text) := by
  induction text with
  | nil => rfl
  | cons char text ih =>
      rw [encodeUtf8, List.flatMap_cons, ← encodeUtf8, cText,
        List.takeWhile_cons]
      by_cases hnul : char = '\x00'
      · subst hnul
        rfl
      · rw [if_pos (decide_eq_true hnul), cString_append_of_not_mem
          (zero_not_mem_utf8EncodeChar hnul), ih]
        rfl

end TrustZoneSdk.Foundation
