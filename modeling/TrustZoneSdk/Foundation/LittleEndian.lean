import Mathlib.Data.List.Basic
import Mathlib.Tactic.Ring

/-!
# Little-endian words

Fixed-width little-endian words, and a self-delimiting form of the natural
numbers made of them: a number below the largest word is that one word, and
every largest word in front stands for one more multiple of it.
-/

namespace TrustZoneSdk.Foundation

def encodeLe : Nat → Nat → List UInt8
  | 0, _ => []
  | width + 1, n => UInt8.ofNat (n % 256) :: encodeLe width (n / 256)

def decodeLe : List UInt8 → Nat
  | [] => 0
  | byte :: bytes => byte.toNat + 256 * decodeLe bytes

@[simp] theorem length_encodeLe (width n : Nat) :
    (encodeLe width n).length = width := by
  induction width generalizing n with
  | zero => rfl
  | succ width ih => simp [encodeLe, ih]

theorem decodeLe_encodeLe {width n : Nat} (h : n < 256 ^ width) :
    decodeLe (encodeLe width n) = n := by
  induction width generalizing n with
  | zero =>
      rw [Nat.pow_zero] at h
      simp only [encodeLe, decodeLe]
      omega
  | succ width ih =>
      have hquotient : n / 256 < 256 ^ width := by
        rw [Nat.pow_succ] at h
        omega
      have hbyte : (UInt8.ofNat (n % 256)).toNat = n % 256 := by
        simp [UInt8.toNat_ofNat']
      simp only [encodeLe, decodeLe, ih hquotient, hbyte]
      omega

theorem decodeLe_lt (bytes : List UInt8) :
    decodeLe bytes < 256 ^ bytes.length := by
  induction bytes with
  | nil => decide
  | cons byte bytes ih =>
      have hbyte : byte.toNat < 256 := byte.toNat_lt
      rw [decodeLe, List.length_cons, Nat.pow_succ]
      omega

theorem encodeLe_decodeLe (bytes : List UInt8) :
    encodeLe bytes.length (decodeLe bytes) = bytes := by
  induction bytes with
  | nil => rfl
  | cons byte bytes ih =>
      have hbyte : byte.toNat < 256 := byte.toNat_lt
      have hlow : (byte.toNat + 256 * decodeLe bytes) % 256 = byte.toNat := by
        omega
      have hhigh : (byte.toNat + 256 * decodeLe bytes) / 256 =
          decodeLe bytes := by omega
      rw [decodeLe, List.length_cons, encodeLe, hlow, hhigh, ih,
        UInt8.ofNat_toNat]

def maxWord : Nat := 256 ^ 8 - 1

def encodeLength (n : Nat) : List UInt8 :=
  (List.replicate (n / maxWord) (encodeLe 8 maxWord)).flatten ++
    encodeLe 8 (n % maxWord)

/-- `fuel` bounds the number of words read. -/
def decodeLength : Nat → List UInt8 → Option (Nat × List UInt8)
  | 0, _ => none
  | fuel + 1, bytes =>
      if bytes.length < 8 then none
      else if decodeLe (bytes.take 8) = maxWord then do
        let (n, rest) ← decodeLength fuel (bytes.drop 8)
        some (n + maxWord, rest)
      else some (decodeLe (bytes.take 8), bytes.drop 8)

theorem decodeLength_word {fuel n : Nat} (h : n < maxWord)
    (rest : List UInt8) :
    decodeLength (fuel + 1) (encodeLe 8 n ++ rest) = some (n, rest) := by
  have hlength : ¬ (encodeLe 8 n ++ rest).length < 8 := by simp
  have htake : (encodeLe 8 n ++ rest).take 8 = encodeLe 8 n :=
    List.take_left' (length_encodeLe 8 n)
  have hdrop : (encodeLe 8 n ++ rest).drop 8 = rest :=
    List.drop_left' (length_encodeLe 8 n)
  have hvalue : decodeLe (encodeLe 8 n) = n :=
    decodeLe_encodeLe (by unfold maxWord at h; omega)
  rw [decodeLength, if_neg hlength, htake, hdrop, hvalue,
    if_neg (Nat.ne_of_lt h)]

theorem decodeLength_words (count : Nat) {fuel n : Nat} (h : n < maxWord)
    (rest : List UInt8) :
    decodeLength (fuel + count + 1)
        ((List.replicate count (encodeLe 8 maxWord)).flatten ++
          encodeLe 8 n ++ rest) =
      some (n + count * maxWord, rest) := by
  induction count with
  | zero => simpa using decodeLength_word h rest
  | succ count ih =>
      have hlength :
          ¬ ((List.replicate (count + 1) (encodeLe 8 maxWord)).flatten ++
            encodeLe 8 n ++ rest).length < 8 := by
        simp [List.replicate_succ]
      have htake :
          ((List.replicate (count + 1) (encodeLe 8 maxWord)).flatten ++
            encodeLe 8 n ++ rest).take 8 = encodeLe 8 maxWord := by
        rw [List.replicate_succ, List.flatten_cons, List.append_assoc,
          List.append_assoc]
        exact List.take_left' (length_encodeLe 8 maxWord)
      have hdrop :
          ((List.replicate (count + 1) (encodeLe 8 maxWord)).flatten ++
            encodeLe 8 n ++ rest).drop 8 =
          (List.replicate count (encodeLe 8 maxWord)).flatten ++
            encodeLe 8 n ++ rest := by
        rw [List.replicate_succ, List.flatten_cons, List.append_assoc,
          List.append_assoc, List.append_assoc]
        exact List.drop_left' (length_encodeLe 8 maxWord)
      have hvalue : decodeLe (encodeLe 8 maxWord) = maxWord :=
        decodeLe_encodeLe (by unfold maxWord; omega)
      rw [decodeLength, if_neg hlength, htake, hdrop, hvalue, if_pos rfl,
        ← Nat.add_assoc, ih]
      simp only [Option.bind_eq_bind, Option.bind_some]
      congr 2
      ring

theorem decodeLength_encodeLength {fuel n : Nat}
    (hfuel : (encodeLength n).length ≤ fuel) (rest : List UInt8) :
    decodeLength fuel (encodeLength n ++ rest) = some (n, rest) := by
  have hpos : 0 < maxWord := by decide
  have hcount : n / maxWord + 1 ≤ fuel := by
    simp only [encodeLength, List.length_append, List.length_flatten,
      List.map_replicate, length_encodeLe, List.sum_replicate_nat] at hfuel
    omega
  obtain ⟨extra, hextra⟩ := Nat.exists_eq_add_of_le hcount
  have hfuelEq : fuel = extra + n / maxWord + 1 := by omega
  rw [encodeLength, hfuelEq,
    decodeLength_words (n / maxWord) (Nat.mod_lt n hpos) rest]
  congr 2
  rw [Nat.mul_comm]
  exact Nat.mod_add_div n maxWord

end TrustZoneSdk.Foundation
