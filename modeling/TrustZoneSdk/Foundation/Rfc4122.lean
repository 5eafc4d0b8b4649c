import TrustZoneSdk.Foundation.HexText
import TrustZoneSdk.Foundation.LittleEndian

/-!
# UUIDs

A UUID is sixteen octets.  The first eight of them are three numbers, of four,
two and two octets, most significant first; the last eight are octets by
themselves.  Its text is the octets in lower-case hexadecimal, in five groups.
-/

namespace TrustZoneSdk.Foundation

/-! ## Big-endian words -/

def encodeBe (width n : Nat) : List UInt8 := (encodeLe width n).reverse

def decodeBe (bytes : List UInt8) : Nat := decodeLe bytes.reverse

@[simp] theorem length_encodeBe (width n : Nat) :
    (encodeBe width n).length = width := by
  simp [encodeBe]

theorem decodeBe_encodeBe {width n : Nat} (h : n < 256 ^ width) :
    decodeBe (encodeBe width n) = n := by
  rw [decodeBe, encodeBe, List.reverse_reverse, decodeLe_encodeLe h]

theorem decodeBe_lt {bytes : List UInt8} {width : Nat}
    (h : bytes.length = width) : decodeBe bytes < 256 ^ width := by
  subst h
  simpa [decodeBe] using decodeLe_lt bytes.reverse

theorem encodeBe_decodeBe {bytes : List UInt8} {width : Nat}
    (h : bytes.length = width) : encodeBe width (decodeBe bytes) = bytes := by
  subst h
  rw [encodeBe, decodeBe, ← List.length_reverse, encodeLe_decodeLe,
    List.reverse_reverse]

/-! ## Octets and fields -/

@[ext]
structure UuidOctets where
  bytes : List UInt8
  size : bytes.length = 16
  deriving DecidableEq

@[ext]
structure UuidFields where
  timeLow : UInt32
  timeMid : UInt16
  timeHiAndVersion : UInt16
  clockSeqAndNode : List UInt8
  length_node : clockSeqAndNode.length = 8
  deriving DecidableEq

theorem join_octets (bytes : List UInt8) :
    bytes.take 4 ++ ((bytes.drop 4).take 2 ++
      ((bytes.drop 6).take 2 ++ bytes.drop 8)) = bytes := by
  have hhigh := List.take_append_drop 2 (bytes.drop 6)
  have hmid := List.take_append_drop 2 (bytes.drop 4)
  rw [List.drop_drop] at hhigh hmid
  rw [hhigh, hmid, List.take_append_drop]

theorem parts_append {low mid high : List UInt8} (node : List UInt8)
    (hlow : low.length = 4) (hmid : mid.length = 2) (hhigh : high.length = 2) :
    (low ++ (mid ++ (high ++ node))).take 4 = low ∧
      ((low ++ (mid ++ (high ++ node))).drop 4).take 2 = mid ∧
      ((low ++ (mid ++ (high ++ node))).drop 6).take 2 = high ∧
      (low ++ (mid ++ (high ++ node))).drop 8 = node := by
  have hfour : (low ++ (mid ++ (high ++ node))).drop 4 =
      mid ++ (high ++ node) := List.drop_left' hlow
  have hsix : (low ++ (mid ++ (high ++ node))).drop 6 = high ++ node := by
    rw [← List.drop_drop (i := 2) (j := 4), hfour, List.drop_left' hmid]
  have height : (low ++ (mid ++ (high ++ node))).drop 8 = node := by
    rw [← List.drop_drop (i := 2) (j := 6), hsix, List.drop_left' hhigh]
  exact ⟨List.take_left' hlow, by rw [hfour, List.take_left' hmid],
    by rw [hsix, List.take_left' hhigh], height⟩

/-- The numbers in the octets, as RFC 4122 has them. -/
def UuidOctets.asFields (uuid : UuidOctets) : UuidFields where
  timeLow := .ofNat (decodeBe (uuid.bytes.take 4))
  timeMid := .ofNat (decodeBe ((uuid.bytes.drop 4).take 2))
  timeHiAndVersion := .ofNat (decodeBe ((uuid.bytes.drop 6).take 2))
  clockSeqAndNode := uuid.bytes.drop 8
  length_node := by simp [uuid.size]

def UuidFields.octets (fields : UuidFields) : UuidOctets where
  bytes := encodeBe 4 fields.timeLow.toNat ++
    (encodeBe 2 fields.timeMid.toNat ++
      (encodeBe 2 fields.timeHiAndVersion.toNat ++ fields.clockSeqAndNode))
  size := by simp [fields.length_node]

theorem encodeBe_uint32 {bytes : List UInt8} (h : bytes.length = 4) :
    encodeBe 4 (UInt32.ofNat (decodeBe bytes)).toNat = bytes := by
  have hlt : decodeBe bytes < 2 ^ 32 := decodeBe_lt h
  rw [UInt32.toNat_ofNat', Nat.mod_eq_of_lt hlt, encodeBe_decodeBe h]

theorem encodeBe_uint16 {bytes : List UInt8} (h : bytes.length = 2) :
    encodeBe 2 (UInt16.ofNat (decodeBe bytes)).toNat = bytes := by
  have hlt : decodeBe bytes < 2 ^ 16 := decodeBe_lt h
  rw [UInt16.toNat_ofNat', Nat.mod_eq_of_lt hlt, encodeBe_decodeBe h]

theorem UuidOctets.octets_asFields (uuid : UuidOctets) :
    uuid.asFields.octets = uuid := by
  ext1
  simp only [UuidFields.octets, asFields]
  rw [encodeBe_uint32 (by simp [uuid.size]),
    encodeBe_uint16 (by simp [uuid.size]),
    encodeBe_uint16 (by simp [uuid.size]), join_octets]

theorem UuidFields.asFields_octets (fields : UuidFields) :
    fields.octets.asFields = fields := by
  have hlow : decodeBe (encodeBe 4 fields.timeLow.toNat) =
      fields.timeLow.toNat := decodeBe_encodeBe fields.timeLow.toNat_lt
  have hmid : decodeBe (encodeBe 2 fields.timeMid.toNat) =
      fields.timeMid.toNat := decodeBe_encodeBe fields.timeMid.toNat_lt
  have hhigh : decodeBe (encodeBe 2 fields.timeHiAndVersion.toNat) =
      fields.timeHiAndVersion.toNat :=
    decodeBe_encodeBe fields.timeHiAndVersion.toNat_lt
  obtain ⟨hfirst, hsecond, hthird, hnode⟩ :=
    parts_append fields.clockSeqAndNode
      (length_encodeBe 4 fields.timeLow.toNat)
      (length_encodeBe 2 fields.timeMid.toNat)
      (length_encodeBe 2 fields.timeHiAndVersion.toNat)
  ext1
  · simp only [octets, UuidOctets.asFields, hfirst, hlow, UInt32.ofNat_toNat]
  · simp only [octets, UuidOctets.asFields, hsecond, hmid, UInt16.ofNat_toNat]
  · simp only [octets, UuidOctets.asFields, hthird, hhigh, UInt16.ofNat_toNat]
  · simp only [octets, UuidOctets.asFields, hnode]

/-- Octets whose three numbers stand least significant first. -/
def UuidOctets.fromBytesLe (bytes : List UInt8) (h : bytes.length = 16) :
    UuidOctets where
  bytes := (bytes.take 4).reverse ++ (((bytes.drop 4).take 2).reverse ++
    (((bytes.drop 6).take 2).reverse ++ bytes.drop 8))
  size := by simp [h]

def UuidFields.bytesLe (fields : UuidFields) : List UInt8 :=
  encodeLe 4 fields.timeLow.toNat ++ (encodeLe 2 fields.timeMid.toNat ++
    (encodeLe 2 fields.timeHiAndVersion.toNat ++ fields.clockSeqAndNode))

theorem UuidFields.length_bytesLe (fields : UuidFields) :
    fields.bytesLe.length = 16 := by
  simp [bytesLe, fields.length_node]

theorem UuidFields.fromBytesLe_bytesLe (fields : UuidFields) :
    UuidOctets.fromBytesLe fields.bytesLe fields.length_bytesLe =
      fields.octets := by
  obtain ⟨hfirst, hsecond, hthird, hnode⟩ :=
    parts_append fields.clockSeqAndNode
      (length_encodeLe 4 fields.timeLow.toNat)
      (length_encodeLe 2 fields.timeMid.toNat)
      (length_encodeLe 2 fields.timeHiAndVersion.toNat)
  ext1
  simp only [UuidOctets.fromBytesLe, bytesLe, octets, encodeBe, hfirst,
    hsecond, hthird, hnode]

/-! ## Text -/

def hexBytes (bytes : List UInt8) : List Char :=
  bytes.flatMap fun byte => hexText 2 byte.toNat

theorem hexBytes_append (first second : List UInt8) :
    hexBytes (first ++ second) = hexBytes first ++ hexBytes second :=
  List.flatMap_append

@[simp] theorem length_hexBytes (bytes : List UInt8) :
    (hexBytes bytes).length = 2 * bytes.length := by
  induction bytes with
  | nil => rfl
  | cons byte bytes ih =>
      rw [hexBytes, List.flatMap_cons, List.length_append, ← hexBytes, ih,
        length_hexText, List.length_cons]
      omega

theorem hexBytes_injective {first second : List UInt8}
    (h : hexBytes first = hexBytes second) : first = second := by
  induction first generalizing second with
  | nil =>
      have hlength := congrArg List.length h
      rw [length_hexBytes, length_hexBytes] at hlength
      exact (List.length_eq_zero_iff.mp (by simpa using hlength.symm)).symm
  | cons byte first ih =>
      cases second with
      | nil =>
          have hlength := congrArg List.length h
          simp at hlength
      | cons other second =>
          rw [hexBytes, hexBytes, List.flatMap_cons, List.flatMap_cons] at h
          obtain ⟨hbyte, hrest⟩ := List.append_inj h (by simp)
          have heq : byte.toNat = other.toNat :=
            hexText_injective byte.toNat_lt other.toNat_lt hbyte
          rw [UInt8.toNat_inj.mp heq, ih hrest]

theorem hexBytes_encodeBe (width n : Nat) :
    hexBytes (encodeBe width n) = hexText (2 * width) n := by
  induction width generalizing n with
  | zero => rfl
  | succ width ih =>
      have hhigh : n % 256 / 16 % 16 = n / 16 % 16 := by omega
      have hlow : n % 256 % 16 = n % 16 := by omega
      have hquotient : n / 16 / 16 = n / 256 := by omega
      rw [encodeBe, encodeLe, List.reverse_cons, ← encodeBe, hexBytes_append,
        ih, Nat.mul_succ, hexText, hexText, hquotient]
      simp [hexBytes, hexText, hhigh, hlow]

theorem take_hexBytes (count : Nat) (bytes : List UInt8) :
    (hexBytes bytes).take (2 * count) = hexBytes (bytes.take count) := by
  induction count generalizing bytes with
  | zero => rfl
  | succ count ih =>
      cases bytes with
      | nil => rfl
      | cons byte bytes =>
          have hcount : 2 * (count + 1) =
              (hexText 2 byte.toNat).length + 2 * count := by
            rw [length_hexText]
            omega
          rw [hexBytes, List.flatMap_cons, hcount, List.take_length_add_append,
            ← hexBytes, ih, List.take_succ_cons, hexBytes, hexBytes,
            List.flatMap_cons]

theorem drop_hexBytes (count : Nat) (bytes : List UInt8) :
    (hexBytes bytes).drop (2 * count) = hexBytes (bytes.drop count) := by
  have hall := List.take_append_drop (2 * count) (hexBytes bytes)
  have hbytes := congrArg hexBytes (List.take_append_drop count bytes)
  rw [hexBytes_append, ← take_hexBytes] at hbytes
  exact List.append_cancel_left (hall.trans hbytes.symm)

theorem formatHex_eq_hexBytes (width : Nat) {n : Nat} (hwidth : width ≠ 0)
    (h : n < 256 ^ width) :
    formatHex (2 * width) n = hexBytes (encodeBe width n) := by
  rw [hexBytes_encodeBe]
  apply formatHex_eq_hexText (by omega)
  rwa [Nat.pow_mul]

def lowerHexDigits : List Char :=
  ['0', '1', '2', '3', '4', '5', '6', '7', '8', '9', 'a', 'b', 'c', 'd', 'e',
    'f']

theorem mem_lowerHexDigits_iff {digit : Char} :
    digit ∈ lowerHexDigits ↔ ∃ nibble < 16, digit = hexDigit nibble := by
  have hdigits : lowerHexDigits = (List.range 16).map hexDigit := by decide
  rw [hdigits, List.mem_map]
  constructor
  · rintro ⟨nibble, hnibble, rfl⟩
    exact ⟨nibble, List.mem_range.mp hnibble, rfl⟩
  · rintro ⟨nibble, hnibble, rfl⟩
    exact ⟨nibble, List.mem_range.mpr hnibble, rfl⟩

theorem mem_hexBytes {bytes : List UInt8} {digit : Char}
    (h : digit ∈ hexBytes bytes) : digit ∈ lowerHexDigits := by
  obtain ⟨byte, -, hdigit⟩ := List.mem_flatMap.mp h
  obtain ⟨nibble, hnibble, heq⟩ := mem_hexText hdigit
  exact mem_lowerHexDigits_iff.mpr ⟨nibble, hnibble, heq⟩

theorem exists_hexBytes (count : Nat) {text : List Char}
    (hlength : text.length = 2 * count)
    (h : ∀ digit ∈ text, digit ∈ lowerHexDigits) :
    ∃ bytes : List UInt8, bytes.length = count ∧ hexBytes bytes = text := by
  induction count generalizing text with
  | zero => exact ⟨[], rfl, (List.length_eq_zero_iff.mp hlength).symm⟩
  | succ count ih =>
      match text, hlength with
      | high :: low :: rest, hlength =>
          simp only [List.forall_mem_cons] at h
          obtain ⟨hhigh, hlow, hrest⟩ := h
          obtain ⟨first, hfirst, rfl⟩ := mem_lowerHexDigits_iff.mp hhigh
          obtain ⟨second, hsecond, rfl⟩ := mem_lowerHexDigits_iff.mp hlow
          obtain ⟨bytes, hbytes, rfl⟩ := ih (by
            simp only [List.length_cons] at hlength
            omega) hrest
          refine ⟨UInt8.ofNat (16 * first + second) :: bytes, by simp [hbytes],
            ?_⟩
          have hbyte : (UInt8.ofNat (16 * first + second)).toNat =
              16 * first + second := by
            rw [UInt8.toNat_ofNat']
            omega
          have hfirst' : (16 * first + second) / 16 % 16 = first := by omega
          have hsecond' : (16 * first + second) % 16 = second := by omega
          rw [hexBytes, List.flatMap_cons, hbyte, ← hexBytes]
          simp [hexText, hfirst', hsecond']

def hyphenated (first second third fourth fifth : List Char) : List Char :=
  first ++ '-' :: (second ++ '-' :: (third ++ '-' :: (fourth ++ '-' :: fifth)))

/-- The canonical text: groups of 8, 4, 4, 4 and 12 digits. -/
def UuidOctets.text (uuid : UuidOctets) : List Char :=
  hyphenated (hexBytes (uuid.bytes.take 4))
    (hexBytes ((uuid.bytes.drop 4).take 2))
    (hexBytes ((uuid.bytes.drop 6).take 2))
    (hexBytes ((uuid.bytes.drop 8).take 2)) (hexBytes (uuid.bytes.drop 10))

def HexGroup (length : Nat) (group : List Char) : Prop :=
  group.length = length ∧ ∀ digit ∈ group, digit ∈ lowerHexDigits

def CanonicalUuid (text : List Char) : Prop :=
  ∃ first second third fourth fifth,
    text = hyphenated first second third fourth fifth ∧ HexGroup 8 first ∧
      HexGroup 4 second ∧ HexGroup 4 third ∧ HexGroup 4 fourth ∧
      HexGroup 12 fifth

theorem hexGroup_hexBytes (count : Nat) {bytes : List UInt8}
    (h : bytes.length = count) : HexGroup (2 * count) (hexBytes bytes) :=
  ⟨by rw [length_hexBytes, h], fun _ => mem_hexBytes⟩

namespace UuidOctets

theorem text_canonical (uuid : UuidOctets) : CanonicalUuid uuid.text := by
  refine ⟨_, _, _, _, _, rfl, hexGroup_hexBytes 4 ?_,
    hexGroup_hexBytes 2 ?_, hexGroup_hexBytes 2 ?_,
    hexGroup_hexBytes 2 ?_, hexGroup_hexBytes 6 ?_⟩ <;>
    simp [uuid.size]

theorem length_text (uuid : UuidOctets) : uuid.text.length = 36 := by
  simp [text, hyphenated, uuid.size]

theorem filter_hexBytes (bytes : List UInt8) :
    (hexBytes bytes).filter (· ≠ '-') = hexBytes bytes := by
  rw [List.filter_eq_self]
  intro digit hdigit
  have hnot : '-' ∉ lowerHexDigits := by decide
  have hne : digit ≠ '-' := by
    rintro rfl
    exact hnot (mem_hexBytes hdigit)
  simpa using hne

theorem filter_text (uuid : UuidOctets) :
    uuid.text.filter (· ≠ '-') = hexBytes uuid.bytes := by
  have hnode := List.take_append_drop 2 (uuid.bytes.drop 8)
  rw [List.drop_drop] at hnode
  have hjoin := join_octets uuid.bytes
  rw [← hnode] at hjoin
  have hhyphen : ∀ rest : List Char,
      ('-' :: rest).filter (· ≠ '-') = rest.filter (· ≠ '-') := by simp
  simp only [text, hyphenated, List.filter_append, hhyphen, filter_hexBytes,
    ← hexBytes_append]
  rw [hjoin]

theorem text_injective {first second : UuidOctets}
    (h : first.text = second.text) : first = second := by
  have hdigits := congrArg (List.filter (· ≠ '-')) h
  rw [filter_text, filter_text] at hdigits
  exact UuidOctets.ext (hexBytes_injective hdigits)

end UuidOctets

theorem CanonicalUuid.exists_text {text : List Char} (h : CanonicalUuid text) :
    ∃ uuid : UuidOctets, uuid.text = text := by
  obtain ⟨_, _, _, _, _, rfl, hfirst, hsecond, hthird, hfourth, hfifth⟩ := h
  obtain ⟨low, hlow, rfl⟩ := exists_hexBytes 4 hfirst.1 hfirst.2
  obtain ⟨mid, hmid, rfl⟩ := exists_hexBytes 2 hsecond.1 hsecond.2
  obtain ⟨high, hhigh, rfl⟩ := exists_hexBytes 2 hthird.1 hthird.2
  obtain ⟨clock, hclock, rfl⟩ :=
    exists_hexBytes 2 hfourth.1 hfourth.2
  obtain ⟨node, hnode, rfl⟩ := exists_hexBytes 6 hfifth.1 hfifth.2
  obtain ⟨tlow, tmid, thigh, tnode⟩ :=
    parts_append (clock ++ node) hlow hmid hhigh
  have tlast : (low ++ (mid ++ (high ++ (clock ++ node)))).drop 10 = node := by
    rw [← List.drop_drop (i := 2) (j := 8), tnode, List.drop_left' hclock]
  refine ⟨⟨low ++ (mid ++ (high ++ (clock ++ node))), ?_⟩, ?_⟩
  · simp [hlow, hmid, hhigh, hclock, hnode]
  · simp only [UuidOctets.text, tlow, tmid, thigh, tnode, tlast,
      List.take_left' hclock]

end TrustZoneSdk.Foundation
