import TrustZoneSdk.Foundation.LoadImage
import TrustZoneSdk.Foundation.MachineWord
import TrustZoneSdk.Foundation.Rfc4122

/-!
# The UUID in an ELF file

A TA has its UUID in the object `ta_head`, a plugin in `plugin_method`.  The
build reads it out of the file: it finds the object among the exported
symbols, the segment that maps the address of the UUID, and the place in the
file that the segment comes from.  Every number on the way is taken from the
file and may be anything.
-/

namespace TrustZoneSdk.CargoOptee

open TrustZoneSdk.Foundation

/-! ## What goblin parses -/

structure ProgramHeader where
  pType : UInt32
  pOffset : UInt64
  pVaddr : UInt64
  pFilesz : UInt64
  pMemsz : UInt64
  deriving DecidableEq, Repr

structure Sym where
  stName : Nat
  stInfo : UInt8
  stShndx : Nat
  stValue : UInt64
  stSize : UInt64
  deriving DecidableEq, Repr

def Sym.stBind (sym : Sym) : UInt8 := sym.stInfo >>> 4

def Sym.stType (sym : Sym) : UInt8 := sym.stInfo &&& 0xF

structure Elf where
  littleEndian : Bool
  eType : UInt16
  eMachine : UInt16
  eiClass : UInt8
  is64 : Bool
  programHeaders : List ProgramHeader
  dynsyms : List Sym
  dynstrtab : Nat → Option String
  syms : List Sym
  strtab : Nat → Option String

def ptLoad : UInt32 := 1

def etDyn : UInt16 := 3

def emArm : UInt16 := 40

def emAarch64 : UInt16 := 183

def elfClass32 : UInt8 := 1

def elfClass64 : UInt8 := 2

def stbGlobal : UInt8 := 1

def stbWeak : UInt8 := 2

def sttNotype : UInt8 := 0

def sttObject : UInt8 := 1

/-! ## Errors -/

inductive ElfError where
  | unreadable
  | noMagic
  | malformed
  | endianness
  | elfType (eType : UInt16)
  | target (machine : UInt16) (eiClass : UInt8) (is64 : Bool)
  | notExported (name reason : String)
  | notFound (name : String)
  | symbolType (name : String) (stType : UInt8)
  | symbolSize (name : String) (stSize minSize : Nat)
  | skipsName (address : Nat)
  | request (size va : Nat)
  | addressOverflow (va : Nat)
  | loadOverflow (vaddr memsz : Nat)
  | fileOverflow (vaddr filesz : Nat)
  | notFileBacked (va : Nat)
  | offsetOverflow (va : Nat)
  | offsetTooLarge (off : Nat)
  | rangeOverflow (off : Nat)
  | pastFile (off size length : Nat)
  | notLoaded (va : Nat)
  | uuidSize (length : Nat)
  deriving DecidableEq, Repr

def hexNumber (value : Nat) : String := "0x" ++ String.ofList (lowerHex value)

/-- What follows the path of the file, except that `uuidSize` has no path. -/
def ElfError.message : ElfError → String
  | unreadable => "failed to read ELF"
  | noMagic => "not an ELF file: missing ELF magic"
  | malformed => "failed to parse ELF (truncated or malformed)"
  | endianness =>
      "unsupported ELF endianness (OP-TEE ARM/AArch64 TAs and plugins are " ++
        "little-endian)"
  | elfType eType =>
      s!"unsupported ELF type {eType} (OP-TEE 4.10 requires ET_DYN for TAs " ++
        "and plugins)"
  | target machine eiClass is64 =>
      s!"unsupported ELF target machine={machine} class={eiClass} " ++
        s!"is_64={is64} (supported: AArch64 little-endian 64-bit, ARM " ++
        "little-endian 32-bit)"
  | notExported name reason =>
      s!"{name} exists in the regular symbol table but is not dynamically " ++
        s!"exported; {reason}"
  | notFound name => s!"dynamically exported symbol {name} not found"
  | symbolType name stType =>
      s!"{name} has ELF symbol type {stType} (expected STT_OBJECT)"
  | symbolSize name stSize minSize =>
      s!"{name} is {stSize} bytes, need at least {minSize} to read the UUID"
  | skipsName address =>
      "plugin_method address " ++ hexNumber address ++
        " overflowed when skipping the name pointer"
  | request size va =>
      s!"malformed ELF: requested {size} bytes at " ++ hexNumber va
  | addressOverflow va =>
      "malformed ELF: virtual address overflow at " ++ hexNumber va
  | loadOverflow vaddr memsz =>
      "malformed ELF: PT_LOAD p_vaddr " ++ hexNumber vaddr ++ " + p_memsz " ++
        hexNumber memsz ++ " overflow"
  | fileOverflow vaddr filesz =>
      "malformed ELF: PT_LOAD p_vaddr " ++ hexNumber vaddr ++ " + p_filesz " ++
        hexNumber filesz ++ " overflow"
  | notFileBacked va =>
      "virtual address " ++ hexNumber va ++ " is in BSS of a PT_LOAD " ++
        "segment (not file-backed); UUID cannot be read from the file"
  | offsetOverflow va =>
      "malformed ELF: PT_LOAD file offset overflow at " ++ hexNumber va
  | offsetTooLarge off =>
      "malformed ELF: file offset " ++ hexNumber off ++
        " does not fit in usize"
  | rangeOverflow off =>
      s!"malformed ELF: file range overflow at offset {off}"
  | pastFile off size length =>
      s!"offset {off} size {size} exceeds file length {length}"
  | notLoaded va =>
      "virtual address " ++ hexNumber va ++ " is not in any PT_LOAD segment"
  | uuidSize length => s!"TEE_UUID must be 16 bytes, got {length}"

/-! ## Symbols -/

def parseOpteeElf (parse : List UInt8 → Option Elf) (data : List UInt8) :
    Except ElfError Elf := do
  if ¬ [0x7F, 0x45, 0x4C, 0x46].isPrefixOf data then throw .noMagic
  let some elf := parse data | throw .malformed
  if ¬ elf.littleEndian then throw .endianness
  if elf.eType ≠ etDyn then throw (.elfType elf.eType)
  if (elf.eMachine = emAarch64 ∧ elf.eiClass = elfClass64 ∧ elf.is64) ∨
      (elf.eMachine = emArm ∧ elf.eiClass = elfClass32 ∧ ¬ elf.is64) then
    return elf
  throw (.target elf.eMachine elf.eiClass elf.is64)

def pointerWidth (elf : Elf) : Nat := if elf.is64 then 8 else 4

def exportedSymbol (elf : Elf) (name : String) : Option Sym :=
  elf.dynsyms.find? fun sym =>
    elf.dynstrtab sym.stName == some name && sym.stShndx != 0 &&
      (sym.stBind == stbGlobal || sym.stBind == stbWeak)

def hasNamedSym (elf : Elf) (name : String) : Bool :=
  elf.syms.any fun sym =>
    elf.strtab sym.stName == some name && sym.stShndx != 0

def ensureObject (name : String) (sym : Sym) (minSize : Nat) :
    Except ElfError Unit := do
  if sym.stType ≠ sttObject ∧ sym.stType ≠ sttNotype then
    throw (.symbolType name sym.stType)
  if sym.stSize ≠ 0 ∧ sym.stSize.toNat < minSize then
    throw (.symbolSize name sym.stSize.toNat minSize)

/-- An exported object that is large enough, as far as its size is known. -/
def exportedObject (elf : Elf) (name reason : String) (minSize : Nat) :
    Except ElfError Sym := do
  let some sym := exportedSymbol elf name |
    throw (if hasNamedSym elf name then .notExported name reason
      else .notFound name)
  ensureObject name sym minSize
  return sym

/-! ## Bytes at an address -/

/-- How the build tool was compiled; `usize` is no wider than `u64`. -/
structure Host where
  usizeBits : Nat
  usize_le : usizeBits ≤ 64
  overflowChecks : Bool

def getRange (data : List UInt8) (off endOff : Nat) : Option (List UInt8) :=
  if off ≤ endOff ∧ endOff ≤ data.length then
    some ((data.drop off).take (endOff - off))
  else none

section BytesAtVa

variable (host : Host) (data : List UInt8) (va endVa size : Nat)

def bytesAtDelta (ph : ProgramHeader) (delta : Nat) :
    Except ElfError (List UInt8) :=
  match checkedSum 64 ph.pOffset.toNat delta with
  | none => .error (.offsetOverflow va)
  | some off =>
      if 2 ^ host.usizeBits ≤ off then .error (.offsetTooLarge off)
      else
        match checkedSum host.usizeBits off size with
        | none => .error (.rangeOverflow off)
        | some endOff =>
            match getRange data off endOff with
            | none => .error (.pastFile off size data.length)
            | some bytes => .ok bytes

def bytesInLoad (ph : ProgramHeader) :
    Option (Except ElfError (List UInt8)) :=
  match checkedSum 64 ph.pVaddr.toNat ph.pFilesz.toNat with
  | none =>
      some (.error (.fileOverflow ph.pVaddr.toNat ph.pFilesz.toNat))
  | some fileEnd =>
      if fileEnd < endVa then some (.error (.notFileBacked va))
      else
        (wordSub 64 host.overflowChecks va ph.pVaddr.toNat).map
          (bytesAtDelta host data va size ph)

def bytesInLoads : List ProgramHeader → Option (Except ElfError (List UInt8))
  | [] => some (.error (.notLoaded va))
  | ph :: rest =>
      match checkedSum 64 ph.pVaddr.toNat ph.pMemsz.toNat with
      | none =>
          some (.error (.loadOverflow ph.pVaddr.toNat ph.pMemsz.toNat))
      | some loadEnd =>
          if va < ph.pVaddr.toNat ∨ loadEnd < endVa then bytesInLoads rest
          else bytesInLoad host data va endVa size ph

end BytesAtVa

def Elf.loads (elf : Elf) : List ProgramHeader :=
  elf.programHeaders.filter fun ph => ph.pType = ptLoad

/-- None when it panics. -/
def bytesAtVa (host : Host) (elf : Elf) (data : List UInt8) (va size : Nat) :
    Option (Except ElfError (List UInt8)) :=
  if 2 ^ 64 ≤ size then some (.error (.request size va))
  else
    match checkedSum 64 va size with
    | none => some (.error (.addressOverflow va))
    | some endVa => bytesInLoads host data va endVa size elf.loads

/-! ## The UUID -/

def teeUuidSize : Nat := 16

def teeUuid (bytes : List UInt8) : Except ElfError UuidOctets :=
  if h : bytes.length = 16 then .ok (.fromBytesLe bytes h)
  else .error (.uuidSize bytes.length)

section Read

variable (host : Host) (parse : List UInt8 → Option Elf) (data : List UInt8)

def readTaUuidFromBytes : Option (Except ElfError UuidOctets) :=
  match parseOpteeElf parse data with
  | .error error => some (.error error)
  | .ok elf =>
      match exportedObject elf "ta_head" "ldelf resolves it from dynsym"
        teeUuidSize with
      | .error error => some (.error error)
      | .ok sym =>
          (bytesAtVa host elf data sym.stValue.toNat teeUuidSize).map
            fun bytes => bytes.bind teeUuid

def readPluginUuidFromBytes : Option (Except ElfError UuidOctets) :=
  match parseOpteeElf parse data with
  | .error error => some (.error error)
  | .ok elf =>
      let uuidOff := pointerWidth elf
      match exportedObject elf "plugin_method"
        ("tee-supplicant resolves it with dlsym and a non-exported object " ++
          "cannot be used") (uuidOff + teeUuidSize) with
      | .error error => some (.error error)
      | .ok sym =>
          match checkedSum 64 sym.stValue.toNat uuidOff with
          | none => some (.error (.skipsName sym.stValue.toNat))
          | some va =>
              (bytesAtVa host elf data va teeUuidSize).map
                fun bytes => bytes.bind teeUuid

end Read

section ReadFile

variable (host : Host) (parse : List UInt8 → Option Elf)
  (contents : Option (List UInt8))

def readTaUuid : Option (Except ElfError UuidOctets) :=
  match contents with
  | none => some (.error .unreadable)
  | some data => readTaUuidFromBytes host parse data

def readPluginUuid : Option (Except ElfError UuidOctets) :=
  match contents with
  | none => some (.error .unreadable)
  | some data => readPluginUuidFromBytes host parse data

end ReadFile

/-! ## What the loop finds -/

def ProgramHeader.segment (ph : ProgramHeader) : Segment :=
  ⟨ph.pVaddr.toNat, ph.pMemsz.toNat, ph.pFilesz.toNat, ph.pOffset.toNat⟩

def Elf.segments (elf : Elf) : List Segment :=
  elf.loads.map ProgramHeader.segment

section Loop

variable {host : Host} {data bytes : List UInt8} {va size : Nat}
  {ph : ProgramHeader}

theorem getRange_eq_some {off : Nat} :
    getRange data off (off + size) = some bytes ↔
      off + size ≤ data.length ∧ bytes = (data.drop off).take size := by
  by_cases h : off + size ≤ data.length
  · simp [getRange, h, eq_comm]
  · simp [getRange, h]

theorem bytesAtDelta_ok_iff {delta : Nat} :
    bytesAtDelta host data va size ph delta = .ok bytes ↔
      ph.pOffset.toNat + delta < 2 ^ 64 ∧
        ph.pOffset.toNat + delta + size < 2 ^ host.usizeBits ∧
        ph.pOffset.toNat + delta + size ≤ data.length ∧
        bytes = (data.drop (ph.pOffset.toNat + delta)).take size := by
  unfold bytesAtDelta
  by_cases hoff : ph.pOffset.toNat + delta < 2 ^ 64
  · rw [checkedSum_of_lt hoff]
    by_cases hend : ph.pOffset.toNat + delta + size < 2 ^ host.usizeBits
    · have hfits : ¬ 2 ^ host.usizeBits ≤ ph.pOffset.toNat + delta := by omega
      simp only [hfits, if_false, checkedSum_of_lt hend, ← getRange_eq_some,
        hoff, hend, true_and]
      cases getRange data _ _ <;> simp
    · by_cases hlarge : 2 ^ host.usizeBits ≤ ph.pOffset.toNat + delta
      · simp [hlarge, hend]
      · simp [hlarge, hend, checkedSum_of_not_lt hend]
  · rw [checkedSum_of_not_lt hoff]
    simp only [hoff, reduceCtorEq, false_and]

theorem bytesInLoad_ok_iff (hlow : ph.pVaddr.toNat ≤ va) {endVa : Nat} :
    bytesInLoad host data va endVa size ph = some (.ok bytes) ↔
      ph.pVaddr.toNat + ph.pFilesz.toNat < 2 ^ 64 ∧
        endVa ≤ ph.pVaddr.toNat + ph.pFilesz.toNat ∧
        bytesAtDelta host data va size ph (va - ph.pVaddr.toNat) =
          .ok bytes := by
  unfold bytesInLoad
  by_cases hsum : ph.pVaddr.toNat + ph.pFilesz.toNat < 2 ^ 64
  · rw [checkedSum_of_lt hsum, wordSub_of_le hlow]
    by_cases hbacked : ph.pVaddr.toNat + ph.pFilesz.toNat < endVa
    · have hnot : ¬ endVa ≤ ph.pVaddr.toNat + ph.pFilesz.toNat := by omega
      simp [hbacked, hnot]
    · have hle : endVa ≤ ph.pVaddr.toNat + ph.pFilesz.toNat := by omega
      simp only [hbacked, if_false, hsum, hle, true_and, Option.map_some,
        Option.some.injEq]
  · rw [checkedSum_of_not_lt hsum]
    simp only [hsum, Option.some.injEq, reduceCtorEq, false_and]

theorem bytesInLoad_isSome (hlow : ph.pVaddr.toNat ≤ va) (endVa : Nat) :
    ∃ result, bytesInLoad host data va endVa size ph = some result := by
  unfold bytesInLoad
  rw [wordSub_of_le hlow, Option.map_some]
  split
  · exact ⟨_, rfl⟩
  · split_ifs
    · exact ⟨_, rfl⟩
    · exact ⟨_, rfl⟩

theorem bytesInLoad_unchecked (hlow : ph.pVaddr.toNat ≤ va) (endVa : Nat) :
    bytesInLoad { host with overflowChecks := false } data va endVa size ph =
      bytesInLoad { host with overflowChecks := true } data va endVa size
        ph := by
  -- The subtraction is exact, so that both kinds of build do the same.
  simp only [bytesInLoad, wordSub_of_le hlow]
  rfl

variable {phs : List ProgramHeader} {endVa : Nat}

theorem bytesInLoads_isSome :
    ∃ result, bytesInLoads host data va endVa size phs = some result := by
  induction phs with
  | nil => exact ⟨_, rfl⟩
  | cons ph rest ih =>
      rw [bytesInLoads]
      split
      · exact ⟨_, rfl⟩
      · split_ifs with hskip
        · exact ih
        · exact bytesInLoad_isSome (by omega) endVa

theorem bytesInLoads_unchecked :
    bytesInLoads { host with overflowChecks := false } data va endVa size phs =
      bytesInLoads { host with overflowChecks := true } data va endVa size
        phs := by
  induction phs with
  | nil => rfl
  | cons ph rest ih =>
      rw [bytesInLoads, bytesInLoads]
      split
      · rfl
      · split_ifs with hskip
        · exact ih
        · exact bytesInLoad_unchecked (by omega) endVa

theorem bytesInLoads_ok
    (h : bytesInLoads host data va endVa size phs = some (.ok bytes)) :
    ∃ ph ∈ phs, ph.pVaddr.toNat ≤ va ∧
      endVa ≤ ph.pVaddr.toNat + ph.pMemsz.toNat ∧
      bytesInLoad host data va endVa size ph = some (.ok bytes) := by
  induction phs with
  | nil => cases h
  | cons ph rest ih =>
      rw [bytesInLoads] at h
      split at h
      · cases h
      next loadEnd hloadEnd =>
        obtain ⟨-, rfl⟩ := checkedSum_eq_some.mp hloadEnd
        split_ifs at h with hskip
        · obtain ⟨found, hfound, hrest⟩ := ih h
          exact ⟨found, List.mem_cons_of_mem ph hfound, hrest⟩
        · exact ⟨ph, List.mem_cons_self, by omega, by omega, h⟩

theorem bytesInLoads_of_mem (hsize : 0 < size)
    (hsums : ∀ ph ∈ phs, ph.pVaddr.toNat + ph.pMemsz.toNat < 2 ^ 64)
    (hapart : SegmentsApart (phs.map ProgramHeader.segment))
    (hmem : ph ∈ phs) (hlow : ph.pVaddr.toNat ≤ va)
    (hhigh : va + size ≤ ph.pVaddr.toNat + ph.pMemsz.toNat) :
    bytesInLoads host data va (va + size) size phs =
      bytesInLoad host data va (va + size) size ph := by
  -- A segment that maps a range is not passed over for another.
  induction phs with
  | nil => cases hmem
  | cons first rest ih =>
      obtain ⟨hfirst, hrest⟩ := List.forall_mem_cons.mp hsums
      rw [List.map_cons] at hapart
      obtain ⟨hdisjoint, hapart⟩ := List.pairwise_cons.mp hapart
      rw [bytesInLoads, checkedSum_of_lt hfirst]
      dsimp only
      rcases List.mem_cons.mp hmem with rfl | hmem
      · exact if_neg (by omega)
      · have hskip : va < first.pVaddr.toNat ∨
            first.pVaddr.toNat + first.pMemsz.toNat < va + size := by
          by_contra hcovers
          refine hdisjoint ph.segment (List.mem_map_of_mem hmem) va ?_
          simp only [Segment.maps_iff, ProgramHeader.segment]
          omega
        rw [if_pos hskip]
        exact ih hrest hapart hmem

end Loop

section Lookup

variable {host : Host} {elf : Elf} {data bytes : List UInt8} {va size : Nat}

theorem bytesAtVa_isSome :
    ∃ result, bytesAtVa host elf data va size = some result := by
  unfold bytesAtVa
  split_ifs
  · exact ⟨_, rfl⟩
  · split
    · exact ⟨_, rfl⟩
    · exact bytesInLoads_isSome

theorem bytesAtVa_unchecked :
    bytesAtVa { host with overflowChecks := false } elf data va size =
      bytesAtVa { host with overflowChecks := true } elf data va size := by
  simp only [bytesAtVa, bytesInLoads_unchecked]

theorem bytesAtVa_ok
    (h : bytesAtVa host elf data va size = some (.ok bytes)) :
    ∃ ph ∈ elf.loads, ph.segment.Backs va size ∧
      ph.pOffset.toNat + (va - ph.pVaddr.toNat) + size ≤ data.length ∧
      bytes =
        (data.drop (ph.pOffset.toNat + (va - ph.pVaddr.toNat))).take size := by
  unfold bytesAtVa at h
  split_ifs at h
  · cases h
  split at h
  · cases h
  next endVa hendVa =>
    obtain ⟨-, rfl⟩ := checkedSum_eq_some.mp hendVa
    obtain ⟨ph, hmem, hlow, hhigh, hload⟩ := bytesInLoads_ok h
    obtain ⟨-, hbacked, hdelta⟩ := (bytesInLoad_ok_iff hlow).mp hload
    obtain ⟨-, -, hinside, hbytes⟩ := bytesAtDelta_ok_iff.mp hdelta
    exact ⟨ph, hmem, ⟨hlow, hhigh, hbacked⟩, hinside, hbytes⟩

/-- What is returned is what the loader maps there. -/
theorem bytesAtVa_image (hapart : SegmentsApart elf.segments)
    (h : bytesAtVa host elf data va size = some (.ok bytes)) :
    bytes.length = size ∧ bytes <:+: data ∧
      imageBytes data elf.segments va size = bytes.map some := by
  obtain ⟨ph, hmem, hbacks, hinside, rfl⟩ := bytesAtVa_ok h
  refine ⟨?_, ?_, ?_⟩
  · rw [List.length_take, List.length_drop]
    omega
  · exact List.IsInfix.trans (List.take_prefix _ _).isInfix
      (List.drop_suffix _ _).isInfix
  · exact imageBytes_of_backs hapart (List.mem_map_of_mem hmem) hbacks hinside

theorem bytesAtVa_of_backs (hsize : 0 < size)
    (hfile : data.length < 2 ^ host.usizeBits)
    (hapart : SegmentsApart elf.segments)
    (hsums : ∀ ph ∈ elf.loads, ph.pVaddr.toNat + ph.pMemsz.toNat < 2 ^ 64)
    {ph : ProgramHeader} (hmem : ph ∈ elf.loads)
    (hbacks : ph.segment.Backs va size)
    (hinside : ph.pOffset.toNat + ph.pFilesz.toNat ≤ data.length)
    (hsum : ph.pVaddr.toNat + ph.pFilesz.toNat < 2 ^ 64) :
    bytesAtVa host elf data va size = some (.ok
      ((data.drop (ph.pOffset.toNat + (va - ph.pVaddr.toNat))).take
        size)) := by
  obtain ⟨hlow, hhigh, hbacked⟩ := hbacks
  simp only [ProgramHeader.segment] at hlow hhigh hbacked
  have hmemory := hsums ph hmem
  have husize : 2 ^ host.usizeBits ≤ 2 ^ 64 :=
    Nat.pow_le_pow_right (by decide) host.usize_le
  have hsmall : ¬ 2 ^ 64 ≤ size := by omega
  have hendVa : va + size < 2 ^ 64 := by omega
  rw [bytesAtVa, if_neg hsmall, checkedSum_of_lt hendVa]
  dsimp only
  rw [bytesInLoads_of_mem hsize hsums hapart hmem hlow hhigh,
    bytesInLoad_ok_iff hlow, bytesAtDelta_ok_iff]
  exact ⟨hsum, hbacked, by omega, by omega, by omega, rfl⟩

end Lookup

/-! ## Where a UUID comes from -/

def Sym.Covers (sym : Sym) (va size : Nat) : Prop :=
  sym.stSize ≠ 0 → sym.stValue.toNat ≤ va ∧
    va + size ≤ sym.stValue.toNat + sym.stSize.toNat

theorem ensureObject_ok_iff {name : String} {sym : Sym} {minSize : Nat} :
    ensureObject name sym minSize = .ok () ↔
      (sym.stType = sttObject ∨ sym.stType = sttNotype) ∧
        (sym.stSize ≠ 0 → minSize ≤ sym.stSize.toNat) := by
  by_cases htype : sym.stType = sttObject ∨ sym.stType = sttNotype
  · have hkind : ¬ (sym.stType ≠ sttObject ∧ sym.stType ≠ sttNotype) := by
      rwa [← not_or, not_not]
    by_cases hsize : sym.stSize ≠ 0 ∧ sym.stSize.toNat < minSize
    · have hnot : ¬ (sym.stSize ≠ 0 → minSize ≤ sym.stSize.toNat) := fun h =>
        Nat.not_le.mpr hsize.2 (h hsize.1)
      simp only [ensureObject, if_neg hkind, if_pos hsize, htype, hnot,
        and_false]
      exact iff_of_false nofun not_false
    · have hle : sym.stSize ≠ 0 → minSize ≤ sym.stSize.toNat := fun h =>
        Nat.not_lt.mp fun hlt => hsize ⟨h, hlt⟩
      simp only [ensureObject, if_neg hkind, if_neg hsize, htype, true_and]
      exact iff_of_true rfl hle
  · have hkind : sym.stType ≠ sttObject ∧ sym.stType ≠ sttNotype :=
      not_or.mp htype
    simp only [ensureObject, if_pos hkind, htype, false_and]
    exact iff_of_false nofun not_false

theorem exportedObject_ok_iff {elf : Elf} {name reason : String}
    {minSize : Nat} {sym : Sym} :
    exportedObject elf name reason minSize = .ok sym ↔
      exportedSymbol elf name = some sym ∧
        ensureObject name sym minSize = .ok () := by
  cases hsym : exportedSymbol elf name with
  | none => simp [exportedObject, hsym]
  | some found =>
      cases hobject : ensureObject name found minSize with
      | error error =>
          simp only [exportedObject, hsym, hobject, bind, Except.bind,
            Option.some.injEq]
          constructor
          · nofun
          · rintro ⟨rfl, hok⟩
            rw [hobject] at hok
            cases hok
      | ok done =>
          simp only [exportedObject, hsym, hobject, bind, Except.bind, pure,
            Except.pure, Except.ok.injEq, Option.some.injEq]
          constructor
          · rintro rfl
            exact ⟨rfl, hobject⟩
          · exact fun h => h.1

section Uuid

variable {host : Host} {parse : List UInt8 → Option Elf} {data : List UInt8}
  {uuid : UuidOctets}

theorem teeUuid_map_ok {lookup : Option (Except ElfError (List UInt8))}
    (h : lookup.map (fun bytes => bytes.bind teeUuid) = some (.ok uuid)) :
    ∃ bytes, lookup = some (.ok bytes) ∧ teeUuid bytes = .ok uuid := by
  obtain ⟨result, hresult, hbind⟩ := Option.map_eq_some_iff.mp h
  cases result with
  | error error => cases hbind
  | ok bytes => exact ⟨bytes, hresult, hbind⟩

theorem readTaUuidFromBytes_ok
    (h : readTaUuidFromBytes host parse data = some (.ok uuid)) :
    ∃ elf sym bytes, parseOpteeElf parse data = .ok elf ∧
      exportedSymbol elf "ta_head" = some sym ∧
      sym.Covers sym.stValue.toNat teeUuidSize ∧
      bytesAtVa host elf data sym.stValue.toNat teeUuidSize =
        some (.ok bytes) ∧
      teeUuid bytes = .ok uuid := by
  unfold readTaUuidFromBytes at h
  split at h
  · cases h
  next elf helf =>
    split at h
    · cases h
    next sym hobject =>
      obtain ⟨hsym, hensure⟩ := exportedObject_ok_iff.mp hobject
      obtain ⟨bytes, hbytes, huuid⟩ := teeUuid_map_ok h
      refine ⟨elf, sym, bytes, helf, hsym, fun hknown => ?_, hbytes, huuid⟩
      have := (ensureObject_ok_iff.mp hensure).2 hknown
      omega

theorem readPluginUuidFromBytes_ok
    (h : readPluginUuidFromBytes host parse data = some (.ok uuid)) :
    ∃ elf sym bytes, parseOpteeElf parse data = .ok elf ∧
      exportedSymbol elf "plugin_method" = some sym ∧
      sym.Covers (sym.stValue.toNat + pointerWidth elf) teeUuidSize ∧
      bytesAtVa host elf data (sym.stValue.toNat + pointerWidth elf)
        teeUuidSize = some (.ok bytes) ∧
      teeUuid bytes = .ok uuid := by
  unfold readPluginUuidFromBytes at h
  split at h
  · cases h
  next elf helf =>
    dsimp only at h
    split at h
    · cases h
    next sym hobject =>
      obtain ⟨hsym, hensure⟩ := exportedObject_ok_iff.mp hobject
      split at h
      · cases h
      next va hva =>
        obtain ⟨-, rfl⟩ := checkedSum_eq_some.mp hva
        obtain ⟨bytes, hbytes, huuid⟩ := teeUuid_map_ok h
        refine ⟨elf, sym, bytes, helf, hsym, fun hknown => ?_, hbytes, huuid⟩
        have := (ensureObject_ok_iff.mp hensure).2 hknown
        omega

end Uuid

theorem elf_uuid_lookup_reads_loader_image (host : Host) (elf : Elf)
    (data : List UInt8) (va size : Nat) :
    (SegmentsApart elf.segments →
      ∀ bytes, bytesAtVa host elf data va size = some (.ok bytes) →
        bytes.length = size ∧ bytes <:+: data ∧
          imageBytes data elf.segments va size = bytes.map some) ∧
    (0 < size → data.length < 2 ^ host.usizeBits →
      SegmentsApart elf.segments →
      (∀ ph ∈ elf.loads, ph.pVaddr.toNat + ph.pMemsz.toNat < 2 ^ 64) →
      ∀ ph ∈ elf.loads, ph.segment.Backs va size →
        ph.pOffset.toNat + ph.pFilesz.toNat ≤ data.length →
        ph.pVaddr.toNat + ph.pFilesz.toNat < 2 ^ 64 →
        ∃ bytes, bytesAtVa host elf data va size = some (.ok bytes)) ∧
    ((∃ result, bytesAtVa host elf data va size = some result) ∧
      bytesAtVa { host with overflowChecks := false } elf data va size =
        bytesAtVa { host with overflowChecks := true } elf data va size) ∧
    (∀ parse contents uuid,
      readTaUuid host parse contents = some (.ok uuid) →
        ∃ file found sym bytes, contents = some file ∧
          parseOpteeElf parse file = .ok found ∧
          exportedSymbol found "ta_head" = some sym ∧
          sym.Covers sym.stValue.toNat teeUuidSize ∧
          bytesAtVa host found file sym.stValue.toNat teeUuidSize =
            some (.ok bytes) ∧
          teeUuid bytes = .ok uuid) ∧
    ∀ parse contents uuid,
      readPluginUuid host parse contents = some (.ok uuid) →
        ∃ file found sym bytes, contents = some file ∧
          parseOpteeElf parse file = .ok found ∧
          exportedSymbol found "plugin_method" = some sym ∧
          sym.Covers (sym.stValue.toNat + pointerWidth found) teeUuidSize ∧
          bytesAtVa host found file (sym.stValue.toNat + pointerWidth found)
            teeUuidSize = some (.ok bytes) ∧
          teeUuid bytes = .ok uuid := by
  refine ⟨fun hapart bytes h => bytesAtVa_image hapart h, ?_,
    ⟨bytesAtVa_isSome, bytesAtVa_unchecked⟩, ?_, ?_⟩
  · intro hsize hfile hapart hsums ph hmem hbacks hinside hsum
    exact ⟨_, bytesAtVa_of_backs hsize hfile hapart hsums hmem hbacks hinside
      hsum⟩
  · intro parse contents uuid h
    cases contents with
    | none => cases h
    | some file =>
        obtain ⟨found, sym, bytes, hrest⟩ := readTaUuidFromBytes_ok h
        exact ⟨file, found, sym, bytes, rfl, hrest⟩
  · intro parse contents uuid h
    cases contents with
    | none => cases h
    | some file =>
        obtain ⟨found, sym, bytes, hrest⟩ := readPluginUuidFromBytes_ok h
        exact ⟨file, found, sym, bytes, rfl, hrest⟩

def oneLoad (vaddr memsz filesz : UInt64) : Elf where
  littleEndian := true
  eType := etDyn
  eMachine := emAarch64
  eiClass := elfClass64
  is64 := true
  programHeaders := [⟨ptLoad, 0, vaddr, filesz, memsz⟩]
  dynsyms := []
  dynstrtab := fun _ => none
  syms := []
  strtab := fun _ => none

def host64 : Host := ⟨64, by decide, true⟩

theorem oneLoad_bytes_found :
    ∃ bytes, bytesAtVa host64 (oneLoad 0x1000 8 4) [1, 2, 3, 4] 0x1001 2 =
      some (.ok bytes) :=
  (elf_uuid_lookup_reads_loader_image host64 (oneLoad 0x1000 8 4) [1, 2, 3, 4]
    0x1001 2).2.1 (by decide) (by decide) (List.pairwise_singleton _ _)
    (by decide) ⟨ptLoad, 0, 0x1000, 4, 8⟩ (by decide)
    ⟨by decide, by decide, by decide⟩ (by decide) (by decide)

/-- The file has more of the segment than the segment has memory. -/
theorem file_size_past_address_space_refused :
    let elf := oneLoad (-10) 5 20
    let file : List UInt8 := List.replicate 20 7
    SegmentsApart elf.segments ∧
      (∀ ph ∈ elf.loads, ph.pVaddr.toNat + ph.pMemsz.toNat < 2 ^ 64 ∧
        ph.segment.Backs (2 ^ 64 - 10) 5 ∧
        ph.pOffset.toNat + ph.pFilesz.toNat ≤ file.length) ∧
      elf.loads ≠ [] ∧
      bytesAtVa host64 elf file (2 ^ 64 - 10) 5 =
        some (.error (.fileOverflow (2 ^ 64 - 10) 20)) := by
  refine ⟨List.pairwise_singleton _ _, ?_, by decide, by decide⟩
  intro ph hph
  have hloads : (oneLoad (-10) 5 20).loads = [⟨ptLoad, 0, -10, 20, 5⟩] := rfl
  rw [hloads, List.mem_singleton] at hph
  subst hph
  exact ⟨by decide, ⟨by decide, by decide, by decide⟩, by decide⟩

end TrustZoneSdk.CargoOptee
