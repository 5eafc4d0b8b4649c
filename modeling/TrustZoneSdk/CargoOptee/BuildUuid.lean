import TrustZoneSdk.CargoOptee.ElfUuid
import TrustZoneSdk.CargoOptee.TaBuilder
import TrustZoneSdk.Foundation.StructLayout

/-!
# The UUID of the configuration

The build scripts of a TA and of a plugin write the UUID of their
configuration into a static; the compiler lays the static out, the linker puts
it into a segment, and the build tool reads the UUID back to name the file it
publishes.
-/

namespace TrustZoneSdk.CargoOptee

open TrustZoneSdk.Foundation

/-! ## What the build scripts write -/

def uuidStruct (fields : UuidFields) : List UInt8 :=
  layout [⟨4, encodeLe 4 fields.timeLow.toNat⟩,
    ⟨2, encodeLe 2 fields.timeMid.toNat⟩,
    ⟨2, encodeLe 2 fields.timeHiAndVersion.toNat⟩,
    ⟨1, fields.clockSeqAndNode⟩]

theorem uuidStruct_eq (fields : UuidFields) :
    uuidStruct fields = fields.bytesLe := by
  simp [uuidStruct, layout, place, padding, UuidFields.bytesLe]

structure TaConfig where
  uuid : UuidOctets
  taFlags : UInt32
  taStackSize : UInt32
  taFrameworkStackSize : UInt32
  deriving DecidableEq

structure TaHead where
  uuid : UuidFields
  stackSize : Nat
  flags : UInt32
  deprEntry : Nat
  deriving DecidableEq

/-- None if the build script panics on the sum of the stack sizes. -/
def writeTaHead (overflowChecks : Bool) (conf : TaConfig) : Option TaHead := do
  let stackSize ← wordAdd 32 overflowChecks conf.taStackSize.toNat
    conf.taFrameworkStackSize.toNat
  return ⟨conf.uuid.asFields, stackSize, conf.taFlags, 2 ^ 64 - 1⟩

def TaHead.bytes (head : TaHead) : List UInt8 :=
  layout [⟨4, uuidStruct head.uuid⟩, ⟨4, encodeLe 4 head.stackSize⟩,
    ⟨4, encodeLe 4 head.flags.toNat⟩, ⟨8, encodeLe 8 head.deprEntry⟩]

structure PluginMethod where
  name : Nat
  uuid : UuidFields
  init : Nat
  invoke : Nat
  deriving DecidableEq

def generateBinding (uuid : UuidOctets) (name init invoke : Nat) :
    PluginMethod :=
  ⟨name, uuid.asFields, init, invoke⟩

def PluginMethod.bytes (pointer : Nat) (method : PluginMethod) : List UInt8 :=
  layout [⟨pointer, encodeLe pointer method.name⟩, ⟨4, uuidStruct method.uuid⟩,
    ⟨pointer, encodeLe pointer method.init⟩,
    ⟨pointer, encodeLe pointer method.invoke⟩]

theorem TaHead.uuid_leads (head : TaHead) :
    head.uuid.bytesLe <+: head.bytes := by
  have h := prefix_foldl_place (place [] ⟨4, uuidStruct head.uuid⟩)
    [⟨4, encodeLe 4 head.stackSize⟩, ⟨4, encodeLe 4 head.flags.toNat⟩,
      ⟨8, encodeLe 8 head.deprEntry⟩]
  rw [place_of_aligned (by simp [padding]), List.nil_append,
    uuidStruct_eq] at h
  rwa [TaHead.bytes, layout, List.foldl_cons,
    place_of_aligned (by simp [padding]), List.nil_append, uuidStruct_eq]

theorem PluginMethod.uuid_leads (method : PluginMethod) {pointer : Nat}
    (h : pointer = 4 ∨ pointer = 8) :
    encodeLe pointer method.name ++ method.uuid.bytesLe <+:
      method.bytes pointer := by
  have hfirst : place [] ⟨pointer, encodeLe pointer method.name⟩ =
      encodeLe pointer method.name := by
    rw [place_of_aligned (by simp [padding]), List.nil_append]
  have hsecond : padding 4 (encodeLe pointer method.name).length = 0 := by
    rw [length_encodeLe]
    rcases h with rfl | rfl <;> rfl
  have hstart := prefix_foldl_place
    (place (encodeLe pointer method.name) ⟨4, uuidStruct method.uuid⟩)
    [⟨pointer, encodeLe pointer method.init⟩,
      ⟨pointer, encodeLe pointer method.invoke⟩]
  rw [place_of_aligned hsecond, uuidStruct_eq] at hstart
  rwa [PluginMethod.bytes, layout, List.foldl_cons, hfirst, List.foldl_cons,
    place_of_aligned hsecond, uuidStruct_eq]

/-! ## What the linker leaves -/

/-- The file has an object at an address, in the file's part of a segment. -/
structure Stored (elf : Elf) (data : List UInt8) (va : Nat)
    (object : List UInt8) : Prop where
  apart : SegmentsApart elf.segments
  sums : ∀ ph ∈ elf.loads, ph.pVaddr.toNat + ph.pMemsz.toNat < 2 ^ 64
  backed : ∃ ph ∈ elf.loads, ph.segment.Backs va object.length ∧
    ph.pOffset.toNat + ph.pFilesz.toNat ≤ data.length ∧
    ph.pFilesz.toNat ≤ ph.pMemsz.toNat ∧
    object <+: data.drop (ph.pOffset.toNat + (va - ph.pVaddr.toNat))

/-- The linker exports a static and stores it unchanged. -/
structure Emitted (elf : Elf) (data : List UInt8) (name : String)
    (object : List UInt8) (sym : Sym) : Prop where
  exported : exportedSymbol elf name = some sym
  isObject : sym.stType = sttObject
  whole : sym.stSize.toNat = object.length
  stored : Stored elf data sym.stValue.toNat object

theorem take_drop_of_prefix {before part object rest : List UInt8}
    (hpart : before ++ part <+: object) (h : object <+: rest) :
    (rest.drop before.length).take part.length = part := by
  obtain ⟨after, rfl⟩ := hpart.trans h
  rw [List.append_assoc, List.drop_left, List.take_left]

section ReadBack

variable {host : Host} {elf : Elf} {data object : List UInt8}

theorem Stored.bytesAtVa_part {va : Nat} (h : Stored elf data va object)
    (hfile : data.length < 2 ^ host.usizeBits) {before part : List UInt8}
    (hpart : before ++ part <+: object) (hne : part ≠ []) :
    va + before.length < 2 ^ 64 ∧
      bytesAtVa host elf data (va + before.length) part.length =
        some (.ok part) := by
  obtain ⟨ph, hmem, ⟨hlow, hhigh, hbacked⟩, hinside, hle, hobject⟩ := h.backed
  simp only [ProgramHeader.segment] at hlow hhigh hbacked
  have hsum := h.sums ph hmem
  have hsize : 0 < part.length := List.length_pos_iff.mpr hne
  have hlength := hpart.length_le
  rw [List.length_append] at hlength
  have hbacks : ph.segment.Backs (va + before.length) part.length := by
    simp only [Segment.Backs, ProgramHeader.segment]
    omega
  have hoffset : ph.pOffset.toNat + (va + before.length - ph.pVaddr.toNat) =
      ph.pOffset.toNat + (va - ph.pVaddr.toNat) + before.length := by omega
  refine ⟨by omega, ?_⟩
  rw [bytesAtVa_of_backs hsize hfile h.apart h.sums hmem hbacks hinside
    (by omega), hoffset, ← List.drop_drop,
    take_drop_of_prefix hpart hobject]

theorem teeUuid_bytesLe (uuid : UuidOctets) :
    teeUuid uuid.asFields.bytesLe = .ok uuid := by
  rw [teeUuid, dif_pos uuid.asFields.length_bytesLe,
    UuidFields.fromBytesLe_bytesLe, UuidOctets.octets_asFields]

theorem Stored.uuid_at {va : Nat} (h : Stored elf data va object)
    (hfile : data.length < 2 ^ host.usizeBits) (before : List UInt8)
    (uuid : UuidOctets)
    (hstart : before ++ uuid.asFields.bytesLe <+: object) :
    va + before.length < 2 ^ 64 ∧
      before.length + teeUuidSize ≤ object.length ∧
      (bytesAtVa host elf data (va + before.length) teeUuidSize).map
        (fun bytes => bytes.bind teeUuid) = some (.ok uuid) := by
  have hlength : uuid.asFields.bytesLe.length = teeUuidSize :=
    uuid.asFields.length_bytesLe
  have hne : uuid.asFields.bytesLe ≠ [] := by
    rw [← List.length_pos_iff, hlength]
    decide
  obtain ⟨hva, hbytes⟩ := h.bytesAtVa_part hfile hstart hne
  have hsize := hstart.length_le
  rw [List.length_append, hlength] at hsize
  rw [hlength] at hbytes
  refine ⟨hva, hsize, ?_⟩
  rw [hbytes, Option.map_some]
  exact congrArg some (teeUuid_bytesLe uuid)

theorem Emitted.exportedObject {name : String} {sym : Sym}
    (h : Emitted elf data name object sym) (reason : String) {minSize : Nat}
    (hsize : minSize ≤ object.length) :
    exportedObject elf name reason minSize = .ok sym :=
  exportedObject_ok_iff.mpr ⟨h.exported,
    ensureObject_ok_iff.mpr ⟨Or.inl h.isObject, fun _ => h.whole ▸ hsize⟩⟩

end ReadBack

section Built

variable (host : Host) (parse : List UInt8 → Option Elf) (data : List UInt8)

/-- The file was linked from the code generated for a configuration. -/
def TaBuilt (conf : TaConfig) : Prop :=
  data.length < 2 ^ host.usizeBits ∧
    ∃ overflowChecks head elf sym,
      writeTaHead overflowChecks conf = some head ∧
        parseOpteeElf parse data = .ok elf ∧
        Emitted elf data "ta_head" head.bytes sym

def PluginBuilt (uuid : UuidOctets) : Prop :=
  data.length < 2 ^ host.usizeBits ∧
    ∃ name init invoke elf sym, parseOpteeElf parse data = .ok elf ∧
      Emitted elf data "plugin_method"
        ((generateBinding uuid name init invoke).bytes (pointerWidth elf)) sym

variable {host parse data}

theorem writeTaHead_uuid {overflowChecks : Bool} {conf : TaConfig}
    {head : TaHead} (h : writeTaHead overflowChecks conf = some head) :
    head.uuid = conf.uuid.asFields := by
  obtain ⟨stackSize, -, hhead⟩ := Option.bind_eq_some_iff.mp h
  cases hhead
  rfl

theorem TaBuilt.read {conf : TaConfig} (h : TaBuilt host parse data conf) :
    readTaUuidFromBytes host parse data = some (.ok conf.uuid) := by
  obtain ⟨hfile, overflowChecks, head, elf, sym, hhead, helf, hemitted⟩ := h
  have hstart := head.uuid_leads
  rw [writeTaHead_uuid hhead] at hstart
  obtain ⟨-, hsize, huuid⟩ := hemitted.stored.uuid_at hfile [] conf.uuid hstart
  rw [List.length_nil, Nat.zero_add] at hsize
  rw [readTaUuidFromBytes, helf]
  dsimp only
  rw [hemitted.exportedObject _ hsize]
  exact huuid

theorem pointerWidth_cases (elf : Elf) :
    pointerWidth elf = 4 ∨ pointerWidth elf = 8 := by
  rw [pointerWidth]
  split_ifs
  · exact Or.inr rfl
  · exact Or.inl rfl

theorem PluginBuilt.read {uuid : UuidOctets}
    (h : PluginBuilt host parse data uuid) :
    readPluginUuidFromBytes host parse data = some (.ok uuid) := by
  obtain ⟨hfile, name, init, invoke, elf, sym, helf, hemitted⟩ := h
  have hstart := (generateBinding uuid name init invoke).uuid_leads
    (pointerWidth_cases elf)
  obtain ⟨hva, hsize, huuid⟩ := hemitted.stored.uuid_at hfile _ uuid hstart
  rw [length_encodeLe] at hva hsize huuid
  rw [readPluginUuidFromBytes, helf]
  dsimp only
  rw [hemitted.exportedObject _ hsize]
  dsimp only
  rw [checkedSum_of_lt hva]
  exact huuid

end Built

/-! ## The name of the published file -/

def Uuid.ofOctets (uuid : UuidOctets) : Uuid :=
  BitVec.ofNat 128 (decodeBe uuid.bytes)

theorem octets_ofOctets (uuid : UuidOctets) :
    (Uuid.ofOctets uuid).octets = uuid := by
  have hlt : decodeBe uuid.bytes < 2 ^ 128 := decodeBe_lt uuid.size
  have hnat : (Uuid.ofOctets uuid).toNat = decodeBe uuid.bytes := by
    rw [Uuid.ofOctets, BitVec.toNat_ofNat, Nat.mod_eq_of_lt hlt]
  have hbytes : encodeBe 16 (Uuid.ofOctets uuid).toNat = uuid.bytes := by
    rw [hnat, encodeBe_decodeBe uuid.size]
  exact UuidOctets.ext hbytes

section Publish

variable (host : Host) (parse : List UInt8 → Option Elf)

def taUuid (contents : Contents) : Option Uuid :=
  match readTaUuidFromBytes host parse contents with
  | some (.ok uuid) => some (.ofOctets uuid)
  | _ => none

def pluginName (uuid : UuidOctets) : FileName :=
  uuid.text ++ ".plugin.so".toList

/--
The new directory and the name that it has the plugin under; `random` is the
end of the name of the temporary file.
-/
def copyPlugin (files : Directory FileName Contents)
    (pluginSrc random : FileName) :
    Option (Except ElfError (Directory FileName Contents × FileName)) :=
  (readPluginUuid host parse (files pluginSrc)).map fun result => do
    let uuid ← result
    let pluginDest := pluginName uuid
    let tmp := pluginDest ++ '.' :: random
    let copied : Directory FileName Contents :=
      Function.update files tmp (files pluginSrc)
    return (copied.rename tmp pluginDest, pluginDest)

variable {host parse}

theorem TaBuilt.taUuid_eq {data : List UInt8} {conf : TaConfig}
    (h : TaBuilt host parse data conf) :
    taUuid host parse data = some (.ofOctets conf.uuid) := by
  rw [taUuid, h.read]

theorem PluginBuilt.copyPlugin_eq {files : Directory FileName Contents}
    {pluginSrc : FileName} {data : List UInt8} {uuid : UuidOctets}
    (h : PluginBuilt host parse data uuid)
    (hsrc : files pluginSrc = some data) (random : FileName) :
    ∃ next, copyPlugin host parse files pluginSrc random =
        some (.ok (next, pluginName uuid)) ∧
      next (pluginName uuid) = some data := by
  have hne : pluginName uuid ≠ pluginName uuid ++ '.' :: random := by
    intro heq
    have hlength := congrArg List.length heq
    simp at hlength
  refine ⟨Directory.rename (Function.update files
    (pluginName uuid ++ '.' :: random) (some data))
    (pluginName uuid ++ '.' :: random) (pluginName uuid), ?_, ?_⟩
  · rw [copyPlugin, hsrc, readPluginUuid, h.read, Option.map_some]
    rfl
  · rw [Directory.rename, Function.update_of_ne hne, Function.update_self,
      Function.update_self]

end Publish

/--
The UUID of the configuration is the one that is read back, and the published
file is named after it.
-/
theorem build_uuid_read_back (host : Host) (parse : List UInt8 → Option Elf) :
    (∀ data conf, TaBuilt host parse data conf →
      readTaUuidFromBytes host parse data = some (.ok conf.uuid)) ∧
    (∀ data uuid, PluginBuilt host parse data uuid →
      readPluginUuidFromBytes host parse data = some (.ok uuid)) ∧
    (∀ initial events name,
      let final := runEvents (taUuid host parse) events (.initial initial)
      IsOutput name → final.files name ≠ initial name →
        ∃ run ∈ final.signRuns, final.files name = some run.output ∧
          ∀ conf, TaBuilt host parse run.input conf →
            name = conf.uuid.text ++ ".ta".toList) ∧
    ∀ files pluginSrc random data uuid,
      files pluginSrc = some data → PluginBuilt host parse data uuid →
        ∃ next, copyPlugin host parse files pluginSrc random =
            some (.ok (next, uuid.text ++ ".plugin.so".toList)) ∧
          next (uuid.text ++ ".plugin.so".toList) = some data := by
  refine ⟨fun data conf h => h.read, fun data uuid h => h.read, ?_,
    fun files pluginSrc random data uuid hsrc h =>
      h.copyPlugin_eq hsrc random⟩
  intro initial events name final hname hchanged
  have hsound : Sound (taUuid host parse) initial final :=
    Sound.start.runEvents events
  obtain ⟨contents, hcontents, run, hrun, hout, hread, rfl⟩ :=
    (hsound.certified name hname).resolve_left hchanged
  refine ⟨run, hrun, hcontents, fun conf h => ?_⟩
  rw [h.taUuid_eq, Option.some.injEq] at hread
  rw [hout, ← hread, outputName, uuidText_eq_text, octets_ofOctets]
  rfl

def oneObjectFile (object : List UInt8) : List UInt8 :=
  [0x7F, 0x45, 0x4C, 0x46] ++ object

def oneObject (name : String) (size : UInt64) : Elf :=
  { oneLoad 0x1000 size size with
    programHeaders := [⟨ptLoad, 4, 0x1000, size, size⟩]
    dynsyms := [⟨1, 0x11, 1, 0x1000, size⟩]
    dynstrtab := fun _ => some name }

def countingUuid : UuidOctets :=
  ⟨[0, 1, 2, 3, 4, 5, 6, 7, 8, 9, 10, 11, 12, 13, 14, 15], rfl⟩

def countingHead : TaHead := ⟨countingUuid.asFields, 0x1800, 4, 2 ^ 64 - 1⟩

def countingMethod : PluginMethod :=
  generateBinding countingUuid 0x2000 0x3000 0x4000

def countingBuild : List Event :=
  [.createStripped 0 ⟨['t', 'a'], by decide⟩ ['x'],
    .childWrites 0 (some (oneObjectFile countingHead.bytes)),
    .objcopyExits 0 true, .readUuid 0, .createPartial 0 ['y'],
    .childWrites 0 (some [2, 3]), .signExits 0 true, .publish 0 true]

theorem countingUuid_read_back :
    readTaUuidFromBytes host64 (fun _ => some (oneObject "ta_head" 32))
        (oneObjectFile countingHead.bytes) = some (.ok countingUuid) ∧
      readPluginUuidFromBytes host64
        (fun _ => some (oneObject "plugin_method" 40))
        (oneObjectFile (countingMethod.bytes 8)) =
          some (.ok countingUuid) ∧
      ∃ run ∈ (runEvents
          (taUuid host64 fun _ => some (oneObject "ta_head" 32))
          countingBuild (.initial fun _ => none)).signRuns,
        run.output = [2, 3] := by
  refine ⟨(build_uuid_read_back host64 _).1 _ ⟨countingUuid, 4, 0x1000, 0x800⟩
      ⟨by decide, true, countingHead, oneObject "ta_head" 32,
        ⟨1, 0x11, 1, 0x1000, 32⟩, by decide, rfl, ?_⟩,
    (build_uuid_read_back host64 _).2.1 _ countingUuid
      ⟨by decide, 0x2000, 0x3000, 0x4000, oneObject "plugin_method" 40,
        ⟨1, 0x11, 1, 0x1000, 40⟩, rfl, ?_⟩, ?_⟩
  · exact ⟨rfl, by decide, by decide, List.pairwise_singleton _ _, by decide,
      _, List.mem_singleton_self _, ⟨by decide, by decide, by decide⟩,
      by decide, by decide, by decide⟩
  · exact ⟨rfl, by decide, by decide, List.pairwise_singleton _ _, by decide,
      _, List.mem_singleton_self _, ⟨by decide, by decide, by decide⟩,
      by decide, by decide, by decide⟩
  · have hfile : (runEvents
        (taUuid host64 fun _ => some (oneObject "ta_head" 32)) countingBuild
        (.initial fun _ => none)).files (outputName (.ofOctets countingUuid)) =
          some [2, 3] := by decide +kernel
    obtain ⟨run, hrun, houtput, -⟩ := (build_uuid_read_back host64 _).2.2.1
      (fun _ => none) countingBuild _ ⟨_, rfl⟩ (by rw [hfile]; nofun)
    rw [hfile, Option.some.injEq] at houtput
    exact ⟨run, hrun, houtput.symm⟩

end TrustZoneSdk.CargoOptee
