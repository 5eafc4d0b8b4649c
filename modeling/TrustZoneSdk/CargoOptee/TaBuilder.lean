import TrustZoneSdk.Foundation.Directory
import TrustZoneSdk.Foundation.Rfc4122

/-!
# Signing and publishing a TA

A build strips the ELF that Cargo left in its output directory into a private
temporary file, reads the UUID out of that file, has `sign_encrypt.py` sign it
into another private temporary file and renames the result to `<uuid>.ta`.
Any number of builds run at once on one directory; Cargo overwrites the
unsigned ELF files at any time; every step may fail, and a build may be killed
between any two, while the program that it has started goes on writing.
-/

namespace TrustZoneSdk.CargoOptee

open TrustZoneSdk.Foundation

abbrev Uuid := BitVec 128

abbrev FileName := List Char

abbrev Contents := List UInt8

/-! ## File names -/

def uuidText (uuid : Uuid) : FileName :=
  let digits := hexText 32 uuid.toNat
  digits.take 8 ++ '-' :: (digits.drop 8).take 4 ++
    '-' :: (digits.drop 12).take 4 ++ '-' :: (digits.drop 16).take 4 ++
    '-' :: digits.drop 20

/-- The name of the ELF file of a Cargo target, which has no dot in it. -/
structure TargetName where
  text : FileName
  noDot : '.' ∉ text

def strippedName (fileName : TargetName) (random : FileName) : FileName :=
  ['s', 't', 'r', 'i', 'p', 'p', 'e', 'd', '_'] ++ fileName.text ++
    '.' :: random

def partialName (uuid : Uuid) (random : FileName) : FileName :=
  uuidText uuid ++ ['.', 't', 'a', '.'] ++ random ++
    ['.', 'p', 'a', 'r', 't', 'i', 'a', 'l']

def outputName (uuid : Uuid) : FileName :=
  uuidText uuid ++ ['.', 't', 'a']

/-! ## Builds -/

inductive Phase where
  | ready
  | stripping (elf : FileName)
  | stripped (elf : FileName)
  | identified (elf : FileName) (uuid : Uuid)
  | signing (elf : FileName) (uuid : Uuid) (tmp : FileName)
  | signed (elf : FileName) (uuid : Uuid) (tmp : FileName)
  | published (elf : FileName) (uuid : Uuid)
  /-- It has ended, though a program that it has started may go on writing. -/
  | ended (orphan : Option FileName)
  deriving DecidableEq, Repr

/-- A run of `sign_encrypt.py` that exited with success. -/
structure SignRun where
  uuid : Uuid
  input : Contents
  output : Contents
  deriving DecidableEq, Repr

/--
The directory, the builds, all names ever given to temporary files, and the
runs of `sign_encrypt.py` so far.
-/
structure System where
  files : Directory FileName Contents
  builds : Nat → Phase
  used : List FileName
  signRuns : List SignRun

def System.initial (files : Directory FileName Contents) : System :=
  ⟨files, fun _ => .ready, [], []⟩

namespace Phase

def owned : Phase → List FileName
  | ready => []
  | stripping elf => [elf]
  | stripped elf => [elf]
  | identified elf _ => [elf]
  | signing elf _ tmp => [elf, tmp]
  | signed elf _ tmp => [elf, tmp]
  | published elf _ => [elf]
  | ended orphan => orphan.toList

def writing : Phase → Option FileName
  | stripping elf => some elf
  | signing _ _ tmp => some tmp
  | ended orphan => orphan
  | _ => none

end Phase

inductive Event where
  | rebuild (fileName : TargetName) (contents : Option Contents)
  | createStripped (build : Nat) (fileName : TargetName) (random : FileName)
  | childWrites (build : Nat) (contents : Option Contents)
  | objcopyExits (build : Nat) (success : Bool)
  | readUuid (build : Nat)
  | createPartial (build : Nat) (random : FileName)
  | signExits (build : Nat) (success : Bool)
  | publish (build : Nat) (success : Bool)
  | finish (build : Nat)
  | fail (build : Nat)
  | kill (build : Nat)

namespace System

variable (system : System) (build : Nat)

def enter (phase : Phase) : System :=
  { system with builds := Function.update system.builds build phase }

def store (name : FileName) (contents : Option Contents) : System :=
  { system with files := Function.update system.files name contents }

def removeAll (names : List FileName) : System :=
  { system with
    files := fun name => if name ∈ names then none else system.files name }

def createTemp (name : FileName) (phase : Phase) : System :=
  if name ∈ system.used ∨ (system.files name).isSome then system
  else
    { (system.store name (some [])).enter build phase with
      used := name :: system.used }

def fail : System :=
  -- An error return drops the temporary files.
  match system.builds build with
  | .ended _ => system
  | phase =>
      (system.removeAll phase.owned).enter build (.ended phase.writing)

end System

def Event.exec (readTaUuid : Contents → Option Uuid) (system : System) :
    Event → System
  -- An event that does not fit the phase of its build does not happen.
  | .rebuild fileName contents => system.store fileName.text contents
  | .createStripped build fileName random =>
      match system.builds build with
      | .ready =>
          let name := strippedName fileName random
          system.createTemp build name (.stripping name)
      | _ => system
  | .childWrites build contents =>
      match (system.builds build).writing with
      | some name => system.store name contents
      | none => system
  | .objcopyExits build success =>
      match system.builds build with
      | .stripping elf =>
          if success then system.enter build (.stripped elf)
          else (system.store elf none).enter build (.ended none)
      | _ => system
  | .readUuid build =>
      match system.builds build with
      | .stripped elf =>
          match (system.files elf).bind readTaUuid with
          | some uuid => system.enter build (.identified elf uuid)
          | none => (system.store elf none).enter build (.ended none)
      | _ => system
  | .createPartial build random =>
      match system.builds build with
      | .identified elf uuid =>
          let name := partialName uuid random
          system.createTemp build name (.signing elf uuid name)
      | _ => system
  | .signExits build success =>
      match system.builds build with
      | .signing elf uuid tmp =>
          if success then
            match system.files elf, system.files tmp with
            | some input, some output =>
                { system.enter build (.signed elf uuid tmp) with
                  signRuns := ⟨uuid, input, output⟩ :: system.signRuns }
            | _, _ => system
          else (system.removeAll [elf, tmp]).enter build (.ended none)
      | _ => system
  | .publish build success =>
      match system.builds build with
      | .signed elf uuid tmp =>
          if success then
            { system.enter build (.published elf uuid) with
              files := system.files.rename tmp (outputName uuid) }
          else (system.store elf none).enter build (.ended none)
      | _ => system
  | .finish build =>
      match system.builds build with
      | .published elf _ =>
          (system.store elf none).enter build (.ended none)
      | _ => system
  | .fail build => system.fail build
  | .kill build =>
      system.enter build (.ended (system.builds build).writing)

def runEvents (readTaUuid : Contents → Option Uuid)
    (events : List Event) (system : System) : System :=
  events.foldl (Event.exec readTaUuid) system

/-! ## Names apart -/

theorem uuidText_head (uuid : Uuid) :
    ∃ nibble rest, nibble < 16 ∧ uuidText uuid = hexDigit nibble :: rest := by
  cases hdigits : hexText 32 uuid.toNat with
  | nil =>
      have hlength := length_hexText 32 uuid.toNat
      rw [hdigits] at hlength
      cases hlength
  | cons digit digits =>
      have hmem : digit ∈ hexText 32 uuid.toNat := by simp [hdigits]
      obtain ⟨nibble, hnibble, rfl⟩ := mem_hexText hmem
      refine ⟨nibble, (uuidText uuid).tail, hnibble, ?_⟩
      simp [uuidText, hdigits]

def Uuid.octets (uuid : Uuid) : UuidOctets :=
  ⟨encodeBe 16 uuid.toNat, length_encodeBe 16 uuid.toNat⟩

theorem uuidText_eq_text (uuid : Uuid) : uuidText uuid = uuid.octets.text := by
  have hdigits : hexText 32 uuid.toNat = hexBytes uuid.octets.bytes :=
    (hexBytes_encodeBe 16 uuid.toNat).symm
  have htake := fun count => take_hexBytes count
  have hdrop := fun count => drop_hexBytes count uuid.octets.bytes
  simp only [uuidText, hdigits, UuidOctets.text, hyphenated,
    List.append_assoc, List.cons_append]
  rw [htake 4, hdrop 4, htake 2, hdrop 6, htake 2, hdrop 8, htake 2, hdrop 10]

theorem Uuid.octets_injective {first second : Uuid}
    (h : first.octets = second.octets) : first = second := by
  have hfirst : decodeBe first.octets.bytes = first.toNat :=
    decodeBe_encodeBe first.isLt
  have hsecond : decodeBe second.octets.bytes = second.toNat :=
    decodeBe_encodeBe second.isLt
  apply BitVec.eq_of_toNat_eq
  rw [← hfirst, ← hsecond, h]

theorem uuidText_injective {first second : Uuid}
    (h : uuidText first = uuidText second) : first = second := by
  rw [uuidText_eq_text, uuidText_eq_text] at h
  exact Uuid.octets_injective (UuidOctets.text_injective h)

theorem outputName_injective {first second : Uuid}
    (h : outputName first = outputName second) : first = second :=
  uuidText_injective (List.append_cancel_right h)

def IsOutput (name : FileName) : Prop := ∃ uuid, name = outputName uuid

def IsTemp (name : FileName) : Prop :=
  (∃ fileName random, name = strippedName fileName random) ∨
    ∃ uuid random, name = partialName uuid random

theorem strippedName_ne_outputName (fileName : TargetName)
    (random : FileName) (uuid : Uuid) :
    strippedName fileName random ≠ outputName uuid := by
  intro h
  obtain ⟨nibble, rest, hnibble, htext⟩ := uuidText_head uuid
  have hdigit : ∀ nibble < 16, 's' ≠ hexDigit nibble := by decide
  rw [outputName, htext, strippedName] at h
  exact hdigit nibble hnibble (List.cons.inj h).1

theorem partialName_ne_outputName (first : Uuid) (random : FileName)
    (second : Uuid) : partialName first random ≠ outputName second := by
  intro h
  have hlast := congrArg List.getLast? h
  simp only [partialName, outputName, List.getLast?_append,
    List.getLast?_cons_cons, List.getLast?_singleton, Option.some_or,
    Option.some.injEq] at hlast
  exact absurd hlast (by decide)

theorem IsTemp.not_output {name : FileName} (h : IsTemp name) :
    ¬ IsOutput name := by
  rintro ⟨uuid, houtput⟩
  rcases h with ⟨fileName, random, hname⟩ | ⟨other, random, hname⟩
  · exact strippedName_ne_outputName fileName random uuid
      (hname.symm.trans houtput)
  · exact partialName_ne_outputName other random uuid
      (hname.symm.trans houtput)

theorem TargetName.not_output (fileName : TargetName) :
    ¬ IsOutput fileName.text := by
  rintro ⟨uuid, houtput⟩
  apply fileName.noDot
  rw [houtput, outputName]
  exact List.mem_append_right _ List.mem_cons_self

theorem TargetName.not_temp (fileName : TargetName) :
    ¬ IsTemp fileName.text := by
  rintro (⟨other, random, htemp⟩ | ⟨uuid, random, htemp⟩)
  · apply fileName.noDot
    rw [htemp, strippedName]
    exact List.mem_append_right _ List.mem_cons_self
  · apply fileName.noDot
    rw [htemp, partialName]
    exact List.mem_append_right _ List.mem_cons_self

/-! ## The invariant -/

section Invariant

variable (readTaUuid : Contents → Option Uuid)

/-- A run for this name put out the contents, from an ELF with that UUID. -/
def SignedFor (runs : List SignRun) (name : FileName)
    (contents : Contents) : Prop :=
  ∃ run ∈ runs, name = outputName run.uuid ∧
    readTaUuid run.input = some run.uuid ∧ contents = run.output

def Phase.Holds (files : Directory FileName Contents)
    (runs : List SignRun) : Phase → Prop
  | .identified elf uuid => (files elf).bind readTaUuid = some uuid
  | .signing elf uuid tmp =>
      (files elf).bind readTaUuid = some uuid ∧ elf ≠ tmp
  | .signed _ uuid tmp =>
      ∃ contents, files tmp = some contents ∧
        SignedFor readTaUuid runs (outputName uuid) contents
  | _ => True

structure Sound (initial : Directory FileName Contents)
    (system : System) : Prop where
  certified : Certified system.files IsOutput initial
    (SignedFor readTaUuid system.signRuns)
  temp : ∀ name ∈ system.used, IsTemp name
  used : ∀ build, (system.builds build).owned ⊆ system.used
  apart : ∀ first second, first ≠ second →
    (system.builds first).owned.Disjoint (system.builds second).owned
  holds : ∀ build,
    (system.builds build).Holds readTaUuid system.files system.signRuns

end Invariant

variable {readTaUuid : Contents → Option Uuid}
  {initial files next : Directory FileName Contents}
  {runs later : List SignRun} {phase : Phase} {system : System}

theorem SignedFor.mono {name : FileName} {contents : Contents}
    (h : SignedFor readTaUuid runs name contents) (hruns : runs ⊆ later) :
    SignedFor readTaUuid later name contents := by
  obtain ⟨run, hrun, hsigned⟩ := h
  exact ⟨run, hruns hrun, hsigned⟩

theorem Phase.Holds.frame (h : phase.Holds readTaUuid files runs)
    (hfiles : ∀ name ∈ phase.owned, next name = files name)
    (hruns : runs ⊆ later) : phase.Holds readTaUuid next later := by
  cases phase with
  | identified elf uuid =>
      have helf : next elf = files elf := hfiles elf (by simp [owned])
      rw [Holds, helf]
      exact h
  | signing elf uuid tmp =>
      have helf : next elf = files elf := hfiles elf (by simp [owned])
      rw [Holds, helf]
      exact h
  | signed elf uuid tmp =>
      have htmp : next tmp = files tmp := hfiles tmp (by simp [owned])
      obtain ⟨contents, hcontents, hsigned⟩ := h
      exact ⟨contents, htmp.trans hcontents, hsigned.mono hruns⟩
  | ready => trivial
  | stripping elf => trivial
  | stripped elf => trivial
  | published elf uuid => trivial
  | ended orphan => trivial

theorem Phase.writing_owned (phase : Phase) :
    phase.writing.toList ⊆ phase.owned := by
  cases phase <;> simp [writing, owned]

namespace Sound

theorem start : Sound readTaUuid initial (System.initial initial) where
  certified := Certified.start
  temp := by simp [System.initial]
  used := by simp [System.initial, Phase.owned]
  apart := by simp [System.initial, Phase.owned]
  holds := fun _ => trivial

theorem not_output (h : Sound readTaUuid initial system) {build : Nat}
    {name : FileName} (hname : name ∈ (system.builds build).owned) :
    ¬ IsOutput name :=
  (h.temp name (h.used build hname)).not_output

theorem move {used : List FileName} (h : Sound readTaUuid initial system)
    (build : Nat)
    (hfiles : ∀ name ∈ system.used,
      name ∉ (system.builds build).owned → files name = system.files name)
    (htemp : ∀ name ∈ used, IsTemp name) (hused : system.used ⊆ used)
    (howned : phase.owned ⊆ used)
    (hown : ∀ name ∈ phase.owned, name ∈ system.used →
      name ∈ (system.builds build).owned)
    (hruns : system.signRuns ⊆ runs)
    (hcertified : Certified files IsOutput initial
      (SignedFor readTaUuid runs))
    (hholds : phase.Holds readTaUuid files runs) :
    Sound readTaUuid initial
      ⟨files, Function.update system.builds build phase, used, runs⟩ := by
  have hapart : ∀ other ≠ build,
      phase.owned.Disjoint (system.builds other).owned := by
    intro other hother name hname hmem
    exact h.apart other build hother hmem
      (hown name hname (h.used other hmem))
  refine ⟨hcertified, htemp, fun other => ?_, fun first second hne => ?_,
    fun other => ?_⟩
  · dsimp only
    by_cases hother : other = build
    · subst hother
      rw [Function.update_self]
      exact howned
    · rw [Function.update_of_ne hother]
      exact List.Subset.trans (h.used other) hused
  · dsimp only
    by_cases hfirst : first = build
    · subst hfirst
      rw [Function.update_self, Function.update_of_ne hne.symm]
      exact hapart second hne.symm
    · by_cases hsecond : second = build
      · subst hsecond
        rw [Function.update_self, Function.update_of_ne hne]
        exact fun name hname hmem => hapart first hne hmem hname
      · rw [Function.update_of_ne hfirst, Function.update_of_ne hsecond]
        exact h.apart first second hne
  · dsimp only
    by_cases hother : other = build
    · subst hother
      rw [Function.update_self]
      exact hholds
    · rw [Function.update_of_ne hother]
      refine (h.holds other).frame (fun name hname => ?_) hruns
      exact hfiles name (h.used other hname)
        (h.apart other build hother hname)

theorem change (h : Sound readTaUuid initial system) (build : Nat)
    (hfiles : ∀ name, name ∉ (system.builds build).owned →
      files name = system.files name)
    (howned : phase.owned ⊆ (system.builds build).owned)
    (hruns : system.signRuns ⊆ runs)
    (hholds : phase.Holds readTaUuid files runs) :
    Sound readTaUuid initial
      ⟨files, Function.update system.builds build phase, system.used,
        runs⟩ := by
  refine h.move build (fun name _ => hfiles name) h.temp
    (List.Subset.refl _) (List.Subset.trans howned (h.used build))
    (fun name hname _ => howned hname) hruns ?_ hholds
  refine (h.certified.mono fun _ _ hsigned => hsigned.mono hruns).congr ?_
  intro name hname
  exact hfiles name fun hmem => h.not_output hmem hname

theorem enter (h : Sound readTaUuid initial system) (build : Nat)
    (howned : phase.owned ⊆ (system.builds build).owned)
    (hholds : phase.Holds readTaUuid system.files system.signRuns) :
    Sound readTaUuid initial (system.enter build phase) :=
  h.change build (fun _ _ => rfl) howned (List.Subset.refl _) hholds

theorem ended (h : Sound readTaUuid initial system) (build : Nat)
    {names : List FileName} {orphan : Option FileName}
    (hnames : names ⊆ (system.builds build).owned)
    (horphan : orphan.toList ⊆ (system.builds build).owned) :
    Sound readTaUuid initial
      ((system.removeAll names).enter build (.ended orphan)) := by
  refine h.change build (fun name hname => ?_) horphan
    (List.Subset.refl _) trivial
  exact if_neg fun hmem => hname (hnames hmem)

theorem store_ended (h : Sound readTaUuid initial system) (build : Nat)
    {name : FileName} (hname : name ∈ (system.builds build).owned) :
    Sound readTaUuid initial
      ((system.store name none).enter build (.ended none)) := by
  refine h.change build (fun other hother => ?_) (List.nil_subset _)
    (List.Subset.refl _) trivial
  exact Function.update_of_ne (ne_of_mem_of_not_mem hname hother).symm _ _

theorem createTemp (h : Sound readTaUuid initial system) (build : Nat)
    {name : FileName} (hname : IsTemp name)
    (howned : phase.owned ⊆ name :: (system.builds build).owned)
    (hholds : name ∉ system.used → phase.Holds readTaUuid
      (Function.update system.files name (some [])) system.signRuns) :
    Sound readTaUuid initial (system.createTemp build name phase) := by
  rw [System.createTemp]
  split
  · exact h
  · rename_i hnew
    have hfresh : name ∉ system.used := fun hmem => hnew (Or.inl hmem)
    refine h.move build (fun other hother _ => ?_) ?_
      (List.subset_cons_self name _)
      (List.Subset.trans howned
        (List.cons_subset_cons name (h.used build))) ?_
      (List.Subset.refl _) (h.certified.update hname.not_output _)
      (hholds hfresh)
    · exact Function.update_of_ne (ne_of_mem_of_not_mem hother hfresh) _ _
    · intro other hother
      rcases List.mem_cons.mp hother with rfl | hmem
      · exact hname
      · exact h.temp other hmem
    · intro other hother hmem
      rcases List.mem_cons.mp (howned hother) with rfl | hmine
      · exact absurd hmem hfresh
      · exact hmine

theorem rebuild (h : Sound readTaUuid initial system)
    (fileName : TargetName) (contents : Option Contents) :
    Sound readTaUuid initial (system.store fileName.text contents) where
  certified := h.certified.update fileName.not_output contents
  temp := h.temp
  used := h.used
  apart := h.apart
  holds := by
    intro build
    refine (h.holds build).frame (fun name hname => ?_)
      (List.Subset.refl _)
    have hne : name ≠ fileName.text := by
      rintro rfl
      exact fileName.not_temp (h.temp _ (h.used build hname))
    exact Function.update_of_ne hne _ _

theorem childWrites (h : Sound readTaUuid initial system) (build : Nat)
    {name : FileName} (hwriting : (system.builds build).writing = some name)
    (contents : Option Contents) :
    Sound readTaUuid initial (system.store name contents) := by
  have hname : name ∈ (system.builds build).owned :=
    Phase.writing_owned _ (by rw [hwriting]; exact List.mem_singleton_self _)
  have hholds : (system.builds build).Holds readTaUuid
      (Function.update system.files name contents) system.signRuns := by
    have hbuild := h.holds build
    cases hphase : system.builds build with
    | signing elf uuid tmp =>
        rw [hphase] at hwriting hbuild
        obtain rfl : tmp = name := Option.some.inj hwriting
        refine ⟨?_, hbuild.2⟩
        rw [Function.update_of_ne hbuild.2]
        exact hbuild.1
    | identified elf uuid => simp [hphase, Phase.writing] at hwriting
    | signed elf uuid tmp => simp [hphase, Phase.writing] at hwriting
    | ready => trivial
    | stripping elf => trivial
    | stripped elf => trivial
    | published elf uuid => trivial
    | ended orphan => trivial
  have hsound := h.change build (fun other hother =>
      Function.update_of_ne (ne_of_mem_of_not_mem hname hother).symm _ _)
    (List.Subset.refl _) (List.Subset.refl _) hholds
  rw [Function.update_eq_self] at hsound
  exact hsound

theorem createPartial (h : Sound readTaUuid initial system) {build : Nat}
    {elf : FileName} {uuid : Uuid}
    (hphase : system.builds build = .identified elf uuid)
    (random : FileName) :
    Sound readTaUuid initial
      (system.createTemp build (partialName uuid random)
        (.signing elf uuid (partialName uuid random))) := by
  refine h.createTemp build (Or.inr ⟨uuid, random, rfl⟩)
    (by simp [hphase, Phase.owned]) fun hfresh => ?_
  have hbuild := h.holds build
  rw [hphase] at hbuild
  have helf : elf ∈ system.used :=
    h.used build (by simp [hphase, Phase.owned])
  have hne := ne_of_mem_of_not_mem helf hfresh
  refine ⟨?_, hne⟩
  rw [Function.update_of_ne hne]
  exact hbuild

theorem signExits (h : Sound readTaUuid initial system) {build : Nat}
    {elf tmp : FileName} {uuid : Uuid} {input output : Contents}
    (hphase : system.builds build = .signing elf uuid tmp)
    (hinput : system.files elf = some input)
    (houtput : system.files tmp = some output) :
    Sound readTaUuid initial
      { system.enter build (.signed elf uuid tmp) with
        signRuns := ⟨uuid, input, output⟩ :: system.signRuns } := by
  have hbuild := h.holds build
  rw [hphase, Phase.Holds, hinput] at hbuild
  refine h.change build (fun _ _ => rfl) ?_ (List.subset_cons_self _ _) ?_
  · rw [hphase]
    exact List.Subset.refl _
  · exact ⟨output, houtput, _, List.mem_cons_self, rfl, hbuild.1, rfl⟩

theorem publish (h : Sound readTaUuid initial system) {build : Nat}
    {elf tmp : FileName} {uuid : Uuid}
    (hphase : system.builds build = .signed elf uuid tmp) :
    Sound readTaUuid initial
      { system.enter build (.published elf uuid) with
        files := system.files.rename tmp (outputName uuid) } := by
  have hbuild := h.holds build
  rw [hphase] at hbuild
  obtain ⟨contents, hcontents, hsigned⟩ := hbuild
  have htmp : tmp ∈ (system.builds build).owned := by
    simp [hphase, Phase.owned]
  have helf : [elf] ⊆ (system.builds build).owned := by
    simp [hphase, Phase.owned]
  refine h.move build (fun name hname hother => ?_) h.temp
    (List.Subset.refl _) (List.Subset.trans helf (h.used build))
    (fun name hname _ => helf hname) (List.Subset.refl _)
    (h.certified.rename (h.not_output htmp) hcontents hsigned) trivial
  have hdest : name ≠ outputName uuid := fun heq =>
    (h.temp name hname).not_output ⟨uuid, heq⟩
  rw [Directory.rename, Function.update_of_ne
    (ne_of_mem_of_not_mem htmp hother).symm, Function.update_of_ne hdest]

theorem fail (h : Sound readTaUuid initial system) (build : Nat) :
    Sound readTaUuid initial (system.fail build) := by
  rw [System.fail]
  split
  · exact h
  · exact h.ended build (List.Subset.refl _) (Phase.writing_owned _)

theorem exec (h : Sound readTaUuid initial system) (event : Event) :
    Sound readTaUuid initial (event.exec readTaUuid system) := by
  cases event with
  | rebuild fileName contents => exact h.rebuild fileName contents
  | createStripped build fileName random =>
      rw [Event.exec]
      split
      · refine h.createTemp build (Or.inl ⟨fileName, random, rfl⟩) ?_
          fun _ => trivial
        simp [Phase.owned]
      · exact h
  | childWrites build contents =>
      rw [Event.exec]
      split
      · rename_i name hwriting
        exact h.childWrites build hwriting contents
      · exact h
  | objcopyExits build success =>
      rw [Event.exec]
      split
      · rename_i elf hphase
        have helf : elf ∈ (system.builds build).owned := by
          simp [hphase, Phase.owned]
        split
        · exact h.enter build (by simp [hphase, Phase.owned]) trivial
        · exact h.store_ended build helf
      · exact h
  | readUuid build =>
      rw [Event.exec]
      split
      · rename_i elf hphase
        have helf : elf ∈ (system.builds build).owned := by
          simp [hphase, Phase.owned]
        split
        · rename_i uuid huuid
          exact h.enter build (by simp [hphase, Phase.owned]) huuid
        · exact h.store_ended build helf
      · exact h
  | createPartial build random =>
      rw [Event.exec]
      split
      · rename_i elf uuid hphase
        exact h.createPartial hphase random
      · exact h
  | signExits build success =>
      rw [Event.exec]
      split
      · rename_i elf uuid tmp hphase
        split
        · split
          · rename_i input output hinput houtput
            exact h.signExits hphase hinput houtput
          · exact h
        · exact h.ended build (by simp [hphase, Phase.owned])
            (List.nil_subset _)
      · exact h
  | publish build success =>
      rw [Event.exec]
      split
      · rename_i elf uuid tmp hphase
        split
        · exact h.publish hphase
        · exact h.store_ended build (by simp [hphase, Phase.owned])
      · exact h
  | finish build =>
      rw [Event.exec]
      split
      · rename_i elf uuid hphase
        exact h.store_ended build (by simp [hphase, Phase.owned])
      · exact h
  | fail build => exact h.fail build
  | kill build => exact h.enter build (Phase.writing_owned _) trivial

theorem runEvents (h : Sound readTaUuid initial system)
    (events : List Event) :
    Sound readTaUuid initial (runEvents readTaUuid events system) := by
  induction events generalizing system with
  | nil => exact h
  | cons event rest ih => exact ih (h.exec event)

end Sound

/--
Whatever the builds, the rebuilds of the ELF files and the failures, each
`<uuid>.ta` is at every moment what it was before them or the whole output of
a successful `sign_encrypt.py --uuid <uuid>` on an ELF with that UUID.
-/
theorem published_file_complete (readTaUuid : Contents → Option Uuid)
    (initial : Directory FileName Contents) (events : List Event)
    (uuid : Uuid) :
    let final := runEvents readTaUuid events (System.initial initial)
    final.files (outputName uuid) = initial (outputName uuid) ∨
      ∃ run ∈ final.signRuns, run.uuid = uuid ∧
        readTaUuid run.input = some uuid ∧
        final.files (outputName uuid) = some run.output := by
  intro final
  have hsound : Sound readTaUuid initial final := Sound.start.runEvents events
  refine (hsound.certified (outputName uuid) ⟨uuid, rfl⟩).imp_right ?_
  rintro ⟨contents, hcontents, run, hrun, hname, hinput, houtput⟩
  obtain rfl : uuid = run.uuid := outputName_injective hname
  exact ⟨run, hrun, rfl, hinput, houtput ▸ hcontents⟩

example :
    (runEvents (fun _ => some 7)
        [.createStripped 0 ⟨['t', 'a'], by decide⟩ ['x'],
          .childWrites 0 (some [1]), .objcopyExits 0 true, .readUuid 0,
          .createPartial 0 ['y'], .childWrites 0 (some [2, 3]),
          .signExits 0 true, .publish 0 true]
        (System.initial fun _ => none)).files (outputName 7) =
      some [2, 3] := by
  decide +kernel

end TrustZoneSdk.CargoOptee
