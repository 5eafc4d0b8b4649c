import TrustZoneSdk.CargoOptee.CargoCommand
import Mathlib.Data.List.Destutter

/-!
# The file that Cargo has built

Cargo reports what it does as a stream of messages.  Those about other
packages, tests and build scripts are passed over; the files that remain have
to be one and the same.  Paths are compared by their components.
-/

namespace TrustZoneSdk.CargoOptee

open TrustZoneSdk.Foundation

/-! ## Paths by their components -/

inductive PathComponent where
  | rootDir
  | curDir
  | parentDir
  | normal (name : OsString)
  deriving DecidableEq, Repr

def segmentComponent (segment : OsString) : Option PathComponent :=
  if segment = [] ∨ segment = [0x2E] then none
  else if segment = [0x2E, 0x2E] then some .parentDir
  else some (.normal segment)

def pathComponents (path : OsString) : List PathComponent :=
  let segments := path.splitOn 0x2F
  let body := segments.filterMap segmentComponent
  if IsAbsolute 0x2F path then .rootDir :: body
  -- A leading dot counts; others, and empty segments, do not.
  else if segments.head? = some [0x2E] then .curDir :: body
  else body

def PathComponent.key : PathComponent → List Nat
  | rootDir => [0]
  | curDir => [1]
  | parentDir => [2]
  | normal name => 3 :: name.map UInt8.toNat

def SamePath (first second : OsString) : Prop :=
  pathComponents first = pathComponents second

instance (first second : OsString) : Decidable (SamePath first second) :=
  inferInstanceAs (Decidable (_ = _))

def pathLe (first second : OsString) : Bool :=
  decide ((pathComponents first).map PathComponent.key ≤
    (pathComponents second).map PathComponent.key)

/-! ## Messages -/

structure Artifact where
  manifestPath : Text
  targetKind : List Text
  crateTypes : List Text
  test : Bool
  filenames : List Text
  executable : Option Text
  deriving DecidableEq, Repr

inductive Message where
  | compilerArtifact (artifact : Artifact)
  | compilerMessage (rendered : Option Text)
  | textLine (line : Text)
  | other
  deriving DecidableEq, Repr

inductive CargoArtifactKind where
  | bin
  | cdylib
  deriving DecidableEq, Repr

def canonicalOr (process : Process) (path : OsString) : OsString :=
  (process.canonicalize path).getD path

def Artifact.paths (process : Process) (expected : OsString)
    (kind : CargoArtifactKind) (artifact : Artifact) : List OsString :=
  let artifactManifest := canonicalOr process (encodeUtf8 artifact.manifestPath)
  if ¬ SamePath artifactManifest expected then []
  else if artifact.test then []
  else if artifact.targetKind.contains "custom-build".toList then []
  else
    match kind with
    | .bin => artifact.executable.toList.map encodeUtf8
    | .cdylib =>
        if artifact.crateTypes.contains "cdylib".toList then
          (artifact.filenames.filter fun path =>
            ".so".toList.isSuffixOf path).map encodeUtf8
        else []

def Message.paths (process : Process) (expected : OsString)
    (kind : CargoArtifactKind) : Message → List OsString
  | compilerArtifact artifact => artifact.paths process expected kind
  | _ => []

def collectCargoArtifacts (process : Process) (manifest : OsString)
    (kind : CargoArtifactKind) :
    List (Except Text Message) → Except Text (List OsString)
  | [] => .ok []
  -- A message that cannot be read ends the collection.
  | .error message :: _ => .error message
  | .ok message :: rest => do
      let artifacts ← collectCargoArtifacts process manifest kind rest
      return message.paths process (canonicalOr process manifest) kind ++
        artifacts

inductive ArtifactError where
  | none (kind : CargoArtifactKind) (manifest : OsString)
  | multiple (kind : CargoArtifactKind) (manifest : OsString)
      (artifacts : List OsString)
  deriving DecidableEq, Repr

def uniqueCargoArtifact (artifacts : List OsString) (manifest : OsString)
    (kind : CargoArtifactKind) : Except ArtifactError OsString :=
  let sorted := artifacts.mergeSort pathLe
  match sorted.destutter fun first second => ¬ SamePath first second with
  | [artifact] => .ok artifact
  | [] => .error (.none kind manifest)
  | artifacts => .error (.multiple kind manifest artifacts)

/-! ## What is chosen -/

theorem destutter_eq_singleton_iff (first path : OsString)
    (rest : List OsString) :
    List.destutter' (fun first second => ¬ SamePath first second) first
        rest = [path] ↔
      path = first ∧ ∀ other ∈ rest, SamePath first other := by
  induction rest with
  | nil => simp [eq_comm]
  | cons other rest ih =>
      by_cases hsame : SamePath first other
      · rw [List.destutter'_cons_neg _ (not_not.mpr hsame), ih]
        simp [hsame]
      · rw [List.destutter'_cons_pos _ hsame]
        simp [hsame, List.destutter'_ne_nil]

theorem pathLe_of_samePath {first second : OsString}
    (h : SamePath first second) : pathLe first second = true := by
  rw [SamePath] at h
  simp [pathLe, h]

theorem mergeSort_of_samePath {artifacts : List OsString}
    (h : ∀ first ∈ artifacts, ∀ second ∈ artifacts, SamePath first second) :
    artifacts.mergeSort pathLe = artifacts := by
  apply List.mergeSort_of_pairwise
  rw [List.pairwise_iff_forall_sublist]
  intro first second hsublist
  have hfirst : first ∈ artifacts := hsublist.subset (by simp)
  have hsecond : second ∈ artifacts := hsublist.subset (by simp)
  exact pathLe_of_samePath (h first hfirst second hsecond)

theorem uniqueCargoArtifact_sorted {artifacts : List OsString}
    {manifest : OsString} {kind : CargoArtifactKind} {path : OsString} :
    uniqueCargoArtifact artifacts manifest kind = .ok path ↔
      ∃ rest, artifacts.mergeSort pathLe = path :: rest ∧
        ∀ other ∈ rest, SamePath path other := by
  rw [uniqueCargoArtifact]
  generalize artifacts.mergeSort pathLe = sorted
  cases sorted with
  | nil => simp
  | cons first rest =>
      have hiff := destutter_eq_singleton_iff first path rest
      rw [List.destutter_cons']
      trans List.destutter' (fun first second => ¬ SamePath first second)
        first rest = [path]
      · split <;> simp_all
      · rw [hiff]
        constructor
        · rintro ⟨rfl, hsame⟩
          exact ⟨rest, rfl, hsame⟩
        · rintro ⟨others, hcons, hsame⟩
          cases hcons
          exact ⟨rfl, hsame⟩

theorem uniqueCargoArtifact_ok_iff {artifacts : List OsString}
    {manifest : OsString} {kind : CargoArtifactKind} {path : OsString} :
    uniqueCargoArtifact artifacts manifest kind = .ok path ↔
      ∃ rest, artifacts = path :: rest ∧
        ∀ other ∈ rest, SamePath path other := by
  rw [uniqueCargoArtifact_sorted]
  constructor
  · rintro ⟨rest, hsorted, hsame⟩
    have hpath : ∀ artifact ∈ artifacts, SamePath path artifact := by
      intro artifact hartifact
      rw [← (List.mergeSort_perm artifacts pathLe).mem_iff, hsorted]
        at hartifact
      rcases List.mem_cons.mp hartifact with rfl | hmem
      · rfl
      · exact hsame artifact hmem
    have hall : ∀ first ∈ artifacts, ∀ second ∈ artifacts,
        SamePath first second := fun first hfirst second hsecond =>
      (hpath first hfirst).symm.trans (hpath second hsecond)
    rw [mergeSort_of_samePath hall] at hsorted
    exact ⟨rest, hsorted, hsame⟩
  · rintro ⟨rest, rfl, hsame⟩
    have hpath : ∀ artifact ∈ path :: rest, SamePath path artifact := by
      simpa [SamePath] using hsame
    refine ⟨rest, mergeSort_of_samePath ?_, hsame⟩
    exact fun first hfirst second hsecond =>
      (hpath first hfirst).symm.trans (hpath second hsecond)

theorem collectCargoArtifacts_ok_iff {process : Process}
    {manifest : OsString} {kind : CargoArtifactKind}
    {stream : List (Except Text Message)} {artifacts : List OsString} :
    collectCargoArtifacts process manifest kind stream = .ok artifacts ↔
      ∃ messages : List Message, stream = messages.map .ok ∧
        artifacts = messages.flatMap
          (Message.paths process (canonicalOr process manifest) kind) := by
  induction stream generalizing artifacts with
  | nil => simp [collectCargoArtifacts, eq_comm]
  | cons item stream ih =>
      cases item with
      | error message =>
          constructor
          · intro h
            cases h
          · rintro ⟨messages, hstream, -⟩
            cases messages <;> simp at hstream
      | ok message =>
          rw [collectCargoArtifacts]
          constructor
          · intro h
            cases hrest : collectCargoArtifacts process manifest kind stream
            with
            | error error =>
                rw [hrest] at h
                cases h
            | ok others =>
                rw [hrest] at h
                cases h
                obtain ⟨messages, rfl, rfl⟩ := ih.mp hrest
                exact ⟨message :: messages, rfl, rfl⟩
          · rintro ⟨messages, hstream, rfl⟩
            cases messages with
            | nil => cases hstream
            | cons first messages =>
                rw [List.map_cons, List.cons.injEq, Except.ok.injEq] at hstream
                obtain ⟨rfl, rfl⟩ := hstream
                rw [ih.mpr ⟨messages, rfl, rfl⟩]
                rfl

end TrustZoneSdk.CargoOptee
