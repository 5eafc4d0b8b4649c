import TrustZoneSdk.Foundation.Json
import TrustZoneSdk.Foundation.PathText
import TrustZoneSdk.Foundation.Utf8
import Mathlib.Data.List.Infix

/-!
# The metadata of the package

Configuration comes from the `[package.metadata]` of the package that is built.
`cargo metadata` lists the packages of the whole workspace; the root package is
taken if there is one, and otherwise the first package whose manifest path has
the path of the project's manifest somewhere in it.
-/

namespace TrustZoneSdk.CargoOptee

open TrustZoneSdk.Foundation

abbrev Text := List Char

/-- File names and values of variables are bytes in no certain encoding. -/
abbrev OsString := List UInt8

/-! ## The system -/

inductive FileKind where
  | directory
  | file
  | other
  deriving DecidableEq, Repr

structure Package where
  manifestPath : Text
  metadata : Json

structure Metadata where
  packages : List Package
  workspaceRoot : Text

structure Process where
  environment : OsString → Option OsString
  fileKind : OsString → Option FileKind
  canonicalize : OsString → Option OsString
  cargoMetadata : OsString → Except Text Metadata
  /-- Replaces what is no text; what is text stays. -/
  toStringLossy : OsString → Text
  toStringLossy_text : ∀ text, toStringLossy (encodeUtf8 text) = text

/-! ## Finding the package -/

inductive DiscoverError where
  | cargoTomlNotFound (projectPath : OsString)
  | cargo (message : Text)
  | packageNotFound (manifest : Text)
  deriving DecidableEq, Repr

def DiscoverError.message (debug : OsString → Text) : DiscoverError → Text
  | cargoTomlNotFound projectPath =>
      "Cargo.toml not found in project directory: ".toList ++
        debug projectPath
  | cargo message => message
  | packageNotFound manifest =>
      "Could not find package for manifest: ".toList ++ manifest

def osPath (base : OsString) (name : Text) : OsString :=
  joinPath 0x2F base (encodeUtf8 name)

def manifestPath (projectDir : OsString) : OsString :=
  osPath projectDir "Cargo.toml".toList

/-- Without a resolve graph the root package is known by its manifest. -/
def Metadata.rootPackage (metadata : Metadata) : Option Package :=
  metadata.packages.find? fun package =>
    package.manifestPath =
      joinPath '/' metadata.workspaceRoot "Cargo.toml".toList

def Metadata.currentPackage (metadata : Metadata) (cargoTomlPathStr : Text) :
    Except DiscoverError Package :=
  match metadata.rootPackage with
  | some rootPkg => .ok rootPkg
  | none =>
      match metadata.packages.find? fun pkg =>
          cargoTomlPathStr <:+: pkg.manifestPath with
      | some pkg => .ok pkg
      | none => .error (.packageNotFound cargoTomlPathStr)

def discoverAppMetadata (process : Process) (projectPath : OsString) :
    Except DiscoverError Json :=
  let cargoTomlPath := manifestPath projectPath
  if (process.fileKind cargoTomlPath).isNone then
    .error (.cargoTomlNotFound projectPath)
  else
    match process.cargoMetadata cargoTomlPath with
    | .error message => .error (.cargo message)
    | .ok metadata =>
        (metadata.currentPackage (process.toStringLossy cargoTomlPath)).map
          Package.metadata

/-- The project is a package of its workspace. -/
structure IsMember (process : Process) (projectPath : OsString)
    (metadata : Metadata) (package : Package) : Prop where
  present : (process.fileKind (manifestPath projectPath)).isSome
  workspace : process.cargoMetadata (manifestPath projectPath) = .ok metadata
  listed : package ∈ metadata.packages
  manifest : encodeUtf8 package.manifestPath = manifestPath projectPath

/--
The root package, if there is one, has the metadata of the package; if there is
none, the first package whose manifest path has that of the package in it does.
-/
def Metadata.LeadsTo (metadata : Metadata) (package : Package) : Prop :=
  match metadata.rootPackage with
  | some root => root.metadata = package.metadata
  | none => ∀ before found after,
      metadata.packages = before ++ found :: after →
        (∀ earlier ∈ before,
          ¬ package.manifestPath <:+: earlier.manifestPath) →
        package.manifestPath <:+: found.manifestPath →
        found.metadata = package.metadata

theorem find?_eq_some_iff_first {α : Type} {p : α → Prop} [DecidablePred p]
    {list : List α} {found : α} :
    list.find? (fun entry => p entry) = some found ↔
      p found ∧ ∃ before after, list = before ++ found :: after ∧
        ∀ earlier ∈ before, ¬ p earlier := by
  simp [List.find?_eq_some_iff_append]

section Discover

variable {process : Process} {projectPath : OsString} {metadata : Metadata}
  {package : Package}

theorem discoverAppMetadata_of_member
    (h : IsMember process projectPath metadata package) :
    discoverAppMetadata process projectPath =
      (metadata.currentPackage package.manifestPath).map
        Package.metadata := by
  have htext : process.toStringLossy (manifestPath projectPath) =
      package.manifestPath := by
    rw [← h.manifest, process.toStringLossy_text]
  have hpresent : (process.fileKind (manifestPath projectPath)).isNone =
      false := by
    rw [Option.isNone_eq_false_iff]
    exact h.present
  simp only [discoverAppMetadata, hpresent, h.workspace, htext]
  rfl

/--
The metadata of the package that is built are found exactly if the root package
or the first textual match happens to have them.
-/
theorem discovered_metadata_iff
    (h : IsMember process projectPath metadata package) :
    discoverAppMetadata process projectPath = .ok package.metadata ↔
      metadata.LeadsTo package := by
  rw [discoverAppMetadata_of_member h, Metadata.LeadsTo,
    Metadata.currentPackage]
  cases metadata.rootPackage with
  | some root => simp only [Except.map, Except.ok.injEq]
  | none =>
      dsimp only
      split
      · rename_i found hfound
        simp only [Except.map, Except.ok.injEq]
        obtain ⟨hcontains, before, after, hsplit, hbefore⟩ :=
          find?_eq_some_iff_first.mp hfound
        constructor
        · intro hmetadata front other back hother hfront hfirst
          have hagain : (metadata.packages.find? fun pkg =>
              package.manifestPath <:+: pkg.manifestPath) = some other :=
            find?_eq_some_iff_first.mpr
              ⟨hfirst, front, back, hother, hfront⟩
          rw [← Option.some.inj (hfound.symm.trans hagain)]
          exact hmetadata
        · intro hfirst
          exact hfirst before found after hsplit hbefore hcontains
      · rename_i hnone
        have hself := List.find?_eq_none.mp hnone package h.listed
        exact absurd (decide_eq_true (List.infix_refl _)) hself

end Discover

/-! ## Packages found in place of others -/

def optee (component : Text) (table : Json) : Json :=
  .object [("optee".toList, .object [(component, table)])]

def workspaceProcess (metadata : Metadata) : Process where
  environment := fun _ => none
  fileKind := fun _ => some .file
  canonicalize := some
  cargoMetadata := fun _ => .ok metadata
  toStringLossy := fun bytes => (decodeUtf8 bytes).getD []
  toStringLossy_text := by
    intro text
    rw [decodeUtf8_encodeUtf8]
    rfl

def project : OsString := encodeUtf8 "/ws/ta".toList

def taPackage : Package :=
  ⟨"/ws/ta/Cargo.toml".toList, optee "ta".toList (.object [])⟩

def rootedWorkspace : Metadata :=
  ⟨[⟨"/ws/Cargo.toml".toList, .null⟩, taPackage], "/ws".toList⟩

def nestedWorkspace : Metadata :=
  ⟨[⟨"/ws/old/ws/ta/Cargo.toml".toList, .null⟩, taPackage], "/ws".toList⟩

theorem taPackage_isMember (metadata : Metadata)
    (h : taPackage ∈ metadata.packages) :
    IsMember (workspaceProcess metadata) project metadata taPackage where
  present := rfl
  workspace := rfl
  listed := h
  manifest := by decide

theorem root_package_shadows_member :
    discoverAppMetadata (workspaceProcess rootedWorkspace) project =
        .ok .null ∧
      discoverAppMetadata (workspaceProcess nestedWorkspace) project =
        .ok .null ∧
      taPackage.metadata ≠ .null := by
  have hrooted := taPackage_isMember rootedWorkspace
    (List.mem_cons_of_mem _ List.mem_cons_self)
  have hnested := taPackage_isMember nestedWorkspace
    (List.mem_cons_of_mem _ List.mem_cons_self)
  refine ⟨?_, ?_, nofun⟩
  · rw [discoverAppMetadata_of_member hrooted]
    rfl
  · rw [discoverAppMetadata_of_member hnested]
    rfl

theorem lone_member_metadata_found :
    discoverAppMetadata (workspaceProcess ⟨[taPackage], "/ws".toList⟩)
      project = .ok taPackage.metadata := by
  refine (discovered_metadata_iff (taPackage_isMember ⟨[taPackage], _⟩
    List.mem_cons_self)).mpr ?_
  rintro before found after hsplit - -
  have hmem : found ∈ [taPackage] := by
    rw [show [taPackage] = before ++ found :: after from hsplit]
    exact List.mem_append_right _ List.mem_cons_self
  rw [List.mem_singleton.mp hmem]

end TrustZoneSdk.CargoOptee
