import TrustZoneSdk.CargoOptee.Metadata
import TrustZoneSdk.Foundation.Assignments

/-!
# Configuration of a build

Each setting of a build has up to four sources: the command line, the table of
the component in the metadata of the package, a variable of the environment and
a default.  The architecture is settled twice, once to choose among the paths of
the metadata and once for the configuration, and both give the same.
-/

namespace TrustZoneSdk.CargoOptee

open TrustZoneSdk.Foundation

inductive ComponentType where
  | ta
  | ca
  | plugin
  deriving DecidableEq, Repr

def ComponentType.asStr : ComponentType → Text
  | ta => "ta".toList
  | ca => "ca".toList
  | plugin => "plugin".toList

inductive Arch where
  | aarch64
  | arm
  deriving DecidableEq, Repr

/-- No character outside ASCII has a lower case that occurs in the names. -/
def Arch.fromStr (text : Text) : Except Text Arch :=
  let lower := text.map Char.toLower
  if lower = "aarch64".toList ∨ lower = "arm64".toList then .ok .aarch64
  else if lower = "arm".toList ∨ lower = "arm32".toList then .ok .arm
  else .error ("Invalid architecture: ".toList ++ text)

def Arch.key : Arch → Text
  | aarch64 => "aarch64".toList
  | arm => "arm".toList

inductive PathType where
  | directory
  | file
  deriving DecidableEq, Repr

inductive ConfigError where
  | discover (error : DiscoverError)
  | uuidPath (component : ComponentType)
  | archNotString
  | invalidArch (text message : Text)
  | notBoolean (key : Text)
  | taDevKitDir
  | opteeClientExport
  | doesNotExist (context : Text) (path : OsString)
  | notDirectory (context : Text) (path : OsString)
  | notFile (context : Text) (path : OsString)
  deriving DecidableEq, Repr

def taDevKitDirError : Text :=
  ("ta-dev-kit-dir is MANDATORY but not configured.\n" ++
    "Please set it via:\n" ++
    "1. Command line: --ta-dev-kit-dir <path>\n" ++
    "2. Cargo.toml metadata: [package.metadata.optee.ta] section\n" ++
    "3. Environment variable: TA_DEV_KIT_DIR\n\n" ++
    "Example Cargo.toml:\n" ++
    "[package.metadata.optee.ta]\n" ++
    "ta-dev-kit-dir = \x7b aarch64 = \"/path/to/optee_os/out/" ++
    "arm-plat-vexpress/export-ta_arm64\" \x7d\n\n" ++
    "For help with available options, run: " ++
    "cargo-optee build ta --help").toList

def opteeClientExportError : Text :=
  ("optee-client-export is MANDATORY but not configured.\n" ++
    "Please set it via:\n" ++
    "1. Command line: --optee-client-export <path>\n" ++
    "2. Cargo.toml metadata: [package.metadata.optee.ca] or " ++
    "[package.metadata.optee.plugin] section\n" ++
    "3. Environment variable: OPTEE_CLIENT_EXPORT\n\n" ++
    "Example Cargo.toml:\n" ++
    "[package.metadata.optee.ca]\n" ++
    "optee-client-export = \x7b aarch64 = " ++
    "\"/path/to/optee_client/export_arm64\" \x7d\n\n" ++
    "For help with available options, run: " ++
    "cargo-optee build ca --help").toList

def ConfigError.message (debug : OsString → Text) : ConfigError → Text
  | discover error => error.message debug
  | uuidPath component =>
      "package.metadata.optee.".toList ++ component.asStr ++
        (".uuid-path is not supported; " ++
          "UUID is parsed from the unsigned ELF").toList
  | archNotString => "metadata key arch must be a string".toList
  | invalidArch text message =>
      "invalid metadata arch ".toList ++ debug (encodeUtf8 text) ++
        ": ".toList ++ message
  | notBoolean key =>
      "metadata key ".toList ++ key ++ " must be a boolean".toList
  | taDevKitDir => taDevKitDirError
  | opteeClientExport => opteeClientExportError
  | doesNotExist context path =>
      context ++ " does not exist: ".toList ++ debug path
  | notDirectory context path =>
      context ++ " is not a directory: ".toList ++ debug path
  | notFile context path =>
      context ++ " is not a file: ".toList ++ debug path

/-! ## The table in the metadata -/

structure MetadataConfig where
  arch : Arch
  debug : Bool
  std : Bool
  taDevKitDir : Option OsString
  opteeClientExport : Option OsString
  signingKey : Option OsString
  env : List (Text × Text)
  deriving DecidableEq, Repr

def metadataBool (table : Json) (key : Text) : Except ConfigError Bool :=
  match table.get key with
  | none => .ok false
  | some value =>
      match value.asBool with
      | some flag => .ok flag
      | none => .error (.notBoolean key)

def metadataArch (table : Json) : Except ConfigError Arch :=
  match table.get "arch".toList with
  | none => .ok .aarch64
  | some value =>
      match value.asStr with
      | none => .error .archNotString
      | some text => (Arch.fromStr text).mapError (.invalidArch text)

def extractArch (table : Json) (cmdArch : Option Arch) :
    Except ConfigError Arch :=
  match cmdArch with
  | some arch => .ok arch
  | none => metadataArch table

def archText (arch : Arch) (value : Json) : Option Text :=
  -- An entry for the architecture comes before one for all of them.
  match value.get arch.key with
  | some archValue => archValue.asStr
  | none => value.asStr

def pathOfText (text : Option Text) : Option OsString :=
  -- An empty path counts as none.
  (text.filter fun text => !text.isEmpty).map encodeUtf8

def archPath (table : Json) (key : Text) (arch : Arch) : Option OsString :=
  pathOfText ((table.get key).bind (archText arch))

def signingKeyPath (table : Json) : Option OsString :=
  pathOfText ((table.get "signing-key".toList).bind Json.asStr)

def splitMetadataEnv (text : Text) : Option (Text × Text) :=
  -- The metadata are cut at the position of the first `=`.
  (text.findIdx? (· == '=')).map fun eqPos =>
    let (key, value) := text.splitAt eqPos
    (key, value.drop 1)

def metadataEnv (table : Json) : List (Text × Text) :=
  match (table.get "env".toList).bind Json.asArray with
  | some items => (items.filterMap Json.asStr).filterMap splitMetadataEnv
  | none => []

def extractComponentConfig (table : Json) (component : ComponentType)
    (cmdArch : Option Arch) : Except ConfigError MetadataConfig :=
  if (table.get "uuid-path".toList).isSome then .error (.uuidPath component)
  else do
    let arch ← extractArch table cmdArch
    let debug ← metadataBool table "debug".toList
    let std ← metadataBool table "std".toList
    return {
        arch := arch
        debug := debug
        std := std
        taDevKitDir :=
          if component = .ta then
            archPath table "ta-dev-kit-dir".toList arch
          else none
        opteeClientExport :=
          if component = .ca ∨ component = .plugin then
            archPath table "optee-client-export".toList arch
          else none
        signingKey := if component = .ta then signingKeyPath table else none
        env := metadataEnv table }

def extractBuildConfig (metadata : Json) (component : ComponentType)
    (cmdArch : Option Arch) : Except ConfigError (Option MetadataConfig) :=
  match metadata.get "optee".toList with
  | none => .ok none
  | some opteeMetadata =>
      match opteeMetadata.get component.asStr with
      | none => .ok none
      | some componentMetadata =>
          (extractComponentConfig componentMetadata component cmdArch).map some

def MetadataConfig.resolve (process : Process) (projectPath : OsString)
    (component : ComponentType) (cmdArch : Option Arch) :
    Except ConfigError (Option MetadataConfig) := do
  let appMetadata ←
    (discoverAppMetadata process projectPath).mapError .discover
  extractBuildConfig appMetadata component cmdArch

/-! ## The command line -/

def splitOnce (separator : Char) : Text → Option (Text × Text)
  | [] => none
  | char :: rest =>
      if char = separator then some ([], rest)
      else (splitOnce separator rest).map fun parts =>
        (char :: parts.1, parts.2)

def parseEnvVar (text : Text) : Except Text (Text × Text) :=
  match splitOnce '=' text with
  | some parts => .ok parts
  | none =>
      .error ("Invalid environment variable format: '".toList ++ text ++
        "'. Expected 'KEY=VALUE'".toList)

structure BuildOverrides where
  arch : Option Arch
  debug : Option Bool
  env : List (Text × Text)
  noDefaultFeatures : Bool
  features : Option Text
  deriving DecidableEq, Repr

/-! ## Resolution -/

structure TaBuildConfig where
  arch : Arch
  debug : Bool
  path : OsString
  env : List (Text × Text)
  noDefaultFeatures : Bool
  features : Option Text
  std : Bool
  taDevKitDir : OsString
  signingKey : OsString
  deriving DecidableEq, Repr

structure CaBuildConfig where
  arch : Arch
  debug : Bool
  path : OsString
  env : List (Text × Text)
  noDefaultFeatures : Bool
  features : Option Text
  opteeClientExport : OsString
  plugin : Bool
  deriving DecidableEq, Repr

section Resolve

variable (process : Process)

def okOr {α : Type} (value : Option α) (error : ConfigError) :
    Except ConfigError α :=
  match value with
  | some value => .ok value
  | none => .error error

def Process.varOs (name : Text) : Option OsString :=
  process.environment (encodeUtf8 name)

def resolveConfigPath (commandLine metadata : Option OsString)
    (environmentVariable : Text) : Option OsString :=
  (commandLine.or metadata).or (process.varOs environmentVariable)

def resolvePathRelativeToProject (path projectPath : OsString)
    (pathType : PathType) (errorContext : Text) :
    Except ConfigError OsString :=
  let resolvedPath :=
    if IsAbsolute 0x2F path then path else joinPath 0x2F projectPath path
  match process.fileKind resolvedPath with
  | none => .error (.doesNotExist errorContext resolvedPath)
  | some kind =>
      match pathType with
      | .directory =>
          if kind = .directory then .ok resolvedPath
          else .error (.notDirectory errorContext resolvedPath)
      | .file =>
          if kind = .file then .ok resolvedPath
          else .error (.notFile errorContext resolvedPath)

def defaultSigningKey (taDevKitDir : OsString) : OsString :=
  osPath (osPath taDevKitDir "keys".toList) "default_ta.pem".toList

def resolveSigningKey (metadata : Option MetadataConfig)
    (projectPath taDevKitDirConfig : OsString)
    (cmdSigningKey : Option OsString) (needSigningKey : Bool) :
    Except ConfigError OsString :=
  -- Linting does not sign and gets no key.
  if needSigningKey then
    let signingKeyConfig :=
      ((cmdSigningKey.or (metadata.bind (·.signingKey))).or
        (process.varOs "TA_SIGN_KEY".toList)).getD
          (defaultSigningKey taDevKitDirConfig)
    resolvePathRelativeToProject process signingKeyConfig projectPath .file
      "Signing key file".toList
  else .ok []

def mergeEnv (metadata : Option MetadataConfig) (overrides : BuildOverrides) :
    List (Text × Text) :=
  (metadata.map (·.env)).getD [] ++ overrides.env

def TaBuildConfig.resolve (projectPath : OsString)
    (overrides : BuildOverrides) (cmdStd : Option Bool)
    (cmdTaDevKitDir cmdSigningKey : Option OsString) (needSigningKey : Bool) :
    Except ConfigError TaBuildConfig := do
  let metadata ←
    MetadataConfig.resolve process projectPath .ta overrides.arch
  let taDevKitDirConfig ←
    okOr (resolveConfigPath process cmdTaDevKitDir
      (metadata.bind (·.taDevKitDir)) "TA_DEV_KIT_DIR".toList) .taDevKitDir
  let taDevKitDir ← resolvePathRelativeToProject process taDevKitDirConfig
    projectPath .directory "TA development kit directory".toList
  let signingKey ← resolveSigningKey process metadata projectPath
    taDevKitDirConfig cmdSigningKey needSigningKey
  return {
      arch := (overrides.arch.or (metadata.map (·.arch))).getD .aarch64
      debug := (overrides.debug.or (metadata.map (·.debug))).getD false
      path := projectPath
      env := mergeEnv metadata overrides
      noDefaultFeatures := overrides.noDefaultFeatures
      features := overrides.features
      std := (cmdStd.or (metadata.map (·.std))).getD false
      taDevKitDir := taDevKitDir
      signingKey := signingKey }

def CaBuildConfig.resolve (projectPath : OsString)
    (overrides : BuildOverrides) (cmdOpteeClientExport : Option OsString)
    (plugin : Bool) : Except ConfigError CaBuildConfig := do
  let metadata ← MetadataConfig.resolve process projectPath
    (if plugin then .plugin else .ca) overrides.arch
  let opteeClientExportConfig ←
    okOr (resolveConfigPath process cmdOpteeClientExport
      (metadata.bind (·.opteeClientExport)) "OPTEE_CLIENT_EXPORT".toList)
      .opteeClientExport
  let opteeClientExport ←
    resolvePathRelativeToProject process opteeClientExportConfig projectPath
      .directory "OP-TEE client export directory".toList
  return {
      arch := (overrides.arch.or (metadata.map (·.arch))).getD .aarch64
      debug := (overrides.debug.or (metadata.map (·.debug))).getD false
      path := projectPath
      env := mergeEnv metadata overrides
      noDefaultFeatures := overrides.noDefaultFeatures
      features := overrides.features
      opteeClientExport := opteeClientExport
      plugin := plugin }

end Resolve

/-! ## Sources of a setting -/

/-- The value of the first source that has one. -/
def FirstPresent {α : Type} (sources : List (Option α)) (value : α) : Prop :=
  sources.findSome? id = some value

def componentTable (metadata : Json) (component : ComponentType) :
    Option Json :=
  (metadata.get "optee".toList).bind (·.get component.asStr)

section Entries

variable (table : Option Json)

def entry (key : Text) : Option Json := table.bind (·.get key)

def boolEntry (key : Text) : Option Bool :=
  (entry table key).bind Json.asBool

def archEntry : Option Arch :=
  ((entry table "arch".toList).bind Json.asStr).bind fun text =>
    (Arch.fromStr text).toOption

def pathEntry (key : Text) (arch : Arch) : Option OsString :=
  table.bind (archPath · key arch)

def signingKeyEntry : Option OsString := table.bind signingKeyPath

def envEntries : List (Text × Text) := (table.map metadataEnv).getD []

end Entries

theorem bind_eq_ok_iff {ε α β : Type} {action : Except ε α}
    {next : α → Except ε β} {result : β} :
    (action >>= next) = .ok result ↔
      ∃ value, action = .ok value ∧ next value = .ok result := by
  cases action <;> simp [bind, Except.bind]

theorem metadataBool_eq_ok {table : Json} {key : Text} {flag : Bool}
    (h : metadataBool table key = .ok flag) :
    flag = (boolEntry (some table) key).getD false ∧
      ∀ value ∈ table.get key, value.asBool.isSome := by
  rw [metadataBool] at h
  simp only [boolEntry, entry, Option.bind_some]
  cases hvalue : table.get key with
  | none =>
      rw [hvalue] at h
      exact ⟨(Except.ok.inj h).symm, nofun⟩
  | some value =>
      rw [hvalue] at h
      cases hflag : value.asBool with
      | none => simp [hflag] at h
      | some found =>
          simp only [hflag, Except.ok.injEq] at h
          simp [hflag, h]

theorem metadataArch_eq_ok {table : Json} {arch : Arch}
    (h : metadataArch table = .ok arch) :
    FirstPresent [archEntry (some table), some .aarch64] arch ∧
      ((table.get "arch".toList).isSome → (archEntry (some table)).isSome) := by
  rw [metadataArch] at h
  simp only [FirstPresent, archEntry, entry, Option.bind_some]
  cases hvalue : table.get "arch".toList with
  | none =>
      rw [hvalue] at h
      rw [← Except.ok.inj h]
      exact ⟨rfl, nofun⟩
  | some value =>
      rw [hvalue] at h
      cases htext : value.asStr with
      | none => simp [htext] at h
      | some text =>
          cases harch : Arch.fromStr text with
          | error message => simp [htext, harch, Except.mapError] at h
          | ok found =>
              simp only [htext, harch, Except.mapError, Except.ok.injEq] at h
              simp [htext, harch, h, Except.toOption]

theorem extractArch_eq_ok {table : Json} {cmdArch : Option Arch} {arch : Arch}
    (h : extractArch table cmdArch = .ok arch) :
    (cmdArch.or (some arch)).getD .aarch64 = arch ∧
      FirstPresent [cmdArch, archEntry (some table), some .aarch64] arch ∧
      (cmdArch = none → (entry (some table) "arch".toList).isSome →
        (archEntry (some table)).isSome) := by
  cases cmdArch with
  | none =>
      obtain ⟨hfirst, htyped⟩ := metadataArch_eq_ok h
      exact ⟨rfl, hfirst, fun _ => htyped⟩
  | some cmd =>
      obtain rfl := Except.ok.inj h
      exact ⟨rfl, rfl, nofun⟩

/-- What the extraction finds in the table of the component. -/
structure Extracted (table : Option Json) (component : ComponentType)
    (cmdArch : Option Arch) (config : Option MetadataConfig) : Prop where
  arch : FirstPresent [cmdArch, archEntry table, some .aarch64]
    ((cmdArch.or (config.map (·.arch))).getD .aarch64)
  archTyped : cmdArch = none → (entry table "arch".toList).isSome →
    (archEntry table).isSome
  debug : config.map (·.debug) =
    table.map fun _ => (boolEntry table "debug".toList).getD false
  std : config.map (·.std) =
    table.map fun _ => (boolEntry table "std".toList).getD false
  boolTyped : ∀ key ∈ ["debug".toList, "std".toList],
    ∀ value ∈ entry table key, value.asBool.isSome
  taDevKitDir : component = .ta → config.bind (·.taDevKitDir) =
    pathEntry table "ta-dev-kit-dir".toList
      ((cmdArch.or (config.map (·.arch))).getD .aarch64)
  opteeClientExport : component ≠ .ta → config.bind (·.opteeClientExport) =
    pathEntry table "optee-client-export".toList
      ((cmdArch.or (config.map (·.arch))).getD .aarch64)
  signingKey : component = .ta →
    config.bind (·.signingKey) = signingKeyEntry table
  env : (config.map (·.env)).getD [] = envEntries table

theorem Extracted.none (component : ComponentType) (cmdArch : Option Arch) :
    Extracted none component cmdArch none where
  arch := by cases cmdArch <;> rfl
  archTyped := nofun
  debug := rfl
  std := rfl
  boolTyped := nofun
  taDevKitDir := fun _ => rfl
  opteeClientExport := fun _ => rfl
  signingKey := fun _ => rfl
  env := rfl

theorem extractBuildConfig_eq (metadata : Json) (component : ComponentType)
    (cmdArch : Option Arch) :
    extractBuildConfig metadata component cmdArch =
      match componentTable metadata component with
      | none => .ok none
      | some table =>
          (extractComponentConfig table component cmdArch).map some := by
  rw [extractBuildConfig, componentTable]
  cases metadata.get "optee".toList with
  | none => rfl
  | some opteeMetadata => rfl

theorem extracted_of_table {table : Json} {component : ComponentType}
    {cmdArch : Option Arch} {config : MetadataConfig}
    (h : extractComponentConfig table component cmdArch = .ok config) :
    Extracted (some table) component cmdArch (some config) := by
  rw [extractComponentConfig] at h
  split at h
  · cases h
  · obtain ⟨arch, harch, h⟩ := bind_eq_ok_iff.mp h
    obtain ⟨debug, hdebug, h⟩ := bind_eq_ok_iff.mp h
    obtain ⟨std, hstd, h⟩ := bind_eq_ok_iff.mp h
    obtain rfl := Except.ok.inj h
    obtain ⟨rfl, hdebugTyped⟩ := metadataBool_eq_ok hdebug
    obtain ⟨rfl, hstdTyped⟩ := metadataBool_eq_ok hstd
    obtain ⟨hfinal, hfirst, htyped⟩ := extractArch_eq_ok harch
    refine ⟨?_, htyped, rfl, rfl, ?_, ?_, ?_, ?_, rfl⟩
    · rw [Option.map_some, hfinal]
      exact hfirst
    · intro key hkey
      rcases List.mem_pair.mp hkey with rfl | rfl
      · exact hdebugTyped
      · exact hstdTyped
    · rintro rfl
      rw [Option.map_some, hfinal]
      rfl
    · intro hcomponent
      rw [Option.map_some, hfinal]
      cases component with
      | ta => exact absurd rfl hcomponent
      | ca => rfl
      | plugin => rfl
    · rintro rfl
      rfl

theorem extracted {metadata : Json} {component : ComponentType}
    {cmdArch : Option Arch} {config : Option MetadataConfig}
    (h : extractBuildConfig metadata component cmdArch = .ok config) :
    Extracted (componentTable metadata component) component cmdArch
      config := by
  rw [extractBuildConfig_eq] at h
  cases htable : componentTable metadata component with
  | none =>
      rw [htable] at h
      obtain rfl := Except.ok.inj h
      exact Extracted.none component cmdArch
  | some table =>
      rw [htable] at h
      cases hconfig : extractComponentConfig table component cmdArch with
      | error error => simp [hconfig, Except.map] at h
      | ok found =>
          simp only [hconfig, Except.map, Except.ok.injEq] at h
          subst h
          exact extracted_of_table hconfig

/-! ## Precedence -/

structure CommonPrecedence (table : Option Json) (overrides : BuildOverrides)
    (arch : Arch) (debug : Bool) (env : List (Text × Text)) : Prop where
  arch : FirstPresent [overrides.arch, archEntry table, some .aarch64] arch
  /-- An entry that is no architecture is never passed over. -/
  archTyped : overrides.arch = none → (entry table "arch".toList).isSome →
    (archEntry table).isSome
  debug : FirstPresent
    [overrides.debug, boolEntry table "debug".toList, some false] debug
  boolTyped : ∀ key ∈ ["debug".toList, "std".toList],
    ∀ value ∈ entry table key, value.asBool.isSome
  env : ∀ key, lastValue env key =
    (lastValue overrides.env key).or (lastValue (envEntries table) key)

structure TaBuildConfig.Precedence (config : TaBuildConfig)
    (process : Process) (projectPath : OsString) (table : Option Json)
    (overrides : BuildOverrides) (cmdStd : Option Bool)
    (cmdTaDevKitDir cmdSigningKey : Option OsString)
    (needSigningKey : Bool) : Prop where
  common : CommonPrecedence table overrides config.arch config.debug config.env
  std : FirstPresent [cmdStd, boolEntry table "std".toList, some false]
    config.std
  taDevKitDir : ∃ chosen,
    FirstPresent [cmdTaDevKitDir,
      pathEntry table "ta-dev-kit-dir".toList config.arch,
      process.varOs "TA_DEV_KIT_DIR".toList] chosen ∧
    config.taDevKitDir = joinPath 0x2F projectPath chosen
  signingKey : needSigningKey = true → FirstPresent
    [cmdSigningKey.map (joinPath 0x2F projectPath),
      (signingKeyEntry table).map (joinPath 0x2F projectPath),
      (process.varOs "TA_SIGN_KEY".toList).map (joinPath 0x2F projectPath),
      some (defaultSigningKey config.taDevKitDir)] config.signingKey

structure CaBuildConfig.Precedence (config : CaBuildConfig)
    (process : Process) (projectPath : OsString) (table : Option Json)
    (overrides : BuildOverrides) (cmdOpteeClientExport : Option OsString) :
    Prop where
  common : CommonPrecedence table overrides config.arch config.debug config.env
  opteeClientExport : ∃ chosen,
    FirstPresent [cmdOpteeClientExport,
      pathEntry table "optee-client-export".toList config.arch,
      process.varOs "OPTEE_CLIENT_EXPORT".toList] chosen ∧
    config.opteeClientExport = joinPath 0x2F projectPath chosen

section Precedence

variable {process : Process} {projectPath : OsString} {metadata : Json}
  {overrides : BuildOverrides}

theorem flag_precedence {α : Type} {option flag : Option α}
    {found : Option α} {table : Option Json} {default : α}
    (hfound : found = table.map fun _ => flag.getD default)
    (hflag : table = none → flag = none) :
    FirstPresent [option, flag, some default]
      ((option.or found).getD default) := by
  subst hfound
  cases option with
  | some value => rfl
  | none =>
      cases table with
      | none =>
          rw [hflag rfl]
          rfl
      | some table =>
          cases flag with
          | none => rfl
          | some value => rfl

theorem resolveConfigPath_eq_some {commandLine metadata : Option OsString}
    {name : Text} {path : OsString} {error : ConfigError}
    (h : okOr (resolveConfigPath process commandLine metadata name) error =
      .ok path) :
    FirstPresent [commandLine, metadata, process.varOs name] path := by
  rw [resolveConfigPath] at h
  cases commandLine with
  | some value => exact congrArg some (Except.ok.inj h)
  | none =>
      cases metadata with
      | some value => exact congrArg some (Except.ok.inj h)
      | none =>
          cases hvalue : process.varOs name with
          | none => simp [hvalue, okOr] at h
          | some value =>
              rw [hvalue] at h
              exact congrArg some (Except.ok.inj h)

theorem resolvePathRelativeToProject_eq_ok {path resolved : OsString}
    {pathType : PathType} {context : Text}
    (h : resolvePathRelativeToProject process path projectPath pathType
      context = .ok resolved) :
    resolved = joinPath 0x2F projectPath path := by
  have hpath : (if IsAbsolute 0x2F path then path
      else joinPath 0x2F projectPath path) =
        joinPath 0x2F projectPath path := by
    by_cases habsolute : IsAbsolute 0x2F path
    · rw [if_pos habsolute, joinPath_of_absolute habsolute]
    · rw [if_neg habsolute]
  rw [resolvePathRelativeToProject, hpath] at h
  split at h
  · cases h
  · cases pathType with
    | directory =>
        dsimp only at h
        split at h
        · exact (Except.ok.inj h).symm
        · cases h
    | file =>
        dsimp only at h
        split at h
        · exact (Except.ok.inj h).symm
        · cases h

theorem joinPath_defaultSigningKey (projectPath chosen : OsString) :
    joinPath 0x2F projectPath (defaultSigningKey chosen) =
      defaultSigningKey (joinPath 0x2F projectPath chosen) := by
  have hkeys : ¬ IsAbsolute 0x2F (encodeUtf8 "keys".toList) := by decide
  have hpem : ¬ IsAbsolute 0x2F (encodeUtf8 "default_ta.pem".toList) := by
    decide
  rw [defaultSigningKey, defaultSigningKey, osPath, osPath, osPath, osPath,
    ← joinPath_assoc hpem, ← joinPath_assoc hkeys]

theorem resolveSigningKey_eq_ok {config : Option MetadataConfig}
    {chosen resolved : OsString} {cmdSigningKey : Option OsString}
    (h : resolveSigningKey process config projectPath chosen cmdSigningKey
      true = .ok resolved) :
    FirstPresent [cmdSigningKey.map (joinPath 0x2F projectPath),
      (config.bind (·.signingKey)).map (joinPath 0x2F projectPath),
      (process.varOs "TA_SIGN_KEY".toList).map (joinPath 0x2F projectPath),
      some (defaultSigningKey (joinPath 0x2F projectPath chosen))]
        resolved := by
  rw [resolveSigningKey, if_pos rfl] at h
  rw [resolvePathRelativeToProject_eq_ok h, ← joinPath_defaultSigningKey]
  cases cmdSigningKey with
  | some key => rfl
  | none =>
      cases config.bind (·.signingKey) with
      | some key => rfl
      | none =>
          cases process.varOs "TA_SIGN_KEY".toList with
          | some key => rfl
          | none => rfl

theorem metadataConfig_resolve
    (hmetadata : discoverAppMetadata process projectPath = .ok metadata)
    (component : ComponentType) (cmdArch : Option Arch) :
    MetadataConfig.resolve process projectPath component cmdArch =
      extractBuildConfig metadata component cmdArch := by
  rw [MetadataConfig.resolve, hmetadata]
  rfl

theorem lastValue_mergeEnv {config : Option MetadataConfig}
    {table : Option Json} {component : ComponentType}
    (hextracted : Extracted table component overrides.arch config)
    (key : Text) :
    lastValue (mergeEnv config overrides) key =
      (lastValue overrides.env key).or (lastValue (envEntries table) key) := by
  rw [mergeEnv, lastValue_append, hextracted.env]

theorem commonPrecedence {config : Option MetadataConfig}
    {table : Option Json} {component : ComponentType}
    (hextracted : Extracted table component overrides.arch config) :
    CommonPrecedence table overrides
      ((overrides.arch.or (config.map (·.arch))).getD .aarch64)
      ((overrides.debug.or (config.map (·.debug))).getD false)
      (mergeEnv config overrides) where
  arch := hextracted.arch
  archTyped := hextracted.archTyped
  debug := flag_precedence hextracted.debug fun htable => by
    rw [htable]
    rfl
  boolTyped := hextracted.boolTyped
  env := lastValue_mergeEnv hextracted

theorem TaBuildConfig.precedence {cmdStd : Option Bool}
    {cmdTaDevKitDir cmdSigningKey : Option OsString} {needSigningKey : Bool}
    {config : TaBuildConfig}
    (hmetadata : discoverAppMetadata process projectPath = .ok metadata)
    (h : TaBuildConfig.resolve process projectPath overrides cmdStd
      cmdTaDevKitDir cmdSigningKey needSigningKey = .ok config) :
    config.Precedence process projectPath (componentTable metadata .ta)
      overrides cmdStd cmdTaDevKitDir cmdSigningKey needSigningKey := by
  rw [TaBuildConfig.resolve, metadataConfig_resolve hmetadata] at h
  obtain ⟨found, hfound, h⟩ := bind_eq_ok_iff.mp h
  obtain ⟨chosen, hchosen, h⟩ := bind_eq_ok_iff.mp h
  obtain ⟨taDevKitDir, hkit, h⟩ := bind_eq_ok_iff.mp h
  obtain ⟨signingKey, hkey, h⟩ := bind_eq_ok_iff.mp h
  obtain rfl := Except.ok.inj h
  have hextracted := extracted hfound
  obtain rfl := resolvePathRelativeToProject_eq_ok hkit
  refine ⟨commonPrecedence hextracted, ?_, ⟨chosen, ?_, rfl⟩, ?_⟩
  · refine flag_precedence hextracted.std fun htable => ?_
    rw [htable]
    rfl
  · rw [← hextracted.taDevKitDir rfl]
    exact resolveConfigPath_eq_some hchosen
  · rintro rfl
    rw [← hextracted.signingKey rfl]
    exact resolveSigningKey_eq_ok hkey

theorem CaBuildConfig.precedence {cmdOpteeClientExport : Option OsString}
    {plugin : Bool} {config : CaBuildConfig}
    (hmetadata : discoverAppMetadata process projectPath = .ok metadata)
    (h : CaBuildConfig.resolve process projectPath overrides
      cmdOpteeClientExport plugin = .ok config) :
    config.Precedence process projectPath
      (componentTable metadata (if plugin then .plugin else .ca)) overrides
      cmdOpteeClientExport := by
  rw [CaBuildConfig.resolve, metadataConfig_resolve hmetadata] at h
  obtain ⟨found, hfound, h⟩ := bind_eq_ok_iff.mp h
  obtain ⟨chosen, hchosen, h⟩ := bind_eq_ok_iff.mp h
  obtain ⟨opteeClientExport, hexport, h⟩ := bind_eq_ok_iff.mp h
  obtain rfl := Except.ok.inj h
  have hextracted := extracted hfound
  have hcomponent :
      (if plugin then ComponentType.plugin else .ca) ≠ .ta := by
    cases plugin with
    | false => nofun
    | true => nofun
  obtain rfl := resolvePathRelativeToProject_eq_ok hexport
  refine ⟨commonPrecedence hextracted, ⟨chosen, ?_, rfl⟩⟩
  rw [← hextracted.opteeClientExport hcomponent]
  exact resolveConfigPath_eq_some hchosen

theorem pathEntry_eq_some {table : Option Json} {key : Text} {arch : Arch}
    {path : OsString} (h : pathEntry table key arch = some path) :
    ∃ value text, entry table key = some value ∧ text ≠ [] ∧
      path = encodeUtf8 text ∧
      (value.get arch.key = some (.string text) ∨
        value.get arch.key = none ∧ value = .string text) := by
  obtain ⟨found, rfl, h⟩ := Option.bind_eq_some_iff.mp h
  obtain ⟨text, htext, rfl⟩ := Option.map_eq_some_iff.mp h
  obtain ⟨hbind, hempty⟩ := Option.filter_eq_some_iff.mp htext
  obtain ⟨value, hvalue, hvalueText⟩ := Option.bind_eq_some_iff.mp hbind
  refine ⟨value, text, hvalue, ?_, rfl, ?_⟩
  · rintro rfl
    cases hempty
  · rw [archText] at hvalueText
    cases harch : value.get arch.key with
    | some archValue =>
        rw [harch] at hvalueText
        rw [Json.asStr_eq_some_iff.mp hvalueText]
        exact Or.inl rfl
    | none =>
        rw [harch] at hvalueText
        exact Or.inr ⟨rfl, Json.asStr_eq_some_iff.mp hvalueText⟩

theorem splitMetadataEnv_eq_splitOnce (text : Text) :
    splitMetadataEnv text = splitOnce '=' text := by
  induction text with
  | nil => rfl
  | cons char rest ih =>
      rw [splitOnce, ← ih]
      by_cases hchar : char = '='
      · simp [splitMetadataEnv, List.findIdx?_cons, hchar]
      · simp [splitMetadataEnv, List.findIdx?_cons, hchar, Function.comp_def]

theorem splitOnce_of_mem {separator : Char} {text : Text}
    (h : separator ∈ text) :
    ∃ key value, text = key ++ separator :: value ∧ separator ∉ key ∧
      splitOnce separator text = some (key, value) := by
  induction text with
  | nil => cases h
  | cons char rest ih =>
      by_cases hchar : char = separator
      · exact ⟨[], rest, by rw [hchar]; rfl, nofun, if_pos hchar⟩
      · obtain ⟨key, value, rfl, hkey, hsplit⟩ :=
          ih ((List.mem_cons.mp h).resolve_left (Ne.symm hchar))
        refine ⟨char :: key, value, rfl, ?_, ?_⟩
        · rw [List.mem_cons]
          exact not_or.mpr ⟨Ne.symm hchar, hkey⟩
        · rw [splitOnce, if_neg hchar, hsplit]
          rfl

theorem env_split_alike {text : Text} (h : '=' ∈ text) :
    ∃ key value, text = key ++ '=' :: value ∧ '=' ∉ key ∧
      splitMetadataEnv text = some (key, value) ∧
      parseEnvVar text = .ok (key, value) := by
  obtain ⟨key, value, htext, hkey, hsplit⟩ := splitOnce_of_mem h
  refine ⟨key, value, htext, hkey, ?_, ?_⟩
  · rw [splitMetadataEnv_eq_splitOnce, hsplit]
  · rw [parseEnvVar, hsplit]

theorem metadataConfig_resolve_eq
    (hmetadata : discoverAppMetadata process projectPath = .ok metadata)
    {other : Process} {otherMetadata : Json}
    (hother : discoverAppMetadata other projectPath = .ok otherMetadata)
    {component : ComponentType}
    (htable : componentTable otherMetadata component =
      componentTable metadata component) (cmdArch : Option Arch) :
    MetadataConfig.resolve other projectPath component cmdArch =
      MetadataConfig.resolve process projectPath component cmdArch := by
  rw [metadataConfig_resolve hmetadata, metadataConfig_resolve hother,
    extractBuildConfig_eq, extractBuildConfig_eq, htable]

/-- The systems differ at most in what is in the metadata. -/
structure SameSurroundings (process other : Process) : Prop where
  environment : other.environment = process.environment
  fileKind : other.fileKind = process.fileKind

namespace SameSurroundings

variable {other : Process}

theorem varOs_eq (h : SameSurroundings process other) (name : Text) :
    other.varOs name = process.varOs name := by
  rw [Process.varOs, Process.varOs, h.environment]

theorem resolveConfigPath_eq (h : SameSurroundings process other) :
    resolveConfigPath other = resolveConfigPath process := by
  funext commandLine metadata name
  rw [resolveConfigPath, resolveConfigPath, h.varOs_eq]

theorem resolvePath_eq (h : SameSurroundings process other) :
    resolvePathRelativeToProject other =
      resolvePathRelativeToProject process := by
  funext path projectPath pathType context
  rw [resolvePathRelativeToProject, resolvePathRelativeToProject, h.fileKind]

theorem resolveSigningKey_eq (h : SameSurroundings process other) :
    resolveSigningKey other = resolveSigningKey process := by
  funext config projectPath chosen cmdSigningKey needSigningKey
  rw [resolveSigningKey, resolveSigningKey, h.varOs_eq, h.resolvePath_eq]

theorem taBuildConfig_resolve_eq (h : SameSurroundings process other)
    (hresolve : MetadataConfig.resolve other projectPath .ta overrides.arch =
      MetadataConfig.resolve process projectPath .ta overrides.arch)
    (cmdStd : Option Bool) (cmdTaDevKitDir cmdSigningKey : Option OsString)
    (needSigningKey : Bool) :
    TaBuildConfig.resolve other projectPath overrides cmdStd cmdTaDevKitDir
        cmdSigningKey needSigningKey =
      TaBuildConfig.resolve process projectPath overrides cmdStd
        cmdTaDevKitDir cmdSigningKey needSigningKey := by
  rw [TaBuildConfig.resolve, TaBuildConfig.resolve, hresolve,
    h.resolveConfigPath_eq, h.resolvePath_eq, h.resolveSigningKey_eq]

theorem caBuildConfig_resolve_eq (h : SameSurroundings process other)
    {plugin : Bool}
    (hresolve : MetadataConfig.resolve other projectPath
        (if plugin then .plugin else .ca) overrides.arch =
      MetadataConfig.resolve process projectPath
        (if plugin then .plugin else .ca) overrides.arch)
    (cmdOpteeClientExport : Option OsString) :
    CaBuildConfig.resolve other projectPath overrides cmdOpteeClientExport
        plugin =
      CaBuildConfig.resolve process projectPath overrides
        cmdOpteeClientExport plugin := by
  rw [CaBuildConfig.resolve, CaBuildConfig.resolve, hresolve,
    h.resolveConfigPath_eq, h.resolvePath_eq]

end SameSurroundings

end Precedence

def armTable : Json :=
  .object [("arch".toList, .string "ARM".toList),
    ("ta-dev-kit-dir".toList, .object
      [("aarch64".toList, .string "/kit64".toList),
        ("arm".toList, .string "kit32".toList)]),
    ("env".toList, .array [.string "A=1".toList, .string "A=2=3".toList])]

def armProcess : Process :=
  { workspaceProcess ⟨[⟨taPackage.manifestPath, optee "ta".toList armTable⟩],
      "/ws/ta".toList⟩ with
    fileKind := fun path =>
      if path = osPath project "kit32".toList then some .directory
      else some .file }

def armConfig : TaBuildConfig where
  arch := .arm
  debug := true
  path := project
  env := [("A".toList, "1".toList), ("A".toList, "2=3".toList)]
  noDefaultFeatures := false
  features := none
  std := false
  taDevKitDir := encodeUtf8 "/ws/ta/kit32".toList
  signingKey := encodeUtf8 "/ws/ta/kit32/keys/default_ta.pem".toList

theorem armConfig_resolve :
    TaBuildConfig.resolve armProcess project ⟨none, some true, [], false, none⟩
      none none none true = .ok armConfig := by
  decide +kernel

end TrustZoneSdk.CargoOptee
