import TrustZoneSdk.CargoOptee.Config
import Mathlib.Data.List.DropRight

/-!
# The environment of the cargo child process

A build or lint starts cargo with variables of its own and with those of the
configuration.  For a TA the list of the configuration comes first and the
resolved values replace what it says; for a CA or a plugin the list comes last.
-/

namespace TrustZoneSdk.CargoOptee

open TrustZoneSdk.Foundation

/-! ## Targets -/

inductive BuildMode where
  | ca
  | taStd
  | taNoStd
  deriving DecidableEq, Repr

structure TargetConfig where
  arch : Arch
  mode : BuildMode
  target : Text
  crossCompile : Text

def targetConfigs : List TargetConfig :=
  [⟨.arm, .ca, "arm-unknown-linux-gnueabihf".toList,
      "arm-linux-gnueabihf-".toList⟩,
    ⟨.arm, .taNoStd, "arm-unknown-linux-gnueabihf".toList,
      "arm-linux-gnueabihf-".toList⟩,
    ⟨.arm, .taStd, "arm-unknown-optee".toList,
      "arm-linux-gnueabihf-".toList⟩,
    ⟨.aarch64, .ca, "aarch64-unknown-linux-gnu".toList,
      "aarch64-linux-gnu-".toList⟩,
    ⟨.aarch64, .taNoStd, "aarch64-unknown-linux-gnu".toList,
      "aarch64-linux-gnu-".toList⟩,
    ⟨.aarch64, .taStd, "aarch64-unknown-optee".toList,
      "aarch64-linux-gnu-".toList⟩]

inductive CommandError where
  | noTarget (arch : Arch) (mode : BuildMode)
  | customTargets (message : Text)
  | srcRootNotSet
  | srcRootMissing (path : OsString)
  deriving DecidableEq, Repr

def getTargetAndCrossCompile (arch : Arch) (mode : BuildMode) :
    Except CommandError (Text × Text) :=
  match targetConfigs.find? fun config =>
      config.arch = arch ∧ config.mode = mode with
  | some config => .ok (config.target, config.crossCompile)
  | none => .error (.noTarget arch mode)

def Process.var (process : Process) (name : Text) : Option Text :=
  -- A variable that is no text counts as none.
  (process.varOs name).bind decodeUtf8

def crossCompileOverride (process : Process) : Option Text :=
  (process.var "CROSS_COMPILE".toList).filter fun text => !text.isEmpty

def resolveTargetAndCrossCompile (process : Process) (arch : Arch)
    (mode : BuildMode) : Except CommandError (Text × Text) := do
  let (target, defaultCc) ← getTargetAndCrossCompile arch mode
  return (target, (crossCompileOverride process).getD defaultCc)

/-! ## Commands -/

structure Command where
  program : OsString
  currentDir : OsString
  args : List OsString
  envs : List (OsString × OsString)
  deriving DecidableEq, Repr

/-- The child has the variables of its parent and those of the command. -/
def Command.childEnvironment (command : Command) (process : Process) :
    OsString → Option OsString :=
  assign process.environment command.envs

def cargoCommandIn (process : Process) (projectDir : OsString) : Command where
  program := (process.varOs "CARGO".toList).getD (encodeUtf8 "cargo".toList)
  currentDir := projectDir
  args := []
  envs := []

def osArgs (args : List String) : List OsString :=
  args.map fun arg => encodeUtf8 arg.toList

def osEnv (name : String) (value : OsString) : List (OsString × OsString) :=
  [(encodeUtf8 name.toList, value)]

def configEnvs (env : List (Text × Text)) : List (OsString × OsString) :=
  env.map (Prod.map encodeUtf8 encodeUtf8)

def isWhiteSpace (char : Char) : Bool :=
  let code := char.toNat
  (9 ≤ code && code ≤ 13) || code == 0x20 || code == 0x85 || code == 0xA0 ||
    code == 0x1680 || (0x2000 ≤ code && code ≤ 0x200A) || code == 0x2028 ||
    code == 0x2029 || code == 0x202F || code == 0x205F || code == 0x3000

def trim (text : Text) : Text :=
  (text.dropWhile isWhiteSpace).rdropWhile isWhiteSpace

def customFeatures (features : Option Text) : List Text :=
  match features with
  | some text =>
      ((text.splitOn ',').map trim).filter fun feature => !feature.isEmpty
  | none => []

def taFeatures (config : TaBuildConfig) : List Text :=
  (if config.std then ["std".toList] else []) ++ customFeatures config.features

def rustflags (process : Process) (std : Bool) : Text :=
  let inherited := (process.var "RUSTFLAGS".toList).getD []
  let flags := inherited ++ (if inherited.isEmpty then [] else [' ']) ++
    "-C panic=abort".toList
  if std && !decide ("unstable-options".toList <:+: flags) then
    flags ++ " -Z unstable-options".toList
  else flags

def rustSrcRoot (process : Process) : Except CommandError OsString :=
  match process.var "__CARGO_TESTS_ONLY_SRC_ROOT".toList with
  | none => .error .srcRootNotSet
  | some text =>
      if (process.fileKind (encodeUtf8 text)).isSome then .ok (encodeUtf8 text)
      else .error (.srcRootMissing (encodeUtf8 text))

def stdEnvs (process : Process) (std : Bool)
    (customTargets : Except Text OsString) :
    Except CommandError (List (OsString × OsString)) :=
  if std then do
    let tempDir ← customTargets.mapError .customTargets
    let rustSrc ← rustSrcRoot process
    return osEnv "RUST_TARGET_PATH" tempDir ++
      osEnv "__CARGO_TESTS_ONLY_SRC_ROOT" rustSrc
  else .ok []

/-- `customTargets` is the directory that is made for the target files. -/
def setupBuildCommand (process : Process) (config : TaBuildConfig)
    (command : Text) (customTargets : Except Text OsString) :
    Except CommandError Command := do
  let (target, crossCompile) ← resolveTargetAndCrossCompile process
    config.arch (if config.std then .taStd else .taNoStd)
  let std ← stdEnvs process config.std customTargets
  let base := cargoCommandIn process config.path
  let features := taFeatures config
  let absoluteTaDevKitDir :=
    (process.canonicalize config.taDevKitDir).getD config.taDevKitDir
  return { base with
    args := [encodeUtf8 command] ++ osArgs ["--manifest-path"] ++
      [manifestPath config.path] ++
      (if config.std then
        osArgs ["-Z", "build-std=std,panic_abort", "-Z", "json-target-spec"]
      else []) ++
      osArgs ["--target"] ++ [encodeUtf8 target] ++
      (if config.noDefaultFeatures then osArgs ["--no-default-features"]
      else []) ++
      (if features.isEmpty then []
      else osArgs ["--features"] ++
        [encodeUtf8 ([','].intercalate features)])
    envs := osEnv "RUSTFLAGS" (encodeUtf8 (rustflags process config.std)) ++
      configEnvs config.env ++ osEnv "TA_DEV_KIT_DIR" absoluteTaDevKitDir ++
      osEnv "CROSS_COMPILE" (encodeUtf8 crossCompile) ++ std }

def setupCaCargoCommand (process : Process) (config : CaBuildConfig)
    (command : Text) : Except CommandError Command := do
  let (target, _) ← resolveTargetAndCrossCompile process config.arch .ca
  let base := cargoCommandIn process config.path
  return { base with
    args := [encodeUtf8 command] ++ osArgs ["--manifest-path"] ++
      [manifestPath config.path] ++ osArgs ["--target"] ++
      [encodeUtf8 target] ++
      (if config.noDefaultFeatures then osArgs ["--no-default-features"]
      else []) ++
      (match config.features with
      | some features => osArgs ["--features"] ++ [encodeUtf8 features]
      | none => [])
    envs := osEnv "OPTEE_CLIENT_EXPORT" config.opteeClientExport ++
      configEnvs config.env }

/-! ## What the child sees -/

def defaultCrossCompile : Arch → Text
  | .arm => "arm-linux-gnueabihf-".toList
  | .aarch64 => "aarch64-linux-gnu-".toList

def stdNames (std : Bool) : List Text :=
  if std then
    ["RUST_TARGET_PATH".toList, "__CARGO_TESTS_ONLY_SRC_ROOT".toList]
  else []

def taNames (std : Bool) : List Text :=
  ["RUSTFLAGS".toList, "TA_DEV_KIT_DIR".toList, "CROSS_COMPILE".toList] ++
    stdNames std

structure TaBuildConfig.ReachesChild (config : TaBuildConfig)
    (process : Process) (child : OsString → Option OsString) : Prop where
  taDevKitDir : child (encodeUtf8 "TA_DEV_KIT_DIR".toList) =
    some ((process.canonicalize config.taDevKitDir).getD config.taDevKitDir)
  crossCompile : child (encodeUtf8 "CROSS_COMPILE".toList) =
    some (encodeUtf8 ((crossCompileOverride process).getD
      (defaultCrossCompile config.arch)))
  others : ∀ key value, key ∉ taNames config.std →
    lastValue config.env key = some value →
      child (encodeUtf8 key) = some (encodeUtf8 value)

structure CaBuildConfig.ReachesChild (config : CaBuildConfig)
    (child : OsString → Option OsString) : Prop where
  opteeClientExport : child (encodeUtf8 "OPTEE_CLIENT_EXPORT".toList) =
    some config.opteeClientExport
  others : ∀ key value, key ≠ "OPTEE_CLIENT_EXPORT".toList →
    lastValue config.env key = some value →
      child (encodeUtf8 key) = some (encodeUtf8 value)

theorem getTargetAndCrossCompile_eq_ok (arch : Arch) (mode : BuildMode) :
    ∃ target, getTargetAndCrossCompile arch mode =
      .ok (target, defaultCrossCompile arch) := by
  cases arch with
  | arm => cases mode <;> exact ⟨_, rfl⟩
  | aarch64 => cases mode <;> exact ⟨_, rfl⟩

theorem resolveTargetAndCrossCompile_eq_ok (process : Process) (arch : Arch)
    (mode : BuildMode) :
    ∃ target, resolveTargetAndCrossCompile process arch mode =
      .ok (target, (crossCompileOverride process).getD
        (defaultCrossCompile arch)) := by
  obtain ⟨target, htarget⟩ := getTargetAndCrossCompile_eq_ok arch mode
  refine ⟨target, ?_⟩
  rw [resolveTargetAndCrossCompile, htarget]
  rfl

theorem lastValue_osEnv (name : String) (value : OsString) (key : Text) :
    lastValue (osEnv name value) (encodeUtf8 key) =
      if name.toList = key then some value else none := by
  rw [osEnv, lastValue_cons]
  simp only [encodeUtf8_injective.eq_iff]
  rfl

theorem Command.childEnvironment_apply (command : Command) (process : Process)
    (name : OsString) :
    command.childEnvironment process name =
      (lastValue command.envs name).or (process.environment name) :=
  assign_apply process.environment command.envs name

theorem lastValue_configEnvs (env : List (Text × Text)) (key : Text) :
    lastValue (configEnvs env) (encodeUtf8 key) =
      (lastValue env key).map encodeUtf8 :=
  lastValue_map encodeUtf8_injective encodeUtf8 env key

theorem lastValue_stdEnvs {process : Process} {std : Bool}
    {customTargets : Except Text OsString} {envs : List (OsString × OsString)}
    (h : stdEnvs process std customTargets = .ok envs) {key : Text}
    (hkey : key ∉ stdNames std) : lastValue envs (encodeUtf8 key) = none := by
  cases std with
  | false =>
      obtain rfl := Except.ok.inj h
      rfl
  | true =>
      rw [stdEnvs, if_pos rfl] at h
      obtain ⟨tempDir, -, h⟩ := bind_eq_ok_iff.mp h
      obtain ⟨rustSrc, -, h⟩ := bind_eq_ok_iff.mp h
      obtain rfl := Except.ok.inj h
      rw [stdNames, if_pos rfl, List.mem_pair, not_or] at hkey
      rw [lastValue_append, lastValue_osEnv, lastValue_osEnv,
        if_neg (Ne.symm hkey.1), if_neg (Ne.symm hkey.2)]
      rfl

theorem setupBuildCommand_envs {process : Process} {config : TaBuildConfig}
    {command : Text} {customTargets : Except Text OsString} {cmd : Command}
    (h : setupBuildCommand process config command customTargets = .ok cmd) :
    ∃ std, stdEnvs process config.std customTargets = .ok std ∧
      cmd.envs =
        osEnv "RUSTFLAGS" (encodeUtf8 (rustflags process config.std)) ++
        configEnvs config.env ++
        osEnv "TA_DEV_KIT_DIR"
          ((process.canonicalize config.taDevKitDir).getD
            config.taDevKitDir) ++
        osEnv "CROSS_COMPILE" (encodeUtf8 ((crossCompileOverride process).getD
          (defaultCrossCompile config.arch))) ++ std := by
  obtain ⟨target, htarget⟩ := resolveTargetAndCrossCompile_eq_ok process
    config.arch (if config.std then .taStd else .taNoStd)
  obtain ⟨resolved, hresolved, h⟩ := bind_eq_ok_iff.mp h
  obtain rfl := Except.ok.inj (htarget.symm.trans hresolved)
  obtain ⟨std, hstd, h⟩ := bind_eq_ok_iff.mp h
  obtain rfl := Except.ok.inj h
  exact ⟨std, hstd, rfl⟩

theorem TaBuildConfig.reachesChild {process : Process}
    {config : TaBuildConfig} {command : Text}
    {customTargets : Except Text OsString} {cmd : Command}
    (h : setupBuildCommand process config command customTargets = .ok cmd) :
    config.ReachesChild process (cmd.childEnvironment process) := by
  -- The resolved values come after the list and win.
  obtain ⟨std, hstd, henvs⟩ := setupBuildCommand_envs h
  have hkit : "TA_DEV_KIT_DIR".toList ∉ stdNames config.std := by
    cases config.std <;> decide
  have hcross : "CROSS_COMPILE".toList ∉ stdNames config.std := by
    cases config.std <;> decide
  refine ⟨?_, ?_, ?_⟩
  · rw [Command.childEnvironment_apply, henvs, lastValue_append,
      lastValue_stdEnvs hstd hkit, lastValue_append, lastValue_osEnv,
      lastValue_append, lastValue_osEnv]
    rfl
  · rw [Command.childEnvironment_apply, henvs, lastValue_append,
      lastValue_stdEnvs hstd hcross, lastValue_append, lastValue_osEnv]
    rfl
  · intro key value hkey hvalue
    simp only [taNames, List.mem_append, List.mem_cons, not_or] at hkey
    obtain ⟨⟨-, hkit, hcross, -⟩, hstdKey⟩ := hkey
    rw [Command.childEnvironment_apply, henvs, lastValue_append,
      lastValue_stdEnvs hstd hstdKey, lastValue_append, lastValue_osEnv,
      if_neg (Ne.symm hcross), lastValue_append, lastValue_osEnv,
      if_neg (Ne.symm hkit), lastValue_append, lastValue_configEnvs, hvalue]
    rfl

theorem setupCaCargoCommand_envs (process : Process) (config : CaBuildConfig)
    (command : Text) :
    ∃ cmd, setupCaCargoCommand process config command = .ok cmd ∧
      cmd.envs = osEnv "OPTEE_CLIENT_EXPORT" config.opteeClientExport ++
        configEnvs config.env := by
  obtain ⟨target, htarget⟩ := resolveTargetAndCrossCompile_eq_ok process
    config.arch .ca
  rw [setupCaCargoCommand, htarget]
  exact ⟨_, rfl, rfl⟩

theorem CaBuildConfig.reachesChild_iff {process : Process}
    {config : CaBuildConfig} {cmd : Command}
    (henvs : cmd.envs =
      osEnv "OPTEE_CLIENT_EXPORT" config.opteeClientExport ++
        configEnvs config.env) :
    config.ReachesChild (cmd.childEnvironment process) ↔
      ∀ value ∈ lastValue config.env "OPTEE_CLIENT_EXPORT".toList,
        encodeUtf8 value = config.opteeClientExport := by
  -- The list comes after the resolved path and may displace it.
  have hchild : ∀ key, cmd.childEnvironment process (encodeUtf8 key) =
      (((lastValue config.env key).map encodeUtf8).or
        (if "OPTEE_CLIENT_EXPORT".toList = key then
          some config.opteeClientExport else none)).or
        (process.environment (encodeUtf8 key)) := by
    intro key
    rw [Command.childEnvironment_apply, henvs, lastValue_append,
      lastValue_osEnv, lastValue_configEnvs]
  constructor
  · intro h value hvalue
    have hexport := h.opteeClientExport
    rw [hchild, Option.mem_def.mp hvalue] at hexport
    exact Option.some.inj hexport
  · intro h
    refine ⟨?_, fun key value _ hvalue => ?_⟩
    · rw [hchild, if_pos rfl]
      cases hvalue : lastValue config.env "OPTEE_CLIENT_EXPORT".toList with
      | none => rfl
      | some value => exact congrArg some (h value hvalue)
    · rw [hchild, hvalue]
      rfl

/--
The resolved paths of a TA build reach cargo whatever the list says; the path
of a CA or plugin build does exactly if the list does not give its variable
another value in the end.
-/
theorem resolved_paths_reach_child_iff (process : Process)
    (projectPath : OsString) (metadata : Json)
    (hmetadata : discoverAppMetadata process projectPath = .ok metadata) :
    (∀ overrides cmdStd cmdTaDevKitDir cmdSigningKey needSigningKey config,
      TaBuildConfig.resolve process projectPath overrides cmdStd
          cmdTaDevKitDir cmdSigningKey needSigningKey = .ok config →
        config.Precedence process projectPath (componentTable metadata .ta)
          overrides cmdStd cmdTaDevKitDir cmdSigningKey needSigningKey ∧
        ∀ command customTargets cmd,
          setupBuildCommand process config command customTargets = .ok cmd →
            config.ReachesChild process (cmd.childEnvironment process)) ∧
    ∀ overrides cmdOpteeClientExport plugin config,
      CaBuildConfig.resolve process projectPath overrides
          cmdOpteeClientExport plugin = .ok config →
        config.Precedence process projectPath
          (componentTable metadata (if plugin then .plugin else .ca))
          overrides cmdOpteeClientExport ∧
        ∀ command, ∃ cmd,
          setupCaCargoCommand process config command = .ok cmd ∧
          (config.ReachesChild (cmd.childEnvironment process) ↔
            ∀ value ∈ lastValue config.env "OPTEE_CLIENT_EXPORT".toList,
              encodeUtf8 value = config.opteeClientExport) := by
  refine ⟨?_, ?_⟩
  · intro overrides cmdStd cmdTaDevKitDir cmdSigningKey needSigningKey config h
    refine ⟨TaBuildConfig.precedence hmetadata h, ?_⟩
    exact fun command customTargets cmd => TaBuildConfig.reachesChild
  · intro overrides cmdOpteeClientExport plugin config h
    refine ⟨CaBuildConfig.precedence hmetadata h, fun command => ?_⟩
    obtain ⟨cmd, hcmd, henvs⟩ :=
      setupCaCargoCommand_envs process config command
    exact ⟨cmd, hcmd, CaBuildConfig.reachesChild_iff henvs⟩

theorem armConfig_reaches_child :
    ∃ cmd, setupBuildCommand armProcess armConfig "build".toList (.ok []) =
        .ok cmd ∧
      armConfig.ReachesChild armProcess (cmd.childEnvironment armProcess) := by
  have h := (resolved_paths_reach_child_iff armProcess project
    (optee "ta".toList armTable) rfl).1 _ _ _ _ _ _ armConfig_resolve
  exact ⟨_, rfl, h.2 "build".toList (.ok []) _ rfl⟩

def exportProcess : Process :=
  { workspaceProcess ⟨[⟨taPackage.manifestPath, optee "ca".toList
      (.object [("env".toList, .array
        [.string "OPTEE_CLIENT_EXPORT=/old".toList])])⟩],
      "/ws/ta".toList⟩ with
    fileKind := fun _ => some .directory }

def exportConfig : CaBuildConfig where
  arch := .aarch64
  debug := false
  path := project
  env := [("OPTEE_CLIENT_EXPORT".toList, "/old".toList)]
  noDefaultFeatures := false
  features := none
  opteeClientExport := encodeUtf8 "/new".toList
  plugin := false

theorem metadata_displaces_client_export :
    CaBuildConfig.resolve exportProcess project ⟨none, none, [], false, none⟩
        (some (encodeUtf8 "/new".toList)) false = .ok exportConfig ∧
      ∃ cmd, setupCaCargoCommand exportProcess exportConfig "build".toList =
          .ok cmd ∧
        cmd.childEnvironment exportProcess
          (encodeUtf8 "OPTEE_CLIENT_EXPORT".toList) =
            some (encodeUtf8 "/old".toList) := by
  refine ⟨?_, ?_⟩
  · decide +kernel
  · obtain ⟨cmd, hcmd, henvs⟩ :=
      setupCaCargoCommand_envs exportProcess exportConfig "build".toList
    refine ⟨cmd, hcmd, ?_⟩
    rw [Command.childEnvironment, henvs]
    decide +kernel

end TrustZoneSdk.CargoOptee
