import TrustZoneSdk.CargoOptee.Artifacts
import TrustZoneSdk.CargoOptee.BuildUuid
import TrustZoneSdk.Foundation.Script

/-!
# Builds, lints and installations from end to end

Each command of the tool is a script of calls to a machine that may answer them
in any way: tools fail to start or exit with a code, files come and go.  The
first call that fails ends the command, and what is left behind is removed.
-/

namespace TrustZoneSdk.CargoOptee

open TrustZoneSdk.Foundation

/-! ## Parents and file names -/

def trimSegments (segments : List OsString) : List OsString :=
  segments.rdropWhile fun segment => segment = [] ∨ segment = [0x2E]

def pathParts (path : OsString) : List OsString × List OsString :=
  let segments := path.splitOn 0x2F
  if IsAbsolute 0x2F path ∨ segments.head? = some [0x2E] then
    (segments.take 1, trimSegments (segments.drop 1))
  else ([], trimSegments segments)

def parentOf (path : OsString) : Option OsString :=
  match pathParts path with
  | (lead, []) => if lead = [[0x2E]] then some [] else none
  | (lead, body) =>
      let rest := trimSegments body.dropLast
      if lead = [[]] ∧ rest = [] then some [0x2F]
      else some ([0x2F].intercalate (lead ++ rest))

def fileNameOf (path : OsString) : Option OsString :=
  (pathParts path).2.getLast?.filter fun name => name ≠ [0x2E, 0x2E]

def withFileName (path name : OsString) : OsString :=
  if (fileNameOf path).isSome then
    joinPath 0x2F ((parentOf path).getD path) name
  else joinPath 0x2F path name

example : parentOf (encodeUtf8 "/w/release/ta".toList) =
    some (encodeUtf8 "/w/release".toList) := by
  decide +kernel

/-! ## The machine -/

structure Tool where
  name : Text
  program : OsString
  currentDir : Option OsString
  args : List OsString
  envs : List (OsString × OsString)
  deriving DecidableEq, Repr, Inhabited

def Command.tool (command : Command) (name : String) : Tool where
  name := name.toList
  program := command.program
  currentDir := some command.currentDir
  args := command.args
  envs := command.envs

/--
What comes of a build that Cargo has started.  The process is as it is found
while the stream is read.
-/
structure CargoOutput where
  stream : List (Except Text Message)
  status : Except Text (Option Int)
  process : Process

inductive Call where
  | process
  | canonicalize (path : OsString)
  | pathExists (path : OsString)
  | checkCommandAvailable (program : Text)
  | setupCustomTargets
  | spawnCargo (command : Command)
  | run (tool : Tool)
  | uniqueTempfileIn (parent : OsString) (start ending : Text)
  | readFile (path : OsString)
  | keep (tmp : OsString)
  | rename (source dest : OsString)
  | setPermissions (path : OsString) (mode : Nat)
  | copy (source dest : OsString)
  | removeDirAll (path : OsString)
  /-- A temporary file or directory goes when its owner does. -/
  | drop (tmp : OsString)

@[reducible] def Call.Answer : Call → Type
  | process => Process
  | canonicalize _ => Except Text OsString
  | pathExists _ => Bool
  | checkCommandAvailable _ => Bool
  | setupCustomTargets => Except Text OsString
  | spawnCargo _ => Except Text CargoOutput
  | run _ => Except Text (Option Int)
  | uniqueTempfileIn _ _ _ => Except Text OsString
  | readFile _ => Option Contents
  | keep _ => Except Text Unit
  | rename _ _ => Except Text Unit
  | setPermissions _ _ => Except Text Unit
  | copy _ _ => Except Text Unit
  | removeDirAll _ => Except Text Unit
  | drop _ => Unit

/-- Any machine: what it answers may depend on all that has happened. -/
abbrev Machine (σ : Type) := (call : Call) → σ → call.Answer × σ

/-- The two things a command needs to know of the ELF files it reads. -/
structure ElfReader where
  host : Host
  parseElf : List UInt8 → Option Elf

inductive BuildError where
  | projectDirectory (path : OsString) (cause : Text)
  | noCargoToml (path : OsString)
  | command (error : CommandError)
  | toolchain (missing : List Text)
  | failedToRun (name cause : Text)
  | exitCode (name : Text) (code : Option Int)
  | spawn (program : OsString) (cause : Text)
  | wait (cause : Text)
  | buildFailed (code : Option Int)
  | artifact (error : ArtifactError)
  | noFileName (path : OsString)
  | noParent (what : Text) (path : OsString)
  | temp (parent : OsString) (cause : Text)
  | uuid (path : OsString) (error : ElfError)
  | signingKeyNotFound (path : OsString)
  | doesNotExist (context : Text) (path : OsString)
  | publish (source dest : OsString) (cause : Text)
  | permissions (path : OsString) (cause : Text)
  | installDirMissing (path : OsString)
  | noBinaryName
  | io (cause : Text)
  deriving DecidableEq, Repr

def debugCode : Option Int → Text
  | some code => "Some(".toList ++ (toString code).toList ++ ")".toList
  | none => "None".toList

def CargoArtifactKind.debug : CargoArtifactKind → Text
  | bin => "Bin".toList
  | cdylib => "Cdylib".toList

def debugPaths (debug : OsString → Text) (paths : List OsString) : Text :=
  "[".toList ++ ", ".toList.intercalate (paths.map debug) ++ "]".toList

def ArtifactError.message (debug display : OsString → Text) :
    ArtifactError → Text
  | none kind manifest =>
      "Cargo produced no ".toList ++ kind.debug ++ " artifact for ".toList ++
        display manifest
  | multiple kind manifest artifacts =>
      "Cargo produced multiple ".toList ++ kind.debug ++
        " artifacts for ".toList ++ display manifest ++ ": ".toList ++
        debugPaths debug artifacts ++
        ". Use a single bin/cdylib target.".toList

def CommandError.message (debug : OsString → Text) : CommandError → Text
  | noTarget arch mode =>
      ("No target configuration found for arch: " ++
        (match arch with
        | .aarch64 => "Aarch64"
        | .arm => "Arm") ++ ", mode: " ++
        (match mode with
        | .ca => "Ca"
        | .taStd => "TaStd"
        | .taNoStd => "TaNoStd")).toList
  | customTargets message => message
  | srcRootNotSet =>
      ("__CARGO_TESTS_ONLY_SRC_ROOT is not set.\n" ++
        "For std TA builds, set it to the Rust library source directory, " ++
        "e.g.:\nexport __CARGO_TESTS_ONLY_SRC_ROOT=/path/to/rust/library")
        |>.toList
  | srcRootMissing path =>
      "__CARGO_TESTS_ONLY_SRC_ROOT points to a non-existent path: ".toList ++
        debug path

def BuildError.message (debug display : OsString → Text) : BuildError → Text
  | projectDirectory path cause =>
      "project directory ".toList ++ display path ++ ": ".toList ++ cause
  | noCargoToml path =>
      "No Cargo.toml found in TA project directory: ".toList ++ debug path ++
        ("\nPlease run cargo-optee from a TA project directory or specify " ++
          "--manifest-path").toList
  | command error => error.message debug
  | toolchain _ => "Cross-compile toolchain not available".toList
  | failedToRun name cause =>
      "failed to run ".toList ++ name ++ ": ".toList ++ cause
  | exitCode name code =>
      name ++ " failed with exit code: ".toList ++ debugCode code
  | spawn program cause =>
      "failed to run ".toList ++ debug program ++ ": ".toList ++ cause
  | wait cause => "failed to wait for cargo build: ".toList ++ cause
  | buildFailed code =>
      "build failed with exit code: ".toList ++ debugCode code
  | artifact error => error.message debug display
  | noFileName path => "Binary path has no file name: ".toList ++ debug path
  | noParent what path =>
      what ++ " path has no parent: ".toList ++ debug path
  | temp parent cause =>
      "create unique temp in ".toList ++ display parent ++ ": ".toList ++ cause
  | uuid path error =>
      match error with
      | .uuidSize _ => error.message.toList
      | _ => display path ++ ": ".toList ++ error.message.toList
  | signingKeyNotFound path => "Signing key not found at ".toList ++ debug path
  | doesNotExist context path =>
      context ++ " does not exist: ".toList ++ debug path
  | publish source dest cause =>
      "failed to publish ".toList ++ display source ++ " to ".toList ++
        display dest ++ ": ".toList ++ cause
  | permissions path cause =>
      "set permissions on ".toList ++ display path ++ ": ".toList ++ cause
  | installDirMissing path =>
      "Install directory does not exist: ".toList ++ debug path
  | noBinaryName => "Could not get binary name".toList
  | io cause => cause

abbrev BuildScript (α : Type) := Script Call.Answer BuildError α

/-! ## Steps -/

def refused {α : Type} (error : Text → BuildError) (reply : Except Text α) :
    Except (Halt BuildError) α :=
  reply.mapError fun cause => .failed (error cause)

def absoluteDir (path : OsString) : BuildScript OsString :=
  .step (.canonicalize path) (refused (.projectDirectory path))

def requireFound (path : OsString) (error : BuildError) : BuildScript Unit :=
  .step (.pathExists path) fun found =>
    if found then .ok () else .error (.failed error)

def lookUp {α : Type} (read : Process → Except CommandError α) :
    BuildScript α :=
  -- What depends on the process is made for the process as it then is.
  .step .process fun process =>
    (read process).mapError fun error => .failed (.command error)

def toolNames (crossCompile : Text) : List Text :=
  [crossCompile ++ "gcc".toList, crossCompile ++ "objcopy".toList]

def missingTools : List Text → BuildScript (List Text)
  -- All tools are tried, whether or not one is missing already.
  | [] => return []
  | tool :: tools => do
      let available ← .step (.checkCommandAvailable tool) .ok
      let missing ← missingTools tools
      return if available then missing else tool :: missing

def checkToolchainExists (crossCompile : Text) : BuildScript Unit := do
  let missing ← missingTools (toolNames crossCompile)
  if missing.isEmpty then return ()
  else .fail (.failed (.toolchain missing))

def runStreamingCommand (tool : Tool) : BuildScript Unit :=
  .step (.run tool) fun
    | .error cause => .error (.failed (.failedToRun tool.name cause))
    | .ok code =>
        if code = some 0 then .ok ()
        else .error (.failed (.exitCode tool.name code))

def uniqueTempfileIn (what : Text) (path : OsString) (start ending : Text) :
    BuildScript OsString :=
  match parentOf path with
  | none => .fail (.failed (.noParent what path))
  | some parent =>
      .step (.uniqueTempfileIn parent start ending) (refused (.temp parent))

def publishTempfile (tmp dest : OsString) : BuildScript Unit := do
  -- What cannot be kept goes; what cannot be renamed stays.
  Script.closing [] [.drop tmp] (.step (.keep tmp) (refused .io))
  .step (.rename tmp dest) (refused (.publish tmp dest))

def taFileMode : Nat := 0o644

def setTaFilePermissions (path : OsString) : BuildScript Unit :=
  .step (.setPermissions path taFileMode) (refused (.permissions path))

def copyFile (source dest : OsString) : BuildScript Unit :=
  .step (.copy source dest) (refused .io)

def cargoArtifacts (manifest : OsString) (kind : CargoArtifactKind)
    (output : CargoOutput) : Except BuildError (List OsString) :=
  let artifacts :=
    collectCargoArtifacts output.process manifest kind output.stream
  match output.status with
  | .error cause => .error (.wait cause)
  | .ok code =>
      -- The failure of a build counts more than what could not be read of it.
      if code ≠ some 0 then .error (.buildFailed code)
      else artifacts.mapError .io

def chooseArtifact (manifest : OsString) (kind : CargoArtifactKind)
    (output : CargoOutput) : Except BuildError OsString := do
  let artifacts ← cargoArtifacts manifest kind output
  (uniqueCargoArtifact artifacts manifest kind).mapError .artifact

def runCargoBuild (command : Command) (manifest : OsString)
    (kind : CargoArtifactKind) : BuildScript OsString :=
  .step (.spawnCargo command) fun
    | .error cause => .error (.failed (.spawn command.program cause))
    | .ok output => (chooseArtifact manifest kind output).mapError .failed

def ElfReader.uuidOf (reader : ElfReader) (plugin : Bool)
    (contents : Option Contents) : Option (Except ElfError UuidOctets) :=
  if plugin then readPluginUuid reader.host reader.parseElf contents
  else readTaUuid reader.host reader.parseElf contents

def readUuid (reader : ElfReader) (plugin : Bool) (path : OsString) :
    BuildScript UuidOctets :=
  .step (.readFile path) fun contents =>
    match reader.uuidOf plugin contents with
    | none => .error .killed
    | some (.error error) => .error (.failed (.uuid path error))
    | some (.ok uuid) => .ok uuid

/-! ## Commands that are run -/

def Command.withBuildArgs (command : Command) (debug : Bool)
    (target crossCompile : Text) : Command :=
  { command with
    args := command.args ++ (if debug then [] else osArgs ["--release"]) ++
      osArgs ["--config"] ++
      [encodeUtf8 ("target.".toList ++ target ++ ".linker=\"".toList ++
        crossCompile ++ "gcc\"".toList)] ++
      osArgs ["--message-format=json"] }

def TaBuildConfig.mode (config : TaBuildConfig) : BuildMode :=
  if config.std then .taStd else .taNoStd

def taBuildCommand (config : TaBuildConfig) (targets : OsString)
    (process : Process) : Except CommandError Command := do
  let (target, crossCompile) ←
    resolveTargetAndCrossCompile process config.arch config.mode
  let command ← setupBuildCommand process config "build".toList (.ok targets)
  return command.withBuildArgs config.debug target crossCompile

def caBuildCommand (config : CaBuildConfig) (process : Process) :
    Except CommandError Command := do
  let (target, crossCompile) ←
    resolveTargetAndCrossCompile process config.arch .ca
  let command ← setupCaCargoCommand process config "build".toList
  return command.withBuildArgs config.debug target crossCompile

def fmtTool (project : OsString) (process : Process) :
    Except CommandError Tool :=
  let command := cargoCommandIn process project
  .ok ({ command with
    args := osArgs ["fmt", "--manifest-path"] ++ [manifestPath project] :
      Command }.tool "cargo fmt")

def applyClippyDenyLints (command : Command) : Command :=
  { command with
    args := command.args ++ osArgs ["--", "-D", "warnings", "-D",
      "clippy::unwrap_used", "-D", "clippy::expect_used", "-D",
      "clippy::panic"] }

def taClippyTool (config : TaBuildConfig) (targets : OsString)
    (process : Process) : Except CommandError Tool := do
  let command ← setupBuildCommand process config "clippy".toList (.ok targets)
  return (applyClippyDenyLints command).tool "cargo clippy"

def caClippyTool (config : CaBuildConfig) (process : Process) :
    Except CommandError Tool := do
  let command ← setupCaCargoCommand process config "clippy".toList
  return (applyClippyDenyLints command).tool "cargo clippy"

def cleanTool (project : OsString) (process : Process) :
    Except CommandError Tool :=
  let command := cargoCommandIn process project
  .ok ({ command with
    args := osArgs ["clean", "--manifest-path"] ++ [manifestPath project] :
      Command }.tool "cargo clean")

def objcopyTool (crossCompile : Text) (source dest : OsString) : Tool where
  name := crossCompile ++ "objcopy".toList
  program := encodeUtf8 (crossCompile ++ "objcopy".toList)
  currentDir := none
  args := osArgs ["--strip-unneeded"] ++ [source, dest]
  envs := []

def crossCompileOf (arch : Arch) (mode : BuildMode) (process : Process) :
    Except CommandError Text := do
  let (_, crossCompile) ← resolveTargetAndCrossCompile process arch mode
  return crossCompile

def signScript (config : TaBuildConfig) : OsString :=
  osPath (osPath config.taDevKitDir "scripts".toList)
    "sign_encrypt.py".toList

def signTool (config : TaBuildConfig) (uuid : UuidOctets)
    (source dest : OsString) : Tool where
  name := "sign_encrypt.py".toList
  program := encodeUtf8 "python3".toList
  currentDir := none
  args := [signScript config] ++ osArgs ["--uuid"] ++
    [encodeUtf8 uuid.text] ++ osArgs ["--key"] ++ [config.signingKey] ++
    osArgs ["--in"] ++ [source] ++ osArgs ["--out"] ++ [dest]
  envs := []

/-! ## Trusted applications -/

def withCustomTargets {α : Type} (std : Bool)
    (body : OsString → BuildScript α) : BuildScript α :=
  if std then do
    let dir ← .step .setupCustomTargets
      (refused fun cause => .command (.customTargets cause))
    Script.closing [.drop dir] [.drop dir] (body dir)
  else body []

def buildTaBinary (config : TaBuildConfig) : BuildScript OsString :=
  withCustomTargets config.std fun targets => do
    let command ← lookUp (taBuildCommand config targets)
    runCargoBuild command (manifestPath config.path) .bin

def strippedStart (binaryPath : OsString) : Text :=
  "stripped_".toList ++ ((fileNameOf binaryPath).bind decodeUtf8).getD [] ++
    ".".toList

def strippedTempfile (binaryPath : OsString) : BuildScript OsString :=
  if ((fileNameOf binaryPath).bind decodeUtf8).isSome then
    uniqueTempfileIn "Binary".toList binaryPath (strippedStart binaryPath) []
  else .fail (.failed (.noFileName binaryPath))

def taOutput (stripped : OsString) (uuid : UuidOctets) : OsString :=
  osPath ((parentOf stripped).getD []) (uuid.text ++ ".ta".toList)

def signTa (reader : ElfReader) (config : TaBuildConfig)
    (stripped : OsString) : BuildScript UuidOctets := do
  let uuid ← readUuid reader false stripped
  requireFound config.signingKey (.signingKeyNotFound config.signingKey)
  requireFound (signScript config)
    (.doesNotExist "Sign script".toList (signScript config))
  let tmp ← uniqueTempfileIn "Stripped".toList stripped
    (uuid.text ++ ".ta.".toList) ".partial".toList
  Script.closing [] [.drop tmp]
    (runStreamingCommand (signTool config uuid stripped tmp))
  publishTempfile tmp (taOutput stripped uuid)
  setTaFilePermissions (taOutput stripped uuid)
  return uuid

def installTa (source : OsString) (uuid : UuidOctets) :
    Option OsString → BuildScript Unit
  | none => return ()
  | some installDir => do
      requireFound installDir (.installDirMissing installDir)
      let dest := osPath installDir (uuid.text ++ ".ta".toList)
      copyFile source dest
      setTaFilePermissions dest

/-- The part of a build after Cargo; the stripped file goes at its end. -/
def packTa (reader : ElfReader) (config : TaBuildConfig)
    (installDir : Option OsString) (elf : OsString) : BuildScript Unit := do
  let crossCompile ← lookUp (crossCompileOf config.arch config.mode)
  let stripped ← strippedTempfile elf
  Script.closing [.drop stripped] [.drop stripped] do
    runStreamingCommand (objcopyTool crossCompile elf stripped)
    let uuid ← signTa reader config stripped
    installTa (taOutput stripped uuid) uuid installDir

def buildTa (reader : ElfReader) (config : TaBuildConfig)
    (installDir : Option OsString) : BuildScript Unit := do
  let project ← absoluteDir config.path
  requireFound (manifestPath project) (.noCargoToml project)
  let config := { config with path := project }
  let crossCompile ← lookUp (crossCompileOf config.arch config.mode)
  checkToolchainExists crossCompile
  let elf ← buildTaBinary config
  packTa reader config installDir elf

def clippyTa (config : TaBuildConfig) : BuildScript Unit := do
  let project ← absoluteDir config.path
  requireFound (manifestPath project) (.noCargoToml project)
  let fmt ← lookUp (fmtTool project)
  runStreamingCommand fmt
  withCustomTargets config.std fun targets => do
    let clippy ← lookUp (taClippyTool { config with path := project } targets)
    runStreamingCommand clippy

/-! ## Client applications and plugins -/

def CaBuildConfig.kind (config : CaBuildConfig) : CargoArtifactKind :=
  if config.plugin then .cdylib else .bin

def pluginOutput (pluginSrc : OsString) (uuid : UuidOctets) : OsString :=
  withFileName pluginSrc (encodeUtf8 (pluginName uuid))

def copyPluginFile (reader : ElfReader) (pluginSrc : OsString) :
    BuildScript OsString := do
  let uuid ← readUuid reader true pluginSrc
  let tmp ← uniqueTempfileIn "Plugin".toList pluginSrc
    (pluginName uuid ++ ".".toList) []
  Script.closing [] [.drop tmp] (copyFile pluginSrc tmp)
  publishTempfile tmp (pluginOutput pluginSrc uuid)
  return pluginOutput pluginSrc uuid

def postBuild (reader : ElfReader) (config : CaBuildConfig)
    (builtPath : OsString) : BuildScript OsString :=
  if config.plugin then copyPluginFile reader builtPath
  else do
    let crossCompile ← lookUp (crossCompileOf config.arch .ca)
    runStreamingCommand (objcopyTool crossCompile builtPath builtPath)
    return builtPath

def copyInto (source installDir : OsString) : BuildScript Unit :=
  match fileNameOf source with
  | some name => copyFile source (joinPath 0x2F installDir name)
  | none => .fail (.failed .noBinaryName)

def installCa (source : OsString) : Option OsString → BuildScript Unit
  | none => return ()
  | some installDir => do
      requireFound installDir (.installDirMissing installDir)
      copyInto source installDir

def buildCa (reader : ElfReader) (config : CaBuildConfig)
    (installDir : Option OsString) : BuildScript Unit := do
  let project ← absoluteDir config.path
  let config := { config with path := project }
  let command ← lookUp (caBuildCommand config)
  let built ← runCargoBuild command (manifestPath config.path) config.kind
  let finalBinary ← postBuild reader config built
  installCa finalBinary installDir

def clippyCa (config : CaBuildConfig) : BuildScript Unit := do
  let project ← absoluteDir config.path
  let fmt ← lookUp (fmtTool project)
  runStreamingCommand fmt
  let clippy ← lookUp (caClippyTool { config with path := project })
  runStreamingCommand clippy

def intermediateDir (project : OsString) : OsString :=
  osPath (osPath project "target".toList) "cargo-optee".toList

def removeIntermediateDir (path : OsString) : BuildScript Unit := do
  let found ← .step (.pathExists path) .ok
  if found then .step (.removeDirAll path) (refused .io) else return ()

def cleanProject (path : OsString) : BuildScript Unit := do
  let project ← absoluteDir path
  let clean ← lookUp (cleanTool project)
  runStreamingCommand clean
  removeIntermediateDir (intermediateDir project)

inductive Job where
  | buildTa (config : TaBuildConfig) (installDir : Option OsString)
  | clippyTa (config : TaBuildConfig)
  | buildCa (config : CaBuildConfig) (installDir : Option OsString)
  | clippyCa (config : CaBuildConfig)
  | cleanProject (path : OsString)
  deriving DecidableEq, Repr

def Job.script (reader : ElfReader) : Job → BuildScript Unit
  | buildTa config installDir => CargoOptee.buildTa reader config installDir
  | clippyTa config => CargoOptee.clippyTa config
  | buildCa config installDir => CargoOptee.buildCa reader config installDir
  | clippyCa config => CargoOptee.clippyCa config
  | cleanProject path => CargoOptee.cleanProject path

end TrustZoneSdk.CargoOptee
