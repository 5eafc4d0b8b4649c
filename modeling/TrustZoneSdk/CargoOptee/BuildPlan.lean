import TrustZoneSdk.CargoOptee.BuildFlow

/-!
# What the commands of the tool do, and in which order

For every command a plan lists the calls of a run in which nothing fails, with
the answers they get and what the calls after them are made of.  Whatever the
machine answers, a run makes the calls of its plan up to one that is answered
otherwise, and reports that one.
-/

namespace TrustZoneSdk.CargoOptee

open TrustZoneSdk.Foundation

abbrev BuildEvent := Script.Event Call.Answer

abbrev BuildItem := Script.Item Call.Answer BuildError

/-! ## Single calls -/

def replyItem (call : Call) (answer : call.Answer)
    (refusal : Text → call.Answer) (error : Text → BuildError) : BuildItem where
  event := ⟨call, answer⟩
  guard := True
  fault failing halt := ∃ cause,
    failing = [⟨call, refusal cause⟩] ∧ halt = .failed (error cause)

def dirItem (path project : OsString) : BuildItem :=
  replyItem (.canonicalize path) (.ok project) .error (.projectDirectory path)

def copyItem (source dest : OsString) : BuildItem :=
  replyItem (.copy source dest) (.ok ()) .error .io

def permissionsItem (path : OsString) : BuildItem :=
  replyItem (.setPermissions path taFileMode) (.ok ()) .error
    (.permissions path)

def foundItem (path : OsString) (error : BuildError) : BuildItem where
  event := ⟨.pathExists path, true⟩
  guard := True
  fault failing halt :=
    failing = [⟨.pathExists path, false⟩] ∧ halt = .failed error

def lookItem {α : Type} (read : Process → Except CommandError α)
    (process : Process) (value : α) : BuildItem where
  event := ⟨.process, process⟩
  guard := read process = .ok value
  fault failing halt := ∃ process error,
    failing = [⟨.process, process⟩] ∧ read process = .error error ∧
      halt = .failed (.command error)

def runItem (tool : Tool) : BuildItem where
  event := ⟨.run tool, .ok (some 0)⟩
  guard := True
  fault failing halt :=
    (∃ cause, failing = [⟨.run tool, .error cause⟩] ∧
      halt = .failed (.failedToRun tool.name cause)) ∨
    ∃ code, failing = [⟨.run tool, .ok code⟩] ∧ code ≠ some 0 ∧
      halt = .failed (.exitCode tool.name code)

def missingTool : BuildEvent → Option Text
  | ⟨.checkCommandAvailable tool, false⟩ => some tool
  | _ => none

def toolsItems (tools : List Text) : List BuildItem :=
  -- All tools are looked for before the missing ones are reported.
  tools.map fun tool =>
    { event := ⟨.checkCommandAvailable tool, true⟩
      guard := True
      fault failing halt :=
        failing.map Script.Event.call =
            tools.map Call.checkCommandAvailable ∧
          failing.filterMap missingTool ≠ [] ∧
          halt = .failed (.toolchain (failing.filterMap missingTool)) }

def NoParent (what : Text) (path : OsString) (halt : Halt BuildError) : Prop :=
  parentOf path = none ∧ halt = .failed (.noParent what path)

def tempItem (Unnamed : Halt BuildError → Prop) (path parent : OsString)
    (start ending : Text) (tmp : OsString) : BuildItem where
  event := ⟨.uniqueTempfileIn parent start ending, .ok tmp⟩
  guard := parentOf path = some parent
  fault failing halt :=
    (failing = [] ∧ Unnamed halt) ∨
    ∃ cause, parentOf path = some parent ∧
      failing = [⟨.uniqueTempfileIn parent start ending, .error cause⟩] ∧
      halt = .failed (.temp parent cause)

def strippedItem (path parent tmp : OsString) : BuildItem :=
  tempItem (fun halt => NoParent "Binary".toList path halt ∨
      (fileNameOf path).bind decodeUtf8 = none ∧
        halt = .failed (.noFileName path))
    path parent (strippedStart path) [] tmp

def uuidItem (reader : ElfReader) (plugin : Bool) (path : OsString)
    (contents : Option Contents) (uuid : UuidOctets) : BuildItem where
  event := ⟨.readFile path, contents⟩
  guard := reader.uuidOf plugin contents = some (.ok uuid)
  fault failing halt := ∃ contents, failing = [⟨.readFile path, contents⟩] ∧
    ((reader.uuidOf plugin contents = none ∧ halt = .killed) ∨
      ∃ error, reader.uuidOf plugin contents = some (.error error) ∧
        halt = .failed (.uuid path error))

/-- The one file of a build that has succeeded. -/
def CargoOutput.Reports (output : CargoOutput) (manifest : OsString)
    (kind : CargoArtifactKind) (artifact : OsString) : Prop :=
  output.status = .ok (some 0) ∧
    ∃ messages : List Message, ∃ rest,
    output.stream = messages.map .ok ∧
    messages.flatMap (Message.paths output.process
      (canonicalOr output.process manifest) kind) = artifact :: rest ∧
    ∀ other ∈ rest, SamePath artifact other

def spawnItem (command : Command) (manifest : OsString)
    (kind : CargoArtifactKind) (output : CargoOutput) (artifact : OsString) :
    BuildItem where
  event := ⟨.spawnCargo command, .ok output⟩
  guard := output.Reports manifest kind artifact
  fault failing halt :=
    (∃ cause, failing = [⟨.spawnCargo command, .error cause⟩] ∧
      halt = .failed (.spawn command.program cause)) ∨
    ∃ output error, failing = [⟨.spawnCargo command, .ok output⟩] ∧
      chooseArtifact manifest kind output = .error error ∧
      halt = .failed error

def copyIntoItem (source installDir name : OsString) : BuildItem where
  event := ⟨.copy source (joinPath 0x2F installDir name), .ok ()⟩
  guard := fileNameOf source = some name
  fault failing halt :=
    (failing = [] ∧ fileNameOf source = none ∧
      halt = .failed .noBinaryName) ∨
    ∃ cause, fileNameOf source = some name ∧
      failing = [⟨.copy source (joinPath 0x2F installDir name),
        .error cause⟩] ∧ halt = .failed (.io cause)

/-! ## Plans -/

structure CargoPlan where
  process : Process
  command : Command
  output : CargoOutput
  artifact : OsString

def CargoPlan.items (plan : CargoPlan)
    (make : Process → Except CommandError Command) (manifest : OsString)
    (kind : CargoArtifactKind) : List BuildItem :=
  [lookItem make plan.process plan.command,
    spawnItem plan.command manifest kind plan.output plan.artifact]

structure ToolPlan where
  process : Process
  tool : Tool

def ToolPlan.items (plan : ToolPlan)
    (make : Process → Except CommandError Tool) : List BuildItem :=
  [lookItem make plan.process plan.tool, runItem plan.tool]

def targetsItems (std : Bool) (dir : OsString) : List BuildItem :=
  if std then
    [replyItem .setupCustomTargets (.ok dir) .error
      fun cause => .command (.customTargets cause)]
  else []

def publishItems (tmp dest : OsString) : List BuildItem :=
  [replyItem (.keep tmp) (.ok ()) .error .io,
    replyItem (.rename tmp dest) (.ok ()) .error (.publish tmp dest)]

def installTaItems (source : OsString) (uuid : UuidOctets) :
    Option OsString → List BuildItem
  | none => []
  | some installDir =>
      let dest := osPath installDir (uuid.text ++ ".ta".toList)
      [foundItem installDir (.installDirMissing installDir),
        copyItem source dest, permissionsItem dest]

structure SignPlan where
  contents : Option Contents
  uuid : UuidOctets
  parent : OsString
  tmp : OsString

def SignPlan.items (plan : SignPlan) (reader : ElfReader)
    (config : TaBuildConfig) (stripped : OsString) : List BuildItem :=
  [uuidItem reader false stripped plan.contents plan.uuid,
    foundItem config.signingKey (.signingKeyNotFound config.signingKey),
    foundItem (signScript config)
      (.doesNotExist "Sign script".toList (signScript config)),
    tempItem (NoParent "Stripped".toList stripped) stripped plan.parent
      (plan.uuid.text ++ ".ta.".toList) ".partial".toList plan.tmp,
    runItem (signTool config plan.uuid stripped plan.tmp)] ++
  publishItems plan.tmp (taOutput stripped plan.uuid) ++
  [permissionsItem (taOutput stripped plan.uuid)]

structure PackPlan where
  process : Process
  crossCompile : Text
  parent : OsString
  stripped : OsString
  sign : SignPlan

def PackPlan.items (plan : PackPlan) (reader : ElfReader)
    (config : TaBuildConfig) (installDir : Option OsString) (elf : OsString) :
    List BuildItem :=
  [lookItem (crossCompileOf config.arch config.mode) plan.process
      plan.crossCompile,
    strippedItem elf plan.parent plan.stripped,
    runItem (objcopyTool plan.crossCompile elf plan.stripped)] ++
  plan.sign.items reader config plan.stripped ++
  installTaItems (taOutput plan.stripped plan.sign.uuid) plan.sign.uuid
    installDir

structure TaPlan where
  project : OsString
  process : Process
  crossCompile : Text
  targets : OsString
  cargo : CargoPlan
  pack : PackPlan

def TaPlan.items (plan : TaPlan) (reader : ElfReader) (config : TaBuildConfig)
    (installDir : Option OsString) : List BuildItem :=
  [dirItem config.path plan.project,
    foundItem (manifestPath plan.project) (.noCargoToml plan.project),
    lookItem (crossCompileOf config.arch config.mode) plan.process
      plan.crossCompile] ++
  toolsItems (toolNames plan.crossCompile) ++
  targetsItems config.std plan.targets ++
  plan.cargo.items
    (taBuildCommand { config with path := plan.project } plan.targets)
    (manifestPath plan.project) .bin ++
  plan.pack.items reader config installDir plan.cargo.artifact

structure LintPlan where
  project : OsString
  fmt : ToolPlan
  targets : OsString
  clippy : ToolPlan

def LintPlan.taItems (plan : LintPlan) (config : TaBuildConfig) :
    List BuildItem :=
  [dirItem config.path plan.project,
    foundItem (manifestPath plan.project) (.noCargoToml plan.project)] ++
  plan.fmt.items (fmtTool plan.project) ++
  targetsItems config.std plan.targets ++
  plan.clippy.items
    (taClippyTool { config with path := plan.project } plan.targets)

def LintPlan.caItems (plan : LintPlan) (config : CaBuildConfig) :
    List BuildItem :=
  [dirItem config.path plan.project] ++
  plan.fmt.items (fmtTool plan.project) ++
  plan.clippy.items (caClippyTool { config with path := plan.project })

structure PostPlan where
  process : Process
  crossCompile : Text
  contents : Option Contents
  uuid : UuidOctets
  parent : OsString
  tmp : OsString

def PostPlan.finalBinary (plan : PostPlan) (config : CaBuildConfig)
    (built : OsString) : OsString :=
  if config.plugin then pluginOutput built plan.uuid else built

def PostPlan.items (plan : PostPlan) (reader : ElfReader)
    (config : CaBuildConfig) (built : OsString) : List BuildItem :=
  if config.plugin then
    [uuidItem reader true built plan.contents plan.uuid,
      tempItem (NoParent "Plugin".toList built) built plan.parent
        (pluginName plan.uuid ++ ".".toList) [] plan.tmp,
      copyItem built plan.tmp] ++
    publishItems plan.tmp (pluginOutput built plan.uuid)
  else
    [lookItem (crossCompileOf config.arch .ca) plan.process
        plan.crossCompile,
      runItem (objcopyTool plan.crossCompile built built)]

def installCaItems (source : OsString) (name : OsString) :
    Option OsString → List BuildItem
  | none => []
  | some installDir =>
      [foundItem installDir (.installDirMissing installDir),
        copyIntoItem source installDir name]

structure CaPlan where
  project : OsString
  cargo : CargoPlan
  post : PostPlan
  name : OsString

def CaPlan.items (plan : CaPlan) (reader : ElfReader) (config : CaBuildConfig)
    (installDir : Option OsString) : List BuildItem :=
  [dirItem config.path plan.project] ++
  plan.cargo.items (caBuildCommand { config with path := plan.project })
    (manifestPath plan.project) config.kind ++
  plan.post.items reader config plan.cargo.artifact ++
  installCaItems (plan.post.finalBinary config plan.cargo.artifact) plan.name
    installDir

def removalItems (path : OsString) (found : Bool) : List BuildItem :=
  ⟨⟨.pathExists path, found⟩, True, fun _ _ => False⟩ ::
    if found then [replyItem (.removeDirAll path) (.ok ()) .error .io] else []

structure CleanPlan where
  project : OsString
  clean : ToolPlan
  found : Bool

def CleanPlan.items (plan : CleanPlan) (path : OsString) : List BuildItem :=
  [dirItem path plan.project] ++
  plan.clean.items (cleanTool plan.project) ++
  removalItems (intermediateDir plan.project) plan.found

/-- What a job does if nothing fails. -/
def Job.Plan (reader : ElfReader) : Job → List BuildItem → Prop
  | buildTa config installDir, items =>
      ∃ plan : TaPlan, items = plan.items reader config installDir
  | clippyTa config, items => ∃ plan : LintPlan, items = plan.taItems config
  | buildCa config installDir, items =>
      ∃ plan : CaPlan, items = plan.items reader config installDir
  | clippyCa config, items => ∃ plan : LintPlan, items = plan.caItems config
  | cleanProject path, items => ∃ plan : CleanPlan, items = plan.items path

/-! ## Runs -/

/-- Temporary files that go are no part of a plan. -/
def Call.counts : Call → Bool
  | drop _ => false
  | _ => true

section Plans

variable (reader : ElfReader)

abbrev Keeps {α : Type} (script : BuildScript α)
    (Plan : α → List BuildItem → Prop) : Prop :=
  Script.Follows Call.counts script Plan

instance : Nonempty UuidOctets := ⟨⟨List.replicate 16 0, rfl⟩⟩

instance : Nonempty Process := ⟨exportProcess⟩

instance : Nonempty Command := ⟨⟨[], [], [], []⟩⟩

instance : Nonempty CargoOutput :=
  ⟨⟨[], .ok none, Classical.arbitrary Process⟩⟩

instance : Nonempty CargoPlan :=
  ⟨⟨Classical.arbitrary _, Classical.arbitrary _, Classical.arbitrary _, []⟩⟩

/--
A call that has its value or fails with the words of the machine.  `ofReply`
and `toReply` only say that the answer to the call is such a reply.
-/
theorem refused_keeps {α : Type} [Nonempty α] (call : Call)
    (ofReply : Except Text α → call.Answer)
    (toReply : call.Answer → Except Text α) (hcounts : call.counts = true)
    (hreply : ∀ answer, ofReply (toReply answer) = answer)
    (error : Text → BuildError) :
    Keeps (.step call fun answer => refused error (toReply answer))
      (fun value items => items = [replyItem call (ofReply (.ok value))
        (fun cause => ofReply (.error cause)) error]) := by
  refine .step hcounts ⟨Classical.arbitrary α, _, rfl⟩ ?_ ?_
  · intro answer value h
    have hanswer := hreply answer
    cases hok : toReply answer with
    | error cause =>
        rw [hok] at h
        cases h
    | ok found =>
        rw [hok] at h hanswer
        cases h
        exact ⟨True, _, by rw [hanswer]; rfl, trivial⟩
  · intro answer halt h
    have hanswer := hreply answer
    cases hok : toReply answer with
    | error cause =>
        rw [hok] at h hanswer
        cases h
        rw [← hanswer]
        exact ⟨Classical.arbitrary α, _, rfl, cause, rfl, rfl⟩
    | ok found =>
        rw [hok] at h
        cases h

theorem absoluteDir_keeps (path : OsString) :
    Keeps (absoluteDir path) (fun project items =>
      items = [dirItem path project]) :=
  refused_keeps (.canonicalize path) id id rfl (fun _ => rfl) _

theorem requireFound_keeps (path : OsString) (error : BuildError) :
    Keeps (requireFound path error)
      (fun _ items => items = [foundItem path error]) := by
  refine .step rfl ⟨(), _, rfl⟩ ?_ ?_
  · intro found value hfound
    cases found with
    | false => cases hfound
    | true => exact ⟨True, _, rfl, trivial⟩
  · intro found halt hfound
    cases found with
    | true => cases hfound
    | false =>
        cases hfound
        exact ⟨(), _, rfl, rfl, rfl⟩

theorem lookUp_keeps {α : Type} [Nonempty α]
    (read : Process → Except CommandError α) :
    Keeps (lookUp read) (fun value items => ∃ process,
      items = [lookItem read process value]) := by
  refine .step rfl ⟨Classical.arbitrary α, _, Classical.arbitrary Process,
    rfl⟩ ?_ ?_
  · intro process value hread
    cases hvalue : read process with
    | error error =>
        rw [hvalue] at hread
        cases hread
    | ok found =>
        rw [hvalue] at hread
        cases hread
        exact ⟨_, _, ⟨process, rfl⟩, hvalue⟩
  · intro process halt hread
    cases hvalue : read process with
    | error error =>
        rw [hvalue] at hread
        cases hread
        exact ⟨Classical.arbitrary α, _, ⟨process, rfl⟩,
          process, error, rfl, hvalue, rfl⟩
    | ok found =>
        rw [hvalue] at hread
        cases hread

theorem runStreamingCommand_keeps (tool : Tool) :
    Keeps (runStreamingCommand tool)
      (fun _ items => items = [runItem tool]) := by
  refine .step rfl ⟨(), _, rfl⟩ ?_ ?_
  · rintro (cause | code) value hrun
    · cases hrun
    · by_cases hcode : code = some 0
      · subst hcode
        exact ⟨True, _, rfl, trivial⟩
      · simp [hcode] at hrun
  · rintro (cause | code) halt hrun
    · cases hrun
      exact ⟨(), _, rfl, .inl ⟨cause, rfl, rfl⟩⟩
    · by_cases hcode : code = some 0
      · simp [hcode] at hrun
      · simp only [hcode, if_false, Except.error.injEq] at hrun
        subst hrun
        exact ⟨(), _, rfl, .inr ⟨code, rfl, hcode, rfl⟩⟩

theorem missingTools_yields {tools : List Text}
    {transcript : List BuildEvent}
    {result : Except (Halt BuildError) (List Text)}
    (h : (missingTools tools).Yields transcript result) :
    transcript.map Script.Event.call =
        tools.map Call.checkCommandAvailable ∧
      result = .ok (transcript.filterMap missingTool) := by
  induction tools generalizing transcript result with
  | nil =>
      cases h
      exact ⟨rfl, rfl⟩
  | cons tool tools ih =>
      rcases h.of_bind with ⟨available, before, after, hbefore, hafter, rfl⟩ |
        ⟨halt, hhalt, rfl⟩
      · obtain ⟨answer, rfl, hanswer⟩ := hbefore.of_step
        cases hanswer
        rcases hafter.of_bind with
          ⟨missing, middle, last, hmiddle, hlast, rfl⟩ | ⟨halt, hhalt, rfl⟩
        · obtain ⟨hcalls, hmissing⟩ := ih hmiddle
          cases hmissing
          cases hlast
          refine ⟨by simpa using hcalls, ?_⟩
          cases available with
          | false => simp [missingTool]
          | true =>
              rw [List.append_nil, List.singleton_append,
                List.filterMap_cons_none rfl]
              rfl
        · cases (ih hhalt).2
      · obtain ⟨answer, -, hanswer⟩ := hhalt.of_step
        cases hanswer

theorem events_of_none_missing {tools : List Text}
    {transcript : List BuildEvent}
    (hcalls : transcript.map Script.Event.call =
      tools.map Call.checkCommandAvailable)
    (hmissing : transcript.filterMap missingTool = []) :
    transcript = tools.map
      fun tool => ⟨.checkCommandAvailable tool, true⟩ := by
  induction tools generalizing transcript with
  | nil => exact List.map_eq_nil_iff.mp hcalls
  | cons tool tools ih =>
      obtain ⟨⟨call, answer⟩, rest, rfl, hcall, hrest⟩ :=
        List.map_eq_cons_iff.mp hcalls
      cases hcall
      cases answer with
      | false => simp [missingTool] at hmissing
      | true =>
          rw [List.filterMap_cons_none rfl] at hmissing
          rw [ih hrest hmissing]
          rfl

theorem checkToolchainExists_keeps (crossCompile : Text) :
    Keeps (checkToolchainExists crossCompile)
      (fun _ items => items = toolsItems (toolNames crossCompile)) where
  feasible := ⟨(), _, rfl⟩
  progress transcript result hyields := by
    have hcounted : ∀ {events : List BuildEvent}, events.map
        Script.Event.call = (toolNames crossCompile).map
          Call.checkCommandAvailable →
        events.filter (fun event => event.call.counts) = events := by
      intro events hcalls
      rw [List.filter_eq_self]
      intro event hevent
      have hcall : event.call ∈ events.map Script.Event.call :=
        List.mem_map_of_mem hevent
      rw [hcalls] at hcall
      obtain ⟨tool, -, htool⟩ := List.mem_map.mp hcall
      rw [← htool]
      rfl
    rcases hyields.of_bind with ⟨missing, before, after, hbefore, hafter, rfl⟩ |
      ⟨halt, hhalt, rfl⟩
    · obtain ⟨hcalls, hmissing⟩ := missingTools_yields hbefore
      obtain rfl := Except.ok.inj hmissing
      by_cases hnone : before.filterMap missingTool = []
      · rw [hnone] at hafter
        cases hafter
        rw [List.append_nil, hcounted hcalls,
          events_of_none_missing hcalls hnone]
        have hevents : (toolNames crossCompile).map
            (fun tool => ⟨.checkCommandAvailable tool, true⟩) =
            (toolsItems (toolNames crossCompile)).map Script.Item.event :=
          rfl
        rw [hevents]
        exact .finished () _ rfl (by simp [toolsItems])
      · have hsome : (before.filterMap missingTool).isEmpty = false := by
          simpa using hnone
        rw [hsome] at hafter
        cases hafter
        rw [List.append_nil, hcounted hcalls]
        exact .stopped _ () [] _ _ before rfl (by simp)
          ⟨hcalls, hnone, rfl⟩
    · cases (missingTools_yields hhalt).2

theorem uniqueTempfileIn_keeps {what : Text} {path : OsString}
    {Unnamed : Halt BuildError → Prop} (start ending : Text)
    (h : ∀ halt, NoParent what path halt → Unnamed halt) :
    Keeps (uniqueTempfileIn what path start ending)
      (fun tmp items => ∃ parent,
        items = [tempItem Unnamed path parent start ending tmp]) := by
  rw [uniqueTempfileIn]
  cases hparent : parentOf path with
  | none =>
      exact @Script.Follows.fail _ _ _ _ _ _ _ [] _ ⟨[], rfl⟩
        (.inl ⟨rfl, h _ ⟨hparent, rfl⟩⟩)
  | some parent =>
      refine .step rfl ⟨[], _, parent, rfl⟩ ?_ ?_
      · rintro (cause | tmp) value h
        · cases h
        · cases h
          exact ⟨_, _, ⟨parent, rfl⟩, hparent⟩
      · rintro (cause | tmp) halt h
        · cases h
          exact ⟨[], _, ⟨parent, rfl⟩, .inr ⟨cause, hparent, rfl, rfl⟩⟩
        · cases h

theorem strippedTempfile_keeps (binaryPath : OsString) :
    Keeps (strippedTempfile binaryPath)
      (fun stripped items => ∃ parent,
        items = [strippedItem binaryPath parent stripped]) := by
  rw [strippedTempfile]
  split
  · exact uniqueTempfileIn_keeps _ _ fun _ => .inl
  · next hname =>
      have hnone : (fileNameOf binaryPath).bind decodeUtf8 = none := by
        simpa using hname
      exact @Script.Follows.fail _ _ _ _ _ _ _ [] _ ⟨[], rfl⟩
        (.inl ⟨rfl, .inr ⟨hnone, rfl⟩⟩)

theorem publishTempfile_keeps (tmp dest : OsString) :
    Keeps (publishTempfile tmp dest)
      (fun _ items => items = publishItems tmp dest) := by
  have hkeep : Keeps (.step (.keep tmp) (refused .io)) (fun _ items =>
      items = [replyItem (.keep tmp) (.ok ()) .error .io]) :=
    refused_keeps (.keep tmp) id id rfl (fun _ => rfl) .io
  have hrename : Keeps (.step (.rename tmp dest) (refused (.publish tmp dest)))
      (fun _ items => items =
        [replyItem (.rename tmp dest) (.ok ()) .error (.publish tmp dest)]) :=
    refused_keeps (.rename tmp dest) id id rfl (fun _ => rfl) _
  refine ((hkeep.closing (by simp) (by simp [Call.counts])).bind fun _ =>
    hrename).weaken ?_
  rintro _ _ ⟨_, _, _, rfl, rfl, rfl⟩
  rfl

theorem setTaFilePermissions_keeps (path : OsString) :
    Keeps (setTaFilePermissions path) (fun _ items =>
      items = [permissionsItem path]) :=
  refused_keeps (.setPermissions path taFileMode) id id rfl (fun _ => rfl) _

theorem copyFile_keeps (source dest : OsString) :
    Keeps (copyFile source dest)
      (fun _ items => items = [copyItem source dest]) :=
  refused_keeps (.copy source dest) id id rfl (fun _ => rfl) _

theorem readUuid_keeps (plugin : Bool) (path : OsString) :
    Keeps (readUuid reader plugin path) (fun uuid items => ∃ contents,
      items = [uuidItem reader plugin path contents uuid]) := by
  refine .step rfl ⟨Classical.arbitrary _, _, none, rfl⟩ ?_ ?_
  · intro contents uuid h
    refine ⟨_, _, ⟨contents, rfl⟩, ?_⟩
    split at h
    · cases h
    · cases h
    · next found hfound =>
        cases h
        exact hfound
  · intro contents halt h
    refine ⟨Classical.arbitrary _, _, ⟨contents, rfl⟩, contents, rfl, ?_⟩
    split at h
    · next hnone =>
        cases h
        exact .inl ⟨hnone, rfl⟩
    · next error herror =>
        cases h
        exact .inr ⟨error, herror, rfl⟩
    · cases h

theorem chooseArtifact_ok {manifest : OsString} {kind : CargoArtifactKind}
    {output : CargoOutput} {artifact : OsString}
    (h : chooseArtifact manifest kind output = .ok artifact) :
    output.Reports manifest kind artifact := by
  rw [chooseArtifact, cargoArtifacts] at h
  cases hstatus : output.status with
  | error cause =>
      rw [hstatus] at h
      cases h
  | ok code =>
      rw [hstatus] at h
      dsimp only at h
      split at h
      · cases h
      · next hcode =>
          rw [not_not] at hcode
          cases hcollect : collectCargoArtifacts output.process manifest
              kind output.stream with
          | error message =>
              rw [hcollect] at h
              cases h
          | ok artifacts =>
              rw [hcollect] at h
              have hunique : uniqueCargoArtifact artifacts manifest kind =
                  .ok artifact := by
                cases hvalue : uniqueCargoArtifact artifacts manifest kind with
                | error error =>
                    simp [Except.mapError, hvalue, bind, Except.bind] at h
                | ok value =>
                    simpa [Except.mapError, hvalue, bind, Except.bind] using h
              obtain ⟨messages, hstream, rfl⟩ :=
                collectCargoArtifacts_ok_iff.mp hcollect
              obtain ⟨rest, hpaths, hsame⟩ :=
                uniqueCargoArtifact_ok_iff.mp hunique
              rw [hcode] at hstatus
              exact ⟨hstatus, messages, rest, hstream, hpaths, hsame⟩

theorem runCargoBuild_keeps (command : Command) (manifest : OsString)
    (kind : CargoArtifactKind) :
    Keeps (runCargoBuild command manifest kind)
      (fun artifact items => ∃ output,
        items = [spawnItem command manifest kind output artifact]) := by
  refine .step rfl ⟨[], _, Classical.arbitrary _, rfl⟩ ?_ ?_
  · rintro (cause | output) artifact h
    · cases h
    · cases hchosen : chooseArtifact manifest kind output with
      | error error =>
          simp only [hchosen] at h
          cases h
      | ok found =>
          simp only [hchosen] at h
          cases h
          exact ⟨_, _, ⟨output, rfl⟩, chooseArtifact_ok hchosen⟩
  · rintro (cause | output) halt h
    · cases h
      exact ⟨[], _, ⟨Classical.arbitrary _, rfl⟩, .inl ⟨cause, rfl, rfl⟩⟩
    · cases hchosen : chooseArtifact manifest kind output with
      | error error =>
          simp only [hchosen] at h
          cases h
          exact ⟨[], _, ⟨output, rfl⟩,
            .inr ⟨output, error, rfl, hchosen, rfl⟩⟩
      | ok found =>
          simp only [hchosen] at h
          cases h

theorem cargoBuild_keeps (make : Process → Except CommandError Command)
    (manifest : OsString) (kind : CargoArtifactKind) :
    Keeps (lookUp make >>= fun command => runCargoBuild command manifest kind)
      (fun artifact items => ∃ plan : CargoPlan,
        artifact = plan.artifact ∧ items = plan.items make manifest kind) := by
  refine ((lookUp_keeps make).bind fun command =>
    runCargoBuild_keeps command manifest kind).weaken ?_
  rintro artifact _ ⟨command, _, _, ⟨process, rfl⟩, ⟨output, rfl⟩, rfl⟩
  exact ⟨⟨process, command, output, artifact⟩, rfl, rfl⟩

theorem tool_keeps (make : Process → Except CommandError Tool) :
    Keeps (lookUp make >>= runStreamingCommand)
      (fun _ items => ∃ plan : ToolPlan, items = plan.items make) := by
  refine ((lookUp_keeps make).bind runStreamingCommand_keeps).weaken ?_
  rintro _ _ ⟨tool, _, _, ⟨process, rfl⟩, rfl, rfl⟩
  exact ⟨⟨process, tool⟩, rfl⟩

theorem withCustomTargets_keeps {α : Type}
    {Plan : OsString → α → List BuildItem → Prop}
    {body : OsString → BuildScript α} (std : Bool)
    (hbody : ∀ dir, Keeps (body dir) (Plan dir)) :
    Keeps (withCustomTargets std body)
      (fun value items => ∃ dir rest, Plan dir value rest ∧
        items = targetsItems std dir ++ rest) := by
  cases std with
  | false =>
      exact (hbody []).weaken fun value items h => ⟨[], items, h, rfl⟩
  | true =>
      have hmade : Keeps (.step .setupCustomTargets
          (refused fun cause => .command (.customTargets cause)))
          (fun dir items => items = targetsItems true dir) :=
        refused_keeps .setupCustomTargets id id rfl (fun _ => rfl) _
      refine (hmade.bind fun dir => (hbody dir).closing
        (by simp [Call.counts]) (by simp [Call.counts])).weaken ?_
      rintro value _ ⟨dir, _, rest, rfl, hrest, rfl⟩
      exact ⟨dir, rest, hrest, rfl⟩

theorem Keeps.droppedAtFailure {α : Type} {script : BuildScript α}
    {Plan : α → List BuildItem → Prop} (h : Keeps script Plan)
    (path : OsString) :
    Keeps (.closing [] [.drop path] script) Plan :=
  h.closing (by simp) (by simp [Call.counts])

theorem signTa_keeps (config : TaBuildConfig) (stripped : OsString) :
    Keeps (signTa reader config stripped)
      (fun uuid items => ∃ plan : SignPlan,
        uuid = plan.uuid ∧ items = plan.items reader config stripped) := by
  refine ((readUuid_keeps reader false stripped).bind fun uuid =>
    (requireFound_keeps _ _).bind fun _ =>
    (requireFound_keeps _ _).bind fun _ =>
    (uniqueTempfileIn_keeps _ _ fun _ => id).bind fun tmp =>
    ((runStreamingCommand_keeps _).droppedAtFailure tmp).bind fun _ =>
    (publishTempfile_keeps _ _).bind fun _ =>
    (setTaFilePermissions_keeps _).bind fun _ =>
    .pure uuid).weaken ?_
  rintro uuid _ ⟨_, _, _, ⟨contents, rfl⟩, ⟨_, _, _, rfl, ⟨_, _, _, rfl,
    ⟨tmp, _, _, ⟨parent, rfl⟩, ⟨_, _, _, rfl, ⟨_, _, _, rfl, ⟨_, _, _, rfl,
    ⟨rfl, rfl⟩, rfl⟩, rfl⟩, rfl⟩, rfl⟩, rfl⟩, rfl⟩, rfl⟩
  exact ⟨⟨contents, uuid, parent, tmp⟩, rfl, rfl⟩

theorem installTa_keeps (source : OsString) (uuid : UuidOctets)
    (installDir : Option OsString) :
    Keeps (installTa source uuid installDir)
      (fun _ items => items = installTaItems source uuid installDir) := by
  cases installDir with
  | none => exact (Script.Follows.pure ()).weaken fun _ _ h => h.2
  | some installDir =>
      refine ((requireFound_keeps _ _).bind fun _ =>
        (copyFile_keeps _ _).bind fun _ =>
        setTaFilePermissions_keeps _).weaken ?_
      rintro _ _ ⟨_, _, _, rfl, ⟨_, _, _, rfl, rfl, rfl⟩, rfl⟩
      rfl

theorem packTa_keeps (config : TaBuildConfig) (installDir : Option OsString)
    (elf : OsString) :
    Keeps (packTa reader config installDir elf)
      (fun _ items => ∃ plan : PackPlan,
        items = plan.items reader config installDir elf) := by
  refine ((lookUp_keeps _).bind fun crossCompile =>
    (strippedTempfile_keeps elf).bind fun stripped =>
    ((runStreamingCommand_keeps _).bind fun _ =>
      (signTa_keeps reader config stripped).bind fun uuid =>
      installTa_keeps (taOutput stripped uuid) uuid
        installDir).closing (by simp [Call.counts])
      (by simp [Call.counts])).weaken ?_
  rintro _ _ ⟨crossCompile, _, _, ⟨process, rfl⟩, ⟨stripped, _, _,
    ⟨parent, rfl⟩, ⟨_, _, _, rfl, ⟨_, _, _, ⟨sign, rfl, rfl⟩, rfl, rfl⟩,
    rfl⟩, rfl⟩, rfl⟩
  exact ⟨⟨process, crossCompile, parent, stripped, sign⟩, rfl⟩

theorem buildTaBinary_keeps (config : TaBuildConfig) :
    Keeps (buildTaBinary config)
      (fun elf items => ∃ targets, ∃ plan : CargoPlan,
        elf = plan.artifact ∧ items = targetsItems config.std targets ++
          plan.items (taBuildCommand config targets)
            (manifestPath config.path) .bin) := by
  refine (withCustomTargets_keeps config.std fun targets =>
    cargoBuild_keeps _ _ _).weaken ?_
  rintro _ _ ⟨targets, _, ⟨plan, rfl, rfl⟩, rfl⟩
  exact ⟨targets, plan, rfl, rfl⟩

theorem buildTa_keeps (config : TaBuildConfig)
    (installDir : Option OsString) :
    Keeps (buildTa reader config installDir)
      (fun _ => (Job.buildTa config installDir).Plan reader) := by
  refine ((absoluteDir_keeps _).bind fun project =>
    (requireFound_keeps _ _).bind fun _ =>
    (lookUp_keeps _).bind fun crossCompile =>
    (checkToolchainExists_keeps crossCompile).bind fun _ =>
    (buildTaBinary_keeps { config with path := project }).bind
      fun elf => packTa_keeps reader _ installDir elf).weaken ?_
  rintro _ _ ⟨project, _, _, rfl, ⟨_, _, _, rfl, ⟨crossCompile, _, _,
    ⟨process, rfl⟩, ⟨_, _, _, rfl, ⟨_, _, _, ⟨targets, cargo, rfl, rfl⟩,
    ⟨pack, rfl⟩, rfl⟩, rfl⟩, rfl⟩, rfl⟩, rfl⟩
  refine ⟨⟨project, process, crossCompile, targets, cargo, pack⟩, ?_⟩
  simp only [TaPlan.items, List.append_assoc, List.cons_append,
    List.nil_append]
  rfl

theorem clippyTa_keeps (config : TaBuildConfig) :
    Keeps (clippyTa config)
      (fun _ => (Job.clippyTa config).Plan reader) := by
  refine ((absoluteDir_keeps _).bind fun project =>
    (requireFound_keeps _ _).bind fun _ =>
    (lookUp_keeps (fmtTool project)).bind fun fmt =>
    (runStreamingCommand_keeps fmt).bind fun _ =>
    withCustomTargets_keeps config.std fun targets =>
      tool_keeps _).weaken ?_
  rintro _ _ ⟨project, _, _, rfl, ⟨_, _, _, rfl, ⟨fmt, _, _, ⟨process, rfl⟩,
    ⟨_, _, _, rfl, ⟨targets, _, ⟨clippy, rfl⟩, rfl⟩, rfl⟩, rfl⟩, rfl⟩, rfl⟩
  refine ⟨⟨project, ⟨process, fmt⟩, targets, clippy⟩, ?_⟩
  simp only [LintPlan.taItems, List.append_assoc]
  rfl

theorem copyPluginFile_keeps (pluginSrc : OsString) :
    Keeps (copyPluginFile reader pluginSrc)
      (fun output items => ∃ contents uuid parent tmp,
        output = pluginOutput pluginSrc uuid ∧ items =
          [uuidItem reader true pluginSrc contents uuid,
            tempItem (NoParent "Plugin".toList pluginSrc) pluginSrc parent
              (pluginName uuid ++ ".".toList) [] tmp,
            copyItem pluginSrc tmp] ++
          publishItems tmp (pluginOutput pluginSrc uuid)) := by
  refine ((readUuid_keeps reader true pluginSrc).bind fun uuid =>
    (uniqueTempfileIn_keeps _ _ fun _ => id).bind fun tmp =>
    ((copyFile_keeps _ _).droppedAtFailure tmp).bind fun _ =>
    (publishTempfile_keeps _ _).bind fun _ =>
    .pure (pluginOutput pluginSrc uuid)).weaken ?_
  rintro output _ ⟨uuid, _, _, ⟨contents, rfl⟩, ⟨tmp, _, _, ⟨parent, rfl⟩,
    ⟨_, _, _, rfl, ⟨_, _, _, rfl, ⟨rfl, rfl⟩, rfl⟩, rfl⟩, rfl⟩, rfl⟩
  exact ⟨contents, uuid, parent, tmp, rfl, rfl⟩

theorem postBuild_keeps (config : CaBuildConfig) (built : OsString) :
    Keeps (postBuild reader config built)
      (fun final items => ∃ plan : PostPlan,
        final = plan.finalBinary config built ∧
          items = plan.items reader config built) := by
  rw [postBuild]
  cases hplugin : config.plugin with
  | true =>
      refine (copyPluginFile_keeps reader built).weaken ?_
      rintro _ _ ⟨contents, uuid, parent, tmp, rfl, rfl⟩
      refine ⟨⟨exportProcess, [], contents, uuid, parent, tmp⟩, ?_, ?_⟩
      · simp [PostPlan.finalBinary, hplugin]
      · simp [PostPlan.items, hplugin]
  | false =>
      refine ((lookUp_keeps _).bind
        fun crossCompile => (runStreamingCommand_keeps _).bind fun _ =>
        .pure built).weaken ?_
      rintro _ _ ⟨crossCompile, _, _, ⟨process, rfl⟩, ⟨_, _, _, rfl,
        ⟨rfl, rfl⟩, rfl⟩, rfl⟩
      refine ⟨⟨process, crossCompile, none, Classical.arbitrary _, [], []⟩,
        ?_, ?_⟩
      · simp [PostPlan.finalBinary, hplugin]
      · simp [PostPlan.items, hplugin]

theorem copyInto_keeps (source installDir : OsString) :
    Keeps (copyInto source installDir) (fun _ items => ∃ name,
      items = [copyIntoItem source installDir name]) := by
  rw [copyInto]
  cases hname : fileNameOf source with
  | none =>
      exact @Script.Follows.fail _ _ _ _ _ _ _ () _ ⟨[], rfl⟩
        (.inl ⟨rfl, hname, rfl⟩)
  | some name =>
      refine .step rfl ⟨(), _, name, rfl⟩ ?_ ?_
      · rintro (cause | _) value h
        · cases h
        · exact ⟨_, _, ⟨name, rfl⟩, hname⟩
      · rintro (cause | _) halt h
        · cases h
          exact ⟨(), _, ⟨name, rfl⟩, .inr ⟨cause, hname, rfl, rfl⟩⟩
        · cases h

theorem installCa_keeps (source : OsString) (installDir : Option OsString) :
    Keeps (installCa source installDir) (fun _ items => ∃ name,
      items = installCaItems source name installDir) := by
  cases installDir with
  | none => exact (Script.Follows.pure ()).weaken fun _ _ h => ⟨[], h.2⟩
  | some installDir =>
      refine ((requireFound_keeps _ _).bind fun _ =>
        copyInto_keeps source installDir).weaken ?_
      rintro _ _ ⟨_, _, _, rfl, ⟨name, rfl⟩, rfl⟩
      exact ⟨name, rfl⟩

theorem buildCa_keeps (config : CaBuildConfig)
    (installDir : Option OsString) :
    Keeps (buildCa reader config installDir)
      (fun _ => (Job.buildCa config installDir).Plan reader) := by
  refine ((absoluteDir_keeps _).bind fun project =>
    (lookUp_keeps _).bind fun command =>
    (runCargoBuild_keeps _ _ _).bind fun built =>
    (postBuild_keeps reader _ _).bind fun final =>
    installCa_keeps final installDir).weaken ?_
  rintro _ _ ⟨project, _, _, rfl, ⟨command, _, _, ⟨process, rfl⟩,
    ⟨artifact, _, _, ⟨output, rfl⟩, ⟨_, _, _, ⟨post, rfl, rfl⟩, ⟨name, rfl⟩,
    rfl⟩, rfl⟩, rfl⟩, rfl⟩
  refine ⟨⟨project, ⟨process, command, output, artifact⟩, post, name⟩, ?_⟩
  simp only [CaPlan.items, List.append_assoc]
  rfl

theorem clippyCa_keeps (config : CaBuildConfig) :
    Keeps (clippyCa config)
      (fun _ => (Job.clippyCa config).Plan reader) := by
  refine ((absoluteDir_keeps _).bind fun project =>
    (lookUp_keeps (fmtTool project)).bind fun fmt =>
    (runStreamingCommand_keeps fmt).bind fun _ =>
    tool_keeps _).weaken ?_
  rintro _ _ ⟨project, _, _, rfl, ⟨fmt, _, _, ⟨process, rfl⟩, ⟨_, _, _, rfl,
    ⟨clippy, rfl⟩, rfl⟩, rfl⟩, rfl⟩
  exact ⟨⟨project, ⟨process, fmt⟩, [], clippy⟩, rfl⟩

theorem removeIntermediateDir_keeps (path : OsString) :
    Keeps (removeIntermediateDir path) (fun _ items => ∃ found : Bool,
      items = removalItems path found) := by
  have hfound : Keeps (.step (.pathExists path) .ok) (fun found items =>
      items = [⟨⟨.pathExists path, found⟩, True, fun _ _ => False⟩]) := by
    refine .step rfl ⟨true, _, rfl⟩ ?_ ?_
    · intro found value h
      cases h
      exact ⟨True, _, rfl, trivial⟩
    · intro found halt h
      cases h
  have hrest : ∀ found : Bool, Keeps
      (if found then .step (.removeDirAll path) (refused .io) else pure ())
      (fun _ items => items = if found then
        [replyItem (.removeDirAll path) (.ok ()) .error .io] else []) := by
    intro found
    cases found with
    | false => exact (Script.Follows.pure ()).weaken fun _ _ h => h.2
    | true =>
        exact refused_keeps (.removeDirAll path) id id rfl (fun _ => rfl) .io
  refine (hfound.bind hrest).weaken ?_
  rintro _ _ ⟨found, _, _, rfl, rfl, rfl⟩
  exact ⟨found, rfl⟩

theorem cleanProject_keeps (path : OsString) :
    Keeps (cleanProject path)
      (fun _ => (Job.cleanProject path).Plan reader) := by
  refine ((absoluteDir_keeps _).bind fun project =>
    (lookUp_keeps (cleanTool project)).bind fun clean =>
    (runStreamingCommand_keeps clean).bind fun _ =>
    removeIntermediateDir_keeps _).weaken ?_
  rintro _ _ ⟨project, _, _, rfl, ⟨clean, _, _, ⟨process, rfl⟩, ⟨_, _, _, rfl,
    ⟨found, rfl⟩, rfl⟩, rfl⟩, rfl⟩
  exact ⟨⟨project, ⟨process, clean⟩, found⟩, rfl⟩

theorem Job.script_keeps (job : Job) :
    Keeps (job.script reader) (fun _ => job.Plan reader) := by
  cases job with
  | buildTa config installDir => exact buildTa_keeps reader config installDir
  | clippyTa config => exact clippyTa_keeps reader config
  | buildCa config installDir => exact buildCa_keeps reader config installDir
  | clippyCa config => exact clippyCa_keeps reader config
  | cleanProject path => exact cleanProject_keeps reader path

end Plans

end TrustZoneSdk.CargoOptee
