import TrustZoneSdk.Foundation.Dialogue
import TrustZoneSdk.TrustedApps.Aes

/-!
# AES sessions

What a host knows of its session is read off its own requests and the replies
to them: how far the session is, under which key, and what has passed since the
last initialization vector.  From that follows what its pieces amount to, and
what it has to do not to lose its session.
-/

namespace TrustZoneSdk.TrustedApps.Aes

open TrustZoneSdk.Foundation
open TrustZoneSdk.Utee

/-! ## What a host knows of its session -/

/--
A session that nobody has prepared, or whose preparation has failed, is not
ready.  One that has refused a key has none that can be relied on.  `input` and
`output` are what has passed since the last vector.
-/
inductive Phase where
  | unready
  | keyless (config : Config)
  | prepared (config : Config) (key : List UInt8)
  | started (config : Config) (key iv input output : List UInt8)
  | lost
  deriving DecidableEq

def Phase.succeed (command : Command) (slots : ParamIndex → Slot)
    (written : List UInt8) (phase : Phase) : Phase :=
  let input := (inputOf (slots .arg0)).getD []
  match command, phase with
  | .prepare, _ =>
      match configOf slots with
      | some config => .prepared config (List.replicate config.keySize 0)
      | none => .lost
  | .setKey, .keyless config => .prepared config input
  | .setKey, .prepared config _ => .prepared config input
  | .setIV, .prepared config key => .started config key input [] []
  | .setIV, .started config key _ _ _ => .started config key input [] []
  | .cipher, .started config key iv fed output =>
      .started config key iv (fed ++ input) (output ++ written)
  | _, _ => .lost

def Phase.fail (command : Command) (slots : ParamIndex → Slot)
    (phase : Phase) : Phase :=
  match command, phase with
  | .prepare, .lost => .lost
  | .prepare, _ => .unready
  | .setKey, .keyless config => .keyless config
  | .setKey, .prepared config key =>
      if config.passes slots then .keyless config else .prepared config key
  | .cipher, .started config key iv fed output =>
      .started config key iv fed output
  | .setIV, phase => phase
  | .unknown, phase => phase
  | _, _ => .lost

abbrev Entry (Env : Type) := CommandRequest Env × CommandReply

def Phase.advance {Env : Type} (phase : Phase) (entry : Entry Env) : Phase :=
  let command := Command.fromPrimitive entry.1.cmdId
  if entry.2.code = teeSuccess then
    phase.succeed command entry.1.slots (updatedBytes (entry.2.slots .arg1))
  else if entry.2.code = ErrorKind.targetDead.intoPrimitive ∨
      entry.2.code = corruptObject then .lost
  else phase.fail command entry.1.slots

/-- What a host may ask without putting its session at risk. -/
def Orderly {Env : Type} (algorithms : Algorithms) (phase : Phase)
    (request : CommandRequest Env) : Prop :=
  match Command.fromPrimitive request.cmdId, phase with
  | .prepare, phase => phase ≠ .lost
  | .unknown, _ => True
  | .setKey, .keyless _ => True
  | .setKey, .prepared _ _ => True
  | .setIV, .prepared config _ =>
      ∀ iv ∈ inputOf (request.slots .arg0),
        algorithms.acceptsIv config.algorithm iv = true
  | .setIV, .started config _ _ _ _ =>
      ∀ iv ∈ inputOf (request.slots .arg0),
        algorithms.acceptsIv config.algorithm iv = true
  | .cipher, .started _ _ _ _ _ => True
  | _, _ => False

/-! ## Replies -/

section Sessions

variable {Env Op Obj Result : Type}

def serve (tee : Tee Env Op Obj) (debugAssertions : Bool)
    (request : CommandRequest Env) (state : Option (AesCipher Op Obj)) :
    CommandReply × Option (AesCipher Op Obj) :=
  serveCommand (invokeCommand tee debugAssertions) request state

/-- The host's view of the session is right. -/
def Tracks (algorithms : Algorithms) (reading : Reading Op Obj) :
    Phase → Option (AesCipher Op Obj) → Prop
  | .unready, state => ∀ aes ∈ state, KeyOpen reading aes
  | .keyless config, state =>
      ∃ aes ∈ state, ∃ key, Ready reading config key none aes
  | .prepared config key, state =>
      ∃ aes ∈ state, Ready reading config (some key) none aes
  | .started config key iv input output, state =>
      (∃ aes ∈ state, Ready reading config (some key) (some ⟨iv, input⟩) aes) ∧
        output = algorithms.output config.algorithm config.mode key iv input
  | .lost, _ => True

variable {tee : Tee Env Op Obj} {debugAssertions : Bool}
  {algorithms : Algorithms} {reading : Reading Op Obj}

theorem Tracks.keyOpen {phase : Phase} {aes : AesCipher Op Obj}
    (h : Tracks algorithms reading phase (some aes)) (hlost : phase ≠ .lost) :
    KeyOpen reading aes := by
  cases phase with
  | unready => exact h aes rfl
  | keyless config =>
      obtain ⟨_, ⟨⟩, key, hready⟩ := h
      exact hready.keyOpen
  | prepared config key =>
      obtain ⟨_, ⟨⟩, hready⟩ := h
      exact hready.keyOpen
  | started config key iv input output =>
      obtain ⟨⟨_, ⟨⟩, hready⟩, -⟩ := h
      exact hready.keyOpen
  | lost => exact absurd rfl hlost

/--
The view stays right, and an orderly request costs the session nothing but what
the destructor of a null cipher does in a debug build.
-/
def Served (debugAssertions : Bool) (algorithms : Algorithms)
    (reading : Reading Op Obj) (phase : Phase) (request : CommandRequest Env)
    (reply : CommandReply × Option (AesCipher Op Obj)) : Prop :=
  Tracks algorithms reading (phase.advance (request, reply.1)) reply.2 ∧
    (Orderly algorithms phase request → debugAssertions = false →
      reply.2.isSome = true)

theorem advance_dead (phase : Phase) (request : CommandRequest Env)
    (slots : ParamIndex → Slot) :
    phase.advance (request, ⟨ErrorKind.targetDead.intoPrimitive, slots⟩) =
      .lost := by
  have hcode : ErrorKind.targetDead.intoPrimitive ≠ teeSuccess := by decide
  rw [Phase.advance, if_neg hcode, if_pos (.inl rfl)]

section Replies

variable {phase : Phase} {request : CommandRequest Env} {command : Command}
  {frame : Frame (AesCipher Op Obj)} {x : AesM Op Obj Unit}

theorem served_of_ends
    (hcommand : Command.fromPrimitive request.cmdId = command)
    (h : Ends x frame
      (fun _ next => Tracks algorithms reading
        (phase.succeed command request.slots
          (updatedBytes (next.slots .arg1))) (some next.context))
      (Refused fun code after => code ≠ corruptObject →
        Tracks algorithms reading (phase.fail command request.slots)
          (some after))
      (fun _ => Orderly algorithms phase request → debugAssertions = true)) :
    Served debugAssertions algorithms reading phase request
      (conclude (x.run frame)) := by
  subst hcommand
  refine conclude_ends h ?_ ?_ ?_
  · intro next hnext
    refine ⟨?_, fun _ _ => rfl⟩
    rw [Phase.advance, if_pos rfl]
    exact hnext
  · rintro error next ⟨hcode, hnext⟩
    refine ⟨?_, fun _ _ => rfl⟩
    rw [Phase.advance, if_neg hcode]
    split_ifs with hlost
    · trivial
    · exact hnext (not_or.mp hlost).2
  · intro next hkilled
    refine ⟨?_, fun horderly hrelease => ?_⟩
    · rw [advance_dead]
      trivial
    · rw [hkilled horderly] at hrelease
      cases hrelease

theorem served_of_lost {reply : CommandReply × Option (AesCipher Op Obj)}
    (hcommand : Command.fromPrimitive request.cmdId = command)
    (hsucceed : ∀ written,
      phase.succeed command request.slots written = .lost)
    (hfail : phase.fail command request.slots = .lost)
    (horderly : ¬ Orderly algorithms phase request) :
    Served debugAssertions algorithms reading phase request reply := by
  -- A request out of turn leaves nothing to rely on.
  have hlost : phase.advance (request, reply.1) = .lost := by
    rw [Phase.advance, hcommand, hsucceed, hfail, ite_self, ite_self]
  refine ⟨?_, fun h => absurd h horderly⟩
  rw [hlost]
  trivial

theorem unknown_served
    (hcommand : Command.fromPrimitive request.cmdId = .unknown)
    (h : Tracks algorithms reading phase (some frame.context)) :
    Served debugAssertions algorithms reading phase request
      (conclude ((refuse : AesM Op Obj Unit).run frame)) := by
  refine served_of_ends hcommand (Ends.fail (refused_badParameters fun _ => ?_))
  cases phase <;> exact h

variable (hlawful : tee.Lawful algorithms reading)

include hlawful

theorem prepare_served
    (hcommand : Command.fromPrimitive request.cmdId = .prepare)
    (hslots : frame.slots = request.slots)
    (h : Tracks algorithms reading phase (some frame.context)) :
    Served debugAssertions algorithms reading phase request
      (conclude ((allocResources tee debugAssertions request.tee).run
        frame)) := by
  refine served_of_ends hcommand
    ((allocResources_ends hlawful debugAssertions frame).mono ?_ ?_ ?_)
  · rintro _ next ⟨config, hconfig, hready⟩
    rw [hslots] at hconfig
    simp only [Phase.succeed, hconfig]
    exact ⟨_, rfl, hready⟩
  · rintro error next ⟨hcode, hkept⟩
    refine ⟨hcode, fun hcorrupt => ?_⟩
    by_cases hlost : phase = .lost
    · rw [hlost]
      trivial
    · have hopen := hkept (h.keyOpen hlost) hcorrupt
      have hfail : phase.fail .prepare request.slots = .unready := by
        cases phase with
        | lost => exact absurd rfl hlost
        | _ => rfl
      rw [hfail]
      rintro _ ⟨⟩
      exact hopen
  · intro next hkilled horderly
    unfold Orderly at horderly
    rw [hcommand] at horderly
    exact hkilled (h.keyOpen horderly)

theorem setKey_served
    (hcommand : Command.fromPrimitive request.cmdId = .setKey)
    (hslots : frame.slots = request.slots)
    (h : Tracks algorithms reading phase (some frame.context)) :
    Served debugAssertions algorithms reading phase request
      (conclude ((setAesKey tee request.tee).run frame)) := by
  cases phase with
  | unready =>
      refine served_of_lost hcommand (fun _ => rfl) rfl ?_
      simp [Orderly, hcommand]
  | lost =>
      refine served_of_lost hcommand (fun _ => rfl) rfl ?_
      simp [Orderly, hcommand]
  | started config key iv input output =>
      refine served_of_lost hcommand (fun _ => rfl) rfl ?_
      simp [Orderly, hcommand]
  | keyless config =>
      obtain ⟨_, ⟨⟩, key, hready⟩ := h
      refine served_of_ends hcommand
        ((setAesKey_ends hlawful hready).mono ?_ ?_ fun _ h => h)
      · rintro _ next ⟨value, hvalue, hnext⟩
        rw [hslots] at hvalue
        simp only [Phase.succeed, hvalue]
        exact ⟨_, rfl, hnext⟩
      · rintro error next ⟨hcode, -, hkept⟩
        exact ⟨hcode, fun hcorrupt => ⟨_, rfl, hkept hcorrupt⟩⟩
  | prepared config key =>
      obtain ⟨_, ⟨⟩, hready⟩ := h
      refine served_of_ends hcommand
        ((setAesKey_ends hlawful hready).mono ?_ ?_ fun _ h => h)
      · rintro _ next ⟨value, hvalue, hnext⟩
        rw [hslots] at hvalue
        simp only [Phase.succeed, hvalue]
        exact ⟨_, rfl, hnext⟩
      · rintro error next ⟨hcode, hsame, hkept⟩
        rw [hslots] at hsame
        refine ⟨hcode, fun hcorrupt => ?_⟩
        rw [Phase.fail]
        split_ifs with hpasses
        · exact ⟨_, rfl, hkept hcorrupt⟩
        · exact ⟨_, rfl, hsame (Bool.not_eq_true _ ▸ hpasses)⟩

theorem setIV_served_of_ready {config : Config} {key : List UInt8}
    {progress : Option Progress}
    (hcommand : Command.fromPrimitive request.cmdId = .setIV)
    (hslots : frame.slots = request.slots)
    (h : Tracks algorithms reading phase (some frame.context))
    (hready : Ready reading config (some key) progress frame.context)
    (hstarted : ∀ written, phase.succeed .setIV request.slots written =
      .started config key ((inputOf (request.slots .arg0)).getD []) [] [])
    (hvectors : Orderly algorithms phase request →
      ∀ iv ∈ inputOf (request.slots .arg0),
        algorithms.acceptsIv config.algorithm iv = true) :
    Served debugAssertions algorithms reading phase request
      (conclude ((resetAesIv tee request.tee).run frame)) := by
  -- A vector starts a ready session anew, whether it was started or not.
  refine served_of_ends hcommand
    ((resetAesIv_ends hlawful hready).mono ?_ ?_ ?_)
  · rintro _ next ⟨iv, hiv, hnext⟩
    rw [hslots] at hiv
    rw [hstarted, hiv]
    exact ⟨⟨_, rfl, hnext⟩, (hlawful.output_nil ..).symm⟩
  · rintro error next ⟨hcode, hsame⟩
    refine ⟨hcode, fun _ => ?_⟩
    rw [hsame]
    cases phase <;> exact h
  · rintro next ⟨iv, hiv, hrefused⟩ horderly
    rw [hslots] at hiv
    rw [hvectors horderly iv hiv] at hrefused
    cases hrefused

theorem setIV_served
    (hcommand : Command.fromPrimitive request.cmdId = .setIV)
    (hslots : frame.slots = request.slots)
    (h : Tracks algorithms reading phase (some frame.context)) :
    Served debugAssertions algorithms reading phase request
      (conclude ((resetAesIv tee request.tee).run frame)) := by
  have hunready : (∀ written,
      phase.succeed .setIV request.slots written = .lost) →
      ¬ Orderly algorithms phase request →
      Served debugAssertions algorithms reading phase request
        (conclude ((resetAesIv tee request.tee).run frame)) := by
    intro hlost hdisorderly
    refine served_of_ends hcommand ((resetAesIv_refused frame).mono ?_ ?_ ?_)
    · intro _ next _
      rw [hlost]
      trivial
    · rintro error next ⟨hcode, hsame⟩
      refine ⟨hcode, fun _ => ?_⟩
      rw [hsame]
      cases phase <;> exact h
    · intro next _ horderly
      exact absurd horderly hdisorderly
  cases phase with
  | prepared config key =>
      obtain ⟨_, ⟨⟩, hready⟩ := id h
      refine setIV_served_of_ready hlawful hcommand hslots h hready
        (fun _ => rfl) fun horderly => ?_
      unfold Orderly at horderly
      rwa [hcommand] at horderly
  | started config key iv input output =>
      obtain ⟨⟨_, ⟨⟩, hready⟩, -⟩ := id h
      refine setIV_served_of_ready hlawful hcommand hslots h hready
        (fun _ => rfl) fun horderly => ?_
      unfold Orderly at horderly
      rwa [hcommand] at horderly
  | _ => exact hunready (fun _ => rfl) (by simp [Orderly, hcommand])

theorem cipher_served
    (hcommand : Command.fromPrimitive request.cmdId = .cipher)
    (hslots : frame.slots = request.slots)
    (h : Tracks algorithms reading phase (some frame.context)) :
    Served debugAssertions algorithms reading phase request
      (conclude ((cipherBuffer tee request.tee).run frame)) := by
  cases phase with
  | started config key iv input output =>
      obtain ⟨⟨_, ⟨⟩, hready⟩, houtput⟩ := h
      refine served_of_ends hcommand
        ((cipherBuffer_ends hlawful hready).mono ?_ ?_ fun _ h => h)
      · rintro _ next ⟨src, hsrc, hnext, hwritten⟩
        rw [hslots] at hsrc
        simp only [Phase.succeed, hsrc]
        refine ⟨⟨_, rfl, hnext⟩, ?_⟩
        rw [houtput]
        exact hwritten
      · rintro error next ⟨hcode, hkept⟩
        exact ⟨hcode, fun _ => ⟨⟨_, rfl, hkept⟩, houtput⟩⟩
  | _ =>
      refine served_of_lost hcommand (fun _ => rfl) rfl ?_
      simp [Orderly, hcommand]

end Replies

theorem serve_served (hlawful : tee.Lawful algorithms reading)
    (request : CommandRequest Env) (phase : Phase) {aes : AesCipher Op Obj}
    (h : Tracks algorithms reading phase (some aes)) :
    Served debugAssertions algorithms reading phase request
      (serve tee debugAssertions request (some aes)) := by
  unfold serve serveCommand invokeCommand
  cases hcommand : Command.fromPrimitive request.cmdId with
  | prepare => exact prepare_served hlawful hcommand rfl h
  | setKey => exact setKey_served hlawful hcommand rfl h
  | setIV => exact setIV_served hlawful hcommand rfl h
  | cipher => exact cipher_served hlawful hcommand rfl h
  | unknown => exact unknown_served hcommand h

theorem serve_tracked (hlawful : tee.Lawful algorithms reading)
    (request : CommandRequest Env) (phase : Phase)
    (state : Option (AesCipher Op Obj))
    (h : Tracks algorithms reading phase state) :
    Tracks algorithms reading
      (phase.advance (request, (serve tee debugAssertions request state).1))
      (serve tee debugAssertions request state).2 := by
  cases state with
  | none =>
      rw [serve, serveCommand, advance_dead]
      trivial
  | some aes => exact (serve_served hlawful request phase h).1

theorem default_tracked :
    Tracks algorithms reading .unready (some .default) := by
  rintro _ ⟨⟩ _ ⟨⟩

/--
Whatever a host asks of its session and whatever the TEE refuses: the output
that the host has collected since its last vector is the output of the
algorithm for all the input it has fed since, under the last key that was
accepted, or under a key of zeros if there was none.
-/
theorem collected_output_is_of_whole_input
    (hlawful : tee.Lawful algorithms reading) (debugAssertions : Bool)
    (dialogue : Dialogue (CommandRequest Env) CommandReply Result)
    {config : Config} {key iv input output : List UInt8}
    (h : (dialogue.run (serve tee debugAssertions)
      (some .default)).transcript.foldl Phase.advance .unready =
        .started config key iv input output) :
    output =
      algorithms.output config.algorithm config.mode key iv input := by
  have htracked : Tracks algorithms reading
      ((dialogue.run (serve tee debugAssertions)
        (some .default)).transcript.foldl Phase.advance .unready)
      (dialogue.run (serve tee debugAssertions) (some .default)).state :=
    Dialogue.run_tracks (fun request phase state =>
      serve_tracked hlawful request phase state) dialogue default_tracked
  rw [h] at htracked
  exact htracked.2

def passThrough : Algorithms where
  output _ _ _ _ input := input
  acceptsIv _ iv := iv.length == 16

structure Calls where
  isAlgorithmSupported : TeeResult
  allocateOperation : TeeResult
  allocateObject : TeeResult
  populate : TeeResult
  setKey : TeeResult

def passThroughTee : Tee Calls Operation (Option KeyObject) where
  isAlgorithmSupported calls _ := calls.isAlgorithmSupported
  allocateOperation calls algorithm mode maxKeySize :=
    (calls.allocateOperation, ⟨algorithm, mode, maxKeySize, none, none⟩)
  freeOperation _ _ := some ()
  allocateTransientObject calls size :=
    (calls.allocateObject, some ⟨size, none⟩)
  closeObject _ obj := obj.map fun _ => ()
  resetTransientObject _ obj := obj.map fun object =>
    some { object with secretValue := none }
  populateTransientObject calls obj value := obj.map fun object =>
    (calls.populate, some { object with
      secretValue := if calls.populate = teeSuccess then some value else none })
  setOperationKey calls operation obj :=
    match operation.progress, obj.bind (·.secretValue) with
    | none, some key =>
        some (calls.setKey,
          { operation with
            key := if calls.setKey = teeSuccess then some key else none },
          if calls.setKey = corruptObject then none else obj)
    | _, _ => none
  cipherInit _ operation iv :=
    if operation.key.isSome ∧ iv.length = 16 then
      some { operation with progress := some ⟨iv, []⟩ }
    else none
  cipherUpdate _ operation src room :=
    match operation.progress with
    | some progress =>
        if src.length ≤ room then
          some (teeSuccess, src, { operation with
            progress := some ⟨progress.iv, progress.fed ++ src⟩ })
        else some (ErrorKind.shortBuffer.intoPrimitive, [], operation)
    | none => none

theorem passThroughTee_lawful :
    passThroughTee.Lawful passThrough ⟨id, id⟩ where
  output_nil _ _ _ _ := rfl
  allocateOperation _ _ _ _ _ := rfl
  freeOperation _ _ := rfl
  allocateTransientObject _ _ _ := rfl
  closeObject env obj h := by
    cases obj with
    | none => exact absurd rfl h
    | some object => rfl
  resetTransientObject env obj object h := by
    cases h
    exact ⟨_, rfl, rfl⟩
  populateTransientObject env obj size value h _ := by
    cases h
    exact ⟨_, _, rfl, rfl⟩
  setOperationKey env op obj size key hprogress hobj _ := by
    cases hobj
    refine ⟨env.setKey, { op with
      key := if env.setKey = teeSuccess then some key else none },
      if env.setKey = corruptObject then none else some ⟨size, some key⟩, ?_,
      ⟨_, rfl, fun hcode => if_pos hcode⟩, fun hcorrupt => if_neg hcorrupt⟩
    simp only [id_eq] at hprogress
    simp [passThroughTee, hprogress]
  cipherInit env op key iv hkey := by
    simp only [id_eq] at hkey
    by_cases hiv : iv.length = 16
    · simp [passThroughTee, hkey, hiv]
    · simp [passThroughTee, passThrough, hiv]
  cipherUpdate env op key progress src room _ hprogress := by
    simp only [id_eq] at hprogress
    by_cases hroom : src.length ≤ room
    · refine ⟨teeSuccess, src, { op with
        progress := some ⟨progress.iv, progress.fed ++ src⟩ },
        by simp [passThroughTee, hprogress, hroom], ?_⟩
      rw [if_pos rfl]
      exact ⟨hroom, rfl, rfl⟩
    · refine ⟨ErrorKind.shortBuffer.intoPrimitive, [], op,
        by simp [passThroughTee, hprogress, hroom], ?_⟩
      rw [if_neg (by decide)]

def granted : Calls :=
  ⟨teeSuccess, teeSuccess, teeSuccess, teeSuccess, teeSuccess⟩

def prepareRequest : CommandRequest Calls :=
  ⟨0, ArgIndex.tuple (.value .input 2 0) (.value .input 16 0)
    (.value .input 1 0) .none, granted⟩

def encryptOnce : Dialogue (CommandRequest Calls) CommandReply Unit :=
  .ofList
    [prepareRequest,
      ⟨2, ArgIndex.tuple (.memref .input (List.replicate 16 0) 16) .none .none
        .none, granted⟩,
      ⟨3, ArgIndex.tuple (.memref .input [1, 2, 3] 3)
        (.memref .output [0, 0, 0] 3) .none .none, granted⟩,
      ⟨3, ArgIndex.tuple (.memref .input [4] 1)
        (.memref .output [0, 0, 0] 3) .none .none, granted⟩] ()

theorem encryptOnce_collects_output :
    (encryptOnce.run (serve passThroughTee false)
        (some .default)).transcript.foldl Phase.advance .unready =
      .started ⟨.aesCtr, .encrypt, 16⟩ (List.replicate 16 0)
        (List.replicate 16 0) [1, 2, 3, 4] [1, 2, 3, 4] ∧
    [1, 2, 3, 4] = passThrough.output .aesCtr .encrypt (List.replicate 16 0)
      (List.replicate 16 0) [1, 2, 3, 4] :=
  ⟨rfl, collected_output_is_of_whole_input passThroughTee_lawful false
    encryptOnce rfl⟩

/-! ### The first preparation -/

/-- A request for which the TEE allocates a cipher operation. -/
def Allocates (tee : Tee Env Op Obj) (request : CommandRequest Env) : Prop :=
  Command.fromPrimitive request.cmdId = .prepare ∧
    ∃ config ∈ configOf request.slots,
      tee.isAlgorithmSupported request.tee config.algorithm = teeSuccess ∧
      (tee.allocateOperation request.tee config.algorithm config.mode
        (config.keySize * 8)).1 = teeSuccess

theorem allocResources_debug {request : CommandRequest Env}
    {aes : AesCipher Op Obj}
    (hcommand : Command.fromPrimitive request.cmdId = .prepare)
    (haes : aes.cipher = none) :
    Ends (allocResources tee true request.tee) ⟨aes, request.slots⟩
      (fun _ _ => False)
      (Refused fun _ after => after.cipher = none ∧ ¬ Allocates tee request)
      (fun _ => Allocates tee request) := by
  refine allocResources_of_assign ?_ ?_
  · rintro _ after hcipher - hrefused
    refine ⟨hcipher.trans haes, ?_⟩
    rintro ⟨-, config, hconfig, hgrants⟩
    exact hrefused config hconfig hgrants
  · intro config hconfig hgrants
    -- In a debug build the assignment to a null cipher is never survived.
    refine Ends.get_bind ?_
    simp only [haes, Cipher.drop, if_true]
    exact Ends.kill ⟨hcommand, config, hconfig, hgrants⟩

theorem run_dead
    (dialogue : Dialogue (CommandRequest Env) CommandReply Result) :
    (dialogue.run (serve tee debugAssertions) none).state = none :=
  @Dialogue.run_invariant _ _ _ _ (serve tee debugAssertions) (· = none)
    (by rintro request _ rfl; rfl) dialogue none rfl

/-- The request is the session's last one, or leaves it without a cipher. -/
def DebugServed (tee : Tee Env Op Obj) (phase : Phase)
    (request : CommandRequest Env)
    (reply : CommandReply × Option (AesCipher Op Obj)) : Prop :=
  (Allocates tee request ∧ reply.2 = none) ∨
    (¬ Allocates tee request ∧ ∃ after, reply.2 = some after ∧
      after.cipher = none ∧
      (phase.advance (request, reply.1) = .unready ∨
        phase.advance (request, reply.1) = .lost))

theorem command_of_orderly {request : CommandRequest Env} {phase : Phase}
    (hphase : phase = .unready ∨ phase = .lost)
    (horderly : Orderly algorithms phase request) :
    Command.fromPrimitive request.cmdId = .unknown ∨
      Command.fromPrimitive request.cmdId = .prepare := by
  unfold Orderly at horderly
  rcases hphase with rfl | rfl
  all_goals
    cases hcommand : Command.fromPrimitive request.cmdId with
    | unknown => exact .inl rfl
    | prepare => exact .inr rfl
    | _ => simp [hcommand] at horderly

theorem advance_of_refused {request : CommandRequest Env} {phase : Phase}
    (hphase : phase = .unready ∨ phase = .lost)
    (hcommand : Command.fromPrimitive request.cmdId = .unknown ∨
      Command.fromPrimitive request.cmdId = .prepare)
    {reply : CommandReply} (hcode : reply.code ≠ teeSuccess) :
    phase.advance (request, reply) = .unready ∨
      phase.advance (request, reply) = .lost := by
  rw [Phase.advance, if_neg hcode]
  split_ifs with hlost
  · exact .inr rfl
  · rcases hphase with rfl | rfl <;>
      rcases hcommand with hcommand | hcommand <;>
        simp [hcommand, Phase.fail]

theorem debug_serve {request : CommandRequest Env} {phase : Phase}
    {aes : AesCipher Op Obj} (haes : aes.cipher = none)
    (hphase : phase = .unready ∨ phase = .lost)
    (horderly : Orderly algorithms phase request) :
    DebugServed tee phase request (serve tee true request (some aes)) := by
  rcases command_of_orderly hphase horderly with hcommand | hcommand
  · have hreply : serve tee true request (some aes) =
        (⟨ErrorKind.badParameters.intoPrimitive, request.slots⟩, some aes) := by
      simp only [serve, serveCommand, invokeCommand, hcommand]
      rfl
    have hbad : ErrorKind.badParameters.intoPrimitive ≠ teeSuccess := by decide
    rw [hreply]
    refine .inr ⟨fun h => ?_, aes, rfl, haes,
      advance_of_refused hphase (.inl hcommand) hbad⟩
    rw [Allocates, hcommand] at h
    cases h.1
  · have hreply : serve tee true request (some aes) = conclude
        ((allocResources tee true request.tee).run ⟨aes, request.slots⟩) := by
      simp only [serve, serveCommand, invokeCommand, hcommand]
    rw [hreply]
    refine conclude_ends (P := DebugServed tee phase request)
      (allocResources_debug hcommand haes) nofun ?_ ?_
    · rintro error next ⟨hcode, hcipher, hrefused⟩
      exact .inr ⟨hrefused, next.context, rfl, hcipher,
        advance_of_refused hphase (.inr hcommand) hcode⟩
    · intro next hallocates
      exact .inl ⟨hallocates, rfl⟩

theorem debug_run
    (dialogue : Dialogue (CommandRequest Env) CommandReply Result)
    {phase : Phase} {aes : AesCipher Op Obj} (haes : aes.cipher = none)
    (hphase : phase = .unready ∨ phase = .lost)
    (h : Dialogue.Guarded Phase.advance (Orderly algorithms) phase
      (dialogue.run (serve tee true) (some aes)).transcript) :
    (dialogue.run (serve tee true) (some aes)).state.isSome = true ↔
      ∀ entry ∈ (dialogue.run (serve tee true) (some aes)).transcript,
        ¬ Allocates tee entry.1 := by
  induction dialogue generalizing phase aes with
  | finish result => simp [Dialogue.run]
  | ask request next ih =>
      obtain ⟨hfirst, hrest⟩ := h
      rw [Dialogue.run]
      dsimp only
      rw [List.forall_mem_cons]
      rcases debug_serve haes hphase hfirst with ⟨hallocates, hdead⟩ |
        ⟨hrefused, after, hafter, hcipher, hnext⟩
      · rw [hdead, run_dead]
        simp [hallocates]
      · rw [hafter] at hrest ⊢
        rw [ih _ hcipher hnext hrest]
        simp [hrefused]

/--
A host that prepares its session first, sets keys only before a vector and
feeds only after one keeps its session, whatever the TEE refuses; after a
preparation that failed it has to prepare again, after a key that was refused it
has to set one, and once its key object may be closed it has to stop.  In a
debug build no session outlives its first preparation.
-/
theorem orderly_hosts_keep_their_session
    (hlawful : tee.Lawful algorithms reading) (debugAssertions : Bool)
    (dialogue : Dialogue (CommandRequest Env) CommandReply Result)
    (h : Dialogue.Guarded Phase.advance (Orderly algorithms) .unready
      (dialogue.run (serve tee debugAssertions)
        (some .default)).transcript) :
    (dialogue.run (serve tee debugAssertions)
        (some .default)).state.isSome = true ↔
      debugAssertions = false ∨
        ∀ entry ∈ (dialogue.run (serve tee debugAssertions)
          (some .default)).transcript, ¬ Allocates tee entry.1 := by
  cases debugAssertions with
  | true =>
      rw [debug_run dialogue rfl (.inl rfl) h]
      simp
  | false =>
      have hstep : ∀ request phase state, Orderly algorithms phase request →
          Tracks algorithms reading phase state ∧ state.isSome = true →
            Tracks algorithms reading
                (phase.advance (request, (serve tee false request state).1))
                (serve tee false request state).2 ∧
              (serve tee false request state).2.isSome = true := by
        rintro request phase state horderly ⟨htracks, halive⟩
        obtain ⟨aes, rfl⟩ := Option.isSome_iff_exists.mp halive
        have hserved : Served false algorithms reading phase request
            (serve tee false request (some aes)) :=
          serve_served hlawful request phase htracks
        exact ⟨hserved.1, hserved.2 horderly rfl⟩
      have halive := (Dialogue.run_guarded hstep dialogue
        ⟨default_tracked, rfl⟩ h).2
      simp [halive]

def prepareOnly : Dialogue (CommandRequest Calls) CommandReply Unit :=
  .ofList [prepareRequest] ()

theorem encryptOnce_keeps_session :
    (encryptOnce.run (serve passThroughTee false)
        (some .default)).state.isSome = true ∧
      ¬ (prepareOnly.run (serve passThroughTee true)
        (some .default)).state.isSome = true := by
  constructor
  · refine (orderly_hosts_keep_their_session passThroughTee_lawful false
      encryptOnce ⟨nofun, ?_, trivial, trivial, trivial⟩).mpr (.inl rfl)
    rintro iv ⟨⟩
    rfl
  · rw [orderly_hosts_keep_their_session passThroughTee_lawful true
      prepareOnly ⟨nofun, trivial⟩]
    rintro (hrelease | hrefused)
    · cases hrelease
    · exact hrefused _ List.mem_cons_self ⟨rfl, ⟨.aesCtr, .encrypt, 16⟩, rfl,
        rfl, rfl⟩

end Sessions

end TrustZoneSdk.TrustedApps.Aes
