import TrustZoneSdk.Teec.Plugin
import TrustZoneSdk.Utee.Plugin

/-!
# A plugin call from end to end

One buffer carries the request from the TA to the plugin and the response
back.  The TA sizes it by the capacity of its vector, the plugin checks its
response against the length it was given, and the TA cuts the buffer to the
length that the plugin reports.
-/

namespace TrustZoneSdk.Boundary

open TrustZoneSdk.Foundation
open TrustZoneSdk.Teec (Build PluginHandler PluginRequest PluginAnswer
  PluginParameters)
open TrustZoneSdk.Utee (LoadablePluginCommand LoadablePlugin VecAllocator)

/-- OP-TEE passes the buffer and both lengths on as they are. -/
def suppPlugin (build : Build) (handler : PluginHandler) : Utee.SuppPlugin :=
  fun _ cmd subCmd buf outlen => do
    let reply ←
      Teec.pluginInvoke build handler cmd subCmd (.valid buf) (some outlen)
    return ⟨reply.code, reply.buf, reply.outLen.getD outlen⟩

variable (build : Build) (handler : PluginHandler)
  (command : LoadablePluginCommand)

def handled : Outcome PluginRequest PluginAnswer (Except Teec.Error Unit)
    (Option PluginParameters) :=
  (handler command.cmdId command.subCmdId).run (PluginRequest.serve build)
    (some ⟨command.cmdId, command.subCmdId, command.shared, some 0⟩)

def LastOutput (transcript : List (PluginRequest × PluginAnswer))
    (resp : List UInt8) (result : Except Teec.Error Unit) : Prop :=
  ∃ before after,
    transcript = before ++ (.setBufFromSlice resp, .result result) :: after ∧
      ∀ entry ∈ after, entry.1.isOutput = false

variable {build handler command}

theorem handled_writable :
    ∀ self ∈ (some ⟨command.cmdId, command.subCmdId, command.shared, some 0⟩ :
      Option PluginParameters), self.Writable command.shared.length := by
  rintro self hself
  obtain rfl := Option.some.inj hself
  exact ⟨rfl, 0, rfl⟩

theorem serve_of_not_output {request : PluginRequest}
    (h : request.isOutput = false) (state : Option PluginParameters) :
    (request.serve build state).2 = state := by
  cases request with
  | getBuffer => exact PluginRequest.serve_getBuffer
  | _ => cases h

theorem handled_getBuffer
    {before after : List (PluginRequest × PluginAnswer)}
    {bytes : List UInt8}
    (h : (handled build handler command).transcript =
      before ++ (.getBuffer, .bytes bytes) :: after)
    (hbefore : ∀ entry ∈ before, entry.1.isOutput = false) :
    bytes = command.shared := by
  obtain ⟨-, middle, rfl, hanswer, -⟩ :=
    Dialogue.run_resume (· = some ⟨command.cmdId, command.subCmdId,
      command.shared, some 0⟩) _ h rfl fun entry hentry state hstate => by
        rw [serve_of_not_output (hbefore entry hentry), hstate]
  cases hanswer
  rfl

theorem LastOutput.served {resp : List UInt8}
    {result : Except Teec.Error Unit}
    (h : LastOutput (handled build handler command).transcript resp result) :
    ∃ self : PluginParameters, self.Writable command.shared.length ∧
      ((PluginRequest.setBufFromSlice resp).serve build (some self)).1 =
        .result result ∧
      (handled build handler command).state =
        ((PluginRequest.setBufFromSlice resp).serve build (some self)).2 := by
  obtain ⟨before, after, htranscript, hafter⟩ := h
  obtain ⟨rest, middle, hmiddle, hanswer, hrest, -, hstate⟩ :=
    Dialogue.run_resume
      (fun state => ∀ self ∈ state, self.Writable command.shared.length)
      _ htranscript handled_writable
      fun entry _ state => entry.1.serve_writable
  have hquiet : (rest.run (PluginRequest.serve build) _).state = _ :=
    rest.run_quiet _ fun entry hentry =>
      serve_of_not_output (hafter entry (hrest ▸ hentry))
  cases middle with
  | none => cases hanswer
  | some self =>
      exact ⟨self, hmiddle self rfl, hanswer, hstate.symm.trans hquiet⟩

/-! ## What the TA gets back -/

section Call

variable {self : PluginParameters} {outLen : Nat} {error : Teec.Error}

theorem pluginInvoke_shared
    (hstate : (handled build handler command).state = some self) :
    Teec.pluginInvoke build handler command.cmdId command.subCmdId
        (.valid command.shared) (some 0) =
      some (match (handled build handler command).result with
        | .ok () => ⟨Teec.teecSuccess, self.buf, self.outLen⟩
        | .error error => ⟨error.rawCode, self.buf, self.outLen⟩) := by
  have hraw : PluginParameters.fromRaw command.cmdId command.subCmdId
      (.valid command.shared) (some 0) =
        .ok ⟨command.cmdId, command.subCmdId, command.shared, some 0⟩ := by
    simp [PluginParameters.fromRaw, Teec.RawBuffer.isNull,
      Teec.RawBuffer.bytes]
  cases hresult : (handled build handler command).result with
  | ok done =>
      rw [handled] at hstate hresult
      simp only [Teec.pluginInvoke, hraw, hstate, hresult, Option.map_some]
  | error error =>
      rw [handled] at hstate hresult
      simp only [Teec.pluginInvoke, hraw, hstate, hresult, Option.map_some]

theorem call_of_ok
    (hstate : (handled build handler command).state = some self)
    (hresult : (handled build handler command).result = .ok ())
    (hout : self.outLen = some outLen) (hlen : outLen ≤ self.buf.length) :
    command.call (suppPlugin build handler) =
      some (.ok (self.buf.take outLen)) := by
  have hshort : ¬ self.buf.length < outLen := by omega
  have hpad : outLen - self.buf.length = 0 := by omega
  simp [LoadablePluginCommand.call, suppPlugin, pluginInvoke_shared hstate,
    hresult, hout, Utee.teeCheck, Teec.teecSuccess, Utee.teeSuccess, hshort,
    Utee.resize, hpad]

theorem call_of_error
    (hstate : (handled build handler command).state = some self)
    (hresult : (handled build handler command).result = .error error)
    (hcode : error.rawCode ≠ 0) :
    command.call (suppPlugin build handler) =
      some (.error (Utee.Error.fromRawError error.rawCode)) := by
  simp [LoadablePluginCommand.call, suppPlugin, pluginInvoke_shared hstate,
    hresult, Utee.teeCheck, Utee.teeSuccess, hcode]

theorem LastOutput.call_fits {resp : List UInt8}
    {result : Except Teec.Error Unit}
    (h : LastOutput (handled build handler command).transcript resp result)
    (hresult : (handled build handler command).result = result)
    (hlength : command.shared.length < 2 ^ build.width.bits)
    (hfits : resp.length ≤ command.shared.length) :
    command.call (suppPlugin build handler) = some (.ok resp) := by
  obtain ⟨self, hself, hanswer, hstate⟩ := h.served
  rw [PluginRequest.serve_setBuf_fits hself hfits hlength] at hanswer hstate
  obtain rfl : .ok () = result := by simpa using hanswer
  have hroom : 0 + resp.length ≤ self.buf.length := by
    rw [hself.length_buf]
    omega
  have hcall := call_of_ok hstate hresult rfl (by
    rw [length_overlay hroom]
    omega)
  rw [hcall]
  simp [overlay]

theorem LastOutput.call_short {resp : List UInt8}
    {result : Except Teec.Error Unit}
    (h : LastOutput (handled build handler command).transcript resp result)
    (hresult : (handled build handler command).result = result)
    (hshort : command.shared.length < resp.length) :
    command.call (suppPlugin build handler) =
      some (.error (Utee.Error.new .shortBuffer)) := by
  obtain ⟨self, hself, hanswer, hstate⟩ := h.served
  obtain ⟨rfl, hsame⟩ :=
    PluginRequest.serve_setBuf_short hself hshort hanswer
  rw [hsame] at hstate
  rw [call_of_error hstate hresult (by decide)]
  rfl

end Call

/--
The handler reads the request followed by zeros, in a buffer that has at least
the room asked for and a length that the plugin's `usize` can hold.  A
response that fits comes back as it is; one that does not gives `ShortBuffer`;
and an error of the handler keeps its code.
-/
theorem plugin_round_trip {allocator : VecAllocator}
    {plugin : LoadablePlugin} {commandId subcommandId : UInt32}
    {capacity : Nat} {chunks : List (List UInt8)}
    (hcommand : plugin.prepare allocator commandId subcommandId capacity
      chunks = some command)
    (hlength : command.shared.length < 2 ^ build.width.bits) :
    (∀ before bytes after,
      (handled build handler command).transcript =
          before ++ (.getBuffer, .bytes bytes) :: after →
        (∀ entry ∈ before, entry.1.isOutput = false) →
          bytes = command.shared) ∧
      (∃ zeros, command.shared =
        chunks.flatten ++ List.replicate zeros 0) ∧
      max capacity chunks.flatten.length ≤ command.shared.length ∧
      (∀ resp result,
        LastOutput (handled build handler command).transcript resp result →
          (handled build handler command).result = result →
            (resp.length ≤ command.shared.length →
              command.call (suppPlugin build handler) = some (.ok resp)) ∧
            (command.shared.length < resp.length →
              command.call (suppPlugin build handler) =
                some (.error (Utee.Error.new .shortBuffer)))) ∧
      ∀ error, (handled build handler command).state.isSome →
        (handled build handler command).result = .error error →
          error.rawCode ≠ 0 →
            ∃ returned, command.call (suppPlugin build handler) =
              some (.error returned) ∧ returned.rawCode = error.rawCode := by
  have hholds := LoadablePluginCommand.holds_prepare hcommand
  refine ⟨fun before bytes after => handled_getBuffer,
    ⟨_, hholds.shared_eq⟩, hholds.length_shared, ?_, ?_⟩
  · intro resp result hlast hresult
    exact ⟨hlast.call_fits hresult hlength, hlast.call_short hresult⟩
  · intro error hstate hresult hcode
    obtain ⟨self, hself⟩ := Option.isSome_iff_exists.mp hstate
    exact ⟨_, call_of_error hself hresult hcode,
      Utee.Error.rawCode_fromRawError _⟩

def exactAllocator : VecAllocator where
  grant _ required := some required
  enough := by simp

def respondWith (resp : List UInt8) : PluginHandler := fun _ _ =>
  .ask .getBuffer fun _ => .ask (.setBufFromSlice resp) fun
    | .result result => .finish result
    | _ => .finish (.ok ())

def threeByteRequest : LoadablePluginCommand where
  plugin := ⟨7⟩
  cmdId := 1
  subCmdId := 2
  buffer := ⟨[10, 20, 30], 5, by decide⟩

theorem threeByteRequest_round_trip :
    LoadablePlugin.prepare exactAllocator ⟨7⟩ 1 2 5 [[10], [20, 30]] =
        some threeByteRequest ∧
      threeByteRequest.call
          (suppPlugin ⟨.aarch64, true⟩ (respondWith [8, 9])) =
        some (.ok [8, 9]) := by
  have hprepare : LoadablePlugin.prepare exactAllocator ⟨7⟩ 1 2 5
      [[10], [20, 30]] = some threeByteRequest := rfl
  have hlast : LastOutput (handled ⟨.aarch64, true⟩ (respondWith [8, 9])
      threeByteRequest).transcript [8, 9] (.ok ()) :=
    ⟨[(.getBuffer, .bytes [10, 20, 30, 0, 0])], [], rfl, by simp⟩
  refine ⟨hprepare, ?_⟩
  exact ((plugin_round_trip hprepare (by decide)).2.2.2.1 [8, 9] (.ok ())
    hlast rfl).1 (by decide)

end TrustZoneSdk.Boundary
