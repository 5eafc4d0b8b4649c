import TrustZoneSdk.Teec.Plugin

/-!
# What a plugin reports

Every output call that succeeds stores the length of the output behind
`out_len`, and none stores more than the buffer holds.  Nothing stores a
length before the handler runs, so that a handler whose calls all fail, or
which makes none, leaves what the supplicant had there.
-/

namespace TrustZoneSdk.Teec

open TrustZoneSdk.Foundation

/-! ## One call -/

namespace PluginRequest

def asks : PluginRequest → Option Nat
  | getBuffer => none
  | setBufFromSlice sendslice => some sendslice.length
  | writeOutputAt pos data => some (pos + data.length)
  | setOutLen outLen => some outLen
  | writeByte _ _ => none

/-- A call whose output the buffer can hold. -/
def Fits (length : Nat) (request : PluginRequest) : Prop :=
  ∃ asked ∈ request.asks, asked ≤ length

def stored : PluginRequest × PluginAnswer → Option Nat
  | (request, .result (.ok ())) => request.asks
  | _ => none

variable {build : Build} {length outLen : Nat} {self next : PluginParameters}
  {answer : PluginAnswer}

/-- A call that has returned has stored its length exactly if that fits. -/
structure Reported (length outLen : Nat) (request : PluginRequest)
    (answer : PluginAnswer) (next : PluginParameters) : Prop where
  length_buf : next.buf.length = length
  outLen : next.outLen = some ((stored (request, answer)).getD outLen)
  stored : stored (request, answer) =
    request.asks.filter fun asked => asked ≤ length

theorem writeOutputAt_reported {request : PluginRequest} {pos : Nat}
    {data : List UInt8} {result : Except Error Unit}
    (hasks : request.asks = some (pos + data.length))
    (hlength : length < 2 ^ build.width.bits)
    (hbuf : self.buf.length = length) (hout : self.outLen = some outLen)
    (h : self.writeOutputAt build pos data = some (result, next)) :
    Reported length outLen request (.result result) next := by
  by_cases hfits : pos + data.length ≤ length
  · rw [PluginParameters.writeOutputAt_of_fits hout (by omega)
      (by omega)] at h
    obtain ⟨rfl, rfl⟩ := Prod.mk.inj (Option.some.inj h)
    refine ⟨?_, ?_, ?_⟩
    · rw [← hbuf]
      exact length_overlay (by omega)
    · rw [stored, hasks, Option.getD_some]
    · simp [stored, hasks, Option.filter_some, hfits]
  · obtain ⟨rfl, rfl⟩ :=
      PluginParameters.writeOutputAt_refused hout (by omega) h
    exact ⟨hbuf, hout, by simp [stored, hasks, Option.filter_some, hfits]⟩

theorem setOutLen_reported {asked : Nat} (hbuf : self.buf.length = length)
    (hout : self.outLen = some outLen) :
    Reported length outLen (setOutLen asked)
      (.result (self.setOutLen asked).1) (self.setOutLen asked).2 := by
  by_cases hfits : asked ≤ length
  · have hroom : ¬ self.buf.length < asked := by omega
    simp only [PluginParameters.setOutLen, if_neg hroom, hout]
    exact ⟨hbuf, rfl, by simp [stored, asks, Option.filter_some, hfits]⟩
  · have hroom : self.buf.length < asked := by omega
    simp only [PluginParameters.setOutLen, if_pos hroom]
    exact ⟨hbuf, hout, by simp [stored, asks, Option.filter_some, hfits]⟩

theorem perform_reported {request : PluginRequest}
    (hlength : length < 2 ^ build.width.bits)
    (hbuf : self.buf.length = length) (hout : self.outLen = some outLen)
    (h : request.perform build self = some (answer, next)) :
    Reported length outLen request answer next := by
  cases request with
  | getBuffer =>
      obtain ⟨rfl, rfl⟩ := Prod.mk.inj (Option.some.inj h)
      exact ⟨hbuf, hout, rfl⟩
  | setBufFromSlice sendslice =>
      obtain ⟨⟨result, after⟩, hwrite, hsome⟩ := Option.bind_eq_some_iff.mp h
      obtain ⟨rfl, rfl⟩ := Prod.mk.inj (Option.some.inj hsome)
      exact writeOutputAt_reported (by rw [asks, Nat.zero_add]) hlength hbuf
        hout hwrite
  | writeOutputAt pos data =>
      obtain ⟨⟨result, after⟩, hwrite, hsome⟩ := Option.bind_eq_some_iff.mp h
      obtain ⟨rfl, rfl⟩ := Prod.mk.inj (Option.some.inj hsome)
      exact writeOutputAt_reported rfl hlength hbuf hout hwrite
  | setOutLen asked =>
      obtain ⟨rfl, rfl⟩ := Prod.mk.inj (Option.some.inj h)
      exact setOutLen_reported hbuf hout
  | writeByte index byte =>
      rw [perform] at h
      split_ifs at h
      obtain ⟨rfl, rfl⟩ := Prod.mk.inj (Option.some.inj h)
      exact ⟨by simpa using hbuf, hout, rfl⟩

/-! ## Runs of a handler -/

theorem run_none
    (dialogue : Dialogue PluginRequest PluginAnswer (Except Error Unit)) :
    (dialogue.run (serve build) none).state = none := by
  induction dialogue with
  | finish result => rfl
  | ask request next ih => exact ih _

theorem run_reported (hlength : length < 2 ^ build.width.bits)
    (dialogue : Dialogue PluginRequest PluginAnswer (Except Error Unit))
    {last : PluginParameters} (hbuf : self.buf.length = length)
    (hout : self.outLen = some outLen)
    (hlast : (dialogue.run (serve build) (some self)).state = some last) :
    last.outLen = some (latest stored outLen
        (dialogue.run (serve build) (some self)).transcript) ∧
      ∀ entry ∈ (dialogue.run (serve build) (some self)).transcript,
        stored entry = entry.1.asks.filter fun asked => asked ≤ length := by
  induction dialogue generalizing self outLen with
  | finish result =>
      obtain rfl := Option.some.inj hlast
      exact ⟨hout, by simp [Dialogue.run]⟩
  | ask request next ih =>
      cases hperform : request.perform build self with
      | none =>
          have hserve : request.serve build (some self) =
              (.panicked, none) := by simp [serve, hperform]
          rw [Dialogue.run, hserve, run_none] at hlast
          cases hlast
      | some reply =>
          obtain ⟨answer, after⟩ := reply
          have hserve : request.serve build (some self) =
              (answer, some after) := by simp [serve, hperform]
          obtain ⟨hafter, hreported, hstored⟩ :=
            perform_reported hlength hbuf hout hperform
          simp only [Dialogue.run, hserve] at hlast ⊢
          obtain ⟨hrest, hentries⟩ := ih answer hafter hreported hlast
          refine ⟨?_, List.forall_mem_cons.mpr ⟨hstored, hentries⟩⟩
          rw [hrest, ← foldl_getD_eq_latest, ← foldl_getD_eq_latest,
            List.foldl_cons]

theorem fits_of_stored {entry : PluginRequest × PluginAnswer} {value : Nat}
    (h : stored entry = entry.1.asks.filter fun asked => asked ≤ length)
    (hvalue : value ∈ stored entry) : entry.1.Fits length ∧ value ≤ length := by
  rw [h, Option.mem_filter_iff, decide_eq_true_iff] at hvalue
  exact ⟨⟨value, hvalue⟩, hvalue.2⟩

theorem stored_of_fits {entry : PluginRequest × PluginAnswer}
    (h : stored entry = entry.1.asks.filter fun asked => asked ≤ length)
    (hfits : entry.1.Fits length) : stored entry ≠ none := by
  obtain ⟨asked, hasked, hle⟩ := hfits
  have hmem : asked ∈ stored entry := by
    rw [h, Option.mem_filter_iff, decide_eq_true_iff]
    exact ⟨hasked, hle⟩
  exact Option.ne_none_iff_exists'.mpr ⟨asked, hmem⟩

end PluginRequest

section Invoke

variable (build : Build) (handler : PluginHandler) (cmd subCmd : UInt32)
  (data : RawBuffer) (initial : Nat)

def handlerRun : Outcome PluginRequest PluginAnswer (Except Error Unit)
    (Option PluginParameters) :=
  (handler cmd subCmd).run (PluginRequest.serve build)
    (some ⟨cmd, subCmd, data.bytes, some initial⟩)

variable {build handler cmd subCmd data initial}

theorem pluginInvoke_success {reply : PluginReply}
    (hreply : pluginInvoke build handler cmd subCmd data (some initial) =
      some reply)
    (hcode : reply.code = teecSuccess)
    (hok : (handlerRun build handler cmd subCmd data initial).result =
      .ok ()) :
    data.bytes.length = data.inLen ∧
      ∃ last, (handlerRun build handler cmd subCmd data initial).state =
        some last ∧ reply.outLen = last.outLen := by
  cases data with
  | null inLen =>
      simp only [pluginInvoke, PluginParameters.fromRaw, RawBuffer.isNull,
        Option.isSome_some, or_true, and_self, if_true,
        Option.some.injEq] at hreply
      subst hreply
      have hbad : (Error.new .badParameters).rawCode ≠ teecSuccess := by decide
      exact absurd hcode hbad
  | valid bytes =>
      refine ⟨rfl, ?_⟩
      rw [handlerRun] at hok ⊢
      simp only [pluginInvoke, PluginParameters.fromRaw, RawBuffer.isNull,
        Bool.false_eq_true, and_false, if_false, hok,
        Option.map_eq_some_iff] at hreply
      obtain ⟨last, hlast, rfl⟩ := hreply
      exact ⟨last, hlast, rfl⟩

end Invoke

theorem reported_length_meaningful_iff (build : Build)
    (handler : PluginHandler) (cmd subCmd : UInt32) (data : RawBuffer)
    (initial : Nat) (reply : PluginReply)
    (hlength : data.inLen < 2 ^ build.width.bits)
    (hreply : pluginInvoke build handler cmd subCmd data (some initial) =
      some reply)
    (hcode : reply.code = teecSuccess)
    (hok : (handlerRun build handler cmd subCmd data initial).result =
      .ok ()) :
    (∃ reported, reply.outLen = some reported ∧ reported ≤ data.inLen ∧
        reported = latest PluginRequest.stored 0
          (handlerRun build handler cmd subCmd data initial).transcript) ↔
      initial = 0 ∨
        ∃ entry ∈ (handlerRun build handler cmd subCmd data initial).transcript,
          entry.1.Fits data.inLen := by
  obtain ⟨hbytes, last, hlast, hlen⟩ := pluginInvoke_success hreply hcode hok
  obtain ⟨hreported, hentries⟩ :=
    PluginRequest.run_reported hlength (handler cmd subCmd) hbytes rfl hlast
  rw [hlen, hreported]
  rcases latest_cases PluginRequest.stored
    (handlerRun build handler cmd subCmd data initial).transcript
    with ⟨hnone, hlatest⟩ | ⟨entry, hentry, value, hvalue, hlatest⟩
  · have hfits : ¬ ∃ entry ∈
        (handlerRun build handler cmd subCmd data initial).transcript,
          entry.1.Fits data.inLen := fun ⟨entry, hentry, hfits⟩ =>
      PluginRequest.stored_of_fits (hentries entry hentry) hfits
        (hnone entry hentry)
    rw [or_iff_left hfits, ← handlerRun, hlatest, hlatest]
    constructor
    · rintro ⟨reported, hsome, -, rfl⟩
      exact Option.some.inj hsome
    · rintro rfl
      exact ⟨0, rfl, Nat.zero_le _, rfl⟩
  · obtain ⟨hfits, hle⟩ :=
      PluginRequest.fits_of_stored (hentries entry hentry) hvalue
    rw [← handlerRun, hlatest, hlatest]
    exact ⟨fun _ => .inr ⟨entry, hentry, hfits⟩,
      fun _ => ⟨value, rfl, hle, rfl⟩⟩

theorem reported_length_of_one_write :
    ∃ reply, pluginInvoke ⟨.aarch64, true⟩
        (fun _ _ => .ofList [.setBufFromSlice [7, 8]] (.ok ())) 0 0
        (.valid [0, 0, 0]) (some 99) = some reply ∧
      ∃ reported, reply.outLen = some reported ∧ reported ≤ 3 := by
  refine ⟨⟨teecSuccess, [7, 8, 0], some 2⟩, rfl, ?_⟩
  obtain ⟨reported, hout, hle, -⟩ := (reported_length_meaningful_iff
    ⟨.aarch64, true⟩
    (fun _ _ => .ofList [.setBufFromSlice [7, 8]] (.ok ())) 0 0
    (.valid [0, 0, 0]) 99 ⟨teecSuccess, [7, 8, 0], some 2⟩ (by decide) rfl rfl
    rfl).mpr (.inr ⟨_, List.mem_cons_self, 2, rfl, by decide⟩)
  exact ⟨reported, hout, hle⟩

theorem silent_handler_keeps_stale_length :
    pluginInvoke ⟨.aarch64, true⟩ (fun _ _ => .finish (.ok ())) 0 0
        (.valid [0, 0, 0]) (some 99) =
      some ⟨teecSuccess, [0, 0, 0], some 99⟩ ∧
    ¬ 99 ≤ (RawBuffer.valid [0, 0, 0]).inLen := by
  decide

end TrustZoneSdk.Teec
