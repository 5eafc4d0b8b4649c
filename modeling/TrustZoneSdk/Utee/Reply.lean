import TrustZoneSdk.Utee.TeeParams

/-!
# Replies of another TA

A call gives the caller four raw parameters back, and their bits are whatever
the callee left there.  The caller takes them over slot by slot and stops at
the first size that its buffer cannot hold.  No reply changes what kind of
parameter a slot has or which buffer, and no slot ever reports more than its
buffer holds; but a reply that is refused at one slot has been taken over by
the slots before it.
-/

namespace TrustZoneSdk.Utee

open TrustZoneSdk.Foundation

variable {width : PointerWidth}

/-! ## Setting parameters -/

namespace TeeParams

def new : TeeParams width := fun _ => .none

def assign (idx : ParamIndex) (content : ParamContent width)
    (self : TeeParams width) : TeeParams width :=
  Function.update self idx content

section Setters

variable (idx : ParamIndex) (buffer : ByteSlice width) (a b : BitVec 32)

def withMemrefIn : TeeParams width → TeeParams width :=
  assign idx (.memrefInput buffer)

def withMemrefOut : TeeParams width → TeeParams width :=
  assign idx (.memrefOutput buffer 0)

def withMemrefInout : TeeParams width → TeeParams width :=
  assign idx (.memrefInout buffer 0)

def withValueIn : TeeParams width → TeeParams width :=
  assign idx (.valueInput a b)

def withValueOut : TeeParams width → TeeParams width :=
  assign idx (.valueOutput a b)

def withValueInout : TeeParams width → TeeParams width :=
  assign idx (.valueInout a b)

def setMemrefIn : TeeParams width → TeeParams width :=
  assign idx (.memrefInput buffer)

def setMemrefOut : TeeParams width → TeeParams width :=
  assign idx (.memrefOutput buffer 0)

def setMemrefInout : TeeParams width → TeeParams width :=
  assign idx (.memrefInout buffer 0)

def setValueIn : TeeParams width → TeeParams width :=
  assign idx (.valueInput a b)

def setValueOut : TeeParams width → TeeParams width :=
  assign idx (.valueOutput a b)

def setValueInout : TeeParams width → TeeParams width :=
  assign idx (.valueInout a b)

end Setters

end TeeParams

inductive Setting (width : PointerWidth) where
  | memrefIn (buffer : ByteSlice width)
  | memrefOut (buffer : ByteSlice width)
  | memrefInout (buffer : ByteSlice width)
  | valueIn (a b : BitVec 32)
  | valueOut (a b : BitVec 32)
  | valueInout (a b : BitVec 32)

namespace Setting

def viaWith (idx : ParamIndex) :
    Setting width → TeeParams width → TeeParams width
  | memrefIn buffer => TeeParams.withMemrefIn idx buffer
  | memrefOut buffer => TeeParams.withMemrefOut idx buffer
  | memrefInout buffer => TeeParams.withMemrefInout idx buffer
  | valueIn a b => TeeParams.withValueIn idx a b
  | valueOut a b => TeeParams.withValueOut idx a b
  | valueInout a b => TeeParams.withValueInout idx a b

def viaSet (idx : ParamIndex) :
    Setting width → TeeParams width → TeeParams width
  | memrefIn buffer => TeeParams.setMemrefIn idx buffer
  | memrefOut buffer => TeeParams.setMemrefOut idx buffer
  | memrefInout buffer => TeeParams.setMemrefInout idx buffer
  | valueIn a b => TeeParams.setValueIn idx a b
  | valueOut a b => TeeParams.setValueOut idx a b
  | valueInout a b => TeeParams.setValueInout idx a b

def content : Setting width → ParamContent width
  | memrefIn buffer => .memrefInput buffer
  | memrefOut buffer => .memrefOutput buffer 0
  | memrefInout buffer => .memrefInout buffer 0
  | valueIn a b => .valueInput a b
  | valueOut a b => .valueOutput a b
  | valueInout a b => .valueInout a b

theorem viaWith_eq (idx : ParamIndex) (setting : Setting width) :
    setting.viaWith idx = TeeParams.assign idx setting.content := by
  cases setting <;> rfl

theorem viaSet_eq (idx : ParamIndex) (setting : Setting width) :
    setting.viaSet idx = TeeParams.assign idx setting.content := by
  cases setting <;> rfl

end Setting

/-! ## One slot and its raw parameter -/

namespace ParamContent

def buffer? : ParamContent width → Option (ByteSlice width)
  | memrefInput buffer => some buffer
  | memrefOutput buffer _ => some buffer
  | memrefInout buffer _ => some buffer
  | _ => Option.none

def writtenLength : ParamContent width → Option Nat
  | memrefOutput _ written => some written
  | memrefInout _ written => some written
  | _ => Option.none

/-- What is reported as written lies in the buffer. -/
def InBuffer (content : ParamContent width) : Prop :=
  ∀ buffer ∈ content.buffer?, ∀ written ∈ content.writtenLength,
    written ≤ buffer.length

/-- The callee reports more than the buffer of an output slot holds. -/
def Oversized (raw : RawParam width) (content : ParamContent width) : Prop :=
  ∃ buffer ∈ content.buffer?, content.writtenLength.isSome ∧
    buffer.length < raw.size

def accept (raw : RawParam width) : ParamContent width → ParamContent width
  | memrefOutput buffer _ => memrefOutput buffer raw.size
  | memrefInout buffer _ => memrefInout buffer raw.size
  | valueOutput _ _ => valueOutput raw.valueA raw.valueB
  | valueInout _ _ => valueInout raw.valueA raw.valueB
  | content => content

variable {raw : RawParam width} {content : ParamContent width}

theorem update_of_oversized (h : content.Oversized raw) :
    content.update raw = .error (Error.new .badParameters) := by
  obtain ⟨buffer, hbuffer, hwritten, hsize⟩ := h
  cases content with
  | memrefOutput own written =>
      obtain rfl : own = buffer := Option.some.inj hbuffer
      exact if_pos hsize
  | memrefInout own written =>
      obtain rfl : own = buffer := Option.some.inj hbuffer
      exact if_pos hsize
  | memrefInput own => cases hwritten
  | none => cases hbuffer
  | valueInput a b => cases hbuffer
  | valueOutput a b => cases hbuffer
  | valueInout a b => cases hbuffer

theorem update_of_fits (h : ¬ content.Oversized raw) :
    content.update raw = .ok (content.accept raw) := by
  cases content with
  | memrefOutput buffer written =>
      exact if_neg fun hsize => h ⟨buffer, rfl, rfl, hsize⟩
  | memrefInout buffer written =>
      exact if_neg fun hsize => h ⟨buffer, rfl, rfl, hsize⟩
  | memrefInput buffer => rfl
  | none => rfl
  | valueInput a b => rfl
  | valueOutput a b => rfl
  | valueInout a b => rfl

theorem getType_accept : (content.accept raw).getType = content.getType := by
  cases content <;> rfl

theorem buffer?_accept : (content.accept raw).buffer? = content.buffer? := by
  cases content <;> rfl

theorem outputValue_accept :
    (content.accept raw).outputValue =
      content.outputValue.map fun _ => (raw.valueA, raw.valueB) := by
  cases content <;> rfl

theorem writtenLength_accept :
    (content.accept raw).writtenLength =
      content.writtenLength.map fun _ => raw.size := by
  cases content <;> rfl

theorem accept_of_input (h : content.getType = .none ∨
    content.getType = .memrefInput ∨ content.getType = .valueInput) :
    content.accept raw = content := by
  cases content with
  | none => rfl
  | memrefInput buffer => rfl
  | valueInput a b => rfl
  | memrefOutput buffer written => simp [getType] at h
  | memrefInout buffer written => simp [getType] at h
  | valueOutput a b => simp [getType] at h
  | valueInout a b => simp [getType] at h

theorem inBuffer_accept (h : ¬ content.Oversized raw) :
    (content.accept raw).InBuffer := by
  intro buffer hbuffer written hwritten
  rw [buffer?_accept] at hbuffer
  rw [writtenLength_accept] at hwritten
  obtain ⟨old, hold, rfl⟩ := Option.map_eq_some_iff.mp hwritten
  by_contra hsize
  exact h ⟨buffer, hbuffer, Option.isSome_of_mem hold, by omega⟩

theorem InBuffer.writtenSlice (h : content.InBuffer) (memory : Memory) :
    ∃ slice, content.writtenSlice memory = .ok slice ∧
      slice.map List.length = content.writtenLength := by
  have hleading : ∀ (buffer : ByteSlice width) (written : Nat),
      written ≤ buffer.length →
        ∃ slice, leading memory buffer written = .ok slice ∧
          slice.map List.length = some written := by
    intro buffer written hle
    refine ⟨_, if_pos hle, ?_⟩
    simp [hle]
  cases content with
  | memrefOutput buffer written =>
      exact hleading buffer written (h buffer rfl written rfl)
  | memrefInout buffer written =>
      exact hleading buffer written (h buffer rfl written rfl)
  | none => exact ⟨_, rfl, rfl⟩
  | memrefInput buffer => exact ⟨_, rfl, rfl⟩
  | valueInput a b => exact ⟨_, rfl, rfl⟩
  | valueOutput a b => exact ⟨_, rfl, rfl⟩
  | valueInout a b => exact ⟨_, rfl, rfl⟩

end ParamContent

/-! ## All slots -/

namespace TeeParams

def takeOver (raws : ParamIndex → RawParam width) (slots : List ParamIndex)
    (params : TeeParams width) : TeeParams width := fun i =>
  if i ∈ slots then (params i).accept (raws i) else params i

inductive TakenOver (raws : ParamIndex → RawParam width)
    (params : TeeParams width) (slots : List ParamIndex) :
    Except Error Unit × TeeParams width → Prop
  | whole (hfits : ∀ i ∈ slots, ¬ (params i).Oversized (raws i)) :
      TakenOver raws params slots (.ok (), params.takeOver raws slots)
  | upTo {before after : List ParamIndex} {bad : ParamIndex}
      (hslots : slots = before ++ bad :: after)
      (hfits : ∀ i ∈ before, ¬ (params i).Oversized (raws i))
      (hbad : (params bad).Oversized (raws bad)) :
      TakenOver raws params slots
        (.error (Error.new .badParameters), params.takeOver raws before)

section FirstSlot

variable {raws : ParamIndex → RawParam width} {params : TeeParams width}
  {i : ParamIndex}

theorem takeOver_update {slots : List ParamIndex} (hfresh : i ∉ slots) :
    takeOver raws slots
        (Function.update params i ((params i).accept (raws i))) =
      params.takeOver raws (i :: slots) := by
  funext j
  by_cases heq : j = i
  · subst heq
    simp [takeOver, hfresh]
  · simp [takeOver, heq]

theorem fits_cons {slots : List ParamIndex} {content : ParamContent width}
    (hfresh : i ∉ slots) (hfirst : ¬ (params i).Oversized (raws i))
    (h : ∀ j ∈ slots, ¬ (Function.update params i content j).Oversized
      (raws j)) :
    ∀ j ∈ i :: slots, ¬ (params j).Oversized (raws j) := by
  intro j hj
  cases hj with
  | head => exact hfirst
  | tail _ hj =>
      have hne : j ≠ i := fun heq => hfresh (heq ▸ hj)
      simpa only [Function.update_of_ne hne] using h j hj

theorem TakenOver.cons {rest : List ParamIndex}
    {returned : Except Error Unit × TeeParams width} (hfresh : i ∉ rest)
    (hfirst : ¬ (params i).Oversized (raws i))
    (h : TakenOver raws
      (Function.update params i ((params i).accept (raws i))) rest returned) :
    TakenOver raws params (i :: rest) returned := by
  cases h with
  | whole hfits =>
      rw [takeOver_update hfresh]
      exact .whole (fits_cons hfresh hfirst hfits)
  | @upTo before after bad hslots hfits hbad =>
      have hne : bad ≠ i := by
        rintro rfl
        exact hfresh (by simp [hslots])
      have hbefore : i ∉ before := fun hmem => hfresh (by simp [hslots, hmem])
      rw [takeOver_update hbefore]
      rw [Function.update_of_ne hne] at hbad
      exact .upTo (by rw [hslots, List.cons_append])
        (fits_cons hbefore hfirst hfits) hbad

end FirstSlot

theorem updateSlots_takenOver (raws : ParamIndex → RawParam width)
    {slots : List ParamIndex} (hslots : slots.Nodup)
    (params : TeeParams width) :
    TakenOver raws params slots (updateSlots raws slots params) := by
  induction slots generalizing params with
  | nil => exact .whole (by simp)
  | cons i rest ih =>
      obtain ⟨hfresh, hrest⟩ := List.nodup_cons.mp hslots
      by_cases hbad : (params i).Oversized (raws i)
      · rw [updateSlots, ParamContent.update_of_oversized hbad]
        exact .upTo (List.nil_append _).symm (by simp) hbad
      · rw [updateSlots, ParamContent.update_of_fits hbad]
        exact .cons hfresh hbad (ih hrest _)

theorem updateFromRaw_takenOver (raws : ParamIndex → RawParam width)
    (params : TeeParams width) :
    TakenOver raws params ArgIndex.all (params.updateFromRaw raws) :=
  updateSlots_takenOver raws ArgIndex.nodup_all params

theorem updateFromRaw_error_iff (raws : ParamIndex → RawParam width)
    (params : TeeParams width) (error : Error) :
    (params.updateFromRaw raws).1 = .error error ↔
      error = Error.new .badParameters ∧
        ∃ i, (params i).Oversized (raws i) := by
  have h := params.updateFromRaw_takenOver raws
  generalize params.updateFromRaw raws = returned at h
  cases h with
  | whole hfits =>
      have hnone : ¬ ∃ i, (params i).Oversized (raws i) := fun ⟨i, hi⟩ =>
        hfits i (ArgIndex.mem_all i) hi
      simp [hnone]
  | @upTo before after bad hslots hfits hbad =>
      simp only [Except.error.injEq]
      exact ⟨fun heq => ⟨heq.symm, bad, hbad⟩, fun heq => heq.1.symm⟩

/-- What a call leaves in one slot. -/
inductive SlotKept (content : ParamContent width) :
    ParamContent width → Prop
  | same : SlotKept content content
  | accepted (raw : RawParam width) (hfits : ¬ content.Oversized raw) :
      SlotKept content (content.accept raw)

theorem updateFromRaw_slotKept (raws : ParamIndex → RawParam width)
    (params : TeeParams width) (i : ParamIndex) :
    SlotKept (params i) ((params.updateFromRaw raws).2 i) := by
  have htakeOver : ∀ slots : List ParamIndex,
      (∀ j ∈ slots, ¬ (params j).Oversized (raws j)) →
        SlotKept (params i) (params.takeOver raws slots i) := by
    intro slots hfits
    by_cases hi : i ∈ slots
    · simpa only [takeOver, if_pos hi] using .accepted (raws i) (hfits i hi)
    · simpa only [takeOver, if_neg hi] using .same
  have h := params.updateFromRaw_takenOver raws
  generalize params.updateFromRaw raws = returned at h
  cases h with
  | whole hfits => exact htakeOver _ hfits
  | upTo hslots hfits hbad => exact htakeOver _ hfits

end TeeParams

open TeeParams (SlotKept)

section Call

variable (teeInvoke : TeeInvoke width) (uninit : ParamIndex → RawParam width)
  (commandId : UInt32) (params : TeeParams width) (timeout : UInt32)
  (memory : Memory)

def callReply : (TeeResult × UInt32) × CallState width :=
  teeInvoke timeout commandId params.rawParamTypes
    ⟨params.asRaw uninit, memory⟩

theorem invokeCommandWithTimeout_eq :
    invokeCommandWithTimeout teeInvoke uninit commandId params timeout memory =
      let reply := callReply teeInvoke uninit commandId params timeout memory
      match teeCheckWithOrigin reply.1.1 reply.1.2 with
      | .error error => (.error error, params, reply.2.memory)
      | .ok () =>
          ((params.updateFromRaw reply.2.raws).1,
            (params.updateFromRaw reply.2.raws).2, reply.2.memory) :=
  rfl

theorem invokeCommand_slotKept (i : ParamIndex) :
    SlotKept (params i) ((invokeCommandWithTimeout teeInvoke uninit commandId
      params timeout memory).2.1 i) := by
  rw [invokeCommandWithTimeout_eq]
  dsimp only
  split
  · exact .same
  · exact params.updateFromRaw_slotKept _ i

theorem invokeCommand_error {error : Error}
    (h : (invokeCommandWithTimeout teeInvoke uninit commandId params timeout
      memory).1 = .error error) :
    let reply := callReply teeInvoke uninit commandId params timeout memory
    let after := (invokeCommandWithTimeout teeInvoke uninit commandId params
      timeout memory).2.1
    (teeCheckWithOrigin reply.1.1 reply.1.2 = .error error ∧
      after = params) ∨
    params.updateFromRaw reply.2.raws = (.error error, after) := by
  intro reply after
  have heq := invokeCommandWithTimeout_eq teeInvoke uninit commandId params
    timeout memory
  cases hcheck : teeCheckWithOrigin reply.1.1 reply.1.2 with
  | error refused =>
      left
      simp only [reply] at hcheck
      simp only [hcheck] at heq
      rw [heq] at h
      exact ⟨congrArg _ (Except.error.inj h), congrArg (·.2.1) heq⟩
  | ok done =>
      right
      simp only [reply] at hcheck
      simp only [hcheck] at heq
      rw [heq] at h
      exact Prod.ext h (congrArg (·.2.1) heq).symm

end Call

namespace TeeParams.SlotKept

variable {content kept : ParamContent width}

theorem getType_eq (h : SlotKept content kept) :
    kept.getType = content.getType := by
  cases h with
  | same => rfl
  | accepted raw hfits => exact ParamContent.getType_accept

theorem buffer?_eq (h : SlotKept content kept) :
    kept.buffer? = content.buffer? := by
  cases h with
  | same => rfl
  | accepted raw hfits => exact ParamContent.buffer?_accept

theorem inBuffer (h : SlotKept content kept) (hin : content.InBuffer) :
    kept.InBuffer := by
  cases h with
  | same => exact hin
  | accepted raw hfits => exact ParamContent.inBuffer_accept hfits

theorem eq_of_input (h : SlotKept content kept)
    (hinput : content.getType = .none ∨ content.getType = .memrefInput ∨
      content.getType = .valueInput) : kept = content := by
  cases h with
  | same => rfl
  | accepted raw hfits => exact ParamContent.accept_of_input hinput

end TeeParams.SlotKept

/-! ## Runs -/

/--
What a TA does with its parameters.  A call is with a TEE of its own, so that
its code and what it leaves in the raw parameters are arbitrary.
-/
inductive ParamsStep (width : PointerWidth) where
  | viaWith (idx : ParamIndex) (setting : Setting width)
  | viaSet (idx : ParamIndex) (setting : Setting width)
  | call (teeInvoke : TeeInvoke width) (uninit : ParamIndex → RawParam width)
      (commandId timeout : UInt32) (memory : Memory)

namespace ParamsStep

def exec : ParamsStep width → TeeParams width → TeeParams width
  | viaWith idx setting, params => setting.viaWith idx params
  | viaSet idx setting, params => setting.viaSet idx params
  | call teeInvoke uninit commandId timeout memory, params =>
      (invokeCommandWithTimeout teeInvoke uninit commandId params timeout
        memory).2.1

def target : ParamsStep width → Option ParamIndex
  | viaWith idx _ => some idx
  | viaSet idx _ => some idx
  | call _ _ _ _ _ => none

def run (steps : List (ParamsStep width)) (params : TeeParams width) :
    TeeParams width :=
  steps.foldl (fun params step => step.exec params) params

theorem content_inBuffer (setting : Setting width) :
    setting.content.InBuffer := by
  intro buffer hbuffer written hwritten
  cases setting with
  | memrefOut own =>
      obtain rfl : 0 = written := Option.some.inj hwritten
      exact Nat.zero_le _
  | memrefInout own =>
      obtain rfl : 0 = written := Option.some.inj hwritten
      exact Nat.zero_le _
  | memrefIn own => cases hwritten
  | valueIn a b => cases hwritten
  | valueOut a b => cases hwritten
  | valueInout a b => cases hwritten

theorem exec_of_target {step : ParamsStep width} {params : TeeParams width}
    {i : ParamIndex} (h : step.target = some i) :
    ∃ setting : Setting width, step.exec params i = setting.content := by
  cases step with
  | viaWith idx setting =>
      obtain rfl : idx = i := Option.some.inj h
      exact ⟨setting, by simp [exec, Setting.viaWith_eq, TeeParams.assign]⟩
  | viaSet idx setting =>
      obtain rfl : idx = i := Option.some.inj h
      exact ⟨setting, by simp [exec, Setting.viaSet_eq, TeeParams.assign]⟩
  | call teeInvoke uninit commandId timeout memory => cases h

theorem exec_slotKept {step : ParamsStep width} (params : TeeParams width)
    {i : ParamIndex} (h : step.target ≠ some i) :
    SlotKept (params i) (step.exec params i) := by
  have hassign : ∀ (idx : ParamIndex) (setting : Setting width),
      some idx ≠ some i →
        SlotKept (params i) (TeeParams.assign idx setting.content params i) :=
    fun idx setting hne => by
      rw [TeeParams.assign,
        Function.update_of_ne fun heq => hne (congrArg some heq.symm)]
      exact .same
  cases step with
  | viaWith idx setting =>
      simpa only [exec, Setting.viaWith_eq] using hassign idx setting h
  | viaSet idx setting =>
      simpa only [exec, Setting.viaSet_eq] using hassign idx setting h
  | call teeInvoke uninit commandId timeout memory =>
      exact invokeCommand_slotKept teeInvoke uninit commandId params timeout
        memory i

theorem exec_inBuffer (step : ParamsStep width) {params : TeeParams width}
    (h : ∀ i, (params i).InBuffer) (i : ParamIndex) :
    (step.exec params i).InBuffer := by
  by_cases htarget : step.target = some i
  · obtain ⟨setting, hsetting⟩ := exec_of_target htarget
    rw [hsetting]
    exact content_inBuffer setting
  · exact (exec_slotKept params htarget).inBuffer (h i)

theorem run_inBuffer (steps : List (ParamsStep width))
    {params : TeeParams width} (h : ∀ i, (params i).InBuffer) :
    ∀ i, (run steps params i).InBuffer := by
  induction steps generalizing params with
  | nil => exact h
  | cons step rest ih => exact ih (step.exec_inBuffer h)

end ParamsStep

theorem params_keep_well_formed (steps : List (ParamsStep width)) :
    let params := ParamsStep.run steps TeeParams.new
    (∀ i, (params i).InBuffer ∧
      ∀ memory, ∃ slice, (params i).writtenSlice memory = .ok slice ∧
        slice.map List.length = (params i).writtenLength) ∧
    (∀ (step : ParamsStep width) i, step.target ≠ some i →
      (step.exec params i).getType = (params i).getType ∧
        (step.exec params i).buffer? = (params i).buffer?) ∧
    (∀ raws, ((params.updateFromRaw raws).1 =
          .error (Error.new .badParameters) ↔
        ∃ i, (params i).Oversized (raws i)) ∧
      (params.updateFromRaw raws).1 ≠ .error (Error.new .badFormat)) ∧
    ∀ (step : ParamsStep width) i, step.target = none →
      ((params i).getType = .none ∨ (params i).getType = .memrefInput ∨
        (params i).getType = .valueInput) →
      step.exec params i = params i := by
  intro params
  have hnew : ∀ i, ((TeeParams.new : TeeParams width) i).InBuffer := nofun
  refine ⟨fun i => ?_, fun step i htarget => ?_, fun raws => ⟨?_, ?_⟩,
    fun step i htarget hinput => ?_⟩
  · have hin := ParamsStep.run_inBuffer steps hnew i
    exact ⟨hin, hin.writtenSlice⟩
  · have hkept := ParamsStep.exec_slotKept params htarget
    exact ⟨hkept.getType_eq, hkept.buffer?_eq⟩
  · simp [TeeParams.updateFromRaw_error_iff]
  · rw [Ne, TeeParams.updateFromRaw_error_iff]
    rintro ⟨herror, -⟩
    cases herror
  · have hnone : step.target ≠ some i := by simp [htarget]
    exact (ParamsStep.exec_slotKept params hnone).eq_of_input hinput

/-! ## A refused reply -/

theorem mem_before_iff {before after : List ParamIndex} {bad : ParamIndex}
    (h : ArgIndex.all = before ++ bad :: after) (i : ParamIndex) :
    i ∈ before ↔ i.toNat < bad.toNat := by
  have hsorted : ArgIndex.all.Pairwise fun i j => i.toNat < j.toNat := by
    decide
  rw [h, List.pairwise_append, List.pairwise_cons] at hsorted
  obtain ⟨-, ⟨hafter, -⟩, hbefore⟩ := hsorted
  refine ⟨fun hi => hbefore i hi bad List.mem_cons_self, fun hlt => ?_⟩
  have hmem := ArgIndex.mem_all i
  rw [h] at hmem
  rcases List.mem_append.mp hmem with hi | hi
  · exact hi
  · rcases List.mem_cons.mp hi with rfl | hi
    · omega
    · have := hafter i hi
      omega

theorem TeeParams.updateFromRaw_error {raws : ParamIndex → RawParam width}
    {params after : TeeParams width} {error : Error}
    (h : params.updateFromRaw raws = (.error error, after)) :
    error = Error.new .badParameters ∧
      ∃ bad, (params bad).Oversized (raws bad) ∧
        (∀ i, bad.toNat ≤ i.toNat → after i = params i) ∧
        ∀ i, i.toNat < bad.toNat → ¬ (params i).Oversized (raws i) ∧
          after i = (params i).accept (raws i) := by
  have htaken := params.updateFromRaw_takenOver raws
  rw [h] at htaken
  cases htaken with
  | @upTo before rest bad hslots hfits hbad =>
      have hbefore := mem_before_iff hslots
      refine ⟨rfl, bad, hbad, fun i hi => ?_, fun i hi => ?_⟩
      · exact if_neg fun hmem => by have := (hbefore i).mp hmem; omega
      · have hmem := (hbefore i).mpr hi
        exact ⟨hfits i hmem, if_pos hmem⟩

theorem refused_reply_taken_over_before_oversized
    (teeInvoke : TeeInvoke width) (uninit : ParamIndex → RawParam width)
    (commandId : UInt32) (params : TeeParams width) (timeout : UInt32)
    (memory : Memory) (error : Error)
    (h : (invokeCommandWithTimeout teeInvoke uninit commandId params timeout
      memory).1 = .error error) :
    let reply := callReply teeInvoke uninit commandId params timeout memory
    let after := (invokeCommandWithTimeout teeInvoke uninit commandId params
      timeout memory).2.1
    (teeCheckWithOrigin reply.1.1 reply.1.2 = .error error ∧
      ∀ i, (after i).outputValue = (params i).outputValue ∧
        (after i).writtenLength = (params i).writtenLength) ∨
    (error = Error.new .badParameters ∧
      ∃ bad, (params bad).Oversized (reply.2.raws bad) ∧
        (∀ i, bad.toNat ≤ i.toNat →
          (after i).outputValue = (params i).outputValue ∧
            (after i).writtenLength = (params i).writtenLength) ∧
        ∀ i, i.toNat < bad.toNat →
          ¬ (params i).Oversized (reply.2.raws i) ∧
          (after i).outputValue = (params i).outputValue.map (fun _ =>
            ((reply.2.raws i).valueA, (reply.2.raws i).valueB)) ∧
          (after i).writtenLength = (params i).writtenLength.map fun _ =>
            (reply.2.raws i).size) := by
  intro reply after
  rcases invokeCommand_error teeInvoke uninit commandId params timeout memory h
    with ⟨hcheck, hafter⟩ | hupdate
  · refine .inl ⟨hcheck, fun i => ?_⟩
    simp only [after, hafter, and_self]
  · right
    obtain ⟨herror, bad, hbad, hlater, hbefore⟩ :=
      TeeParams.updateFromRaw_error hupdate
    refine ⟨herror, bad, hbad, fun i hi => ?_, fun i hi => ?_⟩
    · simp only [after, hlater i hi, and_self]
    · obtain ⟨hfits, haccept⟩ := hbefore i hi
      refine ⟨hfits, ?_, ?_⟩
      · simp only [after, haccept, ParamContent.outputValue_accept, reply]
      · simp only [after, haccept, ParamContent.writtenLength_accept, reply]

def replyParams : TeeParams .aarch64 :=
  (TeeParams.new.withValueOut .arg0 0 0).withMemrefOut .arg1
    ⟨0x5000, 6, by decide, by decide, by decide⟩

def oversizedReply : TeeInvoke .aarch64 := fun _ _ _ state =>
  ((teeSuccess, 4), { state with
    raws := ArgIndex.tuple (.ofValue ⟨0⟩ 7 8) (.ofMemref _ 0x5000 7)
      (state.raws .arg2) (state.raws .arg3) })

theorem oversizedReply_refused_at_slot :
    (invokeCommandWithTimeout oversizedReply (fun _ => ⟨0⟩) 0 replyParams 0
        ⟨fun _ => 0, []⟩).1 = .error (Error.new .badParameters) ∧
      ∃ bad : ParamIndex, (replyParams bad).Oversized
        ((callReply oversizedReply (fun _ => ⟨0⟩) 0 replyParams 0
          ⟨fun _ => 0, []⟩).2.raws bad) := by
  have hrefused : (invokeCommandWithTimeout oversizedReply (fun _ => ⟨0⟩) 0
      replyParams 0 ⟨fun _ => 0, []⟩).1 =
        .error (Error.new .badParameters) := by decide
  refine ⟨hrefused, ?_⟩
  rcases refused_reply_taken_over_before_oversized oversizedReply
    (fun _ => ⟨0⟩) 0 replyParams 0 ⟨fun _ => 0, []⟩ _ hrefused
    with ⟨hcheck, -⟩ | ⟨-, bad, hbad, -⟩
  · exact absurd hcheck (by decide)
  · exact ⟨bad, hbad⟩

theorem refused_reply_changes_earlier_slot :
    let returned := invokeCommandWithTimeout oversizedReply (fun _ => ⟨0⟩) 0
      replyParams 0 ⟨fun _ => 0, []⟩
    returned.1 = .error (Error.new .badParameters) ∧
      (replyParams .arg0).outputValue = some (0, 0) ∧
      (returned.2.1 .arg0).outputValue = some (7, 8) := by
  decide

end TrustZoneSdk.Utee
