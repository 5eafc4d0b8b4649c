import TrustZoneSdk.Foundation.ByteMemory
import TrustZoneSdk.Foundation.Dialogue
import TrustZoneSdk.Teec.Error

/-!
# Plugins of the supplicant

The supplicant calls a plugin with one buffer, which carries the request in
and the response out, and with a place for the length of the response.
`PluginParameters` wraps the three, and the generated entry point hands them
to the handler and flattens its result to a code.
-/

namespace TrustZoneSdk.Teec

open TrustZoneSdk.Foundation

/-- How the plugin was compiled. -/
structure Build where
  width : PointerWidth
  overflowChecks : Bool

def Build.add (build : Build) (first second : Nat) : Option Nat :=
  if first + second < 2 ^ build.width.bits then some (first + second)
  else if build.overflowChecks then none
  else some ((first + second) % 2 ^ build.width.bits)

/-- A buffer pointer with its length; a pointer that is not null is valid. -/
inductive RawBuffer where
  | null (inLen : Nat)
  | valid (bytes : List UInt8)
  deriving DecidableEq, Repr

namespace RawBuffer

def isNull : RawBuffer → Bool
  | null _ => true
  | valid _ => false

def inLen : RawBuffer → Nat
  | null inLen => inLen
  | valid bytes => bytes.length

def bytes : RawBuffer → List UInt8
  | null _ => []
  | valid bytes => bytes

end RawBuffer

structure PluginParameters where
  cmd : UInt32
  subCmd : UInt32
  buf : List UInt8
  outLen : Option Nat
  deriving DecidableEq, Repr

namespace PluginParameters

def fromRaw (cmd subCmd : UInt32) (buf : RawBuffer) (outLen : Option Nat) :
    Except Error PluginParameters :=
  if (buf.inLen ≠ 0 ∨ outLen.isSome) ∧ buf.isNull then
    .error (Error.new .badParameters)
  else
    .ok ⟨cmd, subCmd, buf.bytes, outLen⟩

/--
`write_output_at`; none when it panics.  An end that has wrapped lies before
`pos`, where slicing panics.
-/
def writeOutputAt (build : Build) (pos : Nat) (data : List UInt8)
    (self : PluginParameters) :
    Option (Except Error Unit × PluginParameters) :=
  match self.outLen with
  | some _ => do
      let destLen ← build.add pos data.length
      if self.buf.length < destLen then
        some (.error (Error.new .shortBuffer), self)
      else if destLen ≠ pos + data.length then
        none
      else
        some (.ok (), { self with
          buf := overlay self.buf pos data
          outLen := some destLen })
  | none => some (.error (Error.new .badState), self)

def setBufFromSlice (build : Build) (sendslice : List UInt8)
    (self : PluginParameters) :
    Option (Except Error Unit × PluginParameters) :=
  self.writeOutputAt build 0 sendslice

def setOutLen (outLen : Nat) (self : PluginParameters) :
    Except Error Unit × PluginParameters :=
  if self.buf.length < outLen then (.error (Error.new .badParameters), self)
  else
    match self.outLen with
    | some _ => (.ok (), { self with outLen := some outLen })
    | none => (.error (Error.new .badState), self)

end PluginParameters

/-! ## Handlers -/

inductive PluginRequest where
  | getBuffer
  | setBufFromSlice (sendslice : List UInt8)
  | writeOutputAt (pos : Nat) (data : List UInt8)
  | setOutLen (outLen : Nat)
  /-- One byte written through `get_buffer_mut`. -/
  | writeByte (index : Nat) (byte : UInt8)
  deriving DecidableEq, Repr

inductive PluginAnswer where
  | bytes (bytes : List UInt8)
  | result (result : Except Error Unit)
  | done
  | panicked

namespace PluginRequest

def isOutput : PluginRequest → Bool
  | getBuffer => false
  | _ => true

def perform (build : Build) (self : PluginParameters) :
    PluginRequest → Option (PluginAnswer × PluginParameters)
  | getBuffer => some (.bytes self.buf, self)
  | setBufFromSlice sendslice => do
      let (result, self) ← self.setBufFromSlice build sendslice
      return (.result result, self)
  | writeOutputAt pos data => do
      let (result, self) ← self.writeOutputAt build pos data
      return (.result result, self)
  | setOutLen outLen =>
      let (result, self) := self.setOutLen outLen
      some (.result result, self)
  | writeByte index byte =>
      if index < self.buf.length then
        some (.done, { self with buf := self.buf.set index byte })
      else none

def serve (build : Build) (request : PluginRequest)
    (state : Option PluginParameters) :
    PluginAnswer × Option PluginParameters :=
  match state.bind fun self => request.perform build self with
  | some (answer, self) => (answer, some self)
  | none => (.panicked, none)

end PluginRequest

/--
What a handler computes between its calls is in how the next call depends on
the answers so far.
-/
abbrev PluginHandler :=
  UInt32 → UInt32 →
    Dialogue PluginRequest PluginAnswer (Except Error Unit)

structure PluginReply where
  code : TeecResult
  buf : List UInt8
  outLen : Option Nat
  deriving DecidableEq, Repr

def pluginInvoke (build : Build) (handler : PluginHandler)
    (cmd subCmd : UInt32) (data : RawBuffer) (outLen : Option Nat) :
    Option PluginReply :=
  match PluginParameters.fromRaw cmd subCmd data outLen with
  | .error error => some ⟨error.rawCode, data.bytes, outLen⟩
  | .ok parameter =>
      let outcome := (handler cmd subCmd).run
        (PluginRequest.serve build) (some parameter)
      outcome.state.map fun parameter =>
        match outcome.result with
        | .ok () => ⟨teecSuccess, parameter.buf, parameter.outLen⟩
        | .error error => ⟨error.rawCode, parameter.buf, parameter.outLen⟩

/-! ## What one write does -/

theorem Build.wrapped_ne {build : Build} {first second : Nat}
    (h : ¬ first + second < 2 ^ build.width.bits) :
    (first + second) % 2 ^ build.width.bits ≠ first + second := by
  have := Nat.mod_lt (first + second) (Nat.two_pow_pos build.width.bits)
  omega

namespace PluginParameters

variable {build : Build} {self : PluginParameters} {outLen pos : Nat}
  {data : List UInt8}

theorem writeOutputAt_of_fits (hout : self.outLen = some outLen)
    (hsum : pos + data.length < 2 ^ build.width.bits)
    (hfits : pos + data.length ≤ self.buf.length) :
    self.writeOutputAt build pos data =
      some (.ok (), { self with
        buf := overlay self.buf pos data
        outLen := some (pos + data.length) }) := by
  have hroom : ¬ self.buf.length < pos + data.length := by omega
  simp [writeOutputAt, hout, Build.add, hsum, hroom]

theorem writeOutputAt_of_short (hout : self.outLen = some outLen)
    (hsum : pos + data.length < 2 ^ build.width.bits)
    (hshort : self.buf.length < pos + data.length) :
    self.writeOutputAt build pos data =
      some (.error (Error.new .shortBuffer), self) := by
  simp [writeOutputAt, hout, Build.add, hsum, hshort]

theorem writeOutputAt_of_overflow (hout : self.outLen = some outLen)
    (hsum : ¬ pos + data.length < 2 ^ build.width.bits) :
    self.writeOutputAt build pos data =
      if build.overflowChecks = false ∧
          self.buf.length < (pos + data.length) % 2 ^ build.width.bits then
        some (.error (Error.new .shortBuffer), self)
      else none := by
  cases hchecks : build.overflowChecks with
  | true => simp [writeOutputAt, hout, Build.add, hsum, hchecks]
  | false =>
      simp [writeOutputAt, hout, Build.add, hsum, hchecks,
        Build.wrapped_ne hsum]

theorem writeOutputAt_refused {result : Except Error Unit}
    {next : PluginParameters} (hout : self.outLen = some outLen)
    (hshort : self.buf.length < pos + data.length)
    (h : self.writeOutputAt build pos data = some (result, next)) :
    result = .error (Error.new .shortBuffer) ∧ next = self := by
  by_cases hsum : pos + data.length < 2 ^ build.width.bits
  · rw [writeOutputAt_of_short hout hsum hshort] at h
    obtain ⟨rfl, rfl⟩ := Prod.mk.inj (Option.some.inj h)
    exact ⟨rfl, rfl⟩
  · rw [writeOutputAt_of_overflow hout hsum] at h
    split_ifs at h
    obtain ⟨rfl, rfl⟩ := Prod.mk.inj (Option.some.inj h)
    exact ⟨rfl, rfl⟩

end PluginParameters

/-! ## What the calls keep -/

/-- Parameters that take an answer in a buffer of the given length. -/
structure PluginParameters.Writable (parameters : PluginParameters)
    (length : Nat) : Prop where
  length_buf : parameters.buf.length = length
  outLen : ∃ outLen, parameters.outLen = some outLen

namespace PluginRequest

variable {build : Build} {length : Nat} {state : Option PluginParameters}
  {self next : PluginParameters} {answer : PluginAnswer}

theorem writeOutputAt_writable {pos : Nat} {data : List UInt8}
    {result : Except Error Unit} (hself : self.Writable length)
    (h : self.writeOutputAt build pos data = some (result, next)) :
    next.Writable length := by
  obtain ⟨hlength, outLen, hout⟩ := hself
  simp only [PluginParameters.writeOutputAt, hout, Option.bind_eq_bind,
    Option.bind_eq_some_iff] at h
  obtain ⟨destLen, -, h⟩ := h
  split_ifs at h with hshort hwrapped
  · obtain ⟨-, rfl⟩ := Prod.mk.inj (Option.some.inj h)
    exact ⟨hlength, outLen, hout⟩
  · obtain ⟨-, rfl⟩ := Prod.mk.inj (Option.some.inj h)
    have hend : destLen = pos + data.length := not_not.mp hwrapped
    refine ⟨?_, destLen, rfl⟩
    rw [← hlength]
    exact length_overlay (by omega)

theorem perform_writable {request : PluginRequest}
    (hself : self.Writable length)
    (h : request.perform build self = some (answer, next)) :
    next.Writable length := by
  obtain ⟨hlength, outLen, hout⟩ := hself
  cases request with
  | getBuffer =>
      obtain ⟨-, rfl⟩ := Prod.mk.inj (Option.some.inj h)
      exact ⟨hlength, outLen, hout⟩
  | setBufFromSlice sendslice =>
      obtain ⟨⟨result, after⟩, hwrite, hsome⟩ := Option.bind_eq_some_iff.mp h
      obtain ⟨-, rfl⟩ := Prod.mk.inj (Option.some.inj hsome)
      exact writeOutputAt_writable ⟨hlength, outLen, hout⟩ hwrite
  | writeOutputAt pos data =>
      obtain ⟨⟨result, after⟩, hwrite, hsome⟩ := Option.bind_eq_some_iff.mp h
      obtain ⟨-, rfl⟩ := Prod.mk.inj (Option.some.inj hsome)
      exact writeOutputAt_writable ⟨hlength, outLen, hout⟩ hwrite
  | setOutLen newLen =>
      simp only [perform, Option.some.injEq, Prod.mk.injEq] at h
      obtain ⟨-, rfl⟩ := h
      rw [PluginParameters.setOutLen]
      split_ifs
      · exact ⟨hlength, outLen, hout⟩
      · rw [hout]
        exact ⟨hlength, newLen, rfl⟩
  | writeByte index byte =>
      rw [perform] at h
      split_ifs at h
      obtain ⟨-, rfl⟩ := Prod.mk.inj (Option.some.inj h)
      exact ⟨by simpa using hlength, outLen, hout⟩

theorem serve_writable (request : PluginRequest)
    (h : ∀ self ∈ state, self.Writable length) :
    ∀ self ∈ (request.serve build state).2, self.Writable length := by
  -- A plugin that has not panicked may still answer.
  rw [serve]
  cases hperform : state.bind fun self => request.perform build self with
  | none => simp
  | some reply =>
      obtain ⟨self, hself, hreply⟩ := Option.bind_eq_some_iff.mp hperform
      intro next hnext
      obtain rfl := Option.some.inj hnext
      exact perform_writable (h self hself) hreply

theorem serve_getBuffer : (getBuffer.serve build state).2 = state := by
  cases state <;> rfl

theorem serve_setBuf_fits {resp : List UInt8} (hself : self.Writable length)
    (hfits : resp.length ≤ length)
    (hlength : length < 2 ^ build.width.bits) :
    (setBufFromSlice resp).serve build (some self) =
      (.result (.ok ()), some { self with
        buf := overlay self.buf 0 resp
        outLen := some resp.length }) := by
  obtain ⟨hbuf, outLen, hout⟩ := hself
  have hwrite : self.writeOutputAt build 0 resp = _ :=
    PluginParameters.writeOutputAt_of_fits hout (by omega) (by omega)
  rw [Nat.zero_add] at hwrite
  simp [serve, perform, PluginParameters.setBufFromSlice, hwrite]

theorem serve_setBuf_short {resp : List UInt8} {result : Except Error Unit}
    (hself : self.Writable length) (hshort : length < resp.length)
    (h : ((setBufFromSlice resp).serve build (some self)).1 =
      .result result) :
    result = .error (Error.new .shortBuffer) ∧
      ((setBufFromSlice resp).serve build (some self)).2 = some self := by
  obtain ⟨hbuf, outLen, hout⟩ := hself
  cases hwrite : self.writeOutputAt build 0 resp with
  | none =>
      simp [serve, perform, PluginParameters.setBufFromSlice, hwrite] at h
  | some reply =>
      obtain ⟨returned, after⟩ := reply
      obtain ⟨rfl, rfl⟩ :=
        PluginParameters.writeOutputAt_refused hout (by omega) hwrite
      simp [serve, perform, PluginParameters.setBufFromSlice, hwrite] at h ⊢
      exact h.symm

end PluginRequest

end TrustZoneSdk.Teec
