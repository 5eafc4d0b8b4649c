import TrustZoneSdk.Foundation.ByteMemory
import TrustZoneSdk.Utee.Error

/-!
# Output buffers of the crypto and object wrappers

Many functions of the TEE fill a buffer of the caller.  They get the address
of the buffer and a variable with its size, and leave the length of the
result in the variable.  A wrapper takes a slice and has to set the variable
to the length of the slice before it calls.
-/

namespace TrustZoneSdk.Utee

open TrustZoneSdk.Foundation

inductive FillRequest where
  | digestDoFinal (operation : Nat) (chunk : List UInt8)
  | cipherUpdate (operation : Nat) (src : List UInt8)
  | cipherDoFinal (operation : Nat) (src : List UInt8)
  | macComputeFinal (operation : Nat) (message : List UInt8)
  | aeUpdate (operation : Nat) (src : List UInt8)
  | aeDecryptFinal (operation : Nat) (src tag : List UInt8)
  | getOperationInfoMultiple (operation : Nat)
  | getObjectBufferAttribute (object : Nat) (id : UInt32)
  deriving DecidableEq, Repr

structure Filled where
  size : Nat
  bytes : List UInt8
  deriving DecidableEq, Repr

/-- The TEE gets the sizes, not the slices. -/
structure OutputTee (State : Type) where
  fill : FillRequest → Nat → State → (TeeResult × Filled) × State
  aeEncryptFinal : Nat → List UInt8 → Nat → Nat → State →
    (TeeResult × Filled × Filled) × State

section Wrappers

variable {State : Type} (tee : OutputTee State)

/-- A call with a size for a slice; gives what the slice's memory holds. -/
def fillSlice (request : FillRequest) (size : Nat) (slice : List UInt8)
    (state : State) : (Except Error Nat × List UInt8) × State :=
  let ((code, filled), state) := tee.fill request size state
  (((teeCheck code).map fun _ => filled.size, overlay slice 0 filled.bytes),
    state)

def Digest.doFinal (operation : Nat) (chunk hash : List UInt8) :
    State → (Except Error Nat × List UInt8) × State :=
  fillSlice tee (.digestDoFinal operation chunk) hash.length hash

def Cipher.update (operation : Nat) (src dest : List UInt8) :
    State → (Except Error Nat × List UInt8) × State :=
  fillSlice tee (.cipherUpdate operation src) dest.length dest

def Cipher.doFinal (operation : Nat) (src dest : List UInt8) :
    State → (Except Error Nat × List UInt8) × State :=
  fillSlice tee (.cipherDoFinal operation src) dest.length dest

def Mac.computeFinal (operation : Nat) (message mac : List UInt8) :
    State → (Except Error Nat × List UInt8) × State :=
  fillSlice tee (.macComputeFinal operation message) mac.length mac

def AE.update (operation : Nat) (src dest : List UInt8) :
    State → (Except Error Nat × List UInt8) × State :=
  fillSlice tee (.aeUpdate operation src) dest.length dest

def AE.decryptFinal (operation : Nat) (src dest tag : List UInt8) :
    State → (Except Error Nat × List UInt8) × State :=
  fillSlice tee (.aeDecryptFinal operation src tag) dest.length dest

def OperationHandle.infoMultiple (operation : Nat) (infoBuf : List UInt8) :
    State → (Except Error Nat × List UInt8) × State :=
  let tmpSize := 0
  fillSlice tee (.getOperationInfoMultiple operation) tmpSize infoBuf

def GenericObject.refAttribute (object : Nat) (id : UInt32)
    (buffer : List UInt8) :
    State → (Except Error Nat × List UInt8) × State :=
  fillSlice tee (.getObjectBufferAttribute object id) buffer.length buffer

def FillRequest.wrapper (slice : List UInt8) :
    FillRequest → State → (Except Error Nat × List UInt8) × State
  | digestDoFinal operation chunk => Digest.doFinal tee operation chunk slice
  | cipherUpdate operation src => Cipher.update tee operation src slice
  | cipherDoFinal operation src => Cipher.doFinal tee operation src slice
  | macComputeFinal operation message =>
      Mac.computeFinal tee operation message slice
  | aeUpdate operation src => AE.update tee operation src slice
  | aeDecryptFinal operation src tag =>
      AE.decryptFinal tee operation src slice tag
  | getOperationInfoMultiple operation =>
      OperationHandle.infoMultiple tee operation slice
  | getObjectBufferAttribute object id =>
      GenericObject.refAttribute tee object id slice

def fillTwoSlices (operation : Nat) (src : List UInt8)
    (destSize tagSize : Nat) (dest tag : List UInt8) (state : State) :
    (Except Error (Nat × Nat) × List UInt8 × List UInt8) × State :=
  let ((code, destFilled, tagFilled), state) :=
    tee.aeEncryptFinal operation src destSize tagSize state
  (((teeCheck code).map fun _ => (destFilled.size, tagFilled.size),
    overlay dest 0 destFilled.bytes, overlay tag 0 tagFilled.bytes), state)

def AE.encryptFinal (operation : Nat) (src dest tag : List UInt8) :
    State → (Except Error (Nat × Nat) × List UInt8 × List UInt8) × State :=
  fillTwoSlices tee operation src dest.length tag.length dest tag

end Wrappers

/-! ## The rule for sizes -/

def teeErrorShortBuffer : TeeResult := ErrorKind.shortBuffer.intoPrimitive

structure OutputResults (State : Type) where
  fill : FillRequest → State → List UInt8
  aeEncryptFinal : Nat → List UInt8 → State → List UInt8 × List UInt8

/-- A result that does not fit is refused, any other is written. -/
structure OutputTee.FollowsGp {State : Type} (tee : OutputTee State)
    (results : OutputResults State) : Prop where
  fill_short : ∀ request size state,
    size < (results.fill request state).length →
      (tee.fill request size state).1.1 = teeErrorShortBuffer ∧
        (tee.fill request size state).1.2.bytes = []
  fill_fits : ∀ request size state,
    (results.fill request state).length ≤ size →
      (tee.fill request size state).1 = (teeSuccess,
        ⟨(results.fill request state).length, results.fill request state⟩)
  seal_short : ∀ operation src destSize tagSize state,
    destSize < (results.aeEncryptFinal operation src state).1.length ∨
      tagSize < (results.aeEncryptFinal operation src state).2.length →
    (tee.aeEncryptFinal operation src destSize tagSize state).1.1 =
        teeErrorShortBuffer ∧
      (tee.aeEncryptFinal operation src destSize tagSize state).1.2.1.bytes =
        [] ∧
      (tee.aeEncryptFinal operation src destSize tagSize state).1.2.2.bytes =
        []
  seal_fits : ∀ operation src destSize tagSize state,
    (results.aeEncryptFinal operation src state).1.length ≤ destSize →
    (results.aeEncryptFinal operation src state).2.length ≤ tagSize →
    (tee.aeEncryptFinal operation src destSize tagSize state).1 =
      (teeSuccess,
        ⟨(results.aeEncryptFinal operation src state).1.length,
          (results.aeEncryptFinal operation src state).1⟩,
        ⟨(results.aeEncryptFinal operation src state).2.length,
          (results.aeEncryptFinal operation src state).2⟩)

/-- A slice that a call was to fill with a result, and its memory after it. -/
structure Delivers (output slice after : List UInt8)
    (returned : Except Error Nat) : Prop where
  enough : output.length ≤ slice.length →
    returned = .ok output.length ∧ after = overlay slice 0 output
  bounded : ∀ length, returned = .ok length → length ≤ slice.length
  inside : after.length = slice.length

section Rule

variable {State : Type} {tee : OutputTee State}
  {results : OutputResults State}

theorem overlay_nil (slice : List UInt8) : overlay slice 0 [] = slice := by
  simp [overlay]

theorem delivers_of_fits {output slice : List UInt8}
    (h : output.length ≤ slice.length) :
    Delivers output slice (overlay slice 0 output) (.ok output.length) where
  enough _ := ⟨rfl, rfl⟩
  bounded _ hlength := Except.ok.inj hlength ▸ h
  inside := length_overlay (by omega)

theorem delivers_of_short {output slice : List UInt8} {error : Error}
    (h : slice.length < output.length) :
    Delivers output slice slice (.error error) where
  enough hle := absurd hle (by omega)
  bounded := nofun
  inside := rfl

theorem fillSlice_delivers (h : tee.FollowsGp results) (request : FillRequest)
    (slice : List UInt8) (state : State) :
    Delivers (results.fill request state) slice
      (fillSlice tee request slice.length slice state).1.2
      (fillSlice tee request slice.length slice state).1.1 := by
  by_cases hfits : (results.fill request state).length ≤ slice.length
  · simp only [fillSlice, h.fill_fits request slice.length state hfits]
    exact delivers_of_fits hfits
  · obtain ⟨hcode, hbytes⟩ :=
      h.fill_short request slice.length state (by omega)
    simp only [fillSlice, hcode, hbytes, overlay_nil]
    exact delivers_of_short (by omega)

theorem wrapper_eq_fillSlice (tee : OutputTee State) {request : FillRequest}
    {slice : List UInt8}
    (h : (∀ operation, request ≠ .getOperationInfoMultiple operation) ∨
      slice = []) (state : State) :
    request.wrapper tee slice state =
      fillSlice tee request slice.length slice state := by
  cases request with
  | getOperationInfoMultiple operation =>
      rcases h with hother | rfl
      · exact absurd rfl (hother operation)
      · rfl
  | _ => rfl

theorem encryptFinal_delivers (h : tee.FollowsGp results) (operation : Nat)
    (src dest tag : List UInt8) (state : State) :
    let output := results.aeEncryptFinal operation src state
    let reply := AE.encryptFinal tee operation src dest tag state
    (output.1.length ≤ dest.length ∧ output.2.length ≤ tag.length →
      reply.1 = (.ok (output.1.length, output.2.length),
        overlay dest 0 output.1, overlay tag 0 output.2)) ∧
    (∀ destSize tagSize, reply.1.1 = .ok (destSize, tagSize) →
      destSize ≤ dest.length ∧ tagSize ≤ tag.length) ∧
    reply.1.2.1.length = dest.length ∧ reply.1.2.2.length = tag.length := by
  intro output reply
  by_cases hfits : output.1.length ≤ dest.length ∧
      output.2.length ≤ tag.length
  · have hreply : reply.1 = (.ok (output.1.length, output.2.length),
        overlay dest 0 output.1, overlay tag 0 output.2) := by
      simp only [reply, AE.encryptFinal, fillTwoSlices,
        h.seal_fits operation src dest.length tag.length state hfits.1 hfits.2]
      rfl
    rw [hreply]
    refine ⟨fun _ => rfl, fun destSize tagSize hsizes => ?_,
      length_overlay (by omega), length_overlay (by omega)⟩
    cases hsizes
    exact hfits
  · obtain ⟨hcode, hdest, htag⟩ :=
      h.seal_short operation src dest.length tag.length state (by
        simp only [output] at hfits
        omega)
    have hreply : reply.1 = (.error (Error.new .shortBuffer), dest, tag) := by
      simp only [reply, AE.encryptFinal, fillTwoSlices, hcode, hdest, htag,
        overlay_nil]
      rfl
    rw [hreply]
    exact ⟨fun hboth => absurd hboth hfits, nofun, rfl, rfl⟩

end Rule

def sizeProbe : OutputTee Unit where
  fill _ size state := ((teeSuccess, ⟨size, []⟩), state)
  aeEncryptFinal _ _ destSize tagSize state :=
    ((teeSuccess, ⟨destSize, []⟩, ⟨tagSize, []⟩), state)

theorem output_sizes_passed_iff (request : FillRequest) (slice : List UInt8) :
    ((∀ (State : Type) (tee : OutputTee State) state,
        request.wrapper tee slice state =
          fillSlice tee request slice.length slice state) ∧
      (∀ (State : Type) (tee : OutputTee State) results,
        tee.FollowsGp results → ∀ state,
          Delivers (results.fill request state) slice
            (request.wrapper tee slice state).1.2
            (request.wrapper tee slice state).1.1) ↔
      (∀ operation, request ≠ .getOperationInfoMultiple operation) ∨
        slice = []) ∧
    ∀ (State : Type) (tee : OutputTee State) operation src dest tag state,
      AE.encryptFinal tee operation src dest tag state =
        fillTwoSlices tee operation src dest.length tag.length dest tag
          state ∧
      ∀ results, tee.FollowsGp results →
        let output := results.aeEncryptFinal operation src state
        let reply := AE.encryptFinal tee operation src dest tag state
        (output.1.length ≤ dest.length ∧ output.2.length ≤ tag.length →
          reply.1 = (.ok (output.1.length, output.2.length),
            overlay dest 0 output.1, overlay tag 0 output.2)) ∧
        (∀ destSize tagSize, reply.1.1 = .ok (destSize, tagSize) →
          destSize ≤ dest.length ∧ tagSize ≤ tag.length) ∧
        reply.1.2.1.length = dest.length ∧
        reply.1.2.2.length = tag.length := by
  refine ⟨⟨fun ⟨hpasses, _⟩ => ?_, fun h => ?_⟩,
    fun State tee operation src dest tag state =>
      ⟨rfl, fun results h =>
        encryptFinal_delivers h operation src dest tag state⟩⟩
  · by_cases hinfo : ∃ operation, request = .getOperationInfoMultiple operation
    · obtain ⟨operation, rfl⟩ := hinfo
      have hprobe := congrArg (·.1.1) (hpasses Unit sizeProbe ())
      exact .inr (List.length_eq_zero_iff.mp (Except.ok.inj hprobe).symm)
    · exact .inl fun operation heq => hinfo ⟨operation, heq⟩
  · refine ⟨fun State tee => wrapper_eq_fillSlice tee h,
      fun State tee results hgp state => ?_⟩
    rw [wrapper_eq_fillSlice tee h]
    exact fillSlice_delivers hgp request slice state

def gpTee {State : Type} (results : OutputResults State) :
    OutputTee State where
  fill request size state :=
    let output := results.fill request state
    (if size < output.length then (teeErrorShortBuffer, ⟨output.length, []⟩)
      else (teeSuccess, ⟨output.length, output⟩), state)
  aeEncryptFinal operation src destSize tagSize state :=
    let output := results.aeEncryptFinal operation src state
    (if destSize < output.1.length ∨ tagSize < output.2.length then
        (teeErrorShortBuffer, ⟨output.1.length, []⟩, ⟨output.2.length, []⟩)
      else (teeSuccess, ⟨output.1.length, output.1⟩,
        ⟨output.2.length, output.2⟩), state)

theorem gpTee_followsGp {State : Type} (results : OutputResults State) :
    (gpTee results).FollowsGp results where
  fill_short request size state h := by simp [gpTee, h]
  fill_fits request size state h := by simp [gpTee, Nat.not_lt.mpr h]
  seal_short operation src destSize tagSize state h := by simp [gpTee, h]
  seal_fits operation src destSize tagSize state hdest htag := by
    simp [gpTee, Nat.not_lt.mpr hdest, Nat.not_lt.mpr htag]

def twoByteResults : OutputResults Unit :=
  ⟨fun _ _ => [1, 2], fun _ _ _ => ([1, 2], [1, 2])⟩

theorem infoMultiple_refuses_long_buffer :
    (gpTee twoByteResults).FollowsGp twoByteResults ∧
      (OperationHandle.infoMultiple (gpTee twoByteResults) 1
        (List.replicate 12 0) ()).1.1 = .error (Error.new .shortBuffer) ∧
      (Digest.doFinal (gpTee twoByteResults) 1 [] (List.replicate 12 0)
        ()).1.1 = .ok 2 :=
  ⟨gpTee_followsGp twoByteResults, by decide, by decide⟩

end TrustZoneSdk.Utee
