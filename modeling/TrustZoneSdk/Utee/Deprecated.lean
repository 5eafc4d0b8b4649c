import TrustZoneSdk.Utee.Call

/-!
# The deprecated parameters

The older interface takes the tags out of the word with masks of their own,
turns each into a parameter type and checks nothing else; a memory reference
is whatever the union holds.  Where no buffer is null the typed wrappers see
every slot as it does.
-/

namespace TrustZoneSdk.Utee

open TrustZoneSdk.Foundation

variable {width : PointerWidth}

/-! ## Tags -/

def ParamType.fromPrimitive (code : BitVec 32) : ParamType :=
  if code = ParamType.none.intoPrimitive then .none
  else if code = ParamType.valueInput.intoPrimitive then .valueInput
  else if code = ParamType.valueOutput.intoPrimitive then .valueOutput
  else if code = ParamType.valueInout.intoPrimitive then .valueInout
  else if code = ParamType.memrefInput.intoPrimitive then .memrefInput
  else if code = ParamType.memrefOutput.intoPrimitive then .memrefOutput
  else if code = ParamType.memrefInout.intoPrimitive then .memrefInout
  else .unknown code

def ParamType.standard : List ParamType :=
  [.none, .valueInput, .valueOutput, .valueInout, .memrefInput, .memrefOutput,
    .memrefInout]

theorem ParamType.fromPrimitive_intoPrimitive {kind : ParamType}
    (h : kind ∈ standard) : fromPrimitive kind.intoPrimitive = kind := by
  revert kind
  decide

theorem ParamType.fromPrimitive_unknown {code : BitVec 32}
    (h : ∀ kind ∈ standard, code ≠ kind.intoPrimitive) :
    fromPrimitive code = .unknown code := by
  simp only [standard, List.forall_mem_cons] at h
  simp [fromPrimitive, h]

theorem ParamType.code_cases (code : BitVec 32) :
    (∃ kind ∈ standard, code = kind.intoPrimitive) ∨
      ∀ kind ∈ standard, code ≠ kind.intoPrimitive := by
  by_cases h : ∃ kind ∈ standard, code = kind.intoPrimitive
  · exact .inl h
  · exact .inr fun kind hkind heq => h ⟨kind, hkind, heq⟩

namespace Deprecated

def intoFlags (paramTypes : BitVec 32) : ParamIndex → ParamType :=
  ArgIndex.tuple (.fromPrimitive (0x000F#32 &&& paramTypes))
    (.fromPrimitive ((0x00F0#32 &&& paramTypes) >>> 4))
    (.fromPrimitive ((0x0F00#32 &&& paramTypes) >>> 8))
    (.fromPrimitive ((0xF000#32 &&& paramTypes) >>> 12))

theorem intoFlags_eq (paramTypes : BitVec 32) (i : ParamIndex) :
    intoFlags paramTypes i = .fromPrimitive (paramTypeGet paramTypes i) := by
  rw [paramTypeGet, ← maskedTag]
  cases i <;> simp [intoFlags, ArgIndex.tuple, ArgIndex.toNat]

/-! ## Parameters -/

/-- A pointer to a raw parameter is the parameter it points to. -/
structure Parameter (width : PointerWidth) where
  raw : RawParam width
  paramType : ParamType
  deriving DecidableEq

structure ParamValue (width : PointerWidth) where
  raw : RawParam width
  paramType : ParamType
  deriving DecidableEq

structure ParamMemref (width : PointerWidth) where
  raw : RawParam width
  paramType : ParamType
  deriving DecidableEq

def ParamValue.a (value : ParamValue width) : BitVec 32 := value.raw.valueA

def ParamValue.b (value : ParamValue width) : BitVec 32 := value.raw.valueB

def ParamMemref.buffer (memref : ParamMemref width) : Nat × Nat :=
  (memref.raw.buffer, memref.raw.size)

namespace Parameter

def fromRaw (raw : RawParam width) (paramType : ParamType) : Parameter width :=
  ⟨raw, paramType⟩

def asValue (self : Parameter width) : Except Error (ParamValue width) :=
  match self.paramType with
  | .valueInput => .ok ⟨self.raw, self.paramType⟩
  | .valueInout => .ok ⟨self.raw, self.paramType⟩
  | .valueOutput => .ok ⟨self.raw, self.paramType⟩
  | _ => .error (Error.new .badParameters)

def asMemref (self : Parameter width) : Except Error (ParamMemref width) :=
  match self.paramType with
  | .memrefInout => .ok ⟨self.raw, self.paramType⟩
  | .memrefInput => .ok ⟨self.raw, self.paramType⟩
  | .memrefOutput => .ok ⟨self.raw, self.paramType⟩
  | _ => .error (Error.new .badParameters)

theorem asValue_eq_ok {self : Parameter width} {value : ParamValue width} :
    self.asValue = .ok value ↔
      (∃ direction : Direction, self.paramType = direction.valueType) ∧
        value = ⟨self.raw, self.paramType⟩ := by
  obtain ⟨raw, kind⟩ := self
  constructor
  · intro h
    cases kind with
    | valueInput => exact ⟨⟨.input, rfl⟩, (Except.ok.inj h).symm⟩
    | valueOutput => exact ⟨⟨.output, rfl⟩, (Except.ok.inj h).symm⟩
    | valueInout => exact ⟨⟨.inout, rfl⟩, (Except.ok.inj h).symm⟩
    | none => cases h
    | memrefInput => cases h
    | memrefOutput => cases h
    | memrefInout => cases h
    | unknown code => cases h
  · rintro ⟨⟨direction, rfl⟩, rfl⟩
    cases direction <;> rfl

theorem asMemref_eq_ok {self : Parameter width} {memref : ParamMemref width} :
    self.asMemref = .ok memref ↔
      (∃ direction : Direction, self.paramType = direction.memrefType) ∧
        memref = ⟨self.raw, self.paramType⟩ := by
  obtain ⟨raw, kind⟩ := self
  constructor
  · intro h
    cases kind with
    | memrefInput => exact ⟨⟨.input, rfl⟩, (Except.ok.inj h).symm⟩
    | memrefOutput => exact ⟨⟨.output, rfl⟩, (Except.ok.inj h).symm⟩
    | memrefInout => exact ⟨⟨.inout, rfl⟩, (Except.ok.inj h).symm⟩
    | none => cases h
    | valueInput => cases h
    | valueOutput => cases h
    | valueInout => cases h
    | unknown code => cases h
  · rintro ⟨⟨direction, rfl⟩, rfl⟩
    cases direction <;> rfl

end Parameter

def parametersFromRaw (teeParams : ParamIndex → RawParam width)
    (paramTypes : BitVec 32) : ParamIndex → Parameter width :=
  let flags := intoFlags paramTypes
  ArgIndex.tuple (.fromRaw (teeParams .arg0) (flags .arg0))
    (.fromRaw (teeParams .arg1) (flags .arg1))
    (.fromRaw (teeParams .arg2) (flags .arg2))
    (.fromRaw (teeParams .arg3) (flags .arg3))

theorem parametersFromRaw_eq (teeParams : ParamIndex → RawParam width)
    (paramTypes : BitVec 32) (i : ParamIndex) :
    parametersFromRaw teeParams paramTypes i =
      ⟨teeParams i, .fromPrimitive (paramTypeGet paramTypes i)⟩ := by
  rw [← intoFlags_eq]
  cases i <;> rfl

end Deprecated

/-! ## One slot in both interfaces -/

def MemrefTagged (rawTypes : BitVec 32) (i : ParamIndex) : Prop :=
  ∃ direction : Direction,
    paramTypeGet rawTypes i = direction.memrefType.intoPrimitive

/-- The wrapper for a type, with the copies that it takes. -/
def ParameterAny.ofType (raw : RawParam width) : ParamType → ParameterAny
  | .none => .none
  | .valueInput => .valueInput raw.valueA raw.valueB
  | .valueOutput => .valueOutput
  | .valueInout => .valueInout
  | .memrefInput => .memrefInput
  | .memrefOutput => .memrefOutput raw.size
  | .memrefInout => .memrefInout raw.size
  | .unknown code => .unknown code

theorem ParameterAny.paramType_ofType (raw : RawParam width)
    (kind : ParamType) : (ParameterAny.ofType raw kind).paramType = kind := by
  cases kind <;> rfl

theorem fromRaw_eq_ofType {rawType : BitVec 32} {raw : RawParam width}
    (h : ∀ direction : Direction,
      rawType = direction.memrefType.intoPrimitive → raw.buffer ≠ 0) :
    ParameterAny.fromRaw rawType raw =
      .ok (.ofType raw (.fromPrimitive rawType)) := by
  rcases ParamType.code_cases rawType with ⟨kind, hkind, rfl⟩ | hunknown
  · rw [ParamType.fromPrimitive_intoPrimitive hkind]
    cases kind with
    | none => rfl
    | valueInput => rfl
    | valueOutput => rfl
    | valueInout => rfl
    | memrefInput =>
        have hbuffer := h .input rfl
        change memrefFromRaw _ _ .memrefInput _ = _
        simp [memrefFromRaw, checkTypeIs, hbuffer, ParameterAny.ofType]
    | memrefOutput =>
        have hbuffer := h .output rfl
        change memrefFromRaw _ _ .memrefOutput _ = _
        simp [memrefFromRaw, checkTypeIs, hbuffer, ParameterAny.ofType]
    | memrefInout =>
        have hbuffer := h .inout rfl
        change memrefFromRaw _ _ .memrefInout _ = _
        simp [memrefFromRaw, checkTypeIs, hbuffer, ParameterAny.ofType]
    | unknown code => simp [ParamType.standard] at hkind
  · rw [ParamType.fromPrimitive_unknown hunknown]
    simp only [ParamType.standard, List.forall_mem_cons] at hunknown
    simp [ParameterAny.fromRaw, ParameterAny.ofType, hunknown]

open Deprecated (Parameter ParamValue ParamMemref)

/-- Both interfaces see one slot alike. -/
structure SameView (raw : RawParam width) (old : Parameter width)
    (wrapper : ParameterAny) : Prop where
  variant : wrapper.paramType = old.paramType
  asValue_iff : (∃ value, old.asValue = .ok value) ↔
    ∃ direction : Direction, wrapper.paramType = direction.valueType
  asValue_same : ∀ value, old.asValue = .ok value →
    value.a = raw.valueA ∧ value.b = raw.valueB ∧
      ∀ (direction : Direction) (memory : Memory),
        wrapper.paramType = direction.valueType → direction.reads = true →
          wrapper.serve .getA ⟨raw, memory⟩ =
              (.value value.a, ⟨raw, memory⟩) ∧
            wrapper.serve .getB ⟨raw, memory⟩ =
              (.value value.b, ⟨raw, memory⟩)
  asMemref_iff : (∃ memref, old.asMemref = .ok memref) ↔
    ∃ direction : Direction, wrapper.paramType = direction.memrefType
  asMemref_same : ∀ memref, old.asMemref = .ok memref →
    memref.buffer = (raw.buffer, raw.size) ∧
      ∀ (direction : Direction) (op : SlotOp) (memory : Memory),
        wrapper.paramType = direction.memrefType →
          wrapper.serve op ⟨raw, memory⟩ =
            serveMemref direction memref.buffer.2 op ⟨memref.raw, memory⟩

theorem sameView_ofType (raw : RawParam width) (kind : ParamType) :
    SameView raw ⟨raw, kind⟩ (.ofType raw kind) where
  variant := ParameterAny.paramType_ofType raw kind
  asValue_iff := by
    rw [ParameterAny.paramType_ofType]
    simp only [Parameter.asValue_eq_ok, exists_and_left, exists_eq, and_true]
  asValue_same := by
    intro value hvalue
    obtain ⟨-, rfl⟩ := Parameter.asValue_eq_ok.mp hvalue
    refine ⟨rfl, rfl, fun direction memory hkind hreads => ?_⟩
    rw [ParameterAny.paramType_ofType] at hkind
    subst hkind
    cases direction with
    | input => exact ⟨rfl, rfl⟩
    | inout => exact ⟨rfl, rfl⟩
    | output => cases hreads
  asMemref_iff := by
    rw [ParameterAny.paramType_ofType]
    simp only [Parameter.asMemref_eq_ok, exists_and_left, exists_eq, and_true]
  asMemref_same := by
    intro memref hmemref
    obtain ⟨-, rfl⟩ := Parameter.asMemref_eq_ok.mp hmemref
    refine ⟨rfl, fun direction op memory hkind => ?_⟩
    rw [ParameterAny.paramType_ofType] at hkind
    subst hkind
    cases direction <;> rfl

/-! ## All slots -/

theorem parametersAny_fromRaw_congr {rawTypes other : BitVec 32}
    (raws : ParamIndex → RawParam width)
    (h : ∀ i, paramTypeGet other i = paramTypeGet rawTypes i) :
    ParametersAny.fromRaw other raws = ParametersAny.fromRaw rawTypes raws := by
  simp only [ParametersAny.fromRaw, h]

theorem decoders_agree (rawTypes : BitVec 32)
    (raws : ParamIndex → RawParam width) :
    ((∀ i, MemrefTagged rawTypes i → (raws i).buffer ≠ 0) →
      ∃ wrappers, ParametersAny.fromRaw rawTypes raws = .ok wrappers ∧
        ∀ i, SameView (raws i) (Deprecated.parametersFromRaw raws rawTypes i)
            (wrappers i) ∧
          ((∀ kind ∈ ParamType.standard,
              paramTypeGet rawTypes i ≠ kind.intoPrimitive) →
            (wrappers i).paramType = .unknown (paramTypeGet rawTypes i))) ∧
    ((∃ i, MemrefTagged rawTypes i ∧ (raws i).buffer = 0) →
      ParametersAny.fromRaw rawTypes raws =
        .error (Error.new .badParameters)) ∧
    ∀ other, getField 0 16 other = getField 0 16 rawTypes →
      ParametersAny.fromRaw other raws = ParametersAny.fromRaw rawTypes raws ∧
        Deprecated.parametersFromRaw raws other =
          Deprecated.parametersFromRaw raws rawTypes := by
  refine ⟨fun hbuffers => ?_, ?_, fun other hlow => ?_⟩
  · refine
      ⟨fun i => .ofType (raws i) (.fromPrimitive (paramTypeGet rawTypes i)),
      parametersAny_fromRaw_ok fun i => ?_, fun i => ⟨?_, fun hunknown => ?_⟩⟩
    · exact fromRaw_eq_ofType fun direction htag =>
        hbuffers i ⟨direction, htag⟩
    · rw [Deprecated.parametersFromRaw_eq]
      exact sameView_ofType (raws i) _
    · rw [ParameterAny.paramType_ofType,
        ParamType.fromPrimitive_unknown hunknown]
  · rintro ⟨i, ⟨direction, htag⟩, hnull⟩
    have hslot := fromRaw_null direction hnull
    rw [← htag] at hslot
    exact fromRaw_refused hslot
  · have htags : ∀ i, paramTypeGet other i = paramTypeGet rawTypes i :=
      fun i => tagAt_congr hlow i
    refine ⟨parametersAny_fromRaw_congr raws htags, funext fun i => ?_⟩
    rw [Deprecated.parametersFromRaw_eq, Deprecated.parametersFromRaw_eq,
      htags]

end TrustZoneSdk.Utee
