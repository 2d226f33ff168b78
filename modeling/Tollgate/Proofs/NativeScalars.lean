import Mathlib.Data.List.Forall2
import Tollgate.Proofs.ResultDecoding
import Tollgate.Vm

namespace Tollgate

-- The kind of number that carries values of a type. Buffers are not carried by one number.
def ValueType.carrier? : ValueType → Option Guest.NativeType
  | .i32 => some .i32
  | .u32 => some .i32
  | .bool => some .i32
  | .i64 => some .i64
  | .u64 => some .i64
  | .f32 => some .f32
  | .f64 => some .f64
  | .string => none
  | .bytes => none

namespace Guest.Native

theorem low_word_i32 (v : UInt32) : (i32 v).word.toUInt32 = v := by
  have narrowed : v.toInt32.toInt64.toUInt64.toUInt32.toInt32 = v.toInt32 :=
    Value.narrow_widen v.toInt32
  exact congrArg Int32.toUInt32 narrowed

theorem low_word_f32 (bits : UInt32) : (f32 bits).word.toUInt32 = bits := by simp [word]

def reportedTypes : List ValueType := [.i32, .i64, .f32, .f64]

theorem valueType_reported (n : Native) : n.valueType ∈ reportedTypes := by
  cases n <;> simp [valueType, reportedTypes]

end Guest.Native

namespace Value

open Guest

theorem ofScalar_carried {t : ValueType} {kind : NativeType} (carried : t.carrier? = some kind)
    (w : UInt64) : ∃ n, Native.ofWord? w kind = some n ∧ ofScalar? n.word t = ofScalar? w t := by
  cases t <;> cases carried
  case i32 | u32 | bool =>
    exact ⟨_, rfl, by simp only [ofScalar?, Native.low_word_i32]⟩
  case f32 => exact ⟨_, rfl, by simp only [ofScalar?, Native.low_word_f32]⟩
  case i64 | u64 | f64 => exact ⟨_, rfl, rfl⟩

def bits? : Value → Option Native
  | .i32 v => some (.i32 v.toUInt32)
  | .u32 v => some (.i32 v)
  | .bool b => some (.ofBool b)
  | .i64 v => some (.i64 v.toUInt64)
  | .u64 v => some (.i64 v)
  | .f32 bits => some (.f32 bits)
  | .f64 bits => some (.f64 bits)
  | .string _ => none
  | .bytes _ => none

-- A scalar and what it is reported as: the same bits under the type of their kind.
structure ReportedAs (v u : Value) : Prop where
  bits : u.bits? = v.bits?
  some : v.bits?.isSome
  type : u.type ∈ Native.reportedTypes

structure HandedAs (v : Value) (n : Native) : Prop where
  own : ofScalar? n.word v.type = some v
  reported : ∃ u, ofScalar? n.word n.valueType = some u ∧ v.ReportedAs u

variable {v : Value} {w : UInt64} {kind : NativeType} {n : Native}

theorem bits_ofWord (coded : v.scalar? = some w) (carried : v.type.carrier? = some kind)
    (handed : Native.ofWord? w kind = some n) : v.bits? = some n := by
  cases v <;> cases coded <;> cases carried <;> cases handed
  case i32 v => exact congrArg (fun v => some (Native.i32 v.toUInt32)) (narrow_widen v).symm
  case u32 v => simp [bits?]
  case f32 bits => simp [bits?]
  case bool b => cases b <;> rfl
  case i64 | u64 | f64 => rfl

theorem reported_ofWord (handed : Native.ofWord? w kind = some n) :
    ∃ u, ofScalar? n.word n.valueType = some u ∧ u.bits? = some n := by
  cases kind <;> cases handed
  case i32 =>
    refine ⟨_, rfl, ?_⟩
    rw [Native.low_word_i32]
    rfl
  case f32 =>
    refine ⟨_, rfl, ?_⟩
    rw [Native.low_word_f32]
    rfl
  case i64 | f64 => exact ⟨_, rfl, rfl⟩

theorem handed_ofWord (coded : v.scalar? = some w) (carried : v.type.carrier? = some kind)
    (handed : Native.ofWord? w kind = some n) : v.HandedAs n := by
  constructor
  · obtain ⟨m, same, read⟩ := ofScalar_carried carried w
    cases same.symm.trans handed
    exact read.trans (ofScalar_scalar coded)
  · have bits := bits_ofWord coded carried handed
    obtain ⟨u, read, same⟩ := reported_ofWord handed
    exact ⟨u, read, same.trans bits.symm, by rw [bits]; rfl,
      type_ofScalar read ▸ n.valueType_reported⟩

end Value

namespace Marshal

def Coded (values : List Value) (words : List UInt64) : Prop :=
  List.Forall₂ (fun v w => v.scalar? = some w) values words

def Carried (values : List Value) (kinds : List Guest.NativeType) : Prop :=
  List.Forall₂ (fun v kind => v.type.carrier? = some kind) values kinds

variable {values : List Value} {words : List UInt64} {kinds : List Guest.NativeType}
  {args : List Guest.Native}

theorem encodeFrom_coded (s : MarshalSettings) (coded : Coded values words) (index : Nat)
    (done : Encoded) : encodeFrom s index done values =
      .ok ⟨done.words ++ words, done.types ++ values.map Value.type, done.plan⟩ := by
  induction coded generalizing index done with
  | nil => simp [encodeFrom]
  | cons coded rest ih => simp [encodeFrom, encodeArg, coded, ih]

theorem encode_coded (s : MarshalSettings) (coded : Coded values words) : encode s values =
    if s.maxParams < values.length then .error (tooManyParams values.length s.maxParams)
    else .ok ⟨words, values.map Value.type, []⟩ := by
  rw [encode, encodeFrom_coded s coded]
  rfl

theorem nativeArgs_carried (carried : Carried values kinds) (words : List UInt64) :
    ∃ args, Vm.nativeArgs kinds words = .ok args := by
  induction carried generalizing words with
  | nil => exact ⟨[], rfl⟩
  | cons carried rest ih =>
    cases words with
    | nil => exact ⟨[], rfl⟩
    | cons w words =>
      obtain ⟨n, handed, _⟩ := Value.ofScalar_carried carried w
      obtain ⟨args, later⟩ := ih words
      exact ⟨n :: args, by simp only [Vm.nativeArgs, handed, later, Except.map]⟩

theorem nativeArgs_handed (coded : Coded values words) (carried : Carried values kinds)
    (taken : Vm.nativeArgs kinds words = .ok args) :
    List.Forall₂ Value.HandedAs values args := by
  induction coded generalizing kinds args with
  | nil =>
    cases carried
    cases taken
    exact .nil
  | @cons v w values words coded rest ih =>
    cases carried with
    | cons carried others =>
      obtain ⟨later, rested⟩ := nativeArgs_carried others words
      obtain ⟨n, handed, _⟩ := Value.ofScalar_carried carried w
      simp only [Vm.nativeArgs, handed, rested, Except.map] at taken
      cases taken
      exact .cons (Value.handed_ofWord coded carried handed) (ih others rested)

inductive WordByWord : List ValueType → List UInt64 → List Value → Prop
  | nil : WordByWord [] [] []
  | cons {t : ValueType} {w : UInt64} {v : Value} {types : List ValueType} {words : List UInt64}
      {values : List Value} : Value.ofScalar? w t = some v → WordByWord types words values →
      WordByWord (t :: types) (w :: words) (v :: values)

-- Values as results, of which there may be too many.
def allowed (s : MarshalSettings) (values : List Value) : Except Fault (List Value) :=
  if s.maxResults < values.length then .error (tooManyResults values.length s.maxResults)
  else .ok values

theorem allowed_passed (s : MarshalSettings) (values : List Value) :
    (match (allowed s values).map fun _ => () with
      | .error f => .error f
      | .ok () => .ok values) = allowed s values := by
  unfold allowed
  by_cases many : s.maxResults < values.length
  · rw [if_pos many]
    rfl
  · rw [if_neg many]
    rfl

namespace WordByWord

variable {types : List ValueType}

theorem length (read : WordByWord types words values) : types.length = values.length := by
  induction read with
  | nil => rfl
  | cons _ _ ih => rw [List.length_cons, List.length_cons, ih]

theorem wordsNeeded (read : WordByWord types words values) :
    Marshal.wordsNeeded types = words.length := by
  induction read with
  | nil => rfl
  | cons scalar _ ih =>
    rw [wordsNeeded_cons, ih, ValueType.wordCount, Value.isBuffer_read scalar, List.length_cons,
      Nat.add_comm]
    rfl

theorem scalars (read : WordByWord types words values) :
    decodeScalars types words = .ok values := by
  induction read with
  | nil => rfl
  | cons scalar _ ih => simp only [decodeScalars, scalar, ih, Except.map]

theorem mixed (read : WordByWord types words values) (s : MarshalSettings)
    (load : Nat → Nat → Except Fault (List UInt8)) :
    decodeMixed s load types words = .ok values := by
  induction read with
  | nil => rfl
  | cons scalar _ ih => simp only [decodeMixed, scalar, ih, Except.map]

theorem typed (read : WordByWord types words values) : values.map Value.type = types := by
  induction read with
  | nil => rfl
  | cons scalar _ ih => rw [List.map_cons, Value.type_ofScalar scalar, ih]

theorem shape (read : WordByWord types words values) (s : MarshalSettings) :
    checkShape s words types = (allowed s values).map fun _ => () := by
  unfold checkShape allowed
  rw [read.wordsNeeded, read.length, if_neg (not_not_intro rfl)]
  split <;> rfl

theorem decode (read : WordByWord types words values) (s : MarshalSettings) :
    Marshal.decode s words types = allowed s values := by
  rw [Marshal.decode, read.shape, read.scalars]
  exact allowed_passed s values

theorem decodeFrom (read : WordByWord types words values) (s : MarshalSettings)
    (load : Nat → Nat → Except Fault (List UInt8)) :
    Marshal.decodeFrom s load words types = allowed s values := by
  rw [Marshal.decodeFrom, read.shape, read.mixed]
  exact allowed_passed s values

end WordByWord

theorem read_own (handed : List.Forall₂ Value.HandedAs values args) :
    WordByWord (values.map Value.type) (args.map Guest.Native.word) values := by
  induction handed with
  | nil => exact .nil
  | cons handed _ ih => exact .cons handed.own ih

theorem read_reported (handed : List.Forall₂ Value.HandedAs values args) :
    ∃ others, WordByWord (args.map Guest.Native.valueType) (args.map Guest.Native.word) others ∧
      List.Forall₂ Value.ReportedAs values others := by
  induction handed with
  | nil => exact ⟨[], .nil, .nil⟩
  | cons handed _ ih =>
    obtain ⟨u, read, same⟩ := handed.reported
    obtain ⟨others, later, rest⟩ := ih
    exact ⟨u :: others, .cons read later, .cons same rest⟩

end Marshal

end Tollgate
