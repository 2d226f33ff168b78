import Tollgate.Proofs.Marshalling

namespace Tollgate

namespace Value

theorem isBuffer_unread {word : UInt64} {t : ValueType} (unread : ofScalar? word t = none) :
    t.isBuffer = true := by
  cases t <;> cases unread <;> rfl

theorem isBuffer_read {word : UInt64} {t : ValueType} {v : Value}
    (read : ofScalar? word t = some v) : t.isBuffer = false := by
  cases t <;> cases read <;> rfl

theorem type_ofScalar {word : UInt64} {t : ValueType} {v : Value}
    (read : ofScalar? word t = some v) : v.type = t := by
  cases t <;> cases read <;> rfl

end Value

namespace Marshal

variable {s : MarshalSettings} {read : Nat → Nat → Except Fault (List UInt8)}
  {words : List UInt64} {types : List ValueType} {values : List Value}

theorem checkShape_code {f : Fault} (refused : checkShape s words types = .error f) :
    f.code = "TOO_MANY_RESULTS" ∨ f.code = "RESULT_COUNT_MISMATCH" := by
  unfold checkShape at refused
  split at refused
  · cases refused
    exact .inl rfl
  · split at refused
    · cases refused
      exact .inr rfl
    · cases refused

theorem code_resultNeedsMemory (t : ValueType) :
    (resultNeedsMemory t).code = "RESULT_NEEDS_MEMORY" := rfl

-- Words that the types take up without a rest: one for a scalar, two for a buffer.
inductive Covered : List ValueType → List UInt64 → Prop
  | nil : Covered [] []
  | scalar {t : ValueType} {v : Value} {w : UInt64} {types : List ValueType}
      {words : List UInt64} : Value.ofScalar? w t = some v → Covered types words →
      Covered (t :: types) (w :: words)
  | buffer {t : ValueType} {address size : UInt64} {types : List ValueType}
      {words : List UInt64} : Value.ofScalar? address t = none → Covered types words →
      Covered (t :: types) (address :: size :: words)

theorem covered_of_needed (needed : wordsNeeded types = words.length) : Covered types words := by
  induction types generalizing words with
  | nil =>
    rw [List.length_eq_zero_iff.mp needed.symm]
    exact .nil
  | cons t rest ih =>
    rw [wordsNeeded_cons, ValueType.wordCount] at needed
    cases words with
    | nil =>
      rw [List.length_nil] at needed
      split at needed <;> omega
    | cons w words =>
      rw [List.length_cons] at needed
      cases scalar : Value.ofScalar? w t with
      | some v =>
        rw [if_neg (by simp [Value.isBuffer_read scalar])] at needed
        exact .scalar scalar (ih (by omega))
      | none =>
        rw [if_pos (Value.isBuffer_unread scalar)] at needed
        cases words with
        | nil =>
          rw [List.length_nil] at needed
          omega
        | cons n words =>
          rw [List.length_cons] at needed
          exact .buffer scalar (ih (by omega))

-- How reading word by word ends: at the first buffer, or with what the cursor reads as well.
inductive Scanned (s : MarshalSettings) (types : List ValueType) (words : List UInt64) :
    Except Fault (List Value) → Prop
  | stopped {t : ValueType} : types.find? ValueType.isBuffer = some t →
      Scanned s types words (.error (resultNeedsMemory t))
  | through {values : List Value} : types.find? ValueType.isBuffer = none →
      (∀ read, decodeMixed s read types words = .ok values) → Scanned s types words (.ok values)

theorem Covered.scanned (s : MarshalSettings) (covered : Covered types words) :
    Scanned s types words (decodeScalars types words) := by
  induction covered with
  | nil => exact .through rfl fun _ => rfl
  | scalar scalar rest ih =>
    have passed := Value.isBuffer_read scalar
    simp only [decodeScalars, scalar]
    generalize decodeScalars _ _ = later at ih ⊢
    cases ih with
    | stopped first =>
      refine .stopped ?_
      rw [List.find?_cons_of_neg (by simp [passed]), first]
    | through scalars mixed =>
      refine .through ?_ fun read => ?_
      · rw [List.find?_cons_of_neg (by simp [passed]), scalars]
      · simp only [decodeMixed, scalar, mixed, Except.map]
  | buffer unread rest ih =>
    simp only [decodeScalars, unread]
    exact .stopped (List.find?_cons_of_pos (Value.isBuffer_unread unread))

theorem type_decodeBuffer {t : ValueType} {address size : UInt64} {v : Value}
    (buffer : t.isBuffer = true) (decoded : decodeBuffer s read t address size = .ok v) :
    v.type = t := by
  unfold decodeBuffer at decoded
  split at decoded
  · cases decoded
  · split at decoded
    · cases decoded
    · cases t with
      | string =>
        dsimp only at decoded
        split at decoded <;> cases decoded
        rfl
      | bytes =>
        cases decoded
        rfl
      | _ => cases buffer

theorem map_cons_ok {later : Except Fault (List Value)} {v : Value}
    (done : later.map (v :: ·) = .ok values) :
    ∃ rest, later = .ok rest ∧ values = v :: rest := by
  cases later with
  | error f => cases done
  | ok rest =>
    cases done
    exact ⟨rest, rfl, rfl⟩

theorem Covered.typed (covered : Covered types words)
    (decoded : decodeMixed s read types words = .ok values) : values.map Value.type = types := by
  induction covered generalizing values with
  | nil =>
    cases decoded
    rfl
  | scalar scalar rest ih =>
    simp only [decodeMixed, scalar] at decoded
    obtain ⟨others, later, rfl⟩ := map_cons_ok decoded
    rw [List.map_cons, Value.type_ofScalar scalar, ih later]
  | buffer unread rest ih =>
    simp only [decodeMixed, unread] at decoded
    split at decoded
    · cases decoded
    · rename_i v stored
      obtain ⟨others, later, rfl⟩ := map_cons_ok decoded
      rw [List.map_cons, type_decodeBuffer (Value.isBuffer_unread unread) stored, ih later]

-- The results read at a cursor; a look past the last word is no result at all.
def decodeAt? (s : MarshalSettings) (read : Nat → Nat → Except Fault (List UInt8))
    (words : List UInt64) : Nat → List ValueType → Option (Except Fault (List Value))
  | _, [] => some (.ok [])
  | cursor, t :: types => do
    let w ← words[cursor]?
    match Value.ofScalar? w t with
    | some v => (decodeAt? s read words (cursor + 1) types).map (·.map (v :: ·))
    | none =>
      let n ← words[cursor + 1]?
      match decodeBuffer s read t w n with
      | .error f => some (.error f)
      | .ok v => (decodeAt? s read words (cursor + 2) types).map (·.map (v :: ·))

def decodeFromAt? (s : MarshalSettings) (read : Nat → Nat → Except Fault (List UInt8))
    (words : List UInt64) (types : List ValueType) : Option (Except Fault (List Value)) :=
  match checkShape s words types with
  | .error f => some (.error f)
  | .ok () => decodeAt? s read words 0 types

-- `front` holds the words that the cursor has passed.
theorem Covered.decodeAt {back : List UInt64} (covered : Covered types back)
    (front : List UInt64) : decodeAt? s read (front ++ back) front.length types =
      some (decodeMixed s read types back) := by
  induction covered generalizing front with
  | nil => rfl
  | @scalar t v w types words scalar rest ih =>
    have under : (front ++ w :: words)[front.length]? = some w := by simp
    have next := ih (front ++ [w])
    rw [List.length_append, List.append_assoc] at next
    simp only [decodeAt?, under, Option.bind_eq_bind, Option.bind_some, scalar, decodeMixed]
    exact congrArg (Option.map (·.map (v :: ·))) next
  | @buffer t address size types words unread rest ih =>
    have under : (front ++ address :: size :: words)[front.length]? = some address := by simp
    have beside : (front ++ address :: size :: words)[front.length + 1]? = some size := by simp
    have next := ih (front ++ [address, size])
    rw [List.length_append, List.append_assoc] at next
    simp only [decodeAt?, under, beside, Option.bind_eq_bind, Option.bind_some, unread, decodeMixed]
    cases decodeBuffer s read t address size with
    | error f => rfl
    | ok v => exact congrArg (Option.map (·.map (v :: ·))) next

theorem decodeFromAt_eq (s : MarshalSettings) (read : Nat → Nat → Except Fault (List UInt8))
    (words : List UInt64) (types : List ValueType) :
    decodeFromAt? s read words types = some (decodeFrom s read words types) := by
  unfold decodeFromAt? decodeFrom
  cases shape : checkShape s words types with
  | error f => rfl
  | ok _ =>
    have covered := covered_of_needed (checkShape_ok_iff.mp shape).2
    exact covered.decodeAt []

theorem decode_scanned (shape : checkShape s words types = .ok ()) :
    Scanned s types words (decode s words types) := by
  rw [decode, shape]
  exact (covered_of_needed (checkShape_ok_iff.mp shape).2).scanned s

theorem decode_decodeFrom (decoded : decode s words types = .ok values)
    (read : Nat → Nat → Except Fault (List UInt8)) :
    decodeFrom s read words types = .ok values := by
  cases shape : checkShape s words types with
  | error f =>
    rw [decode, shape] at decoded
    cases decoded
  | ok _ =>
    have scanned := decode_scanned shape
    rw [decoded] at scanned
    cases scanned with
    | through _ mixed =>
      rw [decodeFrom, shape]
      exact mixed read

theorem decode_misshapen {f : Fault} (refused : decode s words types = .error f)
    (code : f.code = "TOO_MANY_RESULTS" ∨ f.code = "RESULT_COUNT_MISMATCH")
    (read : Nat → Nat → Except Fault (List UInt8)) :
    decodeFrom s read words types = .error f := by
  cases shape : checkShape s words types with
  | error g =>
    rw [decode, shape] at refused
    rw [decodeFrom, shape]
    exact refused
  | ok _ =>
    have scanned := decode_scanned shape
    rw [refused] at scanned
    cases scanned with
    | @stopped t _ =>
      rw [code_resultNeedsMemory t] at code
      exact absurd code (by decide)

theorem decode_needsMemory_iff :
    (∃ f, decode s words types = .error f ∧ f.code = "RESULT_NEEDS_MEMORY") ↔
      checkShape s words types = .ok () ∧ ∃ t ∈ types, t.isBuffer = true := by
  constructor
  · rintro ⟨f, refused, code⟩
    cases shape : checkShape s words types with
    | error g =>
      rw [decode, shape] at refused
      cases refused
      rcases checkShape_code shape with many | differ
      · exact absurd (many.symm.trans code) (by decide)
      · exact absurd (differ.symm.trans code) (by decide)
    | ok _ =>
      have scanned := decode_scanned shape
      rw [refused] at scanned
      cases scanned with
      | stopped first => exact ⟨rfl, _, List.mem_of_find?_eq_some first, List.find?_some first⟩
  · rintro ⟨shape, t, member, buffer⟩
    have scanned := decode_scanned shape
    generalize decode s words types = result at scanned
    cases scanned with
    | stopped first => exact ⟨_, rfl, rfl⟩
    | through scalars _ => exact absurd buffer (List.find?_eq_none.mp scalars t member)

theorem decodeFrom_typed (decoded : decodeFrom s read words types = .ok values) :
    values.map Value.type = types := by
  unfold decodeFrom at decoded
  split at decoded
  · cases decoded
  · rename_i shape
    exact (covered_of_needed (checkShape_ok_iff.mp shape).2).typed decoded

structure Agreement (s : MarshalSettings) (words : List UInt64) (types : List ValueType) :
    Prop where
  within (i : Instance) :
    decodeFromAt? s i.read words types = some (decodeFrom s i.read words types)
  success (values : List Value) : decode s words types = .ok values →
    ∀ i : Instance, decodeFrom s i.read words types = .ok values
  misshapen (f : Fault) : decode s words types = .error f →
    f.code = "TOO_MANY_RESULTS" ∨ f.code = "RESULT_COUNT_MISMATCH" →
    ∀ i : Instance, decodeFrom s i.read words types = .error f
  needsMemory : (∃ f, decode s words types = .error f ∧ f.code = "RESULT_NEEDS_MEMORY") ↔
    (types.length ≤ s.maxResults ∧ wordsNeeded types = words.length) ∧
      ∃ t ∈ types, t.isBuffer = true
  typed (values : List Value) : decode s words types = .ok values → values.map Value.type = types
  typedFrom (i : Instance) (values : List Value) :
    decodeFrom s i.read words types = .ok values → values.map Value.type = types

theorem decoders_agree (s : MarshalSettings) (words : List UInt64) (types : List ValueType) :
    Agreement s words types where
  within i := decodeFromAt_eq s i.read words types
  success _ decoded i := decode_decodeFrom decoded i.read
  misshapen _ refused code i := decode_misshapen refused code i.read
  needsMemory := by rw [decode_needsMemory_iff, checkShape_ok_iff]
  typed _ decoded := decodeFrom_typed (decode_decodeFrom decoded fun _ _ => .ok [])
  typedFrom _ _ decoded := decodeFrom_typed decoded

end Marshal

end Tollgate
