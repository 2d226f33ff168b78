import Mathlib.Data.List.Basic
import Tollgate.Guard

namespace Tollgate

-- An argument that a rule lets pass: it has the rule's type, and its bytes keep to the ceiling.
def ParamRule.Admits (rule : ParamRule) (arg : Value) : Prop :=
  arg.type = rule.type ∧
    ∀ bytes, arg.payload? = some bytes → 0 < rule.maxSize → bytes.length ≤ rule.maxSize

namespace Guard

structure Fits (schema : List ParamRule) (args : List Value) : Prop where
  enough : schema.countP ParamRule.required ≤ args.length
  each : ∀ (i : Nat) (rule : ParamRule) (arg : Value), schema[i]? = some rule →
    args[i]? = some arg → rule.Admits arg

theorem admits_iff (rule : ParamRule) (arg : Value) :
    rule.Admits arg ↔ arg.type = rule.type ∧
      ¬(rule.maxSize > 0 ∧ (arg.payload?.getD []).length > rule.maxSize) := by
  unfold ParamRule.Admits
  cases arg.payload? with
  | none => simp
  | some bytes => simp

-- The positions count on from wherever the search began, and only the message tells.
theorem schemaFlawFrom_none_iff (index : Nat) (schema : List ParamRule) (args : List Value) :
    schemaFlawFrom index schema args = none ↔
      ∀ (i : Nat) (rule : ParamRule) (arg : Value), schema[i]? = some rule →
        args[i]? = some arg → rule.Admits arg := by
  induction schema generalizing index args with
  | nil => simp [schemaFlawFrom]
  | cons rule rules ih =>
    cases args with
    | nil => simp [schemaFlawFrom]
    | cons arg args =>
      have split : (∀ (i : Nat) (r : ParamRule) (a : Value), (rule :: rules)[i]? = some r →
          (arg :: args)[i]? = some a → r.Admits a) ↔ rule.Admits arg ∧
            ∀ (i : Nat) (r : ParamRule) (a : Value), rules[i]? = some r → args[i]? = some a →
              r.Admits a := by
        constructor
        · intro all
          exact ⟨all 0 rule arg rfl rfl, fun i => all (i + 1)⟩
        · rintro ⟨first, rest⟩ i r a here there
          cases i with
          | zero =>
            cases here
            cases there
            exact first
          | succ i => exact rest i r a here there
      rw [schemaFlawFrom, split, admits_iff, ← ih (index + 1)]
      by_cases type : arg.type = rule.type
      · by_cases large : rule.maxSize > 0 ∧ (arg.payload?.getD []).length > rule.maxSize
        · simp [type, large]
        · simp [type, large]
      · simp [type]

theorem schemaFlaw_none_iff (schema : List ParamRule) (args : List Value) :
    schemaFlaw? schema args = none ↔ Fits schema args := by
  unfold schemaFlaw?
  by_cases few : args.length < schema.countP ParamRule.required
  · simp only [few, if_true]
    constructor
    · intro none
      cases none
    · intro fits
      have enough := fits.enough
      omega
  · simp only [few, if_false, schemaFlawFrom_none_iff]
    exact ⟨fun each => ⟨by omega, each⟩, Fits.each⟩

def Supplies (schema : List ParamRule) (args : List Value) : Prop :=
  ∀ (i : Nat) (rule : ParamRule), schema[i]? = some rule → rule.required = true →
    ∃ arg, args[i]? = some arg ∧ rule.Admits arg

-- No optional rule stands before a required one.
def RequiredFirst (schema : List ParamRule) : Prop :=
  schema.Pairwise fun earlier later => later.required = true → earlier.required = true

variable {schema : List ParamRule} {args : List Value}

theorem Fits.supplied (fits : Fits schema args) {i : Nat} {rule : ParamRule}
    (here : schema[i]? = some rule) (early : i < schema.countP ParamRule.required) :
    ∃ arg, args[i]? = some arg ∧ rule.Admits arg := by
  have inside : i < args.length := Nat.lt_of_lt_of_le early fits.enough
  have there : args[i]? = some args[i] := List.getElem?_eq_getElem inside
  exact ⟨args[i], there, fits.each i rule args[i] here there⟩

theorem required_count_le {n : Nat}
    (early : ∀ (i : Nat) (rule : ParamRule), schema[i]? = some rule → rule.required = true → i < n) :
    schema.countP ParamRule.required ≤ n := by
  have late : (schema.drop n).countP ParamRule.required = 0 := by
    rw [List.countP_eq_zero]
    intro rule member required
    obtain ⟨i, here⟩ := List.mem_iff_getElem?.mp member
    rw [List.getElem?_drop] at here
    have below := early (n + i) rule here required
    omega
  have split : schema.countP ParamRule.required =
      (schema.take n).countP ParamRule.required + (schema.drop n).countP ParamRule.required := by
    rw [← List.countP_append, List.take_append_drop]
  have most : (schema.take n).countP ParamRule.required ≤ (schema.take n).length :=
    List.countP_le_length
  rw [List.length_take] at most
  omega

-- Required rules come first when the count of them reaches to the last one.
theorem requiredFirst_iff : RequiredFirst schema ↔
    ∀ (i : Nat) (rule : ParamRule), schema[i]? = some rule → rule.required = true →
      i < schema.countP ParamRule.required := by
  unfold RequiredFirst
  induction schema with
  | nil => simp
  | cons first rest ih =>
    rw [List.pairwise_cons, ih]
    cases required : first.required with
    | true =>
      have more : (first :: rest).countP ParamRule.required =
          rest.countP ParamRule.required + 1 := List.countP_cons_of_pos required
      rw [more]
      constructor
      · rintro ⟨-, early⟩ i rule here wanted
        cases i with
        | zero => omega
        | succ i =>
          have below := early i rule here wanted
          omega
      · intro early
        refine ⟨fun _ _ _ => rfl, fun i rule here wanted => ?_⟩
        have below := early (i + 1) rule here wanted
        omega
    | false =>
      have same : (first :: rest).countP ParamRule.required =
          rest.countP ParamRule.required := List.countP_cons_of_neg (by simp [required])
      rw [same]
      constructor
      · rintro ⟨optional, -⟩ i rule here wanted
        cases i with
        | zero =>
          cases here
          rw [required] at wanted
          cases wanted
        | succ i => cases optional rule (List.mem_of_getElem? here) wanted
      · -- The optional rule takes a place, so that the count would have to exceed itself.
        intro early
        have fewer : rest.countP ParamRule.required ≤ rest.countP ParamRule.required - 1 := by
          apply required_count_le
          intro i rule here wanted
          have below := early (i + 1) rule here wanted
          omega
        have none : rest.countP ParamRule.required = 0 := by omega
        rw [List.countP_eq_zero] at none
        refine ⟨fun later member wanted => absurd wanted (none later member), ?_⟩
        intro i rule here wanted
        exact absurd wanted (none rule (List.mem_of_getElem? here))

def blank : ValueType → Value
  | .i32 => .i32 0
  | .u32 => .u32 0
  | .i64 => .i64 0
  | .u64 => .u64 0
  | .f32 => .f32 0
  | .f64 => .f64 0
  | .bool => .bool false
  | .string => .string ""
  | .bytes => .bytes []

theorem admits_blank (rule : ParamRule) : rule.Admits (blank rule.type) := by
  unfold ParamRule.Admits
  cases rule.type <;> simp [blank, Value.type, Value.payload?, Text.bytesOf]

def leastArgs (schema : List ParamRule) : List Value :=
  (schema.take (schema.countP ParamRule.required)).map fun rule => blank rule.type

theorem leastArgs_length (schema : List ParamRule) :
    (leastArgs schema).length = schema.countP ParamRule.required := by
  have most : schema.countP ParamRule.required ≤ schema.length := List.countP_le_length
  simp [leastArgs, most]

theorem leastArgs_fits (schema : List ParamRule) : Fits schema (leastArgs schema) := by
  refine ⟨Nat.le_of_eq (leastArgs_length schema).symm, ?_⟩
  intro i rule arg here there
  unfold leastArgs at there
  rw [List.getElem?_map, Option.map_eq_some_iff] at there
  obtain ⟨other, taken, rfl⟩ := there
  rw [List.getElem?_take] at taken
  split at taken
  · cases here.symm.trans taken
    exact admits_blank rule
  · cases taken

theorem fits_supplies_iff :
    (∀ args, Fits schema args → Supplies schema args) ↔ RequiredFirst schema := by
  rw [requiredFirst_iff]
  constructor
  · intro supplied i rule here required
    obtain ⟨arg, there, -⟩ := supplied _ (leastArgs_fits schema) i rule here required
    have inside := (List.getElem?_eq_some_iff.mp there).1
    rwa [leastArgs_length] at inside
  · intro early args fits i rule here required
    exact fits.supplied here (early i rule here required)

end Guard

end Tollgate
