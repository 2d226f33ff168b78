import Tollgate.Proofs.GuardLog
import Tollgate.Proofs.ParamSchemas

namespace Tollgate

namespace Guard

-- The conditions of a policy on a host call, in the order in which they count.
inductive Condition
  | listed
  | undenied
  | fitting
  | repeatable
  | permitted
deriving Repr, DecidableEq

namespace Condition

def rank : Condition → Nat
  | .listed => 0
  | .undenied => 1
  | .fitting => 2
  | .repeatable => 3
  | .permitted => 4

def Met (p : Policy) (function : String) (args : List Value) (isWrite : Bool) : Condition → Prop
  | .listed => p.allowedHostFunctions = [] ∨ function ∈ p.allowedHostFunctions
  | .undenied => function ∉ p.deniedHostFunctions
  | .fitting => ∀ schema, p.hostParamSchemas.get? function = some schema → Fits schema args
  | .repeatable =>
    isWrite = true → p.enforceIdempotency = false ∨ function ∈ p.idempotentFunctions
  | .permitted =>
    isWrite = true → p.enforceSideEffects = false ∨
      ∃ policy, p.sideEffectPolicies.get? function = some policy ∧ policy.allowed = true

def kind : Condition → FaultKind
  | .fitting => .hostFunction
  | _ => .hostPermission

def code : Condition → String
  | .fitting => "HOST_PARAM_INVALID"
  | _ => "HOST_PERMISSION_DENIED"

-- What the caller is told. The notes of a policy take the place of the general reason.
def reason (p : Policy) (function : String) (args : List Value) : Condition → String
  | .listed => "not in the allow-list"
  | .undenied => "in the deny-list"
  | .fitting =>
    ((p.hostParamSchemas.get? function).bind fun schema => schemaFlaw? schema args).getD ""
  | .repeatable => "write is not declared idempotent"
  | .permitted =>
    match p.sideEffectPolicies.get? function with
    | none => "side effects not allowed"
    | some policy => if policy.notes.isEmpty then "side effects not allowed" else policy.notes

def fault (p : Policy) (function : String) (args : List Value) (c : Condition) : Fault :=
  match c with
  | .fitting => .hostFunction function "HOST_PARAM_INVALID" (c.reason p function args)
  | _ => .hostPermission function (c.reason p function args)

def incident : Condition → String × Nat
  | .listed => ("host_call_denied", 8)
  | .undenied => ("host_call_blacklist", 9)
  | .fitting => ("host_param_schema_violation", 7)
  | .repeatable => ("host_idempotency_violation", 8)
  | .permitted => ("host_side_effect_violation", 8)

def refusal (p : Policy) (function : String) (args : List Value) (c : Condition) : Refusal :=
  ⟨c.incident.1, c.incident.2, c.fault p function args⟩

theorem fault_kind (p : Policy) (function : String) (args : List Value) (c : Condition) :
    (c.fault p function args).kind = c.kind := by
  cases c <;> rfl

theorem fault_code (p : Policy) (function : String) (args : List Value) (c : Condition) :
    (c.fault p function args).code = c.code := by
  cases c <;> rfl

end Condition

-- A condition that a call violates while it meets all those before it.
structure FirstUnmet (p : Policy) (function : String) (args : List Value) (isWrite : Bool)
    (c : Condition) : Prop where
  unmet : ¬c.Met p function args isWrite
  earlier : ∀ d : Condition, d.rank < c.rank → d.Met p function args isWrite

variable {p : Policy} {function : String} {args : List Value} {isWrite : Bool}

theorem exists_firstUnmet {c : Condition} (unmet : ¬c.Met p function args isWrite) :
    ∃ d, FirstUnmet p function args isWrite d := by
  induction rank : c.rank using Nat.strongRecOn generalizing c with
  | ind n ih =>
    by_cases earlier : ∀ d : Condition, d.rank < c.rank → d.Met p function args isWrite
    · exact ⟨c, unmet, earlier⟩
    · push Not at earlier
      obtain ⟨d, lower, other⟩ := earlier
      exact ih d.rank (by omega) other rfl

theorem unlisted_iff :
    (!p.allowedHostFunctions.isEmpty && !p.allowedHostFunctions.contains function) = true ↔
      ¬Condition.listed.Met p function args isWrite := by
  simp [Condition.Met]

theorem denied_iff : p.deniedHostFunctions.contains function = true ↔
    ¬Condition.undenied.Met p function args isWrite := by
  simp [Condition.Met]

theorem fitting_iff : Condition.fitting.Met p function args isWrite ↔
    ((p.hostParamSchemas.get? function).bind fun schema => schemaFlaw? schema args) = none := by
  unfold Condition.Met
  cases p.hostParamSchemas.get? function with
  | none => simp
  | some schema => simp [schemaFlaw_none_iff]

theorem unrepeatable_iff :
    (p.enforceIdempotency && !p.idempotentFunctions.contains function) = true ↔
      ¬Condition.repeatable.Met p function args true := by
  simp [Condition.Met]

theorem permitted_iff :
    (∃ policy, p.sideEffectPolicies.get? function = some policy ∧ policy.allowed = true) ↔
      (p.sideEffectPolicies.get? function).any SideEffectPolicy.allowed = true := by
  cases p.sideEffectPolicies.get? function <;> simp

instance (p : Policy) (function : String) (args : List Value) (isWrite : Bool) :
    (c : Condition) → Decidable (c.Met p function args isWrite)
  | .listed => inferInstanceAs (Decidable (_ ∨ _))
  | .undenied => inferInstanceAs (Decidable (¬_))
  | .fitting => decidable_of_iff _ fitting_iff.symm
  | .repeatable => inferInstanceAs (Decidable (_ → _ ∨ _))
  | .permitted =>
    have := decidable_of_iff _ (@permitted_iff p function).symm
    inferInstanceAs (Decidable (_ → _ ∨ _))

-- The gate as a chain of conditions. This is the one place that opens it.
theorem refusal_chain (p : Policy) (function : String) (args : List Value) (isWrite : Bool) :
    refusal? p function args isWrite =
      if ¬Condition.listed.Met p function args isWrite then
        some (Condition.listed.refusal p function args)
      else if ¬Condition.undenied.Met p function args isWrite then
        some (Condition.undenied.refusal p function args)
      else if ¬Condition.fitting.Met p function args isWrite then
        some (Condition.fitting.refusal p function args)
      else if ¬Condition.repeatable.Met p function args isWrite then
        some (Condition.repeatable.refusal p function args)
      else if ¬Condition.permitted.Met p function args isWrite then
        some (Condition.permitted.refusal p function args)
      else none := by
  unfold refusal?
  by_cases unlisted : ¬Condition.listed.Met p function args isWrite
  · rw [if_pos unlisted, if_pos (unlisted_iff.mpr unlisted)]
    rfl
  rw [if_neg unlisted, if_neg (mt unlisted_iff.mp unlisted)]
  by_cases denied : ¬Condition.undenied.Met p function args isWrite
  · rw [if_pos denied, if_pos (denied_iff.mpr denied)]
    rfl
  rw [if_neg denied, if_neg (mt denied_iff.mp denied)]
  by_cases unfit : ¬Condition.fitting.Met p function args isWrite
  · obtain ⟨reason, flaw⟩ := Option.ne_none_iff_exists'.mp (mt fitting_iff.mpr unfit)
    rw [if_pos unfit]
    simp [Condition.refusal, Condition.fault, Condition.reason, Condition.incident, flaw]
  rw [if_neg unfit, fitting_iff.mp (not_not.mp unfit)]
  -- The rest is for writes only.
  cases isWrite with
  | false => simp [Condition.Met]
  | true =>
    dsimp only
    rw [if_neg (by simp)]
    by_cases unrepeatable : ¬Condition.repeatable.Met p function args true
    · rw [if_pos unrepeatable, if_pos (unrepeatable_iff.mpr unrepeatable)]
      rfl
    rw [if_neg unrepeatable, if_neg (mt unrepeatable_iff.mp unrepeatable)]
    cases enforced : p.enforceSideEffects with
    | false => simp [Condition.Met, enforced]
    | true =>
      cases found : p.sideEffectPolicies.get? function with
      | none =>
        simp [Condition.Met, enforced, found, Condition.refusal, Condition.fault,
          Condition.reason, Condition.incident]
      | some policy =>
        cases allowed : policy.allowed with
        | true => simp [Condition.Met, found, allowed]
        | false =>
          simp [Condition.Met, enforced, found, allowed, Condition.refusal, Condition.fault,
            Condition.reason, Condition.incident]

theorem refusal_none (met : ∀ c : Condition, c.Met p function args isWrite) :
    refusal? p function args isWrite = none := by
  rw [refusal_chain]
  simp [met]

theorem refusal_first {c : Condition} (first : FirstUnmet p function args isWrite c) :
    refusal? p function args isWrite = some (c.refusal p function args) := by
  obtain ⟨unmet, earlier⟩ := first
  rw [refusal_chain]
  cases c with
  | listed => simp [unmet]
  | undenied => simp [unmet, earlier .listed (by decide)]
  | fitting => simp [unmet, earlier .listed (by decide), earlier .undenied (by decide)]
  | repeatable =>
    simp [unmet, earlier .listed (by decide), earlier .undenied (by decide),
      earlier .fitting (by decide)]
  | permitted =>
    simp [unmet, earlier .listed (by decide), earlier .undenied (by decide),
      earlier .fitting (by decide), earlier .repeatable (by decide)]

theorem refusal_none_iff : refusal? p function args isWrite = none ↔
    ∀ c : Condition, c.Met p function args isWrite := by
  constructor
  · intro passed c
    by_contra unmet
    obtain ⟨d, first⟩ := exists_firstUnmet unmet
    rw [refusal_first first] at passed
    cases passed
  · exact refusal_none

theorem refusal_some {r : Refusal} (refused : refusal? p function args isWrite = some r) :
    ∃ c, FirstUnmet p function args isWrite c ∧ r = c.refusal p function args := by
  have unmet : ¬∀ c : Condition, c.Met p function args isWrite := by
    intro met
    rw [refusal_none met] at refused
    cases refused
  obtain ⟨c, unmet⟩ := not_forall.mp unmet
  obtain ⟨d, first⟩ := exists_firstUnmet unmet
  rw [refusal_first first] at refused
  cases refused
  exact ⟨d, first, rfl⟩

theorem validateHostCall_ok_iff {g : Guard} :
    (g.validateHostCall function args isWrite).2 = .ok () ↔
      ∀ c : Condition, c.Met g.policy function args isWrite := by
  rw [← refusal_none_iff, validateHostCall_noting]
  cases refusal? g.policy function args isWrite with
  | none => simp
  | some r => simp

structure Gated (g : Guard) (function : String) (args : List Value) (isWrite : Bool) : Prop where
  passes : (g.validateHostCall function args isWrite).2 = .ok () ↔
    ∀ c : Condition, c.Met g.policy function args isWrite
  passed : (g.validateHostCall function args isWrite).2 = .ok () →
    (g.validateHostCall function args isWrite).1 =
      { g with stats := { g.stats with hostCallsValidated := g.stats.hostCallsValidated + 1 } }
  -- One violation is counted and one incident goes to the log, which keeps what it has room for.
  refused : ∀ f, (g.validateHostCall function args isWrite).2 = .error f →
    ∃ c : Condition, FirstUnmet g.policy function args isWrite c ∧
      f = c.fault g.policy function args ∧ f.kind = c.kind ∧ f.code = c.code ∧
      (g.validateHostCall function args isWrite).1 =
        { g with
          stats := { g.stats with hostCallViolations := g.stats.hostCallViolations + 1 }
          incidents := retained g.policy.maxRecentEvents g.incidents
            (c.refusal g.policy function args).incident }

theorem hostCall_gated (g : Guard) (function : String) (args : List Value) (isWrite : Bool) :
    Gated g function args isWrite := by
  have answer := validateHostCall_noting g function args isWrite
  refine ⟨validateHostCall_ok_iff, ?_, ?_⟩
  · intro ok
    have clear := refusal_none (validateHostCall_ok_iff.mp ok)
    rw [answer, clear]
  · intro f error
    cases refused : refusal? g.policy function args isWrite with
    | none =>
      rw [answer, refused] at error
      cases error
    | some r =>
      obtain ⟨c, first, rfl⟩ := refusal_some refused
      rw [answer, refused] at error ⊢
      cases error
      exact ⟨c, first, rfl, Condition.fault_kind _ _ _ c, Condition.fault_code _ _ _ c, rfl⟩

-- A function on both lists is refused by the second one.
example : Condition.listed.Met
      { allowedHostFunctions := ["burn"], deniedHostFunctions := ["burn"] } "burn" [] true ∧
    ¬Condition.undenied.Met
      { allowedHostFunctions := ["burn"], deniedHostFunctions := ["burn"] } "burn" [] true := by
  decide

theorem Condition.met_args {c : Condition} (others : List Value) (other : c ≠ .fitting)
    (met : c.Met p function args isWrite) : c.Met p function others isWrite := by
  cases c with
  | fitting => exact absurd rfl other
  | listed => exact met
  | undenied => exact met
  | repeatable => exact met
  | permitted => exact met

-- Once one call to a function has passed, others pass if their arguments fit.
theorem passes_iff_fits {g : Guard} {schema : List ParamRule}
    (shaped : g.policy.hostParamSchemas.get? function = some schema)
    (accepted : (g.validateHostCall function args isWrite).2 = .ok ()) (others : List Value) :
    (g.validateHostCall function others isWrite).2 = .ok () ↔ Fits schema others := by
  rw [validateHostCall_ok_iff] at accepted ⊢
  constructor
  · intro met
    exact met .fitting schema shaped
  · intro fits c
    by_cases same : c = .fitting
    · subst same
      intro found known
      cases shaped.symm.trans known
      exact fits
    · exact Condition.met_args others same (accepted c)

structure Vouched (g : Guard) (function : String) (isWrite : Bool) (schema : List ParamRule)
    (args : List Value) : Prop extends Fits schema args where
  early : ∀ (i : Nat) (rule : ParamRule), schema[i]? = some rule →
    i < schema.countP ParamRule.required → ∃ arg, args[i]? = some arg ∧ rule.Admits arg
  exactly : (∀ others, (g.validateHostCall function others isWrite).2 = .ok () →
    Supplies schema others) ↔ RequiredFirst schema

theorem accepted_vouched {g : Guard} {schema : List ParamRule}
    (shaped : g.policy.hostParamSchemas.get? function = some schema)
    (accepted : (g.validateHostCall function args isWrite).2 = .ok ()) :
    Vouched g function isWrite schema args := by
  have fits : Fits schema args := (passes_iff_fits shaped accepted args).mp accepted
  refine ⟨fits, fun i rule here early => fits.supplied here early, ?_⟩
  simp only [passes_iff_fits shaped accepted]
  exact fits_supplies_iff

def schemaPolicy (function : String) (schema : List ParamRule) : Policy :=
  { hostParamSchemas := Table.empty.insert function schema, enforceSideEffects := false }

def eventSchema : List ParamRule := [⟨.string, true, 4⟩, ⟨.bytes, false, 0⟩]

theorem accepted_vouched_event :
    (schemaPolicy "emit_event" eventSchema).hostParamSchemas.get? "emit_event" = some eventSchema ∧
      ((ofPolicy (schemaPolicy "emit_event" eventSchema)).validateHostCall "emit_event"
        [.string "ok"] true).2 = .ok () ∧
      Vouched (ofPolicy (schemaPolicy "emit_event" eventSchema)) "emit_event" true eventSchema
        [.string "ok"] :=
  ⟨rfl, rfl, accepted_vouched rfl rfl⟩

-- The required rule comes second, and one argument is enough for the count.
def lateSchema : List ParamRule := [⟨.i32, false, 0⟩, ⟨.i32, true, 0⟩]

theorem required_unsupplied :
    (schemaPolicy "f" lateSchema).hostParamSchemas.get? "f" = some lateSchema ∧
      ((ofPolicy (schemaPolicy "f" lateSchema)).validateHostCall "f" [.i32 1] false).2 = .ok () ∧
      lateSchema[1]? = some ⟨.i32, true, 0⟩ ∧ [Value.i32 1][1]? = none :=
  ⟨rfl, rfl, rfl, rfl⟩

end Guard

end Tollgate
