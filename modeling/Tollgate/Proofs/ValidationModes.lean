import Tollgate.Proofs.DeclaredMemory
import Tollgate.Proofs.GuardLog
import Tollgate.Proofs.Tables

namespace Tollgate

-- The failures of a list of rules, rule by rule.
inductive Failing (c : Contract) (p : Policy) : List Rule → List RuleFailure → Prop
  | done : Failing c p [] []
  | disabled {r : Rule} {rules : List Rule} {failures : List RuleFailure} : r.enabled = false →
      Failing c p rules failures → Failing c p (r :: rules) failures
  | passed {r : Rule} {rules : List Rule} {failures : List RuleFailure} : r.enabled = true →
      r.check c p = .ok () → Failing c p rules failures → Failing c p (r :: rules) failures
  | failed {r : Rule} {rules : List Rule} {failures : List RuleFailure} {message : String} :
      r.enabled = true → r.check c p = .error message → Failing c p rules failures →
      Failing c p (r :: rules) (⟨r.name, r.severity, message⟩ :: failures)

namespace Failing

variable {c : Contract} {p q : Policy} {rules : List Rule} {failures others : List RuleFailure}

theorem unique (first : Failing c p rules failures) (second : Failing c p rules others) :
    failures = others := by
  induction first generalizing others with
  | done =>
    cases second
    rfl
  | disabled off rest ih =>
    cases second with
    | disabled _ rest => exact ih rest
    | passed on _ _ => simp [off] at on
    | failed on _ _ => simp [off] at on
  | passed on ok rest ih =>
    cases second with
    | disabled off _ => simp [on] at off
    | passed _ _ rest => exact ih rest
    | failed _ error _ => simp [ok] at error
  | failed on error rest ih =>
    cases second with
    | disabled off _ => simp [on] at off
    | passed _ ok _ => simp [error] at ok
    | failed _ again rest =>
      cases error.symm.trans again
      rw [ih rest]

theorem congr (alike : ∀ r ∈ rules, r.check c q = r.check c p)
    (failing : Failing c p rules failures) : Failing c q rules failures := by
  induction failing with
  | done => exact .done
  | disabled off rest ih => exact .disabled off (ih fun r member => alike r (.tail _ member))
  | passed on ok rest ih =>
    exact .passed on ((alike _ (.head _)).trans ok) (ih fun r member => alike r (.tail _ member))
  | failed on error rest ih =>
    exact .failed on ((alike _ (.head _)).trans error)
      (ih fun r member => alike r (.tail _ member))

end Failing

namespace Guard

theorem failing_filterMap (c : Contract) (p : Policy) (rules : List Rule) :
    Failing c p rules ((rules.filter Rule.enabled).filterMap fun r =>
      match r.check c p with
      | .ok () => none
      | .error message => some ⟨r.name, r.severity, message⟩) := by
  induction rules with
  | nil => exact .done
  | cons r rest ih =>
    cases on : r.enabled with
    | false =>
      rw [List.filter_cons_of_neg (by simp [on])]
      exact .disabled on ih
    | true =>
      rw [List.filter_cons_of_pos on, List.filterMap_cons]
      cases outcome : r.check c p with
      | ok _ => exact .passed on outcome ih
      | error message => exact .failed on outcome ih

theorem failuresOf_failing (g : Guard) (c : Contract) :
    Failing c g.policy g.rules (g.failuresOf c) := failing_filterMap c g.policy g.rules

variable {g : Guard} {c : Contract}

theorem validateModule_permissive (enabled : g.policy.enableValidation = true)
    (lenient : g.policy.strictMode = false) (c : Contract) :
    (g.validateModule c).2 = .ok (g.reportOf c) := by
  rw [validateModule_reported enabled (.inl lenient)]

inductive StrictAnswer (g : Guard) (c : Contract) : Except Fault ValidationReport → Prop
  | passed : g.failuresOf c = [] → StrictAnswer g c (.ok (g.reportOf c))
  | refused {f : RuleFailure} {rest : List RuleFailure} : g.failuresOf c = f :: rest →
      StrictAnswer g c (.error (validationFailed c.hash f))

theorem validateModule_strict (enabled : g.policy.enableValidation = true)
    (strict : g.policy.strictMode = true) (c : Contract) :
    StrictAnswer g c (g.validateModule c).2 := by
  cases failed : g.failuresOf c with
  | nil =>
    rw [validateModule_reported enabled (.inr failed)]
    exact .passed failed
  | cons f rest =>
    rw [validateModule_stopped enabled strict failed]
    exact .refused failed

theorem validateModule_stats (enabled : g.policy.enableValidation = true) (c : Contract) :
    (g.validateModule c).1.stats = (g.countValidation (!(g.failuresOf c).isEmpty)).stats := by
  rw [validateModule_noting, enabled]
  rfl

structure Carries (fault : Fault) (f : RuleFailure) : Prop where
  code : fault.code = "MODULE_VALIDATION_FAILED"
  severity : fault.severity = f.severity
  details : fault.details = some s!"{f.rule}: {f.message}"
  rule : fault.context.get? "rule" = some (.text f.rule)

theorem validationFailed_carries (moduleId : String) (f : RuleFailure) :
    Carries (validationFailed moduleId f) f := by
  refine ⟨rfl, rfl, rfl, ?_⟩
  unfold validationFailed Fault.withContext
  rw [Table.get_insert, Table.get_insert]
  rfl

-- One validation more, of which `failed` have failed.
structure Counted (before after : Guard) (failed : Nat) : Prop where
  total : after.stats.totalValidations = before.stats.totalValidations + 1
  failed : after.stats.failedValidations = before.stats.failedValidations + failed

theorem validateModule_counted (enabled : g.policy.enableValidation = true) (c : Contract) :
    Counted g (g.validateModule c).1 (if g.failuresOf c = [] then 0 else 1) := by
  have stats := validateModule_stats enabled c
  refine ⟨?_, ?_⟩
  · rw [stats]
    rfl
  · rw [stats]
    cases g.failuresOf c <;> rfl

def SomeFails (g : Guard) (c : Contract) : Prop :=
  ∃ r ∈ g.rules, r.enabled = true ∧ ∃ message, r.check c g.policy = .error message

theorem someFails_iff : SomeFails g c ↔ g.failuresOf c ≠ [] := by
  rw [ne_eq, failuresOf_eq_nil_iff]
  unfold SomeFails
  constructor
  · rintro ⟨r, member, on, message, error⟩ passes
    cases error.symm.trans (passes r member on)
  · intro fails
    push Not at fails
    obtain ⟨r, member, on, error⟩ := fails
    cases outcome : r.check c g.policy with
    | ok _ => exact absurd outcome error
    | error message => exact ⟨r, member, on, message, outcome⟩

-- Two guards with the same rules, whose policies differ in their strictness alone.
structure Twins (strict permissive : Guard) : Prop where
  rules : strict.rules = permissive.rules
  policy : strict.policy = { permissive.policy with strictMode := true }
  lenient : permissive.policy.strictMode = false

-- What a strict guard `s` and a permissive guard `t` make of a contract.
structure Agree (s t : Guard) (c : Contract) (report : ValidationReport) : Prop where
  reported : (t.validateModule c).2 = .ok report
  failures : Failing c t.policy t.rules report.failures
  rulesRun : report.rulesRun = t.rules.countP Rule.enabled
  passes : (∃ own, (s.validateModule c).2 = .ok own) ↔ report.failures = []
  same : ∀ own, (s.validateModule c).2 = .ok own → own = report
  refuses : ∀ fault, (s.validateModule c).2 = .error fault →
    ∃ f rest, report.failures = f :: rest ∧ Carries fault f
  counted : ∃ failed, Counted s (s.validateModule c).1 failed ∧
    Counted t (t.validateModule c).1 failed ∧
    (SomeFails t c → failed = 1) ∧ (¬SomeFails t c → failed = 0)

theorem Twins.failures {s t : Guard} (twins : Twins s t) {c : Contract}
    (blind : ∀ r ∈ t.rules, r.check c s.policy = r.check c t.policy) :
    s.failuresOf c = t.failuresOf c := by
  have own := s.failuresOf_failing c
  rw [twins.rules] at own
  exact own.unique ((t.failuresOf_failing c).congr blind)

theorem Twins.report {s t : Guard} (twins : Twins s t) {c : Contract}
    (blind : ∀ r ∈ t.rules, r.check c s.policy = r.check c t.policy) :
    s.reportOf c = t.reportOf c := by
  unfold reportOf
  rw [twins.rules, twins.failures blind]

theorem modes_agree {s t : Guard} (twins : Twins s t)
    (enabled : t.policy.enableValidation = true) {c : Contract}
    (blind : ∀ r ∈ t.rules, r.check c s.policy = r.check c t.policy) :
    ∃ report, Agree s t c report := by
  have failures := twins.failures blind
  have on : s.policy.enableValidation = true := by
    rw [twins.policy]
    exact enabled
  have strict : s.policy.strictMode = true := by
    rw [twins.policy]
  have answer := s.validateModule_strict on strict c
  refine ⟨t.reportOf c, {
    reported := t.validateModule_permissive enabled twins.lenient c
    failures := t.failuresOf_failing c
    rulesRun := List.countP_eq_length_filter.symm
    passes := ?_
    same := ?_
    refuses := ?_
    counted := ?_ }⟩
  · change _ ↔ t.failuresOf c = []
    rw [← failures]
    generalize (s.validateModule c).2 = result at answer
    cases answer with
    | passed clean => simp [clean]
    | refused failed => simp [failed]
  -- A contract without failures leaves the strict guard's report as full as the other one.
  · intro own ok
    rw [ok] at answer
    cases answer with
    | passed clean => exact twins.report blind
  · intro fault error
    rw [error] at answer
    cases answer with
    | refused failed =>
      exact ⟨_, _, failures.symm.trans failed, validationFailed_carries _ _⟩
  · refine ⟨_, s.validateModule_counted on c, ?_, ?_, ?_⟩
    · rw [failures]
      exact t.validateModule_counted enabled c
    · intro fails
      rw [failures, if_neg (someFails_iff.mp fails)]
    · intro clean
      rw [failures, if_pos (not_not.mp (mt someFails_iff.mpr clean))]

-- Three rules: one that fails, one that is switched off, and one that looks at the policy and fails.
def pickyRules : List Rule :=
  [⟨"named", .low, true, fun c _ => if c.hash = "" then .ok () else .error "has a name"⟩,
    ⟨"never", .critical, false, fun _ _ => .error "never"⟩,
    ⟨"paged", .high, true, fun _ p => .error s!"{p.maxModuleMemoryPages} pages"⟩]

theorem modes_agree_picky :
    Twins { policy := {}, rules := pickyRules }
        { policy := { strictMode := false }, rules := pickyRules } ∧
      ∃ report, Agree { policy := {}, rules := pickyRules }
        { policy := { strictMode := false }, rules := pickyRules } ⟨"c", 0, {}⟩ report := by
  have twins : Twins { policy := {}, rules := pickyRules }
      { policy := { strictMode := false }, rules := pickyRules } := ⟨rfl, rfl, rfl⟩
  refine ⟨twins, modes_agree twins rfl ?_⟩
  intro r member
  simp only [pickyRules, List.mem_cons, List.not_mem_nil, or_false] at member
  rcases member with rfl | rfl | rfl <;> rfl

end Guard

end Tollgate
