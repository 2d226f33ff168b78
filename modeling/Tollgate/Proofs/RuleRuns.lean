import Tollgate.Guard

namespace Tollgate.Guard

def failuresIn (p : Policy) (c : Contract) (rules : List Rule) : List RuleFailure :=
  (rules.filter Rule.enabled).filterMap fun r =>
    match r.check c p with
    | .ok () => none
    | .error message => some ⟨r.name, r.severity, message⟩

def failuresOf (g : Guard) (c : Contract) : List RuleFailure := failuresIn g.policy c g.rules

def reportOf (g : Guard) (c : Contract) : ValidationReport where
  moduleId := c.hash
  rulesRun := (g.rules.filter Rule.enabled).length
  failures := g.failuresOf c

variable {p : Policy} {c : Contract} {r : Rule} {rules : List Rule}

theorem failuresIn_disabled (off : r.enabled = false) :
    failuresIn p c (r :: rules) = failuresIn p c rules := by
  unfold failuresIn
  rw [List.filter_cons_of_neg (by simp [off])]

theorem failuresIn_passed (on : r.enabled = true) (passed : r.check c p = .ok ()) :
    failuresIn p c (r :: rules) = failuresIn p c rules := by
  unfold failuresIn
  rw [List.filter_cons_of_pos on, List.filterMap_cons, passed]

theorem failuresIn_failed (on : r.enabled = true) {message : String}
    (failed : r.check c p = .error message) :
    failuresIn p c (r :: rules) = ⟨r.name, r.severity, message⟩ :: failuresIn p c rules := by
  unfold failuresIn
  rw [List.filter_cons_of_pos on, List.filterMap_cons, failed]

def extended (report : ValidationReport) (p : Policy) (c : Contract) (rules : List Rule) :
    ValidationReport :=
  { report with
    rulesRun := report.rulesRun + (rules.filter Rule.enabled).length
    failures := report.failures ++ failuresIn p c rules }

theorem extended_nil (report : ValidationReport) : extended report p c [] = report := by
  simp [extended, failuresIn]

theorem extended_disabled (report : ValidationReport) (off : r.enabled = false) :
    extended report p c (r :: rules) = extended report p c rules := by
  unfold extended
  rw [failuresIn_disabled off, List.filter_cons_of_neg (by simp [off])]

theorem extended_passed (report : ValidationReport) (on : r.enabled = true)
    (passed : r.check c p = .ok ()) : extended report p c (r :: rules) =
      extended { report with rulesRun := report.rulesRun + 1 } p c rules := by
  unfold extended
  rw [failuresIn_passed on passed, List.filter_cons_of_pos on, List.length_cons, Nat.add_assoc,
    Nat.add_comm 1]

theorem extended_failed (report : ValidationReport) (on : r.enabled = true) {message : String}
    (failed : r.check c p = .error message) : extended report p c (r :: rules) =
      extended { report with
        rulesRun := report.rulesRun + 1
        failures := report.failures ++ [⟨r.name, r.severity, message⟩] } p c rules := by
  unfold extended
  rw [failuresIn_failed on failed, List.filter_cons_of_pos on, List.length_cons, Nat.add_assoc,
    Nat.add_comm 1, List.append_assoc, List.singleton_append]

theorem runRules_lenient (lenient : p.strictMode = false) (report : ValidationReport)
    (rules : List Rule) : runRules p c report rules = .ok (extended report p c rules) := by
  induction rules generalizing report with
  | nil => rw [runRules, extended_nil]
  | cons r rules ih =>
    cases on : r.enabled with
    | false => rw [runRules, on, extended_disabled report on, ← ih]; rfl
    | true =>
      cases outcome : r.check c p with
      | ok _ => rw [runRules, on, outcome, extended_passed report on outcome, ← ih]; rfl
      | error message =>
        rw [runRules, on, outcome, lenient, extended_failed report on outcome, ← ih]
        rfl

-- A strict pass ends at the first failure, or else it goes over every rule.
theorem runRules_strict (strict : p.strictMode = true) (report : ValidationReport)
    (rules : List Rule) : runRules p c report rules =
      match failuresIn p c rules with
      | [] => .ok (extended report p c rules)
      | f :: _ => .error f := by
  induction rules generalizing report with
  | nil => rw [runRules, extended_nil]; rfl
  | cons r rules ih =>
    cases on : r.enabled with
    | false =>
      rw [runRules, on, extended_disabled report on, failuresIn_disabled on, ← ih]
      rfl
    | true =>
      cases outcome : r.check c p with
      | ok _ =>
        rw [runRules, on, outcome, extended_passed report on outcome,
          failuresIn_passed on outcome, ← ih]
        rfl
      | error message =>
        rw [runRules, on, outcome, strict, failuresIn_failed on outcome]
        rfl

-- Contracts that no rule tells apart come through a pass alike.
theorem runRules_congr {other : Contract}
    (alike : ∀ r ∈ rules, r.check other p = r.check c p) (report : ValidationReport) :
    runRules p other report rules = runRules p c report rules := by
  induction rules generalizing report with
  | nil => rfl
  | cons r rules ih =>
    have rest := ih fun r member => alike r (List.mem_cons_of_mem _ member)
    simp only [runRules, alike r List.mem_cons_self, rest]

variable {g : Guard}

theorem extended_fresh (g : Guard) (c : Contract) :
    extended { moduleId := c.hash } g.policy c g.rules = g.reportOf c := by
  simp [extended, reportOf, failuresOf]

theorem validateModule_skipped (disabled : g.policy.enableValidation = false) (c : Contract) :
    g.validateModule c = (g, .ok { moduleId := c.hash, skipped := true }) := by
  rw [validateModule, disabled]
  rfl

theorem validateModule_reported (enabled : g.policy.enableValidation = true)
    (calm : g.policy.strictMode = false ∨ g.failuresOf c = []) :
    g.validateModule c =
      ((g.failuresOf c).foldl (noteFailure "module_validation_warning")
        (g.countValidation (!(g.failuresOf c).isEmpty)), .ok (g.reportOf c)) := by
  have ran : runRules g.policy c { moduleId := c.hash } g.rules = .ok (g.reportOf c) := by
    rw [← extended_fresh]
    cases strict : g.policy.strictMode with
    | false => exact runRules_lenient strict _ _
    | true =>
      have none : failuresIn g.policy c g.rules = [] := calm.resolve_left (by simp [strict])
      rw [runRules_strict strict, none]
  rw [validateModule, enabled]
  dsimp only
  rw [ran]
  rfl

theorem validateModule_stopped (enabled : g.policy.enableValidation = true)
    (strict : g.policy.strictMode = true) {f : RuleFailure} {rest : List RuleFailure}
    (failed : g.failuresOf c = f :: rest) :
    g.validateModule c = (noteFailure "module_validation_failed" (g.countValidation true) f,
      .error (validationFailed c.hash f)) := by
  have ran : runRules g.policy c { moduleId := c.hash } g.rules = .error f := by
    rw [runRules_strict strict, show failuresIn g.policy c g.rules = f :: rest from failed]
  rw [validateModule, enabled]
  dsimp only
  rw [ran]
  rfl

end Tollgate.Guard
