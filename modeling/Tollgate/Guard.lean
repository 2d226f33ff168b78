import Tollgate.CallContext
import Tollgate.Contract

namespace Tollgate

structure Rule where
  name : String
  severity : Severity
  enabled : Bool := true
  check : Contract → Policy → Except String Unit

inductive LimitPhase
  | preExecution
  | postExecution
deriving Repr, DecidableEq, Inhabited

structure LimitChecker where
  name : String
  phase : LimitPhase
  enabled : Bool := true
  check : CallContext → Policy → Nat → Except Fault Unit

-- Indicators that are scored together, weighted by a severity from 1 to 10.
structure ThreatPattern where
  name : String
  indicators : List String
  severity : Nat
deriving Repr, DecidableEq, Inhabited

structure Scan where
  id : String
  moduleId : String
  score : Float
  alerts : List String
  blocked : Bool
deriving Inhabited

structure Incident where
  kind : String
  severity : Nat
  message : String
deriving Repr, DecidableEq, Inhabited

structure RuleFailure where
  rule : String
  severity : Severity
  message : String
deriving Repr, DecidableEq, Inhabited

structure ValidationReport where
  moduleId : String
  rulesRun : Nat := 0
  failures : List RuleFailure := []
  skipped : Bool := false
deriving Repr, DecidableEq, Inhabited

def ValidationReport.passed (r : ValidationReport) : Bool := r.failures.isEmpty

structure GuardStats where
  totalValidations : Nat := 0
  failedValidations : Nat := 0
  threatsDetected : Nat := 0
  threatsBlocked : Nat := 0
  limitViolations : Nat := 0
  hostCallsValidated : Nat := 0
  hostCallViolations : Nat := 0
deriving Repr, DecidableEq, Inhabited

namespace Rule

def structureRule : Rule where
  name := "module_structure"
  severity := .critical
  check c _ :=
    if c.module.exportedFunctions.isEmpty then .error "module exports no functions" else .ok ()

def importRule : Rule where
  name := "import_validation"
  severity := .high
  check c p :=
    match c.module.imports.find? fun i => !p.allowedImports.contains i.space with
    | some i => .error s!"import {i.text} is not allowed"
    | none => .ok ()

def memoryRule : Rule where
  name := "memory_limits"
  severity := .medium
  check c p :=
    match c.module.declaredMemory? with
    | none => .ok ()
    | some l =>
      let ceiling := p.maxModuleMemoryPages
      if ceiling < l.least then .error s!"minimum of {l.least} pages exceeds {ceiling}"
      else match l.most with
        | some most =>
          if ceiling < most then .error s!"maximum of {most} pages exceeds {ceiling}"
          else .ok ()
        | none => .ok ()

def defaults : List Rule := [structureRule, importRule, memoryRule]

def describe (r : Rule) : String :=
  Text.openShape "ValidationRule"
    [("name", Text.shown r.name), ("severity", r.severity.title),
      ("enabled", Text.shownBool r.enabled)]

end Rule

namespace LimitChecker

def executionTime : LimitChecker where
  name := "execution_time"
  phase := .preExecution
  check c _ now := if c.isExpired now then .error (.timedOut c.timeout) else .ok ()

def memoryUsage : LimitChecker where
  name := "memory_usage"
  phase := .postExecution
  check c p _ :=
    let limit := min p.maxMemoryUsage c.memoryLimit
    if limit < c.memoryUsed then .error (.memoryLimitExceeded c.memoryUsed limit) else .ok ()

def resourceFee : LimitChecker where
  name := "resource_fee"
  phase := .postExecution
  check c _ _ :=
    if c.feeLimit < c.resourceUsed then .error (.resourceExhausted c.resourceUsed c.feeLimit)
    else .ok ()

def defaults : List LimitChecker := [executionTime, memoryUsage, resourceFee]

def describe (c : LimitChecker) : String :=
  let phase := match c.phase with
    | .preExecution => "PreExecution"
    | .postExecution => "PostExecution"
  Text.openShape "LimitChecker"
    [("name", Text.shown c.name), ("phase", phase), ("enabled", Text.shownBool c.enabled)]

end LimitChecker

namespace ThreatPattern

def defaults : List ThreatPattern :=
  [⟨"infinite_loop", ["high_cpu_usage", "long_execution_time"], 8⟩,
    ⟨"memory_bomb", ["rapid_memory_growth", "large_allocations"], 9⟩,
    ⟨"malicious_imports", ["unauthorized_imports", "suspicious_functions"], 7⟩]

-- The weight of one indicator: a set flag counts 0.2 and a number a tenth of itself.
def weight : Value → Float
  | .bool true => 0.2
  | v =>
    match v.number? with
    | some bits => Float.ofBits bits * 0.1
    | none => 0.0

-- The sum over the indicators that are present, in order. An empty sum is the negative zero.
def score (p : ThreatPattern) (data : Table Value) : Float :=
  let raw := (p.indicators.filterMap data.get?).foldl (fun sum v => sum + weight v) (-0.0)
  raw * p.severity.toFloat / 10.0

end ThreatPattern

structure Guard where
  policy : Policy
  rules : List Rule := Rule.defaults
  checkers : List LimitChecker := LimitChecker.defaults
  patterns : List ThreatPattern := ThreatPattern.defaults
  stats : GuardStats := {}
  incidents : List Incident := []
  scans : List Scan := []
  scansMade : Nat := 0

namespace Guard

def ofPolicy (p : Policy) : Guard := { policy := p }

instance : Inhabited Guard := ⟨ofPolicy {}⟩

-- A full log makes room by dropping its oldest entries; a log without room stays as it is.
def record (g : Guard) (kind : String) (severity : Nat) (message : String) : Guard :=
  let capacity := g.policy.maxRecentEvents
  if capacity = 0 then g
  else
    { g with incidents :=
      g.incidents.drop (g.incidents.length + 1 - capacity) ++ [⟨kind, severity, message⟩] }

def addRule (g : Guard) (r : Rule) : Guard := { g with rules := g.rules ++ [r] }

def addChecker (g : Guard) (c : LimitChecker) : Guard := { g with checkers := g.checkers ++ [c] }

def addPattern (g : Guard) (p : ThreatPattern) : Guard := { g with patterns := g.patterns ++ [p] }

def setRule (g : Guard) (name : String) (enabled : Bool) : Guard × Bool :=
  ({ g with rules := g.rules.map fun r => if r.name = name then { r with enabled := enabled } else r },
    g.rules.any fun r => r.name == name)

def severityScore : Severity → Nat
  | .low => 3
  | .medium => 5
  | .high => 7
  | .critical => 9

def countValidation (g : Guard) (failed : Bool) : Guard :=
  { g with stats :=
    { g.stats with
      totalValidations := g.stats.totalValidations + 1
      failedValidations := g.stats.failedValidations + (if failed then 1 else 0) } }

def validationFailed (moduleId : String) (f : RuleFailure) : Fault :=
  ((((Fault.validation "MODULE_VALIDATION_FAILED" "Module failed validation").withSeverity
    f.severity).withDetails s!"{f.rule}: {f.message}").withContext "rule"
    (.text f.rule)).withContext "module_id" (.text moduleId)

-- One pass over the rules that are enabled. Strict mode ends it at the first failure.
def runRules (p : Policy) (c : Contract) (report : ValidationReport) :
    List Rule → Except RuleFailure ValidationReport
  | [] => .ok report
  | r :: rules =>
    if !r.enabled then runRules p c report rules
    else
      let report := { report with rulesRun := report.rulesRun + 1 }
      match r.check c p with
      | .ok () => runRules p c report rules
      | .error message =>
        let failure : RuleFailure := ⟨r.name, r.severity, message⟩
        if p.strictMode then .error failure
        else runRules p c { report with failures := report.failures ++ [failure] } rules

def noteFailure (kind : String) (g : Guard) (f : RuleFailure) : Guard :=
  g.record kind (severityScore f.severity) s!"{f.rule}: {f.message}"

-- Checks a contract. Strict mode refuses it at the first failure; otherwise the report lists all.
def validateModule (g : Guard) (c : Contract) : Guard × Except Fault ValidationReport :=
  let fresh : ValidationReport := { moduleId := c.hash }
  if !g.policy.enableValidation then (g, .ok { fresh with skipped := true })
  else match runRules g.policy c fresh g.rules with
    | .error f =>
      (noteFailure "module_validation_failed" (g.countValidation true) f,
        .error (validationFailed c.hash f))
    | .ok report =>
      let counted := g.countValidation !report.passed
      (report.failures.foldl (noteFailure "module_validation_warning") counted, .ok report)

-- Arguments beyond the schema are not looked at.
def schemaFlawFrom (index : Nat) : List ParamRule → List Value → Option String
  | rule :: rules, arg :: args =>
    if arg.type ≠ rule.type then
      some s!"arg[{index}] expected {rule.type.name}, got {arg.type.name}"
    else
      let size := (arg.payload?.getD []).length
      if rule.maxSize > 0 ∧ size > rule.maxSize then
        some s!"arg[{index}] is {size} bytes, limit is {rule.maxSize}"
      else schemaFlawFrom (index + 1) rules args
  | _, _ => none

-- Why arguments do not fit a schema: there must be as many as there are required rules, and each
-- must fit the rule at its position.
def schemaFlaw? (schema : List ParamRule) (args : List Value) : Option String :=
  let required := schema.countP ParamRule.required
  if args.length < required then
    some s!"expected at least {required} arguments, got {args.length}"
  else schemaFlawFrom 0 schema args

structure Refusal where
  kind : String
  severity : Nat
  fault : Fault

def refusal? (p : Policy) (function : String) (args : List Value) (isWrite : Bool) :
    Option Refusal :=
  if !p.allowedHostFunctions.isEmpty && !p.allowedHostFunctions.contains function then
    some ⟨"host_call_denied", 8, .hostPermission function "not in the allow-list"⟩
  else if p.deniedHostFunctions.contains function then
    some ⟨"host_call_blacklist", 9, .hostPermission function "in the deny-list"⟩
  else match (p.hostParamSchemas.get? function).bind fun schema => schemaFlaw? schema args with
    | some reason =>
      some ⟨"host_param_schema_violation", 7,
        .hostFunction function "HOST_PARAM_INVALID" reason⟩
    | none =>
      if !isWrite then none
      else if p.enforceIdempotency && !p.idempotentFunctions.contains function then
        some ⟨"host_idempotency_violation", 8,
          .hostPermission function "write is not declared idempotent"⟩
      else if !p.enforceSideEffects then none
      else match p.sideEffectPolicies.get? function with
        | none =>
          some ⟨"host_side_effect_violation", 8,
            .hostPermission function "side effects not allowed"⟩
        | some policy =>
          if policy.allowed then none
          else
            let notes := if policy.notes.isEmpty then "side effects not allowed" else policy.notes
            some ⟨"host_side_effect_violation", 8, .hostPermission function notes⟩

def validateHostCall (g : Guard) (function : String) (args : List Value) (isWrite : Bool) :
    Guard × Except Fault Unit :=
  match refusal? g.policy function args isWrite with
  | none =>
    ({ g with stats :=
        { g.stats with hostCallsValidated := g.stats.hostCallsValidated + 1 } }, .ok ())
  | some r =>
    let counted := { g with stats :=
      { g.stats with hostCallViolations := g.stats.hostCallViolations + 1 } }
    (counted.record r.kind r.severity (r.fault.details.getD ""), .error r.fault)

def checkLimits (g : Guard) (phase : LimitPhase) (c : CallContext) (now : Nat) :
    Guard × Except Fault Unit :=
  let violation := (g.checkers.filter fun k => k.enabled && k.phase == phase).findSome? fun k =>
    match k.check c g.policy now with
    | .ok () => none
    | .error f => some (k.name, f)
  match violation with
  | none => (g, .ok ())
  | some (name, f) =>
    let counted := { g with stats :=
      { g.stats with limitViolations := g.stats.limitViolations + 1 } }
    (counted.record "limit_violation" 6 s!"{name}: {f.text}",
      .error (f.withContext "checker" (.text name)))

def maxRecentScans : Nat := 64

def scoreText (score : Float) : String := Decimal.fixed .double 2 score.toBits.toNat

def scorePattern (threshold : Float) (data : Table Value) (state : Guard × Scan)
    (p : ThreatPattern) : Guard × Scan :=
  let (g, scan) := state
  let score := p.score data
  let scored := { scan with score := scan.score + score }
  if threshold < score then
    let counted := { g with stats :=
      { g.stats with threatsDetected := g.stats.threatsDetected + 1 } }
    (counted.record "threat_detected" p.severity s!"pattern {p.name} scored {scoreText score}",
      { scored with alerts := scored.alerts ++ [p.name] })
  else (g, scored)

-- Scores the indicators of a call. A total beyond the alert threshold is marked as blocked.
def detectThreats (g : Guard) (moduleId : String) (data : Table Value) : Guard × Option Scan :=
  if !g.policy.enableThreatDetection then (g, none)
  else
    let threshold := Float.ofBits g.policy.alertThreshold
    let fresh : Scan := ⟨s!"scan{g.scansMade}", moduleId, 0.0, [], false⟩
    let (g, scan) := g.patterns.foldl (scorePattern threshold data) (g, fresh)
    let (g, scan) :=
      if threshold < scan.score then
        let counted := { g with stats :=
          { g.stats with threatsBlocked := g.stats.threatsBlocked + 1 } }
        (counted.record "threat_blocked" 9
            s!"module {moduleId} scored {scoreText scan.score}",
          { scan with blocked := true })
      else (g, scan)
    let kept := g.scans.drop (g.scans.length + 1 - maxRecentScans) ++ [scan]
    ({ g with scans := kept, scansMade := g.scansMade + 1 }, some scan)

def describe (g : Guard) : String :=
  Text.openShape "SecurityManager"
    [("rules", toString g.rules.length), ("checkers", toString g.checkers.length),
      ("patterns", toString g.patterns.length)]

end Guard

end Tollgate
