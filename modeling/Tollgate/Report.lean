import Tollgate.Document.Json
import Tollgate.Lifecycle

namespace Tollgate

open Document

-- A floating-point number as its bits, so that nothing is lost in print.
def doubleText (bits : UInt64) : String :=
  if Binary.double.isNan bits.toNat then "NaN" else "0x" ++ Text.hexWidth 16 bits.toNat

def singleText (bits : UInt32) : String :=
  if Binary.single.isNan bits.toNat then "NaN" else "0x" ++ Text.hexWidth 8 bits.toNat

def floatReport (x : Float) : Document := .text (doubleText x.toBits)

mutual
-- A document with its floating-point numbers as bits.
def Document.exact : Document → Document
  | .double bits => .text (doubleText bits)
  | .single bits => .text (doubleText (UInt64.ofNat (Binary.convert .single .double bits.toNat)))
  | .list items => .list (exactItems items)
  | .fields entries => .fields (exactFields entries)
  | d => d

def Document.exactItems : List Document → List Document
  | [] => []
  | d :: rest => d.exact :: exactItems rest

def Document.exactFields : List (String × Document) → List (String × Document)
  | [] => []
  | (key, d) :: rest => (key, d.exact) :: exactFields rest
end

def Value.exactText : Value → String
  | .f32 bits => "f32:" ++ singleText bits
  | .f64 bits => "f64:" ++ doubleText bits
  | v => v.text

def Value.report (v : Value) : Document :=
  .fields [("value", .text v.exactText), ("type", .text v.type.name),
    ("buffer", .bool v.type.isBuffer), ("display", .text v.text),
    ("json", .text v.toDocument.toJson),
    ("bytes", orNull (fun b => .text (Text.hex b)) v.payload?),
    ("f64", orNull (fun b => .text (doubleText b)) v.number?)]

def Settings.report (s : Settings) : Document :=
  let times := [s.execution.timeout, s.pool.maxIdle, s.pool.cleanupInterval,
    s.lifecycle.startTimeout, s.lifecycle.stopTimeout, s.lifecycle.healthCheckInterval,
    s.lifecycle.statsInterval, s.lifecycle.tick, s.security.maxExecutionTime]
  .fields [("config", s.toDocument.exact), ("max_memory_bytes", .nat s.engine.maxMemoryBytes),
    ("durations_ms", .list (times.map .nat))]

def Segment.report (s : Segment) : Document :=
  .fields [("name", .text s.name), ("word_index", .nat s.wordIndex), ("size", .nat s.size),
    ("address", orNull .nat s.address), ("bound", .bool s.isBound),
    ("head", .text (Text.hex (s.bytes.take 8)))]

def Plan.report (p : Plan) : Document :=
  .fields [("empty", .bool p.isEmpty), ("total_size", .nat p.totalSize),
    ("bound", .bool p.isBound), ("segments", .list (p.map Segment.report))]

def CallContext.report (c : CallContext) : Document :=
  .fields [("entry", .text c.entry), ("fee_limit", .nat c.feeLimit),
    ("memory_limit", .nat c.memoryLimit), ("memory_pages", .nat c.memoryPages),
    ("timeout_ms", .nat c.timeout), ("caller", .text c.caller),
    ("contract_address", .text c.contractAddress),
    ("words", .texts (c.words.map fun w => toString w.toNat)),
    ("arg_types", .texts (c.argTypes.map ValueType.name)),
    ("return_types", .texts (c.returnTypes.map ValueType.name)), ("plan", c.plan.report),
    ("usage", .list [.nat c.resourceUsed, .nat c.memoryUsed])]

def FaultStats.report (s : FaultStats) : Document :=
  .fields [("total", .nat s.total),
    ("by_kind", .list (s.byKind.map fun e => .list [.text e.1.name, .nat e.2])),
    ("by_severity", .list (s.bySeverity.map fun e => .list [.text e.1.name, .nat e.2])),
    ("recoverable", .nat s.recoverable), ("has_last", .bool s.hasLast)]

def LogEntry.report (l : LogEntry) : Document := .texts [l.level.title, l.message]

def ContractEvent.report (e : ContractEvent) : Document := .texts [e.topic, Text.hex e.data]

def Live.report (l : Live) : Document :=
  .fields [("logs", .list (l.output.logs.map LogEntry.report)),
    ("events", .list (l.output.events.map ContractEvent.report)),
    ("fee_limit", .nat l.meter.limit), ("host_call_fee", .nat l.meter.hostCallFee),
    ("host_calls", .nat l.meter.hostCalls)]

def Instance.report (i : Instance) : Document :=
  .fields [("id", .text i.id), ("module_id", .text i.moduleId), ("closed", .bool i.isClosed),
    ("heap_cursor", .nat i.heapCursor), ("memory_size", .nat i.memorySize),
    ("memory_limit_pages", .nat i.memoryLimitPages), ("resource_used", .nat i.resourceUsed),
    ("calls", .nat i.calls),
    ("metadata", .list (i.metadata.entries.map fun e => .texts [e.1, e.2])),
    ("output", orNull Live.report i.live)]

def Guest.Limits.report (l : Guest.Limits) : Document := .list [.nat l.least, orNull .nat l.most]

def Contract.report (c : Contract) : Document :=
  .fields [("hash", .text c.hash), ("size", .nat c.size),
    ("imports", .texts (c.module.imports.map Guest.Import.text)),
    ("import_modules", .texts c.module.importSpaces),
    ("exports", .texts c.module.exportedFunctions),
    ("memory", orNull Guest.Limits.report c.module.declaredMemory?)]

def Pool.report (p : Pool) : Document :=
  .fields [("hits", .nat p.counts.hits), ("misses", .nat p.counts.misses),
    ("puts", .nat p.counts.puts), ("rejected", .nat p.counts.rejected),
    ("evicted", .nat p.counts.evicted), ("expired", .nat p.counts.expired),
    ("resident", .nat p.resident), ("modules", .nat p.idle.size), ("closed", .bool p.closed)]

def GuardStats.report (g : GuardStats) : Document :=
  .fields [("total_validations", .nat g.totalValidations),
    ("failed_validations", .nat g.failedValidations),
    ("threats_detected", .nat g.threatsDetected), ("threats_blocked", .nat g.threatsBlocked),
    ("limit_violations", .nat g.limitViolations),
    ("has_last_validation", .bool (decide (0 < g.totalValidations))),
    ("host_calls_validated", .nat g.hostCallsValidated),
    ("host_call_violations", .nat g.hostCallViolations),
    ("has_last_host_violation", .bool (decide (0 < g.hostCallViolations)))]

def Incident.report (i : Incident) : Document :=
  .list [.text i.kind, .nat i.severity, .text i.message]

def ValidationReport.report (r : ValidationReport) : Document :=
  .fields [("module_id", .text r.moduleId), ("rules_run", .nat r.rulesRun),
    ("skipped", .bool r.skipped), ("passed", .bool r.passed),
    ("failures", .list (r.failures.map fun f => .texts [f.rule, f.severity.name, f.message]))]

def Scan.report (score : Float → String) (s : Scan) : Document :=
  .fields [("module_id", .text s.moduleId), ("score", .text (score s.score)),
    ("alerts", .texts s.alerts), ("blocked", .bool s.blocked)]

def Prediction.report (p : Prediction) (window : Nat) : Document :=
  .fields [("resource", .nat p.resource), ("memory", .nat p.memory),
    ("failure_rate", floatReport p.failureRate), ("samples", .nat p.samples),
    ("confidence", floatReport p.confidence), ("window", .nat window)]

def ExecutionOutcome.report (o : ExecutionOutcome) : Document :=
  .fields [("values", .texts (o.values.map Value.exactText)),
    ("resource_used", .nat o.resourceUsed), ("memory_used", .nat o.memoryUsed),
    ("logs", .list (o.logs.map LogEntry.report)),
    ("events", .list (o.events.map ContractEvent.report)), ("instance_id", .text o.instanceId),
    ("module_id", .text o.moduleId), ("warnings", .texts o.warnings),
    ("metadata", ofTable .text o.metadata)]

def ExecutorStats.report (s : ExecutorStats) : Document :=
  .fields [("executions", .nat s.executions), ("succeeded", .nat s.succeeded),
    ("failed", .nat s.failed), ("total_resource_used", .nat s.totalResourceUsed)]

def HealthChecker.report (c : HealthChecker) : Document :=
  .list [.text c.name, .bool c.signal.healthy, .text c.signal.message,
    ofTable .text c.signal.metadata]

def HealthReport.report (r : HealthReport) : Document :=
  .fields [("healthy", .bool r.healthy), ("state", .text r.state.name),
    ("checks", .list (r.checks.map HealthChecker.report))]

def Lifecycle.report (l : Lifecycle) (now : Nat) : Document :=
  .fields [("state", .text l.stats.state.name), ("starts", .nat l.stats.starts),
    ("stops", .nat l.stats.stops), ("restarts", .nat l.stats.restarts),
    ("health_checks", .nat l.stats.healthChecks), ("failures", .nat l.stats.failures),
    ("has_last_start", .bool l.stats.lastStart.isSome),
    ("has_last_stop", .bool l.stats.lastStop.isSome),
    ("has_total_uptime", .bool (decide (0 < l.totalUptime now))),
    ("has_current_uptime", .bool (decide (0 < l.currentUptime now)))]

end Tollgate
