import Tollgate.Fault.Tracker
import Tollgate.Forecast
import Tollgate.Pool
import Tollgate.Vm

namespace Tollgate

structure ExecutionOutcome where
  values : List Value
  resourceUsed : Nat
  memoryUsed : Nat
  logs : List LogEntry
  events : List ContractEvent
  duration : Nat
  instanceId : String
  moduleId : String
  warnings : List String
  metadata : Table String
deriving Repr, Inhabited

-- What a finished call used. Times are in nanoseconds.
structure CallReport where
  values : List Value
  resourceUsed : Nat
  duration : Nat
  timeout : Nat
  memoryBefore : Nat
  hostCalls : Nat
deriving Repr, Inhabited

structure ExecutorStats where
  executions : Nat := 0
  succeeded : Nat := 0
  failed : Nat := 0
  totalResourceUsed : Nat := 0
deriving Repr, DecidableEq, Inhabited

structure Executor where
  guard : Guard
  vm : Vm
  pool : Pool
  marshal : MarshalSettings
  tracker : Tracker := {}
  stats : ExecutorStats := {}
  forecast : Forecast := {}
  closed : Bool := false
deriving Inhabited

-- What an execution is given from outside: the clock, a name for a new instance, the number of
-- instances alive outside the pool, and the length of a deadline tick if ticks are coming.
structure Surroundings where
  now : Nat
  freshId : String
  others : Nat := 0
  tick : Option Nat := none
deriving Repr, DecidableEq, Inhabited

namespace Executor

def ofSettings (s : Settings) (vm : Vm) : Executor where
  guard := .ofPolicy s.security
  vm := vm
  pool := { settings := s.pool }
  marshal := s.marshal

def warnRatio : Float := 0.9

def ratio (used limit : Nat) : Float := if limit = 0 then 0 else used.toFloat / limit.toFloat

def seconds (nanos : Nat) : Float :=
  (nanos / 1000000000).toFloat + (nanos % 1000000000).toFloat / 1000000000

def timeRatio (r : CallReport) : Float :=
  if r.timeout = 0 then 0 else seconds r.duration / seconds r.timeout

def fixedText (places : Nat) (x : Float) : String := Decimal.fixed .double places x.toBits.toNat

def indicators (c : CallContext) (v : ValidationReport) (r : CallReport) (memoryAfter : Nat) :
    Table Value :=
  let unauthorized := v.failures.any fun f => f.rule == Rule.importRule.name
  let scratch : Float :=
    if memoryAfter = 0 then 0 else c.plan.totalSize.toFloat / memoryAfter.toFloat
  .ofList
    [("high_cpu_usage", .f64 (ratio r.resourceUsed c.feeLimit).toBits),
      ("long_execution_time", .f64 (timeRatio r).toBits),
      ("rapid_memory_growth", .bool (decide (r.memoryBefore < memoryAfter))),
      ("large_allocations", .f64 scratch.toBits),
      ("unauthorized_imports", .bool unauthorized),
      ("host_calls", .u64 (UInt64.ofNat r.hostCalls))]

def threatBlocked (s : Scan) : Fault :=
  (((Fault.validation "THREAT_BLOCKED"
    s!"Threat score {fixedText 2 s.score} over the alert threshold").withDetails
    ("alerts: " ++ String.intercalate ", " s.alerts)).withContext "scan_id" (.text s.id)).withHint
    "Review the contract's resource and memory behaviour"

def usageWarnings (c : CallContext) (r : CallReport) : List String :=
  let fee := ratio r.resourceUsed c.feeLimit
  let memory := ratio c.memoryUsed c.memoryLimit
  let time := timeRatio r
  (if warnRatio ≤ fee then
    [s!"resource fee at {fixedText 0 (fee * 100)}% of limit ({r.resourceUsed}/{c.feeLimit})"]
  else []) ++
  (if warnRatio ≤ memory then
    [s!"memory at {fixedText 0 (memory * 100)}% of limit ({c.memoryUsed}/{c.memoryLimit})"]
  else []) ++
  (if warnRatio ≤ time then
    [s!"execution took {fixedText 0 (time * 100)}% of its time budget ({r.duration / nanosPerMilli}ms)"]
  else [])

def warnings (c : CallContext) (v : ValidationReport) (r : CallReport) (scan : Option Scan) :
    List String :=
  usageWarnings c r ++
    (if v.passed then [] else [s!"{v.failures.length} module validation failures tolerated"]) ++
    match scan with
    | some s => s.alerts.map fun pattern => s!"threat pattern {pattern} alerted"
    | none => []

def metadata (c : CallContext) (r : CallReport) (reused : Bool) (calls : Nat)
    (scan : Option Scan) : Table String :=
  let usage := Table.ofList
    [("fee_utilization", fixedText 4 (ratio r.resourceUsed c.feeLimit)),
      ("memory_utilization", fixedText 4 (ratio c.memoryUsed c.memoryLimit)),
      ("fee_limit", toString c.feeLimit), ("memory_limit", toString c.memoryLimit),
      ("host_calls", toString r.hostCalls), ("call_duration_us", toString (r.duration / 1000)),
      ("pooled", Text.shownBool reused), ("instance_calls", toString calls)]
  match scan with
  | some s => usage.insert "threat_score" (fixedText 4 s.score)
  | none => usage

def withGuard (e : Executor) (g : Guard) : Executor := { e with guard := g }

-- The pool forgets what the cache has pushed out.
def dropEvicted (e : Executor) : Executor :=
  let (vm, hashes) := e.vm.takeEvicted
  { e with vm := vm, pool := hashes.foldl (fun p hash => (p.evict hash).1) e.pool }

-- An idle instance, or else a new one; the flag says which.
def takeInstance (e : Executor) (c : Contract) (pages : Nat) (s : Surroundings) :
    Executor × Except Fault (Instance × Bool) :=
  match e.pool.get c.hash pages with
  | (pool, some i) => ({ e with pool := pool }, .ok (i, true))
  | (pool, none) =>
    let others := s.others + pool.resident
    match e.vm.instantiate e.guard c s.freshId pages none others s.tick with
    | (guard, .ok i) => ({ e with pool := pool, guard := guard }, .ok (i, false))
    | (guard, .error f) => ({ e with pool := pool, guard := guard }, .error f)

-- Buffers, call, usage checks and decoding. The clock has moved on by a moment since the context
-- was built.
def callInstance (e : Executor) (c : CallContext) (i : Instance) (s : Surroundings) :
    Executor × CallContext × Instance × Except Fault CallReport :=
  match c.bind i with
  | (c, i, .error f) => (e, c, i, .error f)
  | (c, i, .ok ()) =>
    let before := i.memorySize
    let timeout := min (c.remaining (s.now + 1)) (e.guard.policy.maxExecutionTime * nanosPerMilli)
    match e.vm.call e.guard i c.entry c.words ⟨c.feeLimit, timeout⟩ s.tick with
    | (guard, i, .error f) => (e.withGuard guard, c, i, .error f)
    | (guard, i, .ok outcome) =>
      let c := c.recordUsage outcome.resourceUsed i.memorySize
      match guard.checkLimits .postExecution c (s.now + outcome.duration) with
      | (guard, .error f) => (e.withGuard guard, c, i, .error f)
      | (guard, .ok ()) =>
        let decoded :=
          if c.returnTypes.isEmpty then Marshal.decode e.marshal outcome.words outcome.types
          else Marshal.decodeFrom e.marshal i.read outcome.words c.returnTypes
        let report := decoded.map fun values =>
          { values := values
            resourceUsed := outcome.resourceUsed
            duration := outcome.duration
            timeout := timeout
            memoryBefore := before
            hostCalls := i.hostCalls }
        (e.withGuard guard, c, i, report)

-- Scoring of a finished call; what is not blocked is reported, and its instance kept.
def conclude (e : Executor) (c : CallContext) (contract : Contract) (v : ValidationReport)
    (i : Instance) (reused : Bool) (r : CallReport) (s : Surroundings) :
    Executor × Except Fault ExecutionOutcome :=
  let (guard, scan) := e.guard.detectThreats contract.hash (indicators c v r i.memorySize)
  let e := e.withGuard guard
  match scan.filter Scan.blocked with
  | some blocked =>
    (e, .error ((threatBlocked blocked).withContext "module_id" (.text contract.hash)))
  | none =>
    let outcome : ExecutionOutcome := {
      values := r.values
      resourceUsed := r.resourceUsed
      memoryUsed := c.memoryUsed
      logs := i.output.logs
      events := i.output.events
      duration := r.duration + 1
      instanceId := i.id
      moduleId := contract.hash
      warnings := warnings c v r scan
      metadata := metadata c r reused i.calls scan }
    let (pool, _) := e.pool.put i.resetOutput (s.now + r.duration)
    ({ e with pool := pool }, .ok outcome)

def runContract (e : Executor) (c : CallContext) (contract : Contract) (v : ValidationReport)
    (height : Nat) (s : Surroundings) : Executor × Except Fault ExecutionOutcome :=
  match e.takeInstance contract c.memoryPages s with
  | (e, .error f) => (e, .error f)
  | (e, .ok (i, reused)) =>
    let ready := (i.resetScratch.resetOutput).setEnv ⟨c.caller, c.contractAddress, height⟩
    match e.callInstance c ready s with
    | (e, _, _, .error f) => (e, .error (f.withContext "module_id" (.text contract.hash)))
    | (e, c, i, .ok report) => e.conclude c contract v i reused report s

def choose (e : Executor) (p : CallParams) : Option Contract → Executor × Except Fault Contract
  | some c => (e, .ok c)
  | none =>
    match e.vm.compile p.payload with
    | (vm, result) => ({ e with vm := vm }, result)

def run (e : Executor) (p : CallParams) (given : Option Contract) (s : Surroundings) :
    Executor × Except Fault ExecutionOutcome :=
  if e.closed then (e, .error (.closed "executor"))
  else
    let e := { e with stats := { e.stats with executions := e.stats.executions + 1 } }
    match CallContext.build p e.marshal e.vm.execution s.now with
    | .error f => (e, .error f)
    | .ok c =>
      match e.guard.checkLimits .preExecution c s.now with
      | (guard, .error f) => (e.withGuard guard, .error f)
      | (guard, .ok ()) =>
        match (e.withGuard guard).choose p given with
        | (e, .error f) => (e, .error f)
        | (e, .ok contract) =>
          let e := e.dropEvicted
          match e.guard.validateModule contract with
          | (guard, .error f) => (e.withGuard guard, .error f)
          | (guard, .ok v) => (e.withGuard guard).runContract c contract v p.blockHeight s

def finish (e : Executor) (result : Except Fault ExecutionOutcome) : Executor :=
  match result with
  | .ok o =>
    { e with
      forecast := e.forecast.record ⟨o.duration, o.resourceUsed, o.memoryUsed, true⟩
      stats := { e.stats with
        succeeded := e.stats.succeeded + 1
        totalResourceUsed := (e.stats.totalResourceUsed + o.resourceUsed) % (maxCounter + 1) } }
  | .error f =>
    { e with
      forecast := e.forecast.record ⟨1, 0, 0, false⟩
      stats := { e.stats with failed := e.stats.failed + 1 }
      tracker := e.tracker.record f }

def execute (e : Executor) (p : CallParams) (s : Surroundings) :
    Executor × Except Fault ExecutionOutcome :=
  let (e, result) := e.run p none s
  (e.finish result, result)

-- Runs the entry point of a compiled contract; the payload is not looked at.
def executeModule (e : Executor) (c : Contract) (p : CallParams) (s : Surroundings) :
    Executor × Except Fault ExecutionOutcome :=
  let (e, result) := e.run p (some c) s
  (e.finish result, result)

def evictModule (e : Executor) (hash : String) : Executor × Bool :=
  let (vm, found) := e.vm.evict hash
  ({ e with vm := vm, pool := (e.pool.evict hash).1 }, found)

def reopen (e : Executor) : Executor := { e with closed := false, pool := e.pool.reopen }

def close (e : Executor) : Executor :=
  if e.closed then e else { e with closed := true, pool := e.pool.close }

def describe (e : Executor) : String :=
  Text.openShape "ContractExecutor"
    [("vm", e.vm.describe), ("pool", e.pool.describe), ("closed", Text.shownBool e.closed)]

end Executor

end Tollgate
