import Tollgate.Count
import Tollgate.Executor

namespace Tollgate

inductive LifecycleState
  | uninitialized
  | initializing
  | running
  | stopping
  | stopped
  | error
deriving Repr, DecidableEq, Inhabited

namespace LifecycleState

def name : LifecycleState → String
  | .uninitialized => "uninitialized"
  | .initializing => "initializing"
  | .running => "running"
  | .stopping => "stopping"
  | .stopped => "stopped"
  | .error => "error"

def title : LifecycleState → String
  | .uninitialized => "Uninitialized"
  | .initializing => "Initializing"
  | .running => "Running"
  | .stopping => "Stopping"
  | .stopped => "Stopped"
  | .error => "Error"

end LifecycleState

-- Takes `delay` milliseconds and then acts on the executor.
structure StartHook where
  name : String
  delay : Nat := 0
  act : Executor → Executor × Except Fault Unit

structure StopHook where
  name : String
  delay : Nat := 0
  verdict : Except Fault Unit := .ok ()

structure HealthSignal where
  healthy : Bool
  message : String
  metadata : Table String := .empty
deriving Repr, DecidableEq, Inhabited

structure HealthChecker where
  name : String
  signal : HealthSignal
deriving Repr, DecidableEq, Inhabited

structure HealthReport where
  healthy : Bool
  state : LifecycleState
  checks : List HealthChecker
deriving Repr, DecidableEq, Inhabited

structure LifecycleStats where
  state : LifecycleState := .uninitialized
  starts : Nat := 0
  stops : Nat := 0
  restarts : Nat := 0
  healthChecks : Nat := 0
  failures : Nat := 0
  lastStart : Option Nat := none
  lastStop : Option Nat := none
  totalUptime : Nat := 0
deriving Repr, DecidableEq, Inhabited

structure Lifecycle where
  settings : LifecycleSettings
  executor : Executor
  state : LifecycleState := .uninitialized
  startHooks : List StartHook := []
  stopHooks : List StopHook := []
  checkers : List HealthChecker := []
  stats : LifecycleStats := {}
  runningSince : Option Nat := none
  lastHealth : Option HealthReport := none

-- How a transition ended, which hooks ran to their end, and the time it took in nanoseconds.
structure Transition where
  result : Except Fault Unit
  stopped : List String := []
  started : List String := []
  elapsed : Nat := 0

namespace Lifecycle

def ofSettings (s : Settings) (e : Executor) : Lifecycle :=
  { settings := s.lifecycle, executor := e }

def isRunning (l : Lifecycle) : Bool := l.state == .running

def setState (l : Lifecycle) (s : LifecycleState) : Lifecycle :=
  { l with state := s, stats := { l.stats with state := s } }

def countFailure (l : Lifecycle) : Lifecycle :=
  { l with stats := { l.stats with failures := l.stats.failures + 1 } }

def alreadyRunning : Fault := .lifecycle "ALREADY_RUNNING" "Runtime is already running"

def inState (f : Fault) (s : LifecycleState) : Fault := f.withContext "state" (.text s.name)

def notRunning (s : LifecycleState) : Fault :=
  inState (.lifecycle "NOT_RUNNING" "Runtime is not running") s

def cannotStart (s : LifecycleState) : Fault :=
  inState (.lifecycle "INVALID_STATE" "Cannot start now") s

def cannotRecover (s : LifecycleState) : Fault :=
  inState (.lifecycle "INVALID_STATE" "Only an errored runtime can recover") s

def startTimedOut (ms : Nat) : Fault :=
  (Fault.lifecycle "START_TIMEOUT" "Start did not finish in time").withDetails s!"timeout {ms}ms"

def stopTimedOut : Fault := .lifecycle "STOP_TIMEOUT" "Background tasks did not stop in time"

structure HookRun where
  executor : Executor
  result : Except Fault Unit
  ran : List String
  spent : Nat

-- Runs start hooks in order. A hook that takes time is cut off once the budget is spent.
def runStartHooks (budget spent : Nat) (e : Executor) (ran : List String) :
    List StartHook → HookRun
  | [] => ⟨e, .ok (), ran, spent⟩
  | hook :: rest =>
    let after := spent + hook.delay
    if 0 < hook.delay ∧ budget ≤ after then
      ⟨e, .error (startTimedOut budget), ran, max budget spent⟩
    else match hook.act e with
      | (e, .ok ()) => runStartHooks budget after e (ran ++ [hook.name]) rest
      | (e, .error f) =>
        ⟨e, .error (f.withContext "hook" (.text hook.name)), ran ++ [hook.name], after⟩

def rise (l : Lifecycle) (e : Executor) (moment : Nat) : Lifecycle :=
  { l.setState .running with
    executor := e
    runningSince := some moment
    stats := { (l.setState .running).stats with
      starts := l.stats.starts + 1
      lastStart := some moment } }

def fall (l : Lifecycle) (e : Executor) : Lifecycle :=
  ({ l with executor := e.close }).countFailure.setState .error

-- Brings the runtime up. A failure leaves it in the error state with its executor closed.
def start (l : Lifecycle) (now : Nat) : Lifecycle × Transition :=
  match l.state with
  | .running => (l, { result := .error alreadyRunning })
  | .stopping | .initializing => (l, { result := .error (cannotStart l.state) })
  | _ =>
    let begun := l.setState .initializing
    let run := runStartHooks l.settings.startTimeout 0 l.executor.reopen [] l.startHooks
    let elapsed := run.spent * nanosPerMilli
    match run.result with
    | .error f =>
      (begun.fall run.executor, { result := .error f, started := run.ran, elapsed := elapsed })
    | .ok () =>
      (begun.rise run.executor (now + elapsed),
        { result := .ok (), started := run.ran, elapsed := elapsed })

def stopFailures (hooks : List StopHook) : Nat :=
  hooks.countP fun h => match h.verdict with
    | .ok () => false
    | .error _ => true

def sink (l : Lifecycle) (moment : Nat) : Lifecycle :=
  let uptime := match l.runningSince with
    | some since => moment - since
    | none => 0
  { l with
    executor := l.executor.close
    runningSince := none
    stats := { l.stats with
      failures := l.stats.failures + stopFailures l.stopHooks
      totalUptime := l.stats.totalUptime + uptime
      lastStop := some moment } }

def settle (l : Lifecycle) : Lifecycle :=
  ({ l with stats := { l.stats with stops := l.stats.stops + 1 } }).setState .stopped

-- The background work is cut off.
def strand (l : Lifecycle) : Lifecycle := l.countFailure.setState .error

-- Takes the runtime down; `joined` says whether the background work ended in time.
def halt (l : Lifecycle) (joined : Bool) (now : Nat) : Lifecycle × Transition :=
  match l.state with
  | .running =>
    let elapsed := sumOf (l.stopHooks.map StopHook.delay) * nanosPerMilli
    let ran := l.stopHooks.map StopHook.name
    let down := (l.setState .stopping).sink (now + elapsed)
    if joined then (down.settle, { result := .ok (), stopped := ran, elapsed := elapsed })
    else (down.strand, { result := .error stopTimedOut, stopped := ran, elapsed := elapsed })
  | s => (l, { result := .error (notRunning s) })

-- The background work needs some time to end, so that a timeout of zero always runs out.
def stop (l : Lifecycle) (timeout now : Nat) : Lifecycle × Transition :=
  l.halt (decide (timeout ≠ 0)) now

def restartFault (code message : String) (cause : Fault) : Fault :=
  (Fault.lifecycle code message).withSource cause.text

def stopFailed : Fault → Fault :=
  restartFault "RESTART_STOP_FAILED" "Restart failed while stopping"

def startFailed : Fault → Fault :=
  restartFault "RESTART_START_FAILED" "Restart failed while starting"

def resume (l : Lifecycle) (down : Transition) (now : Nat) : Lifecycle × Transition :=
  let (l, up) := l.start (now + down.elapsed)
  let both := { up with stopped := down.stopped, elapsed := down.elapsed + up.elapsed }
  match up.result with
  | .error f => (l, { both with result := .error (startFailed f) })
  | .ok () => ({ l with stats := { l.stats with restarts := l.stats.restarts + 1 } }, both)

def cycle (l : Lifecycle) (joined : Bool) (now : Nat) : Lifecycle × Transition :=
  let (l, down) := if l.state = .stopped then (l, { result := .ok () }) else l.halt joined now
  match down.result with
  | .error f => (l, { down with result := .error (stopFailed f) })
  | .ok () => l.resume down now

def restart (l : Lifecycle) (now : Nat) : Lifecycle × Transition :=
  l.cycle (decide (l.settings.stopTimeout ≠ 0)) now

def recover (l : Lifecycle) : Lifecycle × Except Fault Unit :=
  match l.state with
  | .error => (({ l with executor := l.executor.close }).setState .stopped, .ok ())
  | s => (l, .error (cannotRecover s))

def ownCheck (s : LifecycleState) : HealthChecker :=
  ⟨"lifecycle", ⟨s == .running, s!"state is {s.name}", .empty⟩⟩

def checkHealth (l : Lifecycle) : Lifecycle × HealthReport :=
  let checks := ownCheck l.state :: l.checkers
  let report : HealthReport := ⟨checks.all fun c => c.signal.healthy, l.state, checks⟩
  ({ l with
      stats := { l.stats with healthChecks := l.stats.healthChecks + 1 }
      lastHealth := some report }, report)

def addStartHook (l : Lifecycle) (h : StartHook) : Lifecycle :=
  { l with startHooks := l.startHooks ++ [h] }

def addStopHook (l : Lifecycle) (h : StopHook) : Lifecycle :=
  { l with stopHooks := l.stopHooks ++ [h] }

def addChecker (l : Lifecycle) (c : HealthChecker) : Lifecycle :=
  { l with checkers := l.checkers ++ [c] }

def hookVerdict (name : String) (fails : Bool) : Except Fault Unit :=
  if fails then .error (.internal s!"{name} failed") else .ok ()

-- Makes every hook of a name pass or fail, and every checker of the name report accordingly.
def setVerdict (l : Lifecycle) (name : String) (fails : Bool) : Lifecycle :=
  { l with
    startHooks := l.startHooks.map fun h =>
      if h.name = name then { h with act := fun e => (e, hookVerdict name fails) } else h
    stopHooks := l.stopHooks.map fun h =>
      if h.name = name then { h with verdict := hookVerdict name fails } else h
    checkers := l.checkers.map fun c =>
      if c.name = name then { c with signal := { c.signal with healthy := !fails } } else c }

-- Rounds of an interval that began at `since`, after `before` and up to `after`. The first round
-- comes after one full interval.
def roundsBetween (since interval before after : Nat) : List Nat :=
  if interval = 0 then []
  else
    let first := (before - since) / interval + 1
    let last := (after - since) / interval
    (List.range (last + 1 - first)).map fun k => since + (first + k) * interval

-- What the background does while time passes from `before` to `after`. A cleanup interval of
-- zero means no cleanup.
def passTime (l : Lifecycle) (before after : Nat) : Lifecycle :=
  match l.state, l.runningSince with
  | .running, some since =>
    let cleanups := roundsBetween since
      (l.executor.pool.settings.cleanupInterval * nanosPerMilli) before after
    let pool := cleanups.foldl (fun p t => (p.cleanup t).1) l.executor.pool
    let cleaned := { l with executor := { l.executor with pool := pool } }
    if l.settings.autoHealthCheck then
      let rounds := roundsBetween since (max l.settings.healthCheckInterval 1 * nanosPerMilli)
        before after
      rounds.foldl (fun l _ => l.checkHealth.1) cleaned
    else cleaned
  | _, _ => l

def tick (l : Lifecycle) : Option Nat := if l.isRunning then some l.settings.tick else none

def currentUptime (l : Lifecycle) (now : Nat) : Nat :=
  match l.runningSince with
  | some since => now - since
  | none => 0

def totalUptime (l : Lifecycle) (now : Nat) : Nat := l.stats.totalUptime + l.currentUptime now

def describe (l : Lifecycle) : String :=
  Text.openShape "LifecycleManager"
    [("state", l.state.title), ("config", l.settings.describe)]

end Lifecycle

end Tollgate
