import Tollgate.Proofs.LifecycleSteps

namespace Tollgate

-- What is asked of a runtime and its executor. Hooks and checkers may be exchanged at any time,
-- so that each of them may end differently from call to call.
inductive LifeRequest
  | start (now : Nat)
  | stop (joined : Bool) (now : Nat)
  | restart (joined : Bool) (now : Nat)
  | recover
  | checkHealth
  | equip (startHooks : List StartHook) (stopHooks : List StopHook)
      (checkers : List HealthChecker)
  | execute (p : CallParams) (given : Option Contract) (s : Surroundings)
  | wait (before after : Nat)

abbrev LifeReply := Option (Except Fault Unit)

namespace Lifecycle

def answer (l : Lifecycle) : LifeRequest → Lifecycle × LifeReply
  | .start now => ((l.start now).1, some (l.start now).2.result)
  | .stop joined now => ((l.halt joined now).1, some (l.halt joined now).2.result)
  | .restart joined now => ((l.cycle joined now).1, some (l.cycle joined now).2.result)
  | .recover => (l.recover.1, some l.recover.2)
  | .checkHealth => (l.checkHealth.1, none)
  | .equip startHooks stopHooks checkers =>
    ({ l with startHooks := startHooks, stopHooks := stopHooks, checkers := checkers }, none)
  | .execute p given s => ({ l with executor := (l.executor.serve p given s).1 }, none)
  | .wait before after => (l.passTime before after, none)

def refusals (s : LifecycleState) : List Fault :=
  [alreadyRunning, notRunning s, cannotStart s, cannotRecover s]

end Lifecycle

namespace LifeRequest

open Lifecycle

-- What the counters and gates of a runtime are about, read off a request and its reply.
def failedStart : LifeRequest → LifeReply → Bool
  | .start _, some result => fell result
  | .restart .., some (.error f) => f.code == "RESTART_START_FAILED"
  | _, _ => false

def stopTimeout : LifeRequest → LifeReply → Bool
  | .stop .., some result => ranOut result
  | .restart .., some (.error f) =>
    f.code == "RESTART_STOP_FAILED" && f.source == some stopTimedOut.text
  | _, _ => false

def restarted : LifeRequest → LifeReply → Bool
  | .restart .., some (.ok _) => true
  | _, _ => false

def refused : LifeRequest → LifecycleState → LifeReply → Bool
  | .start _, _, some (.error f) | .stop .., _, some (.error f) | .recover, _, some (.error f) =>
    f.isRefusal
  | .restart .., s, some (.error f) =>
    f.code == "RESTART_STOP_FAILED" && (refusals s).any fun cause => f.source == some cause.text
  | _, _, _ => false

def barred : LifeRequest → LifecycleState → Bool
  | .start _, s => s == .running
  | .stop .., s => s != .running
  | .restart .., s => s != .running && s != .stopped
  | .recover, s => s != .error
  | _, _ => false

def hookFailures : LifeRequest → Lifecycle → Nat
  | .stop .., l | .restart .., l => l.failedHooks
  | _, _ => 0

def LeavesOpen : LifeRequest → Prop
  | .equip startHooks _ _ => ∀ h ∈ startHooks, h.LeavesOpen
  | _ => True

end LifeRequest

namespace Lifecycle

variable {l after : Lifecycle} {result : Except Fault Unit}

theorem execute_idles (l : Lifecycle) (p : CallParams) (given : Option Contract)
    (s : Surroundings) : l.Idles { l with executor := (l.executor.serve p given s).1 } :=
  ⟨rfl, rfl, rfl, ⟨_, rfl⟩, l.executor.serve_stays p given s⟩

theorem recover_orderly (orderly : l.Orderly) : l.recover.1.Orderly := by
  unfold recover
  split
  · rename_i failed
    have resting : LifecycleState.stopped ∈ LifecycleState.resting := by decide
    have unset : ¬ l.runningSince.isSome = true := by
      rw [orderly.since, failed]
      nofun
    exact ⟨resting, rfl, iff_of_false unset nofun, nofun,
      fun _ => (orderly.down (.inr failed)).close⟩
  · exact orderly

theorem recover_shift (l : Lifecycle) : l.Shift l.recover.1 0 0 0 0 := by
  unfold recover
  split
  · rename_i failed
    refine ⟨?_, rfl, rfl⟩
    rw [isRunning, failed]
    rfl
  · exact (Idles.refl l).shift

theorem answer_orderly (orderly : l.Orderly) (lawful : l.Lawful)
    (r : LifeRequest) : (l.answer r).1.Orderly := by
  cases r with
  | start now => exact orderly.started (start_started lawful now)
  | stop joined now => exact orderly.halted (l.halt_halted joined now)
  | restart joined now => exact orderly.cycled (cycle_cycled lawful joined now)
  | recover => exact recover_orderly orderly
  | checkHealth => exact orderly.idles l.checkHealth_idles
  | equip =>
    exact ⟨orderly.resting, orderly.mirrored, orderly.since, orderly.up, orderly.down⟩
  | execute p given s => exact orderly.idles (l.execute_idles p given s)
  | wait before after => exact orderly.idles (l.passTime_idles before after)

theorem Started.hooks (started : Started l after result) : after.startHooks = l.startHooks := by
  cases started <;> rfl

theorem Cycled.hooks {joined : Bool} (cycled : Cycled l joined after result) :
    after.startHooks = l.startHooks := by
  cases cycled with
  | unstopped _ halted => exact halted.hooks
  | unstarted paused started | restarted paused started => exact started.hooks.trans paused.hooks

theorem answer_lawful {r : LifeRequest} (lawful : l.Lawful) (leaves : r.LeavesOpen) :
    (l.answer r).1.Lawful := by
  have same : (l.answer r).1.startHooks = l.startHooks → (l.answer r).1.Lawful := by
    intro same
    unfold Lawful
    rw [same]
    exact lawful
  cases r with
  | start now => exact same (start_started lawful now).hooks
  | stop joined now => exact same (l.halt_halted joined now).hooks
  | restart joined now => exact same (cycle_cycled lawful joined now).hooks
  | recover =>
    refine same ?_
    change l.recover.1.startHooks = l.startHooks
    unfold recover
    split <;> rfl
  | checkHealth => exact same l.checkHealth_idles.hooks
  | equip => exact leaves
  | execute p given s => exact same (l.execute_idles p given s).hooks
  | wait before after => exact same (l.passTime_idles before after).hooks

theorem Cycled.shift {joined : Bool} {now : Nat} (cycled : Cycled l joined after result) :
    l.Shift after (LifeRequest.failedStart (.restart joined now) (some result)).toNat l.failedHooks
      (LifeRequest.stopTimeout (.restart joined now) (some result)).toNat
      (LifeRequest.restarted (.restart joined now) (some result)).toNat := by
  cases cycled with
  | unstopped running halted =>
    have shift := halted.shift
    cases halted with
    | refused idle => exact shift
    | timedOut running => exact shift
  | unstarted paused started =>
    have shift := paused.shift.trans started.shift
    rw [fell, started.tried paused.state _ rfl] at shift
    exact shift
  | restarted paused started =>
    have shift := paused.shift.trans started.shift
    exact ⟨shift.starts, shift.failures, congrArg (· + 1) shift.restarts⟩

theorem answer_shift (lawful : l.Lawful) (r : LifeRequest) :
    l.Shift (l.answer r).1 (r.failedStart (l.answer r).2).toNat (r.hookFailures l)
      (r.stopTimeout (l.answer r).2).toNat (r.restarted (l.answer r).2).toNat := by
  cases r with
  | start now => exact (start_started lawful now).shift
  | stop joined now => exact (l.halt_halted joined now).shift
  | restart joined now => exact (cycle_cycled lawful joined now).shift
  | recover => exact l.recover_shift
  | checkHealth => exact l.checkHealth_idles.shift
  | equip => exact ⟨rfl, rfl, rfl⟩
  | execute p given s => exact (l.execute_idles p given s).shift
  | wait before after => exact (l.passTime_idles before after).shift

-- A refusal says that the request was barred, and then nothing has happened.
structure Gated (l : Lifecycle) (r : LifeRequest) (after : Lifecycle) (reply : LifeReply) :
    Prop where
  barred : r.refused l.state reply = r.barred l.state
  unmoved : r.barred l.state = true → after = l

theorem Gated.of_free {r : LifeRequest} {reply : LifeReply} (free : r.barred l.state = false)
    (taken : r.refused l.state reply = false) : l.Gated r after reply := by
  refine ⟨taken.trans free.symm, ?_⟩
  intro barred
  rw [free] at barred
  cases barred

theorem Gated.of_barred {r : LifeRequest} {reply : LifeReply} (barred : r.barred l.state = true)
    (refused : r.refused l.state reply = true) : l.Gated r l reply :=
  ⟨refused.trans barred.symm, fun _ => rfl⟩

theorem Orderly.running_of_unstartable (orderly : l.Orderly)
    (startable : l.state.startable = false) : l.isRunning = true := by
  have resting := orderly.resting
  unfold isRunning
  cases state : l.state with
  | running => rfl
  | uninitialized | stopped | error =>
    rw [state] at startable
    cases startable
  | initializing | stopping =>
    rw [state] at resting
    exact absurd resting (by decide)

theorem Started.gated (orderly : l.Orderly) (started : Started l after result) (now : Nat) :
    l.Gated (.start now) after (some result) := by
  cases started with
  | refused startable refusal =>
    exact .of_barred (orderly.running_of_unstartable startable) refusal
  | failed startable _ other => exact .of_free (startable_idle startable) other
  | up startable => exact .of_free (startable_idle startable) rfl

theorem Halted.gated {joined : Bool} (halted : Halted l joined after result) (now : Nat) :
    l.Gated (.stop joined now) after (some result) := by
  cases halted with
  | refused idle => exact .of_barred (bne_iff_ne.mpr idle) rfl
  | stopped running | timedOut running =>
    refine .of_free ?_ rfl
    rw [running]
    rfl

theorem Paused.free {joined : Bool} (paused : Paused l joined after) (now : Nat) :
    LifeRequest.barred (.restart joined now) l.state = false := by
  cases paused with
  | already stopped =>
    rw [stopped]
    rfl
  | halted halted =>
    cases halted with
    | stopped running =>
      rw [running]
      rfl

theorem Cycled.gated {joined : Bool} (cycled : Cycled l joined after result) (now : Nat) :
    l.Gated (.restart joined now) after (some result) := by
  cases cycled with
  | unstopped unstopped halted =>
    cases halted with
    | refused idle =>
      refine .of_barred ?_ rfl
      simp [LifeRequest.barred, idle, unstopped]
    | timedOut running =>
      refine .of_free ?_ rfl
      rw [running]
      rfl
  | unstarted paused _ | restarted paused _ => exact .of_free (paused.free now) rfl

theorem recover_gated (l : Lifecycle) : l.Gated .recover l.recover.1 (some l.recover.2) := by
  unfold recover
  split
  · rename_i failed
    refine .of_free ?_ rfl
    rw [failed]
    rfl
  · rename_i sound
    exact .of_barred (bne_iff_ne.mpr sound) rfl

theorem answer_gated (orderly : l.Orderly) (lawful : l.Lawful) (r : LifeRequest) :
    l.Gated r (l.answer r).1 (l.answer r).2 := by
  cases r with
  | start now => exact (start_started lawful now).gated orderly now
  | stop joined now => exact (l.halt_halted joined now).gated now
  | restart joined now => exact (cycle_cycled lawful joined now).gated now
  | recover => exact l.recover_gated
  | checkHealth | equip | execute | wait => exact ⟨rfl, nofun⟩

end Lifecycle

abbrev Lifecycle.Turn := Lifecycle × LifeRequest

namespace Lifecycle.Turn

def after (t : Turn) : Lifecycle := (t.1.answer t.2).1

def reply (t : Turn) : LifeReply := (t.1.answer t.2).2

def isFailedStart (t : Turn) : Bool := t.2.failedStart t.reply

def isStopTimeout (t : Turn) : Bool := t.2.stopTimeout t.reply

def isRestart (t : Turn) : Bool := t.2.restarted t.reply

def isRefused (t : Turn) : Bool := t.2.refused t.1.state t.reply

def hookFailures (t : Turn) : Nat := t.2.hookFailures t.1

end Lifecycle.Turn

namespace Lifecycle

variable {l : Lifecycle} {turns : List Turn}

structure Accounted (turns : List Turn) (l : Lifecycle) : Prop where
  starts : l.stats.starts =
    l.stats.stops + turns.countP Turn.isStopTimeout + l.isRunning.toNat
  failures : l.stats.failures = turns.countP Turn.isFailedStart +
    sumOf (turns.map Turn.hookFailures) + turns.countP Turn.isStopTimeout
  restarts : l.stats.restarts = turns.countP Turn.isRestart

theorem Accounted.answer (accounted : Accounted turns l) (lawful : l.Lawful)
    (r : LifeRequest) : Accounted (turns ++ [(l, r)]) (l.answer r).1 := by
  obtain ⟨starts, failures, restarts⟩ := accounted
  obtain ⟨starts', failures', restarts'⟩ := answer_shift lawful r
  change _ = _ + _ + (Turn.isStopTimeout (l, r)).toNat + _ at starts'
  change _ = _ + (Turn.isFailedStart (l, r)).toNat + Turn.hookFailures (l, r) +
    (Turn.isStopTimeout (l, r)).toNat at failures'
  constructor
  · rw [countP_snoc]
    omega
  · rw [countP_snoc, countP_snoc, sumOf_snoc]
    omega
  · rw [restarts', restarts, countP_snoc]
    rfl

structure Tracked (turns : List Turn) (l : Lifecycle) : Prop
    extends l.Orderly, Accounted turns l where
  lawful : l.Lawful
  gated : ∀ t ∈ turns, t.1.Gated t.2 t.after t.reply

theorem Tracked.fresh (settings : Settings) (e : Executor) :
    Tracked [] (.ofSettings settings e) := by
  have orderly : (ofSettings settings e).Orderly := by
    refine ⟨.head _, rfl, iff_of_false Bool.false_ne_true ?_, ?_, ?_⟩
    · intro running
      cases running
    · intro running
      cases running
    · rintro (stopped | failed)
      · cases stopped
      · cases failed
  exact ⟨orderly, ⟨rfl, rfl, rfl⟩, fun h member => (by cases member),
    fun t member => (by cases member)⟩

theorem Tracked.answer (tracked : Tracked turns l) {r : LifeRequest} (leaves : r.LeavesOpen) :
    Tracked (turns ++ [(l, r)]) (l.answer r).1 := by
  have orderly := tracked.toOrderly
  refine ⟨answer_orderly orderly tracked.lawful r, tracked.toAccounted.answer tracked.lawful r,
    answer_lawful tracked.lawful leaves, ?_⟩
  intro t member
  rcases List.mem_append.mp member with old | new
  · exact tracked.gated t old
  · cases List.mem_singleton.mp new
    exact answer_gated orderly tracked.lawful r

end Lifecycle

structure LifeKept (turns : List Lifecycle.Turn) (l : Lifecycle) : Prop
    extends l.Orderly, Lifecycle.Accounted turns l where
  shut : l.state = .stopped ∨ l.state = .error → ∀ p given s, ∃ f : Fault,
    (l.executor.serve p given s).2 = .error f ∧ f.code = "CLOSED"
  barred : ∀ t ∈ turns, t.isRefused = t.2.barred t.1.state
  refused : ∀ t ∈ turns, t.isRefused = true → t.after = t.1

theorem Lifecycle.Tracked.lifeKept {turns : List Lifecycle.Turn} {l : Lifecycle}
    (tracked : Lifecycle.Tracked turns l) : LifeKept turns l := by
  refine ⟨tracked.toOrderly, tracked.toAccounted, ?_, ?_, ?_⟩
  · intro down p given s
    rw [Executor.serve_closed _ (tracked.down down).executor]
    exact ⟨_, rfl, rfl⟩
  · intro t member
    exact (tracked.gated t member).barred
  · intro t member refused
    have gated := tracked.gated t member
    exact gated.unmoved (gated.barred.symm.trans refused)

theorem life_kept (settings : Settings) (e : Executor) {requests : List LifeRequest}
    (leaves : ∀ r ∈ requests, r.LeavesOpen) :
    LifeKept (journal Lifecycle.answer (.ofSettings settings e) requests)
      (answering Lifecycle.answer (.ofSettings settings e) requests).1 := by
  have kept : ∀ turns l, ∀ r ∈ requests, Lifecycle.Tracked turns l →
      Lifecycle.Tracked (turns ++ [(l, r)]) (l.answer r).1 :=
    fun turns l r member tracked => tracked.answer (leaves r member)
  exact (journal_invariant kept (.fresh settings e)).lifeKept

def Executor.bare : Executor := .ofSettings {} { engine := {}, execution := {} }

-- A life in which hooks fail and the background hangs once. It goes on from an error without a
-- recovery, and from another with one.
def StartHook.warm : StartHook := { name := "warm", act := fun e => (e, .ok ()) }

def StartHook.cold : StartHook :=
  { name := "cold", act := fun e => (e, .error (.internal "cold failed")) }

def StopHook.leaky : StopHook := { name := "leaky", verdict := .error (.internal "leaky failed") }

def troubledLife : List LifeRequest :=
  [.equip [.warm] [.leaky] [], .start 0, .start 1, .stop false 2, .start 3, .restart true 4,
    .checkHealth, .equip [.warm, .cold] [.leaky] [], .restart true 5, .stop true 6, .recover,
    .restart true 7]

theorem life_kept_troubled :
    (∀ r ∈ troubledLife, r.LeavesOpen) ∧
      ∃ l, l = (answering Lifecycle.answer (.ofSettings {} .bare) troubledLife).1 ∧
        l.stats.starts = 3 ∧ l.stats.stops = 2 ∧ l.stats.failures = 6 ∧ l.stats.restarts = 1 ∧
        LifeKept (journal Lifecycle.answer (.ofSettings {} .bare) troubledLife) l := by
  have leaves : ∀ r ∈ troubledLife, r.LeavesOpen := by
    simp [troubledLife, LifeRequest.LeavesOpen, StartHook.LeavesOpen, StartHook.warm,
      StartHook.cold]
  exact ⟨leaves, _, rfl, rfl, rfl, rfl, rfl, life_kept {} .bare leaves⟩

end Tollgate
