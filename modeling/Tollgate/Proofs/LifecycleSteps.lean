import Tollgate.Lifecycle
import Tollgate.Proofs.ExecutionBooks

namespace Tollgate

namespace Pool

theorem evictAll_closed (p : Pool) (hashes : List String) :
    (hashes.foldl (fun p hash => (p.evict hash).1) p).closed = p.closed := by
  induction hashes generalizing p with
  | nil => rfl
  | cons hash rest ih => exact ih (p.evict hash).1

theorem put_closed (p : Pool) (i : Instance) (now : Nat) : (p.put i now).1.closed = p.closed := by
  unfold put
  split <;> rfl

end Pool

namespace Executor

variable {e : Executor}

structure Up (e : Executor) : Prop where
  executor : e.closed = false
  pool : e.pool.closed = false

structure Down (e : Executor) : Prop where
  executor : e.closed = true
  pool : e.pool.closed = true
  emptied : e.pool.idle.entries = []

-- Neither opened nor closed.
structure Stays (before after : Executor) : Prop where
  up : before.Up → after.Up
  down : before.Down → after.Down

theorem Stays.refl (e : Executor) : e.Stays e := ⟨id, id⟩

theorem Stays.trans {a b c : Executor} (first : a.Stays b) (second : b.Stays c) : a.Stays c :=
  ⟨fun up => second.up (first.up up), fun down => second.down (first.down down)⟩

theorem reopen_up (e : Executor) : e.reopen.Up := ⟨rfl, rfl⟩

theorem Up.close (up : e.Up) : e.close.Down := by
  have shut : e.close = { e with closed := true, pool := e.pool.close } := by
    simp [Executor.close, up.executor]
  rw [shut]
  refine ⟨rfl, ?_, ?_⟩ <;> simp [Pool.close, up.pool, Table.empty]

theorem Down.close (down : e.Down) : e.close.Down := by
  rw [Executor.close, if_pos down.executor]
  exact down

theorem acquire_poolClosed {mid : Executor} {result : Except Fault Checkout} {p : CallParams}
    {given : Option Contract} {s : Surroundings} (stage : e.acquire p given s = (mid, result)) :
    mid.pool.closed = e.pool.closed := by
  have acquired := e.acquire_acquired p given s
  have cleared : (e.supplied p given).pool.closed = e.pool.closed := by
    rw [supplied_pool]
    exact Pool.evictAll_closed _ _
  rw [stage] at acquired
  cases acquired with
  | refused vm pool => rw [pool]
  | invalid chosen vm pool => rw [pool, cleared]
  | unmade chosen vm got | pooled chosen vm got | fresh chosen vm got =>
    exact (Pool.Taking.of_get got).fixed.2.trans cleared

theorem serve_poolClosed (e : Executor) (p : CallParams) (given : Option Contract)
    (s : Surroundings) : (e.serve p given s).1.pool.closed = e.pool.closed := by
  have ended := e.serve_ended p given s
  generalize e.serve p given s = last at ended
  obtain ⟨after, result⟩ := last
  cases ended with
  | unsupplied stage vm pool | lost stage vm pool =>
    rw [pool]
    exact acquire_poolClosed stage
  | returned stage called done vm pool =>
    rw [pool, Pool.put_closed]
    exact acquire_poolClosed stage

theorem serve_stays (e : Executor) (p : CallParams) (given : Option Contract)
    (s : Surroundings) : e.Stays (e.serve p given s).1 := by
  refine ⟨?_, ?_⟩
  · intro up
    exact ⟨(e.serve_keepsClosed p given s).trans up.executor,
      (e.serve_poolClosed p given s).trans up.pool⟩
  · intro down
    rw [e.serve_closed down.executor]
    obtain ⟨_, pool⟩ := e.finish_fixed (.error (.closed "executor"))
    exact ⟨down.executor, pool ▸ down.pool, pool ▸ down.emptied⟩

theorem cleanup_stays (e : Executor) (now : Nat) :
    e.Stays { e with pool := (e.pool.cleanup now).1 } := by
  refine ⟨fun up => ⟨up.executor, up.pool⟩, fun down => ⟨down.executor, down.pool, ?_⟩⟩
  exact Pool.cleanup_emptied down.emptied now

theorem cleanups_stay (e : Executor) (rounds : List Nat) :
    e.Stays { e with pool := rounds.foldl (fun p t => (p.cleanup t).1) e.pool } := by
  induction rounds generalizing e with
  | nil => exact .refl e
  | cons now rest ih =>
    exact (e.cleanup_stays now).trans (ih { e with pool := (e.pool.cleanup now).1 })

end Executor

def StartHook.LeavesOpen (h : StartHook) : Prop := ∀ e : Executor, e.Up → (h.act e).1.Up

def refusalCodes : List String := ["ALREADY_RUNNING", "NOT_RUNNING", "INVALID_STATE"]

-- A refusal of the runtime itself: faults of hooks name their hook.
def Fault.isRefusal (f : Fault) : Bool :=
  refusalCodes.contains f.code && !f.context.contains "hook"

def LifecycleState.resting : List LifecycleState := [.uninitialized, .running, .stopped, .error]

def LifecycleState.startable : LifecycleState → Bool
  | .uninitialized | .stopped | .error => true
  | .initializing | .running | .stopping => false

namespace Lifecycle

variable {l after : Lifecycle} {result : Except Fault Unit}

-- Only the runtime itself closes the executor.
def Lawful (l : Lifecycle) : Prop := ∀ h ∈ l.startHooks, h.LeavesOpen

theorem runStartHooks_up {hooks : List StartHook} (lawful : ∀ h ∈ hooks, h.LeavesOpen)
    (budget spent : Nat) {e : Executor} (up : e.Up) (ran : List String) :
    (runStartHooks budget spent e ran hooks).executor.Up := by
  induction hooks generalizing spent e ran with
  | nil => exact up
  | cons hook rest ih =>
    have next := lawful hook List.mem_cons_self e up
    unfold runStartHooks
    dsimp only
    split
    · exact up
    · split
      · rename_i after acted
        rw [acted] at next
        exact ih (fun h member => lawful h (List.mem_cons_of_mem _ member)) _ next _
      · rename_i after f acted
        rw [acted] at next
        exact next

-- What makes a start fail is no refusal.
theorem runStartHooks_fault {hooks : List StartHook} {budget spent : Nat} {e : Executor}
    {ran : List String} {f : Fault}
    (failed : (runStartHooks budget spent e ran hooks).result = .error f) :
    f.isRefusal = false := by
  induction hooks generalizing spent e ran with
  | nil => cases failed
  | cons hook rest ih =>
    unfold runStartHooks at failed
    dsimp only at failed
    split at failed
    · cases failed
      rfl
    · split at failed
      · exact ih failed
      · cases failed
        simp [Fault.isRefusal, Fault.withContext, Table.contains, Table.get_insert]

inductive Started (l : Lifecycle) : Lifecycle → Except Fault Unit → Prop
  | refused {f : Fault} : l.state.startable = false → f.isRefusal = true →
      Started l l (.error f)
  | failed {e : Executor} {f : Fault} : l.state.startable = true → e.Up →
      f.isRefusal = false → Started l ((l.setState .initializing).fall e) (.error f)
  | up {e : Executor} {moment : Nat} : l.state.startable = true → e.Up →
      Started l ((l.setState .initializing).rise e moment) (.ok ())

theorem start_started (lawful : l.Lawful) (now : Nat) :
    Started l (l.start now).1 (l.start now).2.result := by
  have opened := runStartHooks_up lawful l.settings.startTimeout 0 l.executor.reopen_up []
  unfold start
  cases state : l.state with
  | running => exact .refused (by rw [state]; rfl) rfl
  | initializing | stopping => exact .refused (by rw [state]; rfl) rfl
  | uninitialized | stopped | error =>
    have startable : l.state.startable = true := by rw [state]; rfl
    dsimp only
    split
    · rename_i f failed
      exact .failed startable opened (runStartHooks_fault failed)
    · exact .up startable opened

inductive Halted (l : Lifecycle) (joined : Bool) : Lifecycle → Except Fault Unit → Prop
  | refused : l.state ≠ .running → Halted l joined l (.error (notRunning l.state))
  | stopped {moment : Nat} : l.state = .running → joined = true →
      Halted l joined ((l.setState .stopping).sink moment).settle (.ok ())
  | timedOut {moment : Nat} : l.state = .running → joined = false →
      Halted l joined ((l.setState .stopping).sink moment).strand (.error stopTimedOut)

theorem halt_halted (l : Lifecycle) (joined : Bool) (now : Nat) :
    Halted l joined (l.halt joined now).1 (l.halt joined now).2.result := by
  unfold halt
  split
  · rename_i running
    dsimp only
    cases joined with
    | true => exact .stopped running rfl
    | false => exact .timedOut running rfl
  · rename_i other
    exact .refused other

inductive Paused (l : Lifecycle) (joined : Bool) : Lifecycle → Prop
  | already : l.state = .stopped → Paused l joined l
  | halted {mid : Lifecycle} : Halted l joined mid (.ok ()) → Paused l joined mid

-- A restart fails while stopping or while starting, or it counts.
inductive Cycled (l : Lifecycle) (joined : Bool) : Lifecycle → Except Fault Unit → Prop
  | unstopped {after : Lifecycle} {f : Fault} : l.state ≠ .stopped →
      Halted l joined after (.error f) → Cycled l joined after (.error (stopFailed f))
  | unstarted {mid after : Lifecycle} {f : Fault} : Paused l joined mid →
      Started mid after (.error f) → Cycled l joined after (.error (startFailed f))
  | restarted {mid after : Lifecycle} : Paused l joined mid → Started mid after (.ok ()) →
      Cycled l joined
        { after with stats := { after.stats with restarts := after.stats.restarts + 1 } } (.ok ())

theorem Halted.hooks {joined : Bool} (halted : Halted l joined after result) :
    after.startHooks = l.startHooks := by
  cases halted <;> rfl

theorem Paused.hooks {joined : Bool} (paused : Paused l joined after) :
    after.startHooks = l.startHooks := by
  cases paused with
  | already => rfl
  | halted halted => exact halted.hooks

theorem resume_cycled {mid : Lifecycle} {joined : Bool} (paused : Paused l joined mid)
    (lawful : l.Lawful) (down : Transition) (now : Nat) :
    Cycled l joined (mid.resume down now).1 (mid.resume down now).2.result := by
  have kept : mid.Lawful := by
    unfold Lawful
    rw [paused.hooks]
    exact lawful
  have started := start_started kept (now + down.elapsed)
  unfold resume
  generalize mid.start (now + down.elapsed) = next at started
  obtain ⟨after, up⟩ := next
  dsimp only at started ⊢
  split
  · rename_i f failed
    rw [failed] at started
    exact .unstarted paused started
  · rename_i done
    dsimp only
    rw [done] at started ⊢
    exact .restarted paused started

theorem cycle_cycled (lawful : l.Lawful) (joined : Bool) (now : Nat) :
    Cycled l joined (l.cycle joined now).1 (l.cycle joined now).2.result := by
  unfold cycle
  by_cases stopped : l.state = .stopped
  · rw [if_pos stopped]
    exact resume_cycled (.already stopped) lawful _ _
  · rw [if_neg stopped]
    have halted := l.halt_halted joined now
    generalize l.halt joined now = next at halted
    obtain ⟨mid, down⟩ := next
    dsimp only at halted ⊢
    split
    · rename_i f failed
      rw [failed] at halted
      exact .unstopped stopped halted
    · rename_i done
      rw [done] at halted
      exact resume_cycled (.halted halted) lawful _ _

structure Orderly (l : Lifecycle) : Prop where
  resting : l.state ∈ LifecycleState.resting
  mirrored : l.stats.state = l.state
  since : l.runningSince.isSome = true ↔ l.state = .running
  up : l.state = .running → l.executor.Up
  down : l.state = .stopped ∨ l.state = .error → l.executor.Down

theorem Orderly.started (orderly : l.Orderly) (started : Started l after result) :
    after.Orderly := by
  cases started with
  | refused => exact orderly
  | failed startable up =>
    have idle : l.state ≠ .running := by
      intro running
      rw [running] at startable
      cases startable
    have resting : LifecycleState.error ∈ LifecycleState.resting := by decide
    exact ⟨resting, rfl, iff_of_false (fun set => idle (orderly.since.mp set)) nofun, nofun,
      fun _ => up.close⟩
  | up startable up =>
    have resting : LifecycleState.running ∈ LifecycleState.resting := by decide
    refine ⟨resting, rfl, iff_of_true rfl rfl, fun _ => up, ?_⟩
    rintro (stopped | failed)
    · cases stopped
    · cases failed

theorem Orderly.halted {joined : Bool} (orderly : l.Orderly)
    (halted : Halted l joined after result) : after.Orderly := by
  cases halted with
  | refused => exact orderly
  | stopped running =>
    have resting : LifecycleState.stopped ∈ LifecycleState.resting := by decide
    exact ⟨resting, rfl, iff_of_false Bool.false_ne_true nofun, nofun,
      fun _ => (orderly.up running).close⟩
  | timedOut running =>
    have resting : LifecycleState.error ∈ LifecycleState.resting := by decide
    exact ⟨resting, rfl, iff_of_false Bool.false_ne_true nofun, nofun,
      fun _ => (orderly.up running).close⟩

theorem Orderly.paused {joined : Bool} (orderly : l.Orderly) (paused : Paused l joined after) :
    after.Orderly := by
  cases paused with
  | already => exact orderly
  | halted halted => exact orderly.halted halted

theorem Orderly.cycled {joined : Bool} (orderly : l.Orderly)
    (cycled : Cycled l joined after result) : after.Orderly := by
  cases cycled with
  | unstopped _ halted => exact orderly.halted halted
  | unstarted paused started => exact (orderly.paused paused).started started
  | restarted paused started =>
    have up := (orderly.paused paused).started started
    exact ⟨up.resting, up.mirrored, up.since, up.up, up.down⟩

structure Idles (l after : Lifecycle) : Prop where
  state : after.state = l.state
  hooks : after.startHooks = l.startHooks
  since : after.runningSince = l.runningSince
  stats : ∃ checks, after.stats = { l.stats with healthChecks := checks }
  executor : l.executor.Stays after.executor

theorem Idles.refl (l : Lifecycle) : l.Idles l := ⟨rfl, rfl, rfl, ⟨_, rfl⟩, .refl _⟩

theorem Idles.trans {a b c : Lifecycle} (first : a.Idles b) (second : b.Idles c) : a.Idles c := by
  obtain ⟨checks, stats⟩ := first.stats
  obtain ⟨checks', stats'⟩ := second.stats
  exact ⟨second.state.trans first.state, second.hooks.trans first.hooks,
    second.since.trans first.since, ⟨checks', by rw [stats', stats]⟩,
    first.executor.trans second.executor⟩

theorem checkHealth_idles (l : Lifecycle) : l.Idles l.checkHealth.1 :=
  ⟨rfl, rfl, rfl, ⟨_, rfl⟩, .refl _⟩

theorem checkHealths_idle (l : Lifecycle) (rounds : List Nat) :
    l.Idles (rounds.foldl (fun l _ => l.checkHealth.1) l) := by
  induction rounds generalizing l with
  | nil => exact .refl l
  | cons now rest ih => exact l.checkHealth_idles.trans (ih l.checkHealth.1)

theorem passTime_idles (l : Lifecycle) (before after : Nat) :
    l.Idles (l.passTime before after) := by
  unfold passTime
  split
  · dsimp only
    have cleaned : ∀ rounds : List Nat, l.Idles { l with executor :=
        { l.executor with pool := rounds.foldl (fun p t => (p.cleanup t).1) l.executor.pool } } :=
      fun rounds => ⟨rfl, rfl, rfl, ⟨_, rfl⟩, l.executor.cleanups_stay rounds⟩
    split
    · exact (cleaned _).trans (checkHealths_idle _ _)
    · exact cleaned _
  · exact .refl l

theorem Orderly.idles (orderly : l.Orderly) (idles : l.Idles after) : after.Orderly := by
  obtain ⟨checks, stats⟩ := idles.stats
  refine ⟨idles.state ▸ orderly.resting, ?_, ?_, ?_, ?_⟩
  · rw [stats, idles.state]
    exact orderly.mirrored
  · rw [idles.since, idles.state]
    exact orderly.since
  · rw [idles.state]
    exact fun running => idles.executor.up (orderly.up running)
  · rw [idles.state]
    exact fun down => idles.executor.down (orderly.down down)

-- How the counters move: by starts that fail, stop hooks that fail, stops that run out of time,
-- and restarts.
structure Shift (l after : Lifecycle) (falls hooks timeouts restarts : Nat) : Prop where
  starts : after.stats.starts + l.stats.stops + l.isRunning.toNat =
    l.stats.starts + after.stats.stops + timeouts + after.isRunning.toNat
  failures : after.stats.failures = l.stats.failures + falls + hooks + timeouts
  restarts : after.stats.restarts = l.stats.restarts + restarts

theorem Shift.trans {a b c : Lifecycle} {f f' h h' t t' n n' : Nat} (first : a.Shift b f h t n)
    (second : b.Shift c f' h' t' n') : a.Shift c (f + f') (h + h') (t + t') (n + n') := by
  obtain ⟨starts, failures, restarts⟩ := first
  obtain ⟨starts', failures', restarts'⟩ := second
  constructor <;> omega

theorem Idles.shift (idles : l.Idles after) : l.Shift after 0 0 0 0 := by
  obtain ⟨checks, stats⟩ := idles.stats
  constructor
  · rw [stats, isRunning, isRunning, idles.state]
    rfl
  · rw [stats]
    rfl
  · rw [stats]
    rfl

theorem startable_idle (startable : l.state.startable = true) : l.isRunning = false := by
  unfold isRunning
  cases state : l.state with
  | running =>
    rw [state] at startable
    cases startable
  | uninitialized | initializing | stopping | stopped | error => rfl

def fell : Except Fault Unit → Bool
  | .ok _ => false
  | .error f => !f.isRefusal

theorem Started.shift (started : Started l after result) :
    l.Shift after (fell result).toNat 0 0 0 := by
  cases started with
  | refused _ refusal =>
    rw [fell, refusal]
    exact (Idles.refl l).shift
  | failed startable up other =>
    rw [fell, other]
    refine ⟨?_, rfl, rfl⟩
    rw [startable_idle startable]
    rfl
  | up startable up =>
    refine ⟨?_, rfl, rfl⟩
    rw [startable_idle startable]
    change l.stats.starts + 1 + l.stats.stops + 0 = l.stats.starts + l.stats.stops + 0 + 1
    omega

-- The stop hooks run, and fail, when a running runtime is taken down.
def failedHooks (l : Lifecycle) : Nat := if l.state = .running then stopFailures l.stopHooks else 0

def ranOut : Except Fault Unit → Bool
  | .ok _ => false
  | .error f => f.code == "STOP_TIMEOUT"

theorem Halted.shift {joined : Bool} (halted : Halted l joined after result) :
    l.Shift after 0 l.failedHooks (ranOut result).toNat 0 := by
  cases halted with
  | refused idle =>
    rw [failedHooks, if_neg idle]
    exact (Idles.refl l).shift
  | stopped running =>
    rw [failedHooks, if_pos running]
    refine ⟨?_, rfl, rfl⟩
    rw [isRunning, running]
    change l.stats.starts + l.stats.stops + 1 = l.stats.starts + (l.stats.stops + 1) + 0 + 0
    omega
  | timedOut running =>
    rw [failedHooks, if_pos running]
    refine ⟨?_, rfl, rfl⟩
    rw [isRunning, running]
    rfl

theorem Paused.state {joined : Bool} (paused : Paused l joined after) : after.state = .stopped := by
  cases paused with
  | already stopped => exact stopped
  | halted halted =>
    cases halted
    rfl

theorem Paused.shift {joined : Bool} (paused : Paused l joined after) :
    l.Shift after 0 l.failedHooks 0 0 := by
  cases paused with
  | already stopped =>
    have none : l.failedHooks = 0 := by
      rw [failedHooks, stopped]
      rfl
    rw [none]
    exact (Idles.refl l).shift
  | halted halted => exact halted.shift

theorem Started.tried (started : Started l after result) (stopped : l.state = .stopped) :
    ∀ f, result = .error f → f.isRefusal = false := by
  intro f failed
  cases started with
  | refused startable =>
    rw [stopped] at startable
    cases startable
  | failed _ _ other =>
    cases failed
    exact other
  | up => cases failed

end Lifecycle

end Tollgate
