import Tollgate.Executor
import Tollgate.Proofs.Course
import Tollgate.Proofs.IdleInstances

namespace Tollgate

theorem bind_ok_parts {ε α β : Type} {x : Except ε α} {f : α → Except ε β} {b : β}
    (done : (x >>= f) = .ok b) : ∃ a, x = .ok a ∧ f a = .ok b := by
  cases x with
  | error e => cases done
  | ok a => exact ⟨a, rfl, done⟩

structure Guard.Keeps (before after : Guard) : Prop where
  policy : after.policy = before.policy
  checkers : after.checkers = before.checkers

namespace Guard

theorem Keeps.refl (g : Guard) : g.Keeps g := ⟨rfl, rfl⟩

theorem Keeps.trans {a b c : Guard} (first : a.Keeps b) (second : b.Keeps c) : a.Keeps c :=
  ⟨second.policy.trans first.policy, second.checkers.trans first.checkers⟩

theorem Counts.keeps {before after : Guard} {validated violations : Nat}
    (counts : before.Counts after validated violations) : before.Keeps after :=
  ⟨counts.policy, counts.checkers⟩

theorem record_policy (g : Guard) (kind : String) (severity : Nat) (message : String) :
    (g.record kind severity message).policy = g.policy := (record_counts g _ _ _).policy

theorem record_checkers (g : Guard) (kind : String) (severity : Nat) (message : String) :
    (g.record kind severity message).checkers = g.checkers := (record_counts g _ _ _).checkers

theorem Keeps.record {before g : Guard} (kept : before.Keeps g) (kind : String) (severity : Nat)
    (message : String) : before.Keeps (g.record kind severity message) :=
  kept.trans (record_counts g kind severity message).keeps

theorem checkLimits_keeps (g : Guard) (phase : LimitPhase) (c : CallContext) (now : Nat) :
    g.Keeps (g.checkLimits phase c now).1 := by
  unfold checkLimits
  dsimp only
  split
  · exact .refl g
  · exact ⟨record_policy _ _ _ _, record_checkers _ _ _ _⟩

theorem countValidation_keeps (g : Guard) (failed : Bool) : g.Keeps (g.countValidation failed) :=
  ⟨rfl, rfl⟩

theorem Keeps.noteFailures {before g : Guard} (kept : before.Keeps g) (kind : String)
    (failures : List RuleFailure) : before.Keeps (failures.foldl (noteFailure kind) g) := by
  induction failures generalizing g with
  | nil => exact kept
  | cons f rest ih => exact ih (kept.record _ _ _)

theorem validateModule_keeps (g : Guard) (c : Contract) : g.Keeps (g.validateModule c).1 := by
  unfold validateModule
  dsimp only
  split
  · exact .refl g
  · split
    · exact (countValidation_keeps g _).record _ _ _
    · exact (countValidation_keeps g _).noteFailures _ _

theorem scorePattern_keeps (threshold : Float) (data : Table Value) (state : Guard × Scan)
    (p : ThreatPattern) : state.1.Keeps (scorePattern threshold data state p).1 := by
  unfold scorePattern
  dsimp only
  split
  · exact ⟨record_policy _ _ _ _, record_checkers _ _ _ _⟩
  · exact .refl _

theorem detectThreats_keeps (g : Guard) (moduleId : String) (data : Table Value) :
    g.Keeps (g.detectThreats moduleId data).1 := by
  have scored : ∀ (threshold : Float) (patterns : List ThreatPattern) (state : Guard × Scan),
      g.Keeps state.1 → g.Keeps (patterns.foldl (scorePattern threshold data) state).1 := by
    intro threshold patterns
    induction patterns with
    | nil => exact fun state kept => kept
    | cons p rest ih =>
      exact fun state kept => ih _ (kept.trans (scorePattern_keeps threshold data state p))
  unfold detectThreats
  split
  · exact .refl g
  · dsimp only
    have kept := scored (Float.ofBits g.policy.alertThreshold) g.patterns
      (g, ⟨s!"scan{g.scansMade}", moduleId, 0.0, [], false⟩) (.refl g)
    split
    · exact ⟨(record_policy _ _ _ _).trans kept.policy,
        (record_checkers _ _ _ _).trans kept.checkers⟩
    · exact kept.trans ⟨rfl, rfl⟩

end Guard

theorem HostCall.Answer.keeps {visible : Option Nat} {c : HostCall} {progress : Progress}
    (answer : c.Answer visible progress) : c.run.guard.Keeps progress.run.guard := by
  cases answer with
  | unreadable verdict => exact .refl _
  | denied verdict counts => exact counts.keeps
  | unpaid verdict counts => exact counts.keeps
  | served verdict counts paid => exact counts.keeps

theorem Run.settle_keeps (r : Run) (visible : Option Nat) (s : Guest.Step) :
    r.guard.Keeps (r.settle visible s).run.guard := by
  cases s with
  | next m => exact .refl r.guard
  | host f args m => exact (r.hostCall_answer visible f args m).keeps
  | returned values m => exact .refl r.guard
  | trapped t m => exact .refl r.guard

theorem Run.Course.keeps {b : Guest.Backend} {visible : Option Nat} {r : Run}
    {callable : Guest.Callable} {args : List Guest.Native} {calls : List HostCall}
    {last : Progress} (course : Course b visible r callable args calls last) :
    r.guard.Keeps last.run.guard := by
  refine course.invariant (motive := fun _ progress => r.guard.Keeps progress.run.guard) ?_ ?_
  · exact .refl r.guard
  · intro calls now s kept lawful
    exact kept.trans (now.settle_keeps visible s)

namespace Vm

theorem call_keeps (vm : Vm) (guard : Guard) (i : Instance) (function : String)
    (words : List UInt64) (limits : CallLimits) (tick : Option Nat) :
    guard.Keeps (vm.call guard i function words limits tick).1 := by
  cases prepared : vm.prepare i function words with
  | error f =>
    rw [call_refused guard limits tick prepared]
    exact .refl guard
  | ok entry =>
    obtain ⟨last, course, called⟩ := call_entered guard limits tick prepared
    rw [called, Progress.close_run]
    exact course.keeps

theorem runLive_course (live : Live) (visible : Option Nat) (guard : Guard)
    (callable : Guest.Callable) (args : List Guest.Native) (interruptAt : Option Nat) :
    ∃ calls last, Run.Course (Guest.Program.backend ⟨live.functions, live.tables, interruptAt⟩)
        visible ⟨guard, live.env, live.output, .idle live.globals live.memories live.meter
          callable.type.results.length⟩ callable args calls last ∧
      runLive live visible guard callable args interruptAt = last.close := by
  obtain ⟨last, course, completed⟩ := Run.complete_course
    ⟨live.functions, live.tables, interruptAt⟩ visible
    ⟨guard, live.env, live.output, .idle live.globals live.memories live.meter
      callable.type.results.length⟩ callable args
  exact ⟨_, last, course, completed⟩

theorem bringUp_keeps (vm : Vm) (guard : Guard) (i : Instance) (pages : Nat)
    (tableLimit tick : Option Nat) : guard.Keeps (bringUp vm guard i pages tableLimit tick).1 := by
  unfold bringUp
  split
  · exact .refl guard
  · dsimp only
    split
    · exact .refl guard
    · rename_i live _ _ callable _
      obtain ⟨calls, last, course, ran⟩ := runLive_course
        { live with meter := live.meter.arm vm.execution.defaultFeeLimit } i.memoryIndex? guard
        callable [] (interruptAt (vm.ticking tick) (vm.execution.timeout * nanosPerMilli))
      have kept : guard.Keeps last.close.1.guard := by
        rw [Progress.close_run]
        exact course.keeps
      rw [ran]
      generalize last.close = finished at kept
      obtain ⟨r, ending⟩ := finished
      cases ending <;> exact kept

theorem instantiate_keeps (vm : Vm) (guard : Guard) (c : Contract) (id : String) (pages : Nat)
    (tableLimit : Option Nat) (others : Nat) (tick : Option Nat) :
    guard.Keeps (vm.instantiate guard c id pages tableLimit others tick).1 := by
  unfold instantiate
  split
  · exact .refl guard
  · dsimp only
    split
    · split
      · exact .refl guard
      · exact bringUp_keeps vm guard _ pages tableLimit tick
    · split
      · exact .refl guard
      · exact bringUp_keeps vm guard _ pages tableLimit tick

theorem remember_engine (vm : Vm) (c : Contract) : (vm.remember c).engine = vm.engine := by
  unfold remember
  repeat' split
  all_goals rfl

theorem compileWith_engine (vm : Vm) (hash : String)
    (build : EngineSettings → Except Fault Contract) :
    (vm.compileWith hash build).1.engine = vm.engine := by
  unfold compileWith
  split
  · rfl
  · split
    · rfl
    · split
      · rfl
      · exact vm.remember_engine _

theorem close_engine (vm : Vm) : vm.close.engine = vm.engine := by
  unfold close
  split <;> rfl

theorem ofSettings_engine {s : Settings} {vm : Vm} (built : ofSettings s = .ok vm) :
    vm.engine = s.engine := by
  unfold ofSettings at built
  split at built
  · cases built
  · cases built
    rfl

theorem withHost_engine {s : Settings} {vm : Vm} (built : withHost s = .ok vm) :
    vm.engine = s.engine := by
  unfold withHost at built
  obtain ⟨plain, made, built⟩ := bind_ok_parts built
  obtain ⟨offered, _, built⟩ := bind_ok_parts built
  have same : plain.engine = s.engine := ofSettings_engine made
  cases built
  exact same

theorem compile_engine (vm : Vm) (bytes : List UInt8) : (vm.compile bytes).1.engine = vm.engine :=
  vm.compileWith_engine _ _

end Vm

-- An execution that has its instance and has not used it yet.
structure Checkout where
  context : CallContext
  contract : Contract
  report : ValidationReport
  item : Instance
  reused : Bool

-- The instance as it goes into the call: scratch space and output are cleared, the surroundings are
-- those of this execution.
def Checkout.ready (k : Checkout) (height : Nat) : Instance :=
  (k.item.resetScratch.resetOutput).setEnv
    ⟨k.context.caller, k.context.contractAddress, height⟩

namespace Executor

def acquire (e : Executor) (p : CallParams) (given : Option Contract) (s : Surroundings) :
    Executor × Except Fault Checkout :=
  if e.closed then (e, .error (.closed "executor"))
  else
    let e := { e with stats := { e.stats with executions := e.stats.executions + 1 } }
    match CallContext.build p e.marshal e.vm.execution s.now with
    | .error f => (e, .error f)
    | .ok c =>
      match e.guard.checkLimits .preExecution c s.now with
      | (guard, .error f) => (e.withGuard guard, .error f)
      | (guard, .ok ()) =>
        match (e.withGuard guard).choose p given with
        | (e, .error f) => (e, .error f)
        | (e, .ok contract) =>
          let e := e.dropEvicted
          match e.guard.validateModule contract with
          | (guard, .error f) => (e.withGuard guard, .error f)
          | (guard, .ok v) =>
            match (e.withGuard guard).takeInstance contract c.memoryPages s with
            | (e, .error f) => (e, .error f)
            | (e, .ok (i, reused)) => (e, .ok ⟨c, contract, v, i, reused⟩)

def carryOut (e : Executor) (k : Checkout) (height : Nat) (s : Surroundings) :
    Executor × Except Fault ExecutionOutcome :=
  match e.callInstance k.context (k.ready height) s with
  | (e, _, _, .error f) => (e, .error (f.withContext "module_id" (.text k.contract.hash)))
  | (e, c, i, .ok report) => e.conclude c k.contract k.report i k.reused report s

theorem run_eq (e : Executor) (p : CallParams) (given : Option Contract) (s : Surroundings) :
    e.run p given s =
      match e.acquire p given s with
      | (e, .error f) => (e, .error f)
      | (e, .ok k) => e.carryOut k p.blockHeight s := by
  unfold run acquire runContract carryOut
  split
  · rfl
  · dsimp only
    cases CallContext.build p e.marshal e.vm.execution s.now with
    | error f => rfl
    | ok c =>
      dsimp only
      obtain ⟨guard, checked⟩ := e.guard.checkLimits .preExecution c s.now
      cases checked with
      | error f => rfl
      | ok _ =>
        dsimp only
        generalize Executor.choose _ p given = chosen
        obtain ⟨e, contract⟩ := chosen
        cases contract with
        | error f => rfl
        | ok contract =>
          dsimp only
          obtain ⟨guard, validated⟩ := e.dropEvicted.guard.validateModule contract
          cases validated with
          | error f => rfl
          | ok v =>
            dsimp only
            generalize Executor.takeInstance _ contract c.memoryPages s = taken
            obtain ⟨e, i⟩ := taken
            cases i <;> rfl

def counted (e : Executor) : Executor :=
  { e with stats := { e.stats with executions := e.stats.executions + 1 } }

-- An execution that may go on to look for its contract.
structure Admits (e : Executor) (p : CallParams) (s : Surroundings) (c : CallContext)
    (guard : Guard) : Prop where
  opened : e.closed = false
  built : CallContext.build p e.marshal e.vm.execution s.now = .ok c
  within : e.guard.checkLimits .preExecution c s.now = (guard, .ok ())

def Chooses (e : Executor) (p : CallParams) (given : Option Contract) (s : Surroundings)
    (c : CallContext) (later : Executor) (contract : Contract) : Prop :=
  ∃ guard, e.Admits p s c guard ∧
    (e.counted.withGuard guard).choose p given = (later, .ok contract)

-- Where the search for an instance can end, and what the checks before have said.
inductive Acquiring (e : Executor) (p : CallParams) (given : Option Contract) (s : Surroundings) :
    Executor × Except Fault Checkout → Prop
  | closed : e.closed = true → Acquiring e p given s (e, .error (.closed "executor"))
  | unbuilt {f : Fault} : e.closed = false →
      CallContext.build p e.marshal e.vm.execution s.now = .error f →
      Acquiring e p given s (e.counted, .error f)
  | exceeding {c : CallContext} {guard : Guard} {f : Fault} : e.closed = false →
      e.guard.checkLimits .preExecution c s.now = (guard, .error f) →
      Acquiring e p given s (e.counted.withGuard guard, .error f)
  | unchosen {c : CallContext} {guard : Guard} {later : Executor} {f : Fault} :
      e.Admits p s c guard → (e.counted.withGuard guard).choose p given = (later, .error f) →
      Acquiring e p given s (later, .error f)
  | invalid {c : CallContext} {later : Executor} {contract : Contract} {guard : Guard}
      {f : Fault} : e.Chooses p given s c later contract →
      later.dropEvicted.guard.validateModule contract = (guard, .error f) →
      Acquiring e p given s (later.dropEvicted.withGuard guard, .error f)
  | unmade {c : CallContext} {later last : Executor} {contract : Contract} {guard : Guard}
      {v : ValidationReport} {f : Fault} : e.Chooses p given s c later contract →
      later.dropEvicted.guard.validateModule contract = (guard, .ok v) →
      (later.dropEvicted.withGuard guard).takeInstance contract c.memoryPages s =
        (last, .error f) →
      Acquiring e p given s (last, .error f)
  | supplied {c : CallContext} {later last : Executor} {contract : Contract} {guard : Guard}
      {v : ValidationReport} {i : Instance} {reused : Bool} :
      e.Chooses p given s c later contract →
      later.dropEvicted.guard.validateModule contract = (guard, .ok v) →
      (later.dropEvicted.withGuard guard).takeInstance contract c.memoryPages s =
        (last, .ok (i, reused)) →
      Acquiring e p given s (last, .ok ⟨c, contract, v, i, reused⟩)

-- The one place that opens the search.
theorem acquire_acquiring (e : Executor) (p : CallParams) (given : Option Contract)
    (s : Surroundings) : Acquiring e p given s (e.acquire p given s) := by
  unfold acquire
  split
  · rename_i closed
    exact .closed closed
  · rename_i opened
    have opened : e.closed = false := by simpa using opened
    dsimp only
    split
    · rename_i f failed
      exact .unbuilt opened failed
    · rename_i c built
      split
      · rename_i guard f refused
        exact .exceeding opened refused
      · rename_i guard within
        have admits : e.Admits p s c guard := ⟨opened, built, within⟩
        split
        · rename_i later f failed
          exact .unchosen admits failed
        · rename_i later contract choice
          have chooses : e.Chooses p given s c later contract := ⟨guard, admits, choice⟩
          split
          · rename_i vetted f refused
            exact .invalid chooses refused
          · rename_i vetted v valid
            split
            · rename_i last f failed
              exact .unmade chooses valid failed
            · rename_i last i reused taken
              exact .supplied chooses valid taken

-- How far an execution may take an executor: its engine stays, the guard keeps its policy and
-- its checkers, and no instance becomes idle that was not idle before.
structure Follows (before after : Executor) : Prop where
  engine : after.vm.engine = before.vm.engine
  guard : before.guard.Keeps after.guard
  pool : ∀ P : Instance → Prop, before.pool.All P → after.pool.All P

theorem Follows.refl (e : Executor) : e.Follows e := ⟨rfl, .refl _, fun _ all => all⟩

theorem Follows.trans {a b c : Executor} (first : a.Follows b) (second : b.Follows c) :
    a.Follows c :=
  ⟨second.engine.trans first.engine, first.guard.trans second.guard,
    fun P all => second.pool P (first.pool P all)⟩

theorem withGuard_follows {e : Executor} {guard : Guard} (kept : e.guard.Keeps guard) :
    e.Follows (e.withGuard guard) := ⟨rfl, kept, fun _ all => all⟩

theorem choose_follows (e : Executor) (p : CallParams) (given : Option Contract) :
    e.Follows (e.choose p given).1 := by
  cases given with
  | some c => exact .refl e
  | none => exact ⟨Vm.compile_engine e.vm p.payload, .refl _, fun _ all => all⟩

theorem dropEvicted_follows (e : Executor) : e.Follows e.dropEvicted :=
  ⟨rfl, .refl _, fun _ all => all.evictAll _⟩

theorem takeInstance_follows (e : Executor) (c : Contract) (pages : Nat) (s : Surroundings) :
    e.Follows (e.takeInstance c pages s).1 := by
  unfold takeInstance
  have pooled : ∀ P : Instance → Prop, e.pool.All P → (e.pool.get c.hash pages).1.All P :=
    fun P all => (all.get c.hash pages).1
  generalize e.pool.get c.hash pages = got at pooled
  obtain ⟨pool, found⟩ := got
  cases found with
  | some i => exact ⟨rfl, .refl _, pooled⟩
  | none =>
    dsimp only
    have kept := e.vm.instantiate_keeps e.guard c s.freshId pages none (s.others + pool.resident)
      s.tick
    generalize e.vm.instantiate e.guard c s.freshId pages none (s.others + pool.resident) s.tick
      = made at kept
    obtain ⟨guard, result⟩ := made
    cases result <;> exact ⟨rfl, kept, pooled⟩

inductive Supplied (e : Executor) (pages : Nat) (i : Instance) : Prop
  | pooled : (∀ P : Instance → Prop, e.pool.All P → P i) → i.memoryLimitPages = pages →
      Supplied e pages i
  | fresh {vm : Vm} {guard : Guard} {c : Contract} {id : String} {others : Nat}
      {tick : Option Nat} : vm.engine = e.vm.engine →
      (vm.instantiate guard c id pages none others tick).2 = .ok i → Supplied e pages i

theorem Supplied.earlier {before after : Executor} {pages : Nat} {i : Instance}
    (follows : before.Follows after) (supplied : Supplied after pages i) :
    Supplied before pages i := by
  cases supplied with
  | pooled held ceiling => exact .pooled (fun P all => held P (follows.pool P all)) ceiling
  | fresh engine made => exact .fresh (engine.trans follows.engine) made

theorem takeInstance_supplied {e after : Executor} {c : Contract} {pages : Nat}
    {s : Surroundings} {i : Instance} {reused : Bool}
    (taken : e.takeInstance c pages s = (after, .ok (i, reused))) : Supplied e pages i := by
  unfold takeInstance at taken
  split at taken
  · rename_i pool j got
    cases taken
    refine .pooled (fun P all => ((all.get c.hash pages).2 i (by rw [got])).1) ?_
    -- Every pool has the trivial property.
    have all : e.pool.All fun _ => True := fun _ _ _ _ => trivial
    exact ((all.get c.hash pages).2 i (by rw [got])).2
  · rename_i pool got
    dsimp only at taken
    split at taken
    · rename_i guard j made
      cases taken
      exact .fresh rfl (by rw [made])
    · cases taken

section

variable {e mid : Executor} {p : CallParams} {given : Option Contract} {s : Surroundings}
  {c : CallContext} {guard : Guard} {later : Executor} {contract : Contract}

theorem counted_follows (e : Executor) : e.Follows e.counted := ⟨rfl, .refl _, fun _ all => all⟩

theorem Follows.checked {phase : LimitPhase} {now : Nat} {result : Except Fault Unit}
    (follows : e.Follows mid) (done : mid.guard.checkLimits phase c now = (guard, result)) :
    e.Follows (mid.withGuard guard) := by
  have kept := mid.guard.checkLimits_keeps phase c now
  rw [done] at kept
  exact follows.trans (withGuard_follows kept)

theorem Follows.validated {result : Except Fault ValidationReport} (follows : e.Follows mid)
    (done : mid.guard.validateModule contract = (guard, result)) :
    e.Follows (mid.withGuard guard) := by
  have kept := mid.guard.validateModule_keeps contract
  rw [done] at kept
  exact follows.trans (withGuard_follows kept)

theorem Follows.chosen {result : Except Fault Contract} (follows : e.Follows mid)
    (done : mid.choose p given = (later, result)) : e.Follows later := by
  have chosen := mid.choose_follows p given
  rw [done] at chosen
  exact follows.trans chosen

theorem Follows.taken {pages : Nat} {result : Except Fault (Instance × Bool)}
    (follows : e.Follows mid) (done : mid.takeInstance contract pages s = (later, result)) :
    e.Follows later := by
  have taken := mid.takeInstance_follows contract pages s
  rw [done] at taken
  exact follows.trans taken

theorem Admits.follows (admits : e.Admits p s c guard) : e.Follows (e.counted.withGuard guard) :=
  e.counted_follows.checked admits.within

theorem Chooses.follows (chooses : e.Chooses p given s c later contract) :
    e.Follows later.dropEvicted := by
  obtain ⟨guard, admits, choice⟩ := chooses
  exact (admits.follows.chosen choice).trans later.dropEvicted_follows

theorem Chooses.built (chooses : e.Chooses p given s c later contract) :
    CallContext.build p e.marshal e.vm.execution s.now = .ok c := by
  obtain ⟨guard, admits, _⟩ := chooses
  exact admits.built

end

-- What the first stage can have done: an execution that gets its instance has checked its
-- parameters, and the instance is under the ceiling that they ask for.
theorem acquire_parts (e : Executor) (p : CallParams) (given : Option Contract) (s : Surroundings) :
    e.Follows (e.acquire p given s).1 ∧ ∀ k, (e.acquire p given s).2 = .ok k →
      CallContext.build p e.marshal e.vm.execution s.now = .ok k.context ∧
        Supplied e k.context.memoryPages k.item := by
  have acquiring := e.acquire_acquiring p given s
  generalize e.acquire p given s = reached at acquiring
  cases acquiring with
  | closed _ => exact ⟨.refl e, fun k failed => by cases failed⟩
  | unbuilt _ _ => exact ⟨e.counted_follows, fun k failed => by cases failed⟩
  | exceeding _ refused =>
    exact ⟨e.counted_follows.checked refused, fun k failed => by cases failed⟩
  | unchosen admits failed =>
    exact ⟨admits.follows.chosen failed, fun k failed => by cases failed⟩
  | invalid chooses refused =>
    exact ⟨chooses.follows.validated refused, fun k failed => by cases failed⟩
  | unmade chooses valid failed =>
    exact ⟨(chooses.follows.validated valid).taken failed, fun k failed => by cases failed⟩
  | supplied chooses valid taken =>
    have upTo := chooses.follows.validated valid
    refine ⟨upTo.taken taken, ?_⟩
    intro k done
    cases done
    exact ⟨chooses.built, (takeInstance_supplied taken).earlier upTo⟩

end Executor

namespace CallContext

theorem build_parts {p : CallParams} {marshal : MarshalSettings} {execution : ExecutionSettings}
    {now : Nat} {c : CallContext} (built : build p marshal execution now = .ok c) :
    c.feeLimit = p.feeLimit ∧ c.memoryLimit = p.memoryLimit ∧
      Marshal.encode marshal p.args = .ok ⟨c.words, c.argTypes, c.plan⟩ := by
  unfold build at built
  obtain ⟨_, _, built⟩ := bind_ok_parts built
  obtain ⟨encoded, coded, built⟩ := bind_ok_parts built
  cases built
  exact ⟨rfl, rfl, coded⟩

theorem bind_context {c bound : CallContext} {i next : Instance} {result : Except Fault Unit}
    (binding : c.bind i = (bound, next, result)) :
    bound = { c with words := bound.words, plan := bound.plan } := by
  unfold bind at binding
  split at binding
  cases binding
  rfl

end CallContext

structure GuestCall where
  vm : Vm
  guard : Guard
  context : CallContext
  item : Instance
  now : Nat
  tick : Option Nat

namespace GuestCall

-- The budget of the parameters, and the shorter of what is left of the timeout and what the policy
-- grants.
def limits (q : GuestCall) : CallLimits :=
  ⟨q.context.feeLimit, min (q.context.remaining (q.now + 1))
    (q.guard.policy.maxExecutionTime * nanosPerMilli)⟩

def answer (q : GuestCall) : Guard × Instance × Except Fault CallOutcome :=
  q.vm.call q.guard q.item q.context.entry q.context.words q.limits q.tick

end GuestCall

namespace Executor

def guestCall? (e : Executor) (p : CallParams) (given : Option Contract) (s : Surroundings) :
    Option GuestCall :=
  match e.acquire p given s with
  | (_, .error _) => none
  | (e, .ok k) =>
    match k.context.bind (k.ready p.blockHeight) with
    | (_, _, .error _) => none
    | (c, i, .ok ()) => some ⟨e.vm, e.guard, c, i, s.now, s.tick⟩

def serve (e : Executor) (p : CallParams) (given : Option Contract) (s : Surroundings) :
    Executor × Except Fault ExecutionOutcome :=
  match given with
  | none => e.execute p s
  | some c => e.executeModule c p s

theorem serve_eq (e : Executor) (p : CallParams) (given : Option Contract) (s : Surroundings) :
    e.serve p given s = ((e.run p given s).1.finish (e.run p given s).2, (e.run p given s).2) := by
  cases given <;> rfl

theorem guestCall_parts {e : Executor} {p : CallParams} {given : Option Contract}
    {s : Surroundings} {q : GuestCall} (called : e.guestCall? p given s = some q) :
    ∃ after k, e.acquire p given s = (after, .ok k) ∧
      k.context.bind (k.ready p.blockHeight) = (q.context, q.item, .ok ()) ∧
      q = ⟨after.vm, after.guard, q.context, q.item, s.now, s.tick⟩ := by
  unfold guestCall? at called
  split at called
  · cases called
  · rename_i after k admitted
    split at called
    · cases called
    · rename_i c i bound
      cases called
      exact ⟨after, k, admitted, bound, rfl⟩

theorem guestCall_limits {e : Executor} {p : CallParams} {given : Option Contract}
    {s : Surroundings} {q : GuestCall} (called : e.guestCall? p given s = some q) :
    q.context.feeLimit = p.feeLimit ∧ q.context.memoryLimit = p.memoryLimit := by
  obtain ⟨after, k, admitted, bound, _⟩ := guestCall_parts called
  obtain ⟨built, _⟩ := (e.acquire_parts p given s).2 k (by rw [admitted])
  obtain ⟨fee, memory, _⟩ := CallContext.build_parts built
  rw [CallContext.bind_context bound]
  exact ⟨fee, memory⟩

-- A call that is reported has returned, and its usage has passed the check after it.
structure Passed (q : GuestCall) (c : CallContext) (r : CallReport) (outcome : CallOutcome) :
    Prop where
  returned : q.answer.2.2 = .ok outcome
  usage : c = q.context.recordUsage outcome.resourceUsed q.answer.2.1.memorySize
  checked : (q.answer.1.checkLimits .postExecution c (q.now + outcome.duration)).2 = .ok ()
  resourceUsed : r.resourceUsed = outcome.resourceUsed

theorem callInstance_parts {e : Executor} {c bound : CallContext} {i ready : Instance}
    {s : Surroundings} (binding : c.bind ready = (bound, i, .ok ())) :
    ∃ guard used report,
      e.callInstance c ready s = (e.withGuard guard, used,
        (GuestCall.answer ⟨e.vm, e.guard, bound, i, s.now, s.tick⟩).2.1, report) ∧
      e.guard.Keeps guard ∧ ∀ r, report = .ok r → ∃ outcome,
        Passed ⟨e.vm, e.guard, bound, i, s.now, s.tick⟩ used r outcome := by
  have kept : e.guard.Keeps (GuestCall.answer ⟨e.vm, e.guard, bound, i, s.now, s.tick⟩).1 :=
    Vm.call_keeps _ _ _ _ _ _ _
  unfold callInstance
  rw [binding]
  dsimp only
  split
  · rename_i guard left f failed
    have answered : GuestCall.answer ⟨e.vm, e.guard, bound, i, s.now, s.tick⟩ =
        (guard, left, .error f) := failed
    rw [answered] at kept ⊢
    exact ⟨guard, bound, .error f, rfl, kept, fun r done => by cases done⟩
  · rename_i guard left outcome returned
    have answered : GuestCall.answer ⟨e.vm, e.guard, bound, i, s.now, s.tick⟩ =
        (guard, left, .ok outcome) := returned
    rw [answered] at kept ⊢
    have checked := guard.checkLimits_keeps .postExecution
      (bound.recordUsage outcome.resourceUsed left.memorySize) (s.now + outcome.duration)
    split
    · rename_i later f refused
      rw [refused] at checked
      exact ⟨later, _, .error f, rfl, kept.trans checked, fun r done => by cases done⟩
    · rename_i later within
      rw [within] at checked
      refine ⟨later, _, _, rfl, kept.trans checked, ?_⟩
      intro r done
      refine ⟨outcome, by rw [answered], by rw [answered], by rw [answered, within], ?_⟩
      -- However the words are decoded, the usage in the report is that of the call.
      generalize (if (bound.recordUsage outcome.resourceUsed left.memorySize).returnTypes.isEmpty
        then Marshal.decode e.marshal outcome.words outcome.types
        else Marshal.decodeFrom e.marshal left.read outcome.words
          (bound.recordUsage outcome.resourceUsed left.memorySize).returnTypes) = decoded at done
      cases decoded with
      | error f => cases done
      | ok values =>
        cases done
        rfl

-- What is reported is what was used, and the only instance that becomes idle is the one that ran.
theorem conclude_parts (e : Executor) (c : CallContext) (contract : Contract)
    (v : ValidationReport) (i : Instance) (reused : Bool) (r : CallReport) (s : Surroundings) :
    (e.conclude c contract v i reused r s).1.vm = e.vm ∧
      e.guard.Keeps (e.conclude c contract v i reused r s).1.guard ∧
      (∀ P : Instance → Prop, e.pool.All P → P i.resetOutput →
        (e.conclude c contract v i reused r s).1.pool.All P) ∧
      ∀ o, (e.conclude c contract v i reused r s).2 = .ok o →
        o.resourceUsed = r.resourceUsed ∧ o.memoryUsed = c.memoryUsed := by
  have kept := e.guard.detectThreats_keeps contract.hash (indicators c v r i.memorySize)
  unfold conclude
  generalize e.guard.detectThreats contract.hash (indicators c v r i.memorySize) = scanned at kept
  obtain ⟨guard, scan⟩ := scanned
  dsimp only
  split
  · exact ⟨rfl, kept, fun P all _ => all, fun o failed => by cases failed⟩
  · refine ⟨rfl, kept, fun P all held => Pool.All.put all held _, ?_⟩
    intro o done
    cases done
    exact ⟨rfl, rfl⟩

-- Where an execution can end. Behind the answer of the guest there is nothing but scoring.
inductive Staged (e : Executor) (p : CallParams) (given : Option Contract) (s : Surroundings) :
    Executor × Except Fault ExecutionOutcome → Prop
  | unsupplied {mid : Executor} {f : Fault} : e.acquire p given s = (mid, .error f) →
      Staged e p given s (mid, .error f)
  | lost {mid : Executor} {k : Checkout} {guard : Guard} {f : Fault} :
      e.acquire p given s = (mid, .ok k) → mid.guard.Keeps guard →
      Staged e p given s (mid.withGuard guard, .error f)
  | scored {mid : Executor} {k : Checkout} {q : GuestCall} {guard : Guard} {used : CallContext}
      {r : CallReport} {outcome : CallOutcome} : e.acquire p given s = (mid, .ok k) →
      mid.guard.Keeps guard → e.guestCall? p given s = some q → Passed q used r outcome →
      Staged e p given s ((mid.withGuard guard).conclude used k.contract k.report q.answer.2.1
        k.reused r s)

theorem run_staged (e : Executor) (p : CallParams) (given : Option Contract) (s : Surroundings) :
    Staged e p given s (e.run p given s) := by
  rw [run_eq]
  cases stage : e.acquire p given s with
  | mk mid result =>
  cases result with
  | error f => exact .unsupplied stage
  | ok k =>
    dsimp only
    unfold carryOut
    cases binding : k.context.bind (k.ready p.blockHeight) with
    | mk bound rest =>
    obtain ⟨i, placed⟩ := rest
    cases placed with
    | error f =>
      have missed : mid.callInstance k.context (k.ready p.blockHeight) s =
          (mid, bound, i, .error f) := by
        unfold callInstance
        rw [binding]
      rw [missed]
      exact .lost stage (.refl mid.guard)
    | ok _ =>
      have called : e.guestCall? p given s =
          some ⟨mid.vm, mid.guard, bound, i, s.now, s.tick⟩ := by
        simp only [guestCall?, stage, binding]
      obtain ⟨guard, used, report, answered, kept, passed⟩ :=
        callInstance_parts (e := mid) (s := s) binding
      rw [answered]
      cases report with
      | error f => exact .lost stage kept
      | ok r =>
        obtain ⟨outcome, passed⟩ := passed r rfl
        exact .scored stage kept called passed

-- A whole execution: what it keeps, which instance can become idle, and what a success has used.
structure Ran (e : Executor) (p : CallParams) (given : Option Contract) (s : Surroundings) :
    Prop where
  engine : (e.run p given s).1.vm.engine = e.vm.engine
  guard : e.guard.Keeps (e.run p given s).1.guard
  pool : ∀ P : Instance → Prop, e.pool.All P →
    (∀ q, e.guestCall? p given s = some q → P q.answer.2.1.resetOutput) →
    (e.run p given s).1.pool.All P
  outcome : ∀ o, (e.run p given s).2 = .ok o → ∃ q c r outcome,
    e.guestCall? p given s = some q ∧ Passed q c r outcome ∧
      o.resourceUsed = outcome.resourceUsed ∧ o.memoryUsed = q.answer.2.1.memorySize

theorem Follows.ran {e after : Executor} {p : CallParams} {given : Option Contract}
    {s : Surroundings} {f : Fault} (follows : e.Follows after)
    (failed : e.run p given s = (after, .error f)) : e.Ran p given s := by
  refine ⟨?_, ?_, ?_, ?_⟩
  all_goals rw [failed]
  · exact follows.engine
  · exact follows.guard
  · exact fun P all _ => follows.pool P all
  · exact fun o done => by cases done

theorem run_parts (e : Executor) (p : CallParams) (given : Option Contract) (s : Surroundings) :
    e.Ran p given s := by
  have acquiring := (e.acquire_parts p given s).1
  have staged := e.run_staged p given s
  generalize ended : e.run p given s = last at staged
  cases staged with
  | unsupplied stage =>
    rw [stage] at acquiring
    exact acquiring.ran ended
  | lost stage kept =>
    rw [stage] at acquiring
    exact (acquiring.trans (withGuard_follows kept)).ran ended
  | @scored mid k q guard used r outcome stage kept called passed =>
    rw [stage] at acquiring
    have upTo := acquiring.trans (withGuard_follows kept)
    obtain ⟨vm, guarded, pooled, reported⟩ := (mid.withGuard guard).conclude_parts used
      k.contract k.report q.answer.2.1 k.reused r s
    refine ⟨?_, ?_, ?_, ?_⟩
    all_goals rw [ended]
    · rw [vm]
      exact upTo.engine
    · exact upTo.guard.trans guarded
    · intro P all left
      exact pooled P (upTo.pool P all) (left _ called)
    · intro o done
      obtain ⟨resource, memory⟩ := reported o done
      refine ⟨q, used, r, outcome, called, passed, resource.trans passed.resourceUsed, ?_⟩
      rw [memory, passed.usage]
      rfl

end Executor

end Tollgate
