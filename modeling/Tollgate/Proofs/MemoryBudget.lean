import Tollgate.Proofs.History

namespace Tollgate

def CallParams.pages (p : CallParams) : Nat := (p.memoryLimit + (pageSize - 1)) / pageSize

-- The memories that a guest call has before it, in its course and after it.
inductive GuestCall.Passes (q : GuestCall) : List Guest.Memory → Prop
  | before {live : Live} : q.item.live = some live → Passes q live.memories
  | during {live : Live} {callable : Guest.Callable} {args : List Guest.Native}
      {calls : List HostCall} {progress : Progress} :
      q.vm.prepare q.item q.context.entry q.context.words = .ok (live, callable, args) →
      Run.Course (q.vm.callProgram live q.limits q.tick).backend q.item.memoryIndex?
        (Vm.callRun q.guard live callable q.limits.fee) callable args calls progress →
      Passes q progress.run.machine.memories
  | after {live : Live} : q.answer.2.1.live = some live → Passes q live.memories

theorem GuestCall.Passes.limits {q : GuestCall} {memories : List Guest.Memory}
    (passes : q.Passes memories) : memories.map Guest.Memory.limit = q.item.limits := by
  cases passes with
  | before opened => rw [Instance.limits, opened]; rfl
  | during entered course =>
    rw [course.limits, Instance.limits, Vm.prepare_live entered]
    rfl
  | after opened =>
    have same : q.answer.2.1.limits = q.item.limits := (Vm.call_limits _ _ _ _ _ _ _).1
    rw [← same, Instance.limits, opened]
    rfl

theorem Guest.Memory.size_le_limit (m : Memory) : m.size ≤ m.limit * pageSize :=
  Nat.mul_le_mul_right pageSize m.fits

-- A check that finds nothing wrong has asked every enabled checker of its phase.
theorem Guard.checkLimits_passed {g : Guard} {phase : LimitPhase} {c : CallContext} {now : Nat}
    {k : LimitChecker} (passed : (g.checkLimits phase c now).2 = .ok ())
    (listed : k ∈ g.checkers) (enabled : k.enabled = true) (timely : k.phase = phase) :
    k.check c g.policy now = .ok () := by
  unfold checkLimits at passed
  dsimp only at passed
  split at passed
  · rename_i clear
    have asked : k ∈ g.checkers.filter fun k => k.enabled && k.phase == phase := by
      simp [List.mem_filter, listed, enabled, timely]
    have silent := List.findSome?_eq_none_iff.mp clear k asked
    cases result : k.check c g.policy now with
    | ok _ => rfl
    | error f => simp [result] at silent
  · cases passed

structure BudgetKept (engine : EngineSettings) (e : Executor) (p : CallParams)
    (given : Option Contract) (s : Surroundings) : Prop where
  ceiling : ∀ q, e.guestCall? p given s = some q →
    q.item.Made engine p.pages ∧ q.item.memoryLimitPages = p.pages
  bounded : ∀ q memories, e.guestCall? p given s = some q → q.Passes memories →
    ∀ m ∈ memories, m.size ≤ min (pageSize * p.pages) engine.maxMemoryBytes
  used : ∀ o, (e.serve p given s).2 = .ok o →
    o.memoryUsed ≤ min p.memoryLimit e.guard.policy.maxMemoryUsage

namespace Executor

variable {engine : EngineSettings} {e : Executor} {p : CallParams} {given : Option Contract}
  {s : Surroundings} {q : GuestCall}

theorem Tended.made (tended : e.Tended engine) (called : e.guestCall? p given s = some q) :
    q.item.Made engine p.pages := by
  have pages : q.context.memoryPages = p.pages := by
    rw [CallContext.memoryPages, (guestCall_limits called).2]
    rfl
  exact pages ▸ tended.guestCall called

theorem Tended.size_le (tended : e.Tended engine) (called : e.guestCall? p given s = some q)
    {memories : List Guest.Memory} (passes : q.Passes memories) {m : Guest.Memory}
    (member : m ∈ memories) : m.size ≤ min (pageSize * p.pages) engine.maxMemoryBytes := by
  have listed : m.limit ∈ q.item.limits := passes.limits ▸ List.mem_map_of_mem member
  have limit : m.limit ≤ min p.pages engine.maxMemoryPages :=
    (tended.made called).bounded.2 m.limit listed
  calc m.size ≤ m.limit * pageSize := m.size_le_limit
    _ ≤ min p.pages engine.maxMemoryPages * pageSize := Nat.mul_le_mul_right pageSize limit
    _ = min (pageSize * p.pages) engine.maxMemoryBytes := by
      rw [← Nat.mul_min_mul_right, Nat.mul_comm pageSize, EngineSettings.maxMemoryBytes]

theorem Tended.memoryUsed_le (tended : e.Tended engine) {o : ExecutionOutcome}
    (done : (e.serve p given s).2 = .ok o) :
    o.memoryUsed ≤ min p.memoryLimit e.guard.policy.maxMemoryUsage := by
  rw [serve_eq] at done
  obtain ⟨q, c, r, outcome, called, passed, _, memory⟩ := (e.run_parts p given s).outcome o done
  obtain ⟨after, k, acquired, _, call⟩ := guestCall_parts called
  have before : e.guard.Keeps q.guard := by
    have follows := (e.acquire_parts p given s).1
    rw [acquired] at follows
    rw [call]
    exact follows.guard
  have kept : e.guard.Keeps q.answer.1 := before.trans (Vm.call_keeps _ _ _ _ _ _ _)
  have listed : LimitChecker.memoryUsage ∈ q.answer.1.checkers := kept.checkers ▸ tended.checker
  have checked := Guard.checkLimits_passed passed.checked listed rfl rfl
  rw [passed.usage, kept.policy] at checked
  have limit : q.context.memoryLimit = p.memoryLimit := (guestCall_limits called).2
  simp only [LimitChecker.memoryUsage, CallContext.recordUsage, limit] at checked
  split at checked
  · cases checked
  · rename_i within
    rw [memory, Nat.min_comm]
    exact Nat.le_of_not_lt within

end Executor

theorem memoryBudget_kept {settings : Settings} {host : Bool} {w : World}
    (started : World.start settings host = .ok w) (history : List Operation) (p : CallParams)
    (given : Option Contract) (s : Surroundings) :
    BudgetKept settings.engine (w.after history).executor p given s := by
  have tended := (World.after_sound (World.start_sound started) history).executor
  refine ⟨?_, ?_, ?_⟩
  · intro q called
    have made := tended.made called
    exact ⟨made, made.bounded.1⟩
  · intro q memories called passes m member
    exact tended.size_le called passes member
  · intro o done
    exact tended.memoryUsed_le done

def Contract.grower : Contract where
  hash := "grower"
  size := 0
  module := {
    functions := [⟨⟨[], []⟩, [],
      .op (.const (.i32 1)) <| .op (.memoryGrow 0) <| .op .drop .done⟩]
    memories := [⟨1, none⟩]
    exports := [("main", .function 0), ("memory", .memory 0)] }

def CallParams.growing (limit : Nat) : CallParams :=
  { entry := "main", feeLimit := 100, memoryLimit := limit }

def Settings.calm : Settings := { security := { enableThreatDetection := false } }

def Surroundings.quiet : Surroundings := ⟨0, "next", 0, none⟩

-- The instance that has grown to two pages is used again where two pages are asked for, and its
-- size is then found out of bounds; where one page is asked for, another instance is created.
theorem memoryBudget_grower :
    ∃ w e, World.start .calm false = .ok w ∧
      e = (w.after [.execute (.growing 131072) (some .grower) .quiet]).executor ∧
      (e.guestCall? (.growing 100000) (some .grower) .quiet).map (fun q =>
        (q.item.memoryLimitPages, q.item.calls, q.item.memorySize)) = some (2, 1, 131072) ∧
      (e.serve (.growing 100000) (some .grower) .quiet).2.isOk = false ∧
      (e.guestCall? (.growing 65536) (some .grower) .quiet).map (fun q =>
        (q.item.memoryLimitPages, q.item.calls, q.item.memorySize)) = some (1, 0, 65536) ∧
      (e.serve (.growing 65536) (some .grower) .quiet).2.isOk = true ∧
      ∀ limit, BudgetKept Settings.calm.engine e (.growing limit) (some .grower) .quiet :=
  ⟨_, _, rfl, rfl, by decide +kernel, by decide +kernel, by decide +kernel, by decide +kernel,
    fun limit => @memoryBudget_kept .calm false _ rfl _ (.growing limit) (some .grower) .quiet⟩

end Tollgate
