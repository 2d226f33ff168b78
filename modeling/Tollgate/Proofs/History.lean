import Tollgate.Proofs.MemoryLimits

namespace Tollgate

-- What a holder of an instance can do to it without calling it.
inductive Edit
  | allocate (bytes : List UInt8)
  | resetScratch
  | setMetadata (key value : String)
  | setState (env : CallEnv) (output : Output)
  | close

namespace Instance

def edit (i : Instance) : Edit → Instance
  | .allocate bytes =>
    match i.allocate bytes with
    | .ok (_, next) => next
    | .error _ => i
  | .resetScratch => i.resetScratch
  | .setMetadata key value => i.setMetadata key value
  | .setState env output =>
    { i with live := i.live.map fun live => { live with env := env, output := output } }
  | .close => i.close

-- The instances that come from one creation under a ceiling of pages.
inductive Made (engine : EngineSettings) (pages : Nat) : Instance → Prop
  | fresh {vm : Vm} {guard : Guard} {c : Contract} {id : String} {tableLimit : Option Nat}
      {others : Nat} {tick : Option Nat} {i : Instance} : vm.engine = engine →
      (vm.instantiate guard c id pages tableLimit others tick).2 = .ok i → Made engine pages i
  | called {i : Instance} (vm : Vm) (guard : Guard) (function : String) (words : List UInt64)
      (limits : CallLimits) (tick : Option Nat) : Made engine pages i →
      Made engine pages (vm.call guard i function words limits tick).2.1
  | edited {i : Instance} (change : Edit) : Made engine pages i → Made engine pages (i.edit change)

def Known (engine : EngineSettings) (i : Instance) : Prop := ∃ pages, Made engine pages i

variable {engine : EngineSettings} {pages : Nat} {i : Instance}

theorem Made.resetScratch (made : Made engine pages i) : Made engine pages i.resetScratch :=
  made.edited .resetScratch

theorem Made.setEnv (made : Made engine pages i) (env : CallEnv) :
    Made engine pages (i.setEnv env) := by
  cases opened : i.live with
  | none =>
    have same : i.setEnv env = i.edit (.setState env {}) := by simp [Instance.setEnv, edit, opened]
    exact same ▸ made.edited _
  | some live =>
    have same : i.setEnv env = i.edit (.setState env live.output) := by
      simp [Instance.setEnv, edit, opened]
    exact same ▸ made.edited _

theorem Made.resetOutput (made : Made engine pages i) : Made engine pages i.resetOutput := by
  cases opened : i.live with
  | none =>
    have same : i.resetOutput = i.edit (.setState {} {}) := by
      simp [Instance.resetOutput, edit, opened]
    exact same ▸ made.edited _
  | some live =>
    have same : i.resetOutput = i.edit (.setState live.env {}) := by
      simp [Instance.resetOutput, edit, opened]
    exact same ▸ made.edited _

theorem Made.allocate {bytes : List UInt8} {address : Nat} {next : Instance}
    (made : Made engine pages i) (allocated : i.allocate bytes = .ok (address, next)) :
    Made engine pages next := by
  have same : next = i.edit (.allocate bytes) := by simp only [edit, allocated]
  exact same ▸ made.edited _

theorem allocate_limits {bytes : List UInt8} {address : Nat} {next : Instance}
    (allocated : i.allocate bytes = .ok (address, next)) :
    next.limits = i.limits ∧ next.memoryLimitPages = i.memoryLimitPages := by
  obtain ⟨_, _, m, written, found, stored, rfl⟩ := allocate_ok allocated
  refine ⟨limits_setMemory found (Guest.Memory.limit_write stored), ?_⟩
  dsimp only
  unfold setMemory
  split <;> rfl

-- An edit can close an instance, but it raises no limit and leaves the ceiling.
theorem edit_limits (i : Instance) (change : Edit) :
    (∀ n ∈ (i.edit change).limits, n ∈ i.limits) ∧
      (i.edit change).memoryLimitPages = i.memoryLimitPages := by
  cases change with
  | allocate bytes =>
    unfold edit
    dsimp only
    split
    · rename_i allocated
      obtain ⟨same, ceiling⟩ := allocate_limits allocated
      exact ⟨fun n member => same ▸ member, ceiling⟩
    · exact ⟨fun n member => member, rfl⟩
  | resetScratch => exact ⟨fun n member => member, rfl⟩
  | setMetadata key value => exact ⟨fun n member => member, rfl⟩
  | setState env output =>
    refine ⟨?_, rfl⟩
    unfold edit limits
    dsimp only
    cases i.live <;> exact fun n member => member
  | close => exact ⟨fun n member => (List.not_mem_nil member).elim, rfl⟩

theorem Made.bounded (made : Made engine pages i) :
    i.memoryLimitPages = pages ∧ ∀ n ∈ i.limits, n ≤ min pages engine.maxMemoryPages := by
  induction made with
  | fresh room created =>
    obtain ⟨live, rfl, bounded⟩ := Vm.instantiate_parts created
    exact ⟨rfl, room ▸ bounded⟩
  | called vm guard function words limits tick _ ih =>
    obtain ⟨same, ceiling⟩ := vm.call_limits guard _ function words limits tick
    exact ⟨ceiling.trans ih.1, same ▸ ih.2⟩
  | edited change _ ih =>
    obtain ⟨lower, ceiling⟩ := edit_limits _ change
    exact ⟨ceiling.trans ih.1, fun n member => ih.2 n (lower n member)⟩

theorem Made.of_known (known : Known engine i) (ceiling : i.memoryLimitPages = pages) :
    Made engine pages i := by
  obtain ⟨other, made⟩ := known
  have same : other = pages := made.bounded.1.symm.trans ceiling
  exact same ▸ made

end Instance

theorem CallContext.bindFrom_made {engine : EngineSettings} {pages : Nat} {i : Instance}
    (made : i.Made engine pages) (words : List UInt64) (done plan : Plan) :
    (bindFrom i words done plan).1.Made engine pages := by
  induction plan generalizing i words done with
  | nil => exact made
  | cons segment rest ih =>
    unfold bindFrom
    split
    · exact ih made _ _
    · split
      · exact made
      · rename_i allocated
        exact ih (made.allocate allocated) _ _

theorem CallContext.bind_made {engine : EngineSettings} {pages : Nat} {c bound : CallContext}
    {i next : Instance} {result : Except Fault Unit} (made : i.Made engine pages)
    (binding : c.bind i = (bound, next, result)) : next.Made engine pages := by
  have kept := bindFrom_made made c.words [] c.plan
  unfold bind at binding
  generalize bindFrom i c.words [] c.plan = bindings at kept binding
  obtain ⟨left, words, plan, outcome⟩ := bindings
  cases binding
  exact kept

-- An executor whose instances are all known, in a runtime that checks memory after every call.
structure Executor.Tended (engine : EngineSettings) (e : Executor) : Prop where
  room : e.vm.engine = engine
  checker : LimitChecker.memoryUsage ∈ e.guard.checkers
  pool : e.pool.All (Instance.Known engine)

namespace Executor

variable {engine : EngineSettings} {e : Executor} {p : CallParams} {given : Option Contract}
  {s : Surroundings} {q : GuestCall}

theorem Tended.withVm {vm : Vm} (tended : e.Tended engine) (same : vm.engine = e.vm.engine) :
    { e with vm := vm }.Tended engine := ⟨same.trans tended.room, tended.checker, tended.pool⟩

theorem Tended.withPool {pool : Pool} (tended : e.Tended engine)
    (known : pool.All (Instance.Known engine)) : { e with pool := pool }.Tended engine :=
  ⟨tended.room, tended.checker, known⟩

theorem Tended.guestCall (tended : e.Tended engine) (called : e.guestCall? p given s = some q) :
    q.item.Made engine q.context.memoryPages := by
  obtain ⟨after, k, acquired, bound, _⟩ := guestCall_parts called
  obtain ⟨_, supplied⟩ := (e.acquire_parts p given s).2 k (by rw [acquired])
  have taken : k.item.Made engine k.context.memoryPages := by
    cases supplied with
    | pooled held ceiling => exact .of_known (held _ tended.pool) ceiling
    | fresh room created => exact .fresh (room.trans tended.room) created
  have ready : (k.ready p.blockHeight).Made engine k.context.memoryPages :=
    taken.resetScratch.resetOutput.setEnv _
  have same : q.context.memoryPages = k.context.memoryPages := by
    rw [CallContext.bind_context bound]
    rfl
  rw [same]
  exact CallContext.bind_made ready bound

theorem run_tended (tended : e.Tended engine) (p : CallParams) (given : Option Contract)
    (s : Surroundings) : (e.run p given s).1.Tended engine := by
  have ran := e.run_parts p given s
  refine ⟨ran.engine.trans tended.room, ran.guard.checkers ▸ tended.checker, ?_⟩
  refine ran.pool _ tended.pool ?_
  intro q called
  exact ⟨_, ((tended.guestCall called).called _ _ _ _ _ _).resetOutput⟩

theorem serve_tended (tended : e.Tended engine) (p : CallParams) (given : Option Contract)
    (s : Surroundings) : (e.serve p given s).1.Tended engine := by
  have ran := run_tended tended p given s
  rw [serve_eq]
  unfold finish
  split <;> exact ⟨ran.room, ran.checker, ran.pool⟩

theorem evictModule_tended (tended : e.Tended engine) (hash : String) :
    (e.evictModule hash).1.Tended engine :=
  ⟨tended.room, tended.checker, tended.pool.evict hash⟩

theorem close_tended (tended : e.Tended engine) : e.close.Tended engine := by
  unfold close
  split
  · exact tended
  · exact ⟨tended.room, tended.checker, tended.pool.close⟩

theorem reopen_tended (tended : e.Tended engine) : e.reopen.Tended engine :=
  ⟨tended.room, tended.checker, tended.pool.reopen⟩

end Executor

structure World where
  executor : Executor
  held : List Instance

-- What users can ask of the executor, the machine room, the pool, the guard and an instance they
-- hold, which they name by its position.
inductive Operation
  | execute (p : CallParams) (given : Option Contract) (s : Surroundings)
  | evictModule (hash : String)
  | closeExecutor
  | reopenExecutor
  | compile (bytes : List UInt8)
  | compileSource (text : String)
  | evictContract (hash : String)
  | takeEvicted
  | closeVm
  | instantiate (c : Contract) (id : String) (pages : Nat) (tableLimit : Option Nat)
      (others : Nat) (tick : Option Nat)
  | call (holding : Nat) (function : String) (words : List UInt64) (limits : CallLimits)
      (tick : Option Nat)
  | edit (holding : Nat) (change : Edit)
  | takeIdle (hash : String) (pages : Nat)
  | giveBack (holding : Nat) (now : Nat)
  | evictIdle (hash : String)
  | cleanup (now : Nat)
  | closePool
  | reopenPool
  | setPolicy (policy : Policy)
  | addRule (rule : Rule)
  | addChecker (checker : LimitChecker)
  | addPattern (pattern : ThreatPattern)
  | setRule (name : String) (enabled : Bool)

namespace World

def withExecutor (w : World) (e : Executor) : World := { w with executor := e }

def withGuard (w : World) (g : Guard) : World := w.withExecutor (w.executor.withGuard g)

def withVm (w : World) (vm : Vm) : World := w.withExecutor { w.executor with vm := vm }

def withPool (w : World) (p : Pool) : World := w.withExecutor { w.executor with pool := p }

-- Nothing happens to an instance that is not held.
def perform (w : World) (op : Operation) : World :=
  let e := w.executor
  match op with
  | .execute p given s => w.withExecutor (e.serve p given s).1
  | .evictModule hash => w.withExecutor (e.evictModule hash).1
  | .closeExecutor => w.withExecutor e.close
  | .reopenExecutor => w.withExecutor e.reopen
  | .compile bytes => w.withVm (e.vm.compile bytes).1
  | .compileSource text => w.withVm (e.vm.compileSource text).1
  | .evictContract hash => w.withVm (e.vm.evict hash).1
  | .takeEvicted => w.withVm e.vm.takeEvicted.1
  | .closeVm => w.withVm e.vm.close
  | .instantiate c id pages tableLimit others tick =>
    match e.vm.instantiate e.guard c id pages tableLimit others tick with
    | (guard, .ok i) => { w.withGuard guard with held := w.held ++ [i] }
    | (guard, .error _) => w.withGuard guard
  | .call holding function words limits tick =>
    match w.held[holding]? with
    | none => w
    | some i =>
      match e.vm.call e.guard i function words limits tick with
      | (guard, next, _) => { w.withGuard guard with held := w.held.set holding next }
  | .edit holding change =>
    match w.held[holding]? with
    | none => w
    | some i => { w with held := w.held.set holding (i.edit change) }
  | .takeIdle hash pages =>
    match e.pool.get hash pages with
    | (pool, some i) => { w.withPool pool with held := w.held ++ [i] }
    | (pool, none) => w.withPool pool
  | .giveBack holding now =>
    match w.held[holding]? with
    | none => w
    | some i => { w.withPool (e.pool.put i now).1 with held := w.held.eraseIdx holding }
  | .evictIdle hash => w.withPool (e.pool.evict hash).1
  | .cleanup now => w.withPool (e.pool.cleanup now).1
  | .closePool => w.withPool e.pool.close
  | .reopenPool => w.withPool e.pool.reopen
  | .setPolicy policy => w.withGuard { e.guard with policy := policy }
  | .addRule rule => w.withGuard (e.guard.addRule rule)
  | .addChecker checker => w.withGuard (e.guard.addChecker checker)
  | .addPattern pattern => w.withGuard (e.guard.addPattern pattern)
  | .setRule name enabled => w.withGuard (e.guard.setRule name enabled).1

def after (w : World) (history : List Operation) : World := history.foldl perform w

-- A runtime as it is set up, with or without host functions, before anything has happened.
def start (s : Settings) (host : Bool) : Except Fault World :=
  match if host then Vm.withHost s else Vm.ofSettings s with
  | .error f => .error f
  | .ok vm => .ok ⟨.ofSettings s vm, []⟩

structure Sound (engine : EngineSettings) (w : World) : Prop where
  executor : w.executor.Tended engine
  held : ∀ i ∈ w.held, i.Known engine

variable {engine : EngineSettings} {w : World}

theorem Sound.withExecutor (sound : w.Sound engine) {e : Executor} (tended : e.Tended engine) :
    (w.withExecutor e).Sound engine := ⟨tended, sound.held⟩

-- Checkers can be added to the guard; none is ever taken away.
theorem Sound.withGuard (sound : w.Sound engine) {g : Guard}
    (kept : LimitChecker.memoryUsage ∈ g.checkers) : (w.withGuard g).Sound engine :=
  sound.withExecutor ⟨sound.executor.room, kept, sound.executor.pool⟩

theorem Sound.withVm (sound : w.Sound engine) {vm : Vm}
    (same : vm.engine = w.executor.vm.engine) : (w.withVm vm).Sound engine :=
  sound.withExecutor (sound.executor.withVm same)

theorem Sound.withPool (sound : w.Sound engine) {p : Pool} (known : p.All (Instance.Known engine)) :
    (w.withPool p).Sound engine := sound.withExecutor (sound.executor.withPool known)

theorem Sound.withHeld (sound : w.Sound engine) {held : List Instance}
    (known : ∀ i ∈ held, i.Known engine) : { w with held := held }.Sound engine :=
  ⟨sound.executor, known⟩

theorem Sound.append (sound : w.Sound engine) {i : Instance} (known : i.Known engine) :
    ∀ j ∈ w.held ++ [i], j.Known engine := by
  intro j member
  rcases List.mem_append.mp member with old | new
  · exact sound.held j old
  · cases List.mem_singleton.mp new
    exact known

theorem Sound.replace (sound : w.Sound engine) (holding : Nat) {i : Instance}
    (known : i.Known engine) : ∀ j ∈ w.held.set holding i, j.Known engine := by
  intro j member
  rcases List.mem_or_eq_of_mem_set member with old | rfl
  · exact sound.held j old
  · exact known

theorem perform_sound (sound : w.Sound engine) (op : Operation) : (w.perform op).Sound engine := by
  have tended := sound.executor
  cases op with
  | execute p given s => exact sound.withExecutor (Executor.serve_tended tended p given s)
  | evictModule hash => exact sound.withExecutor (Executor.evictModule_tended tended hash)
  | closeExecutor => exact sound.withExecutor (Executor.close_tended tended)
  | reopenExecutor => exact sound.withExecutor (Executor.reopen_tended tended)
  | compile bytes => exact sound.withVm (Vm.compile_engine _ bytes)
  | compileSource text => exact sound.withVm (Vm.compileWith_engine _ _ _)
  | evictContract hash => exact sound.withVm rfl
  | takeEvicted => exact sound.withVm rfl
  | closeVm => exact sound.withVm (Vm.close_engine _)
  | instantiate c id pages tableLimit others tick =>
    have kept := w.executor.vm.instantiate_keeps w.executor.guard c id pages tableLimit others tick
    unfold perform
    dsimp only
    split
    · rename_i guard i created
      rw [created] at kept
      have known : i.Known engine := ⟨pages, .fresh tended.room (by rw [created])⟩
      exact (sound.withGuard (kept.checkers ▸ tended.checker)).withHeld (sound.append known)
    · rename_i guard f failed
      rw [failed] at kept
      exact sound.withGuard (kept.checkers ▸ tended.checker)
  | call holding function words limits tick =>
    unfold perform
    dsimp only
    split
    -- A place where no instance is held names nothing to call.
    · exact sound
    · rename_i i found
      have kept := w.executor.vm.call_keeps w.executor.guard i function words limits tick
      obtain ⟨pages, made⟩ := sound.held i (List.mem_of_getElem? found)
      have left := made.called w.executor.vm w.executor.guard function words limits tick
      generalize w.executor.vm.call w.executor.guard i function words limits tick = called
        at kept left
      obtain ⟨guard, next, result⟩ := called
      exact (sound.withGuard (kept.checkers ▸ tended.checker)).withHeld
        (sound.replace holding ⟨pages, left⟩)
  | edit holding change =>
    unfold perform
    dsimp only
    split
    · exact sound
    · rename_i i found
      obtain ⟨pages, made⟩ := sound.held i (List.mem_of_getElem? found)
      exact sound.withHeld (sound.replace holding ⟨pages, made.edited change⟩)
  | takeIdle hash pages =>
    have taking := tended.pool.get hash pages
    unfold perform
    dsimp only
    split
    · rename_i pool i got
      rw [got] at taking
      exact (sound.withPool taking.1).withHeld (sound.append (taking.2 i rfl).1)
    · rename_i pool got
      rw [got] at taking
      exact sound.withPool taking.1
  | giveBack holding now =>
    unfold perform
    dsimp only
    split
    · exact sound
    · rename_i i found
      have known := sound.held i (List.mem_of_getElem? found)
      refine (sound.withPool (tended.pool.put known now)).withHeld ?_
      exact fun j member => sound.held j (List.mem_of_mem_eraseIdx member)
  | evictIdle hash => exact sound.withPool (tended.pool.evict hash)
  | cleanup now => exact sound.withPool (tended.pool.cleanup now)
  | closePool => exact sound.withPool tended.pool.close
  | reopenPool => exact sound.withPool tended.pool.reopen
  | setPolicy policy => exact sound.withGuard tended.checker
  | addRule rule => exact sound.withGuard tended.checker
  | addChecker checker => exact sound.withGuard (List.mem_append_left _ tended.checker)
  | addPattern pattern => exact sound.withGuard tended.checker
  | setRule name enabled => exact sound.withGuard tended.checker

theorem after_sound (sound : w.Sound engine) (history : List Operation) :
    (w.after history).Sound engine := by
  induction history generalizing w with
  | nil => exact sound
  | cons op rest ih => exact ih (perform_sound sound op)

theorem start_sound {s : Settings} {host : Bool} (started : start s host = .ok w) :
    w.Sound s.engine := by
  unfold start at started
  split at started
  · cases started
  · rename_i vm built
    cases started
    refine ⟨⟨?_, List.mem_cons_of_mem _ List.mem_cons_self, ?_⟩, by simp⟩
    · cases host with
      | true => exact Vm.withHost_engine built
      | false => exact Vm.ofSettings_engine built
    · intro row member
      cases member

theorem start_fresh {settings : Settings} {host : Bool}
    (started : start settings host = .ok w) :
    w.executor.pool = { settings := settings.pool } ∧ w.executor.vm.evicted = [] := by
  unfold start at started
  split at started
  · cases started
  · rename_i vm built
    cases started
    refine ⟨rfl, ?_⟩
    have plain : ∀ {vm : Vm}, Vm.ofSettings settings = .ok vm → vm.evicted = [] := by
      intro vm made
      unfold Vm.ofSettings at made
      split at made
      · cases made
      · cases made
        rfl
    cases host with
    | false => exact plain built
    | true =>
      obtain ⟨base, made, built⟩ := bind_ok_parts built
      obtain ⟨offered, _, built⟩ := bind_ok_parts built
      have none := plain made
      cases built
      exact none

end World

end Tollgate
