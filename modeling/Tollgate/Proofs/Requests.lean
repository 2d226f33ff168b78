import Tollgate.Proofs.Answering
import Tollgate.Proofs.MemoryLimits
import Tollgate.Proofs.PoolContents

namespace Tollgate

structure Instance.Continues (before after : Instance) : Prop where
  id : after.id = before.id
  contract : after.contract = before.contract

namespace Instance

variable {i : Instance}

theorem Continues.refl (i : Instance) : i.Continues i := ⟨rfl, rfl⟩

theorem Continues.trans {a b c : Instance} (first : a.Continues b) (second : b.Continues c) :
    a.Continues c := ⟨second.id.trans first.id, second.contract.trans first.contract⟩

-- An instance of which no more than memories and cursor may have changed.
structure Refills (before after : Instance) : Prop extends Continues before after where
  env : after.live.map Live.env = before.live.map Live.env
  output : after.live.map Live.output = before.live.map Live.output

theorem Refills.refl (i : Instance) : i.Refills i := ⟨.refl i, rfl, rfl⟩

theorem Refills.trans {a b c : Instance} (first : a.Refills b) (second : b.Refills c) :
    a.Refills c :=
  ⟨first.toContinues.trans second.toContinues, second.env.trans first.env,
    second.output.trans first.output⟩

theorem setMemory_refills (i : Instance) (m : Guest.Memory) (cursor : Nat) :
    i.Refills { i.setMemory m with heapCursor := cursor } := by
  unfold setMemory
  split
  · refine ⟨⟨rfl, rfl⟩, ?_, ?_⟩ <;> cases i.live <;> rfl
  · exact ⟨⟨rfl, rfl⟩, rfl, rfl⟩

theorem allocate_refills {bytes : List UInt8} {address : Nat} {next : Instance}
    (allocated : i.allocate bytes = .ok (address, next)) : i.Refills next := by
  obtain ⟨_, _, m, written, _, _, rfl⟩ := allocate_ok allocated
  exact i.setMemory_refills _ _

end Instance

namespace CallContext

theorem bindFrom_refills (i : Instance) (words : List UInt64) (done plan : Plan) :
    i.Refills (bindFrom i words done plan).1 := by
  induction plan generalizing i words done with
  | nil => exact .refl i
  | cons segment rest ih =>
    unfold bindFrom
    split
    · exact ih i _ _
    · split
      · exact .refl i
      · rename_i allocated
        exact (Instance.allocate_refills allocated).trans (ih _ _ _)

theorem bind_refills {c bound : CallContext} {i next : Instance} {result : Except Fault Unit}
    (binding : c.bind i = (bound, next, result)) : i.Refills next := by
  have kept := bindFrom_refills i c.words [] c.plan
  unfold bind at binding
  generalize bindFrom i c.words [] c.plan = bindings at kept binding
  obtain ⟨left, words, plan, outcome⟩ := bindings
  cases binding
  exact kept

end CallContext

namespace Vm

theorem call_continues (vm : Vm) (guard : Guard) (i : Instance) (function : String)
    (words : List UInt64) (limits : CallLimits) (tick : Option Nat) :
    i.Continues (vm.call guard i function words limits tick).2.1 := by
  cases prepared : vm.prepare i function words with
  | error f =>
    rw [call_refused guard limits tick prepared]
    exact .refl i
  | ok entry =>
    obtain ⟨last, course, called⟩ := call_entered guard limits tick prepared
    rw [called]
    exact ⟨rfl, rfl⟩

theorem call_open {vm : Vm} {guard : Guard} {i : Instance} {function : String}
    {words : List UInt64} {limits : CallLimits} {tick : Option Nat} {outcome : CallOutcome}
    (returned : (vm.call guard i function words limits tick).2.2 = .ok outcome) :
    (vm.call guard i function words limits tick).2.1.isClosed = false := by
  cases prepared : vm.prepare i function words with
  | error f =>
    rw [call_refused guard limits tick prepared] at returned
    cases returned
  | ok entry =>
    obtain ⟨last, course, called⟩ := call_entered guard limits tick prepared
    rw [called]
    rfl

-- How compiling can end. What fails leaves no trace, and what is cached is not compiled again.
inductive Compiled (vm : Vm) (hash : String) (build : EngineSettings → Except Fault Contract) :
    Vm × Except Fault Contract → Prop
  | failed {f : Fault} : Compiled vm hash build (vm, .error f)
  | cached {c : Contract} : vm.cached? hash = some c → Compiled vm hash build (vm, .ok c)
  | built {c : Contract} : build vm.engine = .ok c →
      Compiled vm hash build (vm.remember c, .ok c)

theorem compileWith_compiled (vm : Vm) (hash : String)
    (build : EngineSettings → Except Fault Contract) :
    Compiled vm hash build (vm.compileWith hash build) := by
  unfold compileWith
  split
  · exact .failed
  · split
    · rename_i found
      exact .cached found
    · split
      · exact .failed
      · rename_i made
        exact .built made

theorem compile_error {vm : Vm} {bytes : List UInt8} {f : Fault}
    (failed : (vm.compile bytes).2 = .error f) : (vm.compile bytes).1 = vm := by
  have compiled := vm.compileWith_compiled (contentHash bytes) fun s =>
    Contract.ofBytes vm.load s bytes
  unfold compile at failed ⊢
  generalize vm.compileWith (contentHash bytes)
    (fun s => Contract.ofBytes vm.load s bytes) = result at compiled failed
  cases compiled with
  | failed => rfl
  | cached found => cases failed
  | built made => cases failed

end Vm

namespace Executor

variable {e : Executor} {p : CallParams} {given : Option Contract} {s : Surroundings}

def supplied (e : Executor) (p : CallParams) (given : Option Contract) : Executor :=
  (e.choose p given).1.dropEvicted

inductive Acquired (e : Executor) (p : CallParams) (given : Option Contract) (s : Surroundings)
    (after : Executor) : Except Fault Checkout → Prop
  | refused {f : Fault} : after.vm = e.vm → after.pool = e.pool →
      Acquired e p given s after (.error f)
  | invalid {c : Contract} {f : Fault} : (e.choose p given).2 = .ok c →
      after.vm = (e.supplied p given).vm → after.pool = (e.supplied p given).pool →
      Acquired e p given s after (.error f)
  -- There is no idle instance, and none can be made.
  | unmade {c : Contract} {pages : Nat} {f : Fault} : (e.choose p given).2 = .ok c →
      after.vm = (e.supplied p given).vm →
      (e.supplied p given).pool.get c.hash pages = (after.pool, none) →
      Acquired e p given s after (.error f)
  | pooled {k : Checkout} {pages : Nat} : (e.choose p given).2 = .ok k.contract →
      after.vm = (e.supplied p given).vm →
      (e.supplied p given).pool.get k.contract.hash pages = (after.pool, some k.item) →
      k.reused = true → Acquired e p given s after (.ok k)
  | fresh {k : Checkout} {pages : Nat} : (e.choose p given).2 = .ok k.contract →
      after.vm = (e.supplied p given).vm →
      (e.supplied p given).pool.get k.contract.hash pages = (after.pool, none) →
      k.reused = false → k.item.contract = k.contract → Acquired e p given s after (.ok k)

theorem choose_same (e other : Executor) (vm : other.vm = e.vm) (pool : other.pool = e.pool)
    (p : CallParams) (given : Option Contract) :
    (other.choose p given).2 = (e.choose p given).2 ∧
      (other.choose p given).1.vm = (e.choose p given).1.vm ∧
      (other.choose p given).1.pool = (e.choose p given).1.pool := by
  cases given with
  | some c => exact ⟨rfl, vm, pool⟩
  | none =>
    unfold choose
    rw [vm]
    exact ⟨rfl, rfl, pool⟩

theorem choose_error {f : Fault} (failed : (e.choose p given).2 = .error f) :
    (e.choose p given).1.vm = e.vm ∧ (e.choose p given).1.pool = e.pool := by
  cases given with
  | some c => cases failed
  | none => exact ⟨Vm.compile_error failed, rfl⟩

theorem dropEvicted_same {e other : Executor} (vm : other.vm = e.vm) (pool : other.pool = e.pool) :
    other.dropEvicted.vm = e.dropEvicted.vm ∧ other.dropEvicted.pool = e.dropEvicted.pool := by
  unfold dropEvicted
  rw [vm, pool]
  exact ⟨rfl, rfl⟩

inductive Provided (e : Executor) (c : Contract) (pages : Nat) (after : Executor) :
    Except Fault (Instance × Bool) → Prop
  | pooled {i : Instance} : after.vm = e.vm → e.pool.get c.hash pages = (after.pool, some i) →
      Provided e c pages after (.ok (i, true))
  | made {i : Instance} : after.vm = e.vm → e.pool.get c.hash pages = (after.pool, none) →
      i.contract = c → Provided e c pages after (.ok (i, false))
  | failed {f : Fault} : after.vm = e.vm → e.pool.get c.hash pages = (after.pool, none) →
      Provided e c pages after (.error f)

theorem takeInstance_provided (e : Executor) (c : Contract) (pages : Nat) (s : Surroundings) :
    Provided e c pages (e.takeInstance c pages s).1 (e.takeInstance c pages s).2 := by
  unfold takeInstance
  split
  · rename_i pool i got
    exact .pooled rfl got
  · rename_i pool got
    dsimp only
    split
    · rename_i guard i made
      obtain ⟨live, rfl, _⟩ := Vm.instantiate_parts (by rw [made])
      exact .made rfl got rfl
    · exact .failed rfl got

theorem Chooses.supplied {c : CallContext} {later : Executor} {contract : Contract}
    (chooses : e.Chooses p given s c later contract) : (e.choose p given).2 = .ok contract ∧
      later.dropEvicted.vm = (e.supplied p given).vm ∧
      later.dropEvicted.pool = (e.supplied p given).pool := by
  obtain ⟨guard, _, choice⟩ := chooses
  obtain ⟨same, vm, pool⟩ := choose_same e (e.counted.withGuard guard) rfl rfl p given
  rw [choice] at same vm pool
  exact ⟨same.symm, dropEvicted_same vm pool⟩

-- Neither the count of executions nor the guard matters for what is left of machine room and pool.
theorem acquire_acquired (e : Executor) (p : CallParams) (given : Option Contract)
    (s : Surroundings) : Acquired e p given s (e.acquire p given s).1 (e.acquire p given s).2 := by
  have acquiring := e.acquire_acquiring p given s
  generalize e.acquire p given s = reached at acquiring
  cases acquiring with
  | closed _ => exact .refused rfl rfl
  | unbuilt _ _ => exact .refused rfl rfl
  | exceeding _ _ => exact .refused rfl rfl
  | @unchosen c guard later f admits failed =>
    obtain ⟨same, vm, pool⟩ := choose_same e (e.counted.withGuard guard) rfl rfl p given
    rw [failed] at same vm pool
    obtain ⟨vm', pool'⟩ := choose_error same.symm
    exact .refused (vm.trans vm') (pool.trans pool')
  | invalid chooses _ =>
    obtain ⟨choice, vm, pool⟩ := chooses.supplied
    exact .invalid choice vm pool
  | @unmade c later last contract guard v f chooses _ failed =>
    obtain ⟨choice, vm, pool⟩ := chooses.supplied
    have provided := (later.dropEvicted.withGuard guard).takeInstance_provided contract
      c.memoryPages s
    rw [failed] at provided
    cases provided with
    | failed same missed => exact .unmade choice (same.trans vm) (pool ▸ missed)
  | @supplied c later last contract guard v i reused chooses _ taken =>
    obtain ⟨choice, vm, pool⟩ := chooses.supplied
    have provided := (later.dropEvicted.withGuard guard).takeInstance_provided contract
      c.memoryPages s
    rw [taken] at provided
    cases provided with
    | pooled same found => exact .pooled choice (same.trans vm) (pool ▸ found) rfl
    | made same missed made => exact .fresh choice (same.trans vm) (pool ▸ missed) rfl made

theorem supplied_pool (e : Executor) (p : CallParams) (given : Option Contract) :
    (e.supplied p given).pool =
      (e.choose p given).1.vm.evicted.foldl (fun p hash => (p.evict hash).1) e.pool := by
  cases given <;> rfl

theorem supplied_tidy (tidy : e.pool.Tidy) (p : CallParams) (given : Option Contract) :
    (e.supplied p given).pool.Tidy := by
  rw [supplied_pool]
  exact tidy.evictAll _

theorem acquire_tidy {mid : Executor} {result : Except Fault Checkout} (tidy : e.pool.Tidy)
    (stage : e.acquire p given s = (mid, result)) :
    mid.pool.Tidy ∧ ∀ k, result = .ok k → k.item.moduleId = k.contract.hash := by
  have acquired := e.acquire_acquired p given s
  have cleared := supplied_tidy tidy p given
  rw [stage] at acquired
  cases acquired with
  | refused vm pool => exact ⟨pool ▸ tidy, fun k done => by cases done⟩
  | invalid chosen vm pool => exact ⟨pool ▸ cleared, fun k done => by cases done⟩
  | unmade chosen vm missed =>
    exact ⟨(cleared.taking (.of_get missed)).1, fun k done => by cases done⟩
  | pooled chosen vm taken reused =>
    obtain ⟨left, same⟩ := cleared.taking (.of_get taken)
    refine ⟨left, ?_⟩
    intro k done
    cases done
    exact same _ rfl
  | fresh chosen vm missed reused contract =>
    refine ⟨(cleared.taking (.of_get missed)).1, ?_⟩
    intro k done
    cases done
    exact congrArg Contract.hash contract

-- How the scoring of a finished call can end: blocked, or reported and offered to the pool.
inductive Concluded (e : Executor) (contract : Contract) (i : Instance) (after : Executor) :
    Except Fault ExecutionOutcome → Prop
  | blocked {f : Fault} : after.vm = e.vm → after.pool = e.pool →
      Concluded e contract i after (.error f)
  | reported {o : ExecutionOutcome} {now : Nat} : after.vm = e.vm →
      after.pool = (e.pool.put i.resetOutput now).1 → o.instanceId = i.id →
      o.moduleId = contract.hash → o.logs = i.output.logs → o.events = i.output.events →
      Concluded e contract i after (.ok o)

theorem conclude_concluded (e : Executor) (c : CallContext) (contract : Contract)
    (v : ValidationReport) (i : Instance) (reused : Bool) (r : CallReport) (s : Surroundings) :
    Concluded e contract i (e.conclude c contract v i reused r s).1
      (e.conclude c contract v i reused r s).2 := by
  unfold conclude
  dsimp only
  split
  · exact .blocked rfl rfl
  · exact .reported rfl rfl rfl rfl rfl rfl

inductive Ended (e : Executor) (p : CallParams) (given : Option Contract) (s : Surroundings)
    (after : Executor) : Except Fault ExecutionOutcome → Prop
  -- It never had an instance.
  | unsupplied {mid : Executor} {f : Fault} : e.acquire p given s = (mid, .error f) →
      after.vm = mid.vm → after.pool = mid.pool → Ended e p given s after (.error f)
  -- It failed with an instance in hand.
  | lost {mid : Executor} {k : Checkout} {f : Fault} : e.acquire p given s = (mid, .ok k) →
      after.vm = mid.vm → after.pool = mid.pool → Ended e p given s after (.error f)
  -- The guest returned, and the outcome is that of its call.
  | returned {mid : Executor} {k : Checkout} {q : GuestCall} {outcome : CallOutcome}
      {o : ExecutionOutcome} {now : Nat} : e.acquire p given s = (mid, .ok k) →
      e.guestCall? p given s = some q → q.answer.2.2 = .ok outcome → after.vm = mid.vm →
      after.pool = (mid.pool.put q.answer.2.1.resetOutput now).1 →
      o.instanceId = q.answer.2.1.id → o.moduleId = k.contract.hash →
      o.logs = q.answer.2.1.output.logs → o.events = q.answer.2.1.output.events →
      Ended e p given s after (.ok o)

theorem run_ended (e : Executor) (p : CallParams) (given : Option Contract) (s : Surroundings) :
    Ended e p given s (e.run p given s).1 (e.run p given s).2 := by
  have staged := e.run_staged p given s
  generalize e.run p given s = last at staged
  cases staged with
  | unsupplied stage => exact .unsupplied stage rfl rfl
  | lost stage kept => exact .lost stage rfl rfl
  | @scored mid k q guard used r outcome stage kept called passed =>
    have concluded := (mid.withGuard guard).conclude_concluded used k.contract k.report
      q.answer.2.1 k.reused r s
    generalize (mid.withGuard guard).conclude used k.contract k.report q.answer.2.1 k.reused r s =
      last at concluded
    obtain ⟨after, result⟩ := last
    cases concluded with
    | blocked vm pool => exact .lost stage vm pool
    | reported vm pool id contract logs events =>
      exact .returned stage called passed.returned vm pool id contract logs events

theorem finish_fixed (e : Executor) (result : Except Fault ExecutionOutcome) :
    (e.finish result).vm = e.vm ∧ (e.finish result).pool = e.pool := by
  unfold finish
  split <;> exact ⟨rfl, rfl⟩

theorem serve_ended (e : Executor) (p : CallParams) (given : Option Contract) (s : Surroundings) :
    Ended e p given s (e.serve p given s).1 (e.serve p given s).2 := by
  have ended := e.run_ended p given s
  rw [serve_eq]
  obtain ⟨vm, pool⟩ := (e.run p given s).1.finish_fixed (e.run p given s).2
  generalize e.run p given s = last at ended vm pool
  obtain ⟨after, result⟩ := last
  cases ended with
  | unsupplied stage vm' pool' => exact .unsupplied stage (vm.trans vm') (pool.trans pool')
  | lost stage vm' pool' => exact .lost stage (vm.trans vm') (pool.trans pool')
  | returned stage called done vm' pool' id contract logs events =>
    exact .returned stage called done (vm.trans vm') (pool.trans pool') id contract logs events

theorem guestCall_continues {mid : Executor} {k : Checkout} {q : GuestCall}
    (stage : e.acquire p given s = (mid, .ok k)) (called : e.guestCall? p given s = some q) :
    k.item.Continues q.answer.2.1 := by
  obtain ⟨after, k', stage', bound, _⟩ := guestCall_parts called
  cases stage.symm.trans stage'
  have ready : k.item.Continues (k.ready p.blockHeight) := ⟨rfl, rfl⟩
  have placed := (CallContext.bind_refills bound).toContinues
  exact ready.trans (placed.trans (Vm.call_continues _ _ _ _ _ _ _))

theorem guestCall_home {mid : Executor} {k : Checkout} {q : GuestCall} (tidy : e.pool.Tidy)
    (stage : e.acquire p given s = (mid, .ok k)) (called : e.guestCall? p given s = some q) :
    q.answer.2.1.resetOutput.moduleId = k.contract.hash :=
  (congrArg Contract.hash (guestCall_continues stage called).contract).trans
    ((acquire_tidy tidy stage).2 k rfl)

theorem serve_tidy (tidy : e.pool.Tidy) (p : CallParams) (given : Option Contract)
    (s : Surroundings) : (e.serve p given s).1.pool.Tidy := by
  have ended := e.serve_ended p given s
  generalize e.serve p given s = last at ended
  obtain ⟨after, result⟩ := last
  cases ended with
  | unsupplied stage vm pool => exact pool ▸ (acquire_tidy tidy stage).1
  | lost stage vm pool => exact pool ▸ (acquire_tidy tidy stage).1
  | returned stage called done vm pool => exact pool ▸ (acquire_tidy tidy stage).1.put _ _

end Executor

inductive Request
  | execute (p : CallParams) (given : Option Contract) (s : Surroundings)
  | evictModule (hash : String)
  | reopen
  | close

-- Executions have a result; the other requests have none.
def Executor.answer (e : Executor) :
    Request → Executor × Option (Except Fault ExecutionOutcome)
  | .execute p given s => ((e.serve p given s).1, some (e.serve p given s).2)
  | .evictModule hash => ((e.evictModule hash).1, none)
  | .reopen => (e.reopen, none)
  | .close => (e.close, none)

theorem Executor.close_pool (e : Executor) :
    e.close.pool = e.pool ∨ e.close.pool = e.pool.close := by
  unfold close
  split
  · exact .inl rfl
  · exact .inr rfl

theorem Executor.close_vm (e : Executor) : e.close.vm = e.vm := by
  unfold close
  split <;> rfl

theorem Executor.answer_engine (e : Executor) (r : Request) :
    (e.answer r).1.vm.engine = e.vm.engine := by
  cases r with
  | execute p given s =>
    change (e.serve p given s).1.vm.engine = e.vm.engine
    rw [serve_eq, (finish_fixed _ _).1]
    exact (e.run_parts p given s).engine
  | evictModule hash => rfl
  | reopen => rfl
  | close => exact congrArg Vm.engine e.close_vm

theorem Executor.answer_tidy {e : Executor} (tidy : e.pool.Tidy) (r : Request) :
    (e.answer r).1.pool.Tidy := by
  cases r with
  | execute p given s => exact serve_tidy tidy p given s
  | evictModule hash => exact tidy.evict hash
  | reopen => exact tidy.reopen
  | close =>
    change e.close.pool.Tidy
    rcases e.close_pool with same | shut
    · exact same ▸ tidy
    · exact shut ▸ tidy.close

end Tollgate
