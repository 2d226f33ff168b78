import Tollgate.Proofs.Execution

namespace Tollgate

theorem elim_ok_parts {ε α : Type} {o : Option α} {e : ε} {a : α}
    (done : o.elim (.error e) Except.ok = .ok a) : o = some a := by
  cases o with
  | none => cases done
  | some b =>
    cases done
    rfl

def Live.limits (live : Live) : List Nat := live.memories.map Guest.Memory.limit

namespace Instance

-- The limits of all memories of an instance; a closed one has none.
def limits (i : Instance) : List Nat :=
  match i.live with
  | some live => live.limits
  | none => []

theorem limits_setMemory {i : Instance} {m written : Guest.Memory} (found : i.memory? = some m)
    (same : written.limit = m.limit) : (i.setMemory written).limits = i.limits := by
  unfold memory? at found
  split at found
  · rename_i live index opened exported
    unfold setMemory
    rw [exported]
    simp only [limits, opened, Option.map_some, Live.limits]
    exact Guest.Machine.limits_set found same
  · cases found

end Instance

theorem HostCall.Answer.memories {visible : Option Nat} {c : HostCall} {progress : Progress}
    (answer : c.Answer visible progress) :
    progress.run.machine.memories = c.run.machine.memories := by
  cases answer <;> rfl

theorem Run.settle_memories (now : Run) (visible : Option Nat) (s : Guest.Step) :
    (now.settle visible s).run.machine.memories = s.machine.memories := by
  cases s with
  | host f args m => exact (now.hostCall_answer visible f args m).memories
  | _ => rfl

theorem Run.Course.limits {b : Guest.Backend} {visible : Option Nat} {r : Run}
    {callable : Guest.Callable} {args : List Guest.Native} {calls : List HostCall}
    {last : Progress} (course : Course b visible r callable args calls last) :
    last.run.machine.memories.map Guest.Memory.limit =
      r.machine.memories.map Guest.Memory.limit := by
  refine course.invariant (motive := fun _ progress =>
    progress.run.machine.memories.map Guest.Memory.limit =
      r.machine.memories.map Guest.Memory.limit) rfl ?_
  intro calls now s kept lawful
  rw [settle_memories]
  exact lawful.carries.limits.trans kept

namespace Vm

theorem memory_limit {ceiling : Nat} {l : Guest.Limits} {m : Guest.Memory}
    (made : memory? ceiling l = some m) : m.limit ≤ ceiling := by
  unfold memory? at made
  dsimp only at made
  split at made
  · cases made
    exact Nat.le_trans (Nat.min_le_right _ _) (Nat.min_le_left _ _)
  · cases made

theorem memories_limits {ceiling : Nat} {declared : List Guest.Limits}
    {memories : List Guest.Memory} (made : declared.mapM (memory? ceiling) = some memories) :
    ∀ m ∈ memories, m.limit ≤ ceiling := by
  induction declared generalizing memories with
  | nil =>
    cases made
    simp
  | cons l rest ih =>
    rw [List.mapM_cons] at made
    obtain ⟨m, one, made⟩ := Option.bind_eq_some_iff.mp made
    obtain ⟨others, more, made⟩ := Option.bind_eq_some_iff.mp made
    cases made
    intro n member
    rcases List.mem_cons.mp member with rfl | later
    · exact memory_limit one
    · exact ih more n later

theorem putData_limits {memories filled : List Guest.Memory} {d : Guest.DataSegment}
    (placed : putData memories d = some filled) :
    filled.map Guest.Memory.limit = memories.map Guest.Memory.limit := by
  unfold putData at placed
  split at placed
  · cases placed
    rfl
  · obtain ⟨m, found, placed⟩ := Option.bind_eq_some_iff.mp placed
    obtain ⟨written, stored, placed⟩ := Option.bind_eq_some_iff.mp placed
    cases placed
    exact Guest.Machine.limits_set found (Guest.Memory.limit_write stored)

theorem data_limits {segments : List Guest.DataSegment} {memories filled : List Guest.Memory}
    (placed : segments.foldlM putData memories = some filled) :
    filled.map Guest.Memory.limit = memories.map Guest.Memory.limit := by
  induction segments generalizing memories with
  | nil =>
    cases placed
    rfl
  | cons d rest ih =>
    rw [List.foldlM_cons] at placed
    obtain ⟨next, one, placed⟩ := Option.bind_eq_some_iff.mp placed
    exact (ih placed).trans (putData_limits one)

theorem layOut_limits {vm : Vm} {m : Guest.Module} {pages : Nat} {tableLimit : Option Nat}
    {live : Live} (laid : layOut vm m pages tableLimit = .ok live) :
    ∀ n ∈ live.limits, n ≤ min pages vm.engine.maxMemoryPages := by
  unfold layOut at laid
  obtain ⟨functions, linked, laid⟩ := bind_ok_parts laid
  obtain ⟨memories, made, laid⟩ := bind_ok_parts laid
  obtain ⟨empty, sized, laid⟩ := bind_ok_parts laid
  obtain ⟨tables, filled, laid⟩ := bind_ok_parts laid
  obtain ⟨written, stored, laid⟩ := bind_ok_parts laid
  cases laid
  intro n member
  rw [Live.limits, data_limits (elim_ok_parts stored)] at member
  obtain ⟨memory, listed, rfl⟩ := List.mem_map.mp member
  exact memories_limits (elim_ok_parts made) memory listed

-- The outcome of bringing an instance up: its state is what was laid out, after a start function
-- if there is one.
theorem bringUp_parts {vm : Vm} {guard : Guard} {i made : Instance} {pages : Nat}
    {tableLimit tick : Option Nat}
    (done : (bringUp vm guard i pages tableLimit tick).2 = .ok made) :
    ∃ live, made = ({ i with live := some live } : Instance).resetScratch ∧
      ∀ n ∈ live.limits, n ≤ min pages vm.engine.maxMemoryPages := by
  unfold bringUp at done
  split at done
  · cases done
  · rename_i live laid
    have bounded := layOut_limits laid
    dsimp only at done
    split at done
    · cases done
      exact ⟨_, rfl, bounded⟩
    · rename_i callable _
      obtain ⟨calls, last, course, ran⟩ := runLive_course
        { live with meter := live.meter.arm vm.execution.defaultFeeLimit } i.memoryIndex? guard
        callable [] (interruptAt (vm.ticking tick) (vm.execution.timeout * nanosPerMilli))
      rw [ran] at done
      split at done
      · rename_i r values closed
        cases done
        refine ⟨_, rfl, ?_⟩
        have reached : last.run = r := by rw [← Progress.close_run, closed]
        have same : (afterRun live r).limits = live.limits := reached ▸ course.limits
        exact same ▸ bounded
      · cases done

theorem instantiate_parts {vm : Vm} {guard : Guard} {c : Contract} {id : String} {pages : Nat}
    {tableLimit : Option Nat} {others : Nat} {tick : Option Nat} {i : Instance}
    (done : (vm.instantiate guard c id pages tableLimit others tick).2 = .ok i) :
    ∃ live, i = ({ id := id, contract := c, live := some live, memoryLimitPages := pages } :
        Instance).resetScratch ∧ ∀ n ∈ live.limits, n ≤ min pages vm.engine.maxMemoryPages := by
  unfold instantiate at done
  split at done
  · cases done
  · dsimp only at done
    split at done
    · rename_i up
      cases done
      split at up
      · cases up
      · exact bringUp_parts up
    · cases done

theorem call_limits (vm : Vm) (guard : Guard) (i : Instance) (function : String)
    (words : List UInt64) (limits : CallLimits) (tick : Option Nat) :
    (vm.call guard i function words limits tick).2.1.limits = i.limits ∧
      (vm.call guard i function words limits tick).2.1.memoryLimitPages = i.memoryLimitPages := by
  cases prepared : vm.prepare i function words with
  | error f =>
    rw [call_refused guard limits tick prepared]
    exact ⟨rfl, rfl⟩
  | ok entry =>
    obtain ⟨live, callable, args⟩ := entry
    obtain ⟨last, course, called⟩ := call_entered guard limits tick prepared
    rw [called]
    refine ⟨?_, rfl⟩
    rw [Progress.close_run]
    simp only [Instance.limits, prepare_live prepared]
    exact course.limits

end Vm

end Tollgate
