import Tollgate.Proofs.FeeLedger
import Tollgate.Proofs.Tables

namespace Tollgate

namespace Fault

def Names (f : Fault) (function : String) : Prop :=
  ∀ key d, f.context.get? key = some d → key = "function" ∧ d = .text function

theorem names_empty {f : Fault} (empty : f.context = .empty) (function : String) :
    f.Names function := by
  intro key d found
  rw [empty] at found
  cases found

theorem names_function {f : Fault} {function : String}
    (one : f.context = Table.empty.insert "function" (.text function)) : f.Names function := by
  intro key d found
  rw [one, Table.get_insert] at found
  split at found
  · rename_i named
    cases found
    exact ⟨named, rfl⟩
  · cases found

end Fault

theorem Guard.RefusalFault.names {function : String} {f : Fault}
    (refusal : RefusalFault function f) : f.Names function := by
  cases refusal with
  | permission reason => exact Fault.names_function rfl
  | schema reason => exact Fault.names_function rfl

theorem HostRequest.ReadFault.names {function : String} {f : Fault}
    (unread : ReadFault function f) : f.Names function := by
  cases unread with
  | pointer ptr len => exact Fault.names_function rfl
  | noMemory => exact Fault.names_function rfl
  | bounds ptr len size => exact Fault.names_empty rfl function
  | text flaw => exact Fault.names_function rfl
  | arguments reason => exact Fault.names_empty rfl function

namespace HostCall

variable {visible : Option Nat} {c : HostCall} {f : Fault}

theorem fault_of_refused {r : Run}
    (refused : c.run.hostCall visible c.function c.args c.run.machine = .ended r (.refused f)) :
    c.fault? visible = some f := by
  have answer := c.outcome_answer visible
  rw [outcome, refused] at answer
  unfold fault?
  cases answer with
  | unreadable verdict => rw [verdict]; rfl
  | denied verdict counts => rw [verdict]; rfl
  | unpaid verdict counts => rw [verdict]; rfl

-- The fault of a call names the host function in its context, or it tells of the budget.
theorem fault_context (fault : c.fault? visible = some f) :
    f.Names c.function.name ∨
      f = .resourceExhausted c.run.machine.meter.limit c.run.machine.meter.limit := by
  unfold fault? at fault
  cases verdict : c.verdict visible with
  | unreadable reason =>
    rw [verdict] at fault
    cases fault
    exact .inl (unreadable_fault verdict).names
  | denied request reason =>
    rw [verdict] at fault
    cases fault
    obtain ⟨refusal, refused, rfl⟩ := denied_refusal verdict
    exact .inl (Guard.refusal_fault refused).names
  | unpaid request =>
    rw [verdict] at fault
    cases fault
    exact .inr rfl
  | served request =>
    rw [verdict] at fault
    cases fault

theorem unserved_of_fault (fault : c.fault? visible = some f) : c.served? visible = none := by
  unfold fault? at fault
  unfold served?
  cases verdict : c.verdict visible with
  | served request =>
    rw [verdict] at fault
    cases fault
  | _ => rfl

end HostCall

-- A call that failed is the last one, and its fault is what the course ends with.
theorem Standing.refused {visible : Option Nat} {calls : List HostCall} {last : Progress}
    (standing : Standing visible calls last) {c : HostCall} {f : Fault} (made : c ∈ calls)
    (fault : c.fault? visible = some f) : last.close.2 = .refused f := by
  have unserved := HostCall.unserved_of_fault fault
  rcases standing.close with ⟨served, _⟩ | ⟨earlier, d, g, rfl, served, other, ending, _, _⟩
  · have here := served c made
    rw [unserved] at here
    cases here
  · rcases List.mem_append.mp made with old | new
    · have here := served c old
      rw [unserved] at here
      cases here
    · cases List.mem_singleton.mp new
      cases fault.symm.trans other
      exact ending

-- What the caller of `function` sees of the fault `f` of a host call.
structure PassedOn (c : HostCall) (function : String) (f seen : Fault) : Prop where
  kind : seen.kind = f.kind
  severity : seen.severity = f.severity
  code : seen.code = f.code
  message : seen.message = f.message
  details : seen.details = f.details
  source : seen.source = f.source
  hints : seen.hints = f.hints
  entries : ∀ key d, key ≠ "function" → f.context.get? key = some d →
    seen.context.get? key = some d
  added : ∀ key d, seen.context.get? key = some d →
    f.context.get? key = some d ∨ key = "function" ∨ key = "resource_used"
  -- Under one key the fault has the host function, and the caller finds what it called itself.
  host : ∀ d, f.context.get? "function" = some d → d = .text c.function.name
  called : seen.context.get? "function" = some (.text function)
  exactly : (∀ key d, f.context.get? key = some d → seen.context.get? key = some d) ↔
    f.context.get? "function" = none ∨ c.function.name = function

namespace Vm

theorem reported_get (function : String) (consumed : Nat) (f : Fault) (key : String) :
    (reported function consumed f).context.get? key =
      if key = "resource_used" then some (.nat consumed)
      else if key = "function" then some (.text function) else f.context.get? key := by
  unfold reported Fault.withContext
  rw [Table.get_insert, Table.get_insert]

theorem resourceExhausted_get (used limit : Nat) (key : String) :
    (Fault.resourceExhausted used limit).context.get? key =
      if key = "resource_fee_limit" then some (.nat limit)
      else if key = "resource_used" then some (.nat used) else none := by
  unfold Fault.resourceExhausted Fault.withContext
  rw [Table.get_insert, Table.get_insert]
  rfl

theorem reported_passedOn {c : HostCall} {function : String} {consumed : Nat} {f : Fault}
    (context : f.Names c.function.name ∨ f = .resourceExhausted consumed consumed) :
    PassedOn c function f (reported function consumed f) := by
  have called : (reported function consumed f).context.get? "function" =
      some (.text function) := by
    rw [reported_get]
    rfl
  have host : ∀ d, f.context.get? "function" = some d → d = .text c.function.name := by
    intro d found
    rcases context with names | rfl
    · exact (names _ d found).2
    · rw [resourceExhausted_get] at found
      cases found
  have entries : ∀ key d, key ≠ "function" → f.context.get? key = some d →
      (reported function consumed f).context.get? key = some d := by
    intro key d other found
    rcases context with names | rfl
    · exact absurd (names key d found).1 other
    · rw [reported_get]
      split
      · rename_i used
        rw [used, resourceExhausted_get] at found
        exact found
      · exact found
  refine {
    kind := rfl
    severity := rfl
    code := rfl
    message := rfl
    details := rfl
    source := rfl
    hints := rfl
    entries := entries
    added := ?_
    host := host
    called := called
    exactly := ?_ }
  · intro key d found
    rw [reported_get] at found
    split at found
    · rename_i used
      exact .inr (.inr used)
    · split at found
      · rename_i named
        exact .inr (.inl named)
      · exact .inl found
  -- Only the entry under one key can differ, and it differs when it named another function.
  · constructor
    · intro all
      cases found : f.context.get? "function" with
      | none => exact .inl rfl
      | some d =>
        have same := called.symm.trans (all "function" d found)
        rw [host d found] at same
        cases same
        exact .inr rfl
    · intro kept key d found
      by_cases named : key = "function"
      · subst named
        rcases kept with absent | same
        · rw [absent] at found
          cases found
        · rw [called, host d found, same]
      · exact entries key d named found

variable {vm : Vm} {guard : Guard} {i : Instance} {function : String} {words : List UInt64}
  {limits : CallLimits} {tick : Option Nat} {c : HostCall} {f : Fault}

theorem call_reported (made : c ∈ vm.hostCalls guard i function words limits tick)
    (fault : c.fault? i.memoryIndex? = some f) :
    ∃ consumed, (vm.call guard i function words limits tick).2.2 =
        .error (reported function consumed f) ∧
      (f.Names c.function.name ∨ f = .resourceExhausted consumed consumed) := by
  cases entered : vm.prepare i function words with
  | error refusal =>
    unfold hostCalls at made
    rw [entered] at made
    cases made
  | ok entry =>
    obtain ⟨live, callable, args⟩ := entry
    obtain ⟨last, course, called⟩ := call_entered guard limits tick entered
    obtain ⟨account, standing⟩ := course.accounted
    have ending := standing.refused made fault
    have metered := course.metered (live.meter.solvent_arm limits.fee)
    refine ⟨last.close.1.machine.meter.consumed, ?_, ?_⟩
    · rw [called, ending]
      rfl
    · rcases HostCall.fault_context fault with names | exhausted
      · exact .inl names
      · -- A call that could not be paid has drained the budget, so that its fault tells what was
        -- consumed.
        refine .inr ?_
        have drained : last.Exhausted := by
          cases last with
          | running r => cases ending
          | ended r e =>
            cases ending
            rw [exhausted]
            rfl
        have consumed : last.run.machine.meter.consumed = c.run.machine.meter.limit := by
          rw [Guest.Meter.consumed_drained (metered.drained drained), metered.limit,
            (account.origin c made).2.2]
        rw [exhausted, Progress.close_run, consumed]

theorem host_faults_passedOn (made : c ∈ vm.hostCalls guard i function words limits tick)
    {r : Run} (refused : c.run.hostCall i.memoryIndex? c.function c.args c.run.machine =
      .ended r (.refused f)) :
    ∃ seen, (vm.call guard i function words limits tick).2.2 = .error seen ∧
      PassedOn c function f seen := by
  obtain ⟨consumed, called, context⟩ := call_reported made (HostCall.fault_of_refused refused)
  exact ⟨_, called, reported_passedOn context⟩

theorem host_faults_passedOn_chatter :
    ∃ c ∈ plainVm.hostCalls muzzle chatter "main" [] ⟨100, 0⟩ none, ∃ r f seen,
      c.run.hostCall chatter.memoryIndex? c.function c.args c.run.machine =
        .ended r (.refused f) ∧
      (plainVm.call muzzle chatter "main" [] ⟨100, 0⟩ none).2.2 = .error seen ∧
      PassedOn c "main" f seen := by
  have second : (plainVm.hostCalls muzzle chatter "main" [] ⟨100, 0⟩ none)[1]? = some _ := rfl
  have made := List.mem_of_getElem? second
  obtain ⟨seen, called, passed⟩ := host_faults_passedOn made rfl
  exact ⟨_, made, _, _, seen, rfl, called, passed⟩

theorem host_name_lost :
    ∃ c ∈ plainVm.hostCalls muzzle chatter "main" [] ⟨100, 0⟩ none, ∃ r f seen,
      c.run.hostCall chatter.memoryIndex? c.function c.args c.run.machine =
        .ended r (.refused f) ∧
      (plainVm.call muzzle chatter "main" [] ⟨100, 0⟩ none).2.2 = .error seen ∧
      f.context.get? "function" = some (.text "log") ∧
      seen.context.get? "function" = some (.text "main") :=
  ⟨_, List.mem_of_getElem? (i := 1) rfl, _, _, _, rfl, rfl, rfl, rfl⟩

end Vm

end Tollgate
