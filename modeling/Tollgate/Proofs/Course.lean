import Tollgate.Proofs.GuestStep
import Tollgate.Vm

namespace Tollgate

-- A host call as the guest makes it; the machine of the run waits for the results.
structure HostCall where
  run : Run
  function : Guest.HostFunction
  args : List Guest.Native

inductive Verdict
  | unreadable (fault : Fault)
  | denied (request : HostRequest) (fault : Fault)
  | unpaid (request : HostRequest)
  | served (request : HostRequest)

namespace Verdict

def served? : Verdict → Option HostRequest
  | .served request => some request
  | _ => none

def passes : Verdict → Bool
  | .served _ => true
  | .unpaid _ => true
  | _ => false

def isDenied : Verdict → Bool
  | .denied _ _ => true
  | _ => false

def isUnpaid : Verdict → Bool
  | .unpaid _ => true
  | _ => false

-- The fault with which a call that is not served ends the guest's run.
def fault? (limit : Nat) : Verdict → Option Fault
  | .unreadable fault => some fault
  | .denied _ fault => some fault
  | .unpaid _ => some (.resourceExhausted limit limit)
  | .served _ => none

end Verdict

namespace HostCall

-- Inputs, gate, fee: the first that fails decides. `visible` is the memory that the guest exports.
def verdict (visible : Option Nat) (c : HostCall) : Verdict :=
  let meter := c.run.machine.meter
  match HostRequest.read c.function c.args (visible.bind (c.run.machine.memories[·]?)) with
  | .error fault => .unreadable fault
  | .ok request =>
    match Guard.refusal? c.run.guard.policy c.function.name request.arguments request.isWrite with
    | some refusal => .denied request refusal.fault
    | none => if meter.remaining < meter.hostCallFee then .unpaid request else .served request

def served? (visible : Option Nat) (c : HostCall) : Option HostRequest :=
  (c.verdict visible).served?

def fault? (visible : Option Nat) (c : HostCall) : Option Fault :=
  (c.verdict visible).fault? c.run.machine.meter.limit

end HostCall

structure Guard.Counts (before after : Guard) (validated violations : Nat) : Prop where
  policy : after.policy = before.policy
  checkers : after.checkers = before.checkers
  validated : after.stats.hostCallsValidated = before.stats.hostCallsValidated + validated
  violations : after.stats.hostCallViolations = before.stats.hostCallViolations + violations

namespace Guard

theorem Counts.refl (g : Guard) : g.Counts g 0 0 := ⟨rfl, rfl, rfl, rfl⟩

theorem Counts.trans {a b c : Guard} {m n k l : Nat} (first : a.Counts b m n)
    (second : b.Counts c k l) : a.Counts c (m + k) (n + l) := by
  refine ⟨second.policy.trans first.policy, second.checkers.trans first.checkers, ?_, ?_⟩
  · rw [second.validated, first.validated, Nat.add_assoc]
  · rw [second.violations, first.violations, Nat.add_assoc]

theorem record_counts (g : Guard) (kind : String) (severity : Nat) (message : String) :
    g.Counts (g.record kind severity message) 0 0 := by
  unfold record
  dsimp only
  split
  · exact .refl g
  · exact ⟨rfl, rfl, rfl, rfl⟩

theorem validateHostCall_passed {g : Guard} {function : String} {values : List Value}
    {isWrite : Bool} (clear : refusal? g.policy function values isWrite = none) :
    ∃ next, g.validateHostCall function values isWrite = (next, .ok ()) ∧ g.Counts next 1 0 := by
  unfold validateHostCall
  rw [clear]
  exact ⟨_, rfl, rfl, rfl, rfl, rfl⟩

theorem validateHostCall_denied {g : Guard} {function : String} {values : List Value}
    {isWrite : Bool} {r : Refusal} (refused : refusal? g.policy function values isWrite = some r) :
    ∃ next, g.validateHostCall function values isWrite = (next, .error r.fault) ∧
      g.Counts next 0 1 := by
  unfold validateHostCall
  rw [refused]
  have counted : g.Counts { g with stats :=
      { g.stats with hostCallViolations := g.stats.hostCallViolations + 1 } } 0 1 :=
    ⟨rfl, rfl, rfl, rfl⟩
  exact ⟨_, rfl, counted.trans (record_counts _ _ _ _)⟩

end Guard

-- The host's answer to a call. Only a call that is served lets the guest go on.
inductive HostCall.Answer (visible : Option Nat) (c : HostCall) : Progress → Prop
  | unreadable {fault : Fault} : c.verdict visible = .unreadable fault →
      Answer visible c (.ended c.run (.refused fault))
  | denied {request : HostRequest} {fault : Fault} {guard : Guard} :
      c.verdict visible = .denied request fault → c.run.guard.Counts guard 0 1 →
      Answer visible c (.ended { c.run with guard := guard } (.refused fault))
  | unpaid {request : HostRequest} {guard : Guard} :
      c.verdict visible = .unpaid request → c.run.guard.Counts guard 1 0 →
      Answer visible c (.ended
        { c.run with
          guard := guard
          machine := { c.run.machine with meter := c.run.machine.meter.exhaust } }
        (.refused (.resourceExhausted c.run.machine.meter.limit c.run.machine.meter.limit)))
  | served {request : HostRequest} {guard : Guard} {meter : Guest.Meter} :
      c.verdict visible = .served request → c.run.guard.Counts guard 1 0 →
      c.run.machine.meter.payHostCall = (meter, true) →
      Answer visible c (.running
        { c.run with
          guard := guard
          output := (request.perform c.run.env c.run.output).1
          machine := ({ c.run.machine with meter := meter } : Guest.Machine).resume
            (request.perform c.run.env c.run.output).2 })

def servedIn (visible : Option Nat) (calls : List HostCall) : List HostRequest :=
  calls.filterMap (HostCall.served? visible)

def Progress.run : Progress → Run
  | .running r => r
  | .ended r _ => r

@[simp] theorem Progress.run_running (r : Run) : (Progress.running r).run = r := rfl

@[simp] theorem Progress.run_ended (r : Run) (e : Ending) : (Progress.ended r e).run = r := rfl

-- A run that is cut off counts as interrupted.
def Progress.close : Progress → Run × Ending
  | .ended r e => (r, e)
  | .running r => (r, .trapped .interrupted)

@[simp] theorem Progress.close_run (progress : Progress) : progress.close.1 = progress.run := by
  cases progress <;> rfl

namespace Run

def asked (r : Run) : Guest.Step → List HostCall
  | .host f args m => [⟨{ r with machine := m }, f, args⟩]
  | _ => []

-- The states of a call from its first step on, each with the host calls made so far.
inductive Course (b : Guest.Backend) (visible : Option Nat) (r : Run) (callable : Guest.Callable)
    (args : List Guest.Native) : List HostCall → Progress → Prop
  | start : Course b visible r callable args (r.asked (b.start r.machine callable args))
      (r.settle visible (b.start r.machine callable args))
  | step {calls : List HostCall} {now : Run} :
      Course b visible r callable args calls (.running now) →
      Course b visible r callable args (calls ++ now.asked (b.step now.machine))
        (now.settle visible (b.step now.machine))

theorem hostCall_answer (r : Run) (visible : Option Nat) (f : Guest.HostFunction)
    (args : List Guest.Native) (m : Guest.Machine) :
    HostCall.Answer visible ⟨{ r with machine := m }, f, args⟩ (r.hostCall visible f args m) := by
  unfold hostCall
  cases reading : HostRequest.read f args (visible.bind (m.memories[·]?)) with
  | error fault =>
    dsimp only
    exact .unreadable (by simp [HostCall.verdict, reading])
  | ok request =>
    dsimp only
    cases gate : Guard.refusal? r.guard.policy f.name request.arguments request.isWrite with
    | some refusal =>
      obtain ⟨guard, validated, counts⟩ := Guard.validateHostCall_denied gate
      rw [validated]
      have verdict : HostCall.verdict visible ⟨{ r with machine := m }, f, args⟩ =
          .denied request refusal.fault := by simp [HostCall.verdict, reading, gate]
      exact .denied verdict counts
    | none =>
      obtain ⟨guard, validated, counts⟩ := Guard.validateHostCall_passed gate
      rw [validated]
      dsimp only
      by_cases short : m.meter.remaining < m.meter.hostCallFee
      · have unpaid : m.meter.payHostCall = (m.meter.exhaust, false) := by
          simp [Guest.Meter.payHostCall, short]
        rw [unpaid]
        have verdict : HostCall.verdict visible ⟨{ r with machine := m }, f, args⟩ =
            .unpaid request := by simp [HostCall.verdict, reading, gate, short]
        exact .unpaid verdict counts
      · cases paid : m.meter.payHostCall with
        | mk meter enough =>
          have settled : enough = true := by
            simp only [Guest.Meter.payHostCall, short, if_false, Prod.mk.injEq] at paid
            exact paid.2.symm
          subst settled
          exact .served (by simp [HostCall.verdict, reading, gate, short]) counts paid

variable {b : Guest.Backend} {p : Guest.Program} {visible : Option Nat} {r : Run}
  {callable : Guest.Callable} {args : List Guest.Native} {calls : List HostCall} {last : Progress}

-- Both kinds of step settle what the machine did, so one case is enough for an invariant.
theorem Course.invariant {motive : List HostCall → Progress → Prop}
    (course : Course b visible r callable args calls last) (initial : motive [] (.running r))
    (settled : ∀ (calls : List HostCall) (now : Run) (s : Guest.Step),
      motive calls (.running now) → s.Lawful now.machine →
      motive (calls ++ now.asked s) (now.settle visible s)) : motive calls last := by
  induction course with
  | start => exact settled [] r _ initial (b.start_lawful r.machine callable args)
  | @step calls now _ ih => exact settled calls now _ ih (b.step_lawful now.machine)

def stepCalls (p : Guest.Program) (visible : Option Nat) : Nat → Run → List HostCall
  | 0, r => r.asked (r.machine.step p)
  | k + 1, r =>
    stepCalls p visible k r ++
      match steps p visible k r with
      | .running next => stepCalls p visible k next
      | .ended _ _ => []

def hostCalls (p : Guest.Program) (visible : Option Nat) (r : Run) (callable : Guest.Callable)
    (args : List Guest.Native) : List HostCall :=
  r.asked (r.machine.start p callable args) ++
    match r.settle visible (r.machine.start p callable args) with
    | .running next => stepCalls p visible (doublings p r.machine.meter.limit) next
    | .ended _ _ => []

theorem Course.steps {now : Run} (k : Nat)
    (course : Course p.backend visible r callable args calls (.running now)) :
    Course p.backend visible r callable args (calls ++ stepCalls p visible k now)
      (Run.steps p visible k now) := by
  induction k generalizing calls now with
  | zero => exact .step course
  | succ k ih =>
    have half := ih course
    unfold Run.steps stepCalls
    cases reached : Run.steps p visible k now with
    | running next =>
      rw [reached] at half
      rw [← List.append_assoc]
      exact ih half
    | ended r e =>
      rw [reached] at half
      simpa using half

theorem complete_course (p : Guest.Program) (visible : Option Nat) (r : Run)
    (callable : Guest.Callable) (args : List Guest.Native) :
    ∃ last, Course p.backend visible r callable args (r.hostCalls p visible callable args) last ∧
      r.complete p visible callable args = last.close := by
  have begun : Course p.backend visible r callable args
    (r.asked (r.machine.start p callable args)) (r.settle visible (r.machine.start p callable args)) :=
    .start
  unfold hostCalls complete
  cases first : r.settle visible (r.machine.start p callable args) with
  | running next =>
    rw [first] at begun
    refine ⟨_, begun.steps (doublings p r.machine.meter.limit), ?_⟩
    dsimp only
    cases Run.steps p visible (doublings p r.machine.meter.limit) next <;> rfl
  | ended r e =>
    rw [first] at begun
    exact ⟨_, by simpa using begun, rfl⟩

end Run

namespace Vm

def callProgram (vm : Vm) (live : Live) (limits : CallLimits) (tick : Option Nat) :
    Guest.Program :=
  ⟨live.functions, live.tables, interruptAt (vm.ticking tick) limits.timeout⟩

def callRun (guard : Guard) (live : Live) (callable : Guest.Callable) (fee : Nat) : Run :=
  ⟨guard, live.env, live.output,
    .idle live.globals live.memories (live.meter.arm fee) callable.type.results.length⟩

def reported (function : String) (consumed : Nat) (f : Fault) : Fault :=
  (f.withContext "function" (.text function)).withContext "resource_used" (.nat consumed)

def concluded (function : String) (limits : CallLimits) (r : Run) :
    Ending → Except Fault CallOutcome
  | .returned values =>
    .ok {
      words := values.map Guest.Native.word
      types := values.map Guest.Native.valueType
      resourceUsed := r.machine.meter.consumed
      duration := r.machine.work * nanosPerWork + 1 }
  | .trapped t => .error (reported function r.machine.meter.consumed (trapFault limits t))
  | .refused f => .error (reported function r.machine.meter.consumed f)

def leftBy (i : Instance) (live : Live) (r : Run) : Instance :=
  ({ i with live := some (afterRun live r) }).recordCall r.machine.meter.consumed

-- The host calls of a call; one that does not enter the guest makes none.
def hostCalls (vm : Vm) (guard : Guard) (i : Instance) (function : String) (words : List UInt64)
    (limits : CallLimits) (tick : Option Nat) : List HostCall :=
  match vm.prepare i function words with
  | .error _ => []
  | .ok (live, callable, args) =>
    (callRun guard live callable limits.fee).hostCalls (vm.callProgram live limits tick)
      i.memoryIndex? callable args

variable {vm : Vm} {i : Instance} {function : String} {words : List UInt64} {live : Live}
  {callable : Guest.Callable} {args : List Guest.Native}

theorem call_refused {f : Fault} (guard : Guard) (limits : CallLimits) (tick : Option Nat)
    (refused : vm.prepare i function words = .error f) :
    vm.call guard i function words limits tick = (guard, i, .error f) := by
  simp only [call, refused]

theorem call_completed {r : Run} {ending : Ending} (guard : Guard) (limits : CallLimits)
    (tick : Option Nat)
    (entered : vm.prepare i function words = .ok (live, callable, args))
    (completed : (callRun guard live callable limits.fee).complete
      (vm.callProgram live limits tick) i.memoryIndex? callable args = (r, ending)) :
    vm.call guard i function words limits tick =
      (r.guard, leftBy i live r, concluded function limits r ending) := by
  have ran : runLive { live with meter := live.meter.arm limits.fee } i.memoryIndex? guard callable
      args (interruptAt (vm.ticking tick) limits.timeout) = (r, ending) := completed
  simp only [call, entered, ran]
  cases ending <;> rfl

theorem call_entered (guard : Guard) (limits : CallLimits) (tick : Option Nat)
    (entered : vm.prepare i function words = .ok (live, callable, args)) :
    ∃ last, Run.Course (vm.callProgram live limits tick).backend i.memoryIndex?
        (callRun guard live callable limits.fee) callable args
        (vm.hostCalls guard i function words limits tick) last ∧
      vm.call guard i function words limits tick =
        (last.close.1.guard, leftBy i live last.close.1,
          concluded function limits last.close.1 last.close.2) := by
  obtain ⟨last, course, completed⟩ := Run.complete_course (vm.callProgram live limits tick)
    i.memoryIndex? (callRun guard live callable limits.fee) callable args
  exact ⟨last, by simpa only [hostCalls, entered] using course,
    call_completed guard limits tick entered completed⟩

-- What has been found when a call enters the guest: a live instance, the function under its name,
-- and a number for each of its parameters and results.
structure Prepared (vm : Vm) (i : Instance) (function : String) (words : List UInt64)
    (live : Live) (callable : Guest.Callable) (args : List Guest.Native) : Prop where
  opened : vm.closed = false
  alive : i.live = some live
  found : (i.contract.module.exportedFunction? function).bind (live.functions[·]?) = some callable
  count : callable.type.params.length = words.length
  taken : nativeArgs callable.type.params words = .ok args
  blank : ∃ blanks,
    nativeArgs callable.type.results (callable.type.results.map fun _ => 0) = .ok blanks

theorem prepare_ok_iff : vm.prepare i function words = .ok (live, callable, args) ↔
    vm.Prepared i function words live callable args := by
  constructor
  · intro entered
    unfold prepare at entered
    split at entered
    · cases entered
    · rename_i opened
      split at entered
      · cases entered
      · rename_i alive
        split at entered
        · cases entered
        · rename_i found
          dsimp only at entered
          split at entered
          · cases entered
          · rename_i count
            split at entered
            · cases entered
            · rename_i taken
              split at entered
              · cases entered
              · rename_i blank
                cases entered
                exact ⟨by simpa using opened, alive, found, Decidable.not_not.mp count, taken, _,
                  blank⟩
  · rintro ⟨opened, alive, found, count, taken, blanks, blank⟩
    simp only [prepare, opened, alive, found, count, taken, blank, Bool.false_eq_true, if_false,
      ne_eq, not_true_eq_false]

theorem prepare_live (entered : vm.prepare i function words = .ok (live, callable, args)) :
    i.live = some live := (prepare_ok_iff.mp entered).alive

end Vm

end Tollgate
