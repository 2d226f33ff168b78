import Tollgate.Proofs.HostGate
import Tollgate.Proofs.MemoryBudget
import Tollgate.Proofs.Requests

namespace Tollgate

namespace GuestCall

def visible (q : GuestCall) : Option Nat := q.item.memoryIndex?

def hostCalls (q : GuestCall) : List HostCall :=
  q.vm.hostCalls q.guard q.item q.context.entry q.context.words q.limits q.tick

theorem course {q : GuestCall} {outcome : CallOutcome} (returned : q.answer.2.2 = .ok outcome) :
    ∃ live callable args last, q.item.live = some live ∧
      Run.Course (q.vm.callProgram live q.limits q.tick).backend q.visible
        (Vm.callRun q.guard live callable q.limits.fee) callable args q.hostCalls last ∧
      q.answer.2.1.output = last.run.output := by
  unfold answer at returned ⊢
  cases prepared : q.vm.prepare q.item q.context.entry q.context.words with
  | error f =>
    rw [Vm.call_refused q.guard q.limits q.tick prepared] at returned
    cases returned
  | ok entry =>
    obtain ⟨live, callable, args⟩ := entry
    obtain ⟨last, course, called⟩ := Vm.call_entered q.guard q.limits q.tick prepared
    refine ⟨live, callable, args, last, Vm.prepare_live prepared, course, ?_⟩
    rw [called, Vm.leftBy_output, Progress.close_run]

end GuestCall

-- What an outcome shows of its guest call and of nothing else.
structure Isolated (e : Executor) (p : CallParams) (given : Option Contract) (s : Surroundings)
    (o : ExecutionOutcome) (q : GuestCall) : Prop where
  called : e.guestCall? p given s = some q
  logs : o.logs = (servedIn q.visible q.hostCalls).flatMap HostRequest.logged
  events : o.events = (servedIn q.visible q.hostCalls).flatMap HostRequest.emitted
  -- The values handed out are what the guest goes on with.
  resumed : ∀ c ∈ q.hostCalls, ∀ next,
    c.run.hostCall q.visible c.function c.args c.run.machine = .running next →
    next.machine = ({ c.run.machine with meter := next.machine.meter } : Guest.Machine).resume
      (c.handed q.visible)
  heights : ∀ value ∈ q.hostCalls.flatMap (HostCall.handed q.visible),
    value = .i64 (UInt64.ofNat (min p.blockHeight HostRequest.maxHeight))
  -- What is offered to the pool has no output.
  returned : ∃ i now,
    (e.serve p given s).1.pool = ((e.acquire p given s).1.pool.put i now).1 ∧
      i.id = o.instanceId ∧ i.output.logs = [] ∧ i.output.events = []

namespace Executor

variable {e : Executor} {p : CallParams} {given : Option Contract} {s : Surroundings}
  {q : GuestCall} {o : ExecutionOutcome}

theorem guestCall_blank (called : e.guestCall? p given s = some q) {live : Live}
    (opened : q.item.live = some live) :
    live.output = {} ∧ live.env.blockHeight = p.blockHeight := by
  obtain ⟨after, k, _, bound, _⟩ := guestCall_parts called
  have refills := CallContext.bind_refills bound
  have output := refills.output
  have env := refills.env
  rw [opened] at output env
  cases taken : k.item.live with
  | none => simp [Checkout.ready, Instance.resetScratch, Instance.resetOutput, Instance.setEnv,
      taken] at output
  | some old =>
    simp only [Checkout.ready, Instance.resetScratch, Instance.resetOutput, Instance.setEnv,
      taken, Option.map_some, Option.some.injEq] at output env
    rw [output, env]
    exact ⟨rfl, rfl⟩

theorem guestCall_output {outcome : CallOutcome} (called : e.guestCall? p given s = some q)
    (returned : q.answer.2.2 = .ok outcome) :
    q.answer.2.1.output =
      ⟨(servedIn q.visible q.hostCalls).flatMap HostRequest.logged,
        (servedIn q.visible q.hostCalls).flatMap HostRequest.emitted⟩ := by
  obtain ⟨live, callable, args, last, opened, course, left⟩ := GuestCall.course returned
  obtain ⟨account, _⟩ := course.accounted
  have blank : (Vm.callRun q.guard live callable q.limits.fee).output = {} :=
    (guestCall_blank called opened).1
  have logs := account.logs
  have events := account.events
  rw [blank, List.nil_append] at logs events
  rw [left, ← logs, ← events]

theorem guestCall_heights {outcome : CallOutcome} (called : e.guestCall? p given s = some q)
    (returned : q.answer.2.2 = .ok outcome) :
    ∀ value ∈ q.hostCalls.flatMap (HostCall.handed q.visible),
      value = .i64 (UInt64.ofNat (min p.blockHeight HostRequest.maxHeight)) := by
  obtain ⟨live, callable, args, last, opened, course, _⟩ := GuestCall.course returned
  have height : (Vm.callRun q.guard live callable q.limits.fee).env.blockHeight = p.blockHeight :=
    (guestCall_blank called opened).2
  intro value member
  obtain ⟨c, made, handed⟩ := List.mem_flatMap.mp member
  rw [HostCall.handed_height handed, (course.accounted.1.origin c made).1, height]

end Executor

theorem outcome_isolated {e : Executor} {p : CallParams} {given : Option Contract}
    {s : Surroundings} {o : ExecutionOutcome} (done : (e.serve p given s).2 = .ok o) :
    ∃ q, Isolated e p given s o q := by
  have ended := e.serve_ended p given s
  rw [done] at ended
  cases ended with
  | @returned mid k q outcome _ now stage called returned vm pool id contract logs events =>
    have output := Executor.guestCall_output called returned
    refine ⟨q, called, ?_, ?_, ?_, Executor.guestCall_heights called returned, ?_⟩
    · rw [logs, output]
    · rw [events, output]
    · intro c made next goes
      exact (HostCall.resume_handed goes).2
    · have cleared : q.answer.2.1.resetOutput.output = {} := by
        unfold Instance.output Instance.resetOutput
        cases q.answer.2.1.live <;> rfl
      refine ⟨q.answer.2.1.resetOutput, now, by rw [pool, stage], id.symm, ?_, ?_⟩
      all_goals rw [cleared]

-- A contract that logs one letter when it is created; when it is called it asks for the block
-- height, logs another letter and emits an event.
def Contract.herald : Contract where
  hash := "herald"
  size := 0
  module := {
    imports := [⟨"env", "log", .function ⟨[.i32, .i32, .i32], []⟩⟩,
      ⟨"env", "emit_event", .function ⟨[.i32, .i32, .i32, .i32], []⟩⟩,
      ⟨"env", "block_height", .function ⟨[], [.i64]⟩⟩]
    functions := [
      ⟨⟨[], []⟩, [], .op (.const (.i32 1)) <| .op (.const (.i32 0)) <| .op (.const (.i32 1)) <|
        .op (.call 0) .done⟩,
      ⟨⟨[], [.i64]⟩, [], .op (.const (.i32 2)) <| .op (.const (.i32 1)) <|
        .op (.const (.i32 1)) <| .op (.call 0) <| .op (.const (.i32 0)) <|
        .op (.const (.i32 1)) <| .op (.const (.i32 1)) <| .op (.const (.i32 1)) <|
        .op (.call 1) <| .op (.call 2) .done⟩]
    memories := [⟨1, none⟩]
    exports := [("main", .function 4), ("memory", .memory 0)]
    start := some 3
    data := [⟨some (0, .value (.i32 0)), [115, 109]⟩] }

def Settings.loud : Settings :=
  { security := { enableThreatDetection := false, enforceSideEffects := false } }

def CallParams.heralding (height : Nat) : CallParams :=
  { entry := "main", feeLimit := 10000, memoryLimit := 65536, blockHeight := height }

-- An instance that has logged at its creation and in a call is put into the pool as it is, and an
-- execution that takes it shows one letter and one event.
def World.littered : List Operation :=
  [.instantiate .herald "used" 1 none 0 none, .call 0 "main" [] ⟨10000, 1000000000⟩ none,
    .giveBack 0 0]

theorem outcome_isolated_herald :
    ∃ w e o, World.start .loud true = .ok w ∧ e = (w.after World.littered).executor ∧
      (e.pool.entries "herald").map (fun x => (x.item.id, x.item.output.logs)) =
        [("used", [⟨.info, "s"⟩, ⟨.warn, "m"⟩])] ∧
      (e.serve (.heralding 7) (some .herald) .quiet).2 = .ok o ∧
      (o.instanceId, o.logs, o.events) = ("used", [⟨.warn, "m"⟩], [⟨"s", [109]⟩]) ∧
      (e.guestCall? (.heralding 7) (some .herald) .quiet).map
        (fun q => q.hostCalls.flatMap (HostCall.handed q.visible)) = some [.i64 7] ∧
      ∃ q, Isolated e (.heralding 7) (some .herald) .quiet o q := by
  obtain ⟨w, started⟩ : ∃ w, World.start .loud true = .ok w := ⟨_, rfl⟩
  have shown : ((((w.after World.littered).executor.serve (.heralding 7) (some .herald)
      .quiet).2.toOption).map fun o => (o.instanceId, o.logs, o.events)) =
      some ("used", [⟨.warn, "m"⟩], [⟨"s", [109]⟩]) := by
    cases started
    decide +kernel
  obtain ⟨o, answered, fields⟩ := Option.map_eq_some_iff.mp shown
  have done : ((w.after World.littered).executor.serve (.heralding 7) (some .herald)
      .quiet).2 = .ok o := by
    generalize ((w.after World.littered).executor.serve (.heralding 7) (some .herald)
      .quiet).2 = result at answered
    cases result with
    | error f => cases answered
    | ok other => cases answered; rfl
  refine ⟨w, _, o, started, rfl, ?_, done, fields, ?_, outcome_isolated done⟩
  all_goals
    cases started
    decide +kernel

end Tollgate
