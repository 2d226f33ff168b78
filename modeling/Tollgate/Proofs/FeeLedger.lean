import Tollgate.Proofs.Execution
import Tollgate.Proofs.HostGate

namespace Tollgate

namespace Guest.Meter

-- The spending that counts has been spent, and it pays for the host calls that were made.
structure Solvent (m : Meter) : Prop where
  saved : m.saved ≤ m.used
  covered : m.hostCalls * m.hostCallFee ≤ m.consumed

theorem consumed_le (m : Meter) : m.consumed ≤ m.limit := Nat.sub_le _ _

theorem consumed_drained {m : Meter} (drained : m.remaining = 0) : m.consumed = m.limit := by
  unfold consumed
  rw [drained, Nat.sub_zero]

theorem solvent_arm (m : Meter) (limit : Nat) : (m.arm limit).Solvent := by
  refine ⟨Nat.le_refl 0, ?_⟩
  simp only [arm, Nat.zero_mul, Nat.zero_le]

theorem Solvent.spends {before after : Meter} (solvent : before.Solvent)
    (spends : before.Spends after) : after.Solvent := by
  refine ⟨spends.saved solvent.saved, ?_⟩
  have spent : before.consumed ≤ after.consumed := by
    unfold consumed
    rw [spends.limit]
    exact Nat.sub_le_sub_left (spends.remaining solvent.saved) before.limit
  rw [spends.hostCalls, spends.hostCallFee]
  exact Nat.le_trans solvent.covered spent

theorem Solvent.paid {before after : Meter} (solvent : before.Solvent)
    (payment : before.payHostCall = (after, true)) : after.Solvent := by
  obtain ⟨affordable, rfl⟩ := payHostCall_paid payment
  refine ⟨Nat.le_refl _, ?_⟩
  have covered := solvent.covered
  simp only [consumed, remaining, Nat.succ_mul] at covered affordable ⊢
  omega

end Guest.Meter

-- Whether a call has failed for want of budget, be it the guest's code or a host call.
def Progress.Exhausted : Progress → Prop
  | .ended _ (.trapped t) => t = .outOfFee
  | .ended _ (.refused f) => f.code = "RESOURCE_EXHAUSTED"
  | _ => False

-- The meter in the course of a call that started with `armed`.
structure Metered (armed : Guest.Meter) (progress : Progress) : Prop where
  limit : progress.run.machine.meter.limit = armed.limit
  hostCallFee : progress.run.machine.meter.hostCallFee = armed.hostCallFee
  solvent : progress.run.machine.meter.Solvent
  drained : progress.Exhausted → progress.run.machine.meter.remaining = 0

theorem readCodes_exhausted {code : String} (listed : code ∈ HostRequest.readCodes) :
    code ≠ "RESOURCE_EXHAUSTED" := by
  rintro rfl
  simp [HostRequest.readCodes] at listed

theorem gateCodes_exhausted {code : String} (listed : code ∈ Guard.gateCodes) :
    code ≠ "RESOURCE_EXHAUSTED" := by
  rintro rfl
  simp [Guard.gateCodes] at listed

namespace Metered

variable {armed : Guest.Meter}

-- Guest code spends, and what it does not end in exhaustion needs no more than that.
theorem carried {now : Run} {m : Guest.Machine} {progress : Progress}
    (metered : Metered armed (.running now)) (carries : now.machine.Carries m)
    (reached : progress.run.machine = m) (drained : progress.Exhausted → m.meter.remaining = 0) :
    Metered armed progress := by
  subst reached
  exact ⟨carries.meter.limit.trans metered.limit,
    carries.meter.hostCallFee.trans metered.hostCallFee, metered.solvent.spends carries.meter,
    drained⟩

theorem answered {visible : Option Nat} {c : HostCall} {progress : Progress}
    (metered : Metered armed (.running c.run)) (answer : c.Answer visible progress) :
    Metered armed progress := by
  cases answer with
  | unreadable verdict =>
    refine ⟨metered.limit, metered.hostCallFee, metered.solvent, ?_⟩
    intro exhausted
    exact absurd exhausted (readCodes_exhausted (HostCall.unreadable_fault verdict).code)
  | denied verdict counts =>
    refine ⟨metered.limit, metered.hostCallFee, metered.solvent, ?_⟩
    intro exhausted
    exact absurd exhausted (gateCodes_exhausted (HostCall.denied_gate verdict).2)
  | unpaid verdict counts =>
    have spends := Guest.Meter.spends_exhaust c.run.machine.meter
    exact ⟨metered.limit, metered.hostCallFee, metered.solvent.spends spends,
      fun _ => Guest.Meter.remaining_exhaust _⟩
  | served verdict counts paid =>
    have solvent := metered.solvent.paid paid
    obtain ⟨_, rfl⟩ := Guest.Meter.payHostCall_paid paid
    exact ⟨metered.limit, metered.hostCallFee, solvent, fun exhausted => exhausted.elim⟩

end Metered

theorem Run.settle_metered {armed : Guest.Meter} {visible : Option Nat} {now : Run}
    {s : Guest.Step} (metered : Metered armed (.running now)) (lawful : s.Lawful now.machine) :
    Metered armed (now.settle visible s) := by
  cases s with
  | next m => exact metered.carried lawful.carries rfl fun exhausted => exhausted.elim
  | host f args m =>
    have waiting : Metered armed (.running { now with machine := m }) :=
      metered.carried lawful.carries rfl fun exhausted => exhausted.elim
    exact waiting.answered (now.hostCall_answer visible f args m)
  | returned values m => exact metered.carried lawful.carries rfl fun exhausted => exhausted.elim
  | trapped t m =>
    refine metered.carried lawful.carries rfl ?_
    intro exhausted
    exact lawful.spent m (congrArg (Guest.Step.trapped · m) exhausted)

theorem Run.Course.metered {b : Guest.Backend} {visible : Option Nat} {r : Run}
    {callable : Guest.Callable} {args : List Guest.Native} {calls : List HostCall}
    {last : Progress} (course : Course b visible r callable args calls last)
    (solvent : r.machine.meter.Solvent) : Metered r.machine.meter last := by
  refine course.invariant (motive := fun _ progress => Metered r.machine.meter progress) ?_ ?_
  · exact ⟨rfl, rfl, solvent, fun exhausted => exhausted.elim⟩
  · intro calls now s metered lawful
    exact settle_metered metered lawful

def Instance.meter? (i : Instance) : Option Guest.Meter := i.live.map Live.meter

-- A call that entered the guest, on the instance's books. `m` is the meter after the call.
structure Charged (limits : CallLimits) (before after : Instance) (m : Guest.Meter)
    (result : Except Fault CallOutcome) : Prop where
  meter : after.meter? = some m
  hostCallFee : before.meter?.map Guest.Meter.hostCallFee = some m.hostCallFee
  covered : m.hostCalls * m.hostCallFee ≤ m.consumed
  budget : m.consumed ≤ limits.fee
  exhausted : ∀ f, result = .error f → f.code = "RESOURCE_EXHAUSTED" → m.consumed = limits.fee
  calls : after.calls = before.calls + 1
  resourceUsed : after.resourceUsed = min (before.resourceUsed + m.consumed) maxCounter
  success : ∀ o, result = .ok o → o.resourceUsed = m.consumed

namespace Vm

theorem trapFault_exhausted {limits : CallLimits} {t : Guest.Trap}
    (coded : (trapFault limits t).code = "RESOURCE_EXHAUSTED") : t = .outOfFee := by
  cases t with
  | outOfFee => rfl
  | _ => simp [trapFault, Fault.timedOut, Fault.stackOverflow, Fault.executionFailed] at coded

-- A run that is cut off is not short of budget, so that closing it hides nothing.
theorem concluded_exhausted {function : String} {limits : CallLimits} {last : Progress} {f : Fault}
    (failed : concluded function limits last.close.1 last.close.2 = .error f)
    (coded : f.code = "RESOURCE_EXHAUSTED") : last.Exhausted := by
  cases last with
  | running r =>
    cases failed
    exact absurd (trapFault_exhausted coded) (by simp)
  | ended r e =>
    cases e with
    | returned values => cases failed
    | trapped t =>
      cases failed
      exact trapFault_exhausted coded
    | refused g =>
      cases failed
      exact coded

theorem concluded_success {function : String} {limits : CallLimits} {r : Run} {ending : Ending}
    {o : CallOutcome} (done : concluded function limits r ending = .ok o) :
    o.resourceUsed = r.machine.meter.consumed := by
  cases ending with
  | returned values =>
    cases done
    rfl
  | trapped t => cases done
  | refused f => cases done

variable {vm : Vm} {i : Instance} {function : String} {words : List UInt64}

theorem call_charged {live : Live} {callable : Guest.Callable} {args : List Guest.Native}
    (guard : Guard) (limits : CallLimits) (tick : Option Nat)
    (entered : vm.prepare i function words = .ok (live, callable, args)) :
    ∃ m, Charged limits i (vm.call guard i function words limits tick).2.1 m
      (vm.call guard i function words limits tick).2.2 := by
  obtain ⟨last, course, called⟩ := call_entered guard limits tick entered
  have metered : Metered (live.meter.arm limits.fee) last :=
    course.metered (live.meter.solvent_arm limits.fee)
  have limit : last.run.machine.meter.limit = limits.fee := metered.limit
  have consumed : last.run.machine.meter.consumed ≤ limits.fee :=
    limit ▸ Guest.Meter.consumed_le _
  refine ⟨last.run.machine.meter, ?_⟩
  rw [called]
  refine {
    meter := by rw [Progress.close_run]; rfl
    hostCallFee := by rw [Instance.meter?, prepare_live entered, metered.hostCallFee]; rfl
    covered := metered.solvent.covered
    budget := consumed
    exhausted := ?_
    calls := rfl
    resourceUsed := by rw [Progress.close_run]; rfl
    success := fun o done => by rw [concluded_success done, Progress.close_run] }
  intro f failed coded
  rw [Guest.Meter.consumed_drained (metered.drained (concluded_exhausted failed coded)), limit]

-- The codes of requests that do not enter the guest.
def refusalCodes : List String :=
  ["CLOSED", "FUNCTION_NOT_FOUND", "ARG_COUNT_MISMATCH", "UNSUPPORTED_SIGNATURE"]

theorem nativeArgs_code {types : List Guest.NativeType} {words : List UInt64} {f : Fault}
    (failed : nativeArgs types words = .error f) : f.code = "UNSUPPORTED_SIGNATURE" := by
  induction types generalizing words with
  | nil => cases failed
  | cons t types ih =>
    cases words with
    | nil => cases failed
    | cons w words =>
      unfold nativeArgs at failed
      split at failed
      · cases failed
        rfl
      · cases rest : nativeArgs types words with
        | error g =>
          rw [rest] at failed
          cases failed
          exact ih rest
        | ok values =>
          rw [rest] at failed
          cases failed

theorem prepare_code {f : Fault} (refused : vm.prepare i function words = .error f) :
    f.code ∈ refusalCodes := by
  have unsupported : ∀ {types : List Guest.NativeType} {given : List UInt64} {g : Fault},
      nativeArgs types given = .error g → g.code ∈ refusalCodes := by
    intro types given g failed
    rw [nativeArgs_code failed]
    decide
  unfold prepare at refused
  split at refused
  · cases refused
    exact List.mem_cons_self
  · split at refused
    · cases refused
      exact List.mem_cons_self
    · split at refused
      · cases refused
        exact List.mem_cons_of_mem _ List.mem_cons_self
      · dsimp only at refused
        split at refused
        · cases refused
          exact List.mem_cons_of_mem _ (List.mem_cons_of_mem _ List.mem_cons_self)
        · split at refused
          · rename_i failed
            cases refused
            exact unsupported failed
          · split at refused
            · rename_i failed
              cases refused
              exact unsupported failed
            · cases refused

end Vm

structure CallRequest where
  vm : Vm
  guard : Guard
  function : String
  words : List UInt64
  limits : CallLimits
  tick : Option Nat

namespace CallRequest

def entry (q : CallRequest) (i : Instance) :
    Except Fault (Live × Guest.Callable × List Guest.Native) :=
  q.vm.prepare i q.function q.words

def answer (q : CallRequest) (i : Instance) : Guard × Instance × Except Fault CallOutcome :=
  q.vm.call q.guard i q.function q.words q.limits q.tick

-- What a request costs the instance; one that does not enter the guest has no cost at all.
def charge (q : CallRequest) (i : Instance) : List Nat :=
  match q.entry i with
  | .error _ => []
  | .ok _ => ((q.answer i).2.1.meter?.map Guest.Meter.consumed).toList

-- A request is either on the books or without a trace.
structure Settled (q : CallRequest) (i : Instance) : Prop where
  entered : (q.entry i).isOk → ∃ m,
    Charged q.limits i (q.answer i).2.1 m (q.answer i).2.2
  refused : ∀ f, q.entry i = .error f →
    f.code ∈ Vm.refusalCodes ∧ q.answer i = (q.guard, i, .error f)

theorem settled (q : CallRequest) (i : Instance) : q.Settled i := by
  constructor
  · intro entered
    cases prepared : q.entry i with
    | error f => simp [prepared, Except.isOk, Except.toBool] at entered
    | ok entry => exact Vm.call_charged q.guard q.limits q.tick prepared
  · intro f prepared
    exact ⟨Vm.prepare_code prepared, Vm.call_refused q.guard q.limits q.tick prepared⟩

end CallRequest

namespace Instance

def after (i : Instance) : List CallRequest → Instance
  | [] => i
  | q :: rest => (q.answer i).2.1.after rest

def charges (i : Instance) : List CallRequest → List Nat
  | [] => []
  | q :: rest => q.charge i ++ (q.answer i).2.1.charges rest

structure Ledger (i : Instance) (requests : List CallRequest) : Prop where
  settled : ∀ earlier q later, requests = earlier ++ q :: later → q.Settled (i.after earlier)
  calls : (i.after requests).calls = i.calls + (i.charges requests).length
  resourceUsed : i.resourceUsed ≤ maxCounter →
    (i.after requests).resourceUsed = min (i.resourceUsed + sumOf (i.charges requests)) maxCounter

theorem counted (i : Instance) (q : CallRequest) :
    (q.answer i).2.1.calls = i.calls + (q.charge i).length ∧
      (i.resourceUsed ≤ maxCounter →
        (q.answer i).2.1.resourceUsed = min (i.resourceUsed + sumOf (q.charge i)) maxCounter) := by
  cases prepared : q.entry i with
  | error f =>
    have free : q.charge i = [] := by simp only [CallRequest.charge, prepared]
    rw [((q.settled i).refused f prepared).2, free]
    exact ⟨rfl, fun bounded => (Nat.min_eq_left bounded).symm⟩
  | ok entry =>
    obtain ⟨m, charged⟩ := (q.settled i).entered (by rw [prepared]; rfl)
    have cost : q.charge i = [m.consumed] := by
      simp only [CallRequest.charge, prepared, charged.meter, Option.map_some, Option.toList_some]
    rw [cost, charged.calls, charged.resourceUsed]
    exact ⟨rfl, fun _ => rfl⟩

theorem ledger (i : Instance) (requests : List CallRequest) : i.Ledger requests := by
  refine ⟨fun earlier q _ _ => q.settled (i.after earlier), ?_, ?_⟩
  · induction requests generalizing i with
    | nil => rfl
    | cons q rest ih =>
      rw [after, charges, ih, (i.counted q).1, List.length_append, Nat.add_assoc]
  · induction requests generalizing i with
    | nil => exact fun bounded => (Nat.min_eq_left bounded).symm
    | cons q rest ih =>
      intro bounded
      have one := (i.counted q).2 bounded
      have later := ih (q.answer i).2.1 (one ▸ Nat.min_le_right _ _)
      rw [after, charges, later, one, sumOf_append]
      omega

end Instance

namespace Executor

variable {e : Executor} {p : CallParams} {given : Option Contract} {s : Surroundings}

theorem guestCall_budget {q : GuestCall} {outcome : CallOutcome}
    (called : e.guestCall? p given s = some q) (returned : q.answer.2.2 = .ok outcome) :
    outcome.resourceUsed ≤ p.feeLimit := by
  have budget : q.limits.fee = p.feeLimit := (guestCall_limits called).1
  cases prepared : q.vm.prepare q.item q.context.entry q.context.words with
  | error f =>
    have refused : q.answer = _ := Vm.call_refused q.guard q.limits q.tick prepared
    rw [refused] at returned
    cases returned
  | ok entry =>
    obtain ⟨m, charged⟩ := Vm.call_charged q.guard q.limits q.tick prepared
    rw [charged.success outcome returned, ← budget]
    exact charged.budget

end Executor

-- The books of every instance are kept, and so no execution reports more than its budget and the
-- check of the fee after a guest call has nothing to object to.
theorem feeLedger_kept (i : Instance) (requests : List CallRequest) (e : Executor)
    (p : CallParams) (given : Option Contract) (s : Surroundings) :
    i.Ledger requests ∧
      (∀ o, (e.serve p given s).2 = .ok o → o.resourceUsed ≤ p.feeLimit) ∧
      ∀ q outcome, e.guestCall? p given s = some q → q.answer.2.2 = .ok outcome →
        ∀ memory policy now,
          LimitChecker.resourceFee.check (q.context.recordUsage outcome.resourceUsed memory)
            policy now = .ok () := by
  refine ⟨i.ledger requests, ?_, ?_⟩
  · intro o done
    rw [Executor.serve_eq] at done
    obtain ⟨q, c, r, outcome, called, passed, resource, _⟩ := (e.run_parts p given s).outcome o done
    rw [resource]
    exact Executor.guestCall_budget called passed.returned
  · intro q outcome called returned memory policy now
    have within : outcome.resourceUsed ≤ q.context.feeLimit :=
      (Executor.guestCall_limits called).1 ▸ Executor.guestCall_budget called returned
    exact if_neg (Nat.not_lt.mpr within)

def Guard.lenient : Guard := .ofPolicy { enableThreatDetection := false }

-- Too small a budget, a function that does not exist, and a budget that is enough.
def CallRequest.sample : List CallRequest :=
  [("main", 15), ("absent", 15), ("main", 100)].map fun (function, fee) =>
    ⟨Vm.plainVm, .lenient, function, [], ⟨fee, 0⟩, none⟩

def Executor.sample : Executor where
  guard := .lenient
  vm := Vm.plainVm
  pool := { settings := {}, idle := ⟨[("chatter", [⟨Vm.chatter, 0⟩])]⟩ }
  marshal := {}

def CallParams.sample : CallParams := { entry := "main", feeLimit := 100, memoryLimit := 65536 }

theorem feeLedger_sample :
    Vm.chatter.charges CallRequest.sample = [15, 26] ∧
      (Vm.chatter.after CallRequest.sample).calls = 2 ∧
      (Vm.chatter.after CallRequest.sample).resourceUsed = 41 ∧
      Vm.chatter.Ledger CallRequest.sample ∧
      ∃ o, (Executor.sample.serve .sample (some Vm.chatter.contract) ⟨0, "next", 0, none⟩).2 =
        .ok o ∧ o.resourceUsed = 26 ∧ o.resourceUsed ≤ 100 := by
  obtain ⟨ledger, budget, _⟩ := feeLedger_kept Vm.chatter CallRequest.sample Executor.sample
    .sample (some Vm.chatter.contract) ⟨0, "next", 0, none⟩
  have used : ((Executor.sample.serve .sample (some Vm.chatter.contract)
      ⟨0, "next", 0, none⟩).2.toOption.map ExecutionOutcome.resourceUsed) = some 26 := by
    decide +kernel
  refine ⟨by decide +kernel, by decide +kernel, by decide +kernel, ledger, ?_⟩
  cases done : (Executor.sample.serve .sample (some Vm.chatter.contract)
      ⟨0, "next", 0, none⟩).2 with
  | error f => simp [done, Except.toOption] at used
  | ok o =>
    simp only [done, Except.toOption, Option.map_some, Option.some.injEq] at used
    exact ⟨o, rfl, used, budget o done⟩

end Tollgate
