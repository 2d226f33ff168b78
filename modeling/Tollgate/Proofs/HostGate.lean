import Tollgate.Proofs.Course

namespace Tollgate

namespace HostRequest

def logged : HostRequest → List LogEntry
  | .log level message => [⟨.ofNumber level, message⟩]
  | _ => []

def emitted : HostRequest → List ContractEvent
  | .emitEvent topic data => [⟨topic, data⟩]
  | _ => []

theorem perform_output (r : HostRequest) (env : CallEnv) (o : Output) :
    (r.perform env o).1 = ⟨o.logs ++ r.logged, o.events ++ r.emitted⟩ := by
  cases r <;> simp [perform, logged, emitted]

-- Every request has one effect: an entry, an event or a value for the guest.
theorem effects_one (r : HostRequest) (env : CallEnv) (o : Output) :
    r.logged.length + r.emitted.length + (r.perform env o).2.length = 1 := by
  cases r <;> rfl

theorem perform_height {r : HostRequest} {env : CallEnv} {o : Output} {value : Guest.Native}
    (handed : value ∈ (r.perform env o).2) : r.function = .blockHeight ∧
      value = .i64 (UInt64.ofNat (min env.blockHeight maxHeight)) := by
  cases r with
  | log level message => cases handed
  | emitEvent topic data => cases handed
  | blockHeight => exact ⟨rfl, List.mem_singleton.mp handed⟩

end HostRequest

def HostCall.handed (visible : Option Nat) (c : HostCall) : List Guest.Native :=
  match c.served? visible with
  | some request => (request.perform c.run.env c.run.output).2
  | none => []

def HostCall.outcome (visible : Option Nat) (c : HostCall) : Progress :=
  c.run.hostCall visible c.function c.args c.run.machine

theorem HostCall.outcome_answer (visible : Option Nat) (c : HostCall) :
    HostCall.Answer visible c (c.outcome visible) :=
  c.run.hostCall_answer visible c.function c.args c.run.machine

theorem HostCall.resume_handed {visible : Option Nat} {c : HostCall} {next : Run}
    (goes : c.outcome visible = .running next) : (c.served? visible).isSome ∧
      next.machine = ({ c.run.machine with meter := next.machine.meter } : Guest.Machine).resume
        (c.handed visible) := by
  have answer := c.outcome_answer visible
  rw [goes] at answer
  cases answer with
  | @served request guard meter verdict counts paid =>
    have served : c.served? visible = some request := by
      have same : c.verdict visible = .served request := verdict
      simp [HostCall.served?, same, Verdict.served?]
    simp only [HostCall.handed, served]
    exact ⟨rfl, rfl⟩

theorem HostCall.ended_handed {visible : Option Nat} {c : HostCall} {last : Run} {e : Ending}
    (stops : c.outcome visible = .ended last e) : c.handed visible = [] := by
  have answer := c.outcome_answer visible
  rw [stops] at answer
  have unserved : ∀ {verdict : Verdict}, c.verdict visible = verdict → verdict.served? = none →
      c.handed visible = [] := by
    intro verdict same none
    simp only [HostCall.handed, HostCall.served?, same, none]
  cases answer with
  | unreadable verdict => exact unserved verdict rfl
  | denied verdict counts => exact unserved verdict rfl
  | unpaid verdict counts => exact unserved verdict rfl

theorem HostCall.handed_height {visible : Option Nat} {c : HostCall} {value : Guest.Native}
    (handed : value ∈ c.handed visible) :
    value = .i64 (UInt64.ofNat (min c.run.env.blockHeight HostRequest.maxHeight)) := by
  unfold HostCall.handed at handed
  split at handed
  · exact (HostRequest.perform_height handed).2
  · cases handed

theorem effects_count (visible : Option Nat) (calls : List HostCall) :
    ((servedIn visible calls).flatMap HostRequest.logged).length +
      ((servedIn visible calls).flatMap HostRequest.emitted).length +
      (calls.flatMap (HostCall.handed visible)).length = (servedIn visible calls).length := by
  induction calls with
  | nil => rfl
  | cons c rest ih =>
    cases served : c.served? visible with
    | none => simpa [servedIn, HostCall.handed, served] using ih
    | some request =>
      have one := request.effects_one c.run.env c.run.output
      have head : servedIn visible (c :: rest) = request :: servedIn visible rest := by
        simp [servedIn, served]
      simp only [head, HostCall.handed, served, List.flatMap_cons, List.length_append,
        List.length_cons]
      omega

def Guest.HostFunction.isWrite : Guest.HostFunction → Bool
  | .emitEvent => true
  | _ => false

theorem HostRequest.isWrite_eq (r : HostRequest) : r.isWrite = r.function.isWrite := by
  cases r <;> rfl

-- A policy denies a host function that it lets through with no arguments whatever.
def Policy.Denies (p : Policy) (f : Guest.HostFunction) : Prop :=
  ∀ values, (Guard.refusal? p f.name values f.isWrite).isSome

-- What the host calls of a course have come to.
structure HostAccount (visible : Option Nat) (first : Run) (calls : List HostCall)
    (now : Run) : Prop where
  env : now.env = first.env
  logs : now.output.logs =
    first.output.logs ++ (servedIn visible calls).flatMap HostRequest.logged
  events : now.output.events =
    first.output.events ++ (servedIn visible calls).flatMap HostRequest.emitted
  charged : now.machine.meter.hostCalls =
    first.machine.meter.hostCalls + (servedIn visible calls).length
  limit : now.machine.meter.limit = first.machine.meter.limit
  guard : first.guard.Counts now.guard (calls.countP fun c => (c.verdict visible).passes)
    (calls.countP fun c => (c.verdict visible).isDenied)
  origin : ∀ c ∈ calls, c.run.env = first.env ∧ c.run.guard.policy = first.guard.policy ∧
    c.run.machine.meter.limit = first.machine.meter.limit

-- Only the last call can have failed, and if it has, it is what ended the run.
inductive Standing (visible : Option Nat) : List HostCall → Progress → Prop
  | running {calls : List HostCall} {r : Run} :
      (∀ c ∈ calls, (c.served? visible).isSome) → Standing visible calls (.running r)
  | finished {calls : List HostCall} {r : Run} {e : Ending} :
      (∀ c ∈ calls, (c.served? visible).isSome) → (∀ f, e ≠ .refused f) →
      Standing visible calls (.ended r e)
  | failed {earlier : List HostCall} {c : HostCall} {r : Run} {f : Fault} :
      (∀ c ∈ earlier, (c.served? visible).isSome) → c.fault? visible = some f →
      r.output = c.run.output →
      ((c.verdict visible).isDenied = true → r.machine = c.run.machine) →
      Standing visible (earlier ++ [c]) (.ended r (.refused f))

namespace HostAccount

variable {visible : Option Nat} {first now : Run} {calls : List HostCall}

theorem initial (visible : Option Nat) (r : Run) : HostAccount visible r [] r :=
  ⟨rfl, by simp [servedIn], by simp [servedIn], rfl, rfl, .refl _, by simp⟩

theorem carried {m : Guest.Machine} (account : HostAccount visible first calls now)
    (carries : now.machine.Carries m) : HostAccount visible first calls { now with machine := m } :=
  ⟨account.env, account.logs, account.events, carries.meter.hostCalls.trans account.charged,
    carries.meter.limit.trans account.limit, account.guard, account.origin⟩

theorem servedIn_append (visible : Option Nat) (calls : List HostCall) (c : HostCall) :
    servedIn visible (calls ++ [c]) = servedIn visible calls ++ (c.served? visible).toList := by
  cases served : c.served? visible <;> simp [servedIn, served]

theorem origin_append {c : HostCall} (account : HostAccount visible first calls c.run) :
    ∀ d ∈ calls ++ [c], d.run.env = first.env ∧ d.run.guard.policy = first.guard.policy ∧
      d.run.machine.meter.limit = first.machine.meter.limit := by
  intro d member
  rcases List.mem_append.mp member with old | new
  · exact account.origin d old
  · cases List.mem_singleton.mp new
    exact ⟨account.env, account.guard.policy, account.limit⟩

theorem unserved {c : HostCall} {next : Run} (account : HostAccount visible first calls c.run)
    (none : c.served? visible = none) (env : next.env = c.run.env)
    (output : next.output = c.run.output)
    (hostCalls : next.machine.meter.hostCalls = c.run.machine.meter.hostCalls)
    (limit : next.machine.meter.limit = c.run.machine.meter.limit)
    (counts : c.run.guard.Counts next.guard (if (c.verdict visible).passes then 1 else 0)
      (if (c.verdict visible).isDenied then 1 else 0)) :
    HostAccount visible first (calls ++ [c]) next := by
  have same : servedIn visible (calls ++ [c]) = servedIn visible calls := by
    rw [servedIn_append, none, Option.toList_none, List.append_nil]
  refine ⟨env.trans account.env, ?_, ?_, ?_, limit.trans account.limit, ?_,
    account.origin_append⟩
  · rw [same, output, account.logs]
  · rw [same, output, account.events]
  · rw [same, hostCalls, account.charged]
  · simpa only [List.countP_append, List.countP_singleton] using account.guard.trans counts

theorem answered {c : HostCall} {progress : Progress}
    (account : HostAccount visible first calls c.run) (answer : c.Answer visible progress) :
    HostAccount visible first (calls ++ [c]) progress.run := by
  cases answer with
  | unreadable verdict =>
    refine account.unserved ?_ rfl rfl rfl rfl ?_
    · simp [HostCall.served?, verdict, Verdict.served?]
    · simpa [verdict, Verdict.passes, Verdict.isDenied] using Guard.Counts.refl c.run.guard
  | denied verdict counts =>
    refine account.unserved ?_ rfl rfl rfl rfl ?_
    · simp [HostCall.served?, verdict, Verdict.served?]
    · simpa [verdict, Verdict.passes, Verdict.isDenied] using counts
  | unpaid verdict counts =>
    refine account.unserved ?_ rfl rfl rfl rfl ?_
    · simp [HostCall.served?, verdict, Verdict.served?]
    · simpa [verdict, Verdict.passes, Verdict.isDenied] using counts
  | @served request guard meter verdict counts paid =>
    have some : c.served? visible = some request := by
      simp [HostCall.served?, verdict, Verdict.served?]
    obtain ⟨_, rfl⟩ := Guest.Meter.payHostCall_paid paid
    refine ⟨account.env, ?_, ?_, ?_, account.limit, ?_, account.origin_append⟩
    all_goals simp only [servedIn_append, some, Option.toList_some, Progress.run,
      HostRequest.perform_output, List.flatMap_append, List.flatMap_singleton, ← List.append_assoc]
    · rw [account.logs]
    · rw [account.events]
    · simp only [Guest.Machine.resume, Guest.Machine.withFrame, account.charged,
        List.length_append, List.length_singleton, Nat.add_assoc]
    · simpa [verdict, Verdict.passes, Verdict.isDenied] using account.guard.trans counts

end HostAccount

namespace Standing

variable {visible : Option Nat} {calls : List HostCall} {now : Run}

theorem all_served (standing : Standing visible calls (.running now)) :
    ∀ c ∈ calls, (c.served? visible).isSome := by
  cases standing with
  | running served => exact served

theorem answered {c : HostCall} {progress : Progress}
    (served : ∀ c ∈ calls, (c.served? visible).isSome) (answer : c.Answer visible progress) :
    Standing visible (calls ++ [c]) progress := by
  cases answer with
  | unreadable verdict =>
    refine .failed served ?_ rfl fun _ => rfl
    simp [HostCall.fault?, verdict, Verdict.fault?]
  | denied verdict counts =>
    refine .failed served ?_ rfl fun _ => rfl
    simp [HostCall.fault?, verdict, Verdict.fault?]
  | unpaid verdict counts =>
    refine .failed served ?_ rfl ?_
    · simp [HostCall.fault?, verdict, Verdict.fault?]
    · simp [verdict, Verdict.isDenied]
  | @served request guard meter verdict counts paid =>
    refine .running ?_
    intro d member
    rcases List.mem_append.mp member with old | new
    · exact served d old
    · cases List.mem_singleton.mp new
      simp [HostCall.served?, verdict, Verdict.served?]

end Standing

-- One settled step keeps the account, and nothing follows a call that failed.
theorem Run.settle_accounted {visible : Option Nat} {first now : Run} {calls : List HostCall}
    {s : Guest.Step} (account : HostAccount visible first calls now)
    (standing : Standing visible calls (.running now)) (lawful : s.Lawful now.machine) :
    HostAccount visible first (calls ++ now.asked s) (now.settle visible s).run ∧
      Standing visible (calls ++ now.asked s) (now.settle visible s) := by
  have served := standing.all_served
  cases s with
  | next m =>
    simp only [asked, List.append_nil]
    exact ⟨account.carried lawful.carries, .running served⟩
  | host f args m =>
    have answer := now.hostCall_answer visible f args m
    exact ⟨HostAccount.answered (account.carried lawful.carries) answer,
      Standing.answered served answer⟩
  | returned values m =>
    simp only [asked, List.append_nil]
    exact ⟨account.carried lawful.carries, .finished served (by simp)⟩
  | trapped t m =>
    simp only [asked, List.append_nil]
    exact ⟨account.carried lawful.carries, .finished served (by simp)⟩

theorem Run.Course.accounted {b : Guest.Backend} {visible : Option Nat} {r : Run}
    {callable : Guest.Callable} {args : List Guest.Native} {calls : List HostCall}
    {last : Progress} (course : Course b visible r callable args calls last) :
    HostAccount visible r calls last.run ∧ Standing visible calls last := by
  refine course.invariant (motive := fun calls progress =>
    HostAccount visible r calls progress.run ∧ Standing visible calls progress) ?_ ?_
  · exact ⟨.initial visible r, .running (by simp)⟩
  · intro calls now s held lawful
    exact settle_accounted held.1 held.2 lawful

-- The codes of the faults that the gate produces, and of those that come before it.
def Guard.gateCodes : List String := ["HOST_PERMISSION_DENIED", "HOST_PARAM_INVALID"]

def HostRequest.readCodes : List String :=
  ["INVALID_GUEST_POINTER", "NO_MEMORY", "MEMORY_OUT_OF_BOUNDS", "INVALID_UTF8", "INTERNAL"]

namespace Guard

inductive RefusalFault (function : String) : Fault → Prop
  | permission (reason : String) : RefusalFault function (.hostPermission function reason)
  | schema (reason : String) :
      RefusalFault function (.hostFunction function "HOST_PARAM_INVALID" reason)

theorem RefusalFault.code {function : String} {f : Fault} (refusal : RefusalFault function f) :
    f.code ∈ gateCodes := by
  cases refusal with
  | permission reason => exact List.mem_cons_self
  | schema reason => exact List.mem_cons_of_mem _ List.mem_cons_self

theorem refusal_fault {p : Policy} {function : String} {values : List Value} {isWrite : Bool}
    {r : Refusal} (refused : refusal? p function values isWrite = some r) :
    RefusalFault function r.fault := by
  unfold refusal? at refused
  split at refused
  · cases refused; exact .permission _
  · split at refused
    · cases refused; exact .permission _
    · split at refused
      · cases refused; exact .schema _
      · split at refused
        · cases refused
        · split at refused
          · cases refused; exact .permission _
          · split at refused
            · cases refused
            · split at refused
              · cases refused; exact .permission _
              · split at refused
                · cases refused
                · cases refused; exact .permission _

end Guard

namespace HostRequest

inductive ReadFault (function : String) : Fault → Prop
  | pointer (ptr len : Int32) : ReadFault function (invalidPointer function ptr len)
  | noMemory : ReadFault function (noMemory function)
  | bounds (ptr len : Int32) (size : Nat) : ReadFault function (outOfBounds function ptr len size)
  | text (flaw : Text.Utf8Flaw) : ReadFault function (notUtf8 function flaw)
  | arguments (reason : String) : ReadFault function (.internal reason)

theorem ReadFault.code {function : String} {f : Fault} (unread : ReadFault function f) :
    f.code ∈ readCodes := by
  cases unread with
  | pointer ptr len => simp [invalidPointer, Fault.hostFunction, readCodes]
  | noMemory => simp [HostRequest.noMemory, Fault.hostFunction, readCodes]
  | bounds ptr len size => simp [outOfBounds, readCodes]
  | text flaw => simp [notUtf8, Fault.hostFunction, readCodes]
  | arguments reason => simp [Fault.internal, readCodes]

theorem readBytes_fault {function : String} {memory : Option Guest.Memory} {ptr len : UInt32}
    {f : Fault} (failed : readBytes function memory ptr len = .error f) :
    ReadFault function f := by
  unfold readBytes at failed
  split at failed
  · cases failed
    exact .pointer _ _
  · split at failed
    · cases failed
      exact .noMemory
    · split at failed
      · cases failed
      · cases failed
        exact .bounds _ _ _

theorem readText_fault {function : String} {memory : Option Guest.Memory} {ptr len : UInt32}
    {f : Fault} (failed : readText function memory ptr len = .error f) : ReadFault function f := by
  unfold readText at failed
  split at failed
  · rename_i unread
    cases failed
    exact readBytes_fault unread
  · split at failed
    · cases failed
    · cases failed
      exact .text _

inductive Reading (function : Guest.HostFunction) : Except Fault HostRequest → Prop
  | failed {f : Fault} : ReadFault function.name f → Reading function (.error f)
  | done {request : HostRequest} : request.function = function → Reading function (.ok request)

theorem readLog_reading (memory : Option Guest.Memory) (args : List Guest.Native) :
    Reading .log (readLog memory args) := by
  unfold readLog
  split
  · split
    · rename_i unread
      exact .failed (readText_fault unread)
    · exact .done rfl
  · exact .failed (.arguments _)

theorem readEvent_reading (memory : Option Guest.Memory) (args : List Guest.Native) :
    Reading .emitEvent (readEvent memory args) := by
  unfold readEvent
  split
  · split
    · rename_i unread
      exact .failed (readText_fault unread)
    · split
      · rename_i unread
        exact .failed (readBytes_fault unread)
      · exact .done rfl
  · exact .failed (.arguments _)

theorem read_reading (function : Guest.HostFunction) (args : List Guest.Native)
    (memory : Option Guest.Memory) : Reading function (read function args memory) := by
  cases function with
  | log => exact readLog_reading memory args
  | emitEvent => exact readEvent_reading memory args
  | blockHeight =>
    unfold read
    dsimp only
    split
    · exact .done rfl
    · exact .failed (.arguments _)

variable {function : Guest.HostFunction} {args : List Guest.Native} {memory : Option Guest.Memory}

theorem read_fault {f : Fault} (failed : read function args memory = .error f) :
    ReadFault function.name f := by
  have reading := read_reading function args memory
  rw [failed] at reading
  cases reading with
  | failed unread => exact unread

theorem read_function {request : HostRequest} (done : read function args memory = .ok request) :
    request.function = function := by
  have reading := read_reading function args memory
  rw [done] at reading
  cases reading with
  | done same => exact same

end HostRequest

theorem readCodes_gate {code : String} (listed : code ∈ HostRequest.readCodes) :
    code ∉ Guard.gateCodes := by
  simp only [HostRequest.readCodes, List.mem_cons, List.not_mem_nil, or_false] at listed
  rcases listed with rfl | rfl | rfl | rfl | rfl <;> decide

namespace HostCall

variable {visible : Option Nat} {c : HostCall}

theorem unreadable_fault {fault : Fault} (verdict : c.verdict visible = .unreadable fault) :
    HostRequest.ReadFault c.function.name fault := by
  unfold HostCall.verdict at verdict
  dsimp only at verdict
  split at verdict
  · rename_i failed
    cases verdict
    exact HostRequest.read_fault failed
  · split at verdict
    · cases verdict
    · split at verdict <;> cases verdict

-- A call that fails was denied by the gate, or fails with a code that is not the gate's.
theorem fault_gate {f : Fault} (fault : c.fault? visible = some f) :
    (∃ request, c.verdict visible = .denied request f) ∨
      (c.verdict visible).isDenied = false ∧ f.code ∉ Guard.gateCodes := by
  unfold HostCall.fault? at fault
  cases verdict : c.verdict visible with
  | unreadable reason =>
    rw [verdict] at fault
    cases fault
    exact .inr ⟨rfl, readCodes_gate (unreadable_fault verdict).code⟩
  | denied request reason =>
    rw [verdict] at fault
    cases fault
    exact .inl ⟨request, rfl⟩
  | unpaid request =>
    rw [verdict] at fault
    cases fault
    exact .inr ⟨rfl, by simp [Fault.resourceExhausted, Guard.gateCodes]⟩
  | served request =>
    rw [verdict] at fault
    cases fault

theorem denied_refusal {request : HostRequest} {fault : Fault}
    (verdict : c.verdict visible = .denied request fault) :
    ∃ refusal, Guard.refusal? c.run.guard.policy c.function.name request.arguments
        request.isWrite = some refusal ∧ fault = refusal.fault := by
  unfold HostCall.verdict at verdict
  dsimp only at verdict
  split at verdict
  · cases verdict
  · split at verdict
    · rename_i refused
      cases verdict
      exact ⟨_, refused, rfl⟩
    · split at verdict <;> cases verdict

theorem denied_gate {request : HostRequest} {fault : Fault}
    (verdict : c.verdict visible = .denied request fault) :
    (c.run.guard.validateHostCall c.function.name request.arguments request.isWrite).2 =
        .error fault ∧ fault.code ∈ Guard.gateCodes := by
  obtain ⟨refusal, refused, rfl⟩ := denied_refusal verdict
  obtain ⟨_, validated, _⟩ := Guard.validateHostCall_denied refused
  exact ⟨by rw [validated], (Guard.refusal_fault refused).code⟩

theorem served_gate {request : HostRequest} (served : c.served? visible = some request) :
    request.function = c.function ∧
      Guard.refusal? c.run.guard.policy c.function.name request.arguments request.isWrite =
        none := by
  unfold HostCall.served? HostCall.verdict at served
  dsimp only at served
  split at served
  · cases served
  · rename_i done
    split at served
    · cases served
    · rename_i clear
      split at served
      · cases served
      · cases served
        exact ⟨HostRequest.read_function done, clear⟩

end HostCall

theorem served_counts {visible : Option Nat} {calls : List HostCall}
    (served : ∀ c ∈ calls, (c.served? visible).isSome) :
    calls.countP (fun c => (c.verdict visible).passes) = (servedIn visible calls).length ∧
      calls.countP (fun c => (c.verdict visible).isDenied) = 0 := by
  induction calls with
  | nil => exact ⟨rfl, rfl⟩
  | cons c rest ih =>
    obtain ⟨passed, denied⟩ := ih fun d member => served d (List.mem_cons_of_mem _ member)
    have head := served c List.mem_cons_self
    have isServed : ∃ request, c.verdict visible = .served request := by
      unfold HostCall.served? at head
      cases verdict : c.verdict visible <;> simp [verdict, Verdict.served?] at head
      exact ⟨_, rfl⟩
    obtain ⟨request, verdict⟩ := isServed
    constructor
    · simp [servedIn, HostCall.served?, verdict, Verdict.passes, Verdict.served?]
      exact passed
    · simpa [verdict, Verdict.isDenied] using denied

theorem served_verdict {visible : Option Nat} {c : HostCall} (served : (c.served? visible).isSome) :
    (c.verdict visible).isUnpaid = false ∧ (c.verdict visible).isDenied = false := by
  unfold HostCall.served? at served
  cases verdict : c.verdict visible <;> simp [verdict, Verdict.served?] at served
  exact ⟨rfl, rfl⟩

theorem last_counts {visible : Option Nat} {earlier : List HostCall} (c : HostCall)
    (served : ∀ c ∈ earlier, (c.served? visible).isSome) :
    (earlier ++ [c]).countP (fun c => (c.verdict visible).passes) =
        (servedIn visible (earlier ++ [c])).length +
          (if (c.verdict visible).isUnpaid then 1 else 0) ∧
      (earlier ++ [c]).countP (fun c => (c.verdict visible).isDenied) =
        if (c.verdict visible).isDenied then 1 else 0 := by
  obtain ⟨passed, denied⟩ := served_counts served
  rw [HostAccount.servedIn_append, List.countP_append, List.countP_append, passed, denied]
  cases verdict : c.verdict visible <;>
    simp [verdict, HostCall.served?, Verdict.served?, Verdict.passes, Verdict.isUnpaid,
      Verdict.isDenied]

theorem Standing.close {visible : Option Nat} {calls : List HostCall} {last : Progress}
    (standing : Standing visible calls last) :
    ((∀ c ∈ calls, (c.served? visible).isSome) ∧ ∀ f, last.close.2 ≠ .refused f) ∨
      ∃ earlier c f, calls = earlier ++ [c] ∧ (∀ c ∈ earlier, (c.served? visible).isSome) ∧
        c.fault? visible = some f ∧ last.close.2 = .refused f ∧
        last.run.output = c.run.output ∧
        ((c.verdict visible).isDenied = true → last.run.machine = c.run.machine) := by
  cases standing with
  | running served => exact .inl ⟨served, by simp [Progress.close]⟩
  | finished served other => exact .inl ⟨served, other⟩
  | failed served fault output machine =>
    exact .inr ⟨_, _, _, rfl, served, fault, rfl, output, machine⟩

-- What a call that enters the guest owes to the host calls it made. `visible` is the memory that
-- they read, and the meter's count of the last call is `hostCalls`.
structure GateKept (visible : Option Nat) (function : String) (calls : List HostCall)
    (guard : Guard) (i : Instance) (guard' : Guard) (i' : Instance)
    (result : Except Fault CallOutcome) : Prop where
  -- Entries and events are appended in the order of the calls that were served, and with the
  -- values handed to the guest they are as many as the meter has charged for.
  logs : i'.output.logs = i.output.logs ++ (servedIn visible calls).flatMap HostRequest.logged
  events : i'.output.events =
    i.output.events ++ (servedIn visible calls).flatMap HostRequest.emitted
  effects : ((servedIn visible calls).flatMap HostRequest.logged).length +
    ((servedIn visible calls).flatMap HostRequest.emitted).length +
    (calls.flatMap (HostCall.handed visible)).length = i'.hostCalls
  -- A served call hands its values, which are block heights, to the machine that goes on; a call
  -- that ends the run hands over nothing.
  resumed : ∀ c ∈ calls, ∀ next, c.outcome visible = .running next →
    (c.served? visible).isSome ∧
      next.machine = ({ c.run.machine with meter := next.machine.meter } : Guest.Machine).resume
        (c.handed visible)
  withheld : ∀ c ∈ calls, ∀ last e, c.outcome visible = .ended last e → c.handed visible = []
  heights : ∀ live, i.live = some live → ∀ c ∈ calls, ∀ value ∈ c.handed visible,
    value = .i64 (UInt64.ofNat (min live.env.blockHeight HostRequest.maxHeight))
  -- The gate has let through what was charged for, and one call more if that could not be paid.
  validated :
    ((∀ c ∈ calls, (c.verdict visible).isUnpaid = false) ∧
      guard'.stats.hostCallsValidated = guard.stats.hostCallsValidated + i'.hostCalls) ∨
    ∃ earlier c f, calls = earlier ++ [c] ∧ (c.verdict visible).isUnpaid = true ∧
      result = .error f ∧ f.code = "RESOURCE_EXHAUSTED" ∧
      guard'.stats.hostCallsValidated = guard.stats.hostCallsValidated + i'.hostCalls + 1
  -- There is a violation exactly if the call fails with what the gate said of its last host call,
  -- and only then does it fail with one of the gate's codes.
  atMostOne : guard'.stats.hostCallViolations = guard.stats.hostCallViolations ∨
    guard'.stats.hostCallViolations = guard.stats.hostCallViolations + 1
  violation : guard'.stats.hostCallViolations = guard.stats.hostCallViolations + 1 ↔
    ∃ earlier c request fault consumed, calls = earlier ++ [c] ∧
      c.verdict visible = .denied request fault ∧
      (c.run.guard.validateHostCall c.function.name request.arguments request.isWrite).2 =
        .error fault ∧
      result = .error (Vm.reported function consumed fault)
  violationCode : guard'.stats.hostCallViolations = guard.stats.hostCallViolations + 1 ↔
    ∃ f, result = .error f ∧ f.code ∈ Guard.gateCodes
  untouched : ∀ c ∈ calls, (c.verdict visible).isDenied = true →
    i'.output = c.run.output ∧ i'.live.map Live.meter = some c.run.machine.meter
  closed : ∀ f, guard.policy.Denies f → ∀ request ∈ servedIn visible calls, request.function ≠ f
  quiet : (guard.policy.Denies .log → i'.output.logs = i.output.logs) ∧
    (guard.policy.Denies .emitEvent → i'.output.events = i.output.events)

namespace Vm

variable {vm : Vm} {i : Instance} {function : String} {words : List UInt64} {live : Live}
  {callable : Guest.Callable} {args : List Guest.Native}

@[simp] theorem leftBy_live (i : Instance) (live : Live) (r : Run) :
    (leftBy i live r).live = some (afterRun live r) := rfl

@[simp] theorem leftBy_output (i : Instance) (live : Live) (r : Run) :
    (leftBy i live r).output = r.output := rfl

@[simp] theorem leftBy_hostCalls (i : Instance) (live : Live) (r : Run) :
    (leftBy i live r).hostCalls = r.machine.meter.hostCalls := rfl

@[simp] theorem code_reported (function : String) (consumed : Nat) (f : Fault) :
    (reported function consumed f).code = f.code := rfl

theorem trapFault_code (limits : CallLimits) (t : Guest.Trap) :
    (trapFault limits t).code ∉ Guard.gateCodes := by
  cases t <;> simp [trapFault, Guard.gateCodes, Fault.resourceExhausted, Fault.timedOut,
    Fault.stackOverflow, Fault.executionFailed]

theorem concluded_code {limits : CallLimits} {r : Run} {ending : Ending} {f : Fault}
    (other : ∀ f, ending = .refused f → f.code ∉ Guard.gateCodes)
    (failed : concluded function limits r ending = .error f) : f.code ∉ Guard.gateCodes := by
  cases ending with
  | returned values => cases failed
  | trapped t =>
    cases failed
    exact trapFault_code limits t
  | refused f =>
    cases failed
    exact other f rfl

theorem served_allowed {visible : Option Nat} {first now : Run} {calls : List HostCall}
    (account : HostAccount visible first calls now) {f : Guest.HostFunction}
    (denies : first.guard.policy.Denies f) :
    ∀ request ∈ servedIn visible calls, request.function ≠ f := by
  intro request member same
  obtain ⟨c, made, served⟩ := List.mem_filterMap.mp member
  obtain ⟨function, clear⟩ := HostCall.served_gate served
  have refused := denies request.arguments
  rw [(account.origin c made).2.1, request.isWrite_eq, ← function, same] at clear
  rw [clear] at refused
  cases refused

theorem no_logs {requests : List HostRequest} (none : ∀ r ∈ requests, r.function ≠ .log) :
    requests.flatMap HostRequest.logged = [] := by
  rw [List.flatMap_eq_nil_iff]
  intro r member
  cases r with
  | log level message => exact absurd rfl (none _ member)
  | emitEvent topic data => rfl
  | blockHeight => rfl

theorem no_events {requests : List HostRequest} (none : ∀ r ∈ requests, r.function ≠ .emitEvent) :
    requests.flatMap HostRequest.emitted = [] := by
  rw [List.flatMap_eq_nil_iff]
  intro r member
  cases r with
  | log level message => rfl
  | emitEvent topic data => exact absurd rfl (none _ member)
  | blockHeight => rfl

theorem validated_cases {visible : Option Nat} {first : Run} {calls : List HostCall}
    {last : Progress} (account : HostAccount visible first calls last.run)
    (standing : Standing visible calls last) :
    ((∀ c ∈ calls, (c.verdict visible).isUnpaid = false) ∧
      last.run.guard.stats.hostCallsValidated =
        first.guard.stats.hostCallsValidated + (servedIn visible calls).length) ∨
    ∃ earlier c limit, calls = earlier ++ [c] ∧ (c.verdict visible).isUnpaid = true ∧
      last.close.2 = .refused (.resourceExhausted limit limit) ∧
      last.run.guard.stats.hostCallsValidated =
        first.guard.stats.hostCallsValidated + (servedIn visible calls).length + 1 := by
  have validated := account.guard.validated
  rcases standing.close with ⟨served, _⟩ | ⟨earlier, c, f, rfl, served, fault, ending, _, _⟩
  · rw [(served_counts served).1] at validated
    exact .inl ⟨fun c member => (served_verdict (served c member)).1, validated⟩
  · rw [(last_counts c served).1] at validated
    cases unpaid : (c.verdict visible).isUnpaid with
    | false =>
      refine .inl ⟨?_, by simpa [unpaid] using validated⟩
      exact List.forall_mem_append.mpr ⟨fun d member => (served_verdict (served d member)).1,
        List.forall_mem_singleton.mpr unpaid⟩
    | true =>
      refine .inr ⟨earlier, c, c.run.machine.meter.limit, rfl, unpaid, ?_, ?_⟩
      · rw [ending]
        unfold HostCall.fault? at fault
        cases verdict : c.verdict visible <;> simp [verdict, Verdict.isUnpaid] at unpaid
        simp only [verdict, Verdict.fault?, Option.some.injEq] at fault
        rw [fault]
      · simpa [unpaid, Nat.add_assoc] using validated

theorem violation_cases {visible : Option Nat} {first : Run} {calls : List HostCall}
    {last : Progress} (account : HostAccount visible first calls last.run)
    (standing : Standing visible calls last) :
    ((∀ c ∈ calls, (c.verdict visible).isDenied = false) ∧
      (∀ f, last.close.2 = .refused f → f.code ∉ Guard.gateCodes) ∧
      last.run.guard.stats.hostCallViolations = first.guard.stats.hostCallViolations) ∨
    ∃ earlier c request fault, calls = earlier ++ [c] ∧
      (∀ d ∈ earlier, (d.verdict visible).isDenied = false) ∧
      c.verdict visible = .denied request fault ∧ last.close.2 = .refused fault ∧
      last.run.output = c.run.output ∧ last.run.machine = c.run.machine ∧
      last.run.guard.stats.hostCallViolations = first.guard.stats.hostCallViolations + 1 := by
  have violations := account.guard.violations
  rcases standing.close with ⟨served, other⟩ |
    ⟨earlier, c, f, rfl, served, fault, ending, output, machine⟩
  · rw [(served_counts served).2] at violations
    refine .inl ⟨fun c member => (served_verdict (served c member)).2, ?_, violations⟩
    intro f refused
    exact absurd refused (other f)
  · rw [(last_counts c served).2] at violations
    have before : ∀ d ∈ earlier, (d.verdict visible).isDenied = false :=
      fun d member => (served_verdict (served d member)).2
    rcases HostCall.fault_gate fault with ⟨request, verdict⟩ | ⟨undenied, clear⟩
    · have denied : (c.verdict visible).isDenied = true := by rw [verdict]; rfl
      rw [denied, if_pos rfl] at violations
      exact .inr ⟨earlier, c, request, f, rfl, before, verdict, ending, output, machine denied,
        violations⟩
    · rw [undenied, if_neg Bool.false_ne_true] at violations
      refine .inl ⟨?_, ?_, violations⟩
      · exact List.forall_mem_append.mpr ⟨before, List.forall_mem_singleton.mpr undenied⟩
      · intro g refused
        cases ending.symm.trans refused
        exact clear

theorem violation_reported {visible : Option Nat} {first : Run} {calls : List HostCall}
    {last : Progress} (limits : CallLimits) (account : HostAccount visible first calls last.run)
    (standing : Standing visible calls last) :
    last.run.guard.stats.hostCallViolations = first.guard.stats.hostCallViolations + 1 ↔
      ∃ earlier c request fault consumed, calls = earlier ++ [c] ∧
        c.verdict visible = .denied request fault ∧
        (c.run.guard.validateHostCall c.function.name request.arguments request.isWrite).2 =
          .error fault ∧
        concluded function limits last.run last.close.2 =
          .error (reported function consumed fault) := by
  rcases violation_cases account standing with ⟨undenied, _, same⟩ |
    ⟨earlier, c, request, fault, split, _, verdict, ending, _, _, rose⟩
  · constructor
    · intro rose
      exact absurd (same.symm.trans rose) (Nat.ne_of_lt (Nat.lt_succ_self _))
    -- The denied call would be among those made.
    · rintro ⟨earlier, c, request, fault, _, rfl, verdict, _, _⟩
      have clear := undenied c (List.mem_append_right _ List.mem_cons_self)
      simp [verdict, Verdict.isDenied] at clear
  · refine ⟨fun _ => ?_, fun _ => rose⟩
    exact ⟨earlier, c, request, fault, _, split, verdict, (HostCall.denied_gate verdict).1,
      by rw [ending]; rfl⟩

-- No other end of a call has one of the gate's codes, so the code alone tells a violation.
theorem violation_coded {visible : Option Nat} {first : Run} {calls : List HostCall}
    {last : Progress} (limits : CallLimits) (account : HostAccount visible first calls last.run)
    (standing : Standing visible calls last) :
    last.run.guard.stats.hostCallViolations = first.guard.stats.hostCallViolations + 1 ↔
      ∃ f, concluded function limits last.run last.close.2 = .error f ∧
        f.code ∈ Guard.gateCodes := by
  rcases violation_cases account standing with ⟨_, clear, same⟩ |
    ⟨_, _, _, fault, _, _, verdict, ending, _, _, rose⟩
  · constructor
    · intro rose
      exact absurd (same.symm.trans rose) (Nat.ne_of_lt (Nat.lt_succ_self _))
    · rintro ⟨f, failed, coded⟩
      exact absurd coded (concluded_code clear failed)
  · refine ⟨fun _ => ⟨_, by rw [ending]; rfl, ?_⟩, fun _ => rose⟩
    exact (HostCall.denied_gate verdict).2

theorem denied_untouched {visible : Option Nat} {first : Run} {calls : List HostCall}
    {last : Progress} (account : HostAccount visible first calls last.run)
    (standing : Standing visible calls last) {c : HostCall} (made : c ∈ calls)
    (denied : (c.verdict visible).isDenied = true) :
    last.run.output = c.run.output ∧ last.run.machine = c.run.machine := by
  rcases violation_cases account standing with ⟨undenied, _, _⟩ |
    ⟨earlier, d, _, _, rfl, before, _, _, output, machine, _⟩
  · rw [undenied c made] at denied
    cases denied
  · rcases List.mem_append.mp made with old | new
    · rw [before c old] at denied
      cases denied
    · cases List.mem_singleton.mp new
      exact ⟨output, machine⟩

theorem call_gateKept (guard : Guard) (limits : CallLimits) (tick : Option Nat)
    (entered : vm.prepare i function words = .ok (live, callable, args)) :
    GateKept i.memoryIndex? function (vm.hostCalls guard i function words limits tick) guard i
      (vm.call guard i function words limits tick).1
      (vm.call guard i function words limits tick).2.1
      (vm.call guard i function words limits tick).2.2 := by
  obtain ⟨last, course, called⟩ := call_entered guard limits tick entered
  obtain ⟨account, standing⟩ := course.accounted
  generalize vm.hostCalls guard i function words limits tick = calls at course account standing ⊢
  rw [called]
  have before : i.output = live.output := by
    simp only [Instance.output, prepare_live entered]
  have hostCalls : last.run.machine.meter.hostCalls = (servedIn i.memoryIndex? calls).length :=
    account.charged.trans (Nat.zero_add _)
  have logs : last.run.output.logs =
      i.output.logs ++ (servedIn i.memoryIndex? calls).flatMap HostRequest.logged :=
    account.logs.trans (by rw [before]; rfl)
  have events : last.run.output.events =
      i.output.events ++ (servedIn i.memoryIndex? calls).flatMap HostRequest.emitted :=
    account.events.trans (by rw [before]; rfl)
  have allowed : ∀ f, guard.policy.Denies f →
      ∀ request ∈ servedIn i.memoryIndex? calls, request.function ≠ f :=
    fun f denies => served_allowed account denies
  have heights : ∀ other, i.live = some other → ∀ c ∈ calls,
      ∀ value ∈ c.handed i.memoryIndex?,
        value = .i64 (UInt64.ofNat (min other.env.blockHeight HostRequest.maxHeight)) := by
    intro other opened c made value handed
    cases opened.symm.trans (prepare_live entered)
    rw [HostCall.handed_height handed, (account.origin c made).1]
    rfl
  refine {
    logs := ?_
    events := ?_
    effects := ?_
    resumed := fun c _ next goes => HostCall.resume_handed goes
    withheld := fun c _ last e stops => HostCall.ended_handed stops
    heights := heights
    validated := ?_
    atMostOne := ?_
    violation := ?_
    violationCode := ?_
    untouched := ?_
    closed := allowed
    quiet := ⟨?_, ?_⟩ }
  all_goals simp only [leftBy_output, leftBy_hostCalls, leftBy_live, Progress.close_run, hostCalls]
  · exact logs
  · exact events
  · exact effects_count _ _
  · rcases validated_cases account standing with kept |
      ⟨earlier, c, limit, split, unpaid, ending, rose⟩
    · exact .inl kept
    · refine .inr ⟨earlier, c, _, split, unpaid, by rw [ending]; rfl, ?_, rose⟩
      simp [Fault.resourceExhausted]
  · rcases violation_cases account standing with ⟨_, _, same⟩ | ⟨_, _, _, _, _, _, _, _, _, _, rose⟩
    · exact .inl same
    · exact .inr rose
  · exact violation_reported limits account standing
  · exact violation_coded limits account standing
  · intro c made denied
    obtain ⟨output, machine⟩ := denied_untouched account standing made denied
    exact ⟨output, congrArg (fun m => some (Guest.Machine.meter m)) machine⟩
  · intro denies
    rw [logs, no_logs (allowed _ denies), List.append_nil]
  · intro denies
    rw [events, no_events (allowed _ denies), List.append_nil]

-- A contract that asks for the block height and then tries to log two letters.
def chatter : Instance where
  id := "chatter"
  contract := ⟨"chatter", 0, { exports := [("main", .function 2), ("memory", .memory 0)] }⟩
  live := some {
    functions := #[.host .blockHeight, .host .log, .code ⟨⟨[], []⟩, [],
      .op (.call 0) <| .op .drop <| .op (.const (.i32 1)) <| .op (.const (.i32 0)) <|
        .op (.const (.i32 2)) <| .op (.call 1) .done⟩]
    tables := []
    globals := #[]
    memories := [⟨1, 1, .all 104, by decide, by decide⟩]
    meter := { hostCallFee := 10 } }
  memoryLimitPages := 1

def muzzle : Guard := .ofPolicy { deniedHostFunctions := ["log"] }

def plainVm : Vm := { engine := {}, execution := {} }

theorem chatter_gateKept :
    (plainVm.prepare chatter "main" []).isOk = true ∧
      (plainVm.call muzzle chatter "main" [] ⟨100, 0⟩ none).2.1.hostCalls = 1 ∧
      (plainVm.call muzzle chatter "main" [] ⟨100, 0⟩ none).1.stats.hostCallViolations = 1 ∧
      GateKept chatter.memoryIndex? "main"
        (plainVm.hostCalls muzzle chatter "main" [] ⟨100, 0⟩ none) muzzle chatter
        (plainVm.call muzzle chatter "main" [] ⟨100, 0⟩ none).1
        (plainVm.call muzzle chatter "main" [] ⟨100, 0⟩ none).2.1
        (plainVm.call muzzle chatter "main" [] ⟨100, 0⟩ none).2.2 :=
  ⟨rfl, rfl, rfl, call_gateKept muzzle ⟨100, 0⟩ none rfl⟩

end Vm

end Tollgate
