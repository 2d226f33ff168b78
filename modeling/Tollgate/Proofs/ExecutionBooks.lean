import Tollgate.Proofs.Requests

namespace Tollgate

def Tally.of {κ : Type} [DecidableEq κ] (t : Tally κ) (key : κ) : Nat :=
  sumOf ((t.filter fun row => row.1 = key).map Prod.snd)

namespace Tally

variable {κ : Type}

theorem total_bump (rank : κ → Nat) (key : κ) (t : Tally κ) :
    Tally.total (Tally.bump rank key t) = t.total + 1 := by
  unfold total
  induction t with
  | nil => rfl
  | cons row rest ih =>
    obtain ⟨k, n⟩ := row
    unfold bump
    split
    · simp only [List.map_cons, sumOf_cons]
      omega
    · split
      · simp only [List.map_cons, sumOf_cons]
        omega
      · simp only [List.map_cons, sumOf_cons, ih]
        omega

theorem of_cons [DecidableEq κ] (k : κ) (n : Nat) (rest : Tally κ) (key : κ) :
    Tally.of ((k, n) :: rest) key = (if k = key then n else 0) + Tally.of rest key := by
  unfold Tally.of
  by_cases same : k = key
  · simp [same, sumOf_cons]
  · simp [same]

theorem of_bump [DecidableEq κ] {rank : κ → Nat} (apart : Function.Injective rank) (key : κ)
    (t : Tally κ) (other : κ) :
    Tally.of (Tally.bump rank key t) other = t.of other + (decide (key = other)).toNat := by
  have one : (if key = other then 1 else 0) = (decide (key = other)).toNat := by
    by_cases same : key = other <;> simp [same]
  rw [← one]
  induction t with
  | nil => simp [bump, of_cons, Nat.add_comm]
  | cons row rest ih =>
    obtain ⟨k, n⟩ := row
    unfold bump
    split
    · rename_i same
      cases apart same
      simp only [of_cons]
      split <;> omega
    · split
      · simp only [of_cons]
        omega
      · simp only [of_cons, ih]
        omega

end Tally

theorem FaultKind.rank_injective : Function.Injective FaultKind.rank := by
  intro a b same
  have listed : ∀ k : FaultKind, k ∈ FaultKind.all := by
    intro k
    cases k <;> decide
  exact (List.idxOf_inj (listed a)).mp same

theorem Severity.rank_injective : Function.Injective Severity.rank := by
  intro a b same
  have ranked : ∀ s : Severity, Severity.all[s.rank - 1]? = some s := by
    intro s
    cases s <;> rfl
  exact Option.some.inj ((ranked a).symm.trans (same ▸ ranked b))

theorem Forecast.record_window {f : Forecast} {all : List Sample} (room : 0 < f.window)
    (held : f.samples = all.drop (all.length - f.window)) (s : Sample) :
    (f.record s).samples = (all ++ [s]).drop ((all ++ [s]).length - f.window) := by
  have beyond : all.length + 1 - f.window ≤ all.length := by omega
  have moved : all.length - f.window + (f.samples.length + 1 - f.window) =
      all.length + 1 - f.window := by
    rw [held, List.length_drop]
    omega
  unfold record
  rw [List.length_append, List.length_singleton, List.drop_append_of_le_length beyond, ← moved,
    ← List.drop_drop, ← held]

structure Books where
  closed : Bool
  stats : ExecutorStats
  tracker : Tracker
  forecast : Forecast

abbrev Outcome := Except Fault ExecutionOutcome

-- A failure has used nothing.
def Sample.ofOutcome : Outcome → Sample
  | .ok o => ⟨o.duration, o.resourceUsed, o.memoryUsed, true⟩
  | .error _ => ⟨1, 0, 0, false⟩

namespace Books

def begin (b : Books) : Books :=
  if b.closed then b
  else { b with stats := { b.stats with executions := b.stats.executions + 1 } }

def enter (b : Books) (outcome : Outcome) : Books :=
  { b with
    forecast := b.forecast.record (.ofOutcome outcome)
    stats := match outcome with
      | .ok o => { b.stats with
          succeeded := b.stats.succeeded + 1
          totalResourceUsed := (b.stats.totalResourceUsed + o.resourceUsed) % (maxCounter + 1) }
      | .error _ => { b.stats with failed := b.stats.failed + 1 }
    tracker := match outcome with
      | .ok _ => b.tracker
      | .error f => b.tracker.record f }

end Books

namespace Executor

def books (e : Executor) : Books := ⟨e.closed, e.stats, e.tracker, e.forecast⟩

variable (e : Executor)

theorem choose_books (p : CallParams) (given : Option Contract) :
    (e.choose p given).1.books = e.books := by
  cases given <;> rfl

theorem takeInstance_books (c : Contract) (pages : Nat) (s : Surroundings) :
    (e.takeInstance c pages s).1.books = e.books := by
  unfold takeInstance
  split
  · rfl
  · dsimp only
    split <;> rfl

variable {e} in
theorem counted_books (opened : e.closed = false) : e.counted.books = e.books.begin :=
  (if_neg (by simp [books, opened])).symm

variable {e} in
theorem Chooses.books {p : CallParams} {given : Option Contract} {s : Surroundings}
    {c : CallContext} {later : Executor} {contract : Contract}
    (chooses : e.Chooses p given s c later contract) : later.books = e.books.begin := by
  obtain ⟨guard, admits, choice⟩ := chooses
  have chosen := (e.counted.withGuard guard).choose_books p given
  rw [choice] at chosen
  exact chosen.trans (counted_books admits.opened)

-- No stage writes into the books but the first, which counts the execution.
theorem acquire_books (p : CallParams) (given : Option Contract) (s : Surroundings) :
    (e.acquire p given s).1.books = e.books.begin := by
  have acquiring := e.acquire_acquiring p given s
  generalize e.acquire p given s = reached at acquiring
  cases acquiring with
  | closed closed => exact (if_pos closed).symm
  | unbuilt opened _ => exact counted_books opened
  | exceeding opened _ => exact counted_books opened
  | @unchosen c guard later f admits failed =>
    have chosen := (e.counted.withGuard guard).choose_books p given
    rw [failed] at chosen
    exact chosen.trans (counted_books admits.opened)
  | invalid chooses _ => exact chooses.books
  | @unmade c later last contract guard v f chooses _ failed =>
    have taken := (later.dropEvicted.withGuard guard).takeInstance_books contract c.memoryPages s
    rw [failed] at taken
    exact taken.trans chooses.books
  | @supplied c later last contract guard v i reused chooses _ done =>
    have taken := (later.dropEvicted.withGuard guard).takeInstance_books contract c.memoryPages s
    rw [done] at taken
    exact taken.trans chooses.books

theorem callInstance_books (c : CallContext) (i : Instance) (s : Surroundings) :
    (e.callInstance c i s).1.books = e.books := by
  unfold callInstance
  split
  · rfl
  · dsimp only
    split
    · rfl
    · split <;> rfl

theorem conclude_books (c : CallContext) (contract : Contract) (v : ValidationReport)
    (i : Instance) (reused : Bool) (r : CallReport) (s : Surroundings) :
    (e.conclude c contract v i reused r s).1.books = e.books := by
  unfold conclude
  dsimp only
  split <;> rfl

theorem carryOut_books (k : Checkout) (height : Nat) (s : Surroundings) :
    (e.carryOut k height s).1.books = e.books := by
  have called := e.callInstance_books k.context (k.ready height) s
  unfold carryOut
  split
  · rename_i after c i f failed
    rw [failed] at called
    exact called
  · rename_i after c i report passed
    rw [passed] at called
    exact (after.conclude_books c k.contract k.report i k.reused report s).trans called

theorem run_books (p : CallParams) (given : Option Contract) (s : Surroundings) :
    (e.run p given s).1.books = e.books.begin := by
  rw [run_eq]
  have begun := e.acquire_books p given s
  cases stage : e.acquire p given s with
  | mk mid result =>
  rw [stage] at begun
  cases result with
  | error f => exact begun
  | ok k => exact (mid.carryOut_books k p.blockHeight s).trans begun

theorem finish_books (outcome : Outcome) : (e.finish outcome).books = e.books.enter outcome := by
  cases outcome <;> rfl

theorem serve_books (p : CallParams) (given : Option Contract) (s : Surroundings) :
    (e.serve p given s).1.books = e.books.begin.enter (e.serve p given s).2 := by
  rw [serve_eq, finish_books, run_books]

theorem close_books : e.close.books = ⟨true, e.stats, e.tracker, e.forecast⟩ := by
  unfold close
  split
  · rename_i closed
    rw [books, closed]
  · rfl

theorem serve_keepsClosed (p : CallParams) (given : Option Contract) (s : Surroundings) :
    (e.serve p given s).1.closed = e.closed := by
  have books := congrArg Books.closed (e.serve_books p given s)
  have begun : e.books.begin.closed = e.closed := by
    unfold Books.begin
    split <;> rfl
  exact books.trans begun

theorem serve_closed (closed : e.closed = true) (p : CallParams) (given : Option Contract)
    (s : Surroundings) : e.serve p given s =
      (e.finish (.error (.closed "executor")), .error (.closed "executor")) := by
  rw [serve_eq, run, if_pos closed]

end Executor

abbrev Executor.Turn := Executor × Request

namespace Executor.Turn

def outcome? (t : Turn) : Option Outcome := (t.1.answer t.2).2

def isRefused (t : Turn) : Bool := t.outcome?.isSome && t.1.closed

end Executor.Turn

def outcomes (turns : List Executor.Turn) : List Outcome := turns.filterMap (·.outcome?)

def faultOf? : Outcome → Option Fault
  | .ok _ => none
  | .error f => some f

def faults (outcomes : List Outcome) : List Fault := outcomes.filterMap faultOf?

def resourceOf : Outcome → Nat
  | .ok o => o.resourceUsed
  | .error _ => 0

-- Books that follow from results. The executions among them depend on when it was closed.
structure Books.Follow (outcomes : List Outcome) (b : Books) : Prop where
  succeeded : b.stats.succeeded = outcomes.countP Except.isOk
  failed : b.stats.failed + outcomes.countP Except.isOk = outcomes.length
  resource : b.stats.totalResourceUsed = sumOf (outcomes.map resourceOf) % pow2 64
  total : b.tracker.stats.total = b.stats.failed
  kinds : b.tracker.stats.byKind.total = b.stats.failed
  severities : b.tracker.stats.bySeverity.total = b.stats.failed
  kind : ∀ k, b.tracker.stats.byKind.of k = (faults outcomes).countP (·.kind = k)
  severity : ∀ s,
    b.tracker.stats.bySeverity.of s = (faults outcomes).countP (·.severity = s)
  recoverable : b.tracker.stats.recoverable =
    (faults outcomes).countP Fault.isRecoverable
  window : b.forecast.window = 1000
  samples : b.forecast.samples = (outcomes.map Sample.ofOutcome).drop (outcomes.length - 1000)

namespace Books

variable {outcomes : List Outcome} {b : Books}

theorem Follow.closed (follow : b.Follow outcomes) (closed : Bool) :
    Follow outcomes ⟨closed, b.stats, b.tracker, b.forecast⟩ :=
  ⟨follow.succeeded, follow.failed, follow.resource, follow.total, follow.kinds,
    follow.severities, follow.kind, follow.severity, follow.recoverable, follow.window,
    follow.samples⟩

theorem Follow.begin (follow : b.Follow outcomes) : b.begin.Follow outcomes := by
  unfold Books.begin
  split
  · exact follow
  · exact ⟨follow.succeeded, follow.failed, follow.resource, follow.total, follow.kinds,
      follow.severities, follow.kind, follow.severity, follow.recoverable, follow.window,
      follow.samples⟩

theorem begin_executions (b : Books) :
    b.begin.stats.executions + b.closed.toNat = b.stats.executions + 1 := by
  unfold Books.begin
  split
  · rename_i closed
    rw [closed]
    rfl
  · rename_i opened
    rw [show b.closed = false by simpa using opened]
    rfl

theorem enter_executions (b : Books) (outcome : Outcome) :
    (b.enter outcome).stats.executions = b.stats.executions := by
  cases outcome <;> rfl

theorem Follow.sampled (follow : b.Follow outcomes) (outcome : Outcome) :
    (b.forecast.record (.ofOutcome outcome)).samples =
      ((outcomes ++ [outcome]).map Sample.ofOutcome).drop
        ((outcomes ++ [outcome]).length - 1000) := by
  have held : b.forecast.samples = (outcomes.map Sample.ofOutcome).drop
      ((outcomes.map Sample.ofOutcome).length - b.forecast.window) := by
    rw [follow.window, List.length_map]
    exact follow.samples
  have next := Forecast.record_window (by rw [follow.window]; decide) held (.ofOutcome outcome)
  rw [next, follow.window, List.map_append, List.map_singleton]
  simp only [List.length_append, List.length_map, List.length_singleton]

theorem Follow.enter_ok (follow : b.Follow outcomes) (o : ExecutionOutcome) :
    (b.enter (.ok o)).Follow (outcomes ++ [.ok o]) := by
  have same : faults (outcomes ++ [.ok o]) = faults outcomes := by
    unfold faults
    rw [List.filterMap_append]
    exact List.append_nil _
  refine ⟨?_, ?_, ?_, follow.total, follow.kinds, follow.severities, ?_, ?_, ?_, follow.window,
    follow.sampled _⟩
  · rw [countP_snoc]
    exact congrArg (· + 1) follow.succeeded
  · rw [countP_snoc, List.length_append]
    exact congrArg (· + 1) follow.failed
  · rw [sumOf_snoc]
    change (b.stats.totalResourceUsed + o.resourceUsed) % pow2 64 = _
    rw [follow.resource, Nat.mod_add_mod]
    rfl
  · rw [same]
    exact follow.kind
  · rw [same]
    exact follow.severity
  · rw [same]
    exact follow.recoverable

theorem Follow.enter_error (follow : b.Follow outcomes) (f : Fault) :
    (b.enter (.error f)).Follow (outcomes ++ [.error f]) := by
  have more : faults (outcomes ++ [.error f]) = faults outcomes ++ [f] := by
    unfold faults
    rw [List.filterMap_append]
    rfl
  refine ⟨?_, ?_, ?_, congrArg (· + 1) follow.total,
    (Tally.total_bump _ _ _).trans (congrArg (· + 1) follow.kinds),
    (Tally.total_bump _ _ _).trans (congrArg (· + 1) follow.severities), ?_, ?_, ?_,
    follow.window, follow.sampled _⟩
  · rw [countP_snoc]
    exact follow.succeeded
  · have failed := follow.failed
    rw [countP_snoc, List.length_append]
    change b.stats.failed + 1 + outcomes.countP Except.isOk = outcomes.length + 1
    omega
  · rw [sumOf_snoc]
    exact follow.resource
  · intro k
    rw [more, countP_snoc, ← follow.kind]
    exact Tally.of_bump FaultKind.rank_injective f.kind b.tracker.stats.byKind k
  · intro s
    rw [more, countP_snoc, ← follow.severity]
    exact Tally.of_bump Severity.rank_injective f.severity b.tracker.stats.bySeverity s
  · rw [more, countP_snoc, ← follow.recoverable]
    change (if f.isRecoverable then _ else _) = _
    cases f.isRecoverable <;> rfl

theorem Follow.enter (follow : b.Follow outcomes) (outcome : Outcome) :
    (b.enter outcome).Follow (outcomes ++ [outcome]) := by
  cases outcome with
  | ok o => exact follow.enter_ok o
  | error f => exact follow.enter_error f

end Books

-- The books of an executor against the journal of a run.
structure BooksKept (turns : List Executor.Turn) (e : Executor) : Prop
    extends e.books.Follow (outcomes turns) where
  executions : e.stats.executions + turns.countP Executor.Turn.isRefused = (outcomes turns).length
  refused : ∀ t ∈ turns, t.isRefused = true → t.outcome? = some (.error (.closed "executor"))

theorem outcomes_snoc (turns : List Executor.Turn) (t : Executor.Turn) :
    outcomes (turns ++ [t]) = outcomes turns ++ t.outcome?.toList := by
  unfold outcomes
  rw [List.filterMap_append]
  cases done : t.outcome? <;> simp [done]

namespace BooksKept

variable {turns : List Executor.Turn} {e : Executor}

-- A request without a result may open or close the executor, and writes nothing else down.
theorem silent {r : Request} {after : Executor} (kept : BooksKept turns e)
    (step : e.answer r = (after, none)) (closed : Bool)
    (same : after.books = ⟨closed, e.stats, e.tracker, e.forecast⟩) :
    BooksKept (turns ++ [(e, r)]) after := by
  have none : Executor.Turn.outcome? (e, r) = none := congrArg Prod.snd step
  have taken : Executor.Turn.isRefused (e, r) = false := by
    rw [Executor.Turn.isRefused, none]
    rfl
  have more : outcomes (turns ++ [(e, r)]) = outcomes turns := by
    rw [outcomes_snoc, none]
    exact List.append_nil _
  have stats : after.stats = e.stats := congrArg Books.stats same
  refine ⟨?_, ?_, ?_⟩
  · rw [more, same]
    exact kept.toFollow.closed closed
  · rw [more, countP_snoc, taken, stats]
    exact kept.executions
  · intro t member refused
    rcases List.mem_append.mp member with old | new
    · exact kept.refused t old refused
    · cases List.mem_singleton.mp new
      rw [taken] at refused
      cases refused

theorem executed (kept : BooksKept turns e) (p : CallParams) (given : Option Contract)
    (s : Surroundings) :
    BooksKept (turns ++ [(e, .execute p given s)]) (e.serve p given s).1 := by
  have books := e.serve_books p given s
  have done : Executor.Turn.outcome? (e, .execute p given s) = some (e.serve p given s).2 := rfl
  have refused : Executor.Turn.isRefused (e, .execute p given s) = e.closed := by
    rw [Executor.Turn.isRefused, done]
    rfl
  have more : outcomes (turns ++ [(e, .execute p given s)]) =
      outcomes turns ++ [(e.serve p given s).2] := by
    rw [outcomes_snoc, done]
    rfl
  refine ⟨?_, ?_, ?_⟩
  · rw [more, books]
    exact kept.toFollow.begin.enter _
  · have counted : (e.serve p given s).1.stats.executions + e.closed.toNat =
        e.stats.executions + 1 := by
      change (e.serve p given s).1.books.stats.executions + e.closed.toNat = _
      rw [books, Books.enter_executions]
      exact e.books.begin_executions
    have before := kept.executions
    rw [more, countP_snoc, refused, List.length_append, List.length_singleton]
    omega
  · intro t member closed
    rcases List.mem_append.mp member with old | new
    · exact kept.refused t old closed
    · cases List.mem_singleton.mp new
      rw [refused] at closed
      rw [done, e.serve_closed closed]

theorem answer (kept : BooksKept turns e) (r : Request) :
    BooksKept (turns ++ [(e, r)]) (e.answer r).1 := by
  cases r with
  | execute p given s => exact kept.executed p given s
  | evictModule hash => exact kept.silent rfl e.closed rfl
  | reopen => exact kept.silent rfl false rfl
  | close => exact kept.silent rfl true e.close_books

end BooksKept

theorem books_kept (guard : Guard) (vm : Vm) (pool : Pool) (marshal : MarshalSettings)
    (requests : List Request) :
    let e : Executor := { guard := guard, vm := vm, pool := pool, marshal := marshal }
    BooksKept (journal Executor.answer e requests) (answering Executor.answer e requests).1 := by
  intro e
  have fresh : BooksKept [] e :=
    ⟨⟨rfl, rfl, rfl, rfl, rfl, rfl, fun _ => rfl, fun _ => rfl, rfl, rfl, rfl⟩, rfl,
      fun t member => by cases member⟩
  exact journal_invariant (fun turns e r _ kept => kept.answer r) fresh

end Tollgate
