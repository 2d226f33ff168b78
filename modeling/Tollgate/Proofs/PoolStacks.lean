import Mathlib.Algebra.BigOperators.Finprod
import Tollgate.Proofs.Answering
import Tollgate.Proofs.PoolContents

namespace Tollgate

inductive PoolRequest
  | put (i : Instance)
  | get (moduleId : String) (pages : Nat)
  | evict (moduleId : String)
  | cleanup
  | close
  | reopen

inductive PoolReply
  | kept (accepted : Bool)
  | taken (item : Option Instance)
  | done

def Pool.answer (p : Pool) : Nat × PoolRequest → Pool × PoolReply
  | (now, .put i) => ((p.put i now).1, .kept (p.put i now).2)
  | (_, .get moduleId pages) => ((p.get moduleId pages).1, .taken (p.get moduleId pages).2)
  | (_, .evict moduleId) => ((p.evict moduleId).1, .done)
  | (now, .cleanup) => ((p.cleanup now).1, .done)
  | (_, .close) => (p.close, .done)
  | (_, .reopen) => (p.reopen, .done)

-- One stack for each contract and ceiling, the top first.
structure Stacks where
  stack : String → Nat → List PoolEntry := fun _ _ => []
  closed : Bool := false

namespace Stacks

noncomputable def idle (f : Stacks) (moduleId : String) : Nat :=
  ∑ᶠ pages, (f.stack moduleId pages).length

def set (f : Stacks) (moduleId : String) (pages : Nat) (entries : List PoolEntry) : Stacks :=
  { f with stack := fun other ceiling =>
    if other = moduleId ∧ ceiling = pages then entries else f.stack other ceiling }

-- How a family of stacks answers: `put` pushes if there is room, `get` pops, `evict` clears the
-- stacks of a contract, `cleanup` drops what has been idle for too long, `close` clears them all.
noncomputable def answer (settings : PoolSettings) (f : Stacks) :
    Nat × PoolRequest → Stacks × PoolReply
  | (now, .put i) =>
    if i.isClosed = false ∧ f.closed = false ∧ f.idle i.moduleId < settings.maxPerModule then
      (f.set i.moduleId i.memoryLimitPages
        (⟨i, now⟩ :: f.stack i.moduleId i.memoryLimitPages), .kept true)
    else (f, .kept false)
  | (_, .get moduleId pages) =>
    if f.closed then (f, .taken none)
    else match f.stack moduleId pages with
      | [] => (f, .taken none)
      | top :: below => (f.set moduleId pages below, .taken (some top.item))
  | (_, .evict moduleId) =>
    ({ f with stack := fun other ceiling =>
      if other = moduleId then [] else f.stack other ceiling }, .done)
  | (now, .cleanup) =>
    ({ f with stack := fun moduleId ceiling => (f.stack moduleId ceiling).filter fun x =>
      now - x.returnedAt < settings.maxIdle * nanosPerMilli }, .done)
  | (_, .close) => ({ closed := true }, .done)
  | (_, .reopen) => ({ f with closed := false }, .done)

end Stacks

-- The entries of a list under a ceiling, the last one first.
def column (pages : Nat) (entries : List PoolEntry) : List PoolEntry :=
  (entries.filter fun x => x.item.memoryLimitPages = pages).reverse

def Pool.stack (p : Pool) (moduleId : String) (pages : Nat) : List PoolEntry :=
  column pages (p.entries moduleId)

@[simp] theorem column_nil (pages : Nat) : column pages [] = [] := rfl

theorem column_push (pages : Nat) (entries : List PoolEntry) (x : PoolEntry) :
    column pages (entries ++ [x]) =
      if pages = x.item.memoryLimitPages then x :: column pages entries
      else column pages entries := by
  unfold column
  by_cases same : pages = x.item.memoryLimitPages
  · simp [List.filter_append, same]
  · have apart : x.item.memoryLimitPages ≠ pages := Ne.symm same
    simp [List.filter_append, same, apart]

theorem column_filter (pages : Nat) (entries : List PoolEntry) (keep : PoolEntry → Bool) :
    column pages (entries.filter keep) = (column pages entries).filter keep := by
  unfold column
  rw [List.filter_reverse, List.filter_filter, List.filter_filter]
  congr 2
  funext x
  exact Bool.and_comm _ _

theorem column_pop {pages : Nat} {below above : List PoolEntry} {x : PoolEntry}
    (ceiling : x.item.memoryLimitPages = pages)
    (clear : ∀ y ∈ above, y.item.memoryLimitPages ≠ pages) (other : Nat) :
    column other (below ++ x :: above) =
      if other = pages then x :: column other (below ++ above)
      else column other (below ++ above) := by
  unfold column
  split
  · rename_i same
    subst same
    have none : (above.filter fun y => decide (y.item.memoryLimitPages = other)) = [] := by
      refine List.filter_eq_nil_iff.mpr ?_
      intro y member
      simpa using clear y member
    simp [List.filter_append, none, ceiling]
  · rename_i apart
    have skipped : x.item.memoryLimitPages ≠ other := fun same => apart (same.symm.trans ceiling)
    simp [List.filter_append, skipped]

theorem finsum_column (entries : List PoolEntry) :
    ∑ᶠ pages, (column pages entries).length = entries.length := by
  have finite : ∀ entries : List PoolEntry,
      (Function.support fun pages => (column pages entries).length).Finite := by
    intro entries
    refine (entries.map fun x => x.item.memoryLimitPages).finite_toSet.subset ?_
    intro pages occupied
    obtain ⟨x, member⟩ := List.exists_mem_of_length_pos (Nat.pos_of_ne_zero occupied)
    have listed := List.mem_filter.mp (List.mem_reverse.mp member)
    exact List.mem_map.mpr ⟨x, listed.1, by simpa using listed.2⟩
  -- One more entry makes the column of its own ceiling longer by one, and no other column.
  induction entries using List.reverseRecOn with
  | nil => simp
  | append_singleton entries x ih =>
    have pushed : ∀ pages, (column pages (entries ++ [x])).length =
        (if pages = x.item.memoryLimitPages then 1 else 0) + (column pages entries).length := by
      intro pages
      rw [column_push]
      split
      · rw [List.length_cons, Nat.add_comm]
      · rw [Nat.zero_add]
    have one : ∑ᶠ pages, (if pages = x.item.memoryLimitPages then 1 else 0) = 1 := by
      rw [finsum_eq_single _ x.item.memoryLimitPages (fun other apart => if_neg apart), if_pos rfl]
    have single : (Function.support fun pages =>
        if pages = x.item.memoryLimitPages then 1 else 0).Finite := by
      refine (Set.finite_singleton x.item.memoryLimitPages).subset ?_
      intro pages occupied
      by_contra apart
      exact occupied (if_neg apart)
    simp only [pushed]
    rw [finsum_add_distrib single (finite entries), one, ih, List.length_append,
      List.length_singleton, Nat.add_comm]

namespace Pool

variable {p : Pool} {f : Stacks} {settings : PoolSettings}

theorem stack_setEntries (p : Pool) (moduleId other : String) (entries : List PoolEntry)
    (pages : Nat) :
    (p.setEntries moduleId entries).stack other pages =
      if other = moduleId then column pages entries else p.stack other pages := by
  unfold stack
  rw [entries_setEntries]
  split <;> rfl

theorem Taking.stack {moduleId : String} {pages : Nat} {result : Pool × Option Instance}
    (taking : Taking p moduleId pages result)
    (emptied : p.closed = true → ∀ moduleId, p.entries moduleId = []) :
    result.2 = (p.stack moduleId pages).head?.map PoolEntry.item ∧
      ∀ other ceiling, result.1.stack other ceiling =
        if other = moduleId ∧ ceiling = pages then (p.stack moduleId pages).tail
        else p.stack other ceiling := by
  cases taking with
  | missed clear =>
    -- A closed pool has no entries at all; an open one has none under this ceiling.
    have none : p.stack moduleId pages = [] := by
      cases closed : p.closed with
      | true => simp [Pool.stack, emptied closed]
      | false =>
        refine List.reverse_eq_nil_iff.mpr (List.filter_eq_nil_iff.mpr ?_)
        intro x member
        simpa using clear closed x member
    refine ⟨by rw [none]; rfl, ?_⟩
    intro other ceiling
    split
    · rename_i same
      obtain ⟨rfl, rfl⟩ := same
      rw [none]
      exact none
    · rfl
  | @found below above x counts opened split ceiling clear =>
    have popped : ∀ other, column other (p.entries moduleId) =
        if other = pages then x :: column other (below ++ above)
        else column other (below ++ above) := by
      intro other
      rw [split]
      exact column_pop ceiling clear other
    refine ⟨?_, ?_⟩
    · rw [Pool.stack, popped, if_pos rfl]
      rfl
    · intro other pages'
      change (p.setEntries moduleId (below ++ above)).stack other pages' = _
      rw [stack_setEntries]
      by_cases same : other = moduleId
      · subst same
        by_cases level : pages' = pages
        · subst level
          simp [Pool.stack, popped]
        · simp [Pool.stack, popped, level]
      · simp [same]

-- A pool that holds the stacks of a family.
structure Refines (settings : PoolSettings) (p : Pool) (f : Stacks) : Prop where
  tidy : p.Tidy
  settings : p.settings = settings
  closed : p.closed = f.closed
  agree : ∀ moduleId pages, p.stack moduleId pages = f.stack moduleId pages
  emptied : p.closed = true → ∀ moduleId, p.entries moduleId = []

namespace Refines

theorem initial (settings : PoolSettings) : Refines settings { settings := settings } {} :=
  ⟨tidy_new settings, rfl, rfl, fun _ _ => rfl, fun closed => by cases closed⟩

theorem idle (refines : Refines settings p f) (moduleId : String) :
    f.idle moduleId = p.idleCount moduleId := by
  unfold Stacks.idle
  simp only [← refines.agree]
  exact finsum_column (p.entries moduleId)

theorem admits_iff (refines : Refines settings p f) (i : Instance) :
    p.Admits i ↔
      i.isClosed = false ∧ f.closed = false ∧ f.idle i.moduleId < settings.maxPerModule := by
  rw [refines.idle, ← refines.closed, ← refines.settings]
  exact ⟨fun admits => ⟨admits.1, admits.2, admits.3⟩, fun h => ⟨h.1, h.2.1, h.2.2⟩⟩

theorem put (refines : Refines settings p f) (i : Instance) (now : Nat) :
    Refines settings (p.answer (now, .put i)).1 (f.answer settings (now, .put i)).1 ∧
      (p.answer (now, .put i)).2 = (f.answer settings (now, .put i)).2 := by
  have putting := p.put_putting i now
  have tidy := refines.tidy.put i now
  unfold answer Stacks.answer
  dsimp only
  generalize p.put i now = result at putting tidy
  cases putting with
  | refused refusal =>
    rw [if_neg (fun h => refusal ((refines.admits_iff i).mpr h))]
    exact ⟨⟨tidy, refines.settings, refines.closed, refines.agree, refines.emptied⟩, rfl⟩
  | kept admits =>
    rw [if_pos ((refines.admits_iff i).mp admits)]
    refine ⟨⟨tidy, refines.settings, refines.closed, ?_, ?_⟩, rfl⟩
    · intro other ceiling
      change (p.setEntries _ _).stack other ceiling = _
      rw [stack_setEntries, column_push]
      have same := refines.agree
      unfold Pool.stack at same
      by_cases here : other = i.moduleId
      · subst here
        by_cases level : ceiling = i.memoryLimitPages <;> simp [Stacks.set, level, same]
      · simp [Stacks.set, here, Pool.stack, same]
    · intro closed
      have shut : p.closed = true := closed
      rw [admits.pool_open] at shut
      cases shut

theorem get (refines : Refines settings p f) (now : Nat) (moduleId : String) (pages : Nat) :
    Refines settings (p.answer (now, .get moduleId pages)).1
        (f.answer settings (now, .get moduleId pages)).1 ∧
      (p.answer (now, .get moduleId pages)).2 =
        (f.answer settings (now, .get moduleId pages)).2 := by
  have taking := p.get_taking moduleId pages
  obtain ⟨taken, left⟩ := taking.stack refines.emptied
  simp only [refines.agree] at taken left
  have emptied : (p.get moduleId pages).1.closed = true →
      ∀ other, (p.get moduleId pages).1.entries other = [] := by
    intro closed other
    have none := refines.emptied (taking.fixed.2.symm.trans closed) other
    exact List.sublist_nil.mp (none ▸ taking.sublist other)
  have tidy := refines.tidy.get moduleId pages
  have same := taking.fixed.1.trans refines.settings
  have shut := taking.fixed.2.trans refines.closed
  unfold answer Stacks.answer
  dsimp only
  cases top : f.stack moduleId pages with
  | nil =>
    rw [top] at taken left
    have unchanged : (if f.closed = true then (f, PoolReply.taken none)
        else (f, PoolReply.taken none)) = (f, .taken none) := by split <;> rfl
    dsimp only
    rw [unchanged, taken]
    refine ⟨⟨tidy, same, shut, ?_, emptied⟩, rfl⟩
    intro other ceiling
    rw [left]
    split
    · rename_i here
      rw [here.1, here.2, top]
      rfl
    · rfl
  | cons x below =>
    rw [top] at taken left
    -- All stacks of a closed pool are empty, and this one is not.
    have opened : f.closed = false := by
      cases closed : f.closed with
      | false => rfl
      | true =>
        have none := refines.emptied (refines.closed.trans closed) moduleId
        rw [← refines.agree, Pool.stack, none] at top
        cases top
    rw [opened]
    dsimp only
    rw [taken]
    exact ⟨⟨tidy, same, shut, left, emptied⟩, rfl⟩

theorem evict (refines : Refines settings p f) (now : Nat) (moduleId : String) :
    Refines settings (p.answer (now, .evict moduleId)).1
      (f.answer settings (now, .evict moduleId)).1 := by
  refine ⟨refines.tidy.evict moduleId, refines.settings, refines.closed, ?_, ?_⟩
  · intro other ceiling
    change column ceiling ((p.evict moduleId).1.entries other) = _
    rw [entries_evict]
    dsimp only [Stacks.answer]
    split
    · rfl
    · exact refines.agree other ceiling
  · intro closed other
    change (p.evict moduleId).1.entries other = []
    rw [entries_evict, refines.emptied closed, ite_self]

theorem cleanup (refines : Refines settings p f) (now : Nat) :
    Refines settings (p.answer (now, .cleanup)).1 (f.answer settings (now, .cleanup)).1 := by
  have left := entries_cleanup refines.tidy.ordered now
  refine ⟨refines.tidy.cleanup now, refines.settings, refines.closed, ?_, ?_⟩
  · intro other ceiling
    change column ceiling ((p.cleanup now).1.entries other) = _
    rw [left, column_filter]
    dsimp only [Stacks.answer]
    rw [← refines.agree, ← refines.settings]
    refine List.filter_congr ?_
    intro x _
    rw [Bool.eq_iff_iff]
    simp [isExpired]
  · intro closed other
    change (p.cleanup now).1.entries other = []
    rw [left, refines.emptied closed]
    rfl

theorem close (refines : Refines settings p f) (now : Nat) :
    Refines settings (p.answer (now, .close)).1 (f.answer settings (now, .close)).1 := by
  have none : ∀ moduleId, p.close.entries moduleId = [] := by
    intro moduleId
    rw [entries_close]
    split
    · rename_i closed
      exact refines.emptied closed moduleId
    · rfl
  have fixed : p.close.settings = p.settings ∧ p.close.closed = true := by
    unfold Pool.close
    split
    · rename_i closed
      exact ⟨rfl, closed⟩
    · exact ⟨rfl, rfl⟩
  refine ⟨refines.tidy.close, fixed.1.trans refines.settings, fixed.2, ?_, fun _ => none⟩
  intro other ceiling
  change column ceiling (p.close.entries other) = _
  rw [none]
  rfl

theorem answer (refines : Refines settings p f) (r : Nat × PoolRequest) :
    Refines settings (p.answer r).1 (f.answer settings r).1 ∧
      (p.answer r).2 = (f.answer settings r).2 := by
  obtain ⟨now, request⟩ := r
  cases request with
  | put i => exact refines.put i now
  | get moduleId pages => exact refines.get now moduleId pages
  | evict moduleId => exact ⟨refines.evict now moduleId, rfl⟩
  | cleanup => exact ⟨refines.cleanup now, rfl⟩
  | close => exact ⟨refines.close now, rfl⟩
  | reopen =>
    exact ⟨⟨refines.tidy.reopen, refines.settings, rfl, refines.agree,
      fun closed => by cases closed⟩, rfl⟩

end Refines

-- The entries of each contract in the order of their return, none of them from the future.
structure Timed (p : Pool) (now : Nat) : Prop where
  rising : ∀ moduleId, (p.entries moduleId).Pairwise fun a b => a.returnedAt ≤ b.returnedAt
  past : ∀ moduleId, ∀ x ∈ p.entries moduleId, x.returnedAt ≤ now

namespace Timed

variable {now : Nat}

theorem sublist {next : Pool} (timed : p.Timed now)
    (less : ∀ moduleId, (next.entries moduleId).Sublist (p.entries moduleId)) : next.Timed now :=
  ⟨fun moduleId => (timed.rising moduleId).sublist (less moduleId),
    fun moduleId x member => timed.past moduleId x ((less moduleId).subset member)⟩

theorem later {moment : Nat} (timed : p.Timed now) (after : now ≤ moment) : p.Timed moment :=
  ⟨timed.rising, fun moduleId x member => Nat.le_trans (timed.past moduleId x member) after⟩

theorem put (timed : p.Timed now) (i : Instance) : (p.put i now).1.Timed now := by
  have putting := p.put_putting i now
  generalize p.put i now = result at putting
  cases putting with
  | refused => exact ⟨timed.rising, timed.past⟩
  | kept admits =>
    constructor
    · intro other
      rw [entries_counts, entries_setEntries]
      split
      · refine List.pairwise_append.mpr ⟨timed.rising _, List.pairwise_singleton _ _, ?_⟩
        intro x old y new
        cases List.mem_singleton.mp new
        exact timed.past _ x old
      · exact timed.rising other
    · intro other x member
      rw [entries_counts, entries_setEntries] at member
      split at member
      · rcases List.mem_append.mp member with old | new
        · exact timed.past _ x old
        · cases List.mem_singleton.mp new
          exact Nat.le_refl now
      · exact timed.past other x member

theorem answer (timed : p.Timed now) (tidy : p.Tidy) (request : PoolRequest) :
    (p.answer (now, request)).1.Timed now := by
  cases request with
  | put i => exact timed.put i
  | get moduleId pages => exact timed.sublist (p.get_taking moduleId pages).sublist
  | evict moduleId =>
    refine timed.sublist fun other => ?_
    change ((p.evict moduleId).1.entries other).Sublist _
    rw [entries_evict]
    split
    · exact List.nil_sublist _
    · exact .refl _
  | cleanup =>
    refine timed.sublist fun other => ?_
    change ((p.cleanup now).1.entries other).Sublist _
    rw [entries_cleanup tidy.ordered]
    exact List.filter_sublist
  | close =>
    refine timed.sublist fun other => ?_
    change (p.close.entries other).Sublist _
    rw [entries_close]
    split
    · exact .refl _
    · exact List.nil_sublist _
  | reopen => exact ⟨timed.rising, timed.past⟩

theorem answering {requests : List (Nat × PoolRequest)} {last : Nat} (timed : p.Timed now)
    (refines : Refines settings p f)
    (clock : (now :: (requests.map Prod.fst ++ [last])).Pairwise (· ≤ ·)) :
    (answering Pool.answer p requests).1.Timed last := by
  induction requests generalizing p f now with
  | nil =>
    obtain ⟨after, _⟩ := List.pairwise_cons.mp clock
    exact timed.later (after last List.mem_cons_self)
  | cons r rest ih =>
    obtain ⟨moment, request⟩ := r
    obtain ⟨after, rising⟩ := List.pairwise_cons.mp clock
    have begun := timed.later (after moment List.mem_cons_self)
    exact ih (begun.answer refines.tidy request) (refines.answer (moment, request)).1 rising

end Timed

-- In the order of their return, the entries that have been idle for too long come first.
theorem expired_first {entries : List PoolEntry}
    (rising : entries.Pairwise fun a b => a.returnedAt ≤ b.returnedAt) (bound now : Nat) :
    (entries.filter fun x => decide (bound ≤ now - x.returnedAt)) ++
      (entries.filter fun x => !decide (bound ≤ now - x.returnedAt)) = entries := by
  induction entries with
  | nil => rfl
  | cons head rest ih =>
    obtain ⟨after, tail⟩ := List.pairwise_cons.mp rising
    by_cases old : bound ≤ now - head.returnedAt
    · simpa [old] using ih tail
    · have young : ∀ x ∈ rest, ¬ bound ≤ now - x.returnedAt := by
        intro x member
        have later := after x member
        omega
      have none : (rest.filter fun x => decide (bound ≤ now - x.returnedAt)) = [] :=
        List.filter_eq_nil_iff.mpr (by simpa using young)
      have all : (rest.filter fun x => !decide (bound ≤ now - x.returnedAt)) = rest :=
        List.filter_eq_self.mpr (by simpa using young)
      simp [old, none, all]

end Pool

-- A pool and a family of stacks that have answered the same requests, the clock now standing at
-- `now`.
structure Stacked (settings : PoolSettings) (now : Nat) (real : Pool × List PoolReply)
    (ideal : Stacks × List PoolReply) : Prop where
  replies : real.2 = ideal.2
  closed : real.1.closed = ideal.1.closed
  agree : ∀ moduleId pages, real.1.stack moduleId pages = ideal.1.stack moduleId pages
  -- The next instance that is taken is the top of its stack. A closed pool has none.
  taken : ∀ moduleId pages, (real.1.get moduleId pages).2 =
    if real.1.closed then none else (real.1.stack moduleId pages).head?.map PoolEntry.item
  left : ∀ moduleId pages other ceiling, (real.1.get moduleId pages).1.stack other ceiling =
    if other = moduleId ∧ ceiling = pages then (real.1.stack moduleId pages).tail
    else real.1.stack other ceiling
  -- All ceilings of a contract share its room.
  kept : ∀ i, (real.1.put i now).2 = true ↔ i.isClosed = false ∧ real.1.closed = false ∧
    ∑ᶠ pages, (real.1.stack i.moduleId pages).length < settings.maxPerModule
  -- What is cleaned up stands before what is left.
  past : ∀ moduleId, ∀ x ∈ real.1.entries moduleId, x.returnedAt ≤ now
  cleaned : ∀ moduleId, ∃ old young, real.1.entries moduleId = old ++ young ∧
    (real.1.cleanup now).1.entries moduleId = young ∧
    (∀ x ∈ old, settings.maxIdle * nanosPerMilli ≤ now - x.returnedAt) ∧
    ∀ x ∈ young, now - x.returnedAt < settings.maxIdle * nanosPerMilli

namespace Pool

variable {p : Pool} {f : Stacks} {settings : PoolSettings} {now : Nat}

theorem Refines.taken (refines : Refines settings p f) (moduleId : String) (pages : Nat) :
    (p.get moduleId pages).2 =
      if p.closed then none else (p.stack moduleId pages).head?.map PoolEntry.item := by
  rw [((p.get_taking moduleId pages).stack refines.emptied).1]
  split
  · rename_i closed
    rw [Pool.stack, refines.emptied closed]
    rfl
  · rfl

theorem Refines.kept (refines : Refines settings p f) (i : Instance) (now : Nat) :
    (p.put i now).2 = true ↔ i.isClosed = false ∧ p.closed = false ∧
      ∑ᶠ pages, (p.stack i.moduleId pages).length < settings.maxPerModule := by
  have admitted : p.Admits i ↔ i.isClosed = false ∧ p.closed = false ∧
      ∑ᶠ pages, (p.stack i.moduleId pages).length < settings.maxPerModule := by
    simp only [refines.agree, refines.closed]
    exact refines.admits_iff i
  exact (p.put_kept_iff i now).trans admitted

theorem Refines.cleaned (refines : Refines settings p f) (timed : p.Timed now)
    (moduleId : String) : ∃ old young, p.entries moduleId = old ++ young ∧
      (p.cleanup now).1.entries moduleId = young ∧
      (∀ x ∈ old, settings.maxIdle * nanosPerMilli ≤ now - x.returnedAt) ∧
      ∀ x ∈ young, now - x.returnedAt < settings.maxIdle * nanosPerMilli := by
  refine ⟨_, _, (expired_first (timed.rising moduleId) (settings.maxIdle * nanosPerMilli)
    now).symm, ?_, ?_, ?_⟩
  · rw [entries_cleanup refines.tidy.ordered, ← refines.settings]
    rfl
  · intro x member
    simpa using (List.mem_filter.mp member).2
  · intro x member
    simpa using (List.mem_filter.mp member).2

end Pool

theorem pool_stacks (settings : PoolSettings) {requests : List (Nat × PoolRequest)} {now : Nat}
    (clock : (requests.map Prod.fst ++ [now]).Pairwise (· ≤ ·)) :
    Stacked settings now (answering Pool.answer { settings := settings } requests)
      (answering (Stacks.answer settings) {} requests) := by
  have start := Pool.Refines.initial settings
  obtain ⟨refines, replies⟩ := answering_refines (R := Pool.Refines settings)
    (fun _ _ r refines => refines.answer r) requests start
  have initial : ({ settings := settings } : Pool).Timed 0 :=
    ⟨fun _ => List.Pairwise.nil, fun _ _ member => by cases member⟩
  have timed := initial.answering start
    (List.pairwise_cons.mpr ⟨fun moment _ => Nat.zero_le moment, clock⟩)
  exact {
    replies := replies
    closed := refines.closed
    agree := refines.agree
    taken := refines.taken
    left := fun moduleId pages => ((Pool.get_taking _ moduleId pages).stack refines.emptied).2
    kept := fun i => refines.kept i now
    past := timed.past
    cleaned := refines.cleaned timed }

def Instance.plain (id : String) (pages : Nat) : Instance where
  id := id
  contract := ⟨"plain", 0, {}⟩
  live := some {
    functions := #[]
    tables := []
    globals := #[]
    memories := []
    meter := { hostCallFee := 0 } }
  memoryLimitPages := pages

def PoolReply.shown : PoolReply → String
  | .kept accepted => toString accepted
  | .taken item => (item.map Instance.id).getD "none"
  | .done => "done"

-- Two ceilings share the room for three, and what is taken under one leaves the other.
def mixedRequests : List (Nat × PoolRequest) :=
  [(0, .put (.plain "a" 1)), (1, .put (.plain "b" 2)), (1, .put (.plain "c" 1)),
    (2, .put (.plain "d" 2)), (2, .get "plain" 1), (3, .put (.plain "e" 2)), (4, .get "plain" 2)]

theorem pool_stacks_mixed :
    (mixedRequests.map Prod.fst ++ [1000000]).Pairwise (· ≤ ·) ∧
      (answering Pool.answer { settings := ⟨3, 1, 0⟩ } mixedRequests).2.map PoolReply.shown =
        ["true", "true", "true", "false", "c", "true", "e"] ∧
      ((answering Pool.answer { settings := ⟨3, 1, 0⟩ } mixedRequests).1.cleanup 1000000).1.ids =
        ["b"] ∧
      Stacked ⟨3, 1, 0⟩ 1000000 (answering Pool.answer { settings := ⟨3, 1, 0⟩ } mixedRequests)
        (answering (Stacks.answer ⟨3, 1, 0⟩) {} mixedRequests) :=
  ⟨by decide, by decide +kernel, by decide +kernel, pool_stacks ⟨3, 1, 0⟩ (by decide)⟩

end Tollgate
