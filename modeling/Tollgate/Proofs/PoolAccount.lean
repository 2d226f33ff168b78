import Tollgate.Proofs.PoolStacks

namespace Tollgate

namespace Pool

variable {p : Pool} {settings : PoolSettings}

abbrev Turn := Pool × Nat × PoolRequest

@[simp] def Turn.isPut : Turn → Bool
  | (_, _, .put _) => true
  | _ => false

@[simp] def Turn.isOpenGet : Turn → Bool
  | (p, _, .get _ _) => !p.closed
  | _ => false

@[simp] def Turn.isKept : Turn → Bool
  | (p, now, .put i) => (p.put i now).2
  | _ => false

@[simp] def Turn.isTaken : Turn → Bool
  | (p, _, .get moduleId pages) => (p.get moduleId pages).2.isSome
  | _ => false

@[simp] def Turn.evicted : Turn → Nat
  | (p, _, .evict moduleId) => (p.evict moduleId).2
  | _ => 0

@[simp] def Turn.expired : Turn → Nat
  | (p, now, .cleanup) => (p.cleanup now).2
  | _ => 0

-- Closing answers nothing: what it destroys is what the pool held and holds no longer.
@[simp] def Turn.closedAway : Turn → Nat
  | (p, _, .close) => p.resident - p.close.resident
  | _ => 0

theorem resident_eq (p : Pool) : p.resident = p.ids.length := by
  unfold resident ids residents
  rw [List.length_map]
  induction p.idle.values with
  | nil => rfl
  | cons entries rest ih =>
    rw [List.map_cons, sumOf_cons, ih, List.flatten_cons, List.length_append]

theorem resident_get (ordered : p.idle.Ordered) (moduleId : String) (pages : Nat) :
    p.resident = (p.get moduleId pages).2.toList.length + (p.get moduleId pages).1.resident := by
  have left := ((p.get_taking moduleId pages).ids ordered).length_eq
  rw [resident_eq, resident_eq, left, List.length_append]
  cases (p.get moduleId pages).2 <;> rfl

theorem resident_put (ordered : p.idle.Ordered) (i : Instance) (now : Nat) :
    (p.put i now).1.resident = (p.put i now).2.toNat + p.resident := by
  have gained := ((p.put_putting i now).ids ordered).length_eq
  rw [resident_eq, resident_eq, gained, List.length_append]
  cases (p.put i now).2 <;> rfl

theorem resident_evict (ordered : p.idle.Ordered) (moduleId : String) :
    p.resident = (p.evict moduleId).2 + (p.evict moduleId).1.resident := by
  have split := (ids_split ordered moduleId).length_eq
  rw [resident_eq, resident_eq, split, List.length_append, List.length_map]
  rfl

-- Cleaning up filters all the entries of the pool; that rows without entries go does not matter.
theorem residents_cleanup (p : Pool) (now : Nat) :
    (p.cleanup now).1.residents = p.residents.filter fun x => !p.isExpired now x := by
  unfold residents Table.values
  rw [cleanup_idle]
  change ((((p.idle.entries.map fun row => (row.1, row.2.filter fun x => !p.isExpired now x)).filter
    fun row => !row.2.isEmpty).map Prod.snd).flatten) =
      (p.idle.entries.map Prod.snd).flatten.filter fun x => !p.isExpired now x
  generalize (fun x => !p.isExpired now x) = keep
  induction p.idle.entries with
  | nil => rfl
  | cons row rest ih =>
    simp only [List.map_cons, List.flatten_cons, List.filter_append, ← ih]
    by_cases none : row.2.filter keep = []
    · simp [none]
    · simp [none]

theorem count_cleanup (p : Pool) (now : Nat) :
    (p.cleanup now).2 = p.residents.countP (p.isExpired now) := by
  unfold cleanup residents Table.map Table.values
  dsimp only
  rw [List.map_map]
  generalize p.isExpired now = expired
  induction p.idle.entries with
  | nil => rfl
  | cons row rest ih =>
    rw [List.map_cons, List.flatMap_cons, List.length_append, ih, List.map_cons,
      List.flatten_cons, List.countP_append, List.countP_eq_length_filter (p := expired) (l := row.2)]
    simp only [Function.comp_apply, List.partition_eq_filter_filter]

theorem resident_cleanup (p : Pool) (now : Nat) :
    p.resident = (p.cleanup now).2 + (p.cleanup now).1.resident := by
  rw [resident_eq, resident_eq, ids, ids, List.length_map, List.length_map, residents_cleanup,
    count_cleanup, ← List.countP_eq_length_filter,
    List.length_eq_countP_add_countP (p.isExpired now)]
  simp only [Bool.not_eq_true, Bool.decide_eq_false]

theorem resident_close (p : Pool) : p.close.resident = if p.closed then p.resident else 0 := by
  unfold close
  split <;> rfl

-- What a request does to the counters and to the number of idle instances.
structure Booked (t : Turn) (after : Pool) : Prop where
  conserved : after.counts.puts + t.1.counts.hits + t.1.counts.evicted + t.1.counts.expired +
      t.1.resident =
    t.1.counts.puts + after.counts.hits + after.counts.evicted + after.counts.expired +
      after.resident
  puts : after.counts.puts = t.1.counts.puts + t.isKept.toNat
  hits : after.counts.hits = t.1.counts.hits + t.isTaken.toNat
  offered : after.counts.puts + after.counts.rejected =
    t.1.counts.puts + t.1.counts.rejected + t.isPut.toNat
  asked : after.counts.hits + after.counts.misses =
    t.1.counts.hits + t.1.counts.misses + t.isOpenGet.toNat
  evicted : after.counts.evicted = t.1.counts.evicted + t.evicted + t.closedAway
  expired : after.counts.expired = t.1.counts.expired + t.expired

theorem put_booked (ordered : p.idle.Ordered) (i : Instance) (now : Nat) :
    Booked (p, now, .put i) (p.put i now).1 := by
  have gained := resident_put ordered i now
  have counts : (p.put i now).1.counts = if (p.put i now).2 then
      { p.counts with puts := p.counts.puts + 1 }
      else { p.counts with rejected := p.counts.rejected + 1 } := by
    unfold put
    split <;> rfl
  cases kept : (p.put i now).2
  all_goals
    rw [kept] at gained counts
    constructor <;> simp [counts, gained, kept] <;> omega

theorem get_booked (ordered : p.idle.Ordered) (now : Nat) (moduleId : String) (pages : Nat) :
    Booked (p, now, .get moduleId pages) (p.get moduleId pages).1 := by
  have left := resident_get ordered moduleId pages
  have counts : (p.get moduleId pages).1.counts = if p.closed then p.counts
      else if (p.get moduleId pages).2.isSome then { p.counts with hits := p.counts.hits + 1 }
      else { p.counts with misses := p.counts.misses + 1 } := by
    unfold get
    split
    · rfl
    · split <;> rfl
  cases closed : p.closed with
  | true =>
    have same : p.get moduleId pages = (p, none) := by simp [get, closed]
    constructor <;> simp [same, closed]
  | false =>
    rw [closed, if_neg Bool.false_ne_true] at counts
    cases taken : (p.get moduleId pages).2
    all_goals
      rw [taken] at left counts
      constructor <;> simp [counts, left, closed, taken] <;> omega

theorem evict_booked (ordered : p.idle.Ordered) (now : Nat) (moduleId : String) :
    Booked (p, now, .evict moduleId) (p.evict moduleId).1 := by
  have split := resident_evict ordered moduleId
  have counts : (p.evict moduleId).1.counts =
      { p.counts with evicted := p.counts.evicted + (p.evict moduleId).2 } := rfl
  refine ⟨?_, rfl, rfl, rfl, rfl, rfl, rfl⟩
  simp only [counts]
  omega

theorem cleanup_booked (p : Pool) (now : Nat) : Booked (p, now, .cleanup) (p.cleanup now).1 := by
  have split := p.resident_cleanup now
  have counts : (p.cleanup now).1.counts =
      { p.counts with expired := p.counts.expired + (p.cleanup now).2 } := rfl
  refine ⟨?_, rfl, rfl, rfl, rfl, rfl, rfl⟩
  simp only [counts]
  omega

theorem close_booked (p : Pool) (now : Nat) : Booked (p, now, .close) p.close := by
  have left := p.resident_close
  have counts : p.close.counts = if p.closed then p.counts
      else { p.counts with evicted := p.counts.evicted + p.resident } := by
    unfold close
    split <;> rfl
  cases closed : p.closed
  all_goals
    rw [closed] at left counts
    constructor <;> simp [counts, left] <;> omega

theorem answer_booked (ordered : p.idle.Ordered) (r : Nat × PoolRequest) :
    Booked (p, r) (p.answer r).1 := by
  obtain ⟨now, request⟩ := r
  cases request with
  | put i => exact put_booked ordered i now
  | get moduleId pages => exact get_booked ordered now moduleId pages
  | evict moduleId => exact evict_booked ordered now moduleId
  | cleanup => exact p.cleanup_booked now
  | close => exact p.close_booked now
  | reopen => exact ⟨rfl, rfl, rfl, rfl, rfl, rfl, rfl⟩

structure Housed (settings : PoolSettings) (p : Pool) : Prop where
  tidy : p.Tidy
  fixed : p.settings = settings
  filled : ∀ row ∈ p.idle.entries, row.2 ≠ []
  room : ∀ moduleId, p.idleCount moduleId ≤ settings.maxPerModule
  opened : p.All fun i => i.isClosed = false
  emptied : p.closed = true → p.idle.entries = []

theorem filled_setEntries (filled : ∀ row ∈ p.idle.entries, row.2 ≠ []) (moduleId : String)
    (entries : List PoolEntry) : ∀ row ∈ (p.setEntries moduleId entries).idle.entries,
      row.2 ≠ [] := by
  intro row member
  unfold setEntries at member
  dsimp only at member
  split at member
  · exact filled row (Table.mem_erase member)
  · rename_i some
    rcases Table.mem_insert member with rfl | old
    · simpa using some
    · exact filled row old

theorem filled_cleanup (p : Pool) (now : Nat) :
    ∀ row ∈ (p.cleanup now).1.idle.entries, row.2 ≠ [] := by
  intro row member
  rw [cleanup_idle] at member
  have some := (List.mem_filter.mp member).2
  simpa using some

namespace Housed

theorem initial (settings : PoolSettings) : Housed settings { settings := settings } where
  tidy := tidy_new settings
  fixed := rfl
  filled := fun _ member => by cases member
  room := fun _ => Nat.zero_le _
  opened := fun _ member => by cases member
  emptied := fun _ => rfl

theorem fewer {next : Pool} (housed : Housed settings p) (tidy : next.Tidy)
    (same : next.settings = p.settings) (filled : ∀ row ∈ next.idle.entries, row.2 ≠ [])
    (less : ∀ moduleId, (next.entries moduleId).Sublist (p.entries moduleId))
    (opened : next.All fun i => i.isClosed = false)
    (emptied : next.closed = true → next.idle.entries = []) : Housed settings next where
  tidy := tidy
  fixed := same.trans housed.fixed
  filled := filled
  room := fun moduleId => Nat.le_trans (less moduleId).length_le (housed.room moduleId)
  opened := opened
  emptied := emptied

theorem put (housed : Housed settings p) (i : Instance) (now : Nat) :
    Housed settings (p.put i now).1 := by
  have tidy := housed.tidy.put i now
  have putting := p.put_putting i now
  generalize p.put i now = result at tidy putting
  cases putting with
  | refused =>
    exact ⟨tidy, housed.fixed, housed.filled, housed.room, housed.opened, housed.emptied⟩
  | kept admits =>
    refine ⟨tidy, housed.fixed, filled_setEntries housed.filled _ _, ?_, ?_, ?_⟩
    · intro moduleId
      change (Pool.entries _ moduleId).length ≤ _
      rw [entries_counts, entries_setEntries]
      split
      · have room := admits.room
        rw [housed.fixed, Pool.idleCount] at room
        rw [List.length_append, List.length_singleton]
        exact room
      · exact housed.room moduleId
    · refine housed.opened.setEntries i.moduleId ?_
      intro x member
      rcases List.mem_append.mp member with old | new
      · exact housed.opened.entries i.moduleId x old
      · cases List.mem_singleton.mp new
        exact admits.instance_open
    · intro closed
      have opened := admits.pool_open
      rw [show p.closed = true from closed] at opened
      cases opened

theorem get (housed : Housed settings p) (moduleId : String) (pages : Nat) :
    Housed settings (p.get moduleId pages).1 := by
  have taking := p.get_taking moduleId pages
  refine housed.fewer (housed.tidy.get moduleId pages) taking.fixed.1 ?_ taking.sublist
    (housed.opened.get moduleId pages).1 ?_
  · generalize p.get moduleId pages = result at taking
    cases taking with
    | missed => exact housed.filled
    | found => exact filled_setEntries housed.filled _ _
  · intro closed
    have shut : p.closed = true := taking.fixed.2.symm.trans closed
    simp only [Pool.get, shut, if_true]
    exact housed.emptied shut

theorem evict (housed : Housed settings p) (moduleId : String) :
    Housed settings (p.evict moduleId).1 := by
  refine housed.fewer (housed.tidy.evict moduleId) rfl (filled_setEntries housed.filled _ _) ?_
    (housed.opened.evict moduleId) ?_
  · intro other
    rw [entries_evict]
    split
    · exact List.nil_sublist _
    · exact .refl _
  · intro closed
    change p.idle.entries.filter _ = []
    rw [housed.emptied closed]
    rfl

theorem cleanup (housed : Housed settings p) (now : Nat) :
    Housed settings (p.cleanup now).1 := by
  refine housed.fewer (housed.tidy.cleanup now) rfl (p.filled_cleanup now) ?_
    (housed.opened.cleanup now) ?_
  · intro moduleId
    rw [entries_cleanup housed.tidy.ordered]
    exact List.filter_sublist
  · intro closed
    exact cleanup_emptied (housed.emptied closed) now

theorem close (housed : Housed settings p) : Housed settings p.close := by
  cases closed : p.closed with
  | true =>
    have same : p.close = p := by simp [Pool.close, closed]
    rw [same]
    exact housed
  | false =>
    have shut : p.close.idle.entries = [] := by simp [Pool.close, closed, Table.empty]
    refine housed.fewer housed.tidy.close (by simp [Pool.close, closed]) ?_ ?_ housed.opened.close
      fun _ => shut
    · rw [shut]
      exact fun row member => by cases member
    · intro moduleId
      rw [entries_close, closed]
      exact List.nil_sublist _

theorem answer (housed : Housed settings p) (r : Nat × PoolRequest) :
    Housed settings (p.answer r).1 := by
  obtain ⟨now, request⟩ := r
  cases request with
  | put i => exact housed.put i now
  | get moduleId pages => exact housed.get moduleId pages
  | evict moduleId => exact housed.evict moduleId
  | cleanup => exact housed.cleanup now
  | close => exact housed.close
  | reopen =>
    exact ⟨housed.tidy.reopen, housed.fixed, housed.filled, housed.room, housed.opened,
      fun closed => by cases closed⟩

end Housed

structure Balanced (turns : List Turn) (p : Pool) : Prop where
  conserved : p.counts.puts = p.counts.hits + p.counts.evicted + p.counts.expired + p.resident
  puts : p.counts.puts = turns.countP Turn.isKept
  hits : p.counts.hits = turns.countP Turn.isTaken
  offered : p.counts.puts + p.counts.rejected = turns.countP Turn.isPut
  asked : p.counts.hits + p.counts.misses = turns.countP Turn.isOpenGet
  evicted : p.counts.evicted =
    sumOf (turns.map Turn.evicted) + sumOf (turns.map Turn.closedAway)
  expired : p.counts.expired = sumOf (turns.map Turn.expired)

theorem Balanced.booked {turns : List Turn} {t : Turn} {after : Pool}
    (balanced : Balanced turns t.1) (booked : Booked t after) :
    Balanced (turns ++ [t]) after := by
  obtain ⟨conserved, puts, hits, offered, asked, evicted, expired⟩ := balanced
  have moved := booked.conserved
  constructor
  · omega
  · rw [booked.puts, puts, countP_snoc]
  · rw [booked.hits, hits, countP_snoc]
  · rw [booked.offered, offered, countP_snoc]
  · rw [booked.asked, asked, countP_snoc]
  · have moved := booked.evicted
    rw [sumOf_snoc, sumOf_snoc]
    omega
  · have moved := booked.expired
    rw [sumOf_snoc]
    omega

end Pool

structure PoolAccount (settings : PoolSettings) (turns : List Pool.Turn) (p : Pool) : Prop
    extends Pool.Balanced turns p where
  fixed : p.settings = settings
  keys : p.idle.keys.Nodup
  filled : ∀ row ∈ p.idle.entries, row.2 ≠ []
  room : ∀ row ∈ p.idle.entries, row.2.length ≤ settings.maxPerModule
  own : ∀ row ∈ p.idle.entries, ∀ x ∈ row.2, x.item.isClosed = false ∧ x.item.moduleId = row.1
  emptied : p.closed = true → p.idle.entries = []

theorem Pool.Housed.account {settings : PoolSettings} {turns : List Pool.Turn} {p : Pool}
    (housed : Pool.Housed settings p) (balanced : Pool.Balanced turns p) :
    PoolAccount settings turns p := by
  have found : ∀ row ∈ p.idle.entries, p.entries row.1 = row.2 := by
    intro row member
    unfold Pool.entries
    rw [housed.tidy.ordered.get_row member]
    rfl
  refine ⟨balanced, housed.fixed, housed.tidy.ordered.keys_nodup, housed.filled, ?_, ?_,
    housed.emptied⟩
  · intro row member
    have room := housed.room row.1
    rwa [Pool.idleCount, found row member] at room
  · intro row member x listed
    refine ⟨housed.opened row member x listed, ?_⟩
    exact housed.tidy.keyed row.1 x (found row member ▸ listed)

theorem pool_accounted (settings : PoolSettings) (requests : List (Nat × PoolRequest)) :
    PoolAccount settings (journal Pool.answer { settings := settings } requests)
      (answering Pool.answer { settings := settings } requests).1 := by
  have kept : Pool.Housed settings (answering Pool.answer { settings := settings } requests).1 ∧
      Pool.Balanced (journal Pool.answer { settings := settings } requests)
        (answering Pool.answer { settings := settings } requests).1 := by
    refine journal_invariant
      (I := fun turns p => Pool.Housed settings p ∧ Pool.Balanced turns p) ?_
      ⟨.initial settings, ⟨rfl, rfl, rfl, rfl, rfl, rfl, rfl⟩⟩
    rintro earlier p r - ⟨housed, balanced⟩
    exact ⟨housed.answer r, balanced.booked (Pool.answer_booked housed.tidy.ordered r)⟩
  exact kept.1.account kept.2

end Tollgate
