import Mathlib.Data.List.Perm.Subperm
import Tollgate.Proofs.IdleInstances

namespace Tollgate.Pool

variable {p : Pool}

@[simp] theorem entries_counts (p : Pool) (counts : PoolCounts) (moduleId : String) :
    ({ p with counts := counts } : Pool).entries moduleId = p.entries moduleId := rfl

theorem entries_setEntries (p : Pool) (moduleId other : String) (entries : List PoolEntry) :
    (p.setEntries moduleId entries).entries other =
      if other = moduleId then entries else p.entries other := by
  unfold Pool.entries setEntries
  dsimp only
  split
  · rename_i none
    rw [Table.get_erase]
    split
    · simpa using none.symm
    · rfl
  · rw [Table.get_insert]
    split <;> rfl

theorem takeLast_none {pages : Nat} {entries : List PoolEntry}
    (missing : takeLast? pages entries = none) :
    ∀ x ∈ entries, x.item.memoryLimitPages ≠ pages := by
  induction entries with
  | nil => exact fun x member => (List.not_mem_nil member).elim
  | cons head rest ih =>
    unfold takeLast? at missing
    split at missing
    · cases missing
    · rename_i above
      split at missing
      · cases missing
      · rename_i other
        exact List.forall_mem_cons.mpr ⟨other, ih above⟩

-- Above the entry that is taken there is none under its ceiling.
theorem takeLast_split {pages : Nat} {entries others : List PoolEntry} {taken : PoolEntry}
    (found : takeLast? pages entries = some (taken, others)) :
    ∃ below above, entries = below ++ taken :: above ∧ others = below ++ above ∧
      taken.item.memoryLimitPages = pages ∧ ∀ x ∈ above, x.item.memoryLimitPages ≠ pages := by
  induction entries generalizing others with
  | nil => cases found
  | cons head rest ih =>
    unfold takeLast? at found
    split at found
    · rename_i later left higher
      cases found
      obtain ⟨below, above, rfl, rfl, ceiling, clear⟩ := ih higher
      exact ⟨head :: below, above, rfl, rfl, ceiling, clear⟩
    · rename_i none
      split at found
      · rename_i ceiling
        cases found
        exact ⟨[], rest, rfl, rfl, ceiling, takeLast_none none⟩
      · cases found

inductive Taking (p : Pool) (moduleId : String) (pages : Nat) : Pool × Option Instance → Prop
  | missed {counts : PoolCounts} :
      (p.closed = false → ∀ x ∈ p.entries moduleId, x.item.memoryLimitPages ≠ pages) →
      Taking p moduleId pages ({ p with counts := counts }, none)
  | found {below above : List PoolEntry} {x : PoolEntry} {counts : PoolCounts} :
      p.closed = false → p.entries moduleId = below ++ x :: above →
      x.item.memoryLimitPages = pages → (∀ y ∈ above, y.item.memoryLimitPages ≠ pages) →
      Taking p moduleId pages
        ({ p.setEntries moduleId (below ++ above) with counts := counts }, some x.item)

theorem get_taking (p : Pool) (moduleId : String) (pages : Nat) :
    Taking p moduleId pages (p.get moduleId pages) := by
  unfold get
  split
  · rename_i closed
    exact .missed fun opened => by rw [opened] at closed; cases closed
  · rename_i closed
    split
    · rename_i x others found
      obtain ⟨below, above, split, rfl, ceiling, clear⟩ := takeLast_split found
      exact .found (by simpa using closed) split ceiling clear
    · rename_i missing
      exact .missed fun _ => takeLast_none missing

theorem Taking.of_get {moduleId : String} {pages : Nat} {result : Pool × Option Instance}
    (got : p.get moduleId pages = result) : Taking p moduleId pages result :=
  got ▸ p.get_taking moduleId pages

theorem Taking.fixed {moduleId : String} {pages : Nat} {result : Pool × Option Instance}
    (taking : Taking p moduleId pages result) :
    result.1.settings = p.settings ∧ result.1.closed = p.closed := by
  cases taking <;> exact ⟨rfl, rfl⟩

theorem Taking.sublist {moduleId : String} {pages : Nat} {result : Pool × Option Instance}
    (taking : Taking p moduleId pages result) (other : String) :
    (result.1.entries other).Sublist (p.entries other) := by
  cases taking with
  | missed => exact .refl _
  | @found below above x counts opened split ceiling clear =>
    rw [entries_counts, entries_setEntries]
    split
    · rename_i same
      rw [same, split]
      exact (List.sublist_cons_self x above).append_left below
    · exact .refl _

-- There is room for an instance in an open pool, and the instance is open too.
structure Admits (p : Pool) (i : Instance) : Prop where
  instance_open : i.isClosed = false
  pool_open : p.closed = false
  room : p.idleCount i.moduleId < p.settings.maxPerModule

inductive Putting (p : Pool) (i : Instance) (now : Nat) : Pool × Bool → Prop
  | refused {counts : PoolCounts} : ¬ p.Admits i →
      Putting p i now ({ p with counts := counts }, false)
  | kept {counts : PoolCounts} : p.Admits i →
      Putting p i now
        ({ p.setEntries i.moduleId (p.entries i.moduleId ++ [⟨i, now⟩]) with counts := counts },
          true)

theorem put_putting (p : Pool) (i : Instance) (now : Nat) : Putting p i now (p.put i now) := by
  unfold put
  split
  · rename_i refusal
    refine .refused ?_
    intro admits
    rw [admits.instance_open, admits.pool_open] at refusal
    simp only [Bool.false_or, decide_eq_true_eq] at refusal
    exact absurd admits.room (Nat.not_lt.mpr refusal)
  · rename_i admission
    simp only [Bool.or_eq_true, decide_eq_true_eq, not_or, Bool.not_eq_true, Nat.not_le]
      at admission
    exact .kept ⟨admission.1.1, admission.1.2, admission.2⟩

theorem put_kept_iff (p : Pool) (i : Instance) (now : Nat) :
    (p.put i now).2 = true ↔ p.Admits i := by
  have putting := p.put_putting i now
  generalize p.put i now = result at putting
  cases putting with
  | refused refusal => simpa using refusal
  | kept admits => simpa using admits

theorem Putting.elsewhere {i : Instance} {now : Nat} {result : Pool × Bool} {other : String}
    (putting : Putting p i now result) (apart : other ≠ i.moduleId) :
    result.1.entries other = p.entries other := by
  cases putting with
  | refused => rfl
  | kept => rw [entries_counts, entries_setEntries, if_neg apart]

theorem entries_evict (p : Pool) (moduleId other : String) :
    (p.evict moduleId).1.entries other = if other = moduleId then [] else p.entries other :=
  p.entries_setEntries moduleId other []

theorem entries_evictAll (p : Pool) (hashes : List String) (other : String) :
    (hashes.foldl (fun p hash => (p.evict hash).1) p).entries other =
      if other ∈ hashes then [] else p.entries other := by
  induction hashes generalizing p with
  | nil => rfl
  | cons hash rest ih =>
    rw [List.foldl_cons, ih, entries_evict]
    by_cases later : other ∈ rest <;> by_cases now : other = hash <;> simp [later, now]

theorem entries_close (p : Pool) (moduleId : String) :
    p.close.entries moduleId = if p.closed then p.entries moduleId else [] := by
  unfold close
  split <;> rfl

theorem entries_cleanup (ordered : p.idle.Ordered) (now : Nat) (moduleId : String) :
    (p.cleanup now).1.entries moduleId =
      (p.entries moduleId).filter fun x => !p.isExpired now x := by
  unfold Pool.entries
  rw [cleanup_idle, (ordered.map _).get_filter, Table.get_map]
  cases p.idle.get? moduleId with
  | none => rfl
  | some entries =>
    dsimp only [Option.map_some, Option.getD_some]
    by_cases none : (entries.filter fun x => !p.isExpired now x) = []
    · rw [none]
      rfl
    · simp [Option.filter, none]

-- The rows are in order, and each holds instances of its own contract.
structure Tidy (p : Pool) : Prop where
  ordered : p.idle.Ordered
  keyed : ∀ moduleId, ∀ x ∈ p.entries moduleId, x.item.moduleId = moduleId

namespace Tidy

theorem setEntries (tidy : p.Tidy) {moduleId : String} {entries : List PoolEntry}
    (keyed : ∀ x ∈ entries, x.item.moduleId = moduleId) : (p.setEntries moduleId entries).Tidy := by
  constructor
  · unfold Pool.setEntries
    dsimp only
    split
    · exact tidy.ordered.erase moduleId
    · exact tidy.ordered.insert moduleId entries
  · intro other x member
    rw [entries_setEntries] at member
    split at member
    · rename_i same
      rw [same]
      exact keyed x member
    · exact tidy.keyed other x member

theorem counts (tidy : p.Tidy) (counts : PoolCounts) : ({ p with counts := counts } : Pool).Tidy :=
  ⟨tidy.ordered, tidy.keyed⟩

theorem taking (tidy : p.Tidy) {moduleId : String} {pages : Nat} {result : Pool × Option Instance}
    (taking : Taking p moduleId pages result) :
    result.1.Tidy ∧ ∀ i, result.2 = some i → i.moduleId = moduleId := by
  cases taking with
  | missed => exact ⟨tidy.counts _, fun i taken => by cases taken⟩
  | @found below above x counts opened split ceiling clear =>
    have keyed := tidy.keyed moduleId
    rw [split] at keyed
    constructor
    · refine (tidy.setEntries ?_).counts _
      intro y member
      refine keyed y ?_
      rcases List.mem_append.mp member with low | high
      · exact List.mem_append_left _ low
      · exact List.mem_append_right _ (List.mem_cons_of_mem _ high)
    · intro i taken
      cases taken
      exact keyed x (List.mem_append_right _ List.mem_cons_self)

theorem get (tidy : p.Tidy) (moduleId : String) (pages : Nat) : (p.get moduleId pages).1.Tidy :=
  (tidy.taking (p.get_taking moduleId pages)).1

theorem put (tidy : p.Tidy) (i : Instance) (now : Nat) : (p.put i now).1.Tidy := by
  have putting := p.put_putting i now
  generalize p.put i now = result at putting
  cases putting with
  | refused => exact tidy.counts _
  | kept admits =>
    refine (tidy.setEntries ?_).counts _
    intro x member
    rcases List.mem_append.mp member with old | new
    · exact tidy.keyed _ x old
    · cases List.mem_singleton.mp new
      rfl

theorem evict (tidy : p.Tidy) (moduleId : String) : (p.evict moduleId).1.Tidy :=
  (tidy.setEntries (by simp)).counts _

theorem evictAll (tidy : p.Tidy) (hashes : List String) :
    (hashes.foldl (fun p hash => (p.evict hash).1) p).Tidy := by
  induction hashes generalizing p with
  | nil => exact tidy
  | cons hash rest ih => exact ih (tidy.evict hash)

theorem cleanup (tidy : p.Tidy) (now : Nat) : (p.cleanup now).1.Tidy := by
  constructor
  · rw [cleanup_idle]
    exact (tidy.ordered.map _).filter _
  · intro moduleId x member
    rw [entries_cleanup tidy.ordered] at member
    exact tidy.keyed moduleId x (List.mem_filter.mp member).1

theorem close (tidy : p.Tidy) : p.close.Tidy := by
  constructor
  · unfold Pool.close
    split
    · exact tidy.ordered
    · exact .ofEmpty
  · intro moduleId x member
    rw [entries_close] at member
    split at member
    · exact tidy.keyed moduleId x member
    · cases member

theorem reopen (tidy : p.Tidy) : p.reopen.Tidy := ⟨tidy.ordered, tidy.keyed⟩

end Tidy

theorem tidy_new (settings : PoolSettings) : ({ settings := settings } : Pool).Tidy :=
  ⟨.ofEmpty, fun _ _ member => by cases member⟩

def residents (p : Pool) : List PoolEntry := p.idle.values.flatten

def ids (p : Pool) : List String := p.residents.map fun x => x.item.id

theorem residents_split (ordered : p.idle.Ordered) (moduleId : String) :
    p.residents.Perm (p.entries moduleId ++ (p.setEntries moduleId []).residents) := by
  have cleared : (p.setEntries moduleId []).idle = p.idle.erase moduleId := rfl
  unfold residents Pool.entries
  rw [cleared]
  cases found : p.idle.get? moduleId with
  | none => rw [Table.erase_of_none found]; rfl
  | some entries => exact ((ordered.perm_erase found).map Prod.snd).flatten

theorem residents_setEntries (ordered : p.idle.Ordered) (moduleId : String)
    (entries : List PoolEntry) :
    (p.setEntries moduleId entries).residents.Perm
      (entries ++ (p.setEntries moduleId []).residents) := by
  cases entries with
  | nil => exact .refl _
  | cons x rest => exact ((ordered.perm_insert moduleId (x :: rest)).map Prod.snd).flatten

theorem ids_split (ordered : p.idle.Ordered) (moduleId : String) :
    p.ids.Perm
      ((p.entries moduleId).map (fun x => x.item.id) ++ (p.setEntries moduleId []).ids) := by
  have split := (residents_split ordered moduleId).map fun x => x.item.id
  rwa [List.map_append] at split

theorem ids_setEntries (ordered : p.idle.Ordered) (moduleId : String) (entries : List PoolEntry) :
    (p.setEntries moduleId entries).ids.Perm
      (entries.map (fun x => x.item.id) ++ (p.setEntries moduleId []).ids) := by
  have split := (residents_setEntries ordered moduleId entries).map fun x => x.item.id
  rwa [List.map_append] at split

theorem Taking.ids (ordered : p.idle.Ordered) {moduleId : String} {pages : Nat}
    {result : Pool × Option Instance} (taking : Taking p moduleId pages result) :
    p.ids.Perm ((result.2.map Instance.id).toList ++ result.1.ids) := by
  cases taking with
  | missed => exact .refl _
  | @found below above x counts opened split ceiling clear =>
    have before := ids_split ordered moduleId
    have after := ids_setEntries ordered moduleId (below ++ above)
    rw [split] at before
    refine before.trans (.trans ?_ (after.symm.cons x.item.id))
    simp only [List.map_append, List.map_cons, ← List.cons_append]
    exact List.perm_middle.append_right _

theorem Putting.ids (ordered : p.idle.Ordered) {i : Instance} {now : Nat} {result : Pool × Bool}
    (putting : Putting p i now result) :
    result.1.ids.Perm ((if result.2 then [i.id] else []) ++ p.ids) := by
  cases putting with
  | refused => exact .refl _
  | kept admits =>
    have before := ids_split ordered i.moduleId
    have after := ids_setEntries ordered i.moduleId (p.entries i.moduleId ++ [⟨i, now⟩])
    refine after.trans (.trans ?_ (before.symm.cons i.id))
    simp only [List.map_append, List.map_cons, List.map_nil, List.append_assoc,
      List.singleton_append]
    exact List.perm_middle

theorem ids_evict (ordered : p.idle.Ordered) (moduleId : String) :
    (p.evict moduleId).1.ids.Subperm p.ids :=
  (List.sublist_append_right _ _).subperm.trans (ids_split ordered moduleId).symm.subperm

theorem ids_evictAll (tidy : p.Tidy) (hashes : List String) :
    (hashes.foldl (fun p hash => (p.evict hash).1) p).ids.Subperm p.ids := by
  induction hashes generalizing p with
  | nil => exact .refl _
  | cons hash rest ih => exact (ih (tidy.evict hash)).trans (ids_evict tidy.ordered hash)

theorem ids_close (p : Pool) : p.close.ids.Subperm p.ids := by
  unfold close
  split
  · exact .refl _
  · exact List.nil_subperm

end Tollgate.Pool
