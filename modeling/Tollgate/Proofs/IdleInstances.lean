import Tollgate.Pool
import Tollgate.Proofs.Tables

namespace Tollgate

def Pool.All (P : Instance → Prop) (p : Pool) : Prop :=
  ∀ row ∈ p.idle.entries, ∀ e ∈ row.2, P e.item

namespace Pool

variable {P : Instance → Prop} {p : Pool}

theorem All.entries (all : p.All P) (moduleId : String) :
    ∀ e ∈ p.entries moduleId, P e.item := by
  intro e member
  unfold Pool.entries at member
  cases found : p.idle.get? moduleId with
  | none => simp [found] at member
  | some entries =>
    obtain ⟨row, listed, rfl⟩ := Table.mem_of_get found
    exact all row listed e (by simpa [found] using member)

theorem All.setEntries (all : p.All P) (moduleId : String) {entries : List PoolEntry}
    (held : ∀ e ∈ entries, P e.item) : (p.setEntries moduleId entries).All P := by
  intro row member e listed
  unfold Pool.setEntries at member
  dsimp only at member
  split at member
  · exact all row (Table.mem_erase member) e listed
  · rcases Table.mem_insert member with rfl | old
    · exact held e listed
    · exact all row old e listed

theorem takeLast_parts {pages : Nat} {entries others : List PoolEntry} {taken : PoolEntry}
    (found : takeLast? pages entries = some (taken, others)) :
    taken ∈ entries ∧ taken.item.memoryLimitPages = pages ∧ ∀ e ∈ others, e ∈ entries := by
  induction entries generalizing others with
  | nil => cases found
  | cons head rest ih =>
    unfold takeLast? at found
    split at found
    · rename_i later left above
      cases found
      obtain ⟨member, ceiling, kept⟩ := ih above
      refine ⟨List.mem_cons_of_mem _ member, ceiling, ?_⟩
      intro e listed
      rcases List.mem_cons.mp listed with rfl | old
      · exact List.mem_cons_self
      · exact List.mem_cons_of_mem _ (kept e old)
    · split at found
      · rename_i ceiling
        cases found
        exact ⟨List.mem_cons_self, ceiling, fun e listed => List.mem_cons_of_mem _ listed⟩
      · cases found

theorem All.get (all : p.All P) (moduleId : String) (pages : Nat) :
    (p.get moduleId pages).1.All P ∧
      ∀ i, (p.get moduleId pages).2 = some i → P i ∧ i.memoryLimitPages = pages := by
  unfold Pool.get
  split
  · exact ⟨all, fun i taken => by cases taken⟩
  · split
    · rename_i e others found
      obtain ⟨member, ceiling, kept⟩ := takeLast_parts found
      have held := all.entries moduleId
      refine ⟨all.setEntries moduleId fun e listed => held e (kept e listed), ?_⟩
      intro i taken
      cases taken
      exact ⟨held e member, ceiling⟩
    · exact ⟨all, fun i taken => by cases taken⟩

theorem All.put (all : p.All P) {i : Instance} (held : P i) (now : Nat) :
    (p.put i now).1.All P := by
  unfold Pool.put
  split
  · exact all
  · refine all.setEntries i.moduleId ?_
    intro e listed
    rcases List.mem_append.mp listed with old | new
    · exact all.entries i.moduleId e old
    · cases List.mem_singleton.mp new
      exact held

theorem All.evict (all : p.All P) (moduleId : String) : (p.evict moduleId).1.All P :=
  all.setEntries moduleId (by simp)

theorem All.evictAll (all : p.All P) (hashes : List String) :
    (hashes.foldl (fun p hash => (p.evict hash).1) p).All P := by
  induction hashes generalizing p with
  | nil => exact all
  | cons hash rest ih => exact ih (all.evict hash)

-- The fresh entries stay, and rows without any go.
theorem cleanup_idle (p : Pool) (now : Nat) : (p.cleanup now).1.idle =
    ⟨(p.idle.map fun entries => entries.filter fun x => !p.isExpired now x).entries.filter
      fun row => !row.2.isEmpty⟩ := by
  unfold Pool.cleanup Table.map
  dsimp only
  rw [List.map_map]
  congr 3
  funext row
  simp only [Function.comp_apply, List.partition_eq_filter_filter]
  rfl

theorem cleanup_emptied (emptied : p.idle.entries = []) (now : Nat) :
    (p.cleanup now).1.idle.entries = [] := by
  rw [cleanup_idle, Table.map, emptied]
  rfl

theorem All.cleanup (all : p.All P) (now : Nat) : (p.cleanup now).1.All P := by
  intro row member e listed
  rw [cleanup_idle] at member
  obtain ⟨old, known, rfl⟩ := List.mem_map.mp (List.mem_filter.mp member).1
  exact all old known e (List.mem_filter.mp listed).1

theorem All.close (all : p.All P) : p.close.All P := by
  unfold Pool.close
  split
  · exact all
  · intro row member
    cases member

theorem All.reopen (all : p.All P) : p.reopen.All P := all

end Pool

end Tollgate
