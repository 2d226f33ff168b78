import Tollgate.Table

namespace Tollgate.Table

variable {α β : Type} {t : Table α}

-- The rows stand in rising order of their keys.
def Ordered (t : Table α) : Prop := t.entries.Pairwise fun a b => a.1 < b.1

theorem lookup_row (key k : String) (v : α) (rest : List (String × α)) :
    ((k, v) :: rest).lookup key = if key = k then some v else rest.lookup key := by
  by_cases same : key = k
  · simp [same]
  · have apart : (key == k) = false := beq_eq_false_iff_ne.mpr same
    simp [List.lookup_cons, apart, same]

theorem mem_insert {key : String} {value : α}
    {row : String × α} (member : row ∈ (t.insert key value).entries) :
    row = (key, value) ∨ row ∈ t.entries := by
  obtain ⟨entries⟩ := t
  change row ∈ insertInto key value entries at member
  induction entries with
  | nil => exact .inl (List.mem_singleton.mp member)
  | cons head rest ih =>
    unfold insertInto at member
    split at member
    · rcases List.mem_cons.mp member with rfl | old
      · exact .inl rfl
      · exact .inr (List.mem_cons_of_mem _ old)
    · split at member
      · rcases List.mem_cons.mp member with rfl | old
        · exact .inl rfl
        · exact .inr old
      · rcases List.mem_cons.mp member with rfl | old
        · exact .inr List.mem_cons_self
        · rcases ih old with new | old
          · exact .inl new
          · exact .inr (List.mem_cons_of_mem _ old)

theorem mem_erase {key : String} {row : String × α}
    (member : row ∈ (t.erase key).entries) : row ∈ t.entries :=
  (List.mem_filter.mp member).1

theorem mem_of_get {key : String} {value : α}
    (found : t.get? key = some value) : ∃ row ∈ t.entries, row.2 = value := by
  obtain ⟨before, after, split, _⟩ := List.lookup_eq_some_iff.mp found
  exact ⟨(key, value), by rw [split]; simp, rfl⟩

theorem contains_iff (t : Table α) (key : String) : t.contains key = true ↔ key ∈ t.keys := by
  unfold contains get? keys
  cases found : t.entries.lookup key with
  | none =>
    have apart := List.lookup_eq_none_iff.mp found
    refine iff_of_false Bool.false_ne_true ?_
    intro member
    obtain ⟨row, listed, rfl⟩ := List.mem_map.mp member
    simpa using apart row listed
  | some value =>
    obtain ⟨before, after, split, _⟩ := List.lookup_eq_some_iff.mp found
    exact iff_of_true rfl (List.mem_map.mpr ⟨(key, value), by rw [split]; simp, rfl⟩)

theorem get_insert (t : Table α) (key other : String) (value : α) :
    (t.insert key value).get? other = if other = key then some value else t.get? other := by
  obtain ⟨entries⟩ := t
  change (insertInto key value entries).lookup other =
    if other = key then some value else entries.lookup other
  induction entries with
  | nil => exact lookup_row other key value []
  | cons row rest ih =>
    obtain ⟨k, v⟩ := row
    unfold insertInto
    by_cases same : key = k
    · subst same
      by_cases found : other = key <;> simp [lookup_row, found]
    · by_cases less : key < k
      · simp [lookup_row, same, less]
      · by_cases found : other = k
        · subst found
          simp [same, less, Ne.symm same]
        · simp [lookup_row, same, less, found, ih]

theorem get_erase (t : Table α) (key other : String) :
    (t.erase key).get? other = if other = key then none else t.get? other := by
  obtain ⟨entries⟩ := t
  change (entries.filter fun row => decide (row.1 ≠ key)).lookup other =
    if other = key then none else entries.lookup other
  induction entries with
  | nil => simp
  | cons row rest ih =>
    obtain ⟨k, v⟩ := row
    by_cases gone : k = key
    · subst gone
      by_cases found : other = k <;> simpa [lookup_row, found] using ih
    · by_cases found : other = k
      · subst found
        simp [gone]
      · simpa [lookup_row, found, gone] using ih

theorem get_map (f : α → β) (t : Table α) (key : String) :
    (t.map f).get? key = (t.get? key).map f := by
  obtain ⟨entries⟩ := t
  change (entries.map fun row => (row.1, f row.2)).lookup key = (entries.lookup key).map f
  induction entries with
  | nil => rfl
  | cons row rest ih =>
    obtain ⟨k, v⟩ := row
    by_cases found : key = k <;> simp [lookup_row, found, ih]

namespace Ordered

theorem ofEmpty : (empty : Table α).Ordered := List.Pairwise.nil

theorem erase (ordered : t.Ordered) (key : String) : (t.erase key).Ordered :=
  List.Pairwise.filter _ ordered

theorem filter (ordered : t.Ordered) (keep : String × α → Bool) :
    Ordered ⟨t.entries.filter keep⟩ := List.Pairwise.filter _ ordered

theorem map (ordered : t.Ordered) (f : α → β) : (t.map f).Ordered :=
  List.Pairwise.map _ (fun _ _ less => less) ordered

theorem insert (ordered : t.Ordered) (key : String) (value : α) :
    (t.insert key value).Ordered := by
  obtain ⟨entries⟩ := t
  change (insertInto key value entries).Pairwise fun a b => a.1 < b.1
  induction entries with
  | nil => exact List.pairwise_singleton _ _
  | cons row rest ih =>
    obtain ⟨k, v⟩ := row
    obtain ⟨above, rising⟩ := List.pairwise_cons.mp ordered
    unfold insertInto
    split
    · rename_i same
      subst same
      exact List.pairwise_cons.mpr ⟨above, rising⟩
    · rename_i other
      split
      · rename_i less
        refine List.pairwise_cons.mpr ⟨?_, ordered⟩
        intro later member
        rcases List.mem_cons.mp member with rfl | old
        · exact less
        · exact String.lt_trans less (above later old)
      · rename_i notLess
        refine List.pairwise_cons.mpr ⟨?_, ih rising⟩
        intro later member
        have greater : k < key := Std.lt_of_le_of_ne (String.not_lt.mp notLess) (Ne.symm other)
        rcases mem_insert (t := ⟨rest⟩) member with rfl | old
        · exact greater
        · exact above later old

theorem others_same (key : String) (value : α) (rest : List (String × α)) :
    (((key, value) :: rest).filter fun row => decide (row.1 ≠ key)) =
      rest.filter fun row => decide (row.1 ≠ key) := by
  simp only [List.filter_cons, ne_eq, not_true_eq_false, decide_false, Bool.false_eq_true, if_false]

theorem others_apart {key k : String} (apart : key ≠ k) (v : α) (rest : List (String × α)) :
    (((k, v) :: rest).filter fun row => decide (row.1 ≠ key)) =
      (k, v) :: rest.filter fun row => decide (row.1 ≠ key) := by
  simp only [List.filter_cons, ne_eq, Ne.symm apart, not_false_eq_true, decide_true, if_true]

theorem others_above {entries : List (String × α)} {key : String}
    (above : ∀ row ∈ entries, key < row.1) :
    (entries.filter fun row => decide (row.1 ≠ key)) = entries := by
  refine List.filter_eq_self.mpr ?_
  intro row member
  have less := above row member
  refine decide_eq_true ?_
  intro same
  rw [same] at less
  exact String.lt_irrefl _ less

theorem perm_insert (ordered : t.Ordered) (key : String) (value : α) :
    (t.insert key value).entries.Perm ((key, value) :: (t.erase key).entries) := by
  obtain ⟨entries⟩ := t
  change (insertInto key value entries).Perm
    ((key, value) :: entries.filter fun row => decide (row.1 ≠ key))
  induction entries with
  | nil => exact .refl _
  | cons row rest ih =>
    obtain ⟨k, v⟩ := row
    obtain ⟨above, rising⟩ := List.pairwise_cons.mp ordered
    unfold insertInto
    by_cases same : key = k
    · subst same
      rw [if_pos rfl, others_same, others_above above]
    · by_cases less : key < k
      · have lower : ∀ row ∈ (k, v) :: rest, key < row.1 := by
          intro row member
          rcases List.mem_cons.mp member with rfl | old
          · exact less
          · exact String.lt_trans less (above row old)
        rw [if_neg same, if_pos less, others_above lower]
      · rw [if_neg same, if_neg less, others_apart same]
        exact ((ih rising).cons (k, v)).trans (.swap _ _ _)

-- The row that a key finds and the rows of the other keys are all there are.
theorem perm_erase (ordered : t.Ordered) {key : String} {value : α}
    (found : t.get? key = some value) :
    t.entries.Perm ((key, value) :: (t.erase key).entries) := by
  obtain ⟨entries⟩ := t
  change entries.lookup key = some value at found
  change entries.Perm ((key, value) :: entries.filter fun row => decide (row.1 ≠ key))
  induction entries with
  | nil => cases found
  | cons row rest ih =>
    obtain ⟨k, v⟩ := row
    obtain ⟨above, rising⟩ := List.pairwise_cons.mp ordered
    rw [lookup_row] at found
    by_cases same : key = k
    · subst same
      rw [if_pos rfl] at found
      cases found
      rw [others_same, others_above above]
    · rw [if_neg same] at found
      rw [others_apart same]
      exact ((ih rising found).cons (k, v)).trans (.swap _ _ _)

theorem get_row (ordered : t.Ordered) {row : String × α} (member : row ∈ t.entries) :
    t.get? row.1 = some row.2 := by
  obtain ⟨entries⟩ := t
  change entries.lookup row.1 = some row.2
  induction entries with
  | nil => cases member
  | cons head rest ih =>
    obtain ⟨k, v⟩ := head
    obtain ⟨above, rising⟩ := List.pairwise_cons.mp ordered
    rw [lookup_row]
    rcases List.mem_cons.mp member with rfl | later
    · rw [if_pos rfl]
    · have less := above row later
      have apart : row.1 ≠ k := by
        intro same
        rw [same] at less
        exact String.lt_irrefl k less
      rw [if_neg apart]
      exact ih rising later

theorem keys_nodup (ordered : t.Ordered) : t.keys.Nodup := by
  refine List.pairwise_map.mpr (List.Pairwise.imp ?_ ordered)
  intro a b less same
  rw [same] at less
  exact String.lt_irrefl _ less

theorem get_filter (ordered : t.Ordered) (keep : String × α → Bool) (key : String) :
    (⟨t.entries.filter keep⟩ : Table α).get? key =
      (t.get? key).filter fun value => keep (key, value) := by
  obtain ⟨entries⟩ := t
  change (entries.filter keep).lookup key = (entries.lookup key).filter _
  induction entries with
  | nil => rfl
  | cons row rest ih =>
    obtain ⟨k, v⟩ := row
    obtain ⟨above, rising⟩ := List.pairwise_cons.mp ordered
    rw [lookup_row]
    by_cases same : key = k
    · subst same
      have once : (rest.filter keep).lookup key = none := by
        refine List.lookup_eq_none_iff.mpr ?_
        intro row member
        have less := above row (List.mem_filter.mp member).1
        have apart : key ≠ row.1 := by
          intro same
          rw [← same] at less
          exact String.lt_irrefl key less
        simpa using apart
      by_cases kept : keep (key, v) = true <;> simp [Option.filter, kept, once]
    · by_cases kept : keep (k, v) = true <;>
        simp [kept, lookup_row, same, ih rising]

end Ordered

theorem erase_of_none {key : String} (missing : t.get? key = none) : t.erase key = t := by
  have apart := List.lookup_eq_none_iff.mp missing
  have same : (t.entries.filter fun row => decide (row.1 ≠ key)) = t.entries := by
    refine List.filter_eq_self.mpr ?_
    intro row member
    exact decide_eq_true (Ne.symm (by simpa using apart row member))
  exact congrArg Table.mk same

end Tollgate.Table
