import Tollgate.Fault
import Tollgate.Proofs.Tables

namespace Tollgate.Fault

structure Leads (faults : List Fault) (m : Nat) (f : Fault) : Prop where
  found : faults[m]? = some f
  most : ∀ g ∈ faults, g.severity.rank ≤ f.severity.rank
  first (i : Nat) (g : Fault) : i < m → faults[i]? = some g → g.severity.rank < f.severity.rank

section Leading

variable {faults done rest : List Fault} {m : Nat} {f g : Fault}

theorem Leads.single (f : Fault) : Leads [f] 0 f :=
  ⟨rfl, by simp, fun _ _ before => absurd before (Nat.not_lt_zero _)⟩

-- A fault that is not more severe changes nothing, even if it is as severe.
theorem Leads.keep (leads : Leads done m f) (mild : g.severity.rank ≤ f.severity.rank) :
    Leads (done ++ [g]) m f := by
  obtain ⟨within, _⟩ := List.getElem?_eq_some_iff.mp leads.found
  refine ⟨?_, ?_, fun i h before listed => ?_⟩
  · rw [List.getElem?_append_left within]
    exact leads.found
  · intro h member
    rcases List.mem_append.mp member with earlier | last
    · exact leads.most h earlier
    · cases List.mem_singleton.mp last
      exact mild
  · rw [List.getElem?_append_left (Nat.lt_trans before within)] at listed
    exact leads.first i h before listed

theorem Leads.replace (leads : Leads done m f) (severe : f.severity.rank < g.severity.rank) :
    Leads (done ++ [g]) done.length g := by
  have above : ∀ h ∈ done, h.severity.rank < g.severity.rank :=
    fun h member => Nat.lt_of_le_of_lt (leads.most h member) severe
  refine ⟨List.getElem?_concat_length, ?_, fun i h before listed => ?_⟩
  · intro h member
    rcases List.mem_append.mp member with earlier | last
    · exact Nat.le_of_lt (above h earlier)
    · cases List.mem_singleton.mp last
      exact Nat.le_refl _
  · rw [List.getElem?_append_left before] at listed
    exact above h (List.mem_of_getElem? listed)

-- By induction on the faults to come; `done` are those that have been looked at.
theorem Leads.leadingFrom (leads : Leads done m f) : ∃ g,
    Leads (done ++ rest) (leadingFrom (m, f.severity) done.length rest) g := by
  induction rest generalizing done m f with
  | nil => exact ⟨f, by simpa [Fault.leadingFrom] using leads⟩
  | cons g rest ih =>
    unfold Fault.leadingFrom
    have grown : done.length + 1 = (done ++ [g]).length := by simp
    have split : done ++ g :: rest = (done ++ [g]) ++ rest := by simp
    rw [grown, split]
    by_cases mild : g.severity.rank ≤ f.severity.rank
    · rw [if_pos mild]
      exact ih (leads.keep mild)
    · rw [if_neg mild]
      exact ih (leads.replace (Nat.lt_of_not_le mild))

theorem leading_leads (filled : faults ≠ []) :
    ∃ m f, leading? faults = some m ∧ Leads faults m f := by
  cases faults with
  | nil => exact absurd rfl filled
  | cons f rest =>
    obtain ⟨g, leads⟩ : ∃ g, Leads ([f] ++ rest) (leadingFrom (0, f.severity) 1 rest) g :=
      (Leads.single f).leadingFrom
    exact ⟨_, g, rfl, leads⟩

end Leading

def relatedKey (i : Nat) : String := s!"related_error_{i}"

theorem toList_relatedKey (i : Nat) :
    (relatedKey i).toList = "related_error_".toList ++ Nat.toDigits 10 i := by
  have spelled : relatedKey i = "related_error_" ++ i.repr := rfl
  rw [spelled, String.toList_append, Nat.toList_repr]

theorem relatedKey_inj {i j : Nat} (same : relatedKey i = relatedKey j) : i = j := by
  have digits : Nat.toDigits 10 i = Nat.toDigits 10 j := by
    have spelled := congrArg String.toList same
    rw [toList_relatedKey, toList_relatedKey] at spelled
    exact List.append_cancel_left spelled
  calc i = Nat.ofDigitChars 10 (Nat.toDigits 10 i) 0 :=
        (Nat.ofDigitChars_toDigits (by decide) (by decide)).symm
    _ = Nat.ofDigitChars 10 (Nat.toDigits 10 j) 0 := by rw [digits]
    _ = j := Nat.ofDigitChars_toDigits (by decide) (by decide)

section Noting

variable {main index : Nat} {f : Fault} {rest : List Fault} {key : String}

theorem noteRelated_frame (main index : Nat) (f : Fault) (rest : List Fault) :
    noteRelated main index f rest =
      { f with context := (noteRelated main index f rest).context } := by
  induction rest generalizing index f with
  | nil => rfl
  | cons other rest ih =>
    unfold noteRelated
    dsimp only
    split
    · exact ih _ _
    · exact ih _ _

theorem noteRelated_ordered (main index : Nat) (rest : List Fault) (ordered : f.context.Ordered) :
    (noteRelated main index f rest).context.Ordered := by
  induction rest generalizing index f with
  | nil => exact ordered
  | cons other rest ih =>
    unfold noteRelated
    dsimp only
    split
    · exact ih _ ordered
    · exact ih _ (ordered.insert _ _)

theorem get_noteRelated_other
    (apart : ∀ k < rest.length, index + k ≠ main → key ≠ relatedKey (index + k)) :
    (noteRelated main index f rest).context.get? key = f.context.get? key := by
  induction rest generalizing index f with
  | nil => rfl
  | cons other rest ih =>
    have later : ∀ k < rest.length, index + 1 + k ≠ main → key ≠ relatedKey (index + 1 + k) := by
      intro k within noted
      rw [Nat.add_right_comm] at noted ⊢
      exact apart (k + 1) (Nat.succ_lt_succ within) noted
    unfold noteRelated
    dsimp only
    rw [ih later]
    split
    · rfl
    · rename_i noted
      have first : key ≠ relatedKey index := apart 0 (Nat.zero_lt_succ _) noted
      exact (f.context.get_insert _ key _).trans (if_neg first)

-- By induction on the faults to come; what is noted for one of them is not touched afterwards.
theorem get_noteRelated {k : Nat} {g : Fault} (listed : rest[k]? = some g)
    (noted : index + k ≠ main) :
    (noteRelated main index f rest).context.get? (relatedKey (index + k)) =
      some (.text g.text) := by
  induction rest generalizing index f k with
  | nil => cases listed
  | cons other rest ih =>
    unfold noteRelated
    dsimp only
    cases k with
    | zero =>
      cases listed
      simp only [Nat.add_zero] at noted ⊢
      have later : ∀ k < rest.length, index + 1 + k ≠ main →
          relatedKey index ≠ relatedKey (index + 1 + k) := by
        intro k _ _ same
        have equal := relatedKey_inj same
        omega
      rw [get_noteRelated_other later, if_neg noted]
      exact (f.context.get_insert _ _ _).trans (if_pos rfl)
    | succ k =>
      have position : index + (k + 1) = index + 1 + k := by omega
      rw [position] at noted ⊢
      exact ih listed noted

end Noting

structure Notes (faults : List Fault) (m : Nat) (f merged : Fault) : Prop where
  frame : merged = { f with context := merged.context }
  related (i : Nat) (g : Fault) : i ≠ m → faults[i]? = some g →
    merged.context.get? (relatedKey i) = some (.text g.text)
  -- What stood under the other keys still stands there, and nothing else does.
  others (key : String) : (∀ i < faults.length, i ≠ m → key ≠ relatedKey i) →
    merged.context.get? key = f.context.get? key
  apart (i j : Nat) : relatedKey i = relatedKey j → i = j
  ordered : f.context.Ordered → merged.context.Ordered

theorem noteRelated_notes (faults : List Fault) (m : Nat) (f : Fault) :
    Notes faults m f (noteRelated m 0 f faults) := by
  refine ⟨noteRelated_frame m 0 f faults, fun i g noted listed => ?_, fun key apart => ?_,
    fun i j => relatedKey_inj, noteRelated_ordered m 0 faults⟩
  · have position : 0 + i = i := Nat.zero_add i
    rw [← position] at noted ⊢
    exact get_noteRelated listed noted
  · refine get_noteRelated_other fun k within noted => ?_
    rw [Nat.zero_add] at noted ⊢
    exact apart k within noted

theorem merge_exact (faults : List Fault) : (merge? faults = none ↔ faults = []) ∧
    (faults ≠ [] → ∃ m f merged, merge? faults = some merged ∧ Leads faults m f ∧
      Notes faults m f merged) := by
  have filled : faults ≠ [] → ∃ m f merged, merge? faults = some merged ∧ Leads faults m f ∧
      Notes faults m f merged := by
    intro filled
    obtain ⟨m, f, leading, leads⟩ := leading_leads filled
    refine ⟨m, f, noteRelated m 0 f faults, ?_, leads, noteRelated_notes faults m f⟩
    simp only [merge?, leading, leads.found, Option.bind_eq_bind, Option.bind_some, Option.pure_def]
  refine ⟨⟨fun unmerged => ?_, fun empty => by rw [empty]; rfl⟩, filled⟩
  cases faults with
  | nil => rfl
  | cons f rest =>
    obtain ⟨_, _, _, merging, _⟩ := filled (List.cons_ne_nil f rest)
    cases unmerged.symm.trans merging

-- Two faults are as severe as it gets. The first of them has notes of its own already, one under
-- the key of another fault and one under its own.
def tied : List Fault :=
  [.validation "A" "first",
    ((internal "second").withContext "related_error_0" .null).withContext "related_error_1" .null,
    stackOverflow, internal "fourth"]

theorem merge_exact_tied : tied ≠ [] ∧
    (∃ m f merged, merge? tied = some merged ∧ Leads tied m f ∧ Notes tied m f merged) ∧
    (merge? tied).map Fault.details = some (some "second") ∧
    (merge? tied).map (fun f => f.context.keys) =
      some ["related_error_0", "related_error_1", "related_error_2", "related_error_3"] := by
  have filled : tied ≠ [] := List.cons_ne_nil _ _
  exact ⟨filled, (merge_exact tied).2 filled, rfl, by decide +kernel⟩

end Tollgate.Fault
