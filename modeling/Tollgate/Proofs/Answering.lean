import Tollgate.Count

namespace Tollgate

variable {σ τ ι ο : Type} {step : σ → ι → σ × ο} {ideal : τ → ι → τ × ο}

def answering (step : σ → ι → σ × ο) : σ → List ι → σ × List ο
  | s, [] => (s, [])
  | s, r :: rest =>
    ((answering step (step s r).1 rest).1, (step s r).2 :: (answering step (step s r).1 rest).2)

theorem answering_invariant {I : σ → Prop} {requests : List ι}
    (kept : ∀ s, ∀ r ∈ requests, I s → I (step s r).1) {s : σ} (initial : I s) :
    I (answering step s requests).1 := by
  induction requests generalizing s with
  | nil => exact initial
  | cons r rest ih =>
    have later : ∀ s, ∀ r ∈ rest, I s → I (step s r).1 :=
      fun s r member => kept s r (List.mem_cons_of_mem _ member)
    exact ih later (kept s r List.mem_cons_self initial)

-- Every request of a run, with the state that it found.
def journal (step : σ → ι → σ × ο) : σ → List ι → List (σ × ι)
  | _, [] => []
  | s, r :: rest => (s, r) :: journal step (step s r).1 rest

-- The induction is on the requests to come, with the journal up to now generalized.
theorem journal_invariant {I : List (σ × ι) → σ → Prop} {requests : List ι}
    (kept : ∀ earlier s, ∀ r ∈ requests, I earlier s → I (earlier ++ [(s, r)]) (step s r).1)
    {s : σ} (initial : I [] s) : I (journal step s requests) (answering step s requests).1 := by
  have later : ∀ earlier, I earlier s →
      I (earlier ++ journal step s requests) (answering step s requests).1 := by
    clear initial
    induction requests generalizing s with
    | nil =>
      intro earlier now
      simpa [journal, answering] using now
    | cons r rest ih =>
      intro earlier now
      have next := kept earlier s r List.mem_cons_self now
      have rest := ih (fun earlier s r member => kept earlier s r (List.mem_cons_of_mem _ member))
        (earlier ++ [(s, r)]) next
      simpa [journal, answering] using rest
  simpa using later [] initial

theorem countP_snoc {α : Type} (p : α → Bool) (xs : List α) (x : α) :
    (xs ++ [x]).countP p = xs.countP p + (p x).toNat := by
  rw [List.countP_append, List.countP_singleton]
  cases p x <;> rfl

theorem sumOf_snoc {α : Type} (f : α → Nat) (xs : List α) (x : α) :
    sumOf ((xs ++ [x]).map f) = sumOf (xs.map f) + f x := by
  rw [List.map_append, sumOf_append]
  rfl

theorem journal_before {I : List (σ × ι) → σ → Prop} {requests : List ι}
    (kept : ∀ earlier s, ∀ r ∈ requests, I earlier s → I (earlier ++ [(s, r)]) (step s r).1)
    {s : σ} (initial : I [] s) {earlier later : List (σ × ι)} {t : σ × ι}
    (split : journal step s requests = earlier ++ t :: later) : I earlier t.1 := by
  have before : ∀ past, I past s → I (past ++ earlier) t.1 := by
    clear initial
    induction requests generalizing s earlier with
    | nil => simp [journal] at split
    | cons r rest ih =>
      intro past now
      cases earlier with
      | nil =>
        obtain ⟨rfl, -⟩ := List.cons.inj split
        simpa using now
      | cons first earlier =>
        obtain ⟨rfl, after⟩ := List.cons.inj split
        have next := kept past s r List.mem_cons_self now
        have rest := ih (fun earlier s r member => kept earlier s r (List.mem_cons_of_mem _ member))
          after (past ++ [(s, r)]) next
        simpa using rest
  simpa using before [] initial

theorem answering_refines {R : σ → τ → Prop}
    (alike : ∀ s t r, R s t → R (step s r).1 (ideal t r).1 ∧ (step s r).2 = (ideal t r).2)
    (requests : List ι) {s : σ} {t : τ} (related : R s t) :
    R (answering step s requests).1 (answering ideal t requests).1 ∧
      (answering step s requests).2 = (answering ideal t requests).2 := by
  induction requests generalizing s t with
  | nil => exact ⟨related, rfl⟩
  | cons r rest ih =>
    obtain ⟨next, same⟩ := alike s t r related
    obtain ⟨last, replies⟩ := ih next
    refine ⟨last, ?_⟩
    simp only [answering, same, replies]

end Tollgate
