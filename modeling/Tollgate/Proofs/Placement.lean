import Tollgate.Proofs.Marshalling

namespace Tollgate

namespace Guest.Memory

theorem splice_frame (m : Memory) (address : Nat) (bytes : List UInt8) :
    m.splice address bytes = { m with cells := (m.splice address bytes).cells } := by
  induction bytes generalizing m address with
  | nil => rfl
  | cons b rest ih =>
    rw [splice, ih]
    rfl

end Guest.Memory

namespace Instance

variable {i : Instance} {m : Guest.Memory} {bytes : List UInt8}

theorem setMemory_self (found : i.memory? = some m) :
    { i.setMemory m with heapCursor := i.heapCursor } = i := by
  unfold memory? at found
  split at found
  · rename_i live index opened exported
    obtain ⟨within, rfl⟩ := List.getElem?_eq_some_iff.mp found
    unfold setMemory
    rw [exported]
    dsimp only
    rw [opened, Option.map_some, List.set_getElem_self, ← opened]
  · cases found

theorem setMemory_again (i : Instance) (cursor : Nat) (old written : Guest.Memory) :
    ({ i.setMemory old with heapCursor := cursor } : Instance).setMemory written =
      { i.setMemory written with heapCursor := cursor } := by
  cases exported : i.memoryIndex? with
  | none =>
    have kept : ({ i with heapCursor := cursor } : Instance).memoryIndex? = none := exported
    simp only [setMemory, exported, kept]
  | some index =>
    have kept (live : Option Live) :
        ({ i with live := live, heapCursor := cursor } : Instance).memoryIndex? = some index :=
      exported
    simp only [setMemory, exported, kept, Option.map_map, Function.comp_def, List.set_set]

theorem alignUp_aligned (n : Nat) : alignUp n % alignment = 0 := by
  unfold alignUp alignment
  omega

-- A memory consists of whole pages, so that aligned places run up to its very end.
theorem alignUp_fitting {address size : Nat} (aligned : address % alignment = 0)
    (fits : address + size ≤ m.size) :
    min (alignUp (address + size)) m.size = address + alignUp size := by
  unfold Guest.Memory.size pageSize at *
  unfold alignUp alignment at *
  omega

theorem allocate_fitting (bytes : List UInt8) (found : i.memory? = some m)
    (small : m.size < addressBound) (aligned : i.heapCursor % alignment = 0)
    (fits : i.heapCursor + bytes.length ≤ m.size) :
    i.allocate bytes = .ok (i.heapCursor,
      { i.setMemory (m.splice i.heapCursor bytes) with
        heapCursor := i.heapCursor + alignUp bytes.length }) := by
  unfold allocate
  rw [memorySize_eq found]
  dsimp only
  rw [if_neg (by omega), if_neg (by omega), open_of_memory found, found]
  simp only [Guest.Memory.write?, if_pos fits, alignUp_fitting aligned fits, Bool.false_eq_true,
    if_false]

theorem allocate_misfit (found : i.memory? = some m) (inside : i.heapCursor ≤ m.size)
    (misfit : m.size < i.heapCursor + bytes.length) :
    i.allocate bytes = .error (.outOfMemory bytes.length (m.size - i.heapCursor)) := by
  unfold allocate
  rw [memorySize_eq found]
  dsimp only
  rw [if_pos (by omega)]

end Instance

namespace Plan

-- Where the buffer at position `k` goes if the first one goes to `start`: every buffer before it
-- takes up its size, rounded up to the alignment.
def placeOf (p : Plan) (start k : Nat) : Nat :=
  start + sumOf ((p.take k).map fun s => Instance.alignUp s.size)

def FitsAt (p : Plan) (start size k : Nat) : Prop :=
  ∀ s, p[k]? = some s → p.placeOf start k + s.size ≤ size

-- No buffer has a place yet, and each has a gap of its own among the words.
structure Unplaced (p : Plan) (words : List UInt64) : Prop where
  unbound : ∀ s ∈ p, s.address = none
  blank : ∀ s ∈ p, words[s.wordIndex]? = some 0
  apart : p.Pairwise fun s t => s.wordIndex < t.wordIndex

variable {p : Plan} {start k : Nat} {s : Segment}

theorem placeOf_succ (found : p[k]? = some s) :
    p.placeOf start (k + 1) = p.placeOf start k + Instance.alignUp s.size := by
  unfold placeOf
  rw [List.take_add_one, found, List.map_append, sumOf_append]
  simp [sumOf_cons, sumOf_nil, Nat.add_assoc]

theorem placeOf_end (ended : p[k]? = none) : p.placeOf start (k + 1) = p.placeOf start k := by
  unfold placeOf
  rw [List.take_add_one, ended, Option.toList_none, List.append_nil]

theorem placeOf_aligned (p : Plan) (aligned : start % Instance.alignment = 0) (k : Nat) :
    p.placeOf start k % Instance.alignment = 0 := by
  induction k with
  | zero => exact aligned
  | succ k ih =>
    cases found : p[k]? with
    | none => rw [placeOf_end found, ih]
    | some s =>
      have rounded := Instance.alignUp_aligned s.size
      rw [placeOf_succ found, Nat.add_mod, ih, rounded]
      rfl

theorem placeOf_le_succ (p : Plan) (start k : Nat) :
    p.placeOf start k ≤ p.placeOf start (k + 1) := by
  cases found : p[k]? with
  | none => exact Nat.le_of_eq (placeOf_end found).symm
  | some s =>
    rw [placeOf_succ found]
    exact Nat.le_add_right _ _

theorem placeOf_mono {j : Nat} (before : j ≤ k) : p.placeOf start j ≤ p.placeOf start k := by
  induction before with
  | refl => exact Nat.le_refl _
  | step _ ih => exact Nat.le_trans ih (p.placeOf_le_succ start _)

theorem placeOf_before (start : Nat) {j : Nat} (before : j < k) (found : p[j]? = some s) :
    p.placeOf start j + s.size ≤ p.placeOf start k := by
  refine Nat.le_trans ?_ (placeOf_mono (Nat.succ_le_of_lt before))
  rw [placeOf_succ found]
  exact Nat.add_le_add_left (Instance.alignUp_le _) _

-- The memory once the first `count` buffers are in their places and nothing else has been written.
structure Written (p : Plan) (start count : Nat) (m written : Guest.Memory) : Prop where
  frame : written = { m with cells := written.cells }
  stored (k : Nat) (s : Segment) : k < count → p[k]? = some s →
    written.slice (p.placeOf start k) s.size = s.bytes
  outside (a : Nat) : a < pow2 Guest.Memory.level →
    (∀ k s, k < count → p[k]? = some s →
      a < p.placeOf start k ∨ p.placeOf start k + s.size ≤ a) →
    written.get a = m.get a

theorem Written.initial (p : Plan) (start : Nat) (m : Guest.Memory) : p.Written start 0 m m :=
  ⟨rfl, fun k _ before => absurd before (Nat.not_lt_zero k), fun _ _ _ => rfl⟩

variable {count : Nat} {m written : Guest.Memory}

theorem Written.size (done : p.Written start count m written) : written.size = m.size := by
  rw [done.frame]
  rfl

theorem Written.advance (done : p.Written start count m written) (found : p[count]? = some s)
    (fits : p.placeOf start count + s.size ≤ m.size) :
    p.Written start (count + 1) m (written.splice (p.placeOf start count) s.bytes) := by
  have reached : p.placeOf start count + s.bytes.length ≤ pow2 Guest.Memory.level :=
    Nat.le_trans fits m.size_le
  refine ⟨?_, fun k t before listed => ?_, fun a inside apart => ?_⟩
  · rw [written.splice_frame, done.frame]
  · rcases Nat.lt_succ_iff_lt_or_eq.mp before with earlier | rfl
    · have ahead := placeOf_before start earlier listed
      rw [Guest.Memory.slice_splice_outside written reached (by omega) ahead]
      exact done.stored k t earlier listed
    · cases found.symm.trans listed
      exact Guest.Memory.slice_splice written reached
  · rw [Guest.Memory.get_splice_outside written reached inside
      (apart count s (Nat.lt_succ_self count) found)]
    exact done.outside a inside fun k t before listed =>
      apart k t (Nat.lt_succ_of_lt before) listed

end Plan

namespace Marshal

open Plan

theorem segmentsFrom_unplaced (values : List Value) (index : Nat) (front : List UInt64) :
    (segmentsFrom index front.length values).Unplaced (front ++ blankWords values) ∧
      ∀ s ∈ segmentsFrom index front.length values, front.length ≤ s.wordIndex := by
  induction values generalizing index front with
  | nil => exact ⟨⟨by simp [segmentsFrom], by simp [segmentsFrom], .nil⟩, by simp [segmentsFrom]⟩
  | cons v rest ih =>
    cases scaled : v.scalar? with
    | some word =>
      obtain ⟨unplaced, behind⟩ := ih (index + 1) (front ++ [word])
      simp only [List.length_append, List.length_singleton, List.append_assoc,
        List.singleton_append] at unplaced behind
      simp only [segmentsFrom, blankWords, scaled]
      exact ⟨unplaced, fun s member => Nat.le_of_succ_le (behind s member)⟩
    | none =>
      obtain ⟨unplaced, behind⟩ :=
        ih (index + 1) (front ++ [0, UInt64.ofNat (v.payload?.getD []).length])
      simp only [List.length_append, List.length_cons, List.length_nil, List.append_assoc,
        List.cons_append, List.nil_append] at unplaced behind
      simp only [segmentsFrom, blankWords, scaled]
      refine ⟨⟨?_, ?_, ?_⟩, ?_⟩
      · simpa using unplaced.unbound
      · simpa using unplaced.blank
      · exact List.pairwise_cons.mpr
          ⟨fun s member => Nat.lt_of_succ_le (Nat.le_of_succ_le (behind s member)), unplaced.apart⟩
      · intro s member
        rcases List.mem_cons.mp member with rfl | later
        · exact Nat.le_refl _
        · exact Nat.le_of_succ_le (Nat.le_of_succ_le (behind s later))

end Marshal

namespace CallContext

structure Ready (c : CallContext) (i : Instance) (m : Guest.Memory) : Prop where
  unplaced : c.plan.Unplaced c.words
  memory : i.memory? = some m
  small : m.size < Instance.addressBound
  aligned : i.heapCursor % Instance.alignment = 0
  inside : i.heapCursor ≤ m.size

structure Placed (c : CallContext) (i : Instance) (m : Guest.Memory) (count : Nat)
    (words : List UInt64) (plan : Plan) (next : Instance) : Prop where
  segments (k : Nat) : plan[k]? = c.plan[k]?.map fun s =>
    { s with address := if k < count then some (c.plan.placeOf i.heapCursor k) else none }
  pointers (k : Nat) (s : Segment) : c.plan[k]? = some s → words[s.wordIndex]? =
    some (if k < count then UInt64.ofNat (c.plan.placeOf i.heapCursor k) else 0)
  others (j : Nat) : (∀ s ∈ c.plan, s.wordIndex ≠ j) → words[j]? = c.words[j]?
  memory : ∃ written, c.plan.Written i.heapCursor count m written ∧
    next = { i.setMemory written with heapCursor := c.plan.placeOf i.heapCursor count }

variable {c : CallContext} {i next : Instance} {m : Guest.Memory} {count : Nat}
  {words : List UInt64} {plan : Plan} {s : Segment}

theorem Placed.initial (ready : Ready c i m) : Placed c i m 0 c.words c.plan i := by
  refine ⟨fun k => ?_, fun k s listed => ?_, fun _ _ => rfl,
    m, .initial _ _ _, (Instance.setMemory_self ready.memory).symm⟩
  · cases listed : c.plan[k]? with
    | none => rfl
    | some s =>
      have unbound := ready.unplaced.unbound s (List.mem_of_getElem? listed)
      rw [Option.map_some, if_neg (Nat.not_lt_zero k), ← unbound]
  · rw [if_neg (Nat.not_lt_zero k)]
    exact ready.unplaced.blank s (List.mem_of_getElem? listed)

theorem wordIndex_ne {p : Plan} (fresh : p.Unplaced words) {j k : Nat} {s t : Segment}
    (first : p[j]? = some s) (second : p[k]? = some t) (apart : j ≠ k) :
    s.wordIndex ≠ t.wordIndex := by
  obtain ⟨_, rfl⟩ := List.getElem?_eq_some_iff.mp first
  obtain ⟨_, rfl⟩ := List.getElem?_eq_some_iff.mp second
  have ordered := List.pairwise_iff_getElem.mp fresh.apart
  rcases Nat.lt_or_gt_of_ne apart with less | more
  · exact Nat.ne_of_lt (ordered j k _ _ less)
  · exact Nat.ne_of_gt (ordered k j _ _ more)

theorem Placed.length (done : Placed c i m count words plan next) :
    plan.length = c.plan.length := by
  have ended := done.segments plan.length
  have covered := done.segments c.plan.length
  rw [List.getElem?_eq_none (Nat.le_refl _), eq_comm, Option.map_eq_none_iff] at ended
  rw [List.getElem?_eq_none (l := c.plan) (Nat.le_refl _), Option.map_none] at covered
  exact Nat.le_antisymm (List.getElem?_eq_none_iff.mp covered) (List.getElem?_eq_none_iff.mp ended)

theorem Placed.segments_set (done : Placed c i m count words plan next)
    (listed : c.plan[count]? = some s) (k : Nat) :
    (plan.set count { s with address := some (c.plan.placeOf i.heapCursor count) })[k]? =
      c.plan[k]?.map fun t => { t with
        address := if k < count + 1 then some (c.plan.placeOf i.heapCursor k) else none } := by
  by_cases same : count = k
  · subst same
    obtain ⟨within, _⟩ := List.getElem?_eq_some_iff.mp listed
    rw [List.getElem?_set_self (done.length ▸ within), listed, Option.map_some,
      if_pos (Nat.lt_succ_self count)]
  · have unmoved : k < count + 1 ↔ k < count := by omega
    rw [List.getElem?_set_ne same, done.segments k]
    simp only [unmoved]

theorem Placed.pointers_set (done : Placed c i m count words plan next)
    (fresh : c.plan.Unplaced c.words) (listed : c.plan[count]? = some s) {k : Nat} {t : Segment}
    (other : c.plan[k]? = some t) :
    (words.set s.wordIndex (UInt64.ofNat (c.plan.placeOf i.heapCursor count)))[t.wordIndex]? =
      some (if k < count + 1 then UInt64.ofNat (c.plan.placeOf i.heapCursor k) else 0) := by
  by_cases same : count = k
  · subst same
    cases listed.symm.trans other
    obtain ⟨within, _⟩ := List.getElem?_eq_some_iff.mp (done.pointers count s listed)
    rw [List.getElem?_set_self within, if_pos (Nat.lt_succ_self count)]
  · have unmoved : k < count + 1 ↔ k < count := by omega
    rw [List.getElem?_set_ne (wordIndex_ne fresh listed other same), done.pointers k t other]
    simp only [unmoved]

theorem Placed.advance (ready : Ready c i m) (done : Placed c i m count words plan next)
    (listed : c.plan[count]? = some s)
    (fits : c.plan.placeOf i.heapCursor count + s.size ≤ m.size) :
    ∃ later, next.allocate s.bytes = .ok (c.plan.placeOf i.heapCursor count, later) ∧
      Placed c i m (count + 1)
        (words.set s.wordIndex (UInt64.ofNat (c.plan.placeOf i.heapCursor count)))
        (plan.set count { s with address := some (c.plan.placeOf i.heapCursor count) }) later := by
  obtain ⟨written, filled, rfl⟩ := done.memory
  have opened : ({ i.setMemory written with heapCursor := c.plan.placeOf i.heapCursor count } :
      Instance).memory? = some written := Instance.memory_setMemory ready.memory written
  have small := ready.small
  have room : c.plan.placeOf i.heapCursor count + s.bytes.length ≤ m.size := fits
  rw [← filled.size] at small room
  have allocated := Instance.allocate_fitting s.bytes opened small
    (c.plan.placeOf_aligned ready.aligned count) room
  refine ⟨_, allocated, done.segments_set listed, fun k t other =>
    done.pointers_set ready.unplaced listed other, fun j elsewhere => ?_, ?_⟩
  · rw [List.getElem?_set_ne (elsewhere s (List.mem_of_getElem? listed)), done.others j elsewhere]
  · refine ⟨_, filled.advance listed fits, ?_⟩
    rw [Instance.setMemory_again, Plan.placeOf_succ listed]
    rfl

theorem Placed.refuse (ready : Ready c i m) (done : Placed c i m count words plan next)
    (reached : c.plan.placeOf i.heapCursor count ≤ m.size)
    (misfit : m.size < c.plan.placeOf i.heapCursor count + s.size) :
    next.allocate s.bytes =
      .error (.outOfMemory s.size (m.size - c.plan.placeOf i.heapCursor count)) := by
  obtain ⟨written, filled, rfl⟩ := done.memory
  have opened : ({ i.setMemory written with heapCursor := c.plan.placeOf i.heapCursor count } :
      Instance).memory? = some written := Instance.memory_setMemory ready.memory written
  rw [← filled.size] at reached misfit ⊢
  exact Instance.allocate_misfit opened reached misfit

theorem Placed.listed {front rest : Plan} (ready : Ready c i m)
    (done : Placed c i m front.length words (front ++ s :: rest) next) :
    c.plan[front.length]? = some s := by
  have met := done.segments front.length
  rw [List.getElem?_append_right (Nat.le_refl _), Nat.sub_self, List.getElem?_cons_zero,
    if_neg (Nat.lt_irrefl _)] at met
  obtain ⟨t, listed, same⟩ := Option.map_eq_some_iff.mp met.symm
  have unbound := ready.unplaced.unbound t (List.mem_of_getElem? listed)
  rw [listed, ← same, ← unbound]

-- How binding ends: every buffer has its place, or the first one that does not fit has stopped it.
inductive Outcome (c : CallContext) (i : Instance) (m : Guest.Memory) :
    Instance × List UInt64 × Plan × Except Fault Unit → Prop
  | all {words : List UInt64} {plan : Plan} {next : Instance} :
      (∀ k, c.plan.FitsAt i.heapCursor m.size k) →
      Placed c i m c.plan.length words plan next → Outcome c i m (next, words, plan, .ok ())
  | full {k : Nat} {s : Segment} {words : List UInt64} {plan : Plan} {next : Instance} :
      c.plan[k]? = some s → m.size < c.plan.placeOf i.heapCursor k + s.size →
      (∀ j < k, c.plan.FitsAt i.heapCursor m.size j) → Placed c i m k words plan next →
      Outcome c i m (next, words, plan, .error ((Fault.outOfMemory s.size
        (m.size - c.plan.placeOf i.heapCursor k)).withContext "segment" (.text s.name)))

-- By induction on the segments that are left; those in `front` have been placed.
theorem bindFrom_outcome {front rest : Plan} (ready : Ready c i m)
    (done : Placed c i m front.length words (front ++ rest) next)
    (earlier : ∀ k < front.length, c.plan.FitsAt i.heapCursor m.size k)
    (reached : c.plan.placeOf i.heapCursor front.length ≤ m.size) :
    Outcome c i m (bindFrom next words front rest) := by
  induction rest generalizing front words next with
  | nil =>
    rw [List.append_nil] at done
    -- There is no segment at a position beyond the last one.
    refine .all (fun k => ?_) (done.length ▸ done)
    rcases Nat.lt_or_ge k front.length with before | beyond
    · exact earlier k before
    · intro s listed
      rw [List.getElem?_eq_none (done.length ▸ beyond)] at listed
      cases listed
  | cons s rest ih =>
    have listed := done.listed ready
    unfold bindFrom
    rw [ready.unplaced.unbound s (List.mem_of_getElem? listed)]
    by_cases fits : c.plan.placeOf i.heapCursor front.length + s.size ≤ m.size
    · obtain ⟨later, allocated, placed⟩ := done.advance ready listed fits
      simp only [allocated]
      refine ih ?_ ?_ ?_
      · simpa using placed
      · intro k before
        rw [List.length_append, List.length_singleton] at before
        rcases Nat.lt_succ_iff_lt_or_eq.mp before with sooner | rfl
        · exact earlier k sooner
        · intro t found
          cases listed.symm.trans found
          exact fits
      · rw [List.length_append, List.length_singleton, Plan.placeOf_succ listed,
          ← Instance.alignUp_fitting (c.plan.placeOf_aligned ready.aligned _) fits]
        exact Nat.min_le_right _ _
    · have misfit := Nat.lt_of_not_le fits
      simp only [done.refuse ready reached misfit]
      exact .full listed misfit earlier done

theorem build_unplaced {p : CallParams} {marshal : MarshalSettings} {execution : ExecutionSettings}
    {now : Nat} (built : build p marshal execution now = .ok c) : c.plan.Unplaced c.words := by
  obtain ⟨_, _, coded⟩ := build_parts built
  obtain ⟨parts, _⟩ := Marshal.encode_parts coded
  injection parts with words types plan
  rw [words, plan]
  exact (Marshal.segmentsFrom_unplaced p.args 0 []).1

theorem bindFrom_bound (i : Instance) (words : List UInt64) (done : Plan)
    (bound : ∀ s ∈ plan, s.address.isSome) :
    bindFrom i words done plan = (i, words, done ++ plan, .ok ()) := by
  induction plan generalizing done with
  | nil => rw [bindFrom, List.append_nil]
  | cons s rest ih =>
    obtain ⟨address, place⟩ := Option.isSome_iff_exists.mp (bound s List.mem_cons_self)
    rw [bindFrom, place]
    dsimp only
    rw [ih _ fun t member => bound t (List.mem_cons_of_mem _ member), List.append_assoc]
    rfl

theorem bind_outcome (ready : Ready c i m) :
    Outcome c i m ((c.bind i).2.1, (c.bind i).1.words, (c.bind i).1.plan, (c.bind i).2.2) := by
  have none : ∀ k < ([] : Plan).length, c.plan.FitsAt i.heapCursor m.size k :=
    fun k before => absurd before (Nat.not_lt_zero k)
  have ended : Outcome c i m (bindFrom i c.words [] c.plan) :=
    bindFrom_outcome ready (.initial ready) none ready.inside
  unfold bind
  generalize bindFrom i c.words [] c.plan = reached at ended
  obtain ⟨next, words, plan, result⟩ := reached
  exact ended

theorem Placed.bind_again {bound : CallContext}
    (done : Placed c i m c.plan.length bound.words bound.plan next) :
    bound.bind next = (bound, next, .ok ()) := by
  have places : ∀ s ∈ bound.plan, s.address.isSome := by
    intro s member
    obtain ⟨k, within, rfl⟩ := List.mem_iff_getElem.mp member
    have placed := done.segments k
    rw [List.getElem?_eq_getElem within, if_pos (done.length ▸ within)] at placed
    obtain ⟨t, _, same⟩ := Option.map_eq_some_iff.mp placed.symm
    rw [← same]
    rfl
  rw [bind, bindFrom_bound next bound.words [] places]
  rfl

structure Binding (c : CallContext) (i : Instance) (m : Guest.Memory) : Prop where
  context : (c.bind i).1 = { c with words := (c.bind i).1.words, plan := (c.bind i).1.plan }
  exactly : (c.bind i).2.2 = .ok () ↔ ∀ k, c.plan.FitsAt i.heapCursor m.size k
  success (bound : CallContext) (next : Instance) : c.bind i = (bound, next, .ok ()) →
    Placed c i m c.plan.length bound.words bound.plan next ∧
      bound.bind next = (bound, next, .ok ())
  failure (bound : CallContext) (next : Instance) (f : Fault) :
    c.bind i = (bound, next, .error f) → ∃ k s, c.plan[k]? = some s ∧
      m.size < c.plan.placeOf i.heapCursor k + s.size ∧
      (∀ j < k, c.plan.FitsAt i.heapCursor m.size j) ∧
      Placed c i m k bound.words bound.plan next ∧ f.code = "OUT_OF_MEMORY" ∧
      f = (Fault.outOfMemory s.size (m.size - c.plan.placeOf i.heapCursor k)).withContext "segment"
        (.text s.name)

theorem binding_exact {p : CallParams} {marshal : MarshalSettings} {execution : ExecutionSettings}
    {now : Nat} (built : build p marshal execution now = .ok c) (found : i.memory? = some m)
    (small : m.size < Instance.addressBound) (aligned : i.heapCursor % Instance.alignment = 0)
    (inside : i.heapCursor ≤ m.size) : Binding c i m := by
  have ended := bind_outcome ⟨build_unplaced built, found, small, aligned, inside⟩
  refine ⟨bind_context rfl, ?_, fun bound next binding => ?_, fun bound next f binding => ?_⟩
  · generalize (c.bind i).2.2 = result at ended
    cases ended with
    | all fits _ => exact ⟨fun _ => fits, fun _ => rfl⟩
    | full listed misfit _ _ =>
      refine ⟨fun done => (by cases done), fun fits => ?_⟩
      exact absurd (fits _ _ listed) (Nat.not_le.mpr misfit)
  · rw [binding] at ended
    cases ended with
    | all _ done => exact ⟨done, done.bind_again⟩
  · rw [binding] at ended
    cases ended with
    | full listed misfit earlier done => exact ⟨_, _, listed, misfit, earlier, done, rfl, rfl⟩

-- The cursor leaves room for one short buffer and for empty ones at the very end.
def late : Instance := { pages with heapCursor := 131064 }

theorem binding_exact_late :
    ∃ c m, build letter {} {} 0 = .ok c ∧ late.memory? = some m ∧
      m.size < Instance.addressBound ∧ late.heapCursor % Instance.alignment = 0 ∧
      late.heapCursor ≤ m.size ∧ Binding c late m ∧
      (c.bind late).1.plan.map Segment.address = [some 131064, some 131072, some 131072, none] :=
  ⟨_, _, rfl, rfl, by decide, rfl, by decide,
    @binding_exact _ late _ letter {} {} 0 rfl rfl (by decide) rfl (by decide), rfl⟩

end CallContext

end Tollgate
