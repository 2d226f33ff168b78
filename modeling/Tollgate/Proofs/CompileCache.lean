import Tollgate.Proofs.CacheCoherence
import Tollgate.Session

namespace Tollgate

def Source.hash (source : Source) : String := contentHash source.raw

def Source.build (load : Guest.Loader) : Source → EngineSettings → Except Fault Contract
  | .bytes b, engine => Contract.ofBytes load engine b
  | .text t, engine => Contract.ofSource load engine t

inductive CacheRequest
  | compile (source : Source)
  | evict (hash : String)
  | takeEvicted
  | close

inductive CacheReply
  | compiled (result : Except Fault Contract)
  | removed (found : Bool)
  | noted (hashes : List String)
  | done

def CacheReply.hashes : CacheReply → List String
  | .noted hashes => hashes
  | _ => []

namespace Vm

def answer (vm : Vm) : CacheRequest → Vm × CacheReply
  | .compile (.bytes b) => ((vm.compile b).1, .compiled (vm.compile b).2)
  | .compile (.text t) => ((vm.compileSource t).1, .compiled (vm.compileSource t).2)
  | .evict hash => ((vm.evict hash).1, .removed (vm.evict hash).2)
  | .takeEvicted => (vm.takeEvicted.1, .noted vm.takeEvicted.2)
  | .close => (vm.close, .done)

def order (vm : Vm) : List String := vm.cache.map Contract.hash

end Vm

-- A map from hashes to contracts, and a queue of its keys.
structure Shelf where
  held : Table Contract := .empty
  order : List String := []
  noted : List String := []
  closed : Bool := false

namespace Shelf

-- Pops keys off the front of a queue, each with its contract, until the capacity holds the rest.
def drain (capacity : Nat) (s : Shelf) : List String → Shelf
  | [] => { s with order := [] }
  | oldest :: rest =>
    if capacity < rest.length + 1 then
      drain capacity { s with held := s.held.erase oldest, noted := s.noted ++ [oldest] } rest
    else { s with order := oldest :: rest }

def insert (capacity : Nat) (s : Shelf) (c : Contract) : Shelf :=
  if capacity = 0 then s
  else
    drain capacity { s with held := s.held.insert c.hash c }
      (if s.held.contains c.hash then s.order else s.order ++ [c.hash])

def answer (load : Guest.Loader) (engine : EngineSettings) (s : Shelf) :
    CacheRequest → Shelf × CacheReply
  | .compile source =>
    if s.closed then (s, .compiled (.error Vm.closedFault))
    else match s.held.get? source.hash with
      | some c => (s, .compiled (.ok c))
      | none =>
        match source.build load engine with
        | .error f => (s, .compiled (.error f))
        | .ok c => (s.insert engine.cacheSize c, .compiled (.ok c))
  | .evict hash =>
    if s.held.contains hash then
      ({ s with held := s.held.erase hash, order := s.order.filter (· ≠ hash) }, .removed true)
    else (s, .removed false)
  | .takeEvicted => ({ s with noted := [] }, .noted s.noted)
  | .close =>
    if s.closed then (s, .done)
    else ({ s with held := .empty, order := [], closed := true }, .done)

end Shelf

-- A contract is known by the hash of its source, whatever the loader makes of it.
theorem Source.build_hash {load : Guest.Loader} {source : Source} {engine : EngineSettings}
    {c : Contract} (built : source.build load engine = .ok c) : c.hash = source.hash := by
  have accepted : ∀ {form hash : String} {size : Nat} {loaded : Except String Guest.Module},
      Contract.accept engine form hash size loaded = .ok c → c.hash = hash := by
    intro form hash size loaded accepted
    unfold Contract.accept at accepted
    split at accepted
    · cases accepted
    · split at accepted
      · cases accepted
        rfl
      · cases accepted
  cases source with
  | bytes b =>
    simp only [build, Contract.ofBytes] at built
    split at built
    · cases built
    · split at built
      · cases built
      · split at built
        · cases built
        · split at built
          · cases built
          · exact accepted built
  | text t =>
    simp only [build, Contract.ofSource] at built
    split at built
    · cases built
    · exact accepted built

namespace Vm

variable {vm : Vm}

theorem compile_answer (vm : Vm) (source : Source) :
    vm.answer (.compile source) = ((vm.compileWith source.hash (source.build vm.load)).1,
      .compiled (vm.compileWith source.hash (source.build vm.load)).2) := by
  cases source <;> rfl

theorem cached_order (vm : Vm) (hash : String) : (vm.cached? hash).isSome ↔ hash ∈ vm.order := by
  rw [cached_iff]
  simp [order]

-- The cache holds no hash twice and no more than its capacity, and nothing once it is closed.
structure Stocked (vm : Vm) : Prop where
  distinct : vm.order.Nodup
  room : vm.order.length ≤ vm.engine.cacheSize
  shut : vm.closed = true → vm.cache = []

inductive Turnover (vm : Vm) : CacheRequest → Vm × CacheReply → Prop
  | refused {source : Source} : vm.closed = true →
      Turnover vm (.compile source) (vm, .compiled (.error closedFault))
  | hit {source : Source} {c : Contract} : vm.closed = false →
      vm.cached? source.hash = some c → Turnover vm (.compile source) (vm, .compiled (.ok c))
  | failed {source : Source} {f : Fault} : vm.closed = false → source.hash ∉ vm.order →
      source.build vm.load vm.engine = .error f →
      Turnover vm (.compile source) (vm, .compiled (.error f))
  | unkept {source : Source} {c : Contract} : vm.closed = false → source.hash ∉ vm.order →
      source.build vm.load vm.engine = .ok c → vm.engine.cacheSize = 0 →
      Turnover vm (.compile source) (vm, .compiled (.ok c))
  | entered {source : Source} {c : Contract} : vm.closed = false → source.hash ∉ vm.order →
      source.build vm.load vm.engine = .ok c → vm.order.length < vm.engine.cacheSize →
      Turnover vm (.compile source) ({ vm with cache := vm.cache ++ [c] }, .compiled (.ok c))
  | displaced {source : Source} {c oldest : Contract} {rest : List Contract} :
      vm.closed = false → source.hash ∉ vm.order → source.build vm.load vm.engine = .ok c →
      vm.order.length = vm.engine.cacheSize → vm.cache = oldest :: rest →
      Turnover vm (.compile source)
        ({ vm with cache := rest ++ [c], evicted := vm.evicted ++ [oldest.hash] },
          .compiled (.ok c))
  | removed {hash : String} :
      Turnover vm (.evict hash)
        ({ vm with cache := vm.cache.filter fun c => c.hash ≠ hash },
          .removed (vm.cached? hash).isSome)
  | taken : Turnover vm .takeEvicted ({ vm with evicted := [] }, .noted vm.evicted)
  | shut : Turnover vm .close ({ vm with closed := true, cache := [] }, .done)

theorem remember_turnover (stocked : vm.Stocked) (opened : vm.closed = false) {source : Source}
    (new : source.hash ∉ vm.order) {c : Contract} (built : source.build vm.load vm.engine = .ok c) :
    Turnover vm (.compile source) (vm.remember c, .compiled (.ok c)) := by
  have same := Source.build_hash built
  have unknown : (vm.cached? c.hash).isSome = false := by
    rw [← Bool.not_eq_true, vm.cached_order, same]
    exact new
  have room := stocked.room
  unfold remember
  rw [unknown]
  split
  · rename_i none
    exact .unkept opened new built none
  · rename_i some
    simp only [Bool.false_eq_true, if_false, trim, List.length_append, List.length_singleton]
    have length : vm.order.length = vm.cache.length := List.length_map _
    rcases Nat.lt_or_ge vm.cache.length vm.engine.cacheSize with less | full
    · have none : vm.cache.length + 1 - vm.engine.cacheSize = 0 := by omega
      simpa [none] using Turnover.entered opened new built (length ▸ less)
    · have one : vm.cache.length + 1 - vm.engine.cacheSize = 1 := by omega
      rw [one]
      cases cache : vm.cache with
      | nil =>
        rw [cache] at full
        exact absurd (Nat.le_zero.mp full) some
      | cons oldest rest =>
        simpa using Turnover.displaced opened new built (by omega) cache

theorem answer_turnover (stocked : vm.Stocked) (r : CacheRequest) :
    Turnover vm r (vm.answer r) := by
  cases r with
  | compile source =>
    rw [compile_answer]
    unfold compileWith
    split
    · rename_i closed
      exact .refused closed
    · rename_i opened
      have opened : vm.closed = false := by simpa using opened
      cases found : vm.cached? source.hash with
      | some c => exact .hit opened found
      | none =>
        have new : source.hash ∉ vm.order := by
          rw [← vm.cached_order, found]
          exact Bool.false_ne_true
        dsimp only
        cases built : source.build vm.load vm.engine with
        | error f => exact .failed opened new built
        | ok c => exact remember_turnover stocked opened new built
  | evict hash => exact .removed
  | takeEvicted => exact .taken
  | close =>
    cases closed : vm.closed with
    | true =>
      -- What is closed is empty already, so that closing it again comes to the same.
      have same : vm.answer .close = ({ vm with closed := true, cache := [] }, .done) := by
        have none := stocked.shut closed
        obtain ⟨engine, load, execution, offered, cache, evicted, shut⟩ := vm
        cases closed
        cases none
        rfl
      rw [same]
      exact .shut
    | false =>
      have same : vm.answer .close = ({ vm with closed := true, cache := [] }, .done) := by
        simp [answer, Vm.close, closed]
      rw [same]
      exact .shut

theorem nodup_snoc {hashes : List String} {hash : String} (distinct : hashes.Nodup)
    (new : hash ∉ hashes) : (hashes ++ [hash]).Nodup :=
  (List.perm_append_singleton hash hashes).nodup_iff.mpr (List.nodup_cons.mpr ⟨new, distinct⟩)

theorem Stocked.sublist {after : Vm} (stocked : vm.Stocked) (engine : after.engine = vm.engine)
    (less : after.order.Sublist vm.order) (shut : after.closed = true → after.cache = []) :
    after.Stocked :=
  ⟨less.nodup stocked.distinct, engine ▸ Nat.le_trans less.length_le stocked.room, shut⟩

theorem Turnover.stocked {r : CacheRequest} {result : Vm × CacheReply} (stocked : vm.Stocked)
    (turnover : Turnover vm r result) : result.1.Stocked ∧
      result.1.load = vm.load ∧ result.1.engine = vm.engine := by
  -- An open machine room need not be empty.
  have live : ∀ {P : Prop}, vm.closed = false → vm.closed = true → P := by
    intro P opened closed
    rw [opened] at closed
    cases closed
  refine ⟨?_, by cases turnover <;> exact ⟨rfl, rfl⟩⟩
  cases turnover with
  | refused | hit | failed | unkept => exact stocked
  | entered opened new built room =>
    refine ⟨?_, ?_, live opened⟩
    · rw [order, List.map_append]
      exact nodup_snoc stocked.distinct (Source.build_hash built ▸ new)
    · simpa [order] using Nat.succ_le_of_lt room
  | @displaced source c oldest rest opened new built full cache =>
    have distinct := stocked.distinct
    rw [order, cache, List.map_cons, List.mem_cons] at new
    rw [order, cache, List.map_cons, List.nodup_cons] at distinct
    refine ⟨?_, ?_, live opened⟩
    · rw [order, List.map_append]
      exact nodup_snoc distinct.2 (Source.build_hash built ▸ (not_or.mp new).2)
    · rw [order, cache] at full
      simpa [order] using Nat.le_of_eq full
  | removed =>
    refine stocked.sublist rfl (List.filter_sublist.map _) ?_
    intro closed
    change vm.cache.filter _ = []
    rw [stocked.shut closed, List.filter_nil]
  | taken => exact ⟨stocked.distinct, stocked.room, stocked.shut⟩
  | shut => exact stocked.sublist rfl (List.nil_sublist _) fun _ => rfl

theorem find_absent {cache : List Contract} {hash : String}
    (absent : hash ∉ cache.map Contract.hash) :
    (cache.find? fun c => c.hash == hash) = none := by
  refine List.find?_eq_none.mpr ?_
  intro c member known
  exact absent (List.mem_map.mpr ⟨c, member, by simpa using known⟩)

theorem cached_absent {hash : String} (absent : hash ∉ vm.order) : vm.cached? hash = none :=
  find_absent absent

theorem find_snoc {cache : List Contract} {c : Contract} (new : c.hash ∉ cache.map Contract.hash)
    (hash : String) :
    (cache ++ [c]).find? (fun c => c.hash == hash) =
      if hash = c.hash then some c else cache.find? fun c => c.hash == hash := by
  rw [List.find?_append]
  split
  · rename_i same
    subst same
    simp [find_absent new]
  · rename_i apart
    have other : (c.hash == hash) = false := beq_eq_false_iff_ne.mpr (Ne.symm apart)
    simp [other]

theorem cached_evict (vm : Vm) (hash other : String) :
    (vm.evict hash).1.cached? other = if other = hash then none else vm.cached? other := by
  change (vm.cache.filter fun c => decide (c.hash ≠ hash)).find? (fun c => c.hash == other) = _
  rw [List.find?_filter]
  split
  · rename_i same
    refine List.find?_eq_none.mpr ?_
    intro c _
    simp [same]
  · rename_i apart
    unfold cached?
    congr 1
    funext c
    by_cases same : c.hash = other
    · simp [same, apart]
    · simp [same]

end Vm

namespace Shelf

variable {s : Shelf} {vm : Vm}

-- Map and queue hold what the list holds.
structure Mirrors (s : Shelf) (vm : Vm) : Prop where
  order : s.order = vm.order
  held : ∀ hash, s.held.get? hash = vm.cached? hash
  rising : s.held.Ordered
  noted : s.noted = vm.evicted
  closed : s.closed = vm.closed

theorem Mirrors.keys (mirrors : s.Mirrors vm) (distinct : vm.order.Nodup) :
    s.held.keys.Perm s.order := by
  refine (List.perm_ext_iff_of_nodup mirrors.rising.keys_nodup (mirrors.order ▸ distinct)).mpr ?_
  intro hash
  rw [← s.held.contains_iff, Table.contains, mirrors.held, vm.cached_order, mirrors.order]

theorem drain_within {capacity : Nat} {order : List String} (s : Shelf)
    (room : order.length ≤ capacity) : drain capacity s order = { s with order := order } := by
  cases order with
  | nil => rfl
  | cons oldest rest => exact if_neg (Nat.not_lt.mpr room)

theorem drain_over {capacity : Nat} {oldest : String} {rest : List String} (s : Shelf)
    (full : rest.length = capacity) : drain capacity s (oldest :: rest) =
      { s with held := s.held.erase oldest, noted := s.noted ++ [oldest], order := rest } := by
  have beyond : capacity < rest.length + 1 := by omega
  unfold drain
  rw [if_pos beyond, drain_within _ (Nat.le_of_eq full)]

theorem Mirrors.contains (mirrors : s.Mirrors vm) (hash : String) :
    s.held.contains hash = (vm.cached? hash).isSome := by
  rw [Table.contains, mirrors.held]

theorem Mirrors.insert_within (mirrors : s.Mirrors vm) {c : Contract} (new : c.hash ∉ vm.order)
    (room : vm.order.length < vm.engine.cacheSize) :
    (s.insert vm.engine.cacheSize c).Mirrors { vm with cache := vm.cache ++ [c] } := by
  have unknown : s.held.contains c.hash = false := by
    rw [mirrors.contains, Vm.cached_absent new]
    rfl
  have within : (s.order ++ [c.hash]).length ≤ vm.engine.cacheSize := by
    rw [mirrors.order, List.length_append]
    exact room
  have inserted : s.insert vm.engine.cacheSize c =
      { s with held := s.held.insert c.hash c, order := s.order ++ [c.hash] } := by
    unfold insert
    rw [if_neg (Nat.ne_of_gt (Nat.zero_lt_of_lt room)), unknown]
    exact drain_within _ within
  rw [inserted]
  refine ⟨?_, ?_, mirrors.rising.insert _ _, mirrors.noted, mirrors.closed⟩
  · simp [Vm.order, mirrors.order]
  · intro hash
    change (s.held.insert c.hash c).get? hash = (vm.cache ++ [c]).find? _
    rw [Table.get_insert, mirrors.held, Vm.find_snoc new]
    rfl

theorem Mirrors.insert_over (mirrors : s.Mirrors vm) (stocked : vm.Stocked) {c oldest : Contract}
    {rest : List Contract} (new : c.hash ∉ vm.order)
    (full : vm.order.length = vm.engine.cacheSize) (cache : vm.cache = oldest :: rest) :
    (s.insert vm.engine.cacheSize c).Mirrors
      { vm with cache := rest ++ [c], evicted := vm.evicted ++ [oldest.hash] } := by
  have unknown : s.held.contains c.hash = false := by
    rw [mirrors.contains, Vm.cached_absent new]
    rfl
  have order : vm.order = oldest.hash :: rest.map Contract.hash := by
    rw [Vm.order, cache, List.map_cons]
  have length : (rest.map Contract.hash ++ [c.hash]).length = vm.engine.cacheSize := by
    rw [← full, order]
    simp
  have some : vm.engine.cacheSize ≠ 0 := by
    rw [← full, order]
    exact Nat.succ_ne_zero _
  have inserted : s.insert vm.engine.cacheSize c =
      { s with
        held := (s.held.insert c.hash c).erase oldest.hash
        noted := s.noted ++ [oldest.hash]
        order := rest.map Contract.hash ++ [c.hash] } := by
    unfold insert
    rw [if_neg some, unknown, mirrors.order, order]
    exact drain_over _ length
  -- The hash that leaves is not the new one, and nothing else in the queue has it.
  have distinct := stocked.distinct
  rw [order, List.nodup_cons] at distinct
  rw [order, List.mem_cons, not_or] at new
  rw [inserted]
  refine ⟨?_, ?_, (mirrors.rising.insert _ _).erase _, ?_, mirrors.closed⟩
  · simp [Vm.order]
  · intro hash
    change ((s.held.insert c.hash c).erase oldest.hash).get? hash = (rest ++ [c]).find? _
    rw [Table.get_erase, Table.get_insert, mirrors.held, Vm.find_snoc new.2, Vm.cached?, cache]
    by_cases first : hash = oldest.hash
    · subst first
      simp [Ne.symm new.1, Vm.find_absent distinct.1]
    · have other : (oldest.hash == hash) = false := beq_eq_false_iff_ne.mpr (Ne.symm first)
      simp [first, other]
  · rw [mirrors.noted]

theorem Mirrors.evict (mirrors : s.Mirrors vm) (hash : String) :
    (s.answer vm.load vm.engine (.evict hash)).1.Mirrors (vm.evict hash).1 ∧
      (s.answer vm.load vm.engine (.evict hash)).2 = .removed (vm.evict hash).2 := by
  have order : (vm.evict hash).1.order = vm.order.filter (· ≠ hash) := by
    simp [Vm.order, Vm.evict, List.filter_map, Function.comp_def]
  have known := mirrors.contains hash
  unfold answer
  dsimp only
  split
  · rename_i found
    rw [found] at known
    refine ⟨⟨?_, ?_, mirrors.rising.erase _, mirrors.noted, mirrors.closed⟩, congrArg _ known⟩
    · rw [order, ← mirrors.order]
    · intro other
      rw [Table.get_erase, mirrors.held, Vm.cached_evict]
  · rename_i missing
    have absent : hash ∉ vm.order := by
      rw [← vm.cached_order, ← known]
      exact missing
    refine ⟨⟨?_, ?_, mirrors.rising, mirrors.noted, mirrors.closed⟩, ?_⟩
    · rw [order, mirrors.order]
      refine (List.filter_eq_self.mpr ?_).symm
      intro other member
      exact decide_eq_true fun same => absent (same ▸ member)
    · intro other
      rw [mirrors.held, Vm.cached_evict]
      split
      · rename_i same
        rw [same]
        exact Vm.cached_absent absent
      · rfl
    · rw [show s.held.contains hash = false by simpa using missing] at known
      exact congrArg _ known

theorem Mirrors.answer (mirrors : s.Mirrors vm) (stocked : vm.Stocked) (r : CacheRequest) :
    (s.answer vm.load vm.engine r).1.Mirrors (vm.answer r).1 ∧
      (vm.answer r).2 = (s.answer vm.load vm.engine r).2 := by
  have turnover := Vm.answer_turnover stocked r
  have unknown : ∀ {source : Source}, source.hash ∉ vm.order → s.held.get? source.hash = none := by
    intro source new
    rw [mirrors.held]
    exact Vm.cached_absent new
  have compiled : ∀ {source : Source} {c : Contract}, vm.closed = false →
      source.hash ∉ vm.order → source.build vm.load vm.engine = .ok c →
      s.answer vm.load vm.engine (.compile source) =
        (s.insert vm.engine.cacheSize c, .compiled (.ok c)) := by
    intro source c opened new built
    simp [Shelf.answer, mirrors.closed, opened, unknown new, built]
  generalize vm.answer r = result at turnover
  cases turnover with
  | refused closed => simp [Shelf.answer, mirrors.closed, closed, mirrors]
  | hit opened found => simp [Shelf.answer, mirrors.closed, opened, mirrors.held, found, mirrors]
  | failed opened new failed =>
    simp [Shelf.answer, mirrors.closed, opened, unknown new, failed, mirrors]
  | unkept opened new built none =>
    rw [compiled opened new built, insert, if_pos none]
    exact ⟨mirrors, rfl⟩
  | entered opened new built room =>
    rw [compiled opened new built]
    exact ⟨mirrors.insert_within (Source.build_hash built ▸ new) room, rfl⟩
  | displaced opened new built full cache =>
    rw [compiled opened new built]
    exact ⟨mirrors.insert_over stocked (Source.build_hash built ▸ new) full cache, rfl⟩
  | @removed hash =>
    obtain ⟨left, reply⟩ := mirrors.evict hash
    exact ⟨left, reply.symm⟩
  | taken =>
    exact ⟨⟨mirrors.order, mirrors.held, mirrors.rising, rfl, mirrors.closed⟩,
      congrArg _ mirrors.noted.symm⟩
  | shut =>
    unfold Shelf.answer
    dsimp only
    split
    · rename_i closed
      have none := stocked.shut (mirrors.closed.symm.trans closed)
      refine ⟨⟨?_, ?_, mirrors.rising, mirrors.noted, closed⟩, rfl⟩
      · rw [mirrors.order, Vm.order, none]
        rfl
      · intro hash
        rw [mirrors.held, Vm.cached?, none]
        rfl
    · exact ⟨⟨rfl, fun hash => rfl, .ofEmpty, mirrors.noted, rfl⟩, rfl⟩

structure Beside (load : Guest.Loader) (engine : EngineSettings) (vm : Vm) (s : Shelf) :
    Prop where
  stocked : vm.Stocked
  fixed : vm.load = load ∧ vm.engine = engine
  mirrors : s.Mirrors vm

theorem Beside.answer {load : Guest.Loader} {engine : EngineSettings}
    (beside : Beside load engine vm s) (r : CacheRequest) :
    Beside load engine (vm.answer r).1 (s.answer load engine r).1 ∧
      (vm.answer r).2 = (s.answer load engine r).2 := by
  obtain ⟨stocked, ⟨rfl, rfl⟩, mirrors⟩ := beside
  obtain ⟨next, fixed⟩ := (Vm.answer_turnover stocked r).stocked stocked
  obtain ⟨alike, same⟩ := mirrors.answer stocked r
  exact ⟨⟨next, fixed, alike⟩, same⟩

end Shelf

end Tollgate
