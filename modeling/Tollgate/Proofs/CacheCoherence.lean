import Tollgate.Proofs.History
import Tollgate.Proofs.Requests

namespace Tollgate

namespace Vm

variable {vm : Vm}

theorem cached_iff (vm : Vm) (hash : String) :
    (vm.cached? hash).isSome ↔ ∃ c ∈ vm.cache, c.hash = hash := by
  simp [cached?, List.find?_isSome]

theorem trim_cached {hash : String} (cached : (vm.cached? hash).isSome) :
    (vm.trim.cached? hash).isSome ∨ hash ∈ vm.trim.evicted := by
  obtain ⟨c, member, same⟩ := (vm.cached_iff hash).mp cached
  rw [← List.take_append_drop (vm.cache.length - vm.engine.cacheSize) vm.cache] at member
  rcases List.mem_append.mp member with old | young
  · refine .inr (List.mem_append_right _ ?_)
    exact same ▸ List.mem_map_of_mem old
  · exact .inl ((cached_iff _ hash).mpr ⟨c, young, same⟩)

theorem trim_last {earlier : List Contract} {c : Contract} (roomy : 1 ≤ vm.engine.cacheSize)
    (last : vm.cache = earlier ++ [c]) : (vm.trim.cached? c.hash).isSome := by
  refine (cached_iff _ _).mpr ⟨c, ?_, rfl⟩
  change c ∈ vm.cache.drop (vm.cache.length - vm.engine.cacheSize)
  have few : vm.cache.length - vm.engine.cacheSize ≤ earlier.length := by
    rw [last, List.length_append, List.length_singleton]
    omega
  rw [last, List.drop_append_of_le_length (last ▸ few)]
  exact List.mem_append_right _ List.mem_cons_self

theorem remember_cached (roomy : 1 ≤ vm.engine.cacheSize) (c : Contract) :
    ((vm.remember c).cached? c.hash).isSome := by
  unfold remember
  split
  · omega
  · split
    · rename_i known
      obtain ⟨old, member, same⟩ := (vm.cached_iff c.hash).mp known
      refine (cached_iff _ _).mpr ⟨c, ?_, rfl⟩
      exact List.mem_map.mpr ⟨old, member, if_pos same⟩
    · exact trim_last roomy rfl

-- A contract that is remembered can push another out, but not unnoticed.
theorem remember_keeps {hash : String} (c : Contract) (cached : (vm.cached? hash).isSome) :
    ((vm.remember c).cached? hash).isSome ∨ hash ∈ (vm.remember c).evicted := by
  obtain ⟨old, member, same⟩ := (vm.cached_iff hash).mp cached
  unfold remember
  split
  · exact .inl cached
  · split
    · refine .inl ((cached_iff _ _).mpr ?_)
      refine ⟨if old.hash = c.hash then c else old, List.mem_map.mpr ⟨old, member, rfl⟩, ?_⟩
      split
      · rename_i replaced
        exact replaced.symm.trans same
      · exact same
    · exact trim_cached ((cached_iff _ _).mpr ⟨old, List.mem_append_left _ member, same⟩)

theorem evict_cached {hash other : String} (apart : other ≠ hash)
    (cached : (vm.cached? other).isSome) : ((vm.evict hash).1.cached? other).isSome := by
  obtain ⟨c, member, same⟩ := (vm.cached_iff other).mp cached
  refine (cached_iff _ _).mpr ⟨c, List.mem_filter.mpr ⟨member, ?_⟩, same⟩
  exact decide_eq_true (same ▸ apart)

theorem compile_cached (roomy : 1 ≤ vm.engine.cacheSize) {bytes : List UInt8} {c : Contract}
    (done : (vm.compile bytes).2 = .ok c) :
    ((vm.compile bytes).1.cached? c.hash).isSome ∧
      ∀ hash, (vm.cached? hash).isSome →
        ((vm.compile bytes).1.cached? hash).isSome ∨ hash ∈ (vm.compile bytes).1.evicted := by
  have compiled := vm.compileWith_compiled (contentHash bytes) fun s =>
    Contract.ofBytes vm.load s bytes
  unfold compile at done ⊢
  generalize vm.compileWith (contentHash bytes)
    (fun s => Contract.ofBytes vm.load s bytes) = result at compiled done
  cases compiled with
  | failed => cases done
  | cached found =>
    cases done
    refine ⟨(vm.cached_iff _).mpr ⟨c, List.mem_of_find?_eq_some found, rfl⟩, ?_⟩
    exact fun hash known => .inl known
  | built made =>
    cases done
    exact ⟨remember_cached roomy c, fun hash known => remember_keeps c known⟩

end Vm

-- Every contract with idle instances is cached, and the pool knows of all that were pushed out.
structure Executor.Coherent (e : Executor) : Prop where
  cached : ∀ moduleId, 0 < e.pool.idleCount moduleId → (e.vm.cached? moduleId).isSome
  drained : e.vm.evicted = []

def Request.given : Request → Option Contract
  | .execute _ given _ => given
  | _ => none

namespace Executor

variable {e : Executor} {p : CallParams} {s : Surroundings}

theorem Coherent.sublist {after : Executor} (coherent : e.Coherent) (vm : after.vm = e.vm)
    (less : ∀ moduleId, (after.pool.entries moduleId).Sublist (e.pool.entries moduleId)) :
    after.Coherent := by
  constructor
  · intro moduleId idle
    rw [vm]
    exact coherent.cached moduleId (Nat.lt_of_lt_of_le idle (less moduleId).length_le)
  · rw [vm]
    exact coherent.drained

-- Once the pool has caught up with the cache, both are in step again.
theorem supplied_coherent (coherent : e.Coherent) (roomy : 1 ≤ e.vm.engine.cacheSize)
    {c : Contract} (chosen : (e.choose p none).2 = .ok c) :
    (e.supplied p none).Coherent ∧ ((e.supplied p none).vm.cached? c.hash).isSome := by
  obtain ⟨found, kept⟩ := Vm.compile_cached roomy chosen
  refine ⟨⟨?_, rfl⟩, found⟩
  intro moduleId idle
  rw [Pool.idleCount, supplied_pool, Pool.entries_evictAll] at idle
  split at idle
  · cases idle
  · rename_i unlisted
    exact (kept moduleId (coherent.cached moduleId idle)).resolve_right unlisted

theorem acquire_coherent {mid : Executor} {result : Except Fault Checkout}
    (coherent : e.Coherent) (roomy : 1 ≤ e.vm.engine.cacheSize)
    (stage : e.acquire p none s = (mid, result)) :
    mid.Coherent ∧ ∀ k, result = .ok k → (mid.vm.cached? k.contract.hash).isSome := by
  have acquired := e.acquire_acquired p none s
  rw [stage] at acquired
  have less : ∀ {moduleId : String} {pages : Nat} {found : Option Instance},
      (e.supplied p none).pool.get moduleId pages = (mid.pool, found) →
      ∀ other, (mid.pool.entries other).Sublist ((e.supplied p none).pool.entries other) :=
    fun got other => (Pool.Taking.of_get got).sublist other
  cases acquired with
  | refused vm pool =>
    refine ⟨coherent.sublist vm fun moduleId => ?_, fun k done => by cases done⟩
    exact pool ▸ .refl _
  | invalid chosen vm pool =>
    obtain ⟨caught, _⟩ := supplied_coherent coherent roomy chosen
    refine ⟨caught.sublist vm fun moduleId => ?_, fun k done => by cases done⟩
    exact pool ▸ .refl _
  | unmade chosen vm missed =>
    obtain ⟨caught, _⟩ := supplied_coherent coherent roomy chosen
    exact ⟨caught.sublist vm (less missed), fun k done => by cases done⟩
  | pooled chosen vm taken reused =>
    obtain ⟨caught, found⟩ := supplied_coherent coherent roomy chosen
    refine ⟨caught.sublist vm (less taken), ?_⟩
    intro k done
    cases done
    exact vm ▸ found
  | fresh chosen vm missed reused contract =>
    obtain ⟨caught, found⟩ := supplied_coherent coherent roomy chosen
    refine ⟨caught.sublist vm (less missed), ?_⟩
    intro k done
    cases done
    exact vm ▸ found

theorem Coherent.put {after : Executor} {i : Instance} {now : Nat} (coherent : e.Coherent)
    (vm : after.vm = e.vm) (pool : after.pool = (e.pool.put i now).1)
    (found : (e.vm.cached? i.moduleId).isSome) : after.Coherent := by
  refine ⟨?_, vm ▸ coherent.drained⟩
  intro moduleId idle
  rw [vm]
  by_cases own : moduleId = i.moduleId
  · exact own ▸ found
  · rw [Pool.idleCount, pool, (e.pool.put_putting i now).elsewhere own] at idle
    exact coherent.cached moduleId idle

theorem serve_coherent (coherent : e.Coherent) (tidy : e.pool.Tidy)
    (roomy : 1 ≤ e.vm.engine.cacheSize) (p : CallParams) (s : Surroundings) :
    (e.serve p none s).1.Coherent := by
  have ended := e.serve_ended p none s
  generalize e.serve p none s = last at ended
  obtain ⟨after, result⟩ := last
  cases ended with
  | unsupplied stage vm pool =>
    exact (acquire_coherent coherent roomy stage).1.sublist vm fun moduleId => pool ▸ .refl _
  | lost stage vm pool =>
    exact (acquire_coherent coherent roomy stage).1.sublist vm fun moduleId => pool ▸ .refl _
  | @returned mid k q outcome o now stage called returned vm pool =>
    obtain ⟨kept, found⟩ := acquire_coherent coherent roomy stage
    exact kept.put vm pool (guestCall_home tidy stage called ▸ found k rfl)

theorem evictModule_coherent (coherent : e.Coherent) (hash : String) :
    (e.evictModule hash).1.Coherent := by
  refine ⟨?_, coherent.drained⟩
  intro moduleId idle
  change 0 < ((e.pool.evict hash).1.entries moduleId).length at idle
  rw [Pool.entries_evict] at idle
  split at idle
  · cases idle
  · rename_i apart
    exact Vm.evict_cached apart (coherent.cached moduleId idle)

theorem close_coherent (coherent : e.Coherent) : e.close.Coherent := by
  refine coherent.sublist e.close_vm fun moduleId => ?_
  rcases e.close_pool with same | shut
  · exact same ▸ .refl _
  · rw [shut, Pool.entries_close]
    split
    · exact .refl _
    · exact List.nil_sublist _

structure InStep (e : Executor) : Prop where
  coherent : e.Coherent
  tidy : e.pool.Tidy
  roomy : 1 ≤ e.vm.engine.cacheSize

theorem answer_inStep {r : Request} (own : r.given = none) (held : e.InStep) :
    (e.answer r).1.InStep := by
  refine ⟨?_, answer_tidy held.tidy r, ?_⟩
  · cases r with
    | execute p given s =>
      cases own
      exact serve_coherent held.coherent held.tidy held.roomy p s
    | evictModule hash => exact evictModule_coherent held.coherent hash
    | reopen => exact ⟨held.coherent.cached, held.coherent.drained⟩
    | close => exact close_coherent held.coherent
  · rw [answer_engine]
    exact held.roomy

end Executor

theorem cache_coherent {settings : Settings} {host : Bool} {w : World} {requests : List Request}
    (roomy : 1 ≤ settings.engine.cacheSize) (started : World.start settings host = .ok w)
    (own : ∀ r ∈ requests, r.given = none) :
    (answering Executor.answer w.executor requests).1.Coherent := by
  obtain ⟨pool, evicted⟩ := World.start_fresh started
  have fresh : w.executor.InStep := by
    refine ⟨⟨?_, evicted⟩, pool ▸ Pool.tidy_new _, ?_⟩
    · intro moduleId idle
      rw [pool] at idle
      cases idle
    · exact (World.start_sound started).executor.room ▸ roomy
  exact (answering_invariant (I := Executor.InStep)
    (fun e r member held => Executor.answer_inStep (own r member) held) fresh).coherent

def idlePayload (code : List UInt8) : List UInt8 :=
  [0, 97, 115, 109, 1, 0, 0, 0, 1, 4, 1, 96, 0, 0, 3, 2, 1, 0,
    7, 8, 1, 4, 109, 97, 105, 110, 0, 0] ++ code

def CallParams.idling (code : List UInt8) : CallParams :=
  { entry := "main", feeLimit := 100, memoryLimit := 65536, payload := idlePayload code }

def Settings.narrow : Settings :=
  { engine := { cacheSize := 1 }, security := { enableThreatDetection := false } }

-- Two contracts in a cache for one: the second takes the place of the first.
def turns : List Request :=
  [.execute (.idling [10, 4, 1, 2, 0, 11]) none ⟨0, "first", 0, none⟩,
    .execute (.idling [10, 5, 1, 3, 0, 1, 11]) none ⟨1, "second", 0, none⟩]

theorem cache_coherent_turns :
    ∃ w, 1 ≤ Settings.narrow.engine.cacheSize ∧ World.start .narrow false = .ok w ∧
      (∀ r ∈ turns, r.given = none) ∧
      (answering Executor.answer w.executor (turns.take 1)).1.pool.ids = ["first"] ∧
      (answering Executor.answer w.executor turns).1.pool.ids = ["second"] ∧
      (answering Executor.answer w.executor turns).1.Coherent := by
  refine ⟨_, by decide, rfl, by decide, ?_, ?_,
    @cache_coherent .narrow false _ turns (by decide) rfl (by decide)⟩
  · decide +kernel
  · decide +kernel

end Tollgate
