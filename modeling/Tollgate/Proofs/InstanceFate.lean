import Tollgate.Proofs.MemoryBudget
import Tollgate.Proofs.Requests

namespace Tollgate

theorem nodup_of_subperm {α : Type} {first second : List α} (less : first.Subperm second)
    (distinct : second.Nodup) : first.Nodup := by
  obtain ⟨middle, same, part⟩ := less
  exact same.nodup_iff.mp (part.nodup distinct)

namespace Executor

variable {e : Executor} {p : CallParams} {given : Option Contract} {s : Surroundings}

def creates (e : Executor) : Request → List String
  | .execute p given s =>
    match (e.acquire p given s).2 with
    | .ok k => if k.reused then [] else [k.item.id]
    | .error _ => []
  | _ => []

def created : Executor → List Request → List String
  | _, [] => []
  | e, r :: rest => e.creates r ++ created (e.answer r).1 rest

-- The instances that are idle and those that are still to be created have ids of their own.
def Unique (e : Executor) (requests : List Request) : Prop :=
  (e.pool.ids ++ e.created requests).Nodup

-- From now on, at every moment, an instance is neither idle nor named by an outcome.
def Absent (id : String) : Executor → List Request → Prop
  | e, [] => id ∉ e.pool.ids
  | e, r :: rest =>
    id ∉ e.pool.ids ∧ (∀ o, (e.answer r).2 = some (.ok o) → o.instanceId ≠ id) ∧
      Absent id (e.answer r).1 rest

theorem supplied_ids (tidy : e.pool.Tidy) (p : CallParams) (given : Option Contract) :
    (e.supplied p given).pool.ids.Subperm e.pool.ids := by
  rw [supplied_pool]
  exact Pool.ids_evictAll tidy _

theorem acquire_ids {mid : Executor} {result : Except Fault Checkout} (tidy : e.pool.Tidy)
    (stage : e.acquire p given s = (mid, result)) :
    mid.pool.ids.Subperm e.pool.ids ∧ ∀ k, result = .ok k →
      (k.item.id :: mid.pool.ids).Subperm (e.pool.ids ++ e.creates (.execute p given s)) := by
  have acquired := e.acquire_acquired p given s
  have new : ∀ k, result = .ok k →
      e.creates (.execute p given s) = if k.reused then [] else [k.item.id] := by
    rintro k rfl
    simp only [creates, stage]
  have cleared := supplied_tidy tidy p given
  have less := supplied_ids tidy p given
  rw [stage] at acquired
  cases acquired with
  | refused vm pool => exact ⟨pool ▸ .refl _, fun k done => by cases done⟩
  | invalid chosen vm pool => exact ⟨pool ▸ less, fun k done => by cases done⟩
  | unmade chosen vm missed =>
    have left := (Pool.Taking.of_get missed).ids cleared.ordered
    exact ⟨left.symm.subperm.trans less, fun k done => by cases done⟩
  | pooled chosen vm taken reused =>
    have left := (Pool.Taking.of_get taken).ids cleared.ordered
    refine ⟨((List.sublist_cons_self _ _).subperm.trans left.symm.subperm).trans less, ?_⟩
    intro k done
    cases done
    rw [new _ rfl, reused, if_pos rfl, List.append_nil]
    exact left.symm.subperm.trans less
  | fresh chosen vm missed reused contract =>
    have left := (Pool.Taking.of_get missed).ids cleared.ordered
    have fewer := left.symm.subperm.trans less
    refine ⟨fewer, ?_⟩
    intro k done
    cases done
    -- The new instance is the one that the execution has created.
    rw [new _ rfl, reused, if_neg Bool.false_ne_true]
    exact ((List.subperm_cons _).mpr fewer).trans (List.perm_append_singleton _ _).symm.subperm

-- What the pool holds after an execution was idle before, or is the one instance that it created.
theorem serve_ids (tidy : e.pool.Tidy) (p : CallParams) (given : Option Contract)
    (s : Surroundings) :
    (e.serve p given s).1.pool.ids.Subperm (e.pool.ids ++ e.creates (.execute p given s)) ∧
      ∀ o, (e.serve p given s).2 = .ok o →
        o.instanceId ∈ e.pool.ids ++ e.creates (.execute p given s) := by
  have ended := e.serve_ended p given s
  generalize e.serve p given s = last at ended
  obtain ⟨after, result⟩ := last
  cases ended with
  | unsupplied stage vm pool =>
    have less := (acquire_ids tidy stage).1
    refine ⟨?_, fun o done => by cases done⟩
    exact pool ▸ less.trans (List.sublist_append_left _ _).subperm
  | @lost mid k f stage vm pool =>
    have less := (acquire_ids tidy stage).2 k rfl
    refine ⟨?_, fun o done => by cases done⟩
    exact pool ▸ (List.sublist_cons_self _ _).subperm.trans less
  | @returned mid k q outcome o now stage called returned vm pool id =>
    have less := (acquire_ids tidy stage).2 k rfl
    have same : q.answer.2.1.id = k.item.id := (guestCall_continues stage called).id
    constructor
    · have put := (mid.pool.put_putting q.answer.2.1.resetOutput now).ids
        (acquire_tidy tidy stage).1.ordered
      rw [← pool] at put
      refine put.subperm.trans (.trans ?_ less)
      split
      · exact same ▸ .refl _
      · exact (List.sublist_cons_self _ _).subperm
    · intro o' done
      cases done
      rw [id, same]
      exact less.subset List.mem_cons_self

theorem answer_ids (tidy : e.pool.Tidy) (r : Request) :
    (e.answer r).1.pool.ids.Subperm (e.pool.ids ++ e.creates r) ∧
      ∀ o, (e.answer r).2 = some (.ok o) → o.instanceId ∈ e.pool.ids ++ e.creates r := by
  cases r with
  | execute p given s =>
    obtain ⟨less, named⟩ := serve_ids tidy p given s
    exact ⟨less, fun o done => named o (Option.some.inj done)⟩
  | evictModule hash =>
    refine ⟨?_, fun o done => by cases done⟩
    exact (Pool.ids_evict tidy.ordered hash).trans (List.sublist_append_left _ _).subperm
  | reopen => exact ⟨(List.sublist_append_left _ _).subperm, fun o done => by cases done⟩
  | close =>
    refine ⟨?_, fun o done => by cases done⟩
    refine .trans ?_ (List.sublist_append_left _ _).subperm
    change e.close.pool.ids.Subperm e.pool.ids
    rcases e.close_pool with same | shut
    · exact same ▸ .refl _
    · exact shut ▸ e.pool.ids_close

theorem Unique.answer {r : Request} {rest : List Request} (unique : e.Unique (r :: rest))
    (tidy : e.pool.Tidy) : (e.answer r).1.Unique rest := by
  refine nodup_of_subperm ?_ unique
  rw [created, ← List.append_assoc]
  exact (List.subperm_append_right _).mpr (answer_ids tidy r).1

theorem Unique.answering {before rest : List Request} (unique : e.Unique (before ++ rest))
    (tidy : e.pool.Tidy) :
    (answering Executor.answer e before).1.Unique rest ∧
      (answering Executor.answer e before).1.pool.Tidy := by
  induction before generalizing e with
  | nil => exact ⟨unique, tidy⟩
  | cons r before ih => exact ih (unique.answer tidy) (answer_tidy tidy r)

theorem absent_of_unlisted {id : String} {later : List Request} (tidy : e.pool.Tidy)
    (unlisted : id ∉ e.pool.ids ++ e.created later) : Absent id e later := by
  induction later generalizing e with
  | nil => simpa [created, Absent] using unlisted
  | cons r rest ih =>
    rw [created, ← List.append_assoc, List.mem_append, not_or] at unlisted
    obtain ⟨now, then'⟩ := unlisted
    obtain ⟨less, named⟩ := answer_ids tidy r
    refine ⟨fun idle => now (List.mem_append_left _ idle), ?_, ?_⟩
    · rintro o done rfl
      exact now (named o done)
    · refine ih (answer_tidy tidy r) ?_
      rw [List.mem_append, not_or]
      exact ⟨fun idle => now (less.subset idle), then'⟩

theorem Unique.acquired {mid : Executor} {k : Checkout} {later : List Request}
    (unique : e.Unique (.execute p given s :: later)) (tidy : e.pool.Tidy)
    (stage : e.acquire p given s = (mid, .ok k)) :
    k.item.id ∉ mid.pool.ids ++ (e.serve p given s).1.created later := by
  have less := (acquire_ids tidy stage).2 k rfl
  have distinct : (k.item.id :: mid.pool.ids ++ (e.serve p given s).1.created later).Nodup := by
    refine nodup_of_subperm ?_ unique
    rw [created, ← List.append_assoc]
    exact (List.subperm_append_right _).mpr less
  exact (List.nodup_cons.mp distinct).1

theorem acquire_sublist {mid : Executor} {result : Except Fault Checkout}
    (stage : e.acquire p given s = (mid, result)) (moduleId : String) :
    (mid.pool.entries moduleId).Sublist (e.pool.entries moduleId) := by
  have acquired := e.acquire_acquired p given s
  rw [stage] at acquired
  have cleared :
      ((e.supplied p given).pool.entries moduleId).Sublist (e.pool.entries moduleId) := by
    rw [supplied_pool, Pool.entries_evictAll]
    split
    · exact List.nil_sublist _
    · exact .refl _
  cases acquired with
  | refused vm pool => exact pool ▸ .refl _
  | invalid chosen vm pool => exact pool ▸ cleared
  | unmade chosen vm missed => exact ((Pool.Taking.of_get missed).sublist moduleId).trans cleared
  | pooled chosen vm taken => exact ((Pool.Taking.of_get taken).sublist moduleId).trans cleared
  | fresh chosen vm missed => exact ((Pool.Taking.of_get missed).sublist moduleId).trans cleared

-- What becomes of the instance of an execution, now and during all that is asked for later. The
-- pool that the instance comes back to is the one that was left when it was acquired.
structure InstanceFate (e : Executor) (p : CallParams) (given : Option Contract)
    (s : Surroundings) (later : List Request) : Prop where
  -- An execution that finds no instance fails, and adds nothing to the pool.
  unsupplied : ∀ mid f, e.acquire p given s = (mid, .error f) →
    (e.serve p given s).2 = .error f ∧
      ∀ moduleId, ((e.serve p given s).1.pool.entries moduleId).Sublist (e.pool.entries moduleId)
  -- One that fails with an instance in hand loses it for good.
  lost : ∀ mid k f, e.acquire p given s = (mid, .ok k) → (e.serve p given s).2 = .error f →
    Absent k.item.id (e.serve p given s).1 later
  -- One that succeeds leaves it in the pool if there is room, and else loses it as well.
  kept : ∀ mid k o, e.acquire p given s = (mid, .ok k) → (e.serve p given s).2 = .ok o →
    o.instanceId = k.item.id ∧ o.moduleId = k.contract.hash ∧
      (k.item.id ∈ (e.serve p given s).1.pool.ids ↔
        mid.pool.closed = false ∧
          mid.pool.idleCount k.contract.hash < mid.pool.settings.maxPerModule) ∧
      (k.item.id ∉ (e.serve p given s).1.pool.ids → Absent k.item.id (e.serve p given s).1 later)

theorem serve_unsupplied {mid : Executor} {f : Fault}
    (stage : e.acquire p given s = (mid, .error f)) :
    (e.serve p given s).2 = .error f ∧ (e.serve p given s).1.pool = mid.pool := by
  have ended := e.serve_ended p given s
  generalize e.serve p given s = last at ended
  obtain ⟨after, result⟩ := last
  cases ended with
  | unsupplied stage' vm pool => cases stage.symm.trans stage'; exact ⟨rfl, pool⟩
  | lost stage' => cases stage.symm.trans stage'
  | returned stage' => cases stage.symm.trans stage'

theorem serve_lost {mid : Executor} {k : Checkout} {f : Fault}
    (stage : e.acquire p given s = (mid, .ok k)) (failed : (e.serve p given s).2 = .error f) :
    (e.serve p given s).1.pool = mid.pool := by
  have ended := e.serve_ended p given s
  rw [failed] at ended
  cases ended with
  | unsupplied stage' => cases stage.symm.trans stage'
  | lost stage' vm pool => cases stage.symm.trans stage'; exact pool

-- The instance that comes back from a call is open and of the contract, so that only the pool
-- decides.
theorem serve_kept {mid : Executor} {k : Checkout} {o : ExecutionOutcome} (tidy : e.pool.Tidy)
    (stage : e.acquire p given s = (mid, .ok k)) (unused : k.item.id ∉ mid.pool.ids)
    (done : (e.serve p given s).2 = .ok o) :
    o.instanceId = k.item.id ∧ o.moduleId = k.contract.hash ∧
      (k.item.id ∈ (e.serve p given s).1.pool.ids ↔
        mid.pool.closed = false ∧
          mid.pool.idleCount k.contract.hash < mid.pool.settings.maxPerModule) := by
  have ended := e.serve_ended p given s
  rw [done] at ended
  cases ended with
  | @returned _ _ q outcome _ now stage' called returned vm pool id contract =>
    cases stage.symm.trans stage'
    have same := guestCall_continues stage called
    have opened : q.answer.2.1.resetOutput.isClosed = false := by
      rw [← Vm.call_open returned]
      unfold Instance.isClosed Instance.resetOutput
      exact Option.isNone_map
    have home := guestCall_home tidy stage called
    have admits : mid.pool.Admits q.answer.2.1.resetOutput ↔ mid.pool.closed = false ∧
        mid.pool.idleCount k.contract.hash < mid.pool.settings.maxPerModule := by
      rw [← home]
      exact ⟨fun h => ⟨h.pool_open, h.room⟩, fun h => ⟨opened, h.1, h.2⟩⟩
    have gained := (mid.pool.put_putting q.answer.2.1.resetOutput now).ids
      (acquire_tidy tidy stage).1.ordered
    refine ⟨id.trans same.id, contract, ?_⟩
    rw [pool, gained.mem_iff, ← admits, ← Pool.put_kept_iff _ _ now, List.mem_append,
      or_iff_left unused]
    split
    · rename_i kept
      exact iff_of_true (List.mem_singleton.mpr same.id.symm) kept
    · rename_i refused
      exact iff_of_false List.not_mem_nil refused

theorem Unique.fate {later : List Request} (unique : e.Unique (.execute p given s :: later))
    (tidy : e.pool.Tidy) : InstanceFate e p given s later := by
  have left := serve_tidy tidy p given s
  constructor
  · intro mid f stage
    obtain ⟨failed, pool⟩ := serve_unsupplied stage
    exact ⟨failed, fun moduleId => pool ▸ acquire_sublist stage moduleId⟩
  · intro mid k f stage failed
    refine absent_of_unlisted left ?_
    rw [serve_lost stage failed]
    exact unique.acquired tidy stage
  · intro mid k o stage done
    obtain ⟨unused, uncreated⟩ := not_or.mp (List.mem_append.not.mp (unique.acquired tidy stage))
    obtain ⟨id, contract, fate⟩ := serve_kept tidy stage unused done
    refine ⟨id, contract, fate, ?_⟩
    intro gone
    exact absent_of_unlisted left (List.mem_append.not.mpr (not_or.mpr ⟨gone, uncreated⟩))

end Executor

namespace World

variable {w : World}

theorem perform_tidy (tidy : w.executor.pool.Tidy) (op : Operation) :
    (w.perform op).executor.pool.Tidy := by
  cases op with
  | execute p given s => exact Executor.serve_tidy tidy p given s
  | evictModule hash => exact tidy.evict hash
  | closeExecutor => exact Executor.answer_tidy tidy .close
  | reopenExecutor => exact tidy.reopen
  | takeIdle hash pages =>
    have left := tidy.get hash pages
    unfold perform
    dsimp only
    split
    all_goals
      rename_i got
      rw [got] at left
      exact left
  | giveBack holding now =>
    unfold perform
    dsimp only
    split
    · exact tidy
    · exact tidy.put _ now
  | evictIdle hash => exact tidy.evict hash
  | cleanup now => exact tidy.cleanup now
  | closePool => exact tidy.close
  | reopenPool => exact tidy.reopen
  | instantiate c id pages tableLimit others tick =>
    unfold perform
    dsimp only
    split <;> exact tidy
  | call holding function words limits tick =>
    unfold perform
    dsimp only
    split <;> exact tidy
  | edit holding change =>
    unfold perform
    dsimp only
    split <;> exact tidy
  | _ => exact tidy

theorem after_tidy (tidy : w.executor.pool.Tidy) (history : List Operation) :
    (w.after history).executor.pool.Tidy := by
  induction history generalizing w with
  | nil => exact tidy
  | cons op rest ih => exact ih (perform_tidy tidy op)

end World

theorem instance_fate {settings : Settings} {host : Bool} {w : World}
    (started : World.start settings host = .ok w) (history : List Operation)
    (before later : List Request) (p : CallParams) (given : Option Contract) (s : Surroundings)
    (unique : (w.after history).executor.Unique (before ++ .execute p given s :: later)) :
    (answering Executor.answer (w.after history).executor before).1.InstanceFate p given s
      later := by
  have tidy : w.executor.pool.Tidy := (World.start_fresh started).1 ▸ Pool.tidy_new _
  obtain ⟨unique', tidy'⟩ := unique.answering (World.after_tidy tidy history)
  exact unique'.fate tidy'

def Request.grow (limit : Nat) (id : String) : Request :=
  .execute (.growing limit) (some .grower) ⟨0, id, 0, none⟩

-- The instance has grown past what the second execution allows, which fails and loses it; the third
-- has to create another.
theorem instance_fate_grower :
    ∃ w e, World.start .calm false = .ok w ∧
      w.executor.Unique [.grow 131072 "first", .grow 100000 "spare", .grow 131072 "second"] ∧
      e = (answering Executor.answer w.executor [.grow 131072 "first"]).1 ∧
      e.pool.ids = ["first"] ∧
      ((e.acquire (.growing 100000) (some .grower) ⟨0, "spare", 0, none⟩).2.toOption.map
        fun k => k.item.id) = some "first" ∧
      (e.serve (.growing 100000) (some .grower) ⟨0, "spare", 0, none⟩).2.isOk = false ∧
      (answering Executor.answer e [.grow 100000 "spare", .grow 131072 "second"]).1.pool.ids =
        ["second"] ∧
      e.InstanceFate (.growing 100000) (some .grower) ⟨0, "spare", 0, none⟩
        [.grow 131072 "second"] := by
  obtain ⟨w, started⟩ : ∃ w, World.start .calm false = .ok w := ⟨_, rfl⟩
  have unique : w.executor.Unique
      ([.grow 131072 "first"] ++ .grow 100000 "spare" :: [.grow 131072 "second"]) := by
    cases started
    unfold Executor.Unique
    decide +kernel
  refine ⟨w, _, started, unique, rfl, ?_, ?_, ?_, ?_,
    instance_fate started [] [.grow 131072 "first"] [.grow 131072 "second"] _ _ _ unique⟩
  all_goals
    cases started
    decide +kernel

end Tollgate
