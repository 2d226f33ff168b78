import Tollgate.Proofs.CompileCache

namespace Tollgate

namespace Vm

abbrev Turn := Vm × CacheRequest

def Turn.after (t : Turn) : Vm := (t.1.answer t.2).1

def enters (hash : String) (before after : Vm) : Bool :=
  decide (hash ∉ before.order) && decide (hash ∈ after.order)

def pushedOut (before after : Vm) : CacheRequest → List String
  | .compile _ => before.order.filter fun hash => hash ∉ after.order
  | _ => []

-- How many requests ago a hash came into the cache for the last time.
def age (turns : List Turn) (hash : String) : Nat :=
  turns.reverse.findIdx fun t => enters hash t.1 t.after

-- The ways out of the cache. At full capacity the hash that came first leaves for a new one.
inductive Leaves (earlier : List Turn) (before after : Vm) (hash : String) : CacheRequest → Prop
  | evicted : Leaves earlier before after hash (.evict hash)
  | closed : Leaves earlier before after hash .close
  | displaced {source : Source} {rest : List String} : before.order = hash :: rest →
      before.order.length = before.engine.cacheSize → source.hash ∉ before.order →
      after.order = rest ++ [source.hash] → (∀ other ∈ rest, age earlier other < age earlier hash) →
      Leaves earlier before after hash (.compile source)

variable {vm : Vm} {turns : List Turn} {r : CacheRequest} {result : Vm × CacheReply}

theorem age_snoc (turns : List Turn) (t : Turn) (hash : String) :
    age (turns ++ [t]) hash = if enters hash t.1 t.after then 0 else age turns hash + 1 := by
  unfold age
  rw [List.reverse_append, List.reverse_singleton, List.singleton_append, List.findIdx_cons]
  cases enters hash t.1 t.after <;> rfl

-- The queue stands in the order in which its hashes came.
def Aged (turns : List Turn) (order : List String) : Prop :=
  order.Pairwise fun a b => age turns b < age turns a

theorem Aged.kept {t : Turn} {order : List String} (aged : Aged turns t.1.order)
    (less : order.Sublist t.1.order) : Aged (turns ++ [t]) order := by
  have older : ∀ hash ∈ order, age (turns ++ [t]) hash = age turns hash + 1 := by
    intro hash member
    have known : enters hash t.1 t.after = false := by simp [enters, less.subset member]
    rw [age_snoc, known, if_neg Bool.false_ne_true]
  refine List.Pairwise.imp_of_mem ?_ (aged.sublist less)
  intro a b first second below
  rw [older a first, older b second]
  exact Nat.succ_lt_succ below

theorem Aged.snoc {t : Turn} {order : List String} {hash : String} (aged : Aged turns t.1.order)
    (less : order.Sublist t.1.order) (new : hash ∉ t.1.order)
    (after : t.after.order = order ++ [hash]) : Aged (turns ++ [t]) (order ++ [hash]) := by
  refine List.pairwise_append.mpr ⟨aged.kept less, List.pairwise_singleton _ _, ?_⟩
  intro old member young last
  cases List.mem_singleton.mp last
  have entered : enters hash t.1 t.after = true := by simp [enters, new, after]
  have known : enters old t.1 t.after = false := by simp [enters, less.subset member]
  rw [age_snoc, age_snoc, entered, known, if_pos rfl, if_neg Bool.false_ne_true]
  exact Nat.succ_pos _

theorem order_snoc {after : Vm} {kept : List Contract} {source : Source} {c : Contract}
    {load : Guest.Loader} {engine : EngineSettings} (built : source.build load engine = .ok c)
    (cache : after.cache = kept ++ [c]) :
    after.order = kept.map Contract.hash ++ [source.hash] := by
  rw [order, cache, List.map_append, List.map_singleton, Source.build_hash built]

theorem Turnover.aged (aged : Aged turns vm.order) (turnover : Turnover vm r (vm.answer r)) :
    Aged (turns ++ [(vm, r)]) (vm.answer r).1.order := by
  have after : Turn.after (vm, r) = (vm.answer r).1 := rfl
  generalize vm.answer r = result at turnover after
  cases turnover with
  | refused | hit | failed | unkept | taken => exact aged.kept (.refl _)
  | entered opened new built room =>
    rw [order_snoc built rfl]
    refine Aged.snoc aged (.refl _) new ?_
    rw [after, order_snoc built rfl]
  | displaced opened new built full cache =>
    rw [order_snoc built rfl]
    refine Aged.snoc aged ?_ new ?_
    · rw [order, cache]
      exact List.sublist_cons_self _ _
    · rw [after, order_snoc built rfl]
  | removed => exact aged.kept (List.filter_sublist.map _)
  | shut => exact aged.kept (List.nil_sublist _)

theorem pushedOut_none {after : Vm} (kept : vm.order ⊆ after.order) (r : CacheRequest) :
    pushedOut vm after r = [] := by
  cases r with
  | compile source =>
    refine List.filter_eq_nil_iff.mpr ?_
    intro hash member
    simpa using kept member
  | evict | takeEvicted | close => rfl

theorem pushedOut_oldest {after : Vm} {source : Source} {oldest : String} {rest : List String}
    (distinct : vm.order.Nodup) (new : source.hash ∉ vm.order)
    (before : vm.order = oldest :: rest) (later : after.order = rest ++ [source.hash]) :
    pushedOut vm after (.compile source) = [oldest] := by
  rw [before, List.nodup_cons] at distinct
  rw [before, List.mem_cons, not_or] at new
  have gone : oldest ∉ rest ++ [source.hash] := by
    rw [List.mem_append, List.mem_singleton, not_or]
    exact ⟨distinct.1, Ne.symm new.1⟩
  have stay : (rest.filter fun hash => hash ∉ rest ++ [source.hash]) = [] := by
    refine List.filter_eq_nil_iff.mpr ?_
    intro hash member
    simp [member]
  change (vm.order.filter fun hash => hash ∉ after.order) = [oldest]
  rw [before, later, List.filter_cons_of_pos, stay]
  exact decide_eq_true gone

theorem Turnover.noted (stocked : vm.Stocked) (turnover : Turnover vm r result) :
    result.2.hashes ++ result.1.evicted = vm.evicted ++ pushedOut vm result.1 r := by
  cases turnover with
  | refused | hit | failed | unkept =>
    rw [pushedOut_none (List.Subset.refl _), List.append_nil]
    rfl
  | entered opened new built room =>
    rw [pushedOut_none, List.append_nil]
    · rfl
    · change vm.order ⊆ (vm.cache ++ [_]).map Contract.hash
      rw [List.map_append]
      exact List.subset_append_left _ _
  | displaced opened new built full cache =>
    rw [pushedOut_oldest stocked.distinct new (by rw [order, cache, List.map_cons])
      (order_snoc built rfl)]
    rfl
  | removed | shut => exact (List.append_nil _).symm
  | taken => rfl

theorem Turnover.leaves {hash : String} (aged : Aged turns vm.order)
    (turnover : Turnover vm r result) (cached : hash ∈ vm.order) (gone : hash ∉ result.1.order) :
    Leaves turns vm result.1 hash r := by
  cases turnover with
  | refused | hit | failed | unkept | taken => exact absurd cached gone
  | entered opened new built room =>
    rw [order_snoc built rfl] at gone
    exact absurd (List.mem_append_left _ cached) gone
  | @displaced source c oldest rest opened new built full cache =>
    have before : vm.order = oldest.hash :: rest.map Contract.hash := by
      rw [order, cache, List.map_cons]
    have first : hash = oldest.hash := by
      rw [before, List.mem_cons] at cached
      rw [order_snoc built rfl] at gone
      exact cached.resolve_right fun member => gone (List.mem_append_left _ member)
    rw [Aged, before, List.pairwise_cons] at aged
    subst first
    exact .displaced before full new (order_snoc built rfl) aged.1
  | @removed other =>
    have same : hash = other := by
      by_contra apart
      obtain ⟨c, member, rfl⟩ := List.mem_map.mp cached
      exact gone (List.mem_map_of_mem (List.mem_filter.mpr ⟨member, decide_eq_true apart⟩))
    subst same
    exact .evicted
  | shut => exact .closed

theorem Turnover.own (turnover : Turnover vm r result) : ∀ c ∈ result.1.cache,
    c ∈ vm.cache ∨ ∃ source, r = .compile source ∧ source.build vm.load vm.engine = .ok c := by
  intro c member
  cases turnover with
  | refused | hit | failed | unkept | taken => exact .inl member
  | entered opened new built room =>
    refine (List.mem_append.mp member).imp_right ?_
    intro last
    exact ⟨_, rfl, List.mem_singleton.mp last ▸ built⟩
  | displaced opened new built full cache =>
    refine (List.mem_append.mp member).imp ?_ ?_
    · intro old
      exact cache ▸ List.mem_cons_of_mem _ old
    · intro last
      exact ⟨_, rfl, List.mem_singleton.mp last ▸ built⟩
  | removed => exact .inl (List.mem_of_mem_filter member)
  | shut => cases member

theorem Turnover.closed (turnover : Turnover vm r result) :
    result.1.closed = true ↔ vm.closed = true ∨ r = .close := by
  cases turnover <;> simp

theorem Turnover.unchanged {source : Source} (cached : source.hash ∈ vm.order)
    (turnover : Turnover vm (.compile source) result) : result.1 = vm := by
  cases turnover with
  | refused | hit | failed | unkept => rfl
  | entered opened new | displaced opened new => exact absurd cached new

structure Tended (load : Guest.Loader) (engine : EngineSettings) (turns : List Turn) (vm : Vm) :
    Prop extends vm.Stocked where
  fixed : vm.load = load ∧ vm.engine = engine
  aged : Aged turns vm.order
  own : ∀ c ∈ vm.cache, ∃ source, .compile source ∈ turns.map Prod.snd ∧
    source.build load engine = .ok c
  closed : vm.closed = true ↔ .close ∈ turns.map Prod.snd
  reported : (turns.flatMap fun t => (t.1.answer t.2).2.hashes) ++ vm.evicted =
    turns.flatMap fun t => pushedOut t.1 t.after t.2

theorem Tended.answer {load : Guest.Loader} {engine : EngineSettings}
    (tended : Tended load engine turns vm) (r : CacheRequest) :
    Tended load engine (turns ++ [(vm, r)]) (vm.answer r).1 := by
  have turnover := answer_turnover tended.toStocked r
  obtain ⟨stocked, fixed⟩ := turnover.stocked tended.toStocked
  refine ⟨stocked, ⟨fixed.1.trans tended.fixed.1, fixed.2.trans tended.fixed.2⟩,
    turnover.aged tended.aged, ?_, ?_, ?_⟩
  · intro c member
    rw [List.map_append, List.map_singleton]
    rcases turnover.own c member with old | ⟨source, rfl, built⟩
    · obtain ⟨source, asked, built⟩ := tended.own c old
      exact ⟨source, List.mem_append_left _ asked, built⟩
    · rw [tended.fixed.1, tended.fixed.2] at built
      exact ⟨source, List.mem_append_right _ List.mem_cons_self, built⟩
  · rw [turnover.closed, tended.closed, List.map_append, List.mem_append, List.map_singleton,
      List.mem_singleton, eq_comm (a := r)]
  · have now := turnover.noted tended.toStocked
    rw [List.flatMap_append, List.flatMap_append, ← tended.reported, List.append_assoc,
      List.flatMap_singleton, List.flatMap_singleton, now, List.append_assoc]
    rfl

end Vm

-- A machine room after a run, beside the map and its queue after the same run.
structure CacheKept (load : Guest.Loader) (engine : EngineSettings) (turns : List Vm.Turn)
    (vm : Vm) (shelf : Shelf) : Prop where
  mirrors : shelf.Mirrors vm
  distinct : shelf.order.Nodup
  keys : shelf.held.keys.Perm shelf.order
  room : shelf.order.length ≤ engine.cacheSize
  own : ∀ hash c, shelf.held.get? hash = some c → c.hash = hash ∧
    ∃ source, .compile source ∈ turns.map Prod.snd ∧ source.hash = hash ∧
      source.build load engine = .ok c
  closed : vm.closed = true ↔ .close ∈ turns.map Prod.snd
  shut : vm.closed = true → vm.cache = [] ∧ ∀ source, ∃ f : Fault,
    (vm.answer (.compile source)).2 = .compiled (.error f) ∧ f.code = "CLOSED"
  hit : ∀ source, source.hash ∈ vm.order → (vm.answer (.compile source)).1 = vm
  aged : Vm.Aged turns vm.order
  left : ∀ earlier t later, turns = earlier ++ t :: later → ∀ hash ∈ t.1.order,
    hash ∉ t.after.order → Vm.Leaves earlier t.1 t.after hash t.2
  -- What was handed out, and what still waits, is all that was pushed out, each once.
  reported : (turns.flatMap fun t => (t.1.answer t.2).2.hashes) ++ vm.evicted =
    turns.flatMap fun t => Vm.pushedOut t.1 t.after t.2

theorem Vm.Tended.cacheKept {load : Guest.Loader} {engine : EngineSettings}
    {turns : List Vm.Turn} {vm : Vm} {shelf : Shelf} (tended : Vm.Tended load engine turns vm)
    (mirrors : shelf.Mirrors vm)
    (tendedAt : ∀ earlier t later, turns = earlier ++ t :: later →
      Vm.Tended load engine earlier t.1) :
    CacheKept load engine turns vm shelf := by
  refine ⟨mirrors, ?_, mirrors.keys tended.distinct, ?_, ?_, tended.closed, ?_, ?_, tended.aged,
    ?_, tended.reported⟩
  · rw [mirrors.order]
    exact tended.distinct
  · rw [mirrors.order, ← tended.fixed.2]
    exact tended.room
  · intro hash c held
    rw [mirrors.held] at held
    have named : c.hash = hash := by simpa using List.find?_some held
    obtain ⟨source, asked, built⟩ := tended.own c (List.mem_of_find?_eq_some held)
    exact ⟨named, source, asked, (Source.build_hash built).symm.trans named, built⟩
  · intro closed
    refine ⟨tended.shut closed, fun source => ⟨Vm.closedFault, ?_, rfl⟩⟩
    rw [Vm.compile_answer, Vm.compileWith, if_pos closed]
  · intro source cached
    exact (Vm.answer_turnover tended.toStocked _).unchanged cached
  · intro earlier t later split hash cached gone
    have before := tendedAt earlier t later split
    exact (Vm.answer_turnover before.toStocked t.2).leaves before.aged cached gone

-- The loader may be any.
theorem cache_kept (load : Guest.Loader) (engine : EngineSettings) (execution : ExecutionSettings)
    (offered : List Guest.HostFunction) (requests : List CacheRequest) :
    let vm : Vm := { engine := engine, load := load, execution := execution, offered := offered }
    CacheKept load engine (journal Vm.answer vm requests) (answering Vm.answer vm requests).1
      (answering (Shelf.answer load engine) {} requests).1 ∧
    (answering Vm.answer vm requests).2 =
      (answering (Shelf.answer load engine) {} requests).2 := by
  intro vm
  have fresh : Vm.Tended load engine [] vm :=
    ⟨⟨List.nodup_nil, Nat.zero_le _, fun _ => rfl⟩, ⟨rfl, rfl⟩, .nil,
      fun c member => (by cases member),
      ⟨fun closed => (by cases closed), fun asked => (by cases asked)⟩, rfl⟩
  have kept : ∀ turns vm, ∀ r ∈ requests, Vm.Tended load engine turns vm →
      Vm.Tended load engine (turns ++ [(vm, r)]) (vm.answer r).1 :=
    fun turns vm r _ tended => tended.answer r
  obtain ⟨beside, replies⟩ := answering_refines (R := Shelf.Beside load engine)
    (fun vm shelf r beside => beside.answer r) requests
    (show Shelf.Beside load engine vm {} from
      ⟨fresh.toStocked, ⟨rfl, rfl⟩, ⟨rfl, fun _ => rfl, .ofEmpty, rfl, rfl⟩⟩)
  refine ⟨(journal_invariant kept fresh).cacheKept beside.mirrors ?_, replies⟩
  intro earlier t later split
  exact journal_before kept fresh split

end Tollgate
