import Tollgate.Proofs.CacheHistory

namespace Tollgate

namespace Contract

-- What is asked of bytes before they are read as a module.
structure Admitted (engine : EngineSettings) (bytes : List UInt8) : Prop where
  size : bytes.length ≤ engine.maxModuleSize
  header : 8 ≤ bytes.length
  magic : bytes.take 4 = Guest.Module.magic

variable {load : Guest.Loader} {engine : EngineSettings} {bytes : List UInt8}

theorem Admitted.ofBytes (admitted : Admitted engine bytes) :
    Contract.ofBytes load engine bytes =
      accept engine "Module" (contentHash bytes) bytes.length (load bytes) := by
  have filled : bytes.isEmpty = false := by
    cases bytes with
    | nil => exact absurd admitted.header (by decide)
    | cons b rest => rfl
  unfold Contract.ofBytes
  rw [filled, if_neg Bool.false_ne_true, if_neg (Nat.not_lt.mpr admitted.size),
    if_neg (Nat.not_lt.mpr admitted.header), if_neg (not_not_intro admitted.magic)]

theorem ofBytes_unadmitted (unadmitted : ¬ Admitted engine bytes) :
    ∃ reason, Contract.ofBytes load engine bytes = .error (.invalidBytecode reason) := by
  unfold Contract.ofBytes
  split
  · exact ⟨_, rfl⟩
  · split
    · exact ⟨_, rfl⟩
    · rename_i size
      split
      · exact ⟨_, rfl⟩
      · rename_i header
        split
        · exact ⟨_, rfl⟩
        · rename_i magic
          exact absurd ⟨Nat.le_of_not_lt size, Nat.le_of_not_lt header, not_not.mp magic⟩ unadmitted

theorem accept_form {form other hash : String} {size : Nat}
    {loaded : Except String Guest.Module} {c : Contract}
    (accepted : accept engine form hash size loaded = .ok c) :
    accept engine other hash size loaded = .ok c := by
  unfold accept at accepted ⊢
  cases loaded with
  | error reason => cases accepted
  | ok m =>
    dsimp only at accepted ⊢
    split at accepted
    · rename_i fits
      rw [if_pos fits]
      exact accepted
    · cases accepted

theorem ofSource_admitted {text : String} {c : Contract}
    (compiled : ofSource load engine text = .ok c)
    (admitted : Admitted engine (Text.bytesOf text)) :
    Contract.ofBytes load engine (Text.bytesOf text) = .ok c := by
  have size : (Text.bytesOf text).length = text.utf8ByteSize := by
    simp [Text.bytesOf]
  unfold ofSource at compiled
  split at compiled
  · cases compiled
  · rw [admitted.ofBytes, size]
    exact accept_form compiled

end Contract

theorem Source.build_admitted {load : Guest.Loader} {source : Source} {engine : EngineSettings}
    {c : Contract} (built : source.build load engine = .ok c)
    (admitted : Contract.Admitted engine source.raw) :
    Contract.ofBytes load engine source.raw = .ok c := by
  cases source with
  | bytes b => exact built
  | text t => exact Contract.ofSource_admitted built admitted

namespace Vm

def afterRequests (vm : Vm) (requests : List CacheRequest) : Vm := (answering answer vm requests).1

-- An open machine room that keeps nothing but contracts compiled from sources it was asked for.
structure Grounded (load : Guest.Loader) (engine : EngineSettings) (requests : List CacheRequest)
    (vm : Vm) : Prop extends vm.Stocked where
  fixed : vm.load = load ∧ vm.engine = engine
  opened : vm.closed = false
  own : ∀ c ∈ vm.cache, ∃ source, .compile source ∈ requests ∧ source.build load engine = .ok c

variable {vm : Vm} {load : Guest.Loader} {engine : EngineSettings} {requests : List CacheRequest}

theorem grounded_empty (empty : vm.cache = []) (opened : vm.closed = false)
    (requests : List CacheRequest) : Grounded vm.load vm.engine requests vm := by
  refine ⟨⟨?_, ?_, fun _ => empty⟩, ⟨rfl, rfl⟩, opened, ?_⟩
  · simp [order, empty]
  · simp [order, empty]
  · simp [empty]

theorem Grounded.answer {r : CacheRequest} (grounded : Grounded load engine requests vm)
    (asked : r ∈ requests) (other : r ≠ .close) :
    Grounded load engine requests (vm.answer r).1 := by
  have turnover := answer_turnover grounded.toStocked r
  obtain ⟨stocked, fixed⟩ := turnover.stocked grounded.toStocked
  refine ⟨stocked, ⟨fixed.1.trans grounded.fixed.1, fixed.2.trans grounded.fixed.2⟩, ?_, ?_⟩
  · refine Bool.eq_false_iff.mpr fun closed => ?_
    rcases turnover.closed.mp closed with before | close
    · exact Bool.false_ne_true (grounded.opened.symm.trans before)
    · exact other close
  · intro c member
    rcases turnover.own c member with old | ⟨source, rfl, built⟩
    · exact grounded.own c old
    · rw [grounded.fixed.1, grounded.fixed.2] at built
      exact ⟨source, asked, built⟩

theorem afterRequests_grounded (empty : vm.cache = []) (opened : vm.closed = false)
    (unclosed : .close ∉ requests) :
    Grounded vm.load vm.engine requests (vm.afterRequests requests) := by
  have kept : ∀ now, ∀ r ∈ requests, Grounded vm.load vm.engine requests now →
      Grounded vm.load vm.engine requests (now.answer r).1 := by
    intro now r asked grounded
    exact grounded.answer asked fun close => unclosed (close ▸ asked)
  exact answering_invariant kept (grounded_empty empty opened requests)

theorem compile_uncached (opened : vm.closed = false) {bytes : List UInt8}
    (new : contentHash bytes ∉ vm.order) :
    (vm.compile bytes).2 = Contract.ofBytes vm.load vm.engine bytes := by
  unfold compile compileWith
  rw [opened, if_neg Bool.false_ne_true, cached_absent new]
  dsimp only
  cases Contract.ofBytes vm.load vm.engine bytes <;> rfl

theorem compile_cachedHash (opened : vm.closed = false) {bytes : List UInt8}
    (known : contentHash bytes ∈ vm.order) :
    ∃ c ∈ vm.cache, c.hash = contentHash bytes ∧ (vm.compile bytes).2 = .ok c := by
  obtain ⟨c, found⟩ := Option.isSome_iff_exists.mp ((vm.cached_order _).mpr known)
  refine ⟨c, List.mem_of_find?_eq_some found, by simpa using List.find?_some found, ?_⟩
  unfold compile compileWith
  rw [opened, if_neg Bool.false_ne_true, found]

end Vm

structure Transparent (load : Guest.Loader) (engine : EngineSettings)
    (requests : List CacheRequest) (vm : Vm) (bytes : List UInt8) : Prop where
  -- The cache answers as a compilation would, unless it holds what no compilation would take.
  exactly : (vm.compile bytes).2 = Contract.ofBytes load engine bytes ↔
    Contract.Admitted engine bytes ∨ contentHash bytes ∉ vm.order
  -- It never does so for bytes that were not compiled as a text.
  unspelled : (∀ text, .compile (.text text) ∈ requests → Text.bytesOf text ≠ bytes) →
    (vm.compile bytes).2 = Contract.ofBytes load engine bytes
  -- Where it does, the answer is what the text came to.
  spelled : ¬ Contract.Admitted engine bytes → contentHash bytes ∈ vm.order →
    ∃ text c, .compile (.text text) ∈ requests ∧ Text.bytesOf text = bytes ∧
      Contract.ofSource load engine text = .ok c ∧ (vm.compile bytes).2 = .ok c

namespace Vm.Grounded

variable {vm : Vm} {load : Guest.Loader} {engine : EngineSettings}
  {requests : List CacheRequest} {bytes : List UInt8}

-- A cached answer goes back to a source that spells the same bytes.
theorem origin (grounded : vm.Grounded load engine requests)
    (apart : ∀ source, .compile source ∈ requests → source.hash = contentHash bytes →
      source.raw = bytes) (known : contentHash bytes ∈ vm.order) :
    ∃ source c, .compile source ∈ requests ∧ source.raw = bytes ∧
      source.build load engine = .ok c ∧ (vm.compile bytes).2 = .ok c := by
  obtain ⟨c, cached, named, answered⟩ := compile_cachedHash grounded.opened known
  obtain ⟨source, asked, built⟩ := grounded.own c cached
  have same : source.hash = contentHash bytes := (Source.build_hash built).symm.trans named
  exact ⟨source, c, asked, apart source asked same, built, answered⟩

theorem transparent (grounded : vm.Grounded load engine requests)
    (apart : ∀ source, .compile source ∈ requests → source.hash = contentHash bytes →
      source.raw = bytes) : Transparent load engine requests vm bytes := by
  have spelled : ¬ Contract.Admitted engine bytes → contentHash bytes ∈ vm.order →
      ∃ text c, .compile (.text text) ∈ requests ∧ Text.bytesOf text = bytes ∧
        Contract.ofSource load engine text = .ok c ∧ (vm.compile bytes).2 = .ok c := by
    intro unadmitted known
    obtain ⟨source, c, asked, same, built, answered⟩ := grounded.origin apart known
    cases source with
    | text t => exact ⟨t, c, asked, same, built, answered⟩
    | bytes b =>
      -- Such bytes are refused, so that nothing was cached for them as bytes.
      cases same
      obtain ⟨reason, refused⟩ := Contract.ofBytes_unadmitted unadmitted
      cases refused.symm.trans built
  have agrees : Contract.Admitted engine bytes ∨ contentHash bytes ∉ vm.order →
      (vm.compile bytes).2 = Contract.ofBytes load engine bytes := by
    intro covered
    by_cases known : contentHash bytes ∈ vm.order
    · obtain ⟨source, c, asked, rfl, built, answered⟩ := grounded.origin apart known
      have admitted := covered.resolve_right (not_not_intro known)
      rw [answered, Source.build_admitted built admitted]
    · rw [compile_uncached grounded.opened known, grounded.fixed.1, grounded.fixed.2]
  refine ⟨⟨?_, agrees⟩, ?_, spelled⟩
  · intro same
    by_contra uncovered
    obtain ⟨unadmitted, known⟩ := not_or.mp uncovered
    obtain ⟨_, c, _, _, _, answered⟩ := spelled unadmitted (not_not.mp known)
    obtain ⟨reason, refused⟩ := Contract.ofBytes_unadmitted unadmitted
    cases (answered.symm.trans same).trans refused
  · intro unspelled
    by_contra differs
    obtain ⟨unadmitted, known⟩ := not_or.mp fun covered => differs (agrees covered)
    obtain ⟨text, _, asked, same, _⟩ := spelled unadmitted (not_not.mp known)
    exact unspelled text asked same

end Vm.Grounded

-- The cache is keyed by the hash of the source alone and is asked before the source is looked at.
-- The requests are those to an open machine room with an empty cache, and no source among them has
-- the hash of other bytes.
theorem cache_transparent {vm : Vm} (empty : vm.cache = []) (opened : vm.closed = false)
    {requests : List CacheRequest} (unclosed : .close ∉ requests) (bytes : List UInt8)
    (apart : ∀ source, .compile source ∈ requests → source.hash = contentHash bytes →
      source.raw = bytes) :
    Transparent vm.load vm.engine requests (vm.afterRequests requests) bytes :=
  (Vm.afterRequests_grounded empty opened unclosed).transparent apart

def Vm.unused : Vm := { engine := {}, execution := {} }

def bareModule : List UInt8 := [0x00, 0x61, 0x73, 0x6D, 0x01, 0x00, 0x00, 0x00]

def mixedSources : List CacheRequest :=
  [.compile (.bytes bareModule), .compile (.text "(module)"), .evict (contentHash bareModule),
    .compile (.bytes []), .compile (.bytes bareModule)]

theorem cache_transparent_mixed :
    CacheRequest.close ∉ mixedSources ∧ Contract.Admitted Vm.unused.engine bareModule ∧
      Transparent Vm.unused.load Vm.unused.engine mixedSources
        (Vm.unused.afterRequests mixedSources) bareModule := by
  have unclosed : CacheRequest.close ∉ mixedSources := by simp [mixedSources]
  refine ⟨unclosed, ⟨by decide, by decide, rfl⟩, cache_transparent rfl rfl unclosed _ ?_⟩
  intro source asked same
  simp only [mixedSources, List.mem_cons, CacheRequest.compile.injEq, reduceCtorEq,
    List.not_mem_nil, or_false, false_or] at asked
  rcases asked with rfl | rfl | rfl | rfl
  · rfl
  · exact absurd same (by decide +kernel)
  · exact absurd same (by decide +kernel)
  · rfl

-- A text whose own bytes do not start with the mark of the binary form.
def textSources : List CacheRequest := [.compile (.text "(module)")]

theorem cache_spelled :
    (∀ source, .compile source ∈ textSources → source.raw = Text.bytesOf "(module)") ∧
      CacheRequest.close ∉ textSources ∧
      ((Vm.unused.afterRequests textSources).compile (Text.bytesOf "(module)")).2.isOk = true ∧
      Contract.ofBytes Vm.unused.load Vm.unused.engine (Text.bytesOf "(module)") =
        .error (.invalidBytecode "bad magic number") := by
  refine ⟨?_, by simp [textSources], by decide +kernel, rfl⟩
  intro source asked
  simp only [textSources, List.mem_singleton, CacheRequest.compile.injEq] at asked
  rw [asked]
  rfl

end Tollgate
