import Tollgate.Proofs.CacheTransparency
import Tollgate.Proofs.GuardLog
import Tollgate.Proofs.MemoryBudget

namespace Tollgate

def Value.size (v : Value) : Nat := (v.payload?.getD []).length

theorem Value.size_scalar {v : Value} {word : UInt64} (scaled : v.scalar? = some word) :
    v.size = 0 := by
  cases v with
  | string text => cases scaled
  | bytes raw => cases scaled
  | _ => rfl

namespace Marshal

structure Oversized (s : MarshalSettings) (args : List Value) (k size : Nat) : Prop where
  found : args[k]?.map Value.size = some size
  large : s.maxParamSize < size
  first (j : Nat) (v : Value) : j < k → args[j]? = some v → v.size ≤ s.maxParamSize

variable {s : MarshalSettings} {v : Value} {args : List Value} {k size : Nat} {f : Fault}

theorem oversized_nil : ¬ Oversized s [] k size := by
  intro excess
  cases excess.found

theorem oversized_large (large : s.maxParamSize < v.size) :
    Oversized s (v :: args) k size ↔ k = 0 ∧ size = v.size := by
  constructor
  · intro excess
    cases k with
    | zero =>
      cases excess.found
      exact ⟨rfl, rfl⟩
    | succ k => exact absurd large (Nat.not_lt.mpr (excess.first 0 v (Nat.zero_lt_succ k) rfl))
  · rintro ⟨rfl, rfl⟩
    exact ⟨rfl, large, fun _ _ before => absurd before (Nat.not_lt_zero _)⟩

theorem oversized_small (small : v.size ≤ s.maxParamSize) :
    Oversized s (v :: args) k size ↔ ∃ later, k = later + 1 ∧ Oversized s args later size := by
  constructor
  · intro excess
    cases k with
    | zero =>
      cases excess.found
      exact absurd excess.large (Nat.not_lt.mpr small)
    | succ k =>
      exact ⟨k, rfl, excess.found, excess.large,
        fun j w before listed => excess.first (j + 1) w (Nat.succ_lt_succ before) listed⟩
  · rintro ⟨k, rfl, excess⟩
    refine ⟨excess.found, excess.large, fun j w before listed => ?_⟩
    cases j with
    | zero =>
      cases listed
      exact small
    | succ j => exact excess.first j w (Nat.lt_of_succ_lt_succ before) listed

theorem encodeArg_large (large : s.maxParamSize < v.size) (index : Nat) (done : Encoded) :
    encodeArg s index done v = .error (paramTooLarge index v.size s.maxParamSize) := by
  unfold encodeArg
  split
  · rename_i word scaled
    rw [Value.size_scalar scaled] at large
    exact absurd large (Nat.not_lt_zero _)
  · exact if_pos large

theorem encodeArg_small (small : v.size ≤ s.maxParamSize) (index : Nat) (done : Encoded) :
    ∃ next, encodeArg s index done v = .ok next := by
  unfold encodeArg
  split
  · exact ⟨_, rfl⟩
  · exact ⟨_, if_neg (Nat.not_lt.mpr small)⟩

-- By induction on the arguments to come; what is encoded of the earlier ones is dropped.
theorem encodeFrom_error_iff (index : Nat) (done : Encoded) :
    encodeFrom s index done args = .error f ↔
      ∃ k size, Oversized s args k size ∧ f = paramTooLarge (index + k) size s.maxParamSize := by
  induction args generalizing index done with
  | nil =>
    constructor
    · intro failed
      cases failed
    · rintro ⟨_, _, excess, _⟩
      exact absurd excess oversized_nil
  | cons v rest ih =>
    unfold encodeFrom
    by_cases large : s.maxParamSize < v.size
    · rw [encodeArg_large large]
      constructor
      · intro failed
        cases failed
        exact ⟨0, v.size, (oversized_large large).mpr ⟨rfl, rfl⟩, rfl⟩
      · rintro ⟨k, size, excess, rfl⟩
        obtain ⟨rfl, rfl⟩ := (oversized_large large).mp excess
        rfl
    · have small := Nat.le_of_not_lt large
      obtain ⟨next, coded⟩ := encodeArg_small small index done
      rw [coded]
      refine (ih (index + 1) next).trans ⟨?_, ?_⟩
      · rintro ⟨k, size, excess, rfl⟩
        refine ⟨k + 1, size, (oversized_small small).mpr ⟨k, rfl, excess⟩, ?_⟩
        rw [Nat.add_right_comm, Nat.add_assoc]
      · rintro ⟨_, size, excess, rfl⟩
        obtain ⟨k, rfl, later⟩ := (oversized_small small).mp excess
        refine ⟨k, size, later, ?_⟩
        rw [Nat.add_right_comm, Nat.add_assoc]

end Marshal

-- Why parameters or arguments are refused. The parameters are looked at first, from the entry
-- point to the memory limit.
inductive ParamsFlaw (p : CallParams) (s : MarshalSettings) : Fault → Prop
  | entry : Text.trim p.entry = "" → ParamsFlaw p s (.invalidParams "entry must not be empty")
  | fee : Text.trim p.entry ≠ "" → p.feeLimit = 0 →
      ParamsFlaw p s (.invalidParams "resource_fee_limit must be greater than 0")
  | memory : Text.trim p.entry ≠ "" → p.feeLimit ≠ 0 → p.memoryLimit = 0 →
      ParamsFlaw p s (.invalidParams "memory_limit must be greater than 0")
  | count : p.validate = .ok () → s.maxParams < p.args.length →
      ParamsFlaw p s (Marshal.tooManyParams p.args.length s.maxParams)
  | size {k size : Nat} : p.validate = .ok () → p.args.length ≤ s.maxParams →
      Marshal.Oversized s p.args k size →
      ParamsFlaw p s (Marshal.paramTooLarge k size s.maxParamSize)

inductive Contract.Flaw (load : Guest.Loader) (engine : EngineSettings) (bytes : List UInt8) :
    Fault → Prop
  | empty : bytes = [] → Flaw load engine bytes (.invalidBytecode "bytecode is empty")
  | large : bytes ≠ [] → engine.maxModuleSize < bytes.length → Flaw load engine bytes
      (.invalidBytecode s!"bytecode is {bytes.length} bytes, limit is {engine.maxModuleSize}")
  | short : bytes ≠ [] → bytes.length ≤ engine.maxModuleSize → bytes.length < 8 →
      Flaw load engine bytes (.invalidBytecode "file too small")
  | magic : bytes.length ≤ engine.maxModuleSize → 8 ≤ bytes.length →
      bytes.take 4 ≠ Guest.Module.magic →
      Flaw load engine bytes (.invalidBytecode "bad magic number")
  | malformed {reason : String} : Admitted engine bytes → load bytes = .error reason →
      Flaw load engine bytes (.compilationFailed s!"Module compilation failed: {reason}")
  | misfit {m : Guest.Module} : Admitted engine bytes → load bytes = .ok m →
      fitsSlots engine m = false →
      Flaw load engine bytes (.compilationFailed "Module compilation failed: module exceeds its slot")

inductive PayloadFlaw (vm : Vm) (bytes : List UInt8) : Fault → Prop
  | closed : vm.closed = true → PayloadFlaw vm bytes Vm.closedFault
  | bytecode {f : Fault} : vm.closed = false → contentHash bytes ∉ vm.order →
      Contract.Flaw vm.load vm.engine bytes f → PayloadFlaw vm bytes f

theorem Marshal.encode_error_iff {s : MarshalSettings} {args : List Value} {f : Fault} :
    encode s args = .error f ↔
      (s.maxParams < args.length ∧ f = tooManyParams args.length s.maxParams) ∨
        (args.length ≤ s.maxParams ∧ ∃ k size, Oversized s args k size ∧
          f = paramTooLarge k size s.maxParamSize) := by
  unfold encode
  by_cases many : s.maxParams < args.length
  · rw [if_pos many]
    constructor
    · intro failed
      cases failed
      exact .inl ⟨many, rfl⟩
    · rintro (⟨_, rfl⟩ | ⟨few, _⟩)
      · rfl
      · exact absurd many (Nat.not_lt.mpr few)
  · rw [if_neg many, encodeFrom_error_iff]
    simp only [many, Nat.le_of_not_lt many, false_and, true_and, false_or, Nat.zero_add]

namespace CallContext

variable {p : CallParams} {marshal : MarshalSettings} {execution : ExecutionSettings} {now : Nat}
  {f : Fault}

theorem build_checked (valid : p.validate = .ok ()) :
    build p marshal execution now = .error f ↔ Marshal.encode marshal p.args = .error f := by
  unfold build
  rw [valid]
  cases Marshal.encode marshal p.args with
  | error g =>
    change Except.error g = .error f ↔ Except.error g = .error f
    constructor
    · intro failed
      cases failed
      rfl
    · intro failed
      cases failed
      rfl
  | ok encoded =>
    constructor
    · intro failed
      cases failed
    · intro failed
      cases failed

theorem build_unchecked {g : Fault} (invalid : p.validate = .error g) :
    build p marshal execution now = .error g := by
  unfold build
  rw [invalid]
  rfl

theorem validate_flaw (refused : p.validate = .error f) : ParamsFlaw p marshal f := by
  unfold CallParams.validate at refused
  split at refused
  · rename_i blank
    cases refused
    exact .entry (String.isEmpty_iff.mp blank)
  · rename_i named
    have entry : Text.trim p.entry ≠ "" := fun blank => named (String.isEmpty_iff.mpr blank)
    split at refused
    · rename_i fee
      cases refused
      exact .fee entry fee
    · rename_i fee
      split at refused
      · rename_i memory
        cases refused
        exact .memory entry fee memory
      · cases refused

theorem build_error_iff : build p marshal execution now = .error f ↔ ParamsFlaw p marshal f := by
  constructor
  · intro failed
    cases checked : p.validate with
    | error g =>
      cases failed.symm.trans (build_unchecked checked)
      exact validate_flaw checked
    | ok _ =>
      rcases Marshal.encode_error_iff.mp ((build_checked checked).mp failed) with
        ⟨many, rfl⟩ | ⟨few, k, size, excess, rfl⟩
      · exact .count checked many
      · exact .size checked few excess
  · intro flaw
    cases flaw with
    | entry blank => exact build_unchecked (if_pos (String.isEmpty_iff.mpr blank))
    | fee named zero =>
      refine build_unchecked ((if_neg fun blank => named (String.isEmpty_iff.mp blank)).trans ?_)
      exact if_pos zero
    | memory named fee zero =>
      refine build_unchecked ((if_neg fun blank => named (String.isEmpty_iff.mp blank)).trans ?_)
      exact (if_neg fee).trans (if_pos zero)
    | count valid many =>
      exact (build_checked valid).mpr (Marshal.encode_error_iff.mpr (.inl ⟨many, rfl⟩))
    | size valid few excess =>
      exact (build_checked valid).mpr
        (Marshal.encode_error_iff.mpr (.inr ⟨few, _, _, excess, rfl⟩))

end CallContext

namespace Contract

variable {load : Guest.Loader} {engine : EngineSettings} {bytes : List UInt8} {f : Fault}

theorem ofBytes_flaw (failed : ofBytes load engine bytes = .error f) :
    Flaw load engine bytes f := by
  by_cases admitted : Admitted engine bytes
  · rw [admitted.ofBytes] at failed
    unfold accept at failed
    split at failed
    · rename_i unread
      cases failed
      exact .malformed admitted unread
    · rename_i m read
      split at failed
      · cases failed
      · rename_i fits
        cases failed
        exact .misfit admitted read (Bool.eq_false_iff.mpr fits)
  · unfold ofBytes at failed
    split at failed
    · rename_i empty
      cases failed
      exact .empty (List.isEmpty_iff.mp empty)
    · rename_i filled
      have filled : bytes ≠ [] := fun empty => filled (List.isEmpty_iff.mpr empty)
      split at failed
      · rename_i large
        cases failed
        exact .large filled large
      · rename_i size
        split at failed
        · rename_i short
          cases failed
          exact .short filled (Nat.le_of_not_lt size) short
        · rename_i header
          split at failed
          · rename_i magic
            cases failed
            exact .magic (Nat.le_of_not_lt size) (Nat.le_of_not_lt header) magic
          · rename_i magic
            exact absurd ⟨Nat.le_of_not_lt size, Nat.le_of_not_lt header, not_not.mp magic⟩
              admitted

theorem Flaw.ofBytes (flaw : Flaw load engine bytes f) :
    Contract.ofBytes load engine bytes = .error f := by
  have filled (long : 8 ≤ bytes.length) : ¬ bytes.isEmpty = true := by
    intro empty
    rw [List.isEmpty_iff.mp empty] at long
    exact absurd long (by decide)
  cases flaw with
  | empty nothing => exact if_pos (List.isEmpty_iff.mpr nothing)
  | large content large =>
    exact (if_neg fun empty => content (List.isEmpty_iff.mp empty)).trans (if_pos large)
  | short content size short =>
    refine (if_neg fun empty => content (List.isEmpty_iff.mp empty)).trans ?_
    exact (if_neg (Nat.not_lt.mpr size)).trans (if_pos short)
  | magic size header magic =>
    refine (if_neg (filled header)).trans ?_
    exact (if_neg (Nat.not_lt.mpr size)).trans
      ((if_neg (Nat.not_lt.mpr header)).trans (if_pos magic))
  | malformed admitted unread =>
    rw [admitted.ofBytes, unread]
    rfl
  | misfit admitted read misfit =>
    rw [admitted.ofBytes, read]
    exact if_neg (Bool.eq_false_iff.mp misfit)

end Contract

theorem Vm.compile_error_iff {vm : Vm} {bytes : List UInt8} {f : Fault} :
    (vm.compile bytes).2 = .error f ↔ PayloadFlaw vm bytes f := by
  constructor
  · intro failed
    cases opened : vm.closed with
    | true =>
      unfold compile compileWith at failed
      rw [if_pos opened] at failed
      cases failed
      exact .closed opened
    | false =>
      by_cases known : contentHash bytes ∈ vm.order
      · obtain ⟨c, _, _, compiled⟩ := compile_cachedHash opened known
        cases failed.symm.trans compiled
      · rw [compile_uncached opened known] at failed
        exact .bytecode opened known (Contract.ofBytes_flaw failed)
  · intro flaw
    cases flaw with
    | closed closed =>
      unfold compile compileWith
      rw [if_pos closed]
    | bytecode opened new flaw =>
      rw [compile_uncached opened new]
      exact flaw.ofBytes

theorem Guard.checkLimits_within {g : Guard} {phase : LimitPhase} {c : CallContext} {now : Nat}
    (within : (g.checkLimits phase c now).2 = .ok ()) :
    g.checkLimits phase c now = (g, .ok ()) := by
  rw [checkLimits_noting] at within ⊢
  cases found : g.violation? phase c now with
  | none => rfl
  | some v =>
    rw [found] at within
    cases within

-- How an execution ends early: its context is not built, or it is within the limits and its
-- payload is not compiled.
inductive Executor.Rejects (e : Executor) (p : CallParams) (s : Surroundings) (f : Fault) : Prop
  | params : CallContext.build p e.marshal e.vm.execution s.now = .error f → Rejects e p s f
  | payload {c : CallContext} : CallContext.build p e.marshal e.vm.execution s.now = .ok c →
      (e.guard.checkLimits .preExecution c s.now).2 = .ok () →
      (e.vm.compile p.payload).2 = .error f → Rejects e p s f

-- What a failed execution leaves when nothing but the books of the executor saw it. The machine
-- room has the compile cache and the queue of what it has pushed out, the pool its idle instances
-- and counters, the guard its counters, incidents and scans.
structure Executor.Untouched (before after : Executor) (f : Fault) : Prop where
  vm : after.vm = before.vm
  pool : after.pool = before.pool
  guard : after.guard = before.guard
  marshal : after.marshal = before.marshal
  closed : after.closed = before.closed
  stats : after.stats = { before.stats with
    executions := before.stats.executions + 1
    failed := before.stats.failed + 1 }
  tracker : after.tracker = before.tracker.record f
  forecast : after.forecast = before.forecast.record ⟨1, 0, 0, false⟩

namespace Executor

variable {e : Executor} {p : CallParams} {given : Option Contract} {s : Surroundings} {f : Fault}

theorem serve_counted (ended : e.run p given s = (e.counted, .error f)) :
    (e.serve p given s).2 = .error f ∧ e.Untouched (e.serve p given s).1 f := by
  rw [serve_eq, ended]
  exact ⟨rfl, rfl, rfl, rfl, rfl, rfl, rfl, rfl, rfl⟩

theorem run_params (opened : e.closed = false)
    (refused : CallContext.build p e.marshal e.vm.execution s.now = .error f) :
    e.run p given s = (e.counted, .error f) := by
  unfold run
  rw [if_neg (Bool.eq_false_iff.mp opened)]
  dsimp only
  rw [refused]
  rfl

theorem run_payload {c : CallContext} (opened : e.closed = false)
    (built : CallContext.build p e.marshal e.vm.execution s.now = .ok c)
    (within : (e.guard.checkLimits .preExecution c s.now).2 = .ok ())
    (refused : (e.vm.compile p.payload).2 = .error f) :
    e.run p none s = (e.counted, .error f) := by
  have compiled : e.vm.compile p.payload = (e.vm, .error f) :=
    Prod.ext (Vm.compile_error refused) refused
  unfold run
  rw [if_neg (Bool.eq_false_iff.mp opened)]
  dsimp only
  rw [built]
  dsimp only
  rw [Guard.checkLimits_within within]
  simp only [choose, withGuard, compiled]
  rfl

theorem serve_params (opened : e.closed = false) (flaw : ParamsFlaw p e.marshal f) :
    (e.serve p given s).2 = .error f ∧ e.Untouched (e.serve p given s).1 f :=
  serve_counted (run_params opened (CallContext.build_error_iff.mpr flaw))

theorem Rejects.run (opened : e.closed = false) (rejects : e.Rejects p s f) :
    e.run p none s = (e.counted, .error f) := by
  cases rejects with
  | params refused => exact run_params opened refused
  | payload built within refused => exact run_payload opened built within refused

theorem Rejects.cause (rejects : e.Rejects p s f) : ParamsFlaw p e.marshal f ∨
    (∀ g, ¬ ParamsFlaw p e.marshal g) ∧ PayloadFlaw e.vm p.payload f := by
  cases rejects with
  | params refused => exact .inl (CallContext.build_error_iff.mp refused)
  | payload built within refused =>
    refine .inr ⟨fun g flaw => ?_, Vm.compile_error_iff.mp refused⟩
    cases built.symm.trans (CallContext.build_error_iff.mpr flaw)

structure EndedEarly (e : Executor) (p : CallParams) (s : Surroundings) (f : Fault) : Prop where
  answer : (e.execute p s).2 = .error f
  untouched : e.Untouched (e.execute p s).1 f
  cause : ParamsFlaw p e.marshal f ∨
    (∀ g, ¬ ParamsFlaw p e.marshal g) ∧ PayloadFlaw e.vm p.payload f
  -- With parameters or arguments that are refused it makes no difference what would be compiled,
  -- by which machine room and with what in its cache.
  uncompiled : ParamsFlaw p e.marshal f →
    ∀ (vm : Vm) (payload : List UInt8) (given : Option Contract),
      (({ e with vm := vm }).serve { p with payload := payload } given s).2 = .error f ∧
        ({ e with vm := vm }).Untouched
          (({ e with vm := vm }).serve { p with payload := payload } given s).1 f

theorem rejects_endedEarly (e : Executor) (p : CallParams) (s : Surroundings) (f : Fault)
    (opened : e.closed = false) (rejects : e.Rejects p s f) : e.EndedEarly p s f := by
  obtain ⟨answer, untouched⟩ := serve_counted (rejects.run opened)
  refine ⟨answer, untouched, rejects.cause, fun flaw vm payload given => ?_⟩
  have refused : CallContext.build p e.marshal vm.execution s.now = .error f :=
    CallContext.build_error_iff.mpr flaw
  -- A context is built without a look at the payload.
  have anyway : CallContext.build { p with payload := payload } e.marshal vm.execution s.now =
      .error f := refused
  exact serve_params opened (CallContext.build_error_iff.mp anyway)

end Executor

def CallParams.unnamed : CallParams :=
  { CallParams.idling [10, 4, 1, 2, 0, 11] with entry := " \t" }

def CallParams.headless : CallParams :=
  { CallParams.idling [] with payload := [0, 97, 115, 109] }

-- With a contract in the cache and an idle instance of it in the pool: an entry point that is
-- blank, and a payload without room for a header.
theorem rejects_endedEarly_twice : ∃ w e, World.start .narrow false = .ok w ∧
    e = (answering Executor.answer w.executor turns).1 ∧ e.pool.ids = ["second"] ∧
    e.closed = false ∧
    e.Rejects .unnamed .quiet (.invalidParams "entry must not be empty") ∧
    e.EndedEarly .unnamed .quiet (.invalidParams "entry must not be empty") ∧
    e.Rejects .headless .quiet (.invalidBytecode "file too small") ∧
    e.EndedEarly .headless .quiet (.invalidBytecode "file too small") := by
  obtain ⟨w, started⟩ : ∃ w, World.start .narrow false = .ok w := ⟨_, rfl⟩
  obtain ⟨e, after⟩ : ∃ e, e = (answering Executor.answer w.executor turns).1 := ⟨_, rfl⟩
  obtain ⟨idle, opened, running, new, size, within⟩ :
      e.pool.ids = ["second"] ∧ e.closed = false ∧ e.vm.closed = false ∧
      contentHash [0, 97, 115, 109] ∉ e.vm.order ∧ 4 ≤ e.vm.engine.maxModuleSize ∧
      (CallContext.build .headless e.marshal e.vm.execution 0).toOption.any
        (fun c => (e.guard.checkLimits .preExecution c 0).2.isOk) = true := by
    cases started
    cases after
    decide +kernel
  have unnamed : e.Rejects .unnamed .quiet (.invalidParams "entry must not be empty") :=
    .params (CallContext.build_error_iff.mpr (.entry (by decide)))
  have headless : e.Rejects .headless .quiet (.invalidBytecode "file too small") := by
    have short : Contract.Flaw e.vm.load e.vm.engine [0, 97, 115, 109] (.invalidBytecode "file too small") :=
      .short (List.cons_ne_nil _ _) size (by decide)
    have refused := Vm.compile_error_iff.mpr (.bytecode running new short)
    cases built : CallContext.build .headless e.marshal e.vm.execution 0 with
    | error f =>
      rw [built] at within
      cases within
    | ok c =>
      rw [built] at within
      cases checked : (e.guard.checkLimits .preExecution c 0).2 with
      | error f =>
        simp only [Except.toOption, Option.any, checked, Except.isOk, Except.toBool] at within
        cases within
      | ok _ => exact .payload built checked refused
  exact ⟨w, e, started, after, idle, opened, unnamed,
    Executor.rejects_endedEarly e .unnamed .quiet _ opened unnamed, headless,
    Executor.rejects_endedEarly e .headless .quiet _ opened headless⟩

end Tollgate
