import Tollgate.Proofs.FeeLedger
import Tollgate.Proofs.NativeScalars
import Tollgate.Proofs.StepCount

namespace Tollgate

namespace Guest

def Code.getLocals (first : Nat) : Nat → Code
  | 0 => .done
  | count + 1 => .op (.localGet first) (getLocals (first + 1) count)

theorem Code.size_getLocals (first count : Nat) : (getLocals first count).size = count + 1 := by
  induction count generalizing first with
  | zero => rfl
  | succ count ih => rw [getLocals, size, ih, Nat.add_comm]

def Function.echo (kinds : List NativeType) : Function :=
  ⟨⟨kinds, kinds⟩, [], .getLocals 0 kinds.length⟩

namespace Machine

variable {p : Program} {m : Machine} {v : Native} {passed rest args : List Native}

theorem step_localGet {index : Nat} {next : Code} (p : Program)
    (code : m.frame.code = .op (.localGet index) next)
    (found : m.frame.locals[index]? = some v) : m.step p =
      .next (({ m with work := m.work + 1, meter := m.meter.charge 1 } : Machine).withFrame
        { m.frame with code := next, stack := v :: m.frame.stack }) := by
  simp only [step, code, execute, charge, found]
  rfl

theorem step_done (p : Program) (code : m.frame.code = .done) (labels : m.frame.labels = []) :
    m.step p = leave { m with work := m.work + 1 } := by
  simp only [step, code, labels]

-- An echo on its way: some of its parameters are on the stack, and the rest are still to come.
structure Loading (passed rest : List Native) (m : Machine) : Prop where
  frame : m.frame = ⟨.getLocals passed.length rest.length, passed.reverse,
    (passed ++ rest).toArray, [], (passed ++ rest).length⟩
  callers : m.callers = [⟨.done, [], #[], [], (passed ++ rest).length⟩]

-- An echo that has been left, with its results on the stack of the call.
structure Loaded (args : List Native) (m : Machine) : Prop where
  frame : m.frame = ⟨.done, args.reverse, #[], [], args.length⟩
  callers : m.callers = []

theorem Loading.step (loading : Loading passed (v :: rest) m) (p : Program) :
    ∃ next, m.step p = .next next ∧ Loading (passed ++ [v]) rest next := by
  have code : m.frame.code = .op (.localGet passed.length)
      (.getLocals (passed.length + 1) rest.length) := by
    rw [loading.frame]
    rfl
  have found : m.frame.locals[passed.length]? = some v := by simp [loading.frame]
  refine ⟨_, step_localGet p code found, ?_, ?_⟩
  · simp [withFrame, loading.frame]
  · simpa [withFrame] using loading.callers

theorem take_results (args : List Native) : args.reverse.take args.length = args.reverse :=
  List.take_of_length_le (Nat.le_of_eq List.length_reverse)

theorem Loading.leave (loading : Loading args [] m) (p : Program) :
    ∃ next, m.step p = .next next ∧ Loaded args next := by
  have done : m.step p = Machine.leave { m with work := m.work + 1 } := by
    refine step_done p ?_ ?_ <;> rw [loading.frame]
    rfl
  rw [done, Machine.leave, loading.callers]
  refine ⟨_, rfl, ?_, rfl⟩
  simp [loading.frame, take_results]

theorem Loaded.leave (loaded : Loaded args m) (p : Program) :
    ∃ last, m.step p = .returned args last := by
  have done : m.step p = Machine.leave { m with work := m.work + 1 } := by
    refine step_done p ?_ ?_ <;> rw [loaded.frame]
  rw [done, Machine.leave, loaded.callers]
  refine ⟨_, congrArg (Step.returned · _) ?_⟩
  simp [loaded.frame, take_results]

theorem checkpoint_passed (funds : m.meter.used < m.meter.limit)
    (timely : ∀ bound, p.interruptAt = some bound → m.work < bound) :
    checkpoint p m = .next m := by
  have solvent : m.meter.isSpent = false := by simpa [Meter.isSpent] using funds
  rw [checkpoint, solvent, if_neg Bool.false_ne_true]
  split
  · rename_i bound set
    rw [if_neg (Nat.not_le.mpr (timely bound set))]
  · rfl

theorem start_loading {kinds : List NativeType} (globals : Array Native) (memories : List Memory)
    {meter : Meter} (count : args.length = kinds.length) (funds : meter.used + 1 < meter.limit)
    (timely : p.interruptAt ≠ some 0) :
    ∃ first, (idle globals memories meter kinds.length).start p (.code (.echo kinds)) args =
      .next first ∧ Loading [] args first := by
  have deep : ¬ maxDepth ≤ (idle globals memories meter kinds.length).depth := by
    change ¬ maxDepth ≤ 0
    decide
  rw [start, enter, if_neg deep]
  refine ⟨_, checkpoint_passed funds ?_, ?_, ?_⟩
  · intro bound set
    exact Nat.pos_of_ne_zero fun zero => timely (zero ▸ set)
  · simp [Function.echo, count]
  · simp [idle, count]

end Machine

end Guest

namespace Run

open Guest

variable {p : Program} {r : Run} {passed rest : List Native}

theorem advance_next {m : Machine} (visible : Option Nat) (stepped : r.machine.step p = .next m) :
    r.advance p visible = .running { r with machine := m } := by
  rw [advance, stepped, settle]

-- By induction on the parameters that are still to come: one step for each, and two to get out.
theorem iterate_loading (p : Program) (visible : Option Nat)
    (loading : Machine.Loading passed rest r.machine) :
    ∃ last, iterate p visible (rest.length + 2) r = .ended last (.returned (passed ++ rest)) := by
  induction rest generalizing passed r with
  | nil =>
    obtain ⟨loaded, left, resting⟩ := Machine.Loading.leave (by simpa using loading) p
    obtain ⟨last, returned⟩ := resting.leave p
    refine ⟨{ r with machine := last }, ?_⟩
    rw [List.length_nil, iterate_running (advance_next visible left)]
    refine iterate_last ?_ 0
    rw [advance, returned, settle, List.append_nil]
  | cons v rest ih =>
    obtain ⟨next, stepped, later⟩ := loading.step p
    obtain ⟨last, ended⟩ := ih (r := { r with machine := next }) later
    refine ⟨last, ?_⟩
    rw [List.length_cons, Nat.add_right_comm, iterate_running (advance_next visible stepped), ended,
      List.append_assoc]
    rfl

-- Of the budget only the entry is looked at, and the steps are fewer than there are at hand.
theorem complete_echo {kinds : List NativeType} {args : List Native} {globals : Array Native}
    {memories : List Memory} {meter : Meter} {index : Nat} (visible : Option Nat)
    (idle : r.machine = .idle globals memories meter kinds.length)
    (listed : p.functions[index]? = some (.code (.echo kinds)))
    (count : args.length = kinds.length) (funds : meter.used + 1 < meter.limit)
    (timely : p.interruptAt ≠ some 0) :
    ∃ last, r.complete p visible (.code (.echo kinds)) args = (last, .returned args) := by
  obtain ⟨first, started, loading⟩ :=
    Machine.start_loading globals memories count funds timely
  obtain ⟨last, ended⟩ := iterate_loading (r := { r with machine := first }) p visible loading
  refine ⟨last, complete_of_iterate ?_ ended ?_⟩
  · rw [idle, started, settle]
  · have room := size_lt_doublings listed r.machine.meter.limit
    have size : Callable.size (.code (.echo kinds)) = kinds.length + 1 :=
      Code.size_getLocals 0 kinds.length
    rw [size, ← count] at room
    omega

end Run

namespace CallRequest

open Marshal

-- A call of a function whose parameters carry the values and whose run ends with nothing but the
-- parameters it began with.
inductive HandsBack (q : CallRequest) (i : Instance) (values : List Value) : Prop
  | intro {live : Live} {callable : Guest.Callable} {args : List Guest.Native} {r : Run} :
      q.entry i = .ok (live, callable, args) → Carried values callable.type.params →
      (Vm.callRun q.guard live callable q.limits.fee).complete
        (q.vm.callProgram live q.limits q.tick) i.memoryIndex? callable args =
        (r, .returned args) → HandsBack q i values

structure Echoes (q : CallRequest) (i : Instance) (kinds : List Guest.NativeType) : Prop where
  opened : q.vm.closed = false
  found : ∃ live, i.live = some live ∧
    (i.contract.module.exportedFunction? q.function).bind (live.functions[·]?) =
      some (.code (.echo kinds))
  budget : 1 < q.limits.fee
  timely : Vm.interruptAt (q.vm.ticking q.tick) q.limits.timeout ≠ some 0

structure Restored (values : List Value) (o : CallOutcome) : Prop where
  own (s : MarshalSettings) : decode s o.words (values.map Value.type) = allowed s values
  ownFrom (s : MarshalSettings) (load : Nat → Nat → Except Fault (List UInt8)) :
    decodeFrom s load o.words (values.map Value.type) = allowed s values
  reported : ∃ others, others.map Value.type = o.types ∧
    (∀ s, decode s o.words o.types = allowed s others) ∧
    List.Forall₂ Value.ReportedAs values others

structure Exchanged (values : List Value) (words : List UInt64) (kinds : List Guest.NativeType) :
    Prop where
  encoded (s : MarshalSettings) : encode s values =
    if s.maxParams < values.length then .error (tooManyParams values.length s.maxParams)
    else .ok ⟨words, values.map Value.type, []⟩
  restored (q : CallRequest) (i : Instance) : q.words = words → q.HandsBack i values →
    ∃ o, (q.answer i).2.2 = .ok o ∧ Restored values o
  echoed (q : CallRequest) (i : Instance) : q.words = words → q.Echoes i kinds →
    q.HandsBack i values

variable {q : CallRequest} {i : Instance} {values : List Value} {kinds : List Guest.NativeType}

theorem HandsBack.restored (back : q.HandsBack i values) (coded : Coded values q.words) :
    ∃ o, (q.answer i).2.2 = .ok o ∧ Restored values o := by
  obtain ⟨entered, carried, completed⟩ := back
  have handed := nativeArgs_handed coded carried (Vm.prepare_ok_iff.mp entered).taken
  have called := Vm.call_completed q.guard q.limits q.tick entered completed
  obtain ⟨others, reported, same⟩ := read_reported handed
  exact ⟨_, congrArg (·.2.2) called, (read_own handed).decode, (read_own handed).decodeFrom,
    others, reported.typed, reported.decode, same⟩

theorem Echoes.handsBack (echoes : q.Echoes i kinds) (coded : Coded values q.words)
    (carried : Carried values kinds) : q.HandsBack i values := by
  obtain ⟨live, alive, found⟩ := echoes.found
  obtain ⟨index, _, listed⟩ := Option.bind_eq_some_iff.mp found
  obtain ⟨args, taken⟩ := nativeArgs_carried carried q.words
  obtain ⟨blanks, blank⟩ := nativeArgs_carried carried (kinds.map fun _ => 0)
  have count : args.length = kinds.length :=
    (nativeArgs_handed coded carried taken).length_eq.symm.trans carried.length_eq
  have entered : q.entry i = .ok (live, .code (.echo kinds), args) :=
    Vm.prepare_ok_iff.mpr ⟨echoes.opened, alive, found,
      carried.length_eq.symm.trans coded.length_eq, taken, blanks, blank⟩
  obtain ⟨last, completed⟩ := Run.complete_echo (p := q.vm.callProgram live q.limits q.tick)
    (r := Vm.callRun q.guard live (.code (.echo kinds)) q.limits.fee) i.memoryIndex? rfl listed
    count echoes.budget echoes.timely
  exact .intro entered carried completed

theorem scalars_passable (scalars : ∀ v ∈ values, v.type.isBuffer = false) :
    ∃ words kinds, Coded values words ∧ Carried values kinds := by
  induction values with
  | nil => exact ⟨[], [], .nil, .nil⟩
  | cons v rest ih =>
    obtain ⟨words, kinds, coded, carried⟩ := ih fun u member =>
      scalars u (List.mem_cons_of_mem _ member)
    obtain ⟨w, kind, word, carrier⟩ : ∃ w kind, v.scalar? = some w ∧
        v.type.carrier? = some kind := by
      have scalar := scalars v List.mem_cons_self
      cases v with
      | string text => cases scalar
      | bytes raw => cases scalar
      | _ => exact ⟨_, _, rfl, rfl⟩
    exact ⟨w :: words, kind :: kinds, .cons word coded, .cons carrier carried⟩

-- A word reads the same once it has been a number. So all scalars, which have words and parameters
-- that carry them, come back from every function that returns its parameters, echoes among them.
theorem scalars_returned :
    (∀ (t : ValueType) (kind : Guest.NativeType), t.carrier? = some kind → ∀ w : UInt64,
      ∃ n, Guest.Native.ofWord? w kind = some n ∧
        Value.ofScalar? n.word t = Value.ofScalar? w t) ∧
    (∀ values : List Value, (∀ v ∈ values, v.type.isBuffer = false) →
      ∃ words kinds, Coded values words ∧ Carried values kinds) ∧
    ∀ (values : List Value) (words : List UInt64) (kinds : List Guest.NativeType),
      Coded values words → Carried values kinds → Exchanged values words kinds := by
  refine ⟨fun t kind carried w => Value.ofScalar_carried carried w,
    fun values scalars => scalars_passable scalars, ?_⟩
  intro values words kinds coded carried
  refine ⟨fun s => encode_coded s coded, ?_, ?_⟩
  · rintro q i rfl back
    exact back.restored coded
  · rintro q i rfl echoes
    exact echoes.handsBack coded carried

-- Scalars of every type: sign bits set, and signalling patterns that are no numbers.
def mixedScalars : List Value :=
  [.i32 (-5), .u32 4294967295, .bool true, .i64 (-5), .u64 18446744073709551615, .f32 0xFFA00001,
    .f64 0xFFF0000000000001]

def mixedKinds : List Guest.NativeType := [.i32, .i32, .i32, .i64, .i64, .f32, .f64]

def parrot : Instance where
  id := "parrot"
  contract := ⟨"parrot", 0, { exports := [("main", .function 0)] }⟩
  live := some {
    functions := #[.code (.echo mixedKinds)]
    tables := []
    globals := #[]
    memories := []
    meter := { hostCallFee := 0 } }
  memoryLimitPages := 1

def parroting : CallRequest where
  vm := Vm.plainVm
  guard := .lenient
  function := "main"
  words := [18446744073709551611, 4294967295, 1, 18446744073709551611, 18446744073709551615,
    4288675841, 18442240474082181121]
  limits := ⟨2, 0⟩
  tick := none

theorem scalars_returned_mixed :
    (∀ v ∈ mixedScalars, v.type.isBuffer = false) ∧ Coded mixedScalars parroting.words ∧
      Carried mixedScalars mixedKinds ∧ parroting.Echoes parrot mixedKinds ∧
      ∃ o, (parroting.answer parrot).2.2 = .ok o ∧ Restored mixedScalars o ∧
        o.types = [.i32, .i32, .i32, .i64, .i64, .f32, .f64] ∧
        decode {} o.words (mixedScalars.map Value.type) = .ok mixedScalars := by
  have coded : Coded mixedScalars parroting.words :=
    .cons rfl <| .cons rfl <| .cons rfl <| .cons rfl <| .cons rfl <| .cons rfl <| .cons rfl .nil
  have carried : Carried mixedScalars mixedKinds :=
    .cons rfl <| .cons rfl <| .cons rfl <| .cons rfl <| .cons rfl <| .cons rfl <| .cons rfl .nil
  have echoes : parroting.Echoes parrot mixedKinds :=
    ⟨rfl, ⟨_, rfl, rfl⟩, by decide, by decide⟩
  have exchanged := scalars_returned.2.2 mixedScalars parroting.words mixedKinds coded carried
  obtain ⟨o, answered, restored⟩ :=
    exchanged.restored parroting parrot rfl (exchanged.echoed parroting parrot rfl echoes)
  have types : ((parroting.answer parrot).2.2.toOption.map CallOutcome.types) =
      some [.i32, .i32, .i32, .i64, .i64, .f32, .f64] := by rfl
  rw [answered] at types
  exact ⟨by decide, coded, carried, echoes, o, answered, restored, Option.some.inj types,
    restored.own {}⟩

end CallRequest

end Tollgate
