import Tollgate.Guest.Machine

namespace Tollgate.Guest

namespace Meter

-- Running code may spend and may save what it spent. What is left never grows as long as nothing
-- was saved that was not spent before.
structure Spends (before after : Meter) : Prop where
  limit : after.limit = before.limit
  hostCallFee : after.hostCallFee = before.hostCallFee
  hostCalls : after.hostCalls = before.hostCalls
  saved : before.saved ≤ before.used → after.saved ≤ after.used
  remaining : before.saved ≤ before.used → after.remaining ≤ before.remaining

theorem Spends.refl (m : Meter) : m.Spends m := ⟨rfl, rfl, rfl, id, fun _ => Nat.le_refl _⟩

theorem Spends.trans {a b c : Meter} (first : a.Spends b) (second : b.Spends c) : a.Spends c := by
  refine ⟨second.limit.trans first.limit, second.hostCallFee.trans first.hostCallFee,
    second.hostCalls.trans first.hostCalls, fun sound => second.saved (first.saved sound), ?_⟩
  intro sound
  exact Nat.le_trans (second.remaining (first.saved sound)) (first.remaining sound)

theorem spends_charge (m : Meter) (fee : Nat) : m.Spends (m.charge fee) := by
  refine ⟨rfl, rfl, rfl, ?_, fun _ => Nat.le_refl _⟩
  intro sound
  exact Nat.le_trans sound (Nat.le_add_right _ _)

theorem spends_save (m : Meter) : m.Spends m.save := by
  refine ⟨rfl, rfl, rfl, fun _ => Nat.le_refl _, ?_⟩
  intro sound
  exact Nat.sub_le_sub_left sound m.limit

theorem remaining_exhaust (m : Meter) : m.exhaust.remaining = 0 := Nat.sub_self m.limit

theorem spends_exhaust (m : Meter) : m.Spends m.exhaust := by
  refine ⟨rfl, rfl, rfl, fun _ => Nat.le_refl _, ?_⟩
  intro _
  rw [remaining_exhaust]
  exact Nat.zero_le _

theorem payHostCall_paid {m paid : Meter} (payment : m.payHostCall = (paid, true)) :
    m.hostCallFee ≤ m.remaining ∧
      paid = { m with
        used := m.limit - (m.remaining - m.hostCallFee)
        saved := m.limit - (m.remaining - m.hostCallFee)
        hostCalls := m.hostCalls + 1 } := by
  unfold payHostCall at payment
  split at payment
  · cases payment
  · rename_i covered
    cases payment
    exact ⟨Nat.le_of_not_lt covered, rfl⟩

end Meter

namespace Memory

-- What can become of a memory: it keeps its limit and loses no page.
structure Grows (before after : Memory) : Prop where
  limit : after.limit = before.limit
  pages : before.pages ≤ after.pages

theorem Grows.refl (m : Memory) : m.Grows m := ⟨rfl, Nat.le_refl _⟩

theorem Grows.trans {a b c : Memory} (first : a.Grows b) (second : b.Grows c) : a.Grows c :=
  ⟨second.limit.trans first.limit, Nat.le_trans first.pages second.pages⟩

theorem grows_set (m : Memory) (address : Nat) (b : UInt8) : m.Grows (m.set address b) :=
  ⟨rfl, Nat.le_refl _⟩

theorem grows_splice (m : Memory) (address : Nat) (bytes : List UInt8) :
    m.Grows (m.splice address bytes) := by
  induction bytes generalizing m address with
  | nil => exact .refl m
  | cons b rest ih => exact (m.grows_set address b).trans (ih _ _)

theorem grows_write {m written : Memory} {address : Nat} {bytes : List UInt8}
    (stored : m.write? address bytes = some written) : m.Grows written := by
  unfold write? at stored
  split at stored
  · cases stored
    exact m.grows_splice address bytes
  · cases stored

theorem limit_write {m written : Memory} {address : Nat} {bytes : List UInt8}
    (stored : m.write? address bytes = some written) : written.limit = m.limit :=
  (grows_write stored).limit

theorem grows_store {m written : Memory} {address bytes value : Nat}
    (stored : m.store? address bytes value = some written) : m.Grows written :=
  grows_write stored

theorem grows_fill {m filled : Memory} {address size : Nat} {byte : UInt8}
    (stored : m.fill? address byte size = some filled) : m.Grows filled := by
  unfold fill? at stored
  split at stored
  · cases stored
    exact ⟨rfl, Nat.le_refl _⟩
  · cases stored

theorem grows_grow {m grown : Memory} {more : Nat} (room : m.grow? more = some grown) :
    m.Grows grown := by
  unfold grow? at room
  split at room
  · cases room
    exact ⟨rfl, Nat.le_add_right _ _⟩
  · cases room

def NoneShrinks (before after : List Memory) : Prop :=
  ∀ (k : Nat) (m : Memory), before[k]? = some m →
    ∃ later, after[k]? = some later ∧ m.pages ≤ later.pages

theorem NoneShrinks.refl (memories : List Memory) : NoneShrinks memories memories :=
  fun _ m found => ⟨m, found, Nat.le_refl _⟩

theorem NoneShrinks.trans {a b c : List Memory} (first : NoneShrinks a b)
    (second : NoneShrinks b c) : NoneShrinks a c := by
  intro k m found
  obtain ⟨middle, later, more⟩ := first k m found
  obtain ⟨last, latest, most⟩ := second k middle later
  exact ⟨last, latest, Nat.le_trans more most⟩

theorem noneShrinks_set {memories : List Memory} {index : Nat} {old new : Memory}
    (found : memories[index]? = some old) (more : old.pages ≤ new.pages) :
    NoneShrinks memories (memories.set index new) := by
  intro k m listed
  by_cases equal : index = k
  · subst equal
    cases found.symm.trans listed
    obtain ⟨bound, _⟩ := List.getElem?_eq_some_iff.mp found
    exact ⟨new, List.getElem?_set_self bound, more⟩
  · exact ⟨m, (List.getElem?_set_ne equal).trans listed, Nat.le_refl _⟩

end Memory

theorem IntBinary.apply32_fee (op : IntBinary) (a b : UInt32) :
    op.apply32 a b ≠ .error .outOfFee := by
  cases op <;> simp only [apply32, ne_eq, reduceCtorEq, not_false_eq_true]
  all_goals repeat' split
  all_goals simp

theorem IntBinary.apply64_fee (op : IntBinary) (a b : UInt64) :
    op.apply64 a b ≠ .error .outOfFee := by
  cases op <;> simp only [apply64, ne_eq, reduceCtorEq, not_false_eq_true]
  all_goals repeat' split
  all_goals simp

theorem Conversion.truncate_fee (source : Width) (low high : Int) (bits : Nat) :
    truncate source low high bits ≠ .error .outOfFee := by
  unfold truncate
  repeat' split
  all_goals simp

theorem Conversion.apply_fee (op : Conversion) (v : Native) : op.apply v ≠ .error .outOfFee := by
  have mapped : ∀ (source target : Width) (low high : Int) (bits : Nat),
      (truncate source low high bits).map (intOf target) ≠ .error .outOfFee := by
    intro source target low high bits trapped
    cases result : truncate source low high bits with
    | error t =>
      simp only [result, Except.map, Except.error.injEq] at trapped
      exact truncate_fee source low high bits (trapped ▸ result)
    | ok n => simp [result, Except.map] at trapped
  cases op with
  | truncS source target => exact mapped _ _ _ _ _
  | truncU source target => exact mapped _ _ _ _ _
  | _ => simp [apply]

namespace Op

theorem apply_fee (op : Op) (stack : List Native) : op.apply stack ≠ .error .outOfFee := by
  intro trapped
  unfold apply at trapped
  split at trapped
  all_goals try cases trapped
  -- What is left are the instructions that hand on a trap of their arithmetic.
  all_goals split at trapped
  all_goals try cases trapped
  · rename_i failed
    exact IntBinary.apply32_fee _ _ _ failed
  · rename_i failed
    exact IntBinary.apply64_fee _ _ _ failed
  · rename_i failed
    exact Conversion.apply_fee _ _ failed

theorem access_fee (op : Op) (stack : List Native) (memory : Memory) :
    op.access stack memory ≠ .error .outOfFee := by
  intro trapped
  unfold access at trapped
  split at trapped
  all_goals try cases trapped
  all_goals split at trapped
  all_goals cases trapped

theorem grows_access {op : Op} {stack rest : List Native} {memory next : Memory} {work : Nat}
    (done : op.access stack memory = .ok (rest, next, work)) : memory.Grows next := by
  unfold access at done
  split at done
  case h_1 =>
    split at done <;> cases done
    exact .refl memory
  case h_2 =>
    split at done
    · rename_i stored
      cases done
      exact Memory.grows_store stored
    · cases done
  case h_3 =>
    cases done
    exact .refl memory
  case h_4 =>
    split at done
    · rename_i room
      cases done
      exact Memory.grows_grow room
    · cases done
      exact .refl memory
  case h_5 =>
    split at done
    · rename_i stored
      cases done
      exact Memory.grows_fill stored
    · cases done
  case h_6 => cases done

end Op

structure Machine.Carries (before after : Machine) : Prop where
  meter : before.meter.Spends after.meter
  limits : after.memories.map Memory.limit = before.memories.map Memory.limit
  sizes : Memory.NoneShrinks before.memories after.memories

def Step.machine : Step → Machine
  | .next m => m
  | .host _ _ m => m
  | .returned _ m => m
  | .trapped _ m => m

-- A step that carries the machine's bounds on and stops for the budget only when it is used up.
structure Step.Lawful (before : Machine) (s : Step) : Prop where
  carries : before.Carries s.machine
  spent : ∀ m, s = .trapped .outOfFee m → m.meter.remaining = 0

namespace Machine

theorem Carries.refl (m : Machine) : m.Carries m := ⟨.refl _, rfl, .refl _⟩

theorem Carries.trans {a b c : Machine} (first : a.Carries b) (second : b.Carries c) :
    a.Carries c :=
  ⟨first.meter.trans second.meter, second.limits.trans first.limits,
    first.sizes.trans second.sizes⟩

theorem carries_meter {before after : Machine} (spends : before.meter.Spends after.meter)
    (memories : after.memories = before.memories) : before.Carries after :=
  ⟨spends, congrArg (List.map Memory.limit) memories, memories ▸ .refl _⟩

theorem carries_of_eq {before after : Machine} (meter : after.meter = before.meter)
    (memories : after.memories = before.memories) : before.Carries after :=
  carries_meter (meter ▸ .refl _) memories

theorem limits_set {memories : List Memory} {index : Nat} {old new : Memory}
    (found : memories[index]? = some old) (same : new.limit = old.limit) :
    (memories.set index new).map Memory.limit = memories.map Memory.limit := by
  obtain ⟨bound, rfl⟩ := List.getElem?_eq_some_iff.mp found
  rw [List.map_set, same]
  apply List.ext_getElem?
  intro k
  by_cases equal : index = k
  · subst equal
    simp [bound]
  · simp [List.getElem?_set_ne equal]

end Machine

namespace Step

theorem Lawful.after {a b : Machine} {s : Step} (carries : a.Carries b) (lawful : Lawful b s) :
    Lawful a s := ⟨carries.trans lawful.carries, lawful.spent⟩

theorem Lawful.elsewhere {a b : Machine} {s : Step} (lawful : Lawful b s)
    (meter : b.meter = a.meter) (memories : b.memories = a.memories) : Lawful a s :=
  .after (Machine.carries_of_eq meter memories) lawful

theorem lawful_next {before m : Machine} (carries : before.Carries m) :
    Lawful before (.next m) := ⟨carries, fun _ trapped => by cases trapped⟩

theorem lawful_host {before m : Machine} {f : HostFunction} {args : List Native}
    (carries : before.Carries m) : Lawful before (.host f args m) :=
  ⟨carries, fun _ trapped => by cases trapped⟩

theorem lawful_trapped {before m : Machine} {t : Trap} (carries : before.Carries m)
    (other : t ≠ .outOfFee) : Lawful before (.trapped t m) := by
  refine ⟨carries, ?_⟩
  intro _ trapped
  cases trapped
  exact absurd rfl other

end Step

namespace Machine

open Step

theorem checkpoint_lawful (p : Program) (m : Machine) : Lawful m (checkpoint p m) := by
  unfold checkpoint
  split
  · refine ⟨carries_meter (Meter.spends_exhaust _) rfl, ?_⟩
    intro _ trapped
    cases trapped
    exact Meter.remaining_exhaust m.meter
  · split
    · split
      · exact lawful_trapped (carries_meter (Meter.spends_save _) rfl) (by decide)
      · exact lawful_next (.refl m)
    · exact lawful_next (.refl m)

theorem leave_lawful (m : Machine) : Lawful m (leave m) := by
  have saved : m.Carries { m with meter := m.meter.save } := carries_meter (Meter.spends_save _) rfl
  unfold leave
  dsimp only
  split
  · exact ⟨saved, fun _ trapped => by cases trapped⟩
  · exact lawful_next (saved.trans (carries_of_eq rfl rfl))

theorem enter_lawful (p : Program) (m : Machine) (f : Function) (args rest : List Native) :
    Lawful m (enter p m f args rest) := by
  unfold enter
  split
  · exact lawful_trapped (.refl m) (by decide)
  · refine Lawful.after ?_ (checkpoint_lawful p _)
    exact carries_meter (Meter.spends_charge m.meter 1) rfl

theorem call_lawful (p : Program) (m : Machine) (index : Nat) : Lawful m (call p m index) := by
  have saved : m.Carries { m with meter := m.meter.save } := carries_meter (Meter.spends_save _) rfl
  unfold call
  dsimp only
  split
  · exact lawful_trapped saved (by decide)
  · split
    · exact .after saved (enter_lawful p _ _ _ _)
    · exact lawful_host (saved.trans (carries_of_eq rfl rfl))

theorem callIndirect_lawful (p : Program) (m : Machine) (table : Nat) (type : Signature) :
    Lawful m (callIndirect p m table type) := by
  unfold callIndirect
  split
  · rename_i i rest _
    have saved : m.Carries
        { m with frame := { m.frame with stack := rest }, meter := m.meter.save } :=
      carries_meter (Meter.spends_save _) rfl
    dsimp only
    split
    · exact lawful_trapped saved (by decide)
    · exact lawful_trapped saved (by decide)
    · split
      · exact lawful_trapped saved (by decide)
      · split
        · exact .after saved (call_lawful p _ _)
        · exact lawful_trapped saved (by decide)
  · exact lawful_trapped (.refl m) (by decide)

theorem branch_lawful (p : Program) (m : Machine) (depth : Nat) : Lawful m (branch p m depth) := by
  unfold branch
  dsimp only
  split
  · exact leave_lawful m
  · split
    · exact (checkpoint_lawful p _).elsewhere rfl rfl
    · exact lawful_next (carries_of_eq rfl rfl)

theorem proceed_lawful (m : Machine) (next : Code) (stack : List Native) :
    Lawful m (m.proceed next stack) := lawful_next (carries_of_eq rfl rfl)

theorem replaced_lawful {m : Machine} {index work : Nat} {old new : Memory} (next : Code)
    (stack : List Native) (found : m.memories[index]? = some old) (grows : old.Grows new) :
    Lawful m (({ m with memories := m.memories.set index new, work := work } : Machine).proceed
      next stack) :=
  lawful_next ⟨.refl _, limits_set found grows.limit, Memory.noneShrinks_set found grows.pages⟩

theorem useMemory_lawful (m : Machine) (op : Op) (index : Nat) (next : Code) :
    Lawful m (useMemory m op index next) := by
  unfold useMemory
  split
  · exact lawful_trapped (.refl m) (by decide)
  · rename_i memory found
    split
    · rename_i done
      exact replaced_lawful next _ found (Op.grows_access done)
    · rename_i t failed
      refine lawful_trapped (.refl m) ?_
      rintro rfl
      exact Op.access_fee _ _ _ failed

theorem copyMemory_lawful (m : Machine) (target source : Nat) (next : Code) :
    Lawful m (copyMemory m target source next) := by
  unfold copyMemory
  split
  · rename_i found
    split
    · exact lawful_trapped (.refl m) (by decide)
    · split
      · exact lawful_trapped (.refl m) (by decide)
      · rename_i stored
        exact replaced_lawful next _ found (Memory.grows_write stored)
  · exact lawful_trapped (.refl m) (by decide)

theorem plain_lawful (m : Machine) (op : Op) (next : Code) :
    Lawful m (match op.memory? with
      | some index => useMemory m op index next
      | none =>
        match op.apply m.frame.stack with
        | .ok stack => m.proceed next stack
        | .error t => .trapped t m) := by
  split
  · exact useMemory_lawful m op _ next
  · split
    · exact proceed_lawful m next _
    · rename_i t failed
      refine lawful_trapped (.refl m) ?_
      rintro rfl
      exact Op.apply_fee _ _ failed

theorem execute_lawful (p : Program) (m : Machine) (op : Op) (next : Code) :
    Lawful m (execute p m op next) := by
  have stuck : Lawful m (.trapped .unreachable m) := lawful_trapped (.refl m) (by decide)
  unfold execute
  dsimp only
  split
  case h_1 => exact lawful_trapped (carries_meter (Meter.spends_save _) rfl) (by decide)
  case h_2 depth => exact branch_lawful p m depth
  case h_3 depth =>
    split
    · split
      · exact proceed_lawful m next _
      · exact (branch_lawful p _ depth).elsewhere rfl rfl
    · exact stuck
  case h_4 depths fallback =>
    split
    · exact (branch_lawful p _ _).elsewhere rfl rfl
    · exact stuck
  case h_5 => exact leave_lawful m
  case h_6 index => exact (call_lawful p _ index).elsewhere rfl rfl
  case h_7 table type => exact (callIndirect_lawful p _ table type).elsewhere rfl rfl
  -- Locals and globals: a number that names none is a trap.
  case h_8 i =>
    split
    · exact proceed_lawful m next _
    · exact stuck
  case h_9 i =>
    split
    · exact lawful_next (carries_of_eq rfl rfl)
    · exact stuck
  case h_10 i =>
    split
    · exact lawful_next (carries_of_eq rfl rfl)
    · exact stuck
  case h_11 i =>
    split
    · exact proceed_lawful m next _
    · exact stuck
  case h_12 i =>
    split
    · exact (proceed_lawful _ next _).elsewhere rfl rfl
    · exact stuck
  case h_13 target source => exact copyMemory_lawful m target source next
  case h_14 => exact plain_lawful m op next

theorem step_lawful (p : Program) (m : Machine) : Lawful m (m.step p) := by
  have worked : m.Carries { m with work := m.work + 1 } := carries_of_eq rfl rfl
  refine .after worked ?_
  unfold step
  dsimp only
  split
  · split
    · exact lawful_next (carries_of_eq rfl rfl)
    · exact leave_lawful _
  · exact lawful_next (carries_of_eq rfl rfl)
  · exact (checkpoint_lawful p _).elsewhere rfl rfl
  · split
    · exact lawful_next (carries_meter (Meter.spends_charge _ 1) rfl)
    · exact lawful_trapped (.refl _) (by decide)
  · refine .after ?_ (execute_lawful p _ _ _)
    exact carries_meter (Meter.spends_charge _ _) rfl

theorem start_lawful (p : Program) (m : Machine) (callable : Callable) (args : List Native) :
    Lawful m (m.start p callable args) := by
  unfold start
  split
  · exact lawful_host (.refl m)
  · exact enter_lawful p m _ args []

end Machine

-- What executes guest code: how a call begins and how it goes on, both within the law of steps.
structure Backend where
  start : Machine → Callable → List Native → Step
  step : Machine → Step
  start_lawful : ∀ m callable args, (start m callable args).Lawful m
  step_lawful : ∀ m, (step m).Lawful m

def Program.backend (p : Program) : Backend where
  start := Machine.start p
  step := Machine.step p
  start_lawful := Machine.start_lawful p
  step_lawful := Machine.step_lawful p

end Tollgate.Guest
