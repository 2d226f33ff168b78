import Tollgate.Proofs.Course

namespace Tollgate

namespace Run

variable {p : Guest.Program} {visible : Option Nat} {r next last : Run} {e : Ending}

def iterate (p : Guest.Program) (visible : Option Nat) : Nat → Run → Progress
  | 0, r => .running r
  | n + 1, r =>
    match r.advance p visible with
    | .running next => iterate p visible n next
    | .ended last e => .ended last e

theorem iterate_running (stepped : r.advance p visible = .running next) (n : Nat) :
    iterate p visible (n + 1) r = iterate p visible n next := by
  rw [iterate, stepped]

theorem iterate_last (stepped : r.advance p visible = .ended last e) (n : Nat) :
    iterate p visible (n + 1) r = .ended last e := by
  rw [iterate, stepped]

theorem iterate_add (m n : Nat) (r : Run) : iterate p visible (m + n) r =
    match iterate p visible m r with
    | .running next => iterate p visible n next
    | .ended last e => .ended last e := by
  induction m generalizing r with
  | zero => rw [Nat.zero_add, iterate]
  | succ m ih =>
    rw [Nat.succ_add]
    cases stepped : r.advance p visible with
    | running next => rw [iterate_running stepped, iterate_running stepped, ih]
    | ended last e => rw [iterate_last stepped, iterate_last stepped]

theorem iterate_ended {m n : Nat} (ended : iterate p visible m r = .ended last e)
    (more : m ≤ n) : iterate p visible n r = .ended last e := by
  rw [← Nat.add_sub_cancel' more, iterate_add, ended]

theorem steps_eq_iterate (k : Nat) (r : Run) :
    steps p visible k r = iterate p visible (pow2 k) r := by
  induction k generalizing r with
  | zero =>
    rw [pow2_zero, steps, iterate]
    cases r.advance p visible <;> rfl
  | succ k ih =>
    rw [pow2_succ, Nat.mul_two, iterate_add, steps, ih]
    cases iterate p visible (pow2 k) r with
    | running next => exact ih next
    | ended last e => rfl

end Run

namespace Guest.Callable

-- The instructions of a function; a host function has none.
def size : Callable → Nat
  | .host _ => 0
  | .code f => f.body.size

theorem le_totalSize {functions : List Callable} {callable : Callable}
    (member : callable ∈ functions) (start : Nat) :
    start + callable.size ≤ functions.foldl (fun n f => n + f.size) start := by
  have grows : ∀ (functions : List Callable) (start : Nat),
      start ≤ functions.foldl (fun n f => n + f.size) start := by
    intro functions
    induction functions with
    | nil => exact fun start => Nat.le_refl start
    | cons f rest ih => exact fun start => Nat.le_trans (Nat.le_add_right _ _) (ih _)
  induction functions generalizing start with
  | nil => cases member
  | cons f rest ih =>
    rcases List.mem_cons.mp member with rfl | later
    · exact grows rest _
    · exact Nat.le_trans (Nat.add_le_add_right (Nat.le_add_right _ _) _) (ih later _)

end Guest.Callable

namespace Run

variable {p : Guest.Program} {visible : Option Nat} {r next last : Run} {e : Ending}
  {callable : Guest.Callable} {args : List Guest.Native}

theorem doublings_eq (p : Guest.Program) (limit : Nat) : doublings p limit =
    ((limit + 2) * (p.functions.toList.foldl (fun n f => n + f.size) 0 + 2)).log2 + 2 := by
  have counted : (fun (n : Nat) (f : Guest.Callable) => match f with
      | .host _ => n
      | .code f => n + f.body.size) = fun n f => n + f.size := by
    funext n f
    cases f <;> rfl
  rw [Array.foldl_toList, ← counted]
  rfl

theorem size_lt_doublings {index : Nat} (listed : p.functions[index]? = some callable)
    (limit : Nat) : callable.size + 2 < pow2 (doublings p limit) := by
  have member : callable ∈ p.functions.toList :=
    Array.mem_toList_iff.mpr (Array.mem_of_getElem? listed)
  have total := Guest.Callable.le_totalSize member 0
  rw [doublings_eq]
  generalize p.functions.toList.foldl (fun n f => n + f.size) 0 = size at total ⊢
  have room : size + 2 ≤ (limit + 2) * (size + 2) := Nat.le_mul_of_pos_left _ (by omega)
  have doubled : (limit + 2) * (size + 2) < pow2 (((limit + 2) * (size + 2)).log2 + 1) :=
    Nat.lt_log2_self
  rw [pow2_succ]
  omega

theorem complete_of_iterate {n : Nat}
    (first : r.settle visible (r.machine.start p callable args) = .running next)
    (ended : iterate p visible n next = .ended last e)
    (soon : n ≤ pow2 (doublings p r.machine.meter.limit)) :
    r.complete p visible callable args = (last, e) := by
  unfold complete
  simp only [first, steps_eq_iterate, iterate_ended ended soon]

end Run

end Tollgate
