namespace Tollgate

def pow2 (k : Nat) : Nat := Nat.pow 2 k

def pow10 (k : Nat) : Nat := Nat.pow 10 k

def sumOf (counts : List Nat) : Nat := counts.foldr (fun n sum => n + sum) 0

theorem pow2_zero : pow2 0 = 1 := rfl

theorem pow2_succ (k : Nat) : pow2 (k + 1) = pow2 k * 2 := rfl

theorem sumOf_nil : sumOf [] = 0 := rfl

theorem sumOf_cons (n : Nat) (counts : List Nat) : sumOf (n :: counts) = n + sumOf counts := rfl

theorem sumOf_append (a b : List Nat) : sumOf (a ++ b) = sumOf a + sumOf b := by
  induction a with
  | nil => simp [sumOf_nil]
  | cons n rest ih => simp only [List.cons_append, sumOf_cons, ih, Nat.add_assoc]

end Tollgate
