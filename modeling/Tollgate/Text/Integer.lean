namespace Tollgate.Text

inductive IntegerFlaw
  | empty
  | badDigit
  | tooLarge
  | tooSmall
deriving Repr, DecidableEq

def IntegerFlaw.message : IntegerFlaw → String
  | .empty => "cannot parse integer from empty string"
  | .badDigit => "invalid digit found in string"
  | .tooLarge => "number too large to fit in target type"
  | .tooSmall => "number too small to fit in target type"

def decimalDigit? (c : Char) : Option Nat :=
  if '0' ≤ c ∧ c ≤ '9' then some (c.toNat - 48) else none

def risingDigits (high : Int) (value : Int) : List Char → Except IntegerFlaw Int
  | [] => .ok value
  | c :: rest =>
    match decimalDigit? c with
    | none => .error .badDigit
    | some d =>
      let next := 10 * value + d
      if high < next then .error .tooLarge else risingDigits high next rest

def fallingDigits (low : Int) (value : Int) : List Char → Except IntegerFlaw Int
  | [] => .ok value
  | c :: rest =>
    match decimalDigit? c with
    | none => .error .badDigit
    | some d =>
      let next := 10 * value - d
      if next < low then .error .tooSmall else fallingDigits low next rest

-- A minus sign is read only where negative numbers are in bounds.
def readInteger (low high : Int) (text : String) : Except IntegerFlaw Int :=
  match text.toList with
  | [] => .error .empty
  | ['+'] => .error .badDigit
  | ['-'] => .error .badDigit
  | '+' :: digits => risingDigits high 0 digits
  | '-' :: digits => if low < 0 then fallingDigits low 0 digits else .error .badDigit
  | digits => risingDigits high 0 digits

end Tollgate.Text
