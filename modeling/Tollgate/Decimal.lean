import Tollgate.Binary
import Tollgate.Count

namespace Tollgate

-- `digits * 10 ^ power`, with no trailing zero in `digits` unless it is zero.
structure Decimal where
  digits : Nat
  power : Int
deriving Repr, DecidableEq

namespace Decimal

def cmpPowers (a : Nat) (p : Int) (b : Nat) (q : Int) : Ordering :=
  let left := a * pow10 p.toNat * pow2 (-q).toNat
  let right := b * pow2 q.toNat * pow10 (-p).toNat
  compare left right

-- The reals that round to a pattern: bounds in quarters of the last place, and whether the
-- bounds themselves belong.
structure Interval where
  low : Nat
  mid : Nat
  high : Nat
  scale : Int
  closed : Bool

def Interval.of (f : Binary) (significand : Nat) (scale : Int) : Interval :=
  let step := if significand = pow2 f.fraction ∧ f.leastScale < scale then 1 else 2
  { low := 4 * significand - step, mid := 4 * significand, high := 4 * significand + 2
    scale := scale - 2, closed := significand % 2 = 0 }

def Interval.contains (i : Interval) (d : Decimal) : Bool :=
  let above := match cmpPowers d.digits d.power i.low i.scale with
    | .gt => true
    | .eq => i.closed
    | .lt => false
  let below := match cmpPowers d.digits d.power i.high i.scale with
    | .lt => true
    | .eq => i.closed
    | .gt => false
  above && below

def Interval.floor (i : Interval) (power : Int) : Nat :=
  (i.mid * pow2 i.scale.toNat * pow10 (-power).toNat) / (pow2 (-i.scale).toNat * pow10 power.toNat)

inductive Tie
  | upper
  | even
deriving Repr, DecidableEq

def Tie.takesLower (t : Tie) (low : Nat) : Bool :=
  match t with
  | .upper => false
  | .even => low % 2 == 0

-- Of two neighbours on a grid the nearer.
def Interval.nearer (i : Interval) (t : Tie) (low : Nat) (power : Int) : Decimal :=
  match cmpPowers (10 * low + 5) (power - 1) i.mid i.scale with
  | .gt => ⟨low, power⟩
  | .eq => if t.takesLower low then ⟨low, power⟩ else ⟨low + 1, power⟩
  | .lt => ⟨low + 1, power⟩

-- The best decimal on the grid of `10 ^ power`, if the grid meets the interval.
def Interval.onGrid? (i : Interval) (t : Tie) (power : Int) : Option Decimal :=
  let low := i.floor power
  match i.contains ⟨low, power⟩, i.contains ⟨low + 1, power⟩ with
  | true, true => some (i.nearer t low power)
  | true, false => some ⟨low, power⟩
  | false, true => some ⟨low + 1, power⟩
  | false, false => none

def Interval.search (i : Interval) (t : Tie) : Nat → Int → Decimal
  | 0, power => ⟨i.floor power, power⟩
  | more + 1, power => (i.onGrid? t power).getD (i.search t more (power - 1))

def digitCount (n : Nat) : Nat := (Nat.toDigits 10 n).length

def trim (digits : Nat) (power : Int) : Nat → Decimal
  | 0 => ⟨digits, power⟩
  | more + 1 =>
    if digits ≠ 0 ∧ digits % 10 = 0 then trim (digits / 10) (power + 1) more else ⟨digits, power⟩

-- The power of ten of the first digit of `significand * 2 ^ scale`, or one more than it.
def leadingPower (significand : Nat) (scale : Int) : Int :=
  match scale with
  | .ofNat k => digitCount (significand * pow2 k)
  | .negSucc k =>
    let shift := k + 1
    let whole := significand / pow2 shift
    if whole ≠ 0 then digitCount whole
    else (digitCount (significand * pow10 shift / pow2 shift) : Int) - shift

-- The shortest decimal that reads back as the finite number `significand * 2 ^ scale`.
def shortest (f : Binary) (t : Tie) (significand : Nat) (scale : Int) : Decimal :=
  if significand = 0 then ⟨0, 0⟩
  else
    let found := (Interval.of f significand scale).search t 20 (leadingPower significand scale)
    trim found.digits found.power 20

-- How digits become text: which powers of the first digit are written without an exponent,
-- whether a whole number keeps a fraction, which of two decimals wins a tie, and the texts of the
-- other patterns.
structure Layout where
  positional : Int → Bool
  keepFraction : Bool
  tie : Tie
  nan : String
  infinite : Bool → String

def zeros (n : Nat) : String := String.ofList (List.replicate n '0')

def positionalText (keepFraction : Bool) (d : Decimal) : String :=
  let text := toString d.digits
  match d.power with
  | .ofNat k => text ++ (if d.digits = 0 then "" else zeros k) ++ (if keepFraction then ".0" else "")
  | .negSucc k =>
    let places := k + 1
    let padded := zeros (places + 1 - text.length) ++ text
    let cut := padded.length - places
    String.ofList (padded.toList.take cut) ++ "." ++ String.ofList (padded.toList.drop cut)

def exponentText (d : Decimal) (lead : Int) : String :=
  let text := toString d.digits
  let mantissa := match text.toList with
    | [] => ""
    | [c] => String.ofList [c]
    | c :: rest => String.ofList (c :: '.' :: rest)
  mantissa ++ "e" ++ (if lead < 0 then "-" else "+") ++ toString lead.natAbs

def Layout.finite (l : Layout) (negative : Bool) (d : Decimal) : String :=
  let lead := d.power + digitCount d.digits - 1
  let body := if d.digits = 0 ∨ l.positional lead then positionalText l.keepFraction d
    else exponentText d lead
  if negative then "-" ++ body else body

def Layout.text (l : Layout) (f : Binary) (bits : Nat) : String :=
  match f.decode bits with
  | .nan => l.nan
  | .infinite negative => l.infinite negative
  | .finite negative significand scale => l.finite negative (shortest f l.tie significand scale)

-- A finite number with exactly `places` digits after the point, a half going to the even digit.
def fixed (f : Binary) (places : Nat) (bits : Nat) : String :=
  match f.decode bits with
  | .nan => "NaN"
  | .infinite negative => if negative then "-inf" else "inf"
  | .finite negative significand scale =>
    let (num, den) := Binary.fractionOf significand scale
    let units := Binary.roundDiv (num * pow10 places) den
    let body := if places = 0 then toString units
      else positionalText false ⟨units, -(places : Int)⟩
    if negative then "-" ++ body else body

-- The pattern nearest to `digits * 10 ^ power`. Powers far outside the format are not computed.
def toBits (f : Binary) (negative : Bool) (digits : Nat) (power : Int) : Nat :=
  let lead := power + digitCount digits
  if digits = 0 ∨ lead < -400 then f.signed negative 0
  else if 400 < lead then f.signed negative f.infinity
  else match power with
    | .ofNat k => f.round negative (digits * pow10 k) 1
    | .negSucc k => f.round negative digits (pow10 (k + 1))

def isDigit (c : Char) : Bool := '0' ≤ c && c ≤ '9'

def digitValue (c : Char) : Nat := c.toNat - 48

def ofDigits (digits : List Char) : Nat := digits.foldl (fun n c => 10 * n + digitValue c) 0

structure Numeral where
  whole : List Char
  fraction : List Char
  exponent : Int
deriving Repr, DecidableEq

def Numeral.toBits (f : Binary) (negative : Bool) (n : Numeral) : Nat :=
  Decimal.toBits f negative (ofDigits (n.whole ++ n.fraction)) (n.exponent - n.fraction.length)

def takeSign : List Char → Bool × List Char
  | '-' :: rest => (true, rest)
  | '+' :: rest => (false, rest)
  | rest => (false, rest)

-- The value of an exponent's digits, cut off where it no longer matters.
def exponentValue (negative : Bool) (digits : List Char) : Int :=
  let n : Int := if 9 < (digits.dropWhile (· == '0')).length then 999999999 else ofDigits digits
  if negative then -n else n

-- Digits with an optional point and an optional exponent; at least one digit is needed.
def Numeral.read? (text : List Char) : Option Numeral :=
  let whole := text.takeWhile isDigit
  let rest := text.dropWhile isDigit
  let (fraction, rest) := match rest with
    | '.' :: tail => (tail.takeWhile isDigit, tail.dropWhile isDigit)
    | _ => ([], rest)
  if whole.isEmpty && fraction.isEmpty then none
  else match rest with
    | [] => some ⟨whole, fraction, 0⟩
    | mark :: tail =>
      if mark = 'e' ∨ mark = 'E' then
        let (negative, digits) := takeSign tail
        if digits.isEmpty || !digits.all isDigit then none
        else some ⟨whole, fraction, exponentValue negative digits⟩
      else none

end Decimal

end Tollgate
