import Tollgate.Count

namespace Tollgate

-- `fraction` stored significand bits and an exponent field of `exponent` bits.
structure Binary where
  fraction : Nat
  exponent : Nat
deriving Repr, DecidableEq

namespace Binary

def double : Binary := ⟨52, 11⟩

def single : Binary := ⟨23, 8⟩

-- What a bit pattern stands for; a finite one is `significand * 2 ^ scale`.
inductive Datum
  | nan
  | infinite (negative : Bool)
  | finite (negative : Bool) (significand : Nat) (scale : Int)
deriving Repr, DecidableEq

def signBit (f : Binary) : Nat := pow2 (f.fraction + f.exponent)

-- The pattern of positive infinity; every pattern above it (sign apart) is no number.
def infinity (f : Binary) : Nat := (pow2 f.exponent - 1) * pow2 f.fraction

def leastScale (f : Binary) : Int := 2 - (pow2 (f.exponent - 1) : Int) - f.fraction

def quietNan (f : Binary) : Nat := f.infinity + pow2 (f.fraction - 1)

def decode (f : Binary) (bits : Nat) : Datum :=
  let negative := decide (f.signBit ≤ bits)
  let rest := bits % f.signBit
  let field := rest / pow2 f.fraction
  let low := rest % pow2 f.fraction
  if rest = f.infinity then .infinite negative
  else if f.infinity < rest then .nan
  else if field = 0 then .finite negative low f.leastScale
  else .finite negative (pow2 f.fraction + low) (f.leastScale + (field - 1))

def isNan (f : Binary) (bits : Nat) : Bool := decide (f.infinity < bits % f.signBit)

def signed (f : Binary) (negative : Bool) (bits : Nat) : Nat :=
  if negative then f.signBit + bits else bits

-- The nearest whole number to `num / den`, a half going to the even one.
def roundDiv (num den : Nat) : Nat :=
  let q := num / den
  let r := num % den
  if den < 2 * r ∨ (2 * r = den ∧ q % 2 = 1) then q + 1 else q

def scaled (num den : Nat) (scale : Int) : Nat × Nat :=
  match scale with
  | .ofNat k => (num, den * pow2 k)
  | .negSucc k => (num * pow2 (k + 1), den)

-- The scale at which `num / den` has all significand bits, never below the least one.
def scaleOf (f : Binary) (num den : Nat) : Int :=
  let guess : Int := (num.log2 : Int) - den.log2 - f.fraction
  let (n, d) := scaled num den guess
  let exact := if n < d * pow2 f.fraction then guess - 1 else guess
  max f.leastScale exact

-- The pattern nearest to `num / den`. Too large a fraction gives infinity.
def round (f : Binary) (negative : Bool) (num den : Nat) : Nat :=
  if num = 0 then f.signed negative 0
  else
    let scale := f.scaleOf num den
    let (n, d) := scaled num den scale
    let m := roundDiv n d
    let bits :=
      if m < pow2 f.fraction then m
      else (scale - f.leastScale + 1).toNat * pow2 f.fraction + (m - pow2 f.fraction)
    f.signed negative (min bits f.infinity)

def ofInt (f : Binary) (n : Int) : Nat := f.round (decide (n < 0)) n.natAbs 1

def fractionOf (significand : Nat) (scale : Int) : Nat × Nat :=
  match scale with
  | .ofNat k => (significand * pow2 k, 1)
  | .negSucc k => (significand, pow2 (k + 1))

-- The same number in another format. What is no number stays so, sign and high payload kept.
def convert (source target : Binary) (bits : Nat) : Nat :=
  match source.decode bits with
  | .nan =>
    let negative := decide (source.signBit ≤ bits)
    let payload := bits % pow2 (source.fraction - 1)
    let moved :=
      if source.fraction ≤ target.fraction then payload * pow2 (target.fraction - source.fraction)
      else payload / pow2 (source.fraction - target.fraction)
    target.signed negative (target.quietNan + moved)
  | .infinite negative => target.signed negative target.infinity
  | .finite negative significand scale =>
    let (num, den) := fractionOf significand scale
    target.round negative num den

def truncate? (f : Binary) (bits : Nat) : Option Int :=
  match f.decode bits with
  | .finite negative significand scale =>
    let (num, den) := fractionOf significand scale
    let whole : Int := (num / den : Nat)
    some (if negative then -whole else whole)
  | _ => none

-- Comparison as numbers: the two zeros are equal and what is no number equals nothing.
def same (f : Binary) (a b : Nat) : Bool :=
  !f.isNan a && !f.isNan b && (a == b || (a % f.signBit == 0 && b % f.signBit == 0))

end Binary

end Tollgate
