import Tollgate.Decimal
import Tollgate.Guest.Module.Token
import Tollgate.Guest.Native

namespace Tollgate.Guest

-- The text form of a module is made of nested lists of words, names and quoted strings.
inductive Term
  | word (text : String)
  | name (text : String)
  | quoted (bytes : List UInt8)
  | list (items : List Term)
deriving Repr, Inhabited

namespace Term

-- The lists that are open, the innermost first, each with its items in reverse.
abbrev Pending := List (List Term)

def add (pending : Pending) (t : Term) : Option Pending :=
  match pending with
  | top :: rest => some ((t :: top) :: rest)
  | [] => none

def feed (pending : Pending) : Token → Option Pending
  | .openList => some ([] :: pending)
  | .closeList =>
    match pending with
    | top :: next :: rest => some ((.list top.reverse :: next) :: rest)
    | _ => none
  | .word text => add pending (.word text)
  | .name text => add pending (.name text)
  | .quoted bytes => add pending (.quoted bytes)
  | .remark _ => none
  | .reserved => none

def ofText? (text : String) : Option (List Term) := do
  match ← (← Token.ofText? text).foldlM feed [[]] with
  | [top] => some top.reverse
  | _ => none

def takeName : List Term → Option String × List Term
  | .name text :: rest => (some text, rest)
  | items => (none, items)

def text? : Term → Option String
  | .quoted bytes => (Text.ofUtf8 bytes).toOption
  | _ => none

def bytes? : Term → Option (List UInt8)
  | .quoted bytes => some bytes
  | _ => none

def digits? (base : Nat) (n : Nat) : List Char → Option Nat
  | [] => none
  | c :: rest =>
    match Token.hexDigit? c with
    | none => none
    | some d =>
      if base ≤ d then none
      else match rest with
        | [] => some (n * base + d)
        | '_' :: more => digits? base (n * base + d) more
        | more => digits? base (n * base + d) more

def magnitude? : List Char → Option Nat
  | '0' :: 'x' :: rest => digits? 16 0 rest
  | cs => digits? 10 0 cs

def whole? : Term → Option Int
  | .word text =>
    match text.toList with
    | '-' :: rest => (magnitude? rest).map fun n => -(n : Int)
    | '+' :: rest => (magnitude? rest).map fun n => (n : Int)
    | cs => (magnitude? cs).map fun n => (n : Int)
  | _ => none

-- A number that may have a plus but no minus in front.
def natural? : Term → Option Nat
  | .word text => if text.startsWith "-" then none else (whole? (.word text)).map Int.toNat
  | _ => none

-- An integer constant may be written with or without its sign bit.
def constant? (bits : Nat) (t : Term) : Option Int := do
  let n ← t.whole?
  if -(pow2 (bits - 1) : Int) ≤ n ∧ n < (pow2 bits : Int) then some n else none

-- Takes out underscores, which may only stand between two digits.
def plainDigits? (isDigit : Char → Bool) : List Char → Option (List Char)
  | [] => some []
  | '_' :: _ => none
  | a :: '_' :: b :: rest =>
    if isDigit a && isDigit b then (plainDigits? isDigit (b :: rest)).map (a :: ·) else none
  | c :: rest => (plainDigits? isDigit rest).map (c :: ·)

def isHexDigit (c : Char) : Bool := (Token.hexDigit? c).isSome

def hexFloat? (f : Binary) (negative : Bool) (text : List Char) : Option Nat := do
  let whole := text.takeWhile isHexDigit
  let (fraction, rest) := match text.dropWhile isHexDigit with
    | '.' :: tail => (tail.takeWhile isHexDigit, tail.dropWhile isHexDigit)
    | rest => ([], rest)
  let power ← match rest with
    | [] => some 0
    | mark :: tail =>
      let (below, digits) := Decimal.takeSign tail
      if (mark = 'p' || mark = 'P') && !digits.isEmpty && digits.all Decimal.isDigit then
        some (Decimal.exponentValue below digits)
      else none
  if whole.isEmpty then none
  else
    let n := (whole ++ fraction).foldl (fun n c => 16 * n + (Token.hexDigit? c).getD 0) 0
    let scale : Int := power - 4 * fraction.length
    -- Powers far outside the format are not computed.
    if n = 0 ∨ scale + n.log2 < -2000 then some (f.signed negative 0)
    else if 2000 < scale + n.log2 then none
    else match scale with
      | .ofNat k => some (f.round negative (n * pow2 k) 1)
      | .negSucc k => some (f.round negative n (pow2 (k + 1)))

def decimalFloat? (f : Binary) (negative : Bool) (text : List Char) : Option Nat :=
  match text with
  | first :: _ =>
    if Decimal.isDigit first then
      (Decimal.Numeral.read? text).map fun n => n.toBits f negative
    else none
  | [] => none

def unsignedFloat? (f : Binary) (negative : Bool) (text : List Char) : Option Nat :=
  match text with
  | ['i', 'n', 'f'] => some (f.signed negative f.infinity)
  | ['n', 'a', 'n'] => some (f.signed negative f.quietNan)
  | 'n' :: 'a' :: 'n' :: ':' :: '0' :: 'x' :: payload => do
    let n ← digits? 16 0 payload
    if 0 < n ∧ n < pow2 f.fraction then some (f.signed negative (f.infinity + n)) else none
  | _ => do
    let bits ← match text with
      | '0' :: 'x' :: rest => hexFloat? f negative (← plainDigits? isHexDigit rest)
      | _ => decimalFloat? f negative (← plainDigits? Decimal.isDigit text)
    -- A number that would round to infinity is none.
    if bits % f.signBit < f.infinity then some bits else none

def float? (f : Binary) : Term → Option Nat
  | .word text =>
    let (negative, rest) := Decimal.takeSign text.toList
    unsignedFloat? f negative rest
  | _ => none

def type? : Term → Option NativeType
  | .word "i32" => some .i32
  | .word "i64" => some .i64
  | .word "f32" => some .f32
  | .word "f64" => some .f64
  | .word "v128" => some .v128
  | .word "funcref" => some .funcref
  | .list [.word "ref", .word "null", .word "func"] => some .funcref
  | _ => none

end Term

end Tollgate.Guest
