import Tollgate.Document
import Tollgate.Table

namespace Tollgate.Document

-- Numbers keep a fraction in the middle of their range and have an exponent elsewhere.
def jsonNumber (low high : Int) : Decimal.Layout where
  positional lead := decide (low ≤ lead ∧ lead ≤ high)
  keepFraction := true
  tie := .even
  nan := "null"
  infinite _ := "null"

def jsonDouble : Decimal.Layout := jsonNumber (-5) 15

def jsonSingle : Decimal.Layout := jsonNumber (-6) 12

def escapeChar (c : Char) : List Char :=
  if c = '"' then ['\\', '"']
  else if c = '\\' then ['\\', '\\']
  else if c = '\n' then ['\\', 'n']
  else if c = '\r' then ['\\', 'r']
  else if c = '\t' then ['\\', 't']
  else if c.toNat = 8 then ['\\', 'b']
  else if c.toNat = 12 then ['\\', 'f']
  else if c.toNat < 32 then
    ['\\', 'u', '0', '0', Char.ofNat (48 + c.toNat / 16), (Nat.digitChar (c.toNat % 16))]
  else [c]

def quoted (text : String) : String :=
  String.ofList ('"' :: text.toList.flatMap escapeChar ++ ['"'])

mutual
def toJson : Document → String
  | .null => "null"
  | .bool b => if b then "true" else "false"
  | .int n => toString n
  | .single bits => jsonSingle.text .single bits.toNat
  | .double bits => jsonDouble.text .double bits.toNat
  | .text s => quoted s
  | .moment s => quoted s
  | .list items => "[" ++ String.intercalate "," (itemTexts items) ++ "]"
  | .rows items => "[" ++ String.intercalate "," (itemTexts items) ++ "]"
  | .fields entries => "\x7b" ++ String.intercalate "," (entryTexts entries) ++ "\x7d"
  | .table _ entries => "\x7b" ++ String.intercalate "," (entryTexts entries) ++ "\x7d"

def itemTexts : List Document → List String
  | [] => []
  | d :: rest => toJson d :: itemTexts rest

def entryTexts : List (String × Document) → List String
  | [] => []
  | (key, d) :: rest => (quoted key ++ ":" ++ toJson d) :: entryTexts rest
end

def indentation (level : Nat) : String := String.ofList ('\n' :: List.replicate (2 * level) ' ')

def bracketed (opening closing : String) (level : Nat) (items : List String) : String :=
  if items.isEmpty then opening ++ closing
  else opening ++ indentation (level + 1) ++
    String.intercalate ("," ++ indentation (level + 1)) items ++ indentation level ++ closing

mutual
def toJsonLines (level : Nat) : Document → String
  | .list items => bracketed "[" "]" level (itemLines (level + 1) items)
  | .fields entries => bracketed "\x7b" "\x7d" level (entryLines (level + 1) entries)
  | d => d.toJson

def itemLines (level : Nat) : List Document → List String
  | [] => []
  | d :: rest => toJsonLines level d :: itemLines level rest

def entryLines (level : Nat) : List (String × Document) → List String
  | [] => []
  | (key, d) :: rest => (quoted key ++ ": " ++ toJsonLines level d) :: entryLines level rest
end

def isJsonSpace (c : Char) : Bool := c = ' ' || c = '\n' || c = '\r' || c = '\t'

def skipSpace (cs : List Char) : List Char := cs.dropWhile isJsonSpace

def hexNibble? (c : Char) : Option Nat :=
  if '0' ≤ c ∧ c ≤ '9' then some (c.toNat - 48)
  else if 'a' ≤ c ∧ c ≤ 'f' then some (c.toNat - 87)
  else if 'A' ≤ c ∧ c ≤ 'F' then some (c.toNat - 55)
  else none

def hex4? : List Char → Option (Nat × List Char)
  | a :: b :: c :: d :: rest => do
    let n := ((← hexNibble? a) * 16 + (← hexNibble? b)) * 16 + (← hexNibble? c)
    return (n * 16 + (← hexNibble? d), rest)
  | _ => none

-- A code unit, joined with a second one when it is the first half of a pair.
def unicodeEscape? (cs : List Char) : Option (Char × List Char) := do
  let (n, rest) ← hex4? cs
  if 0xD800 ≤ n ∧ n < 0xDC00 then
    match rest with
    | '\\' :: 'u' :: more => do
      let (m, rest) ← hex4? more
      if 0xDC00 ≤ m ∧ m < 0xE000 then
        return (Char.ofNat (0x10000 + (n - 0xD800) * 1024 + (m - 0xDC00)), rest)
      else none
    | _ => none
  else if 0xDC00 ≤ n ∧ n < 0xE000 then none
  else return (Char.ofNat n, rest)

-- The rest of a text whose opening quote is passed; `fuel` bounds the characters.
def stringTail? (done : List Char) : Nat → List Char → Option (String × List Char)
  | 0, _ => none
  | _, [] => none
  | fuel + 1, c :: rest =>
    if c = '"' then some (String.ofList done.reverse, rest)
    else if c = '\\' then
      match rest with
      | 'u' :: more => do
        let (u, rest) ← unicodeEscape? more
        stringTail? (u :: done) fuel rest
      | e :: more =>
        match e with
        | '"' => stringTail? ('"' :: done) fuel more
        | '\\' => stringTail? ('\\' :: done) fuel more
        | '/' => stringTail? ('/' :: done) fuel more
        | 'b' => stringTail? (Char.ofNat 8 :: done) fuel more
        | 'f' => stringTail? (Char.ofNat 12 :: done) fuel more
        | 'n' => stringTail? ('\n' :: done) fuel more
        | 'r' => stringTail? ('\r' :: done) fuel more
        | 't' => stringTail? ('\t' :: done) fuel more
        | _ => none
      | [] => none
    else if c.toNat < 32 then none
    else stringTail? (c :: done) fuel rest

def isNumeralChar (c : Char) : Bool :=
  Decimal.isDigit c || c = '-' || c = '+' || c = '.' || c = 'e' || c = 'E'

-- A whole numeral has no leading zero, and a point has digits on both sides.
def numeral? (cs : List Char) : Option Document := do
  let (negative, body) := match cs with
    | '-' :: rest => (true, rest)
    | rest => (false, rest)
  let whole := body.takeWhile Decimal.isDigit
  let rest := body.dropWhile Decimal.isDigit
  if whole.isEmpty || (whole.head? == some '0' && 1 < whole.length) then none
  else if rest.isEmpty then
    let n := Decimal.ofDigits whole
    if negative then
      if n ≠ 0 ∧ n ≤ 9223372036854775808 then return .int (-(n : Int))
      else return .double (UInt64.ofNat (Decimal.toBits .double true n 0))
    else if n ≤ 18446744073709551615 then return .int n
    else return .double (UInt64.ofNat (Decimal.toBits .double false n 0))
  else
    let n ← Decimal.Numeral.read? body
    if rest.head? == some '.' && n.fraction.isEmpty then none
    else return .double (UInt64.ofNat (n.toBits .double negative))

mutual
def value? : Nat → List Char → Option (Document × List Char)
  | 0, _ => none
  | fuel + 1, cs =>
    match skipSpace cs with
    | 'n' :: 'u' :: 'l' :: 'l' :: rest => some (.null, rest)
    | 't' :: 'r' :: 'u' :: 'e' :: rest => some (.bool true, rest)
    | 'f' :: 'a' :: 'l' :: 's' :: 'e' :: rest => some (.bool false, rest)
    | '"' :: rest => (stringTail? [] (rest.length + 1) rest).map fun r => (.text r.1, r.2)
    | '[' :: rest =>
      match skipSpace rest with
      | ']' :: rest => some (.list [], rest)
      | rest => itemsTail? fuel [] rest
    | '\x7b' :: rest =>
      match skipSpace rest with
      | '\x7d' :: rest => some (.fields [], rest)
      | rest => entriesTail? fuel [] rest
    | rest => (numeral? (rest.takeWhile isNumeralChar)).map fun d =>
        (d, rest.dropWhile isNumeralChar)

def itemsTail? : Nat → List Document → List Char → Option (Document × List Char)
  | 0, _, _ => none
  | fuel + 1, done, cs => do
    let (d, rest) ← value? fuel cs
    match skipSpace rest with
    | ',' :: rest => itemsTail? fuel (d :: done) rest
    | ']' :: rest => some (.list (d :: done).reverse, rest)
    | _ => none

def entriesTail? : Nat → List (String × Document) → List Char → Option (Document × List Char)
  | 0, _, _ => none
  | fuel + 1, done, cs => do
    match skipSpace cs with
    | '"' :: rest => do
      let (key, rest) ← stringTail? [] (rest.length + 1) rest
      match skipSpace rest with
      | ':' :: rest => do
        let (d, rest) ← value? fuel rest
        let done := Table.insertInto key d done
        match skipSpace rest with
        | ',' :: rest => entriesTail? fuel done rest
        | '\x7d' :: rest => some (.fields done, rest)
        | _ => none
      | _ => none
    | _ => none
end

-- A text that holds exactly one value. Objects come with their keys in rising order, each with its
-- last value.
def ofJson? (text : String) : Option Document := do
  let cs := text.toList
  let (d, rest) ← value? (cs.length + 1) cs
  if (skipSpace rest).isEmpty then some d else none

end Tollgate.Document
