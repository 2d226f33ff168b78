import Tollgate.Document
import Tollgate.Text.Hex

namespace Tollgate.Toml

-- A document under construction. A table is implicit until a header or value defines it, and
-- dotted if a dotted key made it.
inductive Node
  | leaf (value : Document)
  | table (implicit dotted : Bool) (entries : List (String × Node))
  | tables (items : List (List (String × Node)))
deriving Inhabited

abbrev Entries := List (String × Node)

mutual
def Node.toDocument (inline : Bool) : Node → Document
  | .leaf d => d
  | .table _ _ entries => .table inline (entryDocuments inline entries)
  | .tables items => .rows (itemDocuments inline items)

def entryDocuments (inline : Bool) : List (String × Node) → List (String × Document)
  | [] => []
  | (key, node) :: rest => (key, node.toDocument inline) :: entryDocuments inline rest

def itemDocuments (inline : Bool) : List (List (String × Node)) → List Document
  | [] => []
  | entries :: rest => .table inline (entryDocuments inline entries) :: itemDocuments inline rest
end

namespace Entries

def put (entries : Entries) (key : String) (node : Node) : Entries :=
  if (entries.lookup key).isSome then
    entries.map fun e => if e.1 = key then (key, node) else e
  else entries ++ [(key, node)]

-- Changes the table at the end of a path, which is made where it is missing. In an array of
-- tables the path goes through the last one.
def descend (dotted : Bool) (change : Bool → Entries → Option Entries) :
    List String → Bool → Entries → Option Entries
  | [], isDotted, entries => change isDotted entries
  | key :: path, _, entries =>
    match entries.lookup key with
    | none => do
      let inner ← descend dotted change path dotted []
      return entries.put key (.table true dotted inner)
    | some (.leaf _) => none
    | some (.tables items) =>
      match items.getLast? with
      | none => none
      | some last => do
        let inner ← descend dotted change path false last
        return entries.put key (.tables (items.dropLast ++ [inner]))
    | some (.table implicit isDotted inner) =>
      if dotted && !implicit then none
      else do
        let inner ← descend dotted change path isDotted inner
        return entries.put key (.table implicit isDotted inner)

def assign (path : List String) (key : String) (value : Document) (entries : Entries) :
    Option Entries :=
  descend true (fun isDotted inner =>
    if isDotted == path.isEmpty then none
    else if (inner.lookup key).isSome then none
    else some (inner ++ [(key, .leaf value)])) path false entries

-- A table header. Only a table that was made on the way to another one may be opened later.
def openTable (path : List String) (key : String) (entries : Entries) : Option Entries :=
  descend false (fun _ inner =>
    match inner.lookup key with
    | none => some (inner.put key (.table false false []))
    | some (.table true false content) => some (inner.put key (.table false false content))
    | some _ => none) path false entries

def addTable (path : List String) (key : String) (entries : Entries) : Option Entries :=
  descend false (fun _ inner =>
    match inner.lookup key with
    | none => some (inner.put key (.tables [[]]))
    | some (.tables items) => some (inner.put key (.tables (items ++ [[]])))
    | some _ => none) path false entries

end Entries

abbrev Reader := StateT (List Char) Option

namespace Reader

def refuse {α : Type} : Reader α := fun _ => none

def peek : Reader (Option Char) := fun input => some (input.head?, input)

def skip (count : Nat) : Reader Unit := fun input => some ((), input.drop count)

def char (c : Char) : Reader Unit := fun input =>
  match input with
  | d :: rest => if c = d then some ((), rest) else none
  | [] => none

def text? (text : String) : Reader Bool := fun input =>
  if input.take text.length = text.toList then some (true, input.drop text.length)
  else some (false, input)

def takeWhile (p : Char → Bool) : Reader (List Char) := fun input =>
  some (input.takeWhile p, input.dropWhile p)

def isBlank (c : Char) : Bool := c = ' ' || c = '\t'

def blanks : Reader Unit := do let _ ← takeWhile isBlank

def isPrintable (c : Char) : Bool := c = '\t' || (32 ≤ c.toNat && c.toNat ≠ 127)

def newline? : Reader Bool := do
  if ← text? "\n" then return true else text? "\r\n"

def comment : Reader Unit := do
  if ← text? "#" then
    let _ ← takeWhile isPrintable

-- Blanks, comments and line ends, in any number.
def gaps : Nat → Reader Unit
  | 0 => return ()
  | fuel + 1 => do
    blanks
    comment
    if ← newline? then gaps fuel

def lengthLeft : Reader Nat := fun input => some (input.length, input)

def skipGaps : Reader Unit := do gaps (← lengthLeft)

def lineEnd : Reader Unit := do
  blanks
  comment
  let rest ← peek
  if rest.isNone then return ()
  else if ← newline? then return ()
  else refuse

def hexDigit? (c : Char) : Option Nat :=
  if c.toNat < 128 then Text.hexValue? (UInt8.ofNat c.toNat) else none

def hexScalar (count : Nat) : Reader Char := fun input => do
  let digits ← (input.take count).mapM hexDigit?
  let n := digits.foldl (fun n d => 16 * n + d) 0
  if digits.length = count ∧ n.isValidChar then some (Char.ofNat n, input.drop count) else none

def escape : Reader Char := do
  match ← peek with
  | some 'b' => do skip 1; return Char.ofNat 8
  | some 't' => do skip 1; return '\t'
  | some 'n' => do skip 1; return '\n'
  | some 'f' => do skip 1; return Char.ofNat 12
  | some 'r' => do skip 1; return '\r'
  | some '"' => do skip 1; return '"'
  | some '\\' => do skip 1; return '\\'
  | some 'u' => do skip 1; hexScalar 4
  | some 'U' => do skip 1; hexScalar 8
  | _ => refuse

def basicTail (done : List Char) : Nat → Reader String
  | 0 => refuse
  | fuel + 1 => do
    match ← peek with
    | some '"' => do skip 1; return String.ofList done.reverse
    | some '\\' => do
      skip 1
      let c ← escape
      basicTail (c :: done) fuel
    | some c => if isPrintable c then do skip 1; basicTail (c :: done) fuel else refuse
    | none => refuse

def literalTail : Reader String := do
  let body ← takeWhile fun c => isPrintable c && c ≠ '\''
  char '\''
  return String.ofList body

-- Closes a string of several lines: three quotes, of which up to two more belong to the text.
def closing? (quote : Char) : Reader (Option Nat) := fun input =>
  let count := (input.takeWhile (· = quote)).length
  if count < 3 then some (none, input)
  else
    let extra := min (count - 3) 2
    some (some extra, input.drop (3 + extra))

def dropGaps : List Char → List Char
  | '\r' :: '\n' :: rest => dropGaps rest
  | c :: rest => if isBlank c || c = '\n' then dropGaps rest else c :: rest
  | [] => []

-- A backslash at the end of a line, behind which all blanks and line ends are passed.
def lineEscape? : Reader Bool := fun input =>
  let behind := input.dropWhile isBlank
  let ends := match behind with
    | '\n' :: _ => true
    | '\r' :: '\n' :: _ => true
    | _ => false
  if ends then
    some (true, dropGaps behind)
  else some (false, input)

-- The rest of a string of several lines. Escapes count in basic strings only.
def linesTail (quote : Char) (escapes : Bool) (done : List Char) : Nat → Reader String
  | 0 => refuse
  | fuel + 1 => do
    match ← closing? quote with
    | some extra => return String.ofList (List.replicate extra quote ++ done).reverse
    | none =>
      if ← newline? then linesTail quote escapes ('\n' :: done) fuel
      else
        match ← peek with
        | none => refuse
        | some c =>
          if escapes && c = '\\' then do
            skip 1
            if ← lineEscape? then linesTail quote escapes done fuel
            else
              let e ← escape
              linesTail quote escapes (e :: done) fuel
          else if isPrintable c then do
            skip 1
            linesTail quote escapes (c :: done) fuel
          else refuse

def string : Reader String := do
  let fuel := (← lengthLeft) + 1
  if ← text? "\"\"\"" then
    let _ ← newline?
    linesTail '"' true [] fuel
  else if ← text? "'''" then
    let _ ← newline?
    linesTail '\'' false [] fuel
  else if ← text? "\"" then basicTail [] fuel
  else if ← text? "'" then literalTail
  else refuse

def isBareChar (c : Char) : Bool :=
  (c.toNat < 128 && c.isAlphanum) || c = '_' || c = '-'

def simpleKey : Reader String := do
  match ← peek with
  | some '"' => do
    skip 1
    basicTail [] ((← lengthLeft) + 1)
  | some '\'' => do
    skip 1
    literalTail
  | _ => do
    let name ← takeWhile isBareChar
    if name.isEmpty then refuse else return String.ofList name

def dottedKey : Nat → Reader (List String × String)
  | 0 => refuse
  | fuel + 1 => do
    blanks
    let first ← simpleKey
    blanks
    if ← text? "." then
      let (path, last) ← dottedKey fuel
      return (first :: path, last)
    else return ([], first)

-- Nesting, and the number of keys that points join, stay below this.
def depthLimit : Nat := 80

def key : Reader (List String × String) := dottedKey (depthLimit - 1)

end Reader

-- Digits with single underscores between digits.
def digits? (isDigit : Char → Bool) : List Char → Option (List Char)
  | [] => none
  | [c] => if isDigit c then some [c] else none
  | c :: '_' :: rest => if isDigit c then (digits? isDigit rest).map (c :: ·) else none
  | c :: rest => if isDigit c then (digits? isDigit rest).map (c :: ·) else none

def plainDigits? (cs : List Char) : Option (List Char) := do
  let ds ← digits? Decimal.isDigit cs
  if cs.head? == some '0' && 1 < cs.length then none else some ds

def bounded? (n : Int) : Option Document :=
  if -9223372036854775808 ≤ n ∧ n ≤ 9223372036854775807 then some (.int n) else none

def radix? (base : Nat) (cs : List Char) : Option Document := do
  let ok (c : Char) : Bool := (Reader.hexDigit? c).any fun d => decide (d < base)
  let ds ← digits? ok cs
  bounded? (ds.foldl (fun n c => n * base + (Reader.hexDigit? c).getD 0) (0 : Nat))

def integer? (cs : List Char) : Option Document := do
  let (negative, body) := Decimal.takeSign cs
  let ds ← plainDigits? body
  let n : Int := Decimal.ofDigits ds
  bounded? (if negative then -n else n)

-- A whole part, then a fraction, an exponent or both. A number too large upward is refused.
def fractional? (cs : List Char) : Option Document := do
  let (negative, body) := Decimal.takeSign cs
  let isExponent (c : Char) : Bool := c = 'e' || c = 'E'
  let mantissa := body.takeWhile fun c => !isExponent c
  let exponent := body.drop mantissa.length
  let whole ← plainDigits? (mantissa.takeWhile (· ≠ '.'))
  let point := mantissa.dropWhile (· ≠ '.')
  let fraction ← match point with
    | [] => some []
    | _ :: rest => digits? Decimal.isDigit rest
  if point.isEmpty && exponent.isEmpty then none
  let power ← match exponent with
    | [] => some 0
    | _ :: rest => do
      let (down, ds) := Decimal.takeSign rest
      let ds ← digits? Decimal.isDigit ds
      some (Decimal.exponentValue down ds)
  let bits := (Decimal.Numeral.mk whole fraction power).toBits .double negative
  if bits = Binary.double.infinity then none else return .double (UInt64.ofNat bits)

def special? (cs : List Char) : Option Document :=
  let (negative, body) := Decimal.takeSign cs
  let double (bits : Nat) : Document :=
    .double (UInt64.ofNat (Binary.double.signed negative bits))
  match String.ofList body with
  | "inf" => some (double Binary.double.infinity)
  | "nan" => some (double Binary.double.quietNan)
  | _ => none

def twoDigits? (low high : Nat) : List Char → Option (Nat × List Char)
  | a :: b :: rest =>
    let n := Decimal.ofDigits [a, b]
    if Decimal.isDigit a && Decimal.isDigit b && decide (low ≤ n) && decide (n ≤ high) then
      some (n, rest)
    else none
  | _ => none

def isLeap (year : Nat) : Bool := year % 4 = 0 && (year % 100 ≠ 0 || year % 400 = 0)

def daysIn (year month : Nat) : Nat :=
  if month = 2 then (if isLeap year then 29 else 28)
  else if [4, 6, 9, 11].contains month then 30 else 31

def expect? (c : Char) : List Char → Option (List Char)
  | d :: rest => if c = d then some rest else none
  | [] => none

def afterDate? (cs : List Char) : Option (List Char) := do
  let year := cs.take 4
  if year.length ≠ 4 || !year.all Decimal.isDigit then none
  let rest ← expect? '-' (cs.drop 4)
  let (month, rest) ← twoDigits? 1 12 rest
  let rest ← expect? '-' rest
  let (_, rest) ← twoDigits? 1 (daysIn (Decimal.ofDigits year) month) rest
  return rest

def afterTime? (cs : List Char) : Option (List Char) := do
  let (_, rest) ← twoDigits? 0 23 cs
  let rest ← expect? ':' rest
  let (_, rest) ← twoDigits? 0 59 rest
  let rest ← expect? ':' rest
  let (_, rest) ← twoDigits? 0 60 rest
  match rest with
  | '.' :: fraction =>
    let after := fraction.dropWhile Decimal.isDigit
    if after.length < fraction.length then some after else none
  | _ => some rest

def isOffset (cs : List Char) : Bool :=
  match cs with
  | ['Z'] => true
  | ['z'] => true
  | sign :: rest =>
    (sign = '+' || sign = '-') &&
      (match twoDigits? 0 23 rest with
      | some (_, ':' :: minutes) =>
        match twoDigits? 0 59 minutes with
        | some (_, []) => true
        | _ => false
      | _ => false)
  | [] => false

-- A time of day, with an offset where one is allowed.
def isTime (offset : Bool) (cs : List Char) : Bool :=
  match afterTime? cs with
  | some [] => true
  | some rest => offset && isOffset rest
  | none => false

def isMoment (cs : List Char) : Bool :=
  match afterDate? cs with
  | some [] => true
  | some (mark :: time) => (mark = 'T' || mark = 't') && isTime true time
  | none => isTime false cs

def scalar? (cs : List Char) : Option Document :=
  match String.ofList cs with
  | "true" => some (.bool true)
  | "false" => some (.bool false)
  | text =>
    if isMoment cs then some (.moment text)
    else match cs with
      | '0' :: 'x' :: rest => radix? 16 rest
      | '0' :: 'o' :: rest => radix? 8 rest
      | '0' :: 'b' :: rest => radix? 2 rest
      | _ => integer? cs <|> fractional? cs <|> special? cs

namespace Reader

def isScalarChar (c : Char) : Bool :=
  isBareChar c || c = '+' || c = '.' || c = ':'

-- A blank may stand between a date and a time.
def scalar : Reader Document := do
  let word ← takeWhile isScalarChar
  let input ← get
  let second := (input.drop 1).takeWhile isScalarChar
  if afterDate? word == some [] && input.head? == some ' ' && isTime true second then
    skip (1 + second.length)
    return .moment (String.ofList (word ++ ' ' :: second))
  else
    match scalar? word with
    | some d => return d
    | none => refuse

-- The items of an array behind its bracket; a comma may follow the last one.
def arrayTail (item : Reader Document) (done : List Document) : Nat → Reader Document
  | 0 => refuse
  | fuel + 1 => do
    skipGaps
    if ← text? "]" then return .rows done.reverse
    else
      let value ← item
      skipGaps
      if ← text? "," then arrayTail item (value :: done) fuel
      else
        char ']'
        return .rows (value :: done).reverse

-- The pairs of an inline table behind its brace, on one line and without a last comma.
def pairsTail (item : Reader Document) (done : Entries) : Nat → Reader Document
  | 0 => refuse
  | fuel + 1 => do
    let (path, last) ← key
    char '='
    blanks
    let value ← item
    blanks
    match done.assign path last value with
    | none => refuse
    | some next =>
      if ← text? "," then pairsTail item next fuel
      else
        char '\x7d'
        return .table true (entryDocuments true next)

def plainValue : Reader Document := do
  match ← peek with
  | some '"' => return .text (← string)
  | some '\'' => return .text (← string)
  | _ => scalar

def value : Nat → Reader Document
  | 0 => plainValue
  | depth + 1 => do
    let fuel := (← lengthLeft) + 1
    match ← peek with
    | some '[' => do
      skip 1
      arrayTail (value depth) [] fuel
    | some '\x7b' => do
      skip 1
      blanks
      if ← text? "\x7d" then return .table true [] else pairsTail (value depth) [] fuel
    | _ => plainValue

structure Progress where
  entries : Entries := []
  current : List String := []

def header (p : Progress) (isArray : Bool) : Reader Progress := do
  let (path, last) ← key
  char ']'
  if isArray then char ']'
  lineEnd
  let next := if isArray then p.entries.addTable path last else p.entries.openTable path last
  match next with
  | some entries => return ⟨entries, path ++ [last]⟩
  | none => refuse

def pair (p : Progress) : Reader Progress := do
  let (path, last) ← key
  char '='
  blanks
  let v ← value (depthLimit - 1)
  lineEnd
  match Entries.descend false (fun _ inner => inner.assign path last v) p.current false
      p.entries with
  | some entries => return { p with entries := entries }
  | none => refuse

-- The lines that remain; each takes at least a character.
def lines (p : Progress) : Nat → Reader Progress
  | 0 => return p
  | fuel + 1 => do
    skipGaps
    match ← peek with
    | none => return p
    | some '[' => do
      skip 1
      let isArray ← text? "["
      lines (← header p isArray) fuel
    | some _ => lines (← pair p) fuel

end Reader

-- Reads a whole text; a mark for the order of bytes may stand in front.
def read? (text : String) : Option Document := do
  let input := match text.toList with
    | '\uFEFF' :: rest => rest
    | cs => cs
  let (p, rest) ← Reader.lines {} (input.length + 1) input
  if rest.isEmpty then return .table false (entryDocuments false p.entries) else none

end Tollgate.Toml
