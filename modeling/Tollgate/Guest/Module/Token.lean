import Tollgate.Text.Hex
import Tollgate.Text.Utf8

namespace Tollgate.Guest

inductive Token
  | openList
  | closeList
  | remark (text : String)
  | word (text : String)
  | name (text : String)
  | quoted (bytes : List UInt8)
  | reserved
deriving Repr, DecidableEq, Inhabited

namespace Token

def isWordChar (c : Char) : Bool :=
  c.isAlphanum || "!#$%&'*+-./:<=>?@\\^_\x60|~".toList.contains c

def isReservedChar (c : Char) : Bool := ",;[]\x7b\x7d".toList.contains c

def isBlank (c : Char) : Bool := c = ' ' || c = '\t' || c = '\n' || c = '\r'

-- Characters that turn the direction of writing; they could make a text look like another one.
def isConfusing (c : Char) : Bool :=
  [0x202A, 0x202B, 0x202D, 0x202E, 0x2066, 0x2067, 0x2068, 0x2069, 0x206C].contains c.toNat

-- Skips a comment in brackets, in which such comments may nest.
def skipComment : Nat → List Char → Option (List Char)
  | _, [] => none
  | depth, '(' :: ';' :: rest => skipComment (depth + 1) rest
  | depth, ';' :: ')' :: rest =>
    match depth with
    | 0 => some rest
    | d + 1 => skipComment d rest
  | depth, c :: rest => if isConfusing c then none else skipComment depth rest

def skipLine (input : List Char) : Option (List Char) :=
  let isEnd (c : Char) : Bool := c = '\n' || c = '\r'
  if (input.takeWhile fun c => !isEnd c).any isConfusing then none
  else some (input.dropWhile fun c => !isEnd c)

def hexDigit? (c : Char) : Option Nat :=
  if c.toNat < 128 then Text.hexValue? (UInt8.ofNat c.toNat) else none

-- Hexadecimal digits up to a closing brace. Underscores may stand behind digits but not at the end.
def readScalar (n : Nat) (complete : Bool) : List Char → Option (Char × List Char)
  | [] => none
  | c :: rest =>
    if c = '\x7d' then
      if complete && n.isValidChar then some (Char.ofNat n, rest) else none
    else if c = '_' then readScalar n false rest
    else if 1114111 < n then none
    else match hexDigit? c with
      | some d => readScalar (n * 16 + d) true rest
      | none => none

def readQuoted (done : List UInt8) : Nat → List Char → Option (List UInt8 × List Char)
  | 0, _ => none
  | fuel + 1, input =>
    match input with
    | [] => none
    | '"' :: rest => some (done.reverse, rest)
    | '\\' :: 'n' :: rest => readQuoted (10 :: done) fuel rest
    | '\\' :: 't' :: rest => readQuoted (9 :: done) fuel rest
    | '\\' :: 'r' :: rest => readQuoted (13 :: done) fuel rest
    | '\\' :: '"' :: rest => readQuoted (34 :: done) fuel rest
    | '\\' :: '\'' :: rest => readQuoted (39 :: done) fuel rest
    | '\\' :: '\\' :: rest => readQuoted (92 :: done) fuel rest
    | '\\' :: 'u' :: '\x7b' :: '_' :: _ => none
    | '\\' :: 'u' :: '\x7b' :: rest =>
      match readScalar 0 false rest with
      | some (c, rest) => readQuoted ((Text.bytesOf c.toString).reverse ++ done) fuel rest
      | none => none
    | '\\' :: a :: b :: rest =>
      match hexDigit? a, hexDigit? b with
      | some x, some y => readQuoted (UInt8.ofNat (x * 16 + y) :: done) fuel rest
      | _, _ => none
    | c :: rest =>
      if c.toNat < 32 ∨ c.toNat = 127 ∨ c = '\\' ∨ isConfusing c then none
      else readQuoted ((Text.bytesOf c.toString).reverse ++ done) fuel rest

inductive Piece
  | plain (chars : List Char)
  | quoted (bytes : List UInt8)
deriving Repr, DecidableEq, Inhabited

-- The longest run of words and strings. Every piece takes a character, so the length is fuel
-- enough.
def readRun : Nat → List Char → Option (List Piece × List Char)
  | 0, input => some ([], input)
  | fuel + 1, input =>
    match input with
    | '"' :: rest => do
      let (bytes, rest) ← readQuoted [] (fuel + 1) rest
      let (pieces, rest) ← readRun fuel rest
      return (.quoted bytes :: pieces, rest)
    | c :: rest =>
      if isWordChar c then do
        let (pieces, after) ← readRun fuel (rest.dropWhile isWordChar)
        return (.plain (c :: rest.takeWhile isWordChar) :: pieces, after)
      else some ([], input)
    | [] => some ([], [])

-- What follows a mark: the rest of a word, or a string that is not empty.
def marked? (mark : Char) : List Piece → Option String
  | [.plain (c :: d :: chars)] => if c = mark then some (String.ofList (d :: chars)) else none
  | [.plain [c], .quoted bytes] =>
    if c = mark && !bytes.isEmpty then (Text.ofUtf8 bytes).toOption else none
  | _ => none

def ofRun (pieces : List Piece) : Token :=
  match marked? '$' pieces, pieces with
  | some text, _ => .name text
  | none, [.plain chars] => .word (String.ofList chars)
  | none, [.quoted bytes] => .quoted bytes
  | none, _ => .reserved

def scan : Nat → List Char → Option (List Token)
  | 0, input => if input.isEmpty then some [] else none
  | fuel + 1, input =>
    match input with
    | [] => some []
    | ';' :: ';' :: rest => do scan fuel (← skipLine rest)
    | '(' :: ';' :: rest => do scan fuel (← skipComment 0 rest)
    | '(' :: '@' :: rest => do
      let (pieces, rest) ← readRun (fuel + 1) ('@' :: rest)
      return .remark (← marked? '@' pieces) :: (← scan fuel rest)
    | '(' :: rest => do return .openList :: (← scan fuel rest)
    | ')' :: rest => do return .closeList :: (← scan fuel rest)
    | c :: rest =>
      if isBlank c then scan fuel rest
      else if isReservedChar c then do return .reserved :: (← scan fuel rest)
      else if isWordChar c || c = '"' then do
        let (pieces, rest) ← readRun (fuel + 1) input
        return ofRun pieces :: (← scan fuel rest)
      else none

-- Remarks with a meaning, which are not understood here.
def knownRemarks : List String :=
  ["custom", "producers", "name", "dylink.0", "metadata.code.branch_hint"]

-- Leaves remarks out, with all that they hold. The depth counts the lists that are open in one.
def withoutRemarks : Nat → List Token → Option (List Token)
  | 0, [] => some []
  | _ + 1, [] => none
  | 0, .remark text :: rest =>
    if knownRemarks.contains text then none else withoutRemarks 1 rest
  | 0, t :: rest => (withoutRemarks 0 rest).map (t :: ·)
  | depth + 1, .openList :: rest => withoutRemarks (depth + 2) rest
  | depth + 1, .remark _ :: rest => withoutRemarks (depth + 2) rest
  | depth + 1, .closeList :: rest => withoutRemarks depth rest
  | depth + 1, _ :: rest => withoutRemarks (depth + 1) rest

def ofText? (text : String) : Option (List Token) :=
  scan text.length text.toList >>= withoutRemarks 0

end Token

end Tollgate.Guest
