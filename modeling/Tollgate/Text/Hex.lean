namespace Tollgate.Text

def hexDigit (n : Nat) : Char :=
  if n < 10 then Char.ofNat (48 + n) else Char.ofNat (87 + n)

def hexByte (b : UInt8) : List Char := [hexDigit (b.toNat / 16), hexDigit (b.toNat % 16)]

def hexChars (bytes : List UInt8) : List Char := bytes.flatMap hexByte

def hex (bytes : List UInt8) : String := String.ofList (hexChars bytes)

-- `width` digits of a number, most significant first.
def hexWidth (width n : Nat) : String :=
  String.ofList ((List.range width).map fun i => hexDigit (n >>> (4 * (width - 1 - i)) % 16))

def hexValue? (b : UInt8) : Option Nat :=
  let n := b.toNat
  if 48 ≤ n ∧ n ≤ 57 then some (n - 48)
  else if 97 ≤ n ∧ n ≤ 102 then some (n - 87)
  else if 65 ≤ n ∧ n ≤ 70 then some (n - 55)
  else none

def hexPair? (high low : UInt8) : Option UInt8 :=
  match hexValue? high, hexValue? low with
  | some h, some l => some (UInt8.ofNat (16 * h + l))
  | none, some l => if high = 43 then some (UInt8.ofNat l) else none
  | _, _ => none

inductive HexFlaw
  | odd
  | badPair (offset : Nat)
deriving Repr, DecidableEq

def HexFlaw.message : HexFlaw → String
  | .odd => "odd number of hex digits"
  | .badPair offset => s!"bad hex at offset {offset}"

-- Reads pairs from the front; `done` holds the bytes read so far, last first.
def unhexPairs (offset : Nat) (done : List UInt8) : List UInt8 → Except HexFlaw (List UInt8)
  | high :: low :: rest =>
    match hexPair? high low with
    | some b => unhexPairs (offset + 2) (b :: done) rest
    | none => .error (.badPair offset)
  | _ => .ok done.reverse

def bytesOf (text : String) : List UInt8 := text.toUTF8.data.toList

def unhex (text : String) : Except HexFlaw (List UInt8) :=
  let raw := bytesOf text
  if raw.length % 2 ≠ 0 then .error .odd else unhexPairs 0 [] raw

end Tollgate.Text
