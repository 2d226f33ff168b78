namespace Tollgate.Text

structure Utf8Flaw where
  start : Nat
  wrong : Option Nat
deriving Repr, DecidableEq

def Utf8Flaw.message (flaw : Utf8Flaw) : String :=
  match flaw.wrong with
  | some n => s!"invalid utf-8 sequence of {n} bytes from index {flaw.start}"
  | none => s!"incomplete utf-8 byte sequence from index {flaw.start}"

def isContinuation (b : UInt8) : Bool := 0x80 ≤ b && b ≤ 0xBF

-- What may follow the first byte of a sequence of three or four bytes.
def secondFits (lead second : UInt8) : Bool :=
  if lead = 0xE0 then 0xA0 ≤ second && second ≤ 0xBF
  else if lead = 0xED then 0x80 ≤ second && second ≤ 0x9F
  else if lead = 0xF0 then 0x90 ≤ second && second ≤ 0xBF
  else if lead = 0xF4 then 0x80 ≤ second && second ≤ 0x8F
  else isContinuation second

-- Number of bytes in the sequence that starts with `lead`; 0 if none does.
def sequenceLength (lead : UInt8) : Nat :=
  if lead < 0x80 then 1
  else if 0xC2 ≤ lead && lead ≤ 0xDF then 2
  else if 0xE0 ≤ lead && lead ≤ 0xEF then 3
  else if 0xF0 ≤ lead && lead ≤ 0xF4 then 4
  else 0

def sequenceFlaw? (lead : UInt8) (rest : List UInt8) : Option (Option Nat) :=
  match sequenceLength lead, rest with
  | 0, _ => some (some 1)
  | 1, _ => none
  | _, [] => some none
  | 2, a :: _ => if isContinuation a then none else some (some 1)
  | 3, a :: tail =>
    if !secondFits lead a then some (some 1)
    else match tail with
      | [] => some none
      | b :: _ => if isContinuation b then none else some (some 2)
  | _, a :: tail =>
    if !secondFits lead a then some (some 1)
    else match tail with
      | [] => some none
      | b :: tail' =>
        if !isContinuation b then some (some 2)
        else match tail' with
          | [] => some none
          | c :: _ => if isContinuation c then none else some (some 3)

-- `skip` bytes of the current sequence are still to pass.
def utf8FlawFrom (index skip : Nat) : List UInt8 → Option Utf8Flaw
  | [] => none
  | b :: rest =>
    match skip with
    | k + 1 => utf8FlawFrom (index + 1) k rest
    | 0 =>
      match sequenceFlaw? b rest with
      | some wrong => some ⟨index, wrong⟩
      | none => utf8FlawFrom (index + 1) (sequenceLength b - 1) rest

def utf8Flaw? (bytes : List UInt8) : Option Utf8Flaw := utf8FlawFrom 0 0 bytes

def ofUtf8 (bytes : List UInt8) : Except Utf8Flaw String :=
  match String.fromUTF8? ⟨bytes.toArray⟩ with
  | some text => .ok text
  | none => .error ((utf8Flaw? bytes).getD ⟨0, none⟩)

end Tollgate.Text
