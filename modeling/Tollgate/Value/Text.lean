import Tollgate.Value

namespace Tollgate.Value

-- Doubles and singles are written in full, without an exponent.
def plainNumber : Decimal.Layout where
  positional _ := true
  keepFraction := false
  tie := .upper
  nan := "NaN"
  infinite negative := if negative then "-inf" else "inf"

def body : Value → String
  | .i32 v => toString v.toInt
  | .u32 v => toString v.toNat
  | .i64 v => toString v.toInt
  | .u64 v => toString v.toNat
  | .f32 bits => plainNumber.text .single bits.toNat
  | .f64 bits => plainNumber.text .double bits.toNat
  | .bool v => if v then "true" else "false"
  | .string v => v
  | .bytes v => Text.hex v

def text (v : Value) : String := v.type.name ++ ":" ++ v.body

inductive NumberFlaw
  | empty
  | invalid
deriving Repr, DecidableEq

def NumberFlaw.message : NumberFlaw → String
  | .empty => "cannot parse float from empty string"
  | .invalid => "invalid float literal"

-- A numeral, or a spelling of infinity or of no number in any case, with an optional sign.
def readNumber (f : Binary) (raw : String) : Except NumberFlaw Nat :=
  if raw.isEmpty then .error .empty
  else
    let (negative, rest) := Decimal.takeSign raw.toList
    let word := String.ofList (rest.map Char.toLower)
    if word == "inf" || word == "infinity" then .ok (f.signed negative f.infinity)
    else if word == "nan" then .ok (f.signed negative f.quietNan)
    else match Decimal.Numeral.read? rest with
      | some n => .ok (n.toBits f negative)
      | none => .error .invalid

def readBool (raw : String) : Except String Bool :=
  if raw == "true" then .ok true
  else if raw == "false" then .ok false
  else .error "provided string was not `true` or `false`"

def readAs (t : ValueType) (raw : String) : Except String Value :=
  match t with
  | .i32 => ((Text.readInteger (-2147483648) 2147483647 raw).map fun n =>
      Value.i32 (Int32.ofInt n)).mapError (·.message)
  | .u32 => ((Text.readInteger 0 4294967295 raw).map fun n =>
      Value.u32 (UInt32.ofNat n.toNat)).mapError (·.message)
  | .i64 => ((Text.readInteger (-9223372036854775808) 9223372036854775807 raw).map fun n =>
      Value.i64 (Int64.ofInt n)).mapError (·.message)
  | .u64 => ((Text.readInteger 0 18446744073709551615 raw).map fun n =>
      Value.u64 (UInt64.ofNat n.toNat)).mapError (·.message)
  | .f32 => ((readNumber .single raw).map fun n =>
      Value.f32 (UInt32.ofNat n)).mapError (·.message)
  | .f64 => ((readNumber .double raw).map fun n =>
      Value.f64 (UInt64.ofNat n)).mapError (·.message)
  | .bool => (readBool raw).map .bool
  | .string => .ok (.string raw)
  | .bytes => ((Text.unhex raw).map Value.bytes).mapError (·.message)

def splitColon? (text : String) : Option (String × String) :=
  let cs := text.toList
  match cs.dropWhile (· ≠ ':') with
  | _ :: raw => some (String.ofList (cs.takeWhile (· ≠ ':')), String.ofList raw)
  | [] => none

def read (text : String) : Except String Value :=
  match splitColon? text with
  | none => .error s!"expected 'type:value', got '{text}'"
  | some (tag, raw) => do
    let t ← ValueType.read tag
    (readAs t raw).mapError fun why => s!"invalid {t.name} '{raw}': {why}"

-- The content that stands under `value` in the document form.
def content : Value → Document
  | .i32 v => .int v.toInt
  | .u32 v => .int v.toNat
  | .i64 v => .int v.toInt
  | .u64 v => .int v.toNat
  | .f32 bits => .single bits
  | .f64 bits => .double bits
  | .bool v => .bool v
  | .string v => .text v
  | .bytes v => .list (v.map fun b => .int b.toNat)

def toDocument (v : Value) : Document :=
  .fields [("type", v.type.toDocument), ("value", v.content)]

def ofContent? (t : ValueType) (d : Document) : Option Value :=
  match t with
  | .i32 => d.asInt32?.map .i32
  | .u32 => d.asUInt32?.map .u32
  | .i64 => d.asInt64?.map .i64
  | .u64 => d.asUInt64?.map .u64
  | .f32 => d.asSingle?.map .f32
  | .f64 => d.asDouble?.map .f64
  | .bool => d.asBool?.map .bool
  | .string => d.asText?.map .string
  | .bytes => d.asBytes?.map .bytes

def ofDocument? (d : Document) : Option Value := do
  match ← d.record? ["type", "value"] with
  | [some tag, some content] => ofContent? (← ValueType.ofDocument? tag) content
  | _ => none

end Tollgate.Value
