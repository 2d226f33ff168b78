import Tollgate.Document
import Tollgate.Text.Blank
import Tollgate.Text.Hex
import Tollgate.Text.Integer

namespace Tollgate

inductive ValueType
  | i32
  | u32
  | i64
  | u64
  | f32
  | f64
  | bool
  | string
  | bytes
deriving Repr, DecidableEq, Inhabited

namespace ValueType

def all : List ValueType := [.i32, .u32, .i64, .u64, .f32, .f64, .bool, .string, .bytes]

def name : ValueType → String
  | .i32 => "i32"
  | .u32 => "u32"
  | .i64 => "i64"
  | .u64 => "u64"
  | .f32 => "f32"
  | .f64 => "f64"
  | .bool => "bool"
  | .string => "string"
  | .bytes => "bytes"

def ofName? (name : String) : Option ValueType := all.find? fun t => t.name == name

-- Texts and byte strings live in linear memory as an address and a length.
def isBuffer : ValueType → Bool
  | .string => true
  | .bytes => true
  | _ => false

def wordCount (t : ValueType) : Nat := if t.isBuffer then 2 else 1

-- A type's name in any case, with blanks around it; `str` is short for `string`.
def read (text : String) : Except String ValueType :=
  let name := Text.lowerAscii (Text.trim text)
  if name == "str" then .ok .string
  else match ofName? name with
    | some t => .ok t
    | none => .error s!"unknown value type '{name}'"

def toDocument (t : ValueType) : Document := .text t.name

def ofDocument? (d : Document) : Option ValueType := d.asName? >>= ofName?

end ValueType

inductive Value
  | i32 (v : Int32)
  | u32 (v : UInt32)
  | i64 (v : Int64)
  | u64 (v : UInt64)
  | f32 (bits : UInt32)
  | f64 (bits : UInt64)
  | bool (v : Bool)
  | string (v : String)
  | bytes (v : List UInt8)
deriving Repr, DecidableEq, Inhabited

namespace Value

def type : Value → ValueType
  | .i32 _ => .i32
  | .u32 _ => .u32
  | .i64 _ => .i64
  | .u64 _ => .u64
  | .f32 _ => .f32
  | .f64 _ => .f64
  | .bool _ => .bool
  | .string _ => .string
  | .bytes _ => .bytes

def payload? : Value → Option (List UInt8)
  | .string s => some (Text.bytesOf s)
  | .bytes b => some b
  | _ => none

def number? : Value → Option UInt64
  | .i32 v => some (UInt64.ofNat (Binary.double.ofInt v.toInt))
  | .u32 v => some (UInt64.ofNat (Binary.double.ofInt v.toNat))
  | .i64 v => some (UInt64.ofNat (Binary.double.ofInt v.toInt))
  | .u64 v => some (UInt64.ofNat (Binary.double.ofInt v.toNat))
  | .f32 bits => some (UInt64.ofNat (Binary.convert .single .double bits.toNat))
  | .f64 bits => some bits
  | _ => none

-- Equality as numbers: both zeros are equal and what is no number differs from itself.
def same : Value → Value → Bool
  | .f32 a, .f32 b => Binary.single.same a.toNat b.toNat
  | .f64 a, .f64 b => Binary.double.same a.toNat b.toNat
  | a, b => a == b

end Value

end Tollgate
