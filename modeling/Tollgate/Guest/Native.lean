import Tollgate.Value

namespace Tollgate.Guest

inductive NativeType
  | i32
  | i64
  | f32
  | f64
  | v128
  | funcref
deriving Repr, DecidableEq, Inhabited

def NativeType.isReference : NativeType → Bool
  | .funcref => true
  | _ => false

def NativeType.shown : NativeType → String
  | .i32 => "i32"
  | .i64 => "i64"
  | .f32 => "f32"
  | .f64 => "f64"
  | .v128 => "v128"
  | .funcref => "(ref null func)"

structure Signature where
  params : List NativeType
  results : List NativeType
deriving Repr, DecidableEq, Inhabited

-- Floating-point values are bit patterns. A vector or reference only ever has its initial value.
inductive Native
  | i32 (v : UInt32)
  | i64 (v : UInt64)
  | f32 (bits : UInt32)
  | f64 (bits : UInt64)
  | blank (type : NativeType)
deriving Repr, DecidableEq, Inhabited

namespace Native

def type : Native → NativeType
  | .i32 _ => .i32
  | .i64 _ => .i64
  | .f32 _ => .f32
  | .f64 _ => .f64
  | .blank t => t

def zero : NativeType → Native
  | .i32 => .i32 0
  | .i64 => .i64 0
  | .f32 => .f32 0
  | .f64 => .f64 0
  | t => .blank t

-- A call word as a number of the type; only numbers cross the boundary.
def ofWord? (word : UInt64) : NativeType → Option Native
  | .i32 => some (.i32 word.toUInt32)
  | .i64 => some (.i64 word)
  | .f32 => some (.f32 word.toUInt32)
  | .f64 => some (.f64 word)
  | _ => none

-- A 32-bit integer is widened with its sign, every other number with zeros.
def word : Native → UInt64
  | .i32 v => v.toInt32.toInt64.toUInt64
  | .i64 v => v
  | .f32 bits => bits.toUInt64
  | .f64 bits => bits
  | .blank _ => 0

def valueType : Native → ValueType
  | .i64 _ => .i64
  | .f32 _ => .f32
  | .f64 _ => .f64
  | _ => .i32

def ofBool (b : Bool) : Native := .i32 (if b then 1 else 0)

end Native

-- Bounds on a memory (in pages) or a table (in elements).
structure Limits where
  least : Nat
  most : Option Nat
deriving Repr, DecidableEq, Inhabited

end Tollgate.Guest
