import Tollgate.Count
import Tollgate.Guest.Native
import Tollgate.Guest.Trap

namespace Tollgate.Guest

inductive Width
  | w32
  | w64
deriving Repr, DecidableEq, Inhabited

def Width.int : Width → NativeType
  | .w32 => .i32
  | .w64 => .i64

def Width.float : Width → NativeType
  | .w32 => .f32
  | .w64 => .f64

def Width.bits : Width → Nat
  | .w32 => 32
  | .w64 => 64

inductive IntUnary
  | clz
  | ctz
  | popcnt
  | extend8
  | extend16
  | extend32
deriving Repr, DecidableEq, Inhabited

inductive IntBinary
  | add
  | sub
  | mul
  | divS
  | divU
  | remS
  | remU
  | and
  | or
  | xor
  | shl
  | shrS
  | shrU
  | rotl
  | rotr
deriving Repr, DecidableEq, Inhabited

inductive IntCompare
  | eq
  | ne
  | ltS
  | ltU
  | gtS
  | gtU
  | leS
  | leU
  | geS
  | geU
deriving Repr, DecidableEq, Inhabited

inductive FloatUnary
  | abs
  | neg
  | ceil
  | floor
  | trunc
  | nearest
  | sqrt
deriving Repr, DecidableEq, Inhabited

inductive FloatBinary
  | add
  | sub
  | mul
  | div
  | min
  | max
  | copysign
deriving Repr, DecidableEq, Inhabited

inductive FloatCompare
  | eq
  | ne
  | lt
  | gt
  | le
  | ge
deriving Repr, DecidableEq, Inhabited

inductive Conversion
  | wrap
  | extendS
  | extendU
  | truncS (source target : Width)
  | truncU (source target : Width)
  | saturateS (source target : Width)
  | saturateU (source target : Width)
  | convertS (source target : Width)
  | convertU (source target : Width)
  | demote
  | promote
  | toBits (width : Width)
  | ofBits (width : Width)
deriving Repr, DecidableEq, Inhabited

namespace IntUnary

-- The signed reading of the low `bits` bits of a number, as a number modulo `2 ^ width`.
def signExtend (bits width n : Nat) : Nat :=
  let low := n % pow2 bits
  if low < pow2 (bits - 1) then low else low + pow2 width - pow2 bits

def trailing (n : Nat) : Nat → Nat
  | 0 => 0
  | fuel + 1 => if n % 2 = 1 then 0 else trailing (n / 2) fuel + 1

def ones (n : Nat) : Nat → Nat
  | 0 => 0
  | fuel + 1 => n % 2 + ones (n / 2) fuel

def apply (op : IntUnary) (width n : Nat) : Nat :=
  match op with
  | .clz => if n = 0 then width else width - 1 - n.log2
  | .ctz => trailing n width
  | .popcnt => ones n width
  | .extend8 => signExtend 8 width n
  | .extend16 => signExtend 16 width n
  | .extend32 => signExtend 32 width n

end IntUnary

namespace IntBinary

def apply32 (op : IntBinary) (a b : UInt32) : Except Trap UInt32 :=
  match op with
  | .add => .ok (a + b)
  | .sub => .ok (a - b)
  | .mul => .ok (a * b)
  | .divS =>
    if b = 0 then .error .divisionByZero
    else if a = 0x80000000 ∧ b = 0xFFFFFFFF then .error .integerOverflow
    else .ok (a.toInt32 / b.toInt32).toUInt32
  | .divU => if b = 0 then .error .divisionByZero else .ok (a / b)
  | .remS => if b = 0 then .error .divisionByZero else .ok (a.toInt32 % b.toInt32).toUInt32
  | .remU => if b = 0 then .error .divisionByZero else .ok (a % b)
  | .and => .ok (a &&& b)
  | .or => .ok (a ||| b)
  | .xor => .ok (a ^^^ b)
  | .shl => .ok (a <<< b)
  | .shrS => .ok (a.toInt32 >>> (b % 32).toInt32).toUInt32
  | .shrU => .ok (a >>> b)
  | .rotl => .ok (if b % 32 = 0 then a else (a <<< (b % 32)) ||| (a >>> (32 - b % 32)))
  | .rotr => .ok (if b % 32 = 0 then a else (a >>> (b % 32)) ||| (a <<< (32 - b % 32)))

def apply64 (op : IntBinary) (a b : UInt64) : Except Trap UInt64 :=
  match op with
  | .add => .ok (a + b)
  | .sub => .ok (a - b)
  | .mul => .ok (a * b)
  | .divS =>
    if b = 0 then .error .divisionByZero
    else if a = 0x8000000000000000 ∧ b = 0xFFFFFFFFFFFFFFFF then .error .integerOverflow
    else .ok (a.toInt64 / b.toInt64).toUInt64
  | .divU => if b = 0 then .error .divisionByZero else .ok (a / b)
  | .remS => if b = 0 then .error .divisionByZero else .ok (a.toInt64 % b.toInt64).toUInt64
  | .remU => if b = 0 then .error .divisionByZero else .ok (a % b)
  | .and => .ok (a &&& b)
  | .or => .ok (a ||| b)
  | .xor => .ok (a ^^^ b)
  | .shl => .ok (a <<< b)
  | .shrS => .ok (a.toInt64 >>> (b % 64).toInt64).toUInt64
  | .shrU => .ok (a >>> b)
  | .rotl => .ok (if b % 64 = 0 then a else (a <<< (b % 64)) ||| (a >>> (64 - b % 64)))
  | .rotr => .ok (if b % 64 = 0 then a else (a >>> (b % 64)) ||| (a <<< (64 - b % 64)))

end IntBinary

namespace IntCompare

def apply32 (op : IntCompare) (a b : UInt32) : Bool :=
  match op with
  | .eq => a == b
  | .ne => a != b
  | .ltS => a.toInt32 < b.toInt32
  | .ltU => a < b
  | .gtS => b.toInt32 < a.toInt32
  | .gtU => b < a
  | .leS => a.toInt32 ≤ b.toInt32
  | .leU => a ≤ b
  | .geS => b.toInt32 ≤ a.toInt32
  | .geU => b ≤ a

def apply64 (op : IntCompare) (a b : UInt64) : Bool :=
  match op with
  | .eq => a == b
  | .ne => a != b
  | .ltS => a.toInt64 < b.toInt64
  | .ltU => a < b
  | .gtS => b.toInt64 < a.toInt64
  | .gtU => b < a
  | .leS => a.toInt64 ≤ b.toInt64
  | .leU => a ≤ b
  | .geS => b.toInt64 ≤ a.toInt64
  | .geU => b ≤ a

end IntCompare

def Width.format : Width → Binary
  | .w32 => .single
  | .w64 => .double

def Width.fromDouble (w : Width) (x : Float) : Nat :=
  match w with
  | .w32 => x.toFloat32.toBits.toNat
  | .w64 => x.toBits.toNat

-- Every single pattern is exactly a double one.
def Width.toDouble (w : Width) (bits : Nat) : Float :=
  match w with
  | .w32 => (Float32.ofBits (UInt32.ofNat bits)).toFloat
  | .w64 => Float.ofBits (UInt64.ofNat bits)

def Width.nan (w : Width) : Nat := w.format.signBit + w.format.quietNan

def Width.quiet (w : Width) (bits : Nat) : Nat := bits ||| w.format.quietNan

-- A computed result, with the rule for operands that are no numbers in front.
def Width.settle (w : Width) (operands : List Nat) (result : Nat) : Nat :=
  match operands.find? w.format.isNan with
  | some bits => w.quiet bits
  | none => if w.format.isNan result then w.nan else result

namespace FloatUnary

def nearestEven (x : Float) : Float :=
  let down := x.floor
  let gap := x - down
  let picked :=
    if gap < 0.5 then down
    else if 0.5 < gap then down + 1
    else if (down / 2).floor * 2 == down then down else down + 1
  if picked == 0 then (if x.toBits < 0x8000000000000000 then 0.0 else -0.0) else picked

def towardZero (x : Float) : Float := if x.toBits < 0x8000000000000000 then x.floor else x.ceil

def apply (op : FloatUnary) (w : Width) (bits : Nat) : Nat :=
  let x := w.toDouble bits
  match op with
  | .abs => bits % w.format.signBit
  | .neg => (bits + w.format.signBit) % (2 * w.format.signBit)
  | .ceil => w.settle [bits] (w.fromDouble x.ceil)
  | .floor => w.settle [bits] (w.fromDouble x.floor)
  | .trunc => w.settle [bits] (w.fromDouble (towardZero x))
  | .nearest => w.settle [bits] (w.fromDouble (nearestEven x))
  | .sqrt =>
    match w with
    | .w32 => w.settle [bits] (Float32.ofBits (UInt32.ofNat bits)).sqrt.toBits.toNat
    | .w64 => w.settle [bits] x.sqrt.toBits.toNat

end FloatUnary

namespace FloatBinary

def arithmetic (op : FloatBinary) (w : Width) (a b : Nat) : Nat :=
  match w with
  | .w32 =>
    let x := Float32.ofBits (UInt32.ofNat a)
    let y := Float32.ofBits (UInt32.ofNat b)
    let z := match op with
      | .add => x + y
      | .sub => x - y
      | .mul => x * y
      | _ => x / y
    z.toBits.toNat
  | .w64 =>
    let x := Float.ofBits (UInt64.ofNat a)
    let y := Float.ofBits (UInt64.ofNat b)
    let z := match op with
      | .add => x + y
      | .sub => x - y
      | .mul => x * y
      | _ => x / y
    z.toBits.toNat

-- Of two zeros the least is the negative one.
def least (w : Width) (a b : Nat) : Nat :=
  if w.toDouble a < w.toDouble b then a
  else if w.toDouble b < w.toDouble a then b
  else a ||| b

def greatest (w : Width) (a b : Nat) : Nat :=
  if w.toDouble b < w.toDouble a then a
  else if w.toDouble a < w.toDouble b then b
  else a &&& b

def apply (op : FloatBinary) (w : Width) (a b : Nat) : Nat :=
  match op with
  | .min => w.settle [a, b] (least w a b)
  | .max => w.settle [a, b] (greatest w a b)
  | .copysign => a % w.format.signBit + b / w.format.signBit * w.format.signBit
  | _ => w.settle [a, b] (arithmetic op w a b)

end FloatBinary

def FloatCompare.apply (op : FloatCompare) (w : Width) (a b : Nat) : Bool :=
  let x := w.toDouble a
  let y := w.toDouble b
  match op with
  | .eq => x == y
  | .ne => !(x == y)
  | .lt => x < y
  | .gt => y < x
  | .le => x ≤ y
  | .ge => y ≤ x

namespace Conversion

def truncate (source : Width) (low high : Int) (bits : Nat) : Except Trap Int :=
  if source.format.isNan bits then .error .invalidConversion
  else match source.format.truncate? bits with
    | none => .error .integerOverflow
    | some n => if low ≤ n ∧ n ≤ high then .ok n else .error .integerOverflow

-- The same without a failure: what lies outside becomes the nearer bound, and no number becomes 0.
def saturate (source : Width) (low high : Int) (bits : Nat) : Int :=
  match source.format.decode bits with
  | .nan => 0
  | .infinite negative => if negative then low else high
  | .finite .. => max low (min high ((source.format.truncate? bits).getD 0))

def intOf (w : Width) (n : Int) : Native :=
  match w with
  | .w32 => .i32 (UInt32.ofInt n)
  | .w64 => .i64 (UInt64.ofInt n)

def floatOf (w : Width) (bits : Nat) : Native :=
  match w with
  | .w32 => .f32 (UInt32.ofNat bits)
  | .w64 => .f64 (UInt64.ofNat bits)

def pattern : Native → Nat
  | .i32 v => v.toNat
  | .i64 v => v.toNat
  | .f32 v => v.toNat
  | .f64 v => v.toNat
  | .blank _ => 0

def signed : Native → Int
  | .i32 v => v.toInt32.toInt
  | .i64 v => v.toInt64.toInt
  | _ => 0

def apply (op : Conversion) (v : Native) : Except Trap Native :=
  match op with
  | .wrap => .ok (.i32 (UInt32.ofNat (pattern v)))
  | .extendS => .ok (intOf .w64 (signed v))
  | .extendU => .ok (.i64 (UInt64.ofNat (pattern v)))
  | .truncS s t =>
    let half : Int := pow2 (t.bits - 1)
    (truncate s (-half) (half - 1) (pattern v)).map (intOf t)
  | .truncU s t => (truncate s 0 ((pow2 t.bits : Int) - 1) (pattern v)).map (intOf t)
  | .saturateS s t =>
    let half : Int := pow2 (t.bits - 1)
    .ok (intOf t (saturate s (-half) (half - 1) (pattern v)))
  | .saturateU s t => .ok (intOf t (saturate s 0 ((pow2 t.bits : Int) - 1) (pattern v)))
  | .convertS _ t => .ok (floatOf t (t.format.ofInt (signed v)))
  | .convertU _ t => .ok (floatOf t (t.format.ofInt (pattern v)))
  | .demote => .ok (floatOf .w32 (Binary.convert .double .single (pattern v)))
  | .promote => .ok (floatOf .w64 (Binary.convert .single .double (pattern v)))
  | .toBits w => .ok (intOf w (pattern v))
  | .ofBits w => .ok (floatOf w (pattern v))

def types : Conversion → NativeType × NativeType
  | .wrap => (.i64, .i32)
  | .extendS => (.i32, .i64)
  | .extendU => (.i32, .i64)
  | .truncS s t => (s.float, t.int)
  | .truncU s t => (s.float, t.int)
  | .saturateS s t => (s.float, t.int)
  | .saturateU s t => (s.float, t.int)
  | .convertS s t => (s.int, t.float)
  | .convertU s t => (s.int, t.float)
  | .demote => (.f64, .f32)
  | .promote => (.f32, .f64)
  | .toBits w => (w.float, w.int)
  | .ofBits w => (w.int, w.float)

end Conversion

end Tollgate.Guest
