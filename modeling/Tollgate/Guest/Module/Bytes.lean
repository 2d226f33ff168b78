import Tollgate.Count
import Tollgate.Guest.Module.Typing
import Tollgate.Text.Utf8

namespace Tollgate.Guest

-- Takes what it needs off the front of the input.
abbrev Reader := StateT (List UInt8) Option

namespace Reader

def byte : Reader Nat := fun input =>
  match input with
  | b :: rest => some (b.toNat, rest)
  | [] => none

def refuse {α : Type} : Reader α := fun _ => none

def require (condition : Bool) : Reader Unit := if condition then pure () else refuse

def ended : Reader Bool := fun input => some (input.isEmpty, input)

def bytes (count : Nat) : Reader (List UInt8) := fun input =>
  let taken := input.take count
  if taken.length = count then some (taken, input.drop count) else none

def unsignedOf (bits : Nat) : Reader Nat := do
  let b ← byte
  if b < 128 then
    if 7 ≤ bits ∨ b < pow2 bits then return b else refuse
  else if h : 7 < bits then
    let high ← unsignedOf (bits - 7)
    return (b - 128) + 128 * high
  else refuse
termination_by bits

def signedOf (bits : Nat) : Reader Int := do
  let b ← byte
  if b < 128 then
    let v : Int := if b < 64 then b else (b : Int) - 128
    let bound : Int := pow2 (bits - 1)
    if 7 ≤ bits ∨ (-bound ≤ v ∧ v < bound) then return v else refuse
  else if h : 7 < bits then
    let high ← signedOf (bits - 7)
    return ((b - 128 : Nat) : Int) + 128 * high
  else refuse
termination_by bits

def index : Reader Nat := unsignedOf 32

def times {α : Type} (item : Reader α) : Nat → Reader (List α)
  | 0 => return []
  | n + 1 => do
    let first ← item
    let rest ← times item n
    return first :: rest

def list {α : Type} (item : Reader α) : Reader (List α) := do times item (← index)

def listUpTo {α : Type} (most : Nat) (item : Reader α) : Reader (List α) := do
  let count ← index
  require (decide (count ≤ most))
  times item count

def maxNameBytes : Nat := 100000

def name : Reader String := do
  let size ← index
  require (decide (size ≤ maxNameBytes))
  let raw ← bytes size
  match Text.ofUtf8 raw with
  | .ok text => return text
  | .error _ => refuse

-- Reads a part of known length, which must be used up.
def within {α : Type} (size : Nat) (item : Reader α) : Reader α := do
  let part ← bytes size
  match item part with
  | some (a, []) => return a
  | _ => refuse

def typeOfByte? : Nat → Option NativeType
  | 0x7F => some .i32
  | 0x7E => some .i64
  | 0x7D => some .f32
  | 0x7C => some .f64
  | 0x7B => some .v128
  | 0x70 => some .funcref
  | _ => none

def valueType : Reader NativeType := do
  match typeOfByte? (← byte) with
  | some type => return type
  | none => refuse

def signature : Reader Signature := do
  require ((← byte) == 0x60)
  let params ← listUpTo Module.maxArity valueType
  let results ← listUpTo Module.maxArity valueType
  return ⟨params, results⟩

def limits : Reader Limits := do
  match ← byte with
  | 0 => return ⟨← index, none⟩
  | 1 =>
    let least ← index
    return ⟨least, some (← index)⟩
  | _ => refuse

def tableType : Reader TableType := do
  let element ← valueType
  require element.isReference
  return ⟨element, ← limits⟩

def globalType : Reader GlobalType := do
  let type ← valueType
  match ← byte with
  | 0 => return ⟨type, false⟩
  | 1 => return ⟨type, true⟩
  | _ => refuse

def importEntry (types : List Signature) : Reader Import := do
  let space ← name
  let field ← name
  match ← byte with
  | 0 =>
    match types[← index]? with
    | some type => return ⟨space, field, .function type⟩
    | none => refuse
  | 1 =>
    let t ← tableType
    return ⟨space, field, .table t.element t.limits⟩
  | 2 => return ⟨space, field, .memory (← limits)⟩
  | 3 => return ⟨space, field, .global (← globalType)⟩
  | _ => refuse

def littleEndian (count : Nat) : Reader Nat := do
  let raw ← bytes count
  return raw.foldr (fun b acc => b.toNat + 256 * acc) 0

-- A computation on a stack up to the end mark, which must leave one value.
def initialTail (stack : List Initial) : Nat → Reader Initial
  | 0 => refuse
  | fuel + 1 => do
    let combine (w : Width) (op : IntBinary) : Reader Initial := match stack with
      | b :: a :: rest => initialTail (.combined w op a b :: rest) fuel
      | _ => refuse
    let push (i : Initial) : Reader Initial := initialTail (i :: stack) fuel
    match ← byte with
    | 0x0B =>
      match stack with
      | [value] => return value
      | _ => refuse
    | 0x41 => push (.value (.i32 (UInt32.ofInt (← signedOf 32))))
    | 0x42 => push (.value (.i64 (UInt64.ofInt (← signedOf 64))))
    | 0x43 => push (.value (.f32 (UInt32.ofNat (← littleEndian 4))))
    | 0x44 => push (.value (.f64 (UInt64.ofNat (← littleEndian 8))))
    | 0x23 => push (.imported (← index))
    | 0x6A => combine .w32 .add
    | 0x6B => combine .w32 .sub
    | 0x6C => combine .w32 .mul
    | 0x7C => combine .w64 .add
    | 0x7D => combine .w64 .sub
    | 0x7E => combine .w64 .mul
    | 0xD0 =>
      require ((← byte) == 0x70)
      push (.value (.blank .funcref))
    | 0xD2 => push (.function (← index))
    | 0xFD =>
      require ((← index) == 0x0C)
      let _ ← bytes 16
      push (.value (.blank .v128))
    | _ => refuse

def initial : Reader Initial := do initialTail [] (← get).length

def blockType (types : List Signature) : Reader Signature := fun input =>
  match input with
  | [] => none
  | b :: rest =>
    if b = 0x40 then some (⟨[], []⟩, rest)
    else match typeOfByte? b.toNat with
      | some type => some (⟨[], [type]⟩, rest)
      | none => do
        let (code, rest) ← signedOf 33 input
        if code < 0 then none
        else (types[code.toNat]?).map fun type => (type, rest)

def access (natural : Nat) : Reader (Nat × Nat) := do
  let flags ← index
  require (decide (flags < 128))
  require (decide (flags % 64 ≤ natural))
  let memory ← if 64 ≤ flags then index else pure 0
  return (memory, ← index)

def loads : List (NativeType × Nat × Bool) :=
  [(.i32, 2, false), (.i64, 3, false), (.f32, 2, false), (.f64, 3, false), (.i32, 0, true),
    (.i32, 0, false), (.i32, 1, true), (.i32, 1, false), (.i64, 0, true), (.i64, 0, false),
    (.i64, 1, true), (.i64, 1, false), (.i64, 2, true), (.i64, 2, false)]

def stores : List (NativeType × Nat) :=
  [(.i32, 2), (.i64, 3), (.f32, 2), (.f64, 3), (.i32, 0), (.i32, 1), (.i64, 0), (.i64, 1),
    (.i64, 2)]

def intCompares : List IntCompare :=
  [.eq, .ne, .ltS, .ltU, .gtS, .gtU, .leS, .leU, .geS, .geU]

def floatCompares : List FloatCompare := [.eq, .ne, .lt, .gt, .le, .ge]

def intUnaries : List IntUnary := [.clz, .ctz, .popcnt]

def intBinaries : List IntBinary :=
  [.add, .sub, .mul, .divS, .divU, .remS, .remU, .and, .or, .xor, .shl, .shrS, .shrU, .rotl,
    .rotr]

def floatUnaries : List FloatUnary := [.abs, .neg, .ceil, .floor, .trunc, .nearest, .sqrt]

def floatBinaries : List FloatBinary := [.add, .sub, .mul, .div, .min, .max, .copysign]

def conversions : List Conversion :=
  [.wrap, .truncS .w32 .w32, .truncU .w32 .w32, .truncS .w64 .w32, .truncU .w64 .w32, .extendS,
    .extendU, .truncS .w32 .w64, .truncU .w32 .w64, .truncS .w64 .w64, .truncU .w64 .w64,
    .convertS .w32 .w32, .convertU .w32 .w32, .convertS .w64 .w32, .convertU .w64 .w32, .demote,
    .convertS .w32 .w64, .convertU .w32 .w64, .convertS .w64 .w64, .convertU .w64 .w64, .promote,
    .toBits .w32, .toBits .w64, .ofBits .w32, .ofBits .w64]

-- The instructions from 0x45 to 0xC4, which stand for themselves.
def plainOps : List Op :=
  [.isZero .w32] ++ intCompares.map (.intCompare .w32) ++
    [.isZero .w64] ++ intCompares.map (.intCompare .w64) ++
    floatCompares.map (.floatCompare .w32) ++ floatCompares.map (.floatCompare .w64) ++
    intUnaries.map (.intUnary .w32) ++ intBinaries.map (.intBinary .w32) ++
    intUnaries.map (.intUnary .w64) ++ intBinaries.map (.intBinary .w64) ++
    floatUnaries.map (.floatUnary .w32) ++ floatBinaries.map (.floatBinary .w32) ++
    floatUnaries.map (.floatUnary .w64) ++ floatBinaries.map (.floatBinary .w64) ++
    conversions.map .convert ++
    [.intUnary .w32 .extend8, .intUnary .w32 .extend16, .intUnary .w64 .extend8,
      .intUnary .w64 .extend16, .intUnary .w64 .extend32]

def saturations : List Conversion :=
  [.saturateS .w32 .w32, .saturateU .w32 .w32, .saturateS .w64 .w32, .saturateU .w64 .w32,
    .saturateS .w32 .w64, .saturateU .w32 .w64, .saturateS .w64 .w64, .saturateU .w64 .w64]

-- An instruction that is no block, after its first byte. Left out are atomic and vector
-- instructions, tail calls, segments that code puts in place or drops, and what code can do to
-- tables and references beyond an indirect call.
def op (types : List Signature) (code : Nat) : Reader Op := do
  match code with
  | 0x00 => return .unreachable
  | 0x01 => return .nop
  | 0x0C => return .br (← index)
  | 0x0D => return .brIf (← index)
  | 0x0E =>
    let depths ← list index
    return .brTable depths (← index)
  | 0x0F => return .ret
  | 0x10 => return .call (← index)
  | 0x11 =>
    let type ← index
    let table ← index
    match types[type]? with
    | some type => return .callIndirect table type
    | none => refuse
  | 0x1A => return .drop
  | 0x1B => return .select none
  | 0x1C =>
    match ← list valueType with
    | [type] => return .select (some type)
    | _ => refuse
  | 0x20 => return .localGet (← index)
  | 0x21 => return .localSet (← index)
  | 0x22 => return .localTee (← index)
  | 0x23 => return .globalGet (← index)
  | 0x24 => return .globalSet (← index)
  | 0x3F => return .memorySize (← index)
  | 0x40 => return .memoryGrow (← index)
  | 0x41 => return .const (.i32 (UInt32.ofInt (← signedOf 32)))
  | 0x42 => return .const (.i64 (UInt64.ofInt (← signedOf 64)))
  | 0x43 => return .const (.f32 (UInt32.ofNat (← littleEndian 4)))
  | 0x44 => return .const (.f64 (UInt64.ofNat (← littleEndian 8)))
  | 0xFC =>
    match ← index with
    | 10 =>
      let target ← index
      return .memoryCopy target (← index)
    | 11 => return .memoryFill (← index)
    | number =>
      match saturations[number]? with
      | some conversion => return .convert conversion
      | none => refuse
  | _ =>
    if 0x28 ≤ code ∧ code ≤ 0x35 then
      match loads[code - 0x28]? with
      | some (type, natural, signed) =>
        let (memory, offset) ← access natural
        return .load memory type (pow2 natural) signed offset
      | none => refuse
    else if 0x36 ≤ code ∧ code ≤ 0x3E then
      match stores[code - 0x36]? with
      | some (type, natural) =>
        let (memory, offset) ← access natural
        return .store memory type (pow2 natural) offset
      | none => refuse
    else if 0x45 ≤ code then
      match plainOps[code - 0x45]? with
      | some plain => return plain
      | none => refuse
    else refuse

-- Instructions up to an end mark, or up to an else mark if the flag is set. Every instruction
-- takes a byte, so the length of the input is fuel enough.
def code (types : List Signature) : Nat → Reader (Code × Bool)
  | 0 => refuse
  | fuel + 1 => do
    match ← byte with
    | 0x0B => return (.done, false)
    | 0x05 => return (.done, true)
    | 0x02 =>
      let type ← blockType types
      let (body, split) ← code types fuel
      require !split
      let (next, ending) ← code types fuel
      return (.block type body next, ending)
    | 0x03 =>
      let type ← blockType types
      let (body, split) ← code types fuel
      require !split
      let (next, ending) ← code types fuel
      return (.loop type body next, ending)
    | 0x04 =>
      let type ← blockType types
      let (yes, split) ← code types fuel
      let no ← if split then do
          let (no, again) ← code types fuel
          require !again
          pure no
        else pure Code.done
      let (next, ending) ← code types fuel
      return (.choice type yes no next, ending)
    | first =>
      let head ← op types first
      let (next, ending) ← code types fuel
      return (.op head next, ending)

-- Locals come in runs of one type.
def localRun : Reader (Nat × NativeType) := do
  let count ← index
  return (count, ← valueType)

def body (types : List Signature) : Reader (List NativeType × Code) := do
  let size ← index
  within size do
    let runs ← list localRun
    require (decide (sumOf (runs.map Prod.fst) ≤ Module.maxLocals))
    let (body, split) ← code types (size + 1)
    require !split
    return (runs.flatMap fun run => List.replicate run.1 run.2, body)

def exportEntry : Reader (String × Export) := do
  let field ← name
  match ← byte with
  | 0 => return (field, .function (← index))
  | 1 => return (field, .table (← index))
  | 2 => return (field, .memory (← index))
  | 3 => return (field, .global (← index))
  | _ => refuse

def global : Reader Global := do
  let type ← globalType
  return ⟨type, ← initial⟩

def functionKind : Reader Unit := do require ((← byte) == 0)

def functionItems : Reader (List Initial) := do
  functionKind
  return (← list index).map .function

def computedItems : Reader (List Initial) := do
  require ((← byte) == 0x70)
  list initial

-- Functions by number, or as computed references.
def element : Reader ElementSegment := do
  match ← index with
  | 0 =>
    let offset ← initial
    return ⟨some (0, offset), (← list index).map .function⟩
  | 1 => return ⟨none, ← functionItems⟩
  | 2 =>
    let table ← index
    let offset ← initial
    return ⟨some (table, offset), ← functionItems⟩
  | 3 => return ⟨none, ← functionItems⟩
  | 4 =>
    let offset ← initial
    return ⟨some (0, offset), ← list initial⟩
  | 5 => return ⟨none, ← computedItems⟩
  | 6 =>
    let table ← index
    let offset ← initial
    return ⟨some (table, offset), ← computedItems⟩
  | 7 => return ⟨none, ← computedItems⟩
  | _ => refuse

def datum : Reader DataSegment := do
  match ← index with
  | 0 =>
    let offset ← initial
    return ⟨some (0, offset), ← bytes (← index)⟩
  | 1 => return ⟨none, ← bytes (← index)⟩
  | 2 =>
    let memory ← index
    let offset ← initial
    return ⟨some (memory, offset), ← bytes (← index)⟩
  | _ => refuse

end Reader

namespace Module

-- A module while its sections are read. Bodies meet their types at the end.
structure Draft where
  types : List Signature := []
  functionTypes : List Signature := []
  bodies : List (List NativeType × Code) := []
  dataCount : Option Nat := none
  module : Module := {}

def maxSegments : Nat := 100000

open Reader in
def readSection (d : Draft) (id : Nat) : Reader Draft := do
  match id with
  | 1 => return { d with types := ← list signature }
  | 2 => return { d with module := { d.module with imports := ← list (importEntry d.types) } }
  | 3 =>
    let indices ← list index
    match indices.mapM fun i => d.types[i]? with
    | some types => return { d with functionTypes := types }
    | none => refuse
  | 4 => return { d with module := { d.module with tables := ← list tableType } }
  | 5 => return { d with module := { d.module with memories := ← list limits } }
  | 6 => return { d with module := { d.module with globals := ← list global } }
  | 7 => return { d with module := { d.module with exports := ← list exportEntry } }
  | 8 => return { d with module := { d.module with start := some (← index) } }
  | 9 =>
    return { d with module := { d.module with elements := ← listUpTo maxSegments element } }
  | 10 => return { d with bodies := ← list (body d.types) }
  | 11 => return { d with module := { d.module with data := ← listUpTo maxSegments datum } }
  | 12 => return { d with dataCount := some (← index) }
  | _ => refuse

def sectionOrder : List Nat := [1, 2, 3, 4, 5, 6, 7, 8, 9, 12, 10, 11]

-- Sections of a free name are passed over, except those of a proposal that was given up.
def refusedNames : List String := ["webidl-bindings", "wasm-interface-types"]

open Reader in
-- The sections that remain, all behind place `place` of the order. Every section takes bytes, so
-- the length of the input is fuel enough.
def readSections (d : Draft) (place : Nat) : Nat → Reader Draft
  | 0 => do
    require (← ended)
    return d
  | fuel + 1 => do
    if ← ended then return d
    else
      let id ← byte
      let size ← index
      if id = 0 then
        within size do
          require !(refusedNames.contains (← name))
          let _ ← bytes (← get).length
        readSections d place fuel
      else
        let position := sectionOrder.idxOf id + 1
        require (decide (place < position ∧ position ≤ sectionOrder.length))
        let next ← within size (readSection d id)
        readSections next position fuel

-- Bodies and declared types must match, and so must the announced number of data segments.
def Draft.finish? (d : Draft) : Option Module :=
  if d.functionTypes.length ≠ d.bodies.length then none
  else if d.dataCount.any (· ≠ d.module.data.length) then none
  else
    let functions := List.zipWith
      (fun (type : Signature) (b : List NativeType × Code) => Function.mk type b.1 b.2)
      d.functionTypes d.bodies
    some { d.module with functions := functions }

def magic : List UInt8 := [0x00, 0x61, 0x73, 0x6D]

def version : List UInt8 := [0x01, 0x00, 0x00, 0x00]

def ofBytes? (input : List UInt8) : Option Module := do
  if input.take 8 = magic ++ version then
    let rest := input.drop 8
    let (draft, _) ← readSections {} 0 rest.length rest
    let m ← draft.finish?
    if m.isValid then some m else none
  else none

end Module

end Tollgate.Guest
