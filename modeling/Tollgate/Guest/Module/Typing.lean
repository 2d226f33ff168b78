import Tollgate.Guest.Module

namespace Tollgate.Guest

-- Operand types, the top first; `none` fits every type. Below `known` an open stack has
-- whatever is asked for.
structure Operands where
  known : List (Option NativeType)
  isOpen : Bool
deriving Repr, DecidableEq, Inhabited

namespace Operands

def fits (found want : Option NativeType) : Bool :=
  match found, want with
  | some a, some b => a == b
  | _, _ => true

def pop? (s : Operands) : Option (Option NativeType × Operands) :=
  match s.known with
  | t :: rest => some (t, { s with known := rest })
  | [] => if s.isOpen then some (none, s) else none

def expect? (s : Operands) (t : NativeType) : Option Operands :=
  match s.pop? with
  | some (found, rest) => if fits found (some t) then some rest else none
  | none => none

-- Takes types off the stack, the last of the list first.
def expectAll? (s : Operands) (types : List NativeType) : Option Operands :=
  types.reverse.foldlM expect? s

def push (s : Operands) (t : NativeType) : Operands := { s with known := some t :: s.known }

def pushAll (s : Operands) (types : List NativeType) : Operands := types.foldl push s

def ofTypes (types : List NativeType) : Operands := pushAll ⟨[], false⟩ types

def anything : Operands := ⟨[], true⟩

def isExactly (s : Operands) (types : List NativeType) : Bool :=
  match s.expectAll? types with
  | some rest => rest.known.isEmpty
  | none => false

end Operands

structure Scope where
  signatures : List Signature
  globals : List GlobalType
  memories : Nat
  tables : Nat
  locals : List NativeType
  results : List NativeType
  labels : List (List NativeType)
deriving Repr, DecidableEq, Inhabited

namespace Scope

def through (s : Operands) (type : Signature) : Option Operands :=
  (s.expectAll? type.params).map (·.pushAll type.results)

def simple (s : Operands) (params : List NativeType) (result : NativeType) : Option Operands :=
  through s ⟨params, [result]⟩

def select? (s : Operands) : Option Operands := do
  let s ← s.expect? .i32
  let (a, s) ← s.pop?
  let (b, s) ← s.pop?
  if Operands.fits a b then
    let t := a <|> b
    match t with
    | some type => if type.isReference then none else return { s with known := some type :: s.known }
    | none => return { s with known := none :: s.known }
  else none

def branch? (c : Scope) (s : Operands) (depth : Nat) : Option Operands := do
  let types ← c.labels[depth]?
  s.expectAll? types

-- Each target of a branch table takes what is on the stack, and all take equally many values.
def branchTable? (c : Scope) (s : Operands) (depths : List Nat) (fallback : Nat) :
    Option Operands := do
  let s ← s.expect? .i32
  let arity ← (c.labels[fallback]?).map List.length
  let _ ← depths.mapM fun depth => do
    let types ← c.labels[depth]?
    if types.length = arity then s.expectAll? types else none
  let _ ← c.branch? s fallback
  return .anything

def op? (c : Scope) (s : Operands) : Op → Option Operands
  | .unreachable => some .anything
  | .nop => some s
  | .drop => s.pop?.map Prod.snd
  | .select none => select? s
  | .select (some t) => simple s [t, t, .i32] t
  | .br depth => (c.branch? s depth).map fun _ => .anything
  | .brIf depth => do
    let s ← s.expect? .i32
    let rest ← c.branch? s depth
    let types ← c.labels[depth]?
    return rest.pushAll types
  | .brTable depths fallback => c.branchTable? s depths fallback
  | .ret => (s.expectAll? c.results).map fun _ => .anything
  | .call function => do through s (← c.signatures[function]?)
  | .callIndirect table type =>
    if table < c.tables then do
      let s ← s.expect? .i32
      through s type
    else none
  | .localGet index => do return s.push (← c.locals[index]?)
  | .localSet index => do s.expect? (← c.locals[index]?)
  | .localTee index => do
    let t ← c.locals[index]?
    simple s [t] t
  | .globalGet index => do return s.push (← c.globals[index]?).type
  | .globalSet index => do
    let g ← c.globals[index]?
    if g.isMutable then s.expect? g.type else none
  | .load memory t _ _ _ => if memory < c.memories then simple s [.i32] t else none
  | .store memory t _ _ => if memory < c.memories then through s ⟨[.i32, t], []⟩ else none
  | .memorySize memory => if memory < c.memories then simple s [] .i32 else none
  | .memoryGrow memory => if memory < c.memories then simple s [.i32] .i32 else none
  | .memoryFill memory =>
    if memory < c.memories then through s ⟨[.i32, .i32, .i32], []⟩ else none
  | .memoryCopy target source =>
    if target < c.memories ∧ source < c.memories then through s ⟨[.i32, .i32, .i32], []⟩ else none
  | .const v => some (s.push v.type)
  | .isZero w => simple s [w.int] .i32
  | .intUnary w _ => simple s [w.int] w.int
  | .intBinary w _ => simple s [w.int, w.int] w.int
  | .intCompare w _ => simple s [w.int, w.int] .i32
  | .floatUnary w _ => simple s [w.float] w.float
  | .floatBinary w _ => simple s [w.float, w.float] w.float
  | .floatCompare w _ => simple s [w.float, w.float] .i32
  | .convert k => simple s [k.types.1] k.types.2

def code? (c : Scope) (s : Operands) : Code → Option Operands
  | .done => some s
  | .op op next => do code? c (← c.op? s op) next
  | .block type body next => do
    let rest ← s.expectAll? type.params
    let inner ← code? { c with labels := type.results :: c.labels } (.ofTypes type.params) body
    if inner.isExactly type.results then code? c (rest.pushAll type.results) next else none
  | .loop type body next => do
    let rest ← s.expectAll? type.params
    let inner ← code? { c with labels := type.params :: c.labels } (.ofTypes type.params) body
    if inner.isExactly type.results then code? c (rest.pushAll type.results) next else none
  | .choice type yes no next => do
    let s ← s.expect? .i32
    let rest ← s.expectAll? type.params
    let scope := { c with labels := type.results :: c.labels }
    let first ← code? scope (.ofTypes type.params) yes
    let second ← code? scope (.ofTypes type.params) no
    if first.isExactly type.results && second.isExactly type.results then
      code? c (rest.pushAll type.results) next
    else none

end Scope

namespace Module

def scope (m : Module) : Scope where
  signatures := m.signatures
  globals := m.globalTypes
  memories := m.allMemories.length
  tables := m.allTables.length
  locals := []
  results := []
  labels := []

def maxLocals : Nat := 50000

def functionOk (s : Scope) (f : Function) : Bool :=
  let own := { s with
    locals := f.type.params ++ f.locals
    results := f.type.results
    labels := [f.type.results] }
  decide (own.locals.length ≤ maxLocals) &&
    match own.code? (.ofTypes []) f.body with
    | some rest => rest.isExactly f.type.results
    | none => false

-- Only imported globals that never change may be used in an initial value.
def initialType? (m : Module) : Initial → Option NativeType
  | .value v => some v.type
  | .imported g => do
    let t ← m.importedGlobals[g]?
    if t.isMutable then none else some t.type
  | .function f => if f < m.signatures.length then some .funcref else none
  | .combined w _ a b =>
    if initialType? m a == some w.int && initialType? m b == some w.int then some w.int else none

def initialOk (m : Module) (type : NativeType) (i : Initial) : Bool :=
  m.initialType? i == some type

def limitsOk (bound : Nat) (l : Limits) : Bool :=
  match l.most with
  | none => decide (l.least ≤ bound)
  | some most => decide (l.least ≤ most) && decide (l.least ≤ bound) && decide (most ≤ bound)

def memoryPageBound : Nat := 65536

def tableBound : Nat := 4294967295

def exportOk (m : Module) : Export → Bool
  | .function i => decide (i < m.signatures.length)
  | .table i => decide (i < m.allTables.length)
  | .memory i => decide (i < m.allMemories.length)
  | .global i => decide (i < m.globalTypes.length)

def startOk (m : Module) : Bool :=
  match m.start with
  | none => true
  | some f => m.signatures[f]? == some ⟨[], []⟩

def elementOk (m : Module) (e : ElementSegment) : Bool :=
  e.items.all (m.initialOk .funcref) &&
    match e.place with
    | none => true
    | some (table, offset) => decide (table < m.allTables.length) && m.initialOk .i32 offset

def dataOk (m : Module) (d : DataSegment) : Bool :=
  match d.place with
  | none => true
  | some (memory, offset) => decide (memory < m.allMemories.length) && m.initialOk .i32 offset

def maxArity : Nat := 1000

def signatureOk (type : Signature) : Bool :=
  decide (type.params.length ≤ maxArity) && decide (type.results.length ≤ maxArity)

def maxStores : Nat := 100

def isValid (m : Module) : Bool :=
  m.signatures.all signatureOk &&
    m.allMemories.all (limitsOk memoryPageBound) &&
    m.allTables.all (fun t => limitsOk tableBound t.limits) &&
    decide (m.allMemories.length ≤ maxStores) && decide (m.allTables.length ≤ maxStores) &&
    m.globals.all (fun g => m.initialOk g.type.type g.initial) &&
    m.exports.all (fun e => m.exportOk e.2) &&
    decide (m.exports.map Prod.fst).Nodup &&
    m.startOk && m.elements.all m.elementOk && m.data.all m.dataOk &&
    m.functions.all (functionOk m.scope)

end Module

end Tollgate.Guest
