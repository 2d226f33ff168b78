import Tollgate.Guest.FunctionTable
import Tollgate.Guest.HostFunction
import Tollgate.Guest.Memory
import Tollgate.Guest.Meter

namespace Tollgate.Guest

-- Where a branch out of a block goes. A loop is started over, any other block is left.
structure Label where
  arity : Nat
  base : List Native
  again : Option Code
  next : Code
deriving Repr, DecidableEq, Inhabited

-- A function that has been entered and not left. The top of the stack comes first.
structure Frame where
  code : Code
  stack : List Native
  locals : Array Native
  labels : List Label
  arity : Nat
deriving Repr, DecidableEq, Inhabited

inductive Callable
  | host (f : HostFunction)
  | code (f : Function)
deriving Repr, DecidableEq, Inhabited

def Callable.type : Callable → Signature
  | .host f => f.type
  | .code f => f.type

-- What stays fixed during a call. `interruptAt` is the amount of work after which it is stopped.
structure Program where
  functions : Array Callable
  tables : List FunctionTable
  interruptAt : Option Nat := none
deriving Repr, DecidableEq, Inhabited

structure Machine where
  frame : Frame
  callers : List Frame
  depth : Nat
  globals : Array Native
  memories : List Memory
  meter : Meter
  work : Nat := 0
deriving Repr, DecidableEq, Inhabited

inductive Step
  | next (m : Machine)
  | host (f : HostFunction) (args : List Native) (m : Machine)
  | returned (values : List Native) (m : Machine)
  | trapped (t : Trap) (m : Machine)
deriving Repr, Inhabited

-- Functions that may be entered and not left at one time.
def maxDepth : Nat := 16367

namespace Op

def apply (op : Op) (stack : List Native) : Except Trap (List Native) :=
  match op, stack with
  | .nop, s => .ok s
  | .drop, _ :: s => .ok s
  | .select _, .i32 c :: b :: a :: s => .ok ((if c = 0 then b else a) :: s)
  | .const v, s => .ok (v :: s)
  | .isZero .w32, .i32 a :: s => .ok (.ofBool (a == 0) :: s)
  | .isZero .w64, .i64 a :: s => .ok (.ofBool (a == 0) :: s)
  | .intUnary .w32 op, .i32 a :: s => .ok (.i32 (UInt32.ofNat (op.apply 32 a.toNat)) :: s)
  | .intUnary .w64 op, .i64 a :: s => .ok (.i64 (UInt64.ofNat (op.apply 64 a.toNat)) :: s)
  | .intBinary .w32 op, .i32 b :: .i32 a :: s =>
    match op.apply32 a b with
    | .ok v => .ok (.i32 v :: s)
    | .error t => .error t
  | .intBinary .w64 op, .i64 b :: .i64 a :: s =>
    match op.apply64 a b with
    | .ok v => .ok (.i64 v :: s)
    | .error t => .error t
  | .intCompare .w32 op, .i32 b :: .i32 a :: s => .ok (.ofBool (op.apply32 a b) :: s)
  | .intCompare .w64 op, .i64 b :: .i64 a :: s => .ok (.ofBool (op.apply64 a b) :: s)
  | .floatUnary .w32 op, .f32 a :: s => .ok (.f32 (UInt32.ofNat (op.apply .w32 a.toNat)) :: s)
  | .floatUnary .w64 op, .f64 a :: s => .ok (.f64 (UInt64.ofNat (op.apply .w64 a.toNat)) :: s)
  | .floatBinary .w32 op, .f32 b :: .f32 a :: s =>
    .ok (.f32 (UInt32.ofNat (op.apply .w32 a.toNat b.toNat)) :: s)
  | .floatBinary .w64 op, .f64 b :: .f64 a :: s =>
    .ok (.f64 (UInt64.ofNat (op.apply .w64 a.toNat b.toNat)) :: s)
  | .floatCompare .w32 op, .f32 b :: .f32 a :: s =>
    .ok (.ofBool (op.apply .w32 a.toNat b.toNat) :: s)
  | .floatCompare .w64 op, .f64 b :: .f64 a :: s =>
    .ok (.ofBool (op.apply .w64 a.toNat b.toNat) :: s)
  | .convert k, v :: s =>
    match k.apply v with
    | .ok r => .ok (r :: s)
    | .error t => .error t
  | _, _ => .error .unreachable

def loaded (type : NativeType) (bytes : Nat) (signed : Bool) (n : Nat) : Native :=
  match type with
  | .i32 => .i32 (UInt32.ofNat (if signed then IntUnary.signExtend (8 * bytes) 32 n else n))
  | .i64 => .i64 (UInt64.ofNat (if signed then IntUnary.signExtend (8 * bytes) 64 n else n))
  | .f32 => .f32 (UInt32.ofNat n)
  | .f64 => .f64 (UInt64.ofNat n)
  | t => .blank t

-- Instructions that work on one memory. Bytes that are filled count as work.
def access (op : Op) (stack : List Native) (memory : Memory) :
    Except Trap (List Native × Memory × Nat) :=
  match op, stack with
  | .load _ type bytes signed offset, .i32 a :: s =>
    match memory.load? (a.toNat + offset) bytes with
    | some n => .ok (loaded type bytes signed n :: s, memory, 0)
    | none => .error .memoryOutOfBounds
  | .store _ _ bytes offset, v :: .i32 a :: s =>
    match memory.store? (a.toNat + offset) bytes (Conversion.pattern v) with
    | some next => .ok (s, next, 0)
    | none => .error .memoryOutOfBounds
  | .memorySize _, s => .ok (.i32 (UInt32.ofNat memory.pages) :: s, memory, 0)
  | .memoryGrow _, .i32 more :: s =>
    match memory.grow? more.toNat with
    | some next => .ok (.i32 (UInt32.ofNat memory.pages) :: s, next, 0)
    | none => .ok (.i32 0xFFFFFFFF :: s, memory, 0)
  | .memoryFill _, .i32 n :: .i32 v :: .i32 d :: s =>
    match memory.fill? d.toNat v.toUInt8 n.toNat with
    | some next => .ok (s, next, n.toNat / 64)
    | none => .error .memoryOutOfBounds
  | _, _ => .error .unreachable

end Op

namespace Machine

def withFrame (m : Machine) (f : Frame) : Machine := { m with frame := f }

def checkpoint (p : Program) (m : Machine) : Step :=
  if m.meter.isSpent then .trapped .outOfFee { m with meter := m.meter.exhaust }
  else match p.interruptAt with
    | some bound =>
      if bound ≤ m.work then .trapped .interrupted { m with meter := m.meter.save } else .next m
    | none => .next m

def leave (m : Machine) : Step :=
  let values := m.frame.stack.take m.frame.arity
  let meter := m.meter.save
  match m.callers with
  | [] => .returned values.reverse { m with meter := meter }
  | caller :: rest =>
    .next { m with
      frame := { caller with stack := values ++ caller.stack }
      callers := rest
      depth := m.depth - 1
      meter := meter }

-- Enters a function of guest code; `rest` is the caller's stack without the arguments.
def enter (p : Program) (m : Machine) (f : Function) (args rest : List Native) : Step :=
  if maxDepth ≤ m.depth then .trapped .stackOverflow m
  else
    let locals := args ++ f.locals.map Native.zero
    checkpoint p { m with
      frame := ⟨f.body, [], locals.toArray, [], f.type.results.length⟩
      callers := { m.frame with stack := rest } :: m.callers
      depth := m.depth + 1
      meter := m.meter.charge 1 }

def call (p : Program) (m : Machine) (index : Nat) : Step :=
  let m := { m with meter := m.meter.save }
  match p.functions[index]? with
  | none => .trapped .unreachable m
  | some callable =>
    let count := callable.type.params.length
    let args := (m.frame.stack.take count).reverse
    let rest := m.frame.stack.drop count
    match callable with
    | .code f => enter p m f args rest
    | .host f => .host f args (m.withFrame { m.frame with stack := rest })

def callIndirect (p : Program) (m : Machine) (table : Nat) (type : Signature) : Step :=
  match m.frame.stack with
  | .i32 i :: rest =>
    let m := { m with frame := { m.frame with stack := rest }, meter := m.meter.save }
    match p.tables[table]? >>= fun entries => entries.get? i.toNat with
    | none => .trapped .tableOutOfBounds m
    | some none => .trapped .uninitializedElement m
    | some (some index) =>
      match p.functions[index]? with
      | none => .trapped .unreachable m
      | some callable =>
        if callable.type = type then call p m index else .trapped .signatureMismatch m
  | _ => .trapped .unreachable m

-- A branch beyond the outermost block leaves the function.
def branch (p : Program) (m : Machine) (depth : Nat) : Step :=
  let f := m.frame
  match f.labels.drop depth with
  | [] => leave m
  | label :: outer =>
    let stack := f.stack.take label.arity ++ label.base
    match label.again with
    | some body =>
      checkpoint p (m.withFrame { f with code := body, stack := stack, labels := label :: outer })
    | none => .next (m.withFrame { f with code := label.next, stack := stack, labels := outer })

def proceed (m : Machine) (next : Code) (stack : List Native) : Step :=
  .next (m.withFrame { m.frame with code := next, stack := stack })

-- Enters a block, whose parameters stay on the stack.
def enterBlock (f : Frame) (type : Signature) (again : Option Code) (stack : List Native)
    (body next : Code) : Frame :=
  let arity := if again.isSome then type.params.length else type.results.length
  { f with
    code := body
    stack := stack
    labels := ⟨arity, stack.drop type.params.length, again, next⟩ :: f.labels }

def useMemory (m : Machine) (op : Op) (index : Nat) (next : Code) : Step :=
  match m.memories[index]? with
  | none => .trapped .unreachable m
  | some memory =>
    match op.access m.frame.stack memory with
    | .ok (stack, memory, work) =>
      ({ m with
        memories := m.memories.set index memory
        work := m.work + work }).proceed next stack
    | .error t => .trapped t m

-- Copies bytes, which count as work. The ranges may overlap.
def copyMemory (m : Machine) (target source : Nat) (next : Code) : Step :=
  match m.frame.stack, m.memories[source]?, m.memories[target]? with
  | .i32 n :: .i32 first :: .i32 goal :: rest, some origin, some memory =>
    match origin.read? first.toNat n.toNat with
    | none => .trapped .memoryOutOfBounds m
    | some bytes =>
      match memory.write? goal.toNat bytes with
      | none => .trapped .memoryOutOfBounds m
      | some memory =>
        ({ m with
          memories := m.memories.set target memory
          work := m.work + n.toNat / 64 }).proceed next rest
  | _, _, _ => .trapped .unreachable m

-- One instruction, whose fee is already charged.
def execute (p : Program) (m : Machine) (op : Op) (next : Code) : Step :=
  let f := m.frame
  match op with
  | .unreachable => .trapped .unreachable { m with meter := m.meter.save }
  | .br depth => branch p m depth
  | .brIf depth =>
    match f.stack with
    | .i32 c :: rest =>
      if c = 0 then m.proceed next rest
      else branch p (m.withFrame { f with stack := rest }) depth
    | _ => .trapped .unreachable m
  | .brTable depths fallback =>
    match f.stack with
    | .i32 i :: rest =>
      branch p (m.withFrame { f with stack := rest }) (depths.getD i.toNat fallback)
    | _ => .trapped .unreachable m
  | .ret => leave m
  | .call index => call p (m.withFrame { f with code := next }) index
  | .callIndirect table type => callIndirect p (m.withFrame { f with code := next }) table type
  | .localGet i =>
    match f.locals[i]? with
    | some v => m.proceed next (v :: f.stack)
    | none => .trapped .unreachable m
  | .localSet i =>
    match f.stack with
    | v :: rest =>
      .next (m.withFrame
        { f with code := next, stack := rest, locals := f.locals.setIfInBounds i v })
    | [] => .trapped .unreachable m
  | .localTee i =>
    match f.stack with
    | v :: _ =>
      .next (m.withFrame { f with code := next, locals := f.locals.setIfInBounds i v })
    | [] => .trapped .unreachable m
  | .globalGet i =>
    match m.globals[i]? with
    | some v => m.proceed next (v :: f.stack)
    | none => .trapped .unreachable m
  | .globalSet i =>
    match f.stack with
    | v :: rest => ({ m with globals := m.globals.setIfInBounds i v }).proceed next rest
    | [] => .trapped .unreachable m
  | .memoryCopy target source => copyMemory m target source next
  | _ =>
    match op.memory? with
    | some index => useMemory m op index next
    | none =>
      match op.apply f.stack with
      | .ok stack => m.proceed next stack
      | .error t => .trapped t m

def charge (m : Machine) (fee : Nat) : Machine := { m with meter := m.meter.charge fee }

def step (p : Program) (m : Machine) : Step :=
  let m := { m with work := m.work + 1 }
  let f := m.frame
  match f.code with
  | .done =>
    match f.labels with
    | label :: outer => .next (m.withFrame { f with code := label.next, labels := outer })
    | [] => leave m
  | .block type body next => .next (m.withFrame (enterBlock f type none f.stack body next))
  | .loop type body next =>
    checkpoint p (m.withFrame (enterBlock f type (some body) f.stack body next))
  | .choice type yes no next =>
    match f.stack with
    | .i32 c :: rest =>
      let body := if c = 0 then no else yes
      .next ((m.charge 1).withFrame (enterBlock f type none rest body next))
    | _ => .trapped .unreachable m
  | .op op next => execute p (m.charge op.fee) op next

-- The state before a call: nothing has been entered, and what the call leaves on the stack are
-- its `arity` results.
def idle (globals : Array Native) (memories : List Memory) (meter : Meter) (arity : Nat) :
    Machine where
  frame := ⟨.done, [], #[], [], arity⟩
  callers := []
  depth := 0
  globals := globals
  memories := memories
  meter := meter

def start (p : Program) (m : Machine) (callable : Callable) (args : List Native) : Step :=
  match callable with
  | .host f => .host f args m
  | .code f => enter p m f args []

def resume (m : Machine) (results : List Native) : Machine :=
  m.withFrame { m.frame with stack := results.reverse ++ m.frame.stack }

end Machine

end Tollgate.Guest
