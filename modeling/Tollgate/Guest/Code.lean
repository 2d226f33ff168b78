import Tollgate.Guest.Number

namespace Tollgate.Guest

inductive Op
  | unreachable
  | nop
  | drop
  | select (type : Option NativeType)
  | br (depth : Nat)
  | brIf (depth : Nat)
  | brTable (depths : List Nat) (fallback : Nat)
  | ret
  | call (function : Nat)
  | callIndirect (table : Nat) (type : Signature)
  | localGet (index : Nat)
  | localSet (index : Nat)
  | localTee (index : Nat)
  | globalGet (index : Nat)
  | globalSet (index : Nat)
  | load (memory : Nat) (type : NativeType) (bytes : Nat) (signed : Bool) (offset : Nat)
  | store (memory : Nat) (type : NativeType) (bytes : Nat) (offset : Nat)
  | memorySize (memory : Nat)
  | memoryGrow (memory : Nat)
  | memoryFill (memory : Nat)
  | memoryCopy (target source : Nat)
  | const (value : Native)
  | isZero (width : Width)
  | intUnary (width : Width) (op : IntUnary)
  | intBinary (width : Width) (op : IntBinary)
  | intCompare (width : Width) (op : IntCompare)
  | floatUnary (width : Width) (op : FloatUnary)
  | floatBinary (width : Width) (op : FloatBinary)
  | floatCompare (width : Width) (op : FloatCompare)
  | convert (conversion : Conversion)
deriving Repr, DecidableEq, Inhabited

def Op.fee : Op → Nat
  | .nop => 0
  | .drop => 0
  | .unreachable => 0
  | .ret => 0
  | _ => 1

-- The memory that an instruction works on; a copy between two is another matter.
def Op.memory? : Op → Option Nat
  | .load memory .. => some memory
  | .store memory .. => some memory
  | .memorySize memory => some memory
  | .memoryGrow memory => some memory
  | .memoryFill memory => some memory
  | _ => none

inductive Code
  | done
  | op (op : Op) (next : Code)
  | block (type : Signature) (body next : Code)
  | loop (type : Signature) (body next : Code)
  | choice (type : Signature) (yes no next : Code)
deriving Repr, DecidableEq, Inhabited

-- The number of instructions, blocks and ends.
def Code.size : Code → Nat
  | .done => 1
  | .op _ next => 1 + next.size
  | .block _ body next => 1 + body.size + next.size
  | .loop _ body next => 1 + body.size + next.size
  | .choice _ yes no next => 1 + yes.size + no.size + next.size

end Tollgate.Guest
