import Tollgate.Decimal

namespace Tollgate

inductive Document
  | null
  | bool (value : Bool)
  | int (value : Int)
  | single (bits : UInt32)
  | double (bits : UInt64)
  | text (value : String)
  | list (items : List Document)
  | fields (entries : List (String × Document))
  | moment (value : String)
  | rows (items : List Document)
  | table (inline : Bool) (entries : List (String × Document))
deriving Repr, Inhabited

namespace Document

def nat (n : Nat) : Document := .int n

def texts (items : List String) : Document := .list (items.map .text)

def orNull (f : α → Document) : Option α → Document
  | none => .null
  | some a => f a

def entries? : Document → Option (List (String × Document))
  | .fields entries => some entries
  | .table _ entries => some entries
  | _ => none

def items? : Document → Option (List Document)
  | .list items => some items
  | .rows items => some items
  | _ => none

def isEmpty (d : Document) : Bool :=
  d.entries?.any List.isEmpty || d.items?.any List.isEmpty

-- The value of a key, the last one if the key is repeated.
def field? (key : String) (d : Document) : Option Document :=
  d.entries? >>= fun entries => entries.reverse.lookup key

def without (keys : List String) : Document → Document
  | .fields entries => .fields (entries.filter fun entry => !keys.contains entry.1)
  | other => other

-- A record is an object, or a list of the first fields in order. Rows may go on behind the last
-- field. A moment is a record of which no field has a name that is asked for.
def record? (names : List String) (d : Document) : Option (List (Option Document)) :=
  let inOrder (items : List Document) := (List.range names.length).map fun i => items[i]?
  match d with
  | .fields _ => some (names.map d.field?)
  | .table _ _ => some (names.map d.field?)
  | .moment _ => some (names.map fun _ => none)
  | .list items => if items.length ≤ names.length then some (inOrder items) else none
  | .rows items => some (inOrder items)
  | _ => none

def asBool? : Document → Option Bool
  | .bool b => some b
  | _ => none

def asText? : Document → Option String
  | .text s => some s
  | _ => none

def asInt? (low high : Int) : Document → Option Int
  | .int n => if low ≤ n ∧ n ≤ high then some n else none
  | _ => none

def asNat? (high : Nat) (d : Document) : Option Nat := (d.asInt? 0 high).map Int.toNat

def asUInt32? (d : Document) : Option UInt32 := (d.asNat? 4294967295).map UInt32.ofNat

def asUInt64? (d : Document) : Option UInt64 := (d.asNat? 18446744073709551615).map UInt64.ofNat

def asInt32? (d : Document) : Option Int32 :=
  (d.asInt? (-2147483648) 2147483647).map Int32.ofInt

def asInt64? (d : Document) : Option Int64 :=
  (d.asInt? (-9223372036854775808) 9223372036854775807).map Int64.ofInt

def asDouble? : Document → Option UInt64
  | .int n => some (UInt64.ofNat (Binary.double.ofInt n))
  | .double bits => some bits
  | .single bits => some (UInt64.ofNat (Binary.convert .single .double bits.toNat))
  | _ => none

-- A number as a single pattern, rounded once from the number that is written.
def asSingle? : Document → Option UInt32
  | .int n => some (UInt32.ofNat (Binary.single.ofInt n))
  | .double bits => some (UInt32.ofNat (Binary.convert .double .single bits.toNat))
  | .single bits => some bits
  | _ => none

def asList? (f : Document → Option α) (d : Document) : Option (List α) :=
  d.items? >>= fun items => items.mapM f

def asTexts? (d : Document) : Option (List String) := d.asList? asText?

def asBytes? (d : Document) : Option (List UInt8) :=
  d.asList? fun item => (item.asNat? 255).map UInt8.ofNat

-- The name of a choice: a text, or an object whose only key is the name and holds nothing. In a
-- table that is not inline the first key counts.
def asName? : Document → Option String
  | .text s => some s
  | .fields [(name, .null)] => some name
  | .table inline ((name, content) :: rest) =>
    if content.isEmpty && (!inline || rest.isEmpty) then some name else none
  | _ => none

-- A field with a default; null is not a missing field.
def fieldOr (fallback : α) (f : Document → Option α) : Option Document → Option α
  | none => some fallback
  | some d => f d

end Document

end Tollgate
