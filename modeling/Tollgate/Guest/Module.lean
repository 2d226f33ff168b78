import Tollgate.Count
import Tollgate.Guest.Code

namespace Tollgate.Guest

structure GlobalType where
  type : NativeType
  isMutable : Bool
deriving Repr, DecidableEq, Inhabited

inductive ImportType
  | function (type : Signature)
  | table (element : NativeType) (limits : Limits)
  | memory (limits : Limits)
  | global (type : GlobalType)
deriving Repr, DecidableEq, Inhabited

structure Import where
  space : String
  name : String
  type : ImportType
deriving Repr, DecidableEq, Inhabited

-- The value that a global, an offset or an element starts from. Integers may be added, subtracted
-- and multiplied.
inductive Initial
  | value (v : Native)
  | imported (global : Nat)
  | function (index : Nat)
  | combined (width : Width) (op : IntBinary) (first second : Initial)
deriving Repr, DecidableEq, Inhabited

structure Function where
  type : Signature
  locals : List NativeType
  body : Code
deriving Repr, DecidableEq, Inhabited

structure Global where
  type : GlobalType
  initial : Initial
deriving Repr, DecidableEq, Inhabited

structure TableType where
  element : NativeType
  limits : Limits
deriving Repr, DecidableEq, Inhabited

inductive Export
  | function (index : Nat)
  | table (index : Nat)
  | memory (index : Nat)
  | global (index : Nat)
deriving Repr, DecidableEq, Inhabited

-- A segment's place is a table or memory and an offset in it. Without a place the segment is only
-- kept.
structure ElementSegment where
  place : Option (Nat × Initial)
  items : List Initial
deriving Repr, DecidableEq, Inhabited

structure DataSegment where
  place : Option (Nat × Initial)
  bytes : List UInt8
deriving Repr, DecidableEq, Inhabited

-- Functions, tables, memories and globals are numbered with the imported ones first.
structure Module where
  imports : List Import := []
  functions : List Function := []
  tables : List TableType := []
  memories : List Limits := []
  globals : List Global := []
  exports : List (String × Export) := []
  start : Option Nat := none
  elements : List ElementSegment := []
  data : List DataSegment := []
deriving Repr, DecidableEq, Inhabited

namespace Import

def signature? (i : Import) : Option Signature :=
  match i.type with
  | .function type => some type
  | _ => none

def memory? (i : Import) : Option Limits :=
  match i.type with
  | .memory limits => some limits
  | _ => none

def table? (i : Import) : Option TableType :=
  match i.type with
  | .table element limits => some ⟨element, limits⟩
  | _ => none

def global? (i : Import) : Option GlobalType :=
  match i.type with
  | .global type => some type
  | _ => none

def text (i : Import) : String := i.space ++ "::" ++ i.name

end Import

namespace Module

def importedFunctions (m : Module) : List Signature := m.imports.filterMap Import.signature?

def importedGlobals (m : Module) : List GlobalType := m.imports.filterMap Import.global?

def signatures (m : Module) : List Signature :=
  m.importedFunctions ++ m.functions.map Function.type

def globalTypes (m : Module) : List GlobalType :=
  m.importedGlobals ++ m.globals.map Global.type

def importedMemories (m : Module) : List Limits := m.imports.filterMap Import.memory?

def importedTables (m : Module) : List TableType := m.imports.filterMap Import.table?

def allMemories (m : Module) : List Limits := m.importedMemories ++ m.memories

def allTables (m : Module) : List TableType := m.importedTables ++ m.tables

def importSpaces (m : Module) : List String := (m.imports.map Import.space).eraseDups

def exportedFunctions (m : Module) : List String :=
  m.exports.filterMap fun e => match e.2 with
    | .function _ => some e.1
    | _ => none

def exportedMemories (m : Module) : List Limits :=
  m.exports.filterMap fun e => match e.2 with
    | .memory index => m.allMemories[index]?
    | _ => none

-- The memory that a module declares to the outside: the last one it imports, or else the first one
-- it exports.
def declaredMemory? (m : Module) : Option Limits :=
  m.importedMemories.getLast? <|> m.exportedMemories.head?

def exportedFunction? (m : Module) (name : String) : Option Nat :=
  match m.exports.lookup name with
  | some (.function index) => some index
  | _ => none

def exportedMemory? (m : Module) (name : String) : Option Nat :=
  match m.exports.lookup name with
  | some (.memory index) => some index
  | _ => none

end Module

end Tollgate.Guest
