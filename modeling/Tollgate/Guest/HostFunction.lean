import Tollgate.Guest.Module

namespace Tollgate.Guest

inductive HostFunction
  | log
  | emitEvent
  | blockHeight
deriving Repr, DecidableEq, Inhabited

namespace HostFunction

def all : List HostFunction := [.log, .emitEvent, .blockHeight]

def space : String := "env"

def name : HostFunction → String
  | .log => "log"
  | .emitEvent => "emit_event"
  | .blockHeight => "block_height"

def type : HostFunction → Signature
  | .log => ⟨[.i32, .i32, .i32], []⟩
  | .emitEvent => ⟨[.i32, .i32, .i32, .i32], []⟩
  | .blockHeight => ⟨[], [.i64]⟩

-- The offered function that an import asks for, with exactly its type.
def resolve? (offered : List HostFunction) (i : Import) : Option HostFunction :=
  offered.find? fun f => i.space == space && i.name == f.name && i.type == .function f.type

end HostFunction

end Tollgate.Guest
