import Tollgate.ContentHash
import Tollgate.Guest.Module.Source
import Tollgate.Settings

namespace Tollgate

structure Contract where
  hash : String
  size : Nat
  module : Guest.Module
deriving Repr, DecidableEq, Inhabited

namespace Contract

def slotElements : Nat := 20000

-- Whether a module's memory and table fit the slots that are set aside beforehand, one of each.
def fitsSlots (s : EngineSettings) (m : Guest.Module) : Bool :=
  !s.poolingAllocator ||
    (decide (m.memories.length ≤ 1) && decide (m.tables.length ≤ 1) &&
      m.memories.all (fun l => decide (l.least ≤ s.maxMemoryPages)) &&
      m.tables.all fun t => decide (t.limits.least ≤ slotElements))

def accept (s : EngineSettings) (form : String) (hash : String) (size : Nat)
    (loaded : Except String Guest.Module) : Except Fault Contract :=
  match loaded with
  | .error reason => .error (.compilationFailed s!"{form} compilation failed: {reason}")
  | .ok m =>
    if fitsSlots s m then .ok ⟨hash, size, m⟩
    else .error (.compilationFailed s!"{form} compilation failed: module exceeds its slot")

-- A contract from the binary form. Size and header are looked at first.
def ofBytes (load : Guest.Loader) (s : EngineSettings) (bytes : List UInt8) :
    Except Fault Contract :=
  if bytes.isEmpty then .error (.invalidBytecode "bytecode is empty")
  else if s.maxModuleSize < bytes.length then
    .error (.invalidBytecode s!"bytecode is {bytes.length} bytes, limit is {s.maxModuleSize}")
  else if bytes.length < 8 then .error (.invalidBytecode "file too small")
  else if bytes.take 4 ≠ Guest.Module.magic then .error (.invalidBytecode "bad magic number")
  else accept s "Module" (contentHash bytes) bytes.length (load bytes)

-- A contract from the text form, which has no size limit.
def ofSource (load : Guest.Loader) (s : EngineSettings) (text : String) :
    Except Fault Contract :=
  if (Text.trim text).isEmpty then .error (.invalidBytecode "source is empty")
  else
    accept s "WAT" (contentHash (Text.bytesOf text)) text.utf8ByteSize (load (Text.bytesOf text))

def exportsFunction (c : Contract) (name : String) : Bool :=
  c.module.exportedFunctions.contains name

def describe (c : Contract) : String :=
  Text.openShape "CompiledModule"
    [("content_hash", Text.shown c.hash), ("imports", toString c.module.imports.length),
      ("exports", Text.shownList (c.module.exportedFunctions.map Text.shown))]

end Contract

end Tollgate
