import Tollgate.Document.Toml
import Tollgate.Settings.Document

namespace Tollgate

open Document

structure LoggingSettings where
  filter : String := "info,contract_runtime=debug"
  json : Bool := false
deriving Repr, DecidableEq, Inhabited

structure ModuleEntry where
  id : String
  path : String
deriving Repr, DecidableEq, Inhabited

structure ConfigFile where
  runtime : Settings := {}
  logging : LoggingSettings := {}
  modules : List ModuleEntry := []
deriving Repr, Inhabited

inductive ConfigFlaw
  | unreadable (path : String)
  | malformed
  | invalid (fault : Fault)
deriving Repr, Inhabited

def LoggingSettings.ofDocument? (d : Document) : Option LoggingSettings := do
  match ← d.record? ["filter", "json"] with
  | [filter, json] =>
    return { filter := ← fieldOr ({} : LoggingSettings).filter asText? filter
             json := ← fieldOr false asBool? json }
  | _ => none

def LoggingSettings.toDocument (s : LoggingSettings) : Document :=
  .fields [("filter", .text s.filter), ("json", .bool s.json)]

def ModuleEntry.ofDocument? (d : Document) : Option ModuleEntry := do
  match ← d.record? ["id", "path"] with
  | [some id, some path] => return ⟨← asText? id, ← asText? path⟩
  | _ => none

def ModuleEntry.toDocument (m : ModuleEntry) : Document :=
  .fields [("id", .text m.id), ("path", .text m.path)]

namespace ConfigFile

def ofDocument? (d : Document) : Option ConfigFile := do
  match ← d.record? ["runtime", "logging", "modules"] with
  | [runtime, logging, modules] =>
    return { runtime := ← fieldOr {} Settings.ofDocument? runtime
             logging := ← fieldOr {} LoggingSettings.ofDocument? logging
             modules := ← fieldOr [] (asList? ModuleEntry.ofDocument?) modules }
  | _ => none

-- Reads a file's text; what it says must be in range.
def read (text : String) : Except ConfigFlaw ConfigFile :=
  match Toml.read? text >>= ofDocument? with
  | none => .error .malformed
  | some file =>
    match file.runtime.validate with
    | .ok () => .ok file
    | .error f => .error (.invalid f)

end ConfigFile

def ConfigFlaw.message : ConfigFlaw → String
  | .unreadable path => s!"Failed to read config file '{path}'"
  | .malformed => "Failed to parse config file"
  | .invalid f => "Invalid config file: " ++ f.text

end Tollgate
