import Tollgate.Fault
import Tollgate.Settings.Document
import Tollgate.Value.Text

namespace Tollgate

structure CallParams where
  entry : String
  feeLimit : Nat
  memoryLimit : Nat
  timeout : Int := 0
  caller : String := ""
  contractAddress : String := ""
  blockHeight : Nat := 0
  payload : List UInt8 := []
  args : List Value := []
  returnTypes : List ValueType := []
deriving Repr, DecidableEq, Inhabited

namespace CallParams

open Document

def validate (p : CallParams) : Except Fault Unit :=
  if (Text.trim p.entry).isEmpty then .error (.invalidParams "entry must not be empty")
  else if p.feeLimit = 0 then
    .error (.invalidParams "resource_fee_limit must be greater than 0")
  else if p.memoryLimit = 0 then .error (.invalidParams "memory_limit must be greater than 0")
  else .ok ()

def fieldNames : List String :=
  ["entry", "resource_fee_limit", "memory_limit", "timeout_ms", "caller", "contract_address",
    "block_height", "payload", "args", "return_types"]

def ofDocument? (d : Document) : Option CallParams := do
  match ← d.record? fieldNames with
  | [some entry, some fee, some memory, timeout, caller, address, height, payload, args, returns] =>
    return { entry := ← asText? entry
             feeLimit := ← asSize? fee
             memoryLimit := ← asSmall? memory
             timeout := ← fieldOr 0 (asInt? (-9223372036854775808) 9223372036854775807) timeout
             caller := ← fieldOr "" asText? caller
             contractAddress := ← fieldOr "" asText? address
             blockHeight := ← fieldOr 0 asSize? height
             payload := ← fieldOr [] asBytes? payload
             args := ← fieldOr [] (asList? Value.ofDocument?) args
             returnTypes := ← fieldOr [] (asList? ValueType.ofDocument?) returns }
  | _ => none

def toDocument (p : CallParams) : Document :=
  .fields [("entry", .text p.entry), ("resource_fee_limit", .nat p.feeLimit),
    ("memory_limit", .nat p.memoryLimit), ("timeout_ms", .int p.timeout),
    ("caller", .text p.caller), ("contract_address", .text p.contractAddress),
    ("block_height", .nat p.blockHeight), ("args", .list (p.args.map Value.toDocument)),
    ("return_types", .list (p.returnTypes.map ValueType.toDocument))]

end CallParams

end Tollgate
