namespace Tollgate.Guest

inductive Trap
  | outOfFee
  | interrupted
  | stackOverflow
  | memoryOutOfBounds
  | tableOutOfBounds
  | uninitializedElement
  | signatureMismatch
  | integerOverflow
  | divisionByZero
  | invalidConversion
  | unreachable
deriving Repr, DecidableEq, Inhabited

def Trap.message : Trap → String
  | .outOfFee => "all fuel consumed by WebAssembly"
  | .interrupted => "interrupt"
  | .stackOverflow => "call stack exhausted"
  | .memoryOutOfBounds => "out of bounds memory access"
  | .tableOutOfBounds => "undefined element: out of bounds table access"
  | .uninitializedElement => "uninitialized element"
  | .signatureMismatch => "indirect call type mismatch"
  | .integerOverflow => "integer overflow"
  | .divisionByZero => "integer divide by zero"
  | .invalidConversion => "invalid conversion to integer"
  | .unreachable => "wasm \x60unreachable\x60 instruction executed"

end Tollgate.Guest
