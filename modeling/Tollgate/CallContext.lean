import Tollgate.CallParams
import Tollgate.Marshal

namespace Tollgate

-- Clock readings are in nanoseconds; a call is over when its deadline is reached.
structure CallContext where
  entry : String
  feeLimit : Nat
  memoryLimit : Nat
  timeout : Nat
  deadline : Nat
  caller : String
  contractAddress : String
  words : List UInt64
  argTypes : List ValueType
  returnTypes : List ValueType
  plan : Plan
  resourceUsed : Nat := 0
  memoryUsed : Nat := 0
deriving Repr, DecidableEq, Inhabited

def nanosPerMilli : Nat := 1000000

namespace CallContext

-- Checks the parameters and encodes the arguments. The deadline counts from `now`; a timeout
-- that is not positive means the default one.
def build (p : CallParams) (marshal : MarshalSettings) (execution : ExecutionSettings)
    (now : Nat) : Except Fault CallContext := do
  p.validate
  let encoded ← Marshal.encode marshal p.args
  let timeout := if 0 < p.timeout then p.timeout.toNat else execution.timeout
  return { entry := p.entry
           feeLimit := p.feeLimit
           memoryLimit := p.memoryLimit
           timeout := timeout
           deadline := now + timeout * nanosPerMilli
           caller := p.caller
           contractAddress := p.contractAddress
           words := encoded.words
           argTypes := encoded.types
           returnTypes := p.returnTypes
           plan := encoded.plan }

def memoryPages (c : CallContext) : Nat := (c.memoryLimit + (pageSize - 1)) / pageSize

def isExpired (c : CallContext) (now : Nat) : Bool := c.deadline ≤ now

def remaining (c : CallContext) (now : Nat) : Nat := c.deadline - now

def recordUsage (c : CallContext) (resource memory : Nat) : CallContext :=
  { c with resourceUsed := resource, memoryUsed := memory }

end CallContext

end Tollgate
