import Tollgate.Guard
import Tollgate.Guest.Machine

namespace Tollgate

inductive LogLevel
  | debug
  | info
  | warn
  | error
deriving Repr, DecidableEq, Inhabited

namespace LogLevel

-- Numbers without a level of their own log at the info level.
def ofNumber (n : Int32) : LogLevel :=
  if n = 0 then .debug else if n = 2 then .warn else if n = 3 then .error else .info

def title : LogLevel → String
  | .debug => "DEBUG"
  | .info => "INFO"
  | .warn => "WARN"
  | .error => "ERROR"

def name : LogLevel → String
  | .debug => "debug"
  | .info => "info"
  | .warn => "warn"
  | .error => "error"

end LogLevel

structure LogEntry where
  level : LogLevel
  message : String
deriving Repr, DecidableEq, Inhabited

structure ContractEvent where
  topic : String
  data : List UInt8
deriving Repr, DecidableEq, Inhabited

structure Output where
  logs : List LogEntry := []
  events : List ContractEvent := []
deriving Repr, DecidableEq, Inhabited

structure CallEnv where
  caller : String := ""
  contractAddress : String := ""
  blockHeight : Nat := 0
deriving Repr, DecidableEq, Inhabited

-- A host call whose inputs have been read.
inductive HostRequest
  | log (level : Int32) (message : String)
  | emitEvent (topic : String) (data : List UInt8)
  | blockHeight
deriving Repr, DecidableEq, Inhabited

namespace HostRequest

def function : HostRequest → Guest.HostFunction
  | .log _ _ => .log
  | .emitEvent _ _ => .emitEvent
  | .blockHeight => .blockHeight

def arguments : HostRequest → List Value
  | .log level message => [.i32 level, .string message]
  | .emitEvent topic data => [.string topic, .bytes data]
  | .blockHeight => []

def isWrite : HostRequest → Bool
  | .emitEvent _ _ => true
  | _ => false

def invalidPointer (function : String) (ptr len : Int32) : Fault :=
  .hostFunction function "INVALID_GUEST_POINTER"
    s!"negative pointer or length ({ptr.toInt}, {len.toInt})"

def noMemory (function : String) : Fault :=
  .hostFunction function "NO_MEMORY" "guest exports no memory"

def outOfBounds (function : String) (ptr len : Int32) (size : Nat) : Fault :=
  (Fault.make .memory "MEMORY_OUT_OF_BOUNDS" "Host read outside guest memory").withDetails
    s!"{function}: ptr {ptr.toInt}, len {len.toInt}, memory {size}"

def notUtf8 (function : String) (flaw : Text.Utf8Flaw) : Fault :=
  (Fault.hostFunction function "INVALID_UTF8" "argument is not UTF-8").withSource flaw.message

-- Bytes at a signed address, as guests pass it.
def readBytes (function : String) (memory : Option Guest.Memory) (ptr len : UInt32) :
    Except Fault (List UInt8) :=
  if ptr.toInt32 < 0 ∨ len.toInt32 < 0 then
    .error (invalidPointer function ptr.toInt32 len.toInt32)
  else match memory with
    | none => .error (noMemory function)
    | some m =>
      match m.read? ptr.toNat len.toNat with
      | some bytes => .ok bytes
      | none => .error (outOfBounds function ptr.toInt32 len.toInt32 m.size)

def readText (function : String) (memory : Option Guest.Memory) (ptr len : UInt32) :
    Except Fault String :=
  match readBytes function memory ptr len with
  | .error f => .error f
  | .ok bytes =>
    match Text.ofUtf8 bytes with
    | .ok text => .ok text
    | .error flaw => .error (notUtf8 function flaw)

def wrongArguments (f : Guest.HostFunction) : Fault := .internal s!"{f.name}: wrong arguments"

def readLog (memory : Option Guest.Memory) : List Guest.Native → Except Fault HostRequest
  | [.i32 level, .i32 ptr, .i32 len] =>
    match readText Guest.HostFunction.log.name memory ptr len with
    | .error fault => .error fault
    | .ok message => .ok (.log level.toInt32 message)
  | _ => .error (wrongArguments .log)

def readEvent (memory : Option Guest.Memory) : List Guest.Native → Except Fault HostRequest
  | [.i32 topicPtr, .i32 topicLen, .i32 dataPtr, .i32 dataLen] =>
    match readText Guest.HostFunction.emitEvent.name memory topicPtr topicLen with
    | .error fault => .error fault
    | .ok topic =>
      match readBytes Guest.HostFunction.emitEvent.name memory dataPtr dataLen with
      | .error fault => .error fault
      | .ok data => .ok (.emitEvent topic data)
  | _ => .error (wrongArguments .emitEvent)

-- Reads the inputs of a host call; this has no effect.
def read (f : Guest.HostFunction) (args : List Guest.Native) (memory : Option Guest.Memory) :
    Except Fault HostRequest :=
  match f with
  | .log => readLog memory args
  | .emitEvent => readEvent memory args
  | .blockHeight => if args.isEmpty then .ok .blockHeight else .error (wrongArguments .blockHeight)

def maxHeight : Nat := 9223372036854775807

-- The effect of a call that was let through and paid for, and its results.
def perform (r : HostRequest) (env : CallEnv) (o : Output) : Output × List Guest.Native :=
  match r with
  | .log level message => ({ o with logs := o.logs ++ [⟨.ofNumber level, message⟩] }, [])
  | .emitEvent topic data => ({ o with events := o.events ++ [⟨topic, data⟩] }, [])
  | .blockHeight => (o, [.i64 (UInt64.ofNat (min env.blockHeight maxHeight))])

end HostRequest

structure Run where
  guard : Guard
  env : CallEnv
  output : Output
  machine : Guest.Machine
deriving Inhabited

inductive Ending
  | returned (values : List Guest.Native)
  | trapped (t : Guest.Trap)
  | refused (f : Fault)
deriving Repr, Inhabited

inductive Progress
  | running (r : Run)
  | ended (r : Run) (e : Ending)
deriving Inhabited

namespace Run

-- Gate, fee, effect. `visible` is the memory that the guest exports under its usual name.
def hostCall (r : Run) (visible : Option Nat) (f : Guest.HostFunction) (args : List Guest.Native)
    (m : Guest.Machine) : Progress :=
  match HostRequest.read f args (visible.bind (m.memories[·]?)) with
  | .error fault => .ended { r with machine := m } (.refused fault)
  | .ok request =>
    match r.guard.validateHostCall f.name request.arguments request.isWrite with
    | (guard, .error fault) => .ended { r with guard := guard, machine := m } (.refused fault)
    | (guard, .ok ()) =>
      match m.meter.payHostCall with
      | (meter, false) =>
        .ended { r with guard := guard, machine := { m with meter := meter } }
          (.refused (.resourceExhausted meter.limit meter.limit))
      | (meter, true) =>
        let (output, results) := request.perform r.env r.output
        .running { r with
          guard := guard
          output := output
          machine := ({ m with meter := meter }).resume results }

def settle (r : Run) (visible : Option Nat) : Guest.Step → Progress
  | .next m => .running { r with machine := m }
  | .host f args m => r.hostCall visible f args m
  | .returned values m => .ended { r with machine := m } (.returned values)
  | .trapped t m => .ended { r with machine := m } (.trapped t)

def advance (p : Guest.Program) (visible : Option Nat) (r : Run) : Progress :=
  r.settle visible (r.machine.step p)

-- Up to `2 ^ k` steps.
def steps (p : Guest.Program) (visible : Option Nat) : Nat → Run → Progress
  | 0, r => r.advance p visible
  | k + 1, r =>
    match steps p visible k r with
    | .running next => steps p visible k next
    | ended => ended

-- Between two looks at the budget there is at most one pass over the code, and each look but the
-- last finds the budget smaller, so that this many doublings are never used up.
def doublings (p : Guest.Program) (limit : Nat) : Nat :=
  let size := p.functions.foldl (fun n f => match f with
    | .host _ => n
    | .code f => n + f.body.size) 0
  ((limit + 2) * (size + 2)).log2 + 2

def complete (p : Guest.Program) (visible : Option Nat) (r : Run) (callable : Guest.Callable)
    (args : List Guest.Native) : Run × Ending :=
  let first := r.settle visible (r.machine.start p callable args)
  let last := match first with
    | .running next => steps p visible (doublings p r.machine.meter.limit) next
    | ended => ended
  match last with
  | .ended r e => (r, e)
  | .running r => (r, .trapped .interrupted)

end Run

end Tollgate
