import Tollgate.Instance

namespace Tollgate

-- Modules are read by `load`, which may be any loader.
structure Vm where
  engine : EngineSettings
  load : Guest.Loader := Guest.Module.load
  execution : ExecutionSettings
  offered : List Guest.HostFunction := []
  cache : List Contract := []
  evicted : List String := []
  closed : Bool := false
deriving Inhabited

structure CallLimits where
  fee : Nat
  timeout : Nat
deriving Repr, DecidableEq, Inhabited

-- The bare result of a call. Its duration is in nanoseconds.
structure CallOutcome where
  words : List UInt64
  types : List ValueType
  resourceUsed : Nat
  duration : Nat
deriving Repr, DecidableEq, Inhabited

namespace Vm

def slotPages : Nat := 65536

-- Addresses that each preallocated memory takes with its guard region, and those there are in one
-- stretch.
def slotBytes : Nat := 4328521728

def addressBytes : Nat := 93824992231424

def slotsFit (e : EngineSettings) : Bool :=
  decide (e.maxMemoryPages ≤ slotPages) && decide (e.maxInstances * slotBytes ≤ addressBytes)

def ofSettings (s : Settings) : Except Fault Vm :=
  if s.engine.poolingAllocator && !slotsFit s.engine then
    .error (.invalidConfig "Failed to create Wasmtime engine: memory slots are too large")
  else .ok { engine := s.engine, execution := s.execution }

-- Offers one more host function; each can be offered once.
def register (offered : List Guest.HostFunction) (f : Guest.HostFunction) :
    Except Fault (List Guest.HostFunction) :=
  if offered.contains f then
    .error (.invalidConfig s!"Failed to register {f.name} function: already defined")
  else .ok (offered ++ [f])

def registerAll (offered : List Guest.HostFunction) (functions : List Guest.HostFunction) :
    Except Fault (List Guest.HostFunction) :=
  functions.foldlM register offered

def withHost (s : Settings) : Except Fault Vm := do
  let vm ← ofSettings s
  return { vm with offered := ← registerAll [] Guest.HostFunction.all }

def closedFault : Fault := .closed "vm"

def cached? (vm : Vm) (hash : String) : Option Contract := vm.cache.find? fun c => c.hash == hash

-- Contracts beyond the capacity leave, oldest first.
def trim (vm : Vm) : Vm :=
  let excess := vm.cache.length - vm.engine.cacheSize
  { vm with
    cache := vm.cache.drop excess
    evicted := vm.evicted ++ (vm.cache.take excess).map Contract.hash }

def remember (vm : Vm) (c : Contract) : Vm :=
  if vm.engine.cacheSize = 0 then vm
  else if (vm.cached? c.hash).isSome then
    { vm with cache := vm.cache.map fun old => if old.hash = c.hash then c else old }
  else trim { vm with cache := vm.cache ++ [c] }

-- Compiles by `build` unless a contract with the hash is cached.
def compileWith (vm : Vm) (hash : String) (build : EngineSettings → Except Fault Contract) :
    Vm × Except Fault Contract :=
  if vm.closed then (vm, .error closedFault)
  else match vm.cached? hash with
    | some c => (vm, .ok c)
    | none =>
      match build vm.engine with
      | .error f => (vm, .error f)
      | .ok c => (vm.remember c, .ok c)

def compile (vm : Vm) (bytes : List UInt8) : Vm × Except Fault Contract :=
  vm.compileWith (contentHash bytes) fun s => Contract.ofBytes vm.load s bytes

def compileSource (vm : Vm) (text : String) : Vm × Except Fault Contract :=
  vm.compileWith (contentHash (Text.bytesOf text)) fun s => Contract.ofSource vm.load s text

-- Removes a contract, and says whether it was there. Such a removal is not noted.
def evict (vm : Vm) (hash : String) : Vm × Bool :=
  ({ vm with cache := vm.cache.filter fun c => c.hash ≠ hash }, (vm.cached? hash).isSome)

def takeEvicted (vm : Vm) : Vm × List String := ({ vm with evicted := [] }, vm.evicted)

def close (vm : Vm) : Vm := if vm.closed then vm else { vm with closed := true, cache := [] }

-- Nanoseconds that one unit of guest work takes.
def nanosPerWork : Nat := 10

-- The work after which a call is interrupted. The deadline counts ticks of `tick` milliseconds,
-- at least one; without ticks there is no interruption.
def interruptAt (tick : Option Nat) (timeout : Nat) : Option Nat :=
  tick.map fun ms => max (timeout / nanosPerMilli) 1 * ms * nanosPerMilli / nanosPerWork

-- The ticks that matter: none unless interruption is switched on.
def ticking (vm : Vm) (tick : Option Nat) : Option Nat :=
  if vm.engine.epochInterruption then tick else none

section Instantiate

open Guest

-- The functions of a module in their numbering; every import must be one that is offered.
def link? (offered : List HostFunction) (m : Module) : Option (Array Callable) := do
  let hosts ← m.imports.mapM (HostFunction.resolve? offered)
  return (hosts.map Callable.host ++ m.functions.map Callable.code).toArray

-- No globals are offered, so an imported one has no value of its own.
def initial : Initial → Native
  | .value v => v
  | .imported _ => .blank .funcref
  | .function _ => .blank .funcref
  | .combined _ op a b =>
    match initial a, initial b with
    | .i32 x, .i32 y => .i32 ((op.apply32 x y).toOption.getD 0)
    | .i64 x, .i64 y => .i64 ((op.apply64 x y).toOption.getD 0)
    | v, _ => v

def offsetOf (i : Initial) : Nat :=
  match initial i with
  | .i32 v => v.toNat
  | _ => 0

def memory? (ceiling : Nat) (l : Limits) : Option Memory :=
  let limit := min Memory.maxPages (min ceiling (l.most.getD Memory.maxPages))
  if h : l.least ≤ limit then some ⟨l.least, limit, .all 0, h, Nat.min_le_left _ _⟩ else none

def table? (limit : Option Nat) (t : TableType) : Option FunctionTable :=
  if limit.any fun most => decide (most < t.limits.least) then none
  else some { size := t.limits.least }

def functionOf : Initial → Option Nat
  | .function index => some index
  | _ => none

def putElements (tables : List FunctionTable) (e : ElementSegment) :
    Option (List FunctionTable) :=
  match e.place with
  | none => some tables
  | some (index, offset) => do
    let table ← tables[index]?
    return tables.set index (← table.put? (offsetOf offset) (e.items.map functionOf))

def putData (memories : List Memory) (d : DataSegment) : Option (List Memory) :=
  match d.place with
  | none => some memories
  | some (index, offset) => do
    let memory ← memories[index]?
    return memories.set index (← memory.write? (offsetOf offset) d.bytes)

-- A fresh instance's state, with its segments in place and nothing run.
def layOut (vm : Vm) (m : Module) (pages : Nat) (tableLimit : Option Nat) :
    Except String Live := do
  let functions ← (link? vm.offered m).elim (.error "unknown import") .ok
  let memories ← (m.memories.mapM (memory? (min pages vm.engine.maxMemoryPages))).elim
    (.error "memory minimum size exceeds memory limits") .ok
  let tables ← (m.tables.mapM (table? tableLimit)).elim
    (.error "table minimum size exceeds table limits") .ok
  let tables ← (m.elements.foldlM putElements tables).elim
    (.error Trap.tableOutOfBounds.message) .ok
  let memories ← (m.data.foldlM putData memories).elim
    (.error Trap.memoryOutOfBounds.message) .ok
  return { functions := functions
           tables := tables
           globals := (m.globals.map fun g => initial g.initial).toArray
           memories := memories
           meter := { hostCallFee := vm.execution.hostCallFee } }

end Instantiate

def endingText : Ending → String
  | .returned _ => ""
  | .trapped t => "wasm trap: " ++ t.message
  | .refused f => f.text

def runLive (live : Live) (visible : Option Nat) (guard : Guard) (callable : Guest.Callable)
    (args : List Guest.Native) (interruptAt : Option Nat) : Run × Ending :=
  let program : Guest.Program := ⟨live.functions, live.tables, interruptAt⟩
  let machine := Guest.Machine.idle live.globals live.memories live.meter
    callable.type.results.length
  Run.complete program visible ⟨guard, live.env, live.output, machine⟩ callable args

def afterRun (live : Live) (r : Run) : Live :=
  { live with
    globals := r.machine.globals
    memories := r.machine.memories
    meter := r.machine.meter
    output := r.output }

-- Puts a contract in place and runs its start function under the default budget.
def bringUp (vm : Vm) (guard : Guard) (i : Instance) (pages : Nat) (tableLimit tick : Option Nat) :
    Guard × Except String Instance :=
  match layOut vm i.contract.module pages tableLimit with
  | .error reason => (guard, .error reason)
  | .ok live =>
    let live := { live with meter := live.meter.arm vm.execution.defaultFeeLimit }
    match i.contract.module.start.bind (live.functions[·]?) with
    | none => (guard, .ok ({ i with live := some live }).resetScratch)
    | some callable =>
      let bound := interruptAt (vm.ticking tick) (vm.execution.timeout * nanosPerMilli)
      match runLive live i.memoryIndex? guard callable [] bound with
      | (r, .returned _) =>
        (r.guard, .ok ({ i with live := some (afterRun live r) }).resetScratch)
      | (r, ending) => (r.guard, .error (endingText ending))

-- Creates an instance under a page ceiling. `others` instances are alive already, which matters
-- when slots are set aside beforehand.
def instantiate (vm : Vm) (guard : Guard) (c : Contract) (id : String) (pages : Nat)
    (tableLimit : Option Nat) (others : Nat) (tick : Option Nat) :
    Guard × Except Fault Instance :=
  if vm.closed then (guard, .error closedFault)
  else
    let fresh : Instance := { id := id, contract := c, live := none, memoryLimitPages := pages }
    let (guard, result) :=
      if vm.engine.poolingAllocator && decide (vm.engine.maxInstances ≤ others) then
        (guard, .error "maximum concurrent instances reached")
      else bringUp vm guard fresh pages tableLimit tick
    match result with
    | .ok i => (guard, .ok i)
    | .error reason =>
      (guard, .error ((Fault.instantiationFailed reason).withContext "module_id" (.text c.hash)))

def argCountMismatch (function : String) (takes given : Nat) : Fault :=
  (Fault.validation "ARG_COUNT_MISMATCH"
    "Argument count does not match the function signature").withDetails
    s!"{function} takes {takes} words, got {given}"

def unsupportedSignature (t : Guest.NativeType) : Fault :=
  (Fault.validation "UNSUPPORTED_SIGNATURE"
    "Only numeric parameters and results are supported").withDetails t.shown

def trapFault (limits : CallLimits) : Guest.Trap → Fault
  | .outOfFee => .resourceExhausted limits.fee limits.fee
  | .interrupted => .timedOut (limits.timeout / nanosPerMilli)
  | .stackOverflow => .stackOverflow
  | .memoryOutOfBounds =>
    .make .memory "MEMORY_OUT_OF_BOUNDS" "Guest accessed memory out of bounds"
  | t => .executionFailed ("wasm trap: " ++ t.message)

def nativeArgs : List Guest.NativeType → List UInt64 → Except Fault (List Guest.Native)
  | t :: types, w :: words =>
    match Guest.Native.ofWord? w t with
    | none => .error (unsupportedSignature t)
    | some v => (nativeArgs types words).map (v :: ·)
  | _, _ => .ok []

def prepare (vm : Vm) (i : Instance) (function : String) (words : List UInt64) :
    Except Fault (Live × Guest.Callable × List Guest.Native) :=
  if vm.closed then .error closedFault
  else match i.live with
    | none => .error i.closedFault
    | some live =>
      match (i.contract.module.exportedFunction? function).bind (live.functions[·]?) with
      | none => .error (.functionNotFound function)
      | some callable =>
        let type := callable.type
        if type.params.length ≠ words.length then
          .error (argCountMismatch function type.params.length words.length)
        else match nativeArgs type.params words with
          | .error f => .error f
          | .ok args =>
            match nativeArgs type.results (type.results.map fun _ => 0) with
            | .error f => .error f
            | .ok _ => .ok (live, callable, args)

-- Calls an exported function. A call that enters the guest counts on the instance however it
-- ends; one that is refused before changes nothing.
def call (vm : Vm) (guard : Guard) (i : Instance) (function : String) (words : List UInt64)
    (limits : CallLimits) (tick : Option Nat) : Guard × Instance × Except Fault CallOutcome :=
  match vm.prepare i function words with
  | .error f => (guard, i, .error f)
  | .ok (live, callable, args) =>
    let armed := { live with meter := live.meter.arm limits.fee }
    let bound := interruptAt (vm.ticking tick) limits.timeout
    let (r, ending) := runLive armed i.memoryIndex? guard callable args bound
    let consumed := r.machine.meter.consumed
    let after := ({ i with live := some (afterRun armed r) }).recordCall consumed
    let fail (f : Fault) : Except Fault CallOutcome :=
      .error ((f.withContext "function" (.text function)).withContext "resource_used"
        (.nat consumed))
    match ending with
    | .returned values =>
      (r.guard, after, .ok {
        words := values.map Guest.Native.word
        types := values.map Guest.Native.valueType
        resourceUsed := consumed
        duration := r.machine.work * nanosPerWork + 1 })
    | .trapped t => (r.guard, after, fail (trapFault limits t))
    | .refused f => (r.guard, after, fail f)

def describeEngine (s : EngineSettings) : String :=
  Text.openShape "WasmEngine"
    [("pooling_allocator", Text.shownBool s.poolingAllocator),
      ("epoch_interruption", Text.shownBool s.epochInterruption),
      ("max_memory_pages", toString s.maxMemoryPages)]

def describe (vm : Vm) : String :=
  Text.openShape "Vm"
    [("engine", describeEngine vm.engine), ("cached_modules", toString vm.cache.length),
      ("closed", Text.shownBool vm.closed)]

end Vm

end Tollgate
