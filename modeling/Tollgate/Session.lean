import Tollgate.Lifecycle

namespace Tollgate

inductive Source
  | bytes (bytes : List UInt8)
  | text (text : String)
deriving Repr, DecidableEq, Inhabited

def Source.raw : Source → List UInt8
  | .bytes b => b
  | .text t => Text.bytesOf t

structure Session where
  life : Lifecycle
  clock : Nat
  sources : Table Source := .empty
  contracts : Table Contract := .empty
  instances : Table Instance := .empty
  contexts : Table CallContext := .empty
  created : Nat := 0

namespace Session

def ofSettings (s : Settings) (host : Bool) (sources : Table Source) : Except Fault Session := do
  let vm ← if host then Vm.withHost s else Vm.ofSettings s
  return { life := .ofSettings s (.ofSettings s vm), clock := nanosPerMilli, sources := sources }

def executor (s : Session) : Executor := s.life.executor

def withExecutor (s : Session) (e : Executor) : Session :=
  { s with life := { s.life with executor := e } }

def withGuard (s : Session) (g : Guard) : Session := s.withExecutor { s.executor with guard := g }

def withPool (s : Session) (p : Pool) : Session := s.withExecutor { s.executor with pool := p }

def withVm (s : Session) (vm : Vm) : Session := s.withExecutor { s.executor with vm := vm }

-- A moment in which nothing happens in the background.
def moment (s : Session) : Session := { s with clock := s.clock + 1000 }

def wait (s : Session) (nanos : Nat) : Session :=
  let after := s.clock + nanos
  { s with clock := after, life := s.life.passTime s.clock after }

def freshId (s : Session) : String := s!"inst{s.created}"

def surroundings (s : Session) : Surroundings where
  now := s.clock
  freshId := s.freshId
  others := s.instances.values.countP fun i => !i.isClosed
  tick := s.life.tick

def compile (s : Session) (name : String) (source : Source) : Session × Except Fault Contract :=
  let (vm, result) := match source with
    | .bytes b => s.executor.vm.compile b
    | .text t => s.executor.vm.compileSource t
  let compiled := s.withVm vm
  match result with
  | .ok c => ({ compiled with contracts := compiled.contracts.insert name c }, .ok c)
  | .error f => (compiled, .error f)

def contract (s : Session) (name : String) (source : Source) : Session × Except Fault Contract :=
  match s.contracts.get? name with
  | some c => (s, .ok c)
  | none => s.compile name source

def instantiate (s : Session) (name : String) (c : Contract) (pages : Nat)
    (tableLimit : Option Nat) : Session × Except Fault Instance :=
  let e := s.executor
  let around := s.surroundings
  let (guard, result) := e.vm.instantiate e.guard c around.freshId pages tableLimit
    (around.others + e.pool.resident) around.tick
  let next := s.withGuard guard
  match result with
  | .ok i =>
    ({ next with instances := next.instances.insert name i, created := next.created + 1 }, .ok i)
  | .error f => (next, .error f)

def call (s : Session) (name : String) (i : Instance) (function : String) (words : List UInt64)
    (fee timeout : Nat) : Session × Except Fault CallOutcome :=
  let e := s.executor
  let (guard, i, result) :=
    e.vm.call e.guard i function words ⟨fee, timeout * nanosPerMilli⟩ s.life.tick
  let next := s.withGuard guard
  ({ next with instances := next.instances.insert name i }, result)

def execute (s : Session) (p : CallParams) (given : Option Contract) :
    Session × Except Fault ExecutionOutcome :=
  let around := s.surroundings
  let (e, result) := match given with
    | some c => s.executor.executeModule c p around
    | none => s.executor.execute p around
  let next := s.withExecutor e
  match result with
  | .error f => (next, .error f)
  | .ok o =>
    let created := if o.instanceId = around.freshId then next.created + 1 else next.created
    ({ next with created := created, clock := next.clock + o.duration }, .ok o)

def putBack (s : Session) (name : String) (i : Instance) : Session × Bool :=
  let (pool, kept) := s.executor.pool.put i s.clock
  ({ s.withPool pool with instances := s.instances.erase name }, kept)

def transition (s : Session) (act : Lifecycle → Nat → Lifecycle × Transition) :
    Session × Transition :=
  let (life, t) := act s.life s.clock
  ({ s with life := life, clock := s.clock + t.elapsed }, t)

end Session

end Tollgate
