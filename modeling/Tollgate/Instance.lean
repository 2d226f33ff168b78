import Tollgate.HostCall

namespace Tollgate

-- What is gone once an instance is closed.
structure Live where
  functions : Array Guest.Callable
  tables : List Guest.FunctionTable
  globals : Array Guest.Native
  memories : List Guest.Memory
  meter : Guest.Meter
  env : CallEnv := {}
  output : Output := {}
deriving Repr, Inhabited

structure Instance where
  id : String
  contract : Contract
  live : Option Live
  heapCursor : Nat := 0
  memoryLimitPages : Nat
  resourceUsed : Nat := 0
  calls : Nat := 0
  metadata : Table String := .empty
deriving Repr, Inhabited

def maxCounter : Nat := 18446744073709551615

namespace Instance

def moduleId (i : Instance) : String := i.contract.hash

def isClosed (i : Instance) : Bool := i.live.isNone

def memoryName : String := "memory"

def memoryIndex? (i : Instance) : Option Nat := i.contract.module.exportedMemory? memoryName

def memory? (i : Instance) : Option Guest.Memory :=
  match i.live, i.memoryIndex? with
  | some live, some index => live.memories[index]?
  | _, _ => none

def memorySize (i : Instance) : Nat :=
  match i.memory? with
  | some m => m.size
  | none => 0

def setMemory (i : Instance) (m : Guest.Memory) : Instance :=
  match i.memoryIndex? with
  | some index => { i with live := i.live.map fun live =>
      { live with memories := live.memories.set index m } }
  | none => i

-- Scratch space is the upper half of linear memory.
def resetScratch (i : Instance) : Instance := { i with heapCursor := i.memorySize / 2 }

def close (i : Instance) : Instance := { i with live := none }

def closedFault (i : Instance) : Fault := .closed s!"instance {i.id}"

def setMetadata (i : Instance) (key value : String) : Instance :=
  { i with metadata := i.metadata.insert key value }

def setEnv (i : Instance) (env : CallEnv) : Instance :=
  { i with live := i.live.map fun live => { live with env := env } }

def resetOutput (i : Instance) : Instance :=
  { i with live := i.live.map fun live => { live with output := {} } }

def output (i : Instance) : Output :=
  match i.live with
  | some live => live.output
  | none => {}

def hostCalls (i : Instance) : Nat :=
  match i.live with
  | some live => live.meter.hostCalls
  | none => 0

-- A finished call; the total stops at the largest counter.
def recordCall (i : Instance) (consumed : Nat) : Instance :=
  { i with resourceUsed := min (i.resourceUsed + consumed) maxCounter, calls := i.calls + 1 }

def alignment : Nat := 8

def alignUp (n : Nat) : Nat := (n + (alignment - 1)) / alignment * alignment

def addressBound : Nat := 4294967296

-- Writes a buffer to scratch space and answers its address. A buffer that does not fit changes
-- nothing.
def allocate (i : Instance) (bytes : List UInt8) : Except Fault (Nat × Instance) :=
  let available := i.memorySize - i.heapCursor
  let refusal := Fault.outOfMemory bytes.length available
  if available < bytes.length then .error refusal
  else if addressBound ≤ i.heapCursor ∨ addressBound ≤ bytes.length then .error refusal
  else if i.isClosed then .error i.closedFault
  else match i.memory? with
    | none => .error (.outOfMemory bytes.length 0)
    | some m =>
      match m.write? i.heapCursor bytes with
      | none => .error refusal
      | some written =>
        let cursor := min (alignUp (i.heapCursor + bytes.length)) i.memorySize
        .ok (i.heapCursor, { i.setMemory written with heapCursor := cursor })

theorem allocate_ok {i next : Instance} {bytes : List UInt8} {address : Nat}
    (allocated : i.allocate bytes = .ok (address, next)) :
    address = i.heapCursor ∧ (i.heapCursor < addressBound ∧ bytes.length < addressBound) ∧
      ∃ m written, i.memory? = some m ∧ m.write? i.heapCursor bytes = some written ∧
        next = { i.setMemory written with
          heapCursor := min (alignUp (i.heapCursor + bytes.length)) i.memorySize } := by
  unfold allocate at allocated
  dsimp only at allocated
  split at allocated
  · cases allocated
  · split at allocated
    · cases allocated
    · rename_i bounds
      split at allocated
      · cases allocated
      · split at allocated
        · cases allocated
        · rename_i m found
          split at allocated
          · cases allocated
          · rename_i written stored
            cases allocated
            exact ⟨rfl, by omega, m, written, found, stored, rfl⟩

-- Why a buffer of some length has no place. Its bytes do not matter.
def refusal? (i : Instance) (length : Nat) : Option Fault :=
  let available := i.memorySize - i.heapCursor
  let refusal := Fault.outOfMemory length available
  if available < length then some refusal
  else if addressBound ≤ i.heapCursor ∨ addressBound ≤ length then some refusal
  else if i.isClosed then some i.closedFault
  else match i.memory? with
    | none => some (.outOfMemory length 0)
    | some m => if i.heapCursor + length ≤ m.size then none else some refusal

theorem allocate_error_iff {i : Instance} {bytes : List UInt8} {f : Fault} :
    i.allocate bytes = .error f ↔ i.refusal? bytes.length = some f := by
  unfold allocate refusal?
  dsimp only
  split
  · simp only [Except.error.injEq, Option.some.injEq]
  · split
    · simp only [Except.error.injEq, Option.some.injEq]
    · split
      · simp only [Except.error.injEq, Option.some.injEq]
      · cases i.memory? with
        | none => simp only [Except.error.injEq, Option.some.injEq]
        | some m =>
          by_cases room : i.heapCursor + bytes.length ≤ m.size
          · simp only [Guest.Memory.write?, if_pos room, reduceCtorEq]
          · simp only [Guest.Memory.write?, if_neg room, Except.error.injEq, Option.some.injEq]

def noMemory : Fault := .make .memory "NO_MEMORY" "Instance exports no linear memory"

def outOfBounds (ptr len size : Nat) : Fault :=
  (Fault.make .memory "MEMORY_OUT_OF_BOUNDS" "Read outside linear memory").withDetails
    s!"ptr {ptr}, len {len}, memory {size}"

def read (i : Instance) (ptr len : Nat) : Except Fault (List UInt8) :=
  if i.isClosed then .error i.closedFault
  else match i.memory? with
    | none => .error noMemory
    | some m =>
      match m.read? ptr len with
      | some bytes => .ok bytes
      | none => .error (outOfBounds ptr len m.size)

def describe (i : Instance) : String :=
  Text.openShape "ContractInstance"
    [("id", Text.shown i.id), ("module_id", Text.shown i.moduleId),
      ("closed", Text.shownBool i.isClosed), ("heap_cursor", toString i.heapCursor),
      ("memory_limit_pages", toString i.memoryLimitPages),
      ("resource_used", toString i.resourceUsed)]

def describeMeter (m : Guest.Meter) : String :=
  Text.shape "ResourceMeter"
    [("fee_limit", toString m.limit), ("host_call_fee", toString m.hostCallFee),
      ("host_calls", toString m.hostCalls)]

def describeState? (i : Instance) : Option String :=
  i.live.map fun live =>
    Text.openShape "InstanceState"
      [("instance_id", Text.shown i.id), ("logs", toString live.output.logs.length),
        ("events", toString live.output.events.length), ("meter", describeMeter live.meter)]

end Instance

namespace CallContext

-- Writes the buffers that have no place yet, in order, and puts their addresses into the words.
-- A failure leaves the earlier ones written. `done` holds the segments already looked at.
def bindFrom (i : Instance) (words : List UInt64) (done : Plan) :
    Plan → Instance × List UInt64 × Plan × Except Fault Unit
  | [] => (i, words, done, .ok ())
  | s :: rest =>
    match s.address with
    | some _ => bindFrom i words (done ++ [s]) rest
    | none =>
      match i.allocate s.bytes with
      | .error f => (i, words, done ++ s :: rest, .error (f.withContext "segment" (.text s.name)))
      | .ok (address, next) =>
        bindFrom next (words.set s.wordIndex (UInt64.ofNat address))
          (done ++ [{ s with address := some address }]) rest

def bind (c : CallContext) (i : Instance) : CallContext × Instance × Except Fault Unit :=
  match bindFrom i c.words [] c.plan with
  | (bound, words, plan, result) => ({ c with words := words, plan := plan }, bound, result)

end CallContext

end Tollgate
