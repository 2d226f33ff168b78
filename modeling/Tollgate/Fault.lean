import Tollgate.Document
import Tollgate.Table

namespace Tollgate

inductive Severity
  | low
  | medium
  | high
  | critical
deriving Repr, DecidableEq, Inhabited

namespace Severity

def all : List Severity := [.low, .medium, .high, .critical]

def rank : Severity → Nat
  | .low => 1
  | .medium => 2
  | .high => 3
  | .critical => 4

def name : Severity → String
  | .low => "low"
  | .medium => "medium"
  | .high => "high"
  | .critical => "critical"

def title : Severity → String
  | .low => "Low"
  | .medium => "Medium"
  | .high => "High"
  | .critical => "Critical"

def ofName? (name : String) : Option Severity := all.find? fun s => s.name == name

end Severity

inductive FaultKind
  | execution
  | memory
  | timeout
  | resourceExhausted
  | stackOverflow
  | compilation
  | validation
  | optimization
  | moduleNotFound
  | functionNotFound
  | importError
  | exportError
  | hostFunction
  | hostPermission
  | hostResource
  | system
  | configuration
  | internal
deriving Repr, DecidableEq, Inhabited

namespace FaultKind

def all : List FaultKind :=
  [.execution, .memory, .timeout, .resourceExhausted, .stackOverflow, .compilation, .validation,
    .optimization, .moduleNotFound, .functionNotFound, .importError, .exportError, .hostFunction,
    .hostPermission, .hostResource, .system, .configuration, .internal]

def rank (k : FaultKind) : Nat := all.idxOf k

def name : FaultKind → String
  | .execution => "execution"
  | .memory => "memory"
  | .timeout => "timeout"
  | .resourceExhausted => "resource_exhausted"
  | .stackOverflow => "stack_overflow"
  | .compilation => "compilation"
  | .validation => "validation"
  | .optimization => "optimization"
  | .moduleNotFound => "module_not_found"
  | .functionNotFound => "function_not_found"
  | .importError => "import_error"
  | .exportError => "export_error"
  | .hostFunction => "host_function"
  | .hostPermission => "host_permission"
  | .hostResource => "host_resource"
  | .system => "system"
  | .configuration => "configuration"
  | .internal => "internal"

def ofName? (name : String) : Option FaultKind := all.find? fun k => k.name == name

def severity : FaultKind → Severity
  | .timeout | .resourceExhausted => .medium
  | .memory | .stackOverflow => .high
  | .system | .internal => .critical
  | _ => .low

def hints : FaultKind → List String
  | .timeout => ["increase the execution timeout", "reduce the work done by the entry point"]
  | .resourceExhausted =>
    ["raise the resource fee limit", "optimize the contract's resource usage"]
  | .memory => ["raise the memory limit", "reduce memory usage"]
  | .compilation => ["check the bytecode format", "verify the module's imports and exports"]
  | .hostFunction => ["check host function permissions", "verify the argument types"]
  | _ => []

end FaultKind

structure Fault where
  kind : FaultKind
  severity : Severity
  code : String
  message : String
  details : Option String
  source : Option String
  context : Table Document
  hints : List String
deriving Repr, Inhabited

namespace Fault

def make (kind : FaultKind) (code message : String) : Fault where
  kind := kind
  severity := kind.severity
  code := code
  message := message
  details := none
  source := none
  context := .empty
  hints := kind.hints

def withSeverity (f : Fault) (s : Severity) : Fault := { f with severity := s }

def withDetails (f : Fault) (d : String) : Fault := { f with details := some d }

def withSource (f : Fault) (s : String) : Fault := { f with source := some s }

def withContext (f : Fault) (key : String) (d : Document) : Fault :=
  { f with context := f.context.insert key d }

def withHints (f : Fault) (hints : List String) : Fault := { f with hints := hints }

def withHint (f : Fault) (hint : String) : Fault := { f with hints := f.hints ++ [hint] }

@[simp] theorem code_make (kind : FaultKind) (code message : String) :
    (make kind code message).code = code := rfl

@[simp] theorem code_withSeverity (f : Fault) (s : Severity) :
    (f.withSeverity s).code = f.code := rfl

@[simp] theorem code_withDetails (f : Fault) (d : String) : (f.withDetails d).code = f.code := rfl

@[simp] theorem code_withSource (f : Fault) (s : String) : (f.withSource s).code = f.code := rfl

@[simp] theorem code_withContext (f : Fault) (key : String) (d : Document) :
    (f.withContext key d).code = f.code := rfl

@[simp] theorem code_withHints (f : Fault) (hints : List String) :
    (f.withHints hints).code = f.code := rfl

@[simp] theorem code_withHint (f : Fault) (hint : String) : (f.withHint hint).code = f.code := rfl

def text (f : Fault) : String :=
  let suffix := match f.details with
    | none => ""
    | some d => " - " ++ d
  "[" ++ f.kind.name ++ "] (" ++ f.code ++ ") " ++ f.message ++ suffix

def invalidBytecode (reason : String) : Fault :=
  ((make .compilation "INVALID_BYTECODE" "Invalid bytecode").withSeverity .high).withDetails reason

def compilationFailed (reason : String) : Fault :=
  ((make .compilation "COMPILATION_FAILED" "Compilation failed").withSeverity .high).withDetails
    reason

def instantiationFailed (reason : String) : Fault :=
  (((make .execution "INSTANTIATION_FAILED" "Instantiation failed").withSeverity .high).withDetails
    reason).withHints ["check the module's imports", "verify the memory limit"]

def moduleNotFound (moduleId : String) : Fault :=
  (((make .moduleNotFound "MODULE_NOT_FOUND" "Module not found").withSeverity .medium).withDetails
    moduleId).withContext "module_id" (.text moduleId)

def functionNotFound (function : String) : Fault :=
  ((((make .functionNotFound "FUNCTION_NOT_FOUND" "Function not found").withSeverity
    .medium).withDetails function).withContext "function" (.text function)).withHints
    ["check the function name", "verify the module's exported functions"]

def executionFailed (reason : String) : Fault :=
  ((make .execution "EXECUTION_FAILED" "Execution failed").withSeverity .high).withDetails reason

-- Milliseconds beyond 64 bits are reported as the largest ones.
def timedOut (elapsed : Nat) : Fault :=
  let ms := min elapsed 18446744073709551615
  ((make .timeout "EXECUTION_TIMEOUT" "Execution timed out").withDetails
    s!"deadline of {ms}ms exceeded").withContext "timeout_ms" (.nat ms)

def resourceExhausted (used limit : Nat) : Fault :=
  (((make .resourceExhausted "RESOURCE_EXHAUSTED" "Resource fee limit exhausted").withDetails
    s!"used {used} of {limit}").withContext "resource_used" (.nat used)).withContext
    "resource_fee_limit" (.nat limit)

def outOfMemory (requested available : Nat) : Fault :=
  (((make .memory "OUT_OF_MEMORY" "Out of linear memory").withDetails
    s!"requested {requested} bytes, {available} available").withContext "requested"
    (.nat requested)).withContext "available" (.nat available)

def memoryLimitExceeded (used limit : Nat) : Fault :=
  (((make .memory "MEMORY_LIMIT_EXCEEDED" "Memory limit exceeded").withDetails
    s!"used {used} bytes, limit {limit}").withContext "memory_used" (.nat used)).withContext
    "memory_limit" (.nat limit)

def stackOverflow : Fault :=
  (make .stackOverflow "STACK_OVERFLOW" "Call stack exhausted").withHint "reduce recursion depth"

def validation (code message : String) : Fault :=
  (make .validation code message).withSeverity .medium

def invalidParams (reason : String) : Fault :=
  (validation "INVALID_PARAMS" "Invalid execution parameters").withDetails reason

def hostPermission (function reason : String) : Fault :=
  ((((make .hostPermission "HOST_PERMISSION_DENIED" "Host call denied").withSeverity
    .medium).withDetails s!"{function}: {reason}").withContext "function"
    (.text function)).withHints
    ["check the host call policy", "verify the security configuration"]

def hostFunction (function code reason : String) : Fault :=
  (((make .hostFunction code "Host function error").withSeverity .medium).withDetails
    s!"{function}: {reason}").withContext "function" (.text function)

def invalidConfig (reason : String) : Fault :=
  (((make .configuration "INVALID_CONFIG" "Invalid configuration").withSeverity .high).withDetails
    reason).withHints ["check the configuration file", "verify value ranges"]

def closed (what : String) : Fault :=
  ((make .system "CLOSED" "Handle already closed").withSeverity .medium).withDetails what

def lifecycle (code message : String) : Fault :=
  (make .system code message).withSeverity .medium

def internal (reason : String) : Fault :=
  (make .internal "INTERNAL" "Internal error").withDetails reason

def isRecoverable (f : Fault) : Bool :=
  match f.kind with
  | .timeout | .resourceExhausted => true
  | .memory | .stackOverflow => f.severity.rank ≤ Severity.medium.rank
  | _ => false

def isResourceLimit (f : Fault) : Bool :=
  match f.kind with
  | .resourceExhausted | .memory | .timeout => true
  | _ => false

def isNotFound (f : Fault) : Bool :=
  match f.kind with
  | .moduleNotFound | .functionNotFound => true
  | _ => false

-- The best position so far is kept unless a later fault is strictly more severe.
def leadingFrom (best : Nat × Severity) (index : Nat) : List Fault → Nat
  | [] => best.1
  | f :: rest =>
    if f.severity.rank ≤ best.2.rank then leadingFrom best (index + 1) rest
    else leadingFrom (index, f.severity) (index + 1) rest

def leading? : List Fault → Option Nat
  | [] => none
  | f :: rest => some (leadingFrom (0, f.severity) 1 rest)

-- Notes every fault of the list but the one at `main`, numbered from `index`.
def noteRelated (main index : Nat) (f : Fault) : List Fault → Fault
  | [] => f
  | other :: rest =>
    let noted :=
      if index = main then f
      else f.withContext s!"related_error_{index}" (.text other.text)
    noteRelated main (index + 1) noted rest

def merge? (faults : List Fault) : Option Fault := do
  let main ← leading? faults
  let f ← faults[main]?
  return noteRelated main 0 f faults

end Fault

end Tollgate
