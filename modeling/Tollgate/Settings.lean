import Tollgate.Fault
import Tollgate.Text.Shape
import Tollgate.Value

namespace Tollgate

def pageSize : Nat := 65536

-- Times are in milliseconds and sizes in bytes unless a name says otherwise.
structure EngineSettings where
  poolingAllocator : Bool := true
  maxInstances : Nat := 1000
  maxMemoryPages : Nat := 1024
  cacheSize : Nat := 100
  maxModuleSize : Nat := 10485760
  epochInterruption : Bool := true
deriving Repr, DecidableEq, Inhabited

def EngineSettings.maxMemoryBytes (s : EngineSettings) : Nat := s.maxMemoryPages * pageSize

structure ExecutionSettings where
  defaultFeeLimit : Nat := 5000000
  timeout : Nat := 30000
  hostCallFee : Nat := 10
deriving Repr, DecidableEq, Inhabited

structure MarshalSettings where
  maxParams : Nat := 16
  maxParamSize : Nat := 1048576
  maxResults : Nat := 16
deriving Repr, DecidableEq, Inhabited

structure PoolSettings where
  maxPerModule : Nat := 32
  maxIdle : Nat := 300000
  cleanupInterval : Nat := 60000
deriving Repr, DecidableEq, Inhabited

structure LifecycleSettings where
  startTimeout : Nat := 30000
  stopTimeout : Nat := 10000
  autoHealthCheck : Bool := true
  healthCheckInterval : Nat := 30000
  statsInterval : Nat := 60000
  epochTick : Nat := 1
deriving Repr, DecidableEq, Inhabited

-- Ticks are never shorter than one millisecond.
def LifecycleSettings.tick (s : LifecycleSettings) : Nat := max s.epochTick 1

-- The expected shape of one host-call argument; a ceiling of 0 is none.
structure ParamRule where
  type : ValueType
  required : Bool := true
  maxSize : Nat := 0
deriving Repr, DecidableEq, Inhabited

structure SideEffectPolicy where
  allowed : Bool
  notes : String := ""
deriving Repr, DecidableEq, Inhabited

structure Policy where
  enableValidation : Bool := true
  enableThreatDetection : Bool := true
  strictMode : Bool := true
  maxExecutionTime : Nat := 30000
  maxMemoryUsage : Nat := 67108864
  maxModuleMemoryPages : Nat := 1024
  allowedImports : List String := ["env"]
  allowedHostFunctions : List String := []
  deniedHostFunctions : List String := []
  hostParamSchemas : Table (List ParamRule) := .empty
  enforceIdempotency : Bool := false
  idempotentFunctions : List String := []
  enforceSideEffects : Bool := true
  sideEffectPolicies : Table SideEffectPolicy := .empty
  alertThreshold : UInt64 := 0x3FE6666666666666
  maxRecentEvents : Nat := 100
deriving Repr, DecidableEq, Inhabited

def Policy.allowSideEffects (p : Policy) (function : String) : Policy :=
  { p with sideEffectPolicies := p.sideEffectPolicies.insert function ⟨true, ""⟩ }

structure Settings where
  engine : EngineSettings := {}
  execution : ExecutionSettings := {}
  marshal : MarshalSettings := {}
  pool : PoolSettings := {}
  lifecycle : LifecycleSettings := {}
  security : Policy := {}
deriving Repr, DecidableEq, Inhabited

-- A double pattern from zero to one, either zero included.
def isUnitInterval (bits : UInt64) : Bool :=
  bits ≤ 0x3FF0000000000000 || bits = 0x8000000000000000

def Settings.complaints (s : Settings) : List (Bool × String) :=
  [(s.engine.maxMemoryPages == 0, "engine.max_memory_pages must be greater than 0"),
    (decide (65536 < s.engine.maxMemoryPages),
      "engine.max_memory_pages cannot exceed 65536 (4GiB)"),
    (s.engine.cacheSize == 0, "engine.cache_size must be greater than 0"),
    (s.engine.maxModuleSize == 0, "engine.max_module_size must be greater than 0"),
    (s.execution.defaultFeeLimit == 0, "execution.default_fee_limit must be greater than 0"),
    (s.execution.timeout == 0, "execution.timeout_ms must be greater than 0"),
    (s.marshal.maxParams == 0 || s.marshal.maxResults == 0,
      "marshal.max_params and marshal.max_results must be greater than 0"),
    (s.pool.maxPerModule == 0, "pool.max_per_module must be greater than 0"),
    (!isUnitInterval s.security.alertThreshold,
      "security.alert_threshold must be within 0.0..=1.0")]

def Settings.validate (s : Settings) : Except Fault Unit :=
  match s.complaints.find? (·.1) with
  | some (_, reason) => .error (.invalidConfig reason)
  | none => .ok ()

def PoolSettings.describe (s : PoolSettings) : String :=
  Text.shape "PoolConfig"
    [("max_per_module", toString s.maxPerModule), ("max_idle_ms", toString s.maxIdle),
      ("cleanup_interval_ms", toString s.cleanupInterval)]

def LifecycleSettings.describe (s : LifecycleSettings) : String :=
  Text.shape "LifecycleConfig"
    [("start_timeout_ms", toString s.startTimeout), ("stop_timeout_ms", toString s.stopTimeout),
      ("auto_health_check", Text.shownBool s.autoHealthCheck),
      ("health_check_interval_ms", toString s.healthCheckInterval),
      ("stats_interval_ms", toString s.statsInterval), ("epoch_tick_ms", toString s.epochTick)]

end Tollgate
