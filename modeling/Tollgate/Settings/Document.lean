import Tollgate.Settings

namespace Tollgate

namespace Document

def asSize? (d : Document) : Option Nat := d.asNat? 18446744073709551615

def asSmall? (d : Document) : Option Nat := d.asNat? 4294967295

def asTable? {α : Type} (f : Document → Option α) (d : Document) : Option (Table α) := do
  let read ← (← d.entries?).mapM fun entry => (f entry.2).map fun a => (entry.1, a)
  return .ofList read

def ofTable {α : Type} (f : α → Document) (t : Table α) : Document :=
  .fields (t.map f).entries

end Document

open Document

def EngineSettings.ofDocument? (d : Document) : Option EngineSettings := do
  let base : EngineSettings := {}
  match ← d.record? ["pooling_allocator", "max_instances", "max_memory_pages", "cache_size",
      "max_module_size", "epoch_interruption"] with
  | [pooling, instances, pages, cache, size, epoch] =>
    return { poolingAllocator := ← fieldOr base.poolingAllocator asBool? pooling
             maxInstances := ← fieldOr base.maxInstances asSmall? instances
             maxMemoryPages := ← fieldOr base.maxMemoryPages asSmall? pages
             cacheSize := ← fieldOr base.cacheSize asSize? cache
             maxModuleSize := ← fieldOr base.maxModuleSize asSize? size
             epochInterruption := ← fieldOr base.epochInterruption asBool? epoch }
  | _ => none

def EngineSettings.toDocument (s : EngineSettings) : Document :=
  .fields [("pooling_allocator", .bool s.poolingAllocator), ("max_instances", .nat s.maxInstances),
    ("max_memory_pages", .nat s.maxMemoryPages), ("cache_size", .nat s.cacheSize),
    ("max_module_size", .nat s.maxModuleSize), ("epoch_interruption", .bool s.epochInterruption)]

def ExecutionSettings.ofDocument? (d : Document) : Option ExecutionSettings := do
  let base : ExecutionSettings := {}
  match ← d.record? ["default_fee_limit", "timeout_ms", "host_call_fee"] with
  | [limit, timeout, fee] =>
    return { defaultFeeLimit := ← fieldOr base.defaultFeeLimit asSize? limit
             timeout := ← fieldOr base.timeout asSize? timeout
             hostCallFee := ← fieldOr base.hostCallFee asSize? fee }
  | _ => none

def ExecutionSettings.toDocument (s : ExecutionSettings) : Document :=
  .fields [("default_fee_limit", .nat s.defaultFeeLimit), ("timeout_ms", .nat s.timeout),
    ("host_call_fee", .nat s.hostCallFee)]

def MarshalSettings.ofDocument? (d : Document) : Option MarshalSettings := do
  let base : MarshalSettings := {}
  match ← d.record? ["max_params", "max_param_size", "max_results"] with
  | [params, size, results] =>
    return { maxParams := ← fieldOr base.maxParams asSize? params
             maxParamSize := ← fieldOr base.maxParamSize asSize? size
             maxResults := ← fieldOr base.maxResults asSize? results }
  | _ => none

def MarshalSettings.toDocument (s : MarshalSettings) : Document :=
  .fields [("max_params", .nat s.maxParams), ("max_param_size", .nat s.maxParamSize),
    ("max_results", .nat s.maxResults)]

def PoolSettings.ofDocument? (d : Document) : Option PoolSettings := do
  let base : PoolSettings := {}
  match ← d.record? ["max_per_module", "max_idle_ms", "cleanup_interval_ms"] with
  | [perModule, idle, interval] =>
    return { maxPerModule := ← fieldOr base.maxPerModule asSize? perModule
             maxIdle := ← fieldOr base.maxIdle asSize? idle
             cleanupInterval := ← fieldOr base.cleanupInterval asSize? interval }
  | _ => none

def PoolSettings.toDocument (s : PoolSettings) : Document :=
  .fields [("max_per_module", .nat s.maxPerModule), ("max_idle_ms", .nat s.maxIdle),
    ("cleanup_interval_ms", .nat s.cleanupInterval)]

def LifecycleSettings.ofDocument? (d : Document) : Option LifecycleSettings := do
  let base : LifecycleSettings := {}
  match ← d.record? ["start_timeout_ms", "stop_timeout_ms", "auto_health_check",
      "health_check_interval_ms", "stats_interval_ms", "epoch_tick_ms"] with
  | [start, stop, auto, health, stats, tick] =>
    return { startTimeout := ← fieldOr base.startTimeout asSize? start
             stopTimeout := ← fieldOr base.stopTimeout asSize? stop
             autoHealthCheck := ← fieldOr base.autoHealthCheck asBool? auto
             healthCheckInterval := ← fieldOr base.healthCheckInterval asSize? health
             statsInterval := ← fieldOr base.statsInterval asSize? stats
             epochTick := ← fieldOr base.epochTick asSize? tick }
  | _ => none

def LifecycleSettings.toDocument (s : LifecycleSettings) : Document :=
  .fields [("start_timeout_ms", .nat s.startTimeout), ("stop_timeout_ms", .nat s.stopTimeout),
    ("auto_health_check", .bool s.autoHealthCheck),
    ("health_check_interval_ms", .nat s.healthCheckInterval),
    ("stats_interval_ms", .nat s.statsInterval), ("epoch_tick_ms", .nat s.epochTick)]

def ParamRule.ofDocument? (d : Document) : Option ParamRule := do
  match ← d.record? ["type", "required", "max_size"] with
  | [some type, required, size] =>
    return { type := ← ValueType.ofDocument? type
             required := ← fieldOr true asBool? required
             maxSize := ← fieldOr 0 asSize? size }
  | _ => none

def ParamRule.toDocument (r : ParamRule) : Document :=
  .fields [("type", r.type.toDocument), ("required", .bool r.required), ("max_size", .nat r.maxSize)]

def SideEffectPolicy.ofDocument? (d : Document) : Option SideEffectPolicy := do
  match ← d.record? ["allowed", "notes"] with
  | [some allowed, notes] =>
    return { allowed := ← asBool? allowed, notes := ← fieldOr "" asText? notes }
  | _ => none

def SideEffectPolicy.toDocument (p : SideEffectPolicy) : Document :=
  .fields [("allowed", .bool p.allowed), ("notes", .text p.notes)]

def Policy.ofDocument? (d : Document) : Option Policy := do
  let base : Policy := {}
  match ← d.record? ["enable_validation", "enable_threat_detection", "strict_mode",
      "max_execution_time_ms", "max_memory_usage", "max_module_memory_pages", "allowed_imports",
      "allowed_host_functions", "denied_host_functions", "host_param_schemas",
      "enforce_idempotency", "idempotent_functions", "enforce_side_effects",
      "side_effect_policies", "alert_threshold", "max_recent_events"] with
  | [validation, threats, strict, time, usage, pages, imports, allowed, denied, schemas,
      idempotency, idempotent, effects, policies, threshold, events] =>
    return { enableValidation := ← fieldOr base.enableValidation asBool? validation
             enableThreatDetection := ← fieldOr base.enableThreatDetection asBool? threats
             strictMode := ← fieldOr base.strictMode asBool? strict
             maxExecutionTime := ← fieldOr base.maxExecutionTime asSize? time
             maxMemoryUsage := ← fieldOr base.maxMemoryUsage asSize? usage
             maxModuleMemoryPages := ← fieldOr base.maxModuleMemoryPages asSmall? pages
             allowedImports := ← fieldOr base.allowedImports asTexts? imports
             allowedHostFunctions := ← fieldOr base.allowedHostFunctions asTexts? allowed
             deniedHostFunctions := ← fieldOr base.deniedHostFunctions asTexts? denied
             hostParamSchemas := ← fieldOr base.hostParamSchemas
               (asTable? (asList? ParamRule.ofDocument?)) schemas
             enforceIdempotency := ← fieldOr base.enforceIdempotency asBool? idempotency
             idempotentFunctions := ← fieldOr base.idempotentFunctions asTexts? idempotent
             enforceSideEffects := ← fieldOr base.enforceSideEffects asBool? effects
             sideEffectPolicies := ← fieldOr base.sideEffectPolicies
               (asTable? SideEffectPolicy.ofDocument?) policies
             alertThreshold := ← fieldOr base.alertThreshold asDouble? threshold
             maxRecentEvents := ← fieldOr base.maxRecentEvents asSize? events }
  | _ => none

def Policy.toDocument (p : Policy) : Document :=
  .fields [("enable_validation", .bool p.enableValidation),
    ("enable_threat_detection", .bool p.enableThreatDetection),
    ("strict_mode", .bool p.strictMode), ("max_execution_time_ms", .nat p.maxExecutionTime),
    ("max_memory_usage", .nat p.maxMemoryUsage),
    ("max_module_memory_pages", .nat p.maxModuleMemoryPages),
    ("allowed_imports", .texts p.allowedImports),
    ("allowed_host_functions", .texts p.allowedHostFunctions),
    ("denied_host_functions", .texts p.deniedHostFunctions),
    ("host_param_schemas", ofTable (fun rules => .list (rules.map ParamRule.toDocument))
      p.hostParamSchemas),
    ("enforce_idempotency", .bool p.enforceIdempotency),
    ("idempotent_functions", .texts p.idempotentFunctions),
    ("enforce_side_effects", .bool p.enforceSideEffects),
    ("side_effect_policies", ofTable SideEffectPolicy.toDocument p.sideEffectPolicies),
    ("alert_threshold", .double p.alertThreshold), ("max_recent_events", .nat p.maxRecentEvents)]

def Settings.ofDocument? (d : Document) : Option Settings := do
  match ← d.record? ["engine", "execution", "marshal", "pool", "lifecycle", "security"] with
  | [engine, execution, marshal, pool, lifecycle, security] =>
    return { engine := ← fieldOr {} EngineSettings.ofDocument? engine
             execution := ← fieldOr {} ExecutionSettings.ofDocument? execution
             marshal := ← fieldOr {} MarshalSettings.ofDocument? marshal
             pool := ← fieldOr {} PoolSettings.ofDocument? pool
             lifecycle := ← fieldOr {} LifecycleSettings.ofDocument? lifecycle
             security := ← fieldOr {} Policy.ofDocument? security }
  | _ => none

def Settings.toDocument (s : Settings) : Document :=
  .fields [("engine", s.engine.toDocument), ("execution", s.execution.toDocument),
    ("marshal", s.marshal.toDocument), ("pool", s.pool.toDocument),
    ("lifecycle", s.lifecycle.toDocument), ("security", s.security.toDocument)]

end Tollgate
