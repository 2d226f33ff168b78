import Tollgate.Binary
import Tollgate.CallContext
import Tollgate.CallParams
import Tollgate.CommandLine
import Tollgate.ContentHash
import Tollgate.Contract
import Tollgate.Count
import Tollgate.Decimal
import Tollgate.Document
import Tollgate.Document.Json
import Tollgate.Document.Toml
import Tollgate.Executor
import Tollgate.Fault
import Tollgate.Fault.Tracker
import Tollgate.Forecast
import Tollgate.Guard
import Tollgate.Guest.Code
import Tollgate.Guest.FunctionTable
import Tollgate.Guest.HostFunction
import Tollgate.Guest.Machine
import Tollgate.Guest.Memory
import Tollgate.Guest.Meter
import Tollgate.Guest.Module
import Tollgate.Guest.Module.Bytes
import Tollgate.Guest.Module.Body
import Tollgate.Guest.Module.Source
import Tollgate.Guest.Module.Term
import Tollgate.Guest.Module.Token
import Tollgate.Guest.Module.Typing
import Tollgate.Guest.Native
import Tollgate.Guest.Number
import Tollgate.Guest.Trap
import Tollgate.HostCall
import Tollgate.Instance
import Tollgate.Lifecycle
import Tollgate.Main
import Tollgate.Marshal
import Tollgate.Pool
import Tollgate.Report
import Tollgate.Session
import Tollgate.Settings
import Tollgate.Settings.Document
import Tollgate.Settings.File
import Tollgate.Table
import Tollgate.Text.Blank
import Tollgate.Text.Hex
import Tollgate.Text.Integer
import Tollgate.Text.Shape
import Tollgate.Text.Unprintable
import Tollgate.Text.Utf8
import Tollgate.Value
import Tollgate.Value.Text
import Tollgate.Vm
import Tollgate.Proofs.Tables
import Tollgate.Proofs.IdleInstances
import Tollgate.Proofs.PoolContents
import Tollgate.Proofs.Answering
import Tollgate.Proofs.Course
import Tollgate.Proofs.HostGate
import Tollgate.Proofs.Execution
import Tollgate.Proofs.FeeLedger
import Tollgate.Proofs.LinearMemory
import Tollgate.Proofs.Marshalling
import Tollgate.Proofs.History
import Tollgate.Proofs.MemoryLimits
import Tollgate.Proofs.MemoryBudget
import Tollgate.Proofs.PoolStacks
import Tollgate.Proofs.Requests
import Tollgate.Proofs.OutputIsolation
import Tollgate.Proofs.CacheCoherence
import Tollgate.Proofs.InstanceFate
import Tollgate.Proofs.PoolAccount
import Tollgate.Proofs.CompileCache
import Tollgate.Proofs.ExecutionBooks
import Tollgate.Proofs.LifecycleRuns
import Tollgate.Proofs.CacheHistory
import Tollgate.Proofs.BufferResults
import Tollgate.Proofs.CacheTransparency
import Tollgate.Proofs.RuleRuns
import Tollgate.Proofs.DeclaredMemory
import Tollgate.Proofs.HostFaults
import Tollgate.Proofs.GuardLog
import Tollgate.Proofs.ParamSchemas
import Tollgate.Proofs.GateConditions
import Tollgate.Proofs.ValidationModes
import Tollgate.Proofs.Placement
import Tollgate.Proofs.ResultDecoding
import Tollgate.Proofs.Numerals
import Tollgate.Proofs.ValueText
import Tollgate.Proofs.MergedFaults
import Tollgate.Proofs.ParamDocuments
import Tollgate.Proofs.EarlyFailures
import Tollgate.Proofs.ScratchSpace
import Tollgate.Proofs.NativeScalars
import Tollgate.Proofs.StepCount
import Tollgate.Proofs.ScalarResults
import Tollgate.Proofs.RuleRuns
