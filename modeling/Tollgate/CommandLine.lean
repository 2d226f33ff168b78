import Tollgate.Document.Json
import Tollgate.Lifecycle
import Tollgate.Settings.File

namespace Tollgate

structure RunRequest where
  module : String
  entry : String
  args : List Value := []
  returns : List ValueType := []
  fee : Nat := 1000000
  memory : Nat := 1048576
  timeout : Int := 0
  blockHeight : Nat := 0
  caller : String := ""
  config : Option String := none
deriving Repr, DecidableEq, Inhabited

inductive Invocation
  | run (r : RunRequest)
  | help
  | version
  | misuse (reason : String)
deriving Repr, Inhabited

namespace CommandLine

inductive OptionName
  | config
  | entry
  | arg
  | returns
  | fee
  | memory
  | timeout
  | blockHeight
  | caller
deriving Repr, DecidableEq, Inhabited

def OptionName.ofLong? : String → Option OptionName
  | "config" => some .config
  | "entry" => some .entry
  | "arg" => some .arg
  | "returns" => some .returns
  | "fee" => some .fee
  | "memory" => some .memory
  | "timeout-ms" => some .timeout
  | "block-height" => some .blockHeight
  | "caller" => some .caller
  | _ => none

def OptionName.ofShort? : Char → Option OptionName
  | 'c' => some .config
  | 'e' => some .entry
  | 'a' => some .arg
  | 'r' => some .returns
  | _ => none

def OptionName.repeats : OptionName → Bool
  | .arg => true
  | .returns => true
  | _ => false

-- A request while it is read; `seen` are the options given on the current level.
structure Draft where
  isRun : Bool := false
  module : Option String := none
  entry : Option String := none
  request : RunRequest := { module := "", entry := "" }
  seen : List OptionName := []
deriving Repr, Inhabited

-- Only the configuration can be named before the subcommand.
def Draft.knows (d : Draft) (o : OptionName) : Bool := d.isRun || o == .config

def wholeNumber? (low high : Int) (text : String) : Option Int :=
  (Text.readInteger low high text).toOption

def leastWord : Int := -9223372036854775808

def greatestWord : Int := 9223372036854775807

-- A page budget is read as a signed word and must then fit in 32 bits.
def readMemory? (text : String) : Option Nat := do
  let n ← wholeNumber? leastWord greatestWord text
  if 0 ≤ n ∧ n ≤ 4294967295 then some n.toNat else none

def Draft.take (d : Draft) (o : OptionName) (value : String) : Except String Draft :=
  let refuse : Except String Draft := .error s!"invalid value '{value}'"
  let keep (r : RunRequest) : Except String Draft :=
    .ok { d with request := r, seen := o :: d.seen }
  let r := d.request
  if !o.repeats && d.seen.contains o then .error "an option cannot be used multiple times"
  else match o with
    | .config => if value.isEmpty then refuse else keep { r with config := some value }
    | .entry => .ok { d with entry := some value, seen := o :: d.seen }
    | .arg =>
      match Value.read value with
      | .ok v => keep { r with args := r.args ++ [v] }
      | .error _ => refuse
    | .returns =>
      match ValueType.read value with
      | .ok t => keep { r with returns := r.returns ++ [t] }
      | .error _ => refuse
    | .fee =>
      match wholeNumber? 0 maxCounter value with
      | some n => keep { r with fee := n.toNat }
      | none => refuse
    | .memory =>
      match readMemory? value with
      | some n => keep { r with memory := n }
      | none => refuse
    | .timeout =>
      match wholeNumber? leastWord greatestWord value with
      | some n => keep { r with timeout := n }
      | none => refuse
    | .blockHeight =>
      match wholeNumber? 0 maxCounter value with
      | some n => keep { r with blockHeight := n.toNat }
      | none => refuse
    | .caller => keep { r with caller := value }

def Draft.takePlain (d : Draft) (word : String) : Except String Draft :=
  if d.isRun then
    if d.module.isSome || word.isEmpty then .error s!"unexpected argument '{word}'"
    else .ok { d with module := some word }
  else if word == "run" then .ok { d with isRun := true, seen := [] }
  else .error s!"unrecognized subcommand '{word}'"

def Draft.finish (d : Draft) : Invocation :=
  match d.isRun, d.module, d.entry with
  | true, some m, some e => .run { d.request with module := m, entry := e }
  | _, _, _ => .misuse "required arguments were not provided"

def isValueWord (word : String) : Bool :=
  match word.toList with
  | '-' :: _ :: _ => false
  | _ => true

-- An option word: its option, and a value that is part of the word.
inductive Word
  | plain
  | rest
  | help
  | version
  | option (o : OptionName) (value : Option String)
  | unknown

def splitLong (cs : List Char) : String × Option String :=
  let name := String.ofList (cs.takeWhile (· ≠ '='))
  match cs.dropWhile (· ≠ '=') with
  | [] => (name, none)
  | _ :: value => (name, some (String.ofList value))

def classify (d : Draft) (word : String) : Word :=
  match word.toList with
  | ['-', '-'] => .rest
  | '-' :: '-' :: cs =>
    match splitLong cs with
    | ("help", none) => .help
    | ("version", none) => if d.isRun then .unknown else .version
    | (name, value) =>
      match OptionName.ofLong? name with
      | some o => if d.knows o then .option o value else .unknown
      | none => .unknown
  | '-' :: c :: cs =>
    if c = 'h' then .help
    else if c = 'V' then if d.isRun then .unknown else .version
    else match OptionName.ofShort? c with
      | none => .unknown
      | some o =>
        if !d.knows o then .unknown
        else match cs with
          | [] => .option o none
          | '=' :: value => .option o (some (String.ofList value))
          | value => .option o (some (String.ofList value))
  | _ => .plain

-- Words after a double dash are never options.
def plainWords (d : Draft) : List String → Invocation
  | [] => d.finish
  | word :: words =>
    if !d.isRun then .misuse s!"unexpected argument '{word}'"
    else match d.takePlain word with
      | .ok d => plainWords d words
      | .error reason => .misuse reason

-- The words behind `help` must name a subcommand.
def helpFor : List String → Invocation
  | [] => .help
  | ["run"] => .help
  | ["help"] => .help
  | _ => .misuse "unrecognized subcommand"

def parseFrom (d : Draft) : List String → Invocation
  | [] => d.finish
  | word :: words =>
    match classify d word with
    | .help => .help
    | .version => .version
    | .unknown => .misuse s!"unexpected argument '{word}'"
    | .rest => plainWords d words
    | .plain =>
      if !d.isRun && word == "help" then helpFor words
      else match d.takePlain word with
        | .ok d => parseFrom d words
        | .error reason => .misuse reason
    | .option o (some value) =>
      match d.take o value with
      | .ok d => parseFrom d words
      | .error reason => .misuse reason
    | .option o none =>
      match words with
      | value :: words =>
        if isValueWord value then
          match d.take o value with
          | .ok d => parseFrom d words
          | .error reason => .misuse reason
        else .misuse s!"a value is required for '{word}'"
      | [] => .misuse s!"a value is required for '{word}'"

def parse (words : List String) : Invocation := parseFrom {} words

-- The part of a path's last component behind its last point, unless it starts with that point.
def extension? (path : String) : Option String :=
  let parts := (path.splitOn "/").filter fun part => !part.isEmpty && part != "."
  match parts.getLast? with
  | none => none
  | some name =>
    if name == ".." then none
    else match (name.splitOn ".").reverse with
      | last :: before => if before == [""] || before.isEmpty then none else some last
      | [] => none

abbrev Files := String → Option (List UInt8)

def loadModule (vm : Vm) (files : Files) (path : String) : Vm × Except Fault Contract :=
  match files path with
  | none => (vm, .error (.moduleNotFound path))
  | some bytes =>
    if extension? path == some "wat" then
      match Text.ofUtf8 bytes with
      | .error flaw =>
        (vm, .error ((Fault.invalidBytecode "module text is not UTF-8").withSource flaw.message))
      | .ok text => vm.compileSource text
    else vm.compile bytes

def loadAll (files : Files) (vm : Vm) : List ModuleEntry → Vm × Except Fault Unit
  | [] => (vm, .ok ())
  | entry :: rest =>
    match loadModule vm files entry.path with
    | (vm, .error f) => (vm, .error f)
    | (vm, .ok _) => loadAll files vm rest

def warmup (files : Files) (modules : List ModuleEntry) : StartHook where
  name := "module-warmup"
  act e :=
    let (vm, result) := loadAll files e.vm modules
    ({ e with vm := vm }, result)

def readConfig (files : Files) : Option String → Except ConfigFlaw ConfigFile
  | none => .ok {}
  | some path =>
    match (files path).bind fun bytes => (Text.ofUtf8 bytes).toOption with
    | none => .error (.unreadable path)
    | some text => ConfigFile.read text

def params (r : RunRequest) : CallParams where
  entry := r.entry
  feeLimit := r.fee
  memoryLimit := r.memory
  timeout := r.timeout
  caller := r.caller
  blockHeight := r.blockHeight
  args := r.args
  returnTypes := r.returns

-- Numbers as they can be written: every float is a double, and what is no finite number is null.
def written : Document → Document
  | .single bits => ofDouble (Binary.convert .single .double bits.toNat)
  | .double bits => ofDouble bits.toNat
  | d => d
where
  ofDouble (bits : Nat) : Document :=
    match Binary.double.decode bits with
    | .finite .. => .double (UInt64.ofNat bits)
    | _ => .null

def valueDocument (v : Value) : Document :=
  match v.toDocument with
  | .fields entries => .fields (entries.map fun e => (e.1, written e.2))
  | d => d

def outcomeDocument (o : ExecutionOutcome) : Document :=
  .fields [("duration_ms", .nat (o.duration / nanosPerMilli)),
    ("events", .list (o.events.map fun e =>
      .fields [("data", .list (e.data.map fun b => .nat b.toNat)), ("topic", .text e.topic)])),
    ("instance_id", .text o.instanceId),
    ("logs", .list (o.logs.map fun l =>
      .fields [("level", .text l.level.name), ("message", .text l.message)])),
    ("memory_used", .nat o.memoryUsed), ("metadata", Document.ofTable .text o.metadata),
    ("module_id", .text o.moduleId), ("resource_used", .nat o.resourceUsed),
    ("values", .list (o.values.map valueDocument)), ("warnings", .texts o.warnings)]

def faultDocument (f : Fault) : Document :=
  .fields [("error", .fields [("code", .text f.code), ("details", Document.orNull .text f.details),
    ("kind", .text f.kind.name), ("message", .text f.message),
    ("recovery_hints", .texts f.hints)])]

structure Exit where
  code : Nat
  output : Option Document := none
  complaint : String := ""
deriving Repr, Inhabited

def execute (config : ConfigFile) (files : Files) (r : RunRequest) (id : String) (now : Nat) :
    Exit :=
  match Vm.withHost config.runtime with
  | .error f => { code := 1, complaint := "Failed to create Vm: " ++ f.text }
  | .ok vm =>
    let life := Lifecycle.ofSettings config.runtime (.ofSettings config.runtime vm)
    let (life, started) := (life.addStartHook (warmup files config.modules)).start now
    match started.result with
    | .error f => { code := 1, complaint := "Failed to start runtime: " ++ f.text }
    | .ok () =>
      let around : Surroundings := { now := now, freshId := id, tick := life.tick }
      let (vm, loaded) := loadModule life.executor.vm files r.module
      let result : Except Fault ExecutionOutcome := match loaded with
        | .error f => .error f
        | .ok c => (Executor.executeModule { life.executor with vm := vm } c (params r) around).2
      match result with
      | .ok o => { code := 0, output := some (outcomeDocument o) }
      | .error f =>
        { code := 1, output := some (faultDocument f), complaint := "Execution failed: " ++ f.text }

def run (files : Files) (words : List String) (id : String) (now : Nat) : Exit :=
  match parse words with
  | .help => { code := 0 }
  | .version => { code := 0 }
  | .misuse reason => { code := 2, complaint := "error: " ++ reason }
  | .run r =>
    match readConfig files r.config with
    | .error flaw => { code := 1, complaint := flaw.message }
    | .ok config => execute config files r id now

-- The files that a run may look at, besides the configuration.
def neededPaths (config : ConfigFile) (r : RunRequest) : List String :=
  r.module :: config.modules.map ModuleEntry.path

end CommandLine

end Tollgate
