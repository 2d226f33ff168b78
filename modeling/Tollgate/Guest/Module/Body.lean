import Tollgate.Guest.Module.Bytes
import Tollgate.Guest.Module.Term

namespace Tollgate.Guest

def Code.append : Code → Code → Code
  | .done, after => after
  | .op head next, after => .op head (next.append after)
  | .block type body next, after => .block type body (next.append after)
  | .loop type body next, after => .loop type body (next.append after)
  | .choice type yes no next, after => .choice type yes no (next.append after)

namespace Module

-- Names of items by position; an unnamed item has none.
abbrev Names := List (Option String)

def lookup? (names : Names) (t : Term) : Option Nat :=
  match t with
  | .name text =>
    let position := names.idxOf (some text)
    if position < names.length then some position else none
  | _ => t.natural?

def distinct (names : Names) : Bool := decide (names.filterMap id).Nodup

structure Directory where
  types : List (Option String × Signature) := []
  functions : Names := []
  tables : Names := []
  memories : Names := []
  globals : Names := []

structure Header where
  params : List (Option String × NativeType) := []
  results : List NativeType := []
  locals : List (Option String × NativeType) := []

def Header.type (h : Header) : Signature := ⟨h.params.map Prod.snd, h.results⟩

-- One named type, or any number of types without names.
def declarations? (items : List Term) : Option (List (Option String × NativeType)) :=
  match Term.takeName items with
  | (some name, [t]) => t.type?.map fun type => [(some name, type)]
  | (some _, _) => none
  | (none, items) => (items.mapM Term.type?).map fun types => types.map fun t => (none, t)

-- Parameters, then results; a parameter may still follow results of which there are none.
def types? (h : Header) : List Term → Option (Header × List Term)
  | .list (.word "param" :: items) :: rest =>
    if h.results.isEmpty then do
      types? { h with params := h.params ++ (← declarations? items) } rest
    else none
  | .list (.word "result" :: items) :: rest => do
    types? { h with results := h.results ++ (← items.mapM Term.type?) } rest
  | rest => some (h, rest)

-- A type by its number or name, by its parts, or by both, which must then agree.
def typeUse? (d : Directory) : List Term → Option (Header × List Term)
  | .list [.word "type", item] :: rest => do
    let (_, type) ← d.types[← lookup? (d.types.map Prod.fst) item]?
    let (h, rest) ← types? {} rest
    if h.type = type then some (h, rest)
    else if h.params.isEmpty && h.results.isEmpty then
      some ({ params := type.params.map fun t => (none, t), results := type.results }, rest)
    else none
  | items => types? {} items

def plainType? (d : Directory) (items : List Term) : Option (Signature × List Term) := do
  let (h, rest) ← typeUse? d items
  if h.params.all fun p => p.1.isNone then some (h.type, rest) else none

def compareNames : List String :=
  ["eq", "ne", "lt_s", "lt_u", "gt_s", "gt_u", "le_s", "le_u", "ge_s", "ge_u"]

def floatCompareNames : List String := ["eq", "ne", "lt", "gt", "le", "ge"]

def integerNames : List String :=
  ["clz", "ctz", "popcnt", "add", "sub", "mul", "div_s", "div_u", "rem_s", "rem_u", "and", "or",
    "xor", "shl", "shr_s", "shr_u", "rotl", "rotr"]

def floatNames : List String :=
  ["abs", "neg", "ceil", "floor", "trunc", "nearest", "sqrt", "add", "sub", "mul", "div", "min",
    "max", "copysign"]

def conversionNames : List String :=
  ["i32.wrap_i64", "i32.trunc_f32_s", "i32.trunc_f32_u", "i32.trunc_f64_s", "i32.trunc_f64_u",
    "i64.extend_i32_s", "i64.extend_i32_u", "i64.trunc_f32_s", "i64.trunc_f32_u",
    "i64.trunc_f64_s", "i64.trunc_f64_u", "f32.convert_i32_s", "f32.convert_i32_u",
    "f32.convert_i64_s", "f32.convert_i64_u", "f32.demote_f64", "f64.convert_i32_s",
    "f64.convert_i32_u", "f64.convert_i64_s", "f64.convert_i64_u", "f64.promote_f32",
    "i32.reinterpret_f32", "i64.reinterpret_f64", "f32.reinterpret_i32", "f64.reinterpret_i64"]

def saturationNames : List String :=
  ["i32.trunc_sat_f32_s", "i32.trunc_sat_f32_u", "i32.trunc_sat_f64_s", "i32.trunc_sat_f64_u",
    "i64.trunc_sat_f32_s", "i64.trunc_sat_f32_u", "i64.trunc_sat_f64_s", "i64.trunc_sat_f64_u"]

-- The names of `Reader.plainOps`, in the same order.
def plainNames : List String :=
  let typed (type : String) (names : List String) := names.map fun n => type ++ "." ++ n
  typed "i32" ("eqz" :: compareNames) ++ typed "i64" ("eqz" :: compareNames) ++
    typed "f32" floatCompareNames ++ typed "f64" floatCompareNames ++
    typed "i32" integerNames ++ typed "i64" integerNames ++
    typed "f32" floatNames ++ typed "f64" floatNames ++ conversionNames ++
    ["i32.extend8_s", "i32.extend16_s", "i64.extend8_s", "i64.extend16_s", "i64.extend32_s"]

def bareOps : List (String × Op) :=
  [("unreachable", .unreachable), ("nop", .nop), ("drop", .drop), ("return", .ret)] ++
    plainNames.zip Reader.plainOps ++ saturationNames.zip (Reader.saturations.map .convert)

def loadNames : List String :=
  ["i32.load", "i64.load", "f32.load", "f64.load", "i32.load8_s", "i32.load8_u", "i32.load16_s",
    "i32.load16_u", "i64.load8_s", "i64.load8_u", "i64.load16_s", "i64.load16_u", "i64.load32_s",
    "i64.load32_u"]

def storeNames : List String :=
  ["i32.store", "i64.store", "f32.store", "f64.store", "i32.store8", "i32.store16", "i64.store8",
    "i64.store16", "i64.store32"]

structure BodyScope where
  directory : Directory
  locals : Names
  labels : Names := []

def itemOp? (s : BodyScope) (name : String) (item : Term) : Option Op :=
  match name with
  | "i32.const" => (item.constant? 32).map fun n => .const (.i32 (UInt32.ofInt n))
  | "i64.const" => (item.constant? 64).map fun n => .const (.i64 (UInt64.ofInt n))
  | "f32.const" => (item.float? .single).map fun n => .const (.f32 (UInt32.ofNat n))
  | "f64.const" => (item.float? .double).map fun n => .const (.f64 (UInt64.ofNat n))
  | "local.get" => (lookup? s.locals item).map .localGet
  | "local.set" => (lookup? s.locals item).map .localSet
  | "local.tee" => (lookup? s.locals item).map .localTee
  | "global.get" => (lookup? s.directory.globals item).map .globalGet
  | "global.set" => (lookup? s.directory.globals item).map .globalSet
  | "call" => (lookup? s.directory.functions item).map .call
  | "br" => (lookup? s.labels item).map .br
  | "br_if" => (lookup? s.labels item).map .brIf
  | _ => none

-- An item that may be left out, and is then the first of its kind.
def index? (names : Names) : List Term → Option (Nat × List Term)
  | item :: rest =>
    match lookup? names item, item with
    | some index, _ => some (index, rest)
    | none, .name _ => none
    | none, _ => some (0, item :: rest)
  | [] => some (0, [])

def keyed (key : String) : List Term → Option Nat × List Term
  | .word text :: rest =>
    match if text.startsWith key then Term.magnitude? (text.toList.drop key.length) else none with
    | some n => (some n, rest)
    | none => (none, .word text :: rest)
  | items => (none, items)

def access? (s : BodyScope) (natural : Nat) (items : List Term) :
    Option ((Nat × Nat) × List Term) := do
  let (memory, rest) ← index? s.directory.memories items
  let (offset, rest) := keyed "offset=" rest
  let (align, rest) := keyed "align=" rest
  let aligned := align.all fun n => decide (n ≤ pow2 natural ∧ n = pow2 n.log2)
  if aligned && offset.all (decide <| · < pow2 32) then some ((memory, offset.getD 0), rest)
  else none

def accessOp? (s : BodyScope) (name : String) (items : List Term) : Option (Op × List Term) :=
  match (loadNames.zip Reader.loads).lookup name, (storeNames.zip Reader.stores).lookup name with
  | some (type, natural, signed), _ => do
    let ((memory, offset), rest) ← access? s natural items
    return (.load memory type (pow2 natural) signed offset, rest)
  | none, some (type, natural) => do
    let ((memory, offset), rest) ← access? s natural items
    return (.store memory type (pow2 natural) offset, rest)
  | none, none => none

def takeLabels (labels : Names) : List Term → List Nat × List Term
  | item :: rest =>
    match lookup? labels item with
    | some depth =>
      let (depths, rest) := takeLabels labels rest
      (depth :: depths, rest)
    | none => ([], item :: rest)
  | [] => ([], [])

def op? (s : BodyScope) (name : String) (items : List Term) : Option (Op × List Term) :=
  match bareOps.lookup name, name with
  | some op, _ => some (op, items)
  | none, "select" => do
    match ← types? {} items with
    | ({ params := [], results := [type], .. }, rest) => some (.select (some type), rest)
    | ({ params := [], results := [], .. }, rest) => some (.select none, rest)
    | _ => none
  | none, "br_table" =>
    match takeLabels s.labels items with
    | (depths, rest) =>
      match depths.reverse with
      | fallback :: others => some (.brTable others.reverse fallback, rest)
      | [] => none
  | none, "call_indirect" => do
    let (table, rest) ← index? s.directory.tables items
    let (type, rest) ← plainType? s.directory rest
    return (.callIndirect table type, rest)
  | none, "memory.size" =>
    (index? s.directory.memories items).map fun (memory, rest) => (.memorySize memory, rest)
  | none, "memory.grow" =>
    (index? s.directory.memories items).map fun (memory, rest) => (.memoryGrow memory, rest)
  | none, "memory.fill" =>
    (index? s.directory.memories items).map fun (memory, rest) => (.memoryFill memory, rest)
  | none, "memory.copy" => do
    let (target, rest) ← index? s.directory.memories items
    let (source, rest) ← index? s.directory.memories rest
    return (.memoryCopy target source, rest)
  | none, name =>
    match accessOp? s name items, items with
    | some found, _ => some found
    | none, item :: rest => (itemOp? s name item).map fun op => (op, rest)
    | none, [] => none

def BodyScope.enter? (s : BodyScope) (items : List Term) :
    Option (Option String × Signature × BodyScope × List Term) := do
  let (label, rest) := Term.takeName items
  let (type, rest) ← plainType? s.directory rest
  return (label, type, { s with labels := label :: s.labels }, rest)

-- Behind the end of a block its label may be repeated.
def afterMark? (label : Option String) : List Term → Option (List Term)
  | .name text :: rest => if label = some text then some rest else none
  | rest => some rest

-- Where code ends: with its list, or at a word that ends or divides a block.
inductive Mark
  | list
  | finish
  | divide
deriving Repr, DecidableEq, Inhabited

def unmarked? : Code × Mark × List Term → Option Code
  | (code, .list, _) => some code
  | _ => none

def isThen : Term → Bool
  | .list (.word "then" :: _) => true
  | _ => false

mutual
-- Code in the order of execution, up to its end; the fuel bounds the number of terms.
def code? (s : BodyScope) : Nat → List Term → Option (Code × Mark × List Term)
  | 0, _ => none
  | fuel + 1, items =>
    match items with
    | [] => some (.done, .list, [])
    | .word "end" :: rest => some (.done, .finish, rest)
    | .word "else" :: rest => some (.done, .divide, rest)
    | .word "block" :: rest => do
      let (label, type, inner, rest) ← s.enter? rest
      let (body, mark, rest) ← code? inner fuel rest
      if mark = .finish then
        let (next, ending) ← code? s fuel (← afterMark? label rest)
        return (.block type body next, ending)
      else none
    | .word "loop" :: rest => do
      let (label, type, inner, rest) ← s.enter? rest
      let (body, mark, rest) ← code? inner fuel rest
      if mark = .finish then
        let (next, ending) ← code? s fuel (← afterMark? label rest)
        return (.loop type body next, ending)
      else none
    | .word "if" :: rest => do
      let (label, type, inner, rest) ← s.enter? rest
      let (yes, mark, rest) ← code? inner fuel rest
      let rest ← afterMark? label rest
      let (no, mark, rest) ←
        if mark = .divide then do
          let (no, mark, rest) ← code? inner fuel rest
          pure (no, mark, ← afterMark? label rest)
        else pure (Code.done, mark, rest)
      if mark = .finish then
        let (next, ending) ← code? s fuel rest
        return (.choice type yes no next, ending)
      else none
    | .list inner :: rest => do
      let first ← folded? s fuel inner
      let (next, ending) ← code? s fuel rest
      return (first.append next, ending)
    | .word name :: rest => do
      let (op, rest) ← op? s name rest
      let (next, ending) ← code? s fuel rest
      return (.op op next, ending)
    | _ => none

-- A folded instruction runs behind the code that follows it in its list.
def folded? (s : BodyScope) : Nat → List Term → Option Code
  | 0, _ => none
  | fuel + 1, items =>
    match items with
    | .word "block" :: rest => do
      let (_, type, inner, rest) ← s.enter? rest
      return .block type (← unmarked? (← code? inner fuel rest)) .done
    | .word "loop" :: rest => do
      let (_, type, inner, rest) ← s.enter? rest
      return .loop type (← unmarked? (← code? inner fuel rest)) .done
    | .word "if" :: rest => do
      let (_, type, inner, rest) ← s.enter? rest
      let condition ← unmarked? (← code? s fuel (rest.takeWhile fun t => !isThen t))
      let (yes, no) ← match rest.dropWhile fun t => !isThen t with
        | [.list (.word "then" :: yes)] => some (yes, [])
        | [.list (.word "then" :: yes), .list (.word "else" :: no)] => some (yes, no)
        | _ => none
      let yes ← unmarked? (← code? inner fuel yes)
      let no ← unmarked? (← code? inner fuel no)
      return condition.append (.choice type yes no .done)
    | .word name :: rest => do
      let (op, operands) ← op? s name rest
      let before ← unmarked? (← code? s fuel operands)
      return before.append (.op op .done)
    | _ => none
end

end Module

end Tollgate.Guest
