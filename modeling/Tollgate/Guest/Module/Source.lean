import Tollgate.Guest.Module.Body

namespace Tollgate.Guest

namespace Module

def locals? (h : Header) : List Term → Option (Header × List Term)
  | .list (.word "local" :: items) :: rest => do
    locals? { h with locals := h.locals ++ (← declarations? items) } rest
  | rest => some (h, rest)

def inlineExports? : List Term → Option (List String × List Term)
  | .list [.word "export", name] :: rest => do
    let (names, rest) ← inlineExports? rest
    return ((← name.text?) :: names, rest)
  | rest => some ([], rest)

def limits? : List Term → Option (Limits × List Term)
  | .word "i32" :: rest => bounds? rest
  | rest => bounds? rest
where
  bounds? : List Term → Option (Limits × List Term)
    | least :: most :: rest => do
      match most.natural? with
      | some n => return (⟨← least.natural?, some n⟩, rest)
      | none => return (⟨← least.natural?, none⟩, most :: rest)
    | [least] => do return (⟨← least.natural?, none⟩, [])
    | [] => none

def memoryType? (items : List Term) : Option Limits := do
  match ← limits? items with
  | (l, []) => some l
  | _ => none

def tableType? (items : List Term) : Option TableType := do
  match ← limits? items with
  | (l, [element]) =>
    let type ← element.type?
    if type.isReference then some ⟨type, l⟩ else none
  | _ => none

def globalType? : Term → Option GlobalType
  | .list [.word "mut", t] => t.type?.map fun type => ⟨type, true⟩
  | t => t.type?.map fun type => ⟨type, false⟩

def importType? (d : Directory) : List Term → Option ImportType
  | .word "func" :: items => do
    match ← typeUse? d items with
    | (h, []) => some (.function h.type)
    | _ => none
  | .word "table" :: items => (tableType? items).map fun t => .table t.element t.limits
  | .word "memory" :: items => (memoryType? items).map .memory
  | [.word "global", t] => (globalType? t).map .global
  | _ => none

def initialOp? (d : Directory) (name : String) (items : List Term) :
    Option ((List Initial → Option (List Initial)) × List Term) :=
  let push (i : Initial) (rest : List Term) :
      Option ((List Initial → Option (List Initial)) × List Term) :=
    some (fun stack => some (i :: stack), rest)
  let combine (w : Width) (op : IntBinary) :
      Option ((List Initial → Option (List Initial)) × List Term) :=
    some (fun stack => match stack with
      | b :: a :: rest => some (.combined w op a b :: rest)
      | _ => none, items)
  match name, items with
  | "i32.const", item :: rest => do push (.value (.i32 (.ofInt (← item.constant? 32)))) rest
  | "i64.const", item :: rest => do push (.value (.i64 (.ofInt (← item.constant? 64)))) rest
  | "f32.const", item :: rest => do push (.value (.f32 (.ofNat (← item.float? .single)))) rest
  | "f64.const", item :: rest => do push (.value (.f64 (.ofNat (← item.float? .double)))) rest
  | "global.get", item :: rest => do push (.imported (← lookup? d.globals item)) rest
  | "ref.null", .word "func" :: rest => push (.value (.blank .funcref)) rest
  | "ref.func", item :: rest => do push (.function (← lookup? d.functions item)) rest
  | "i32.add", _ => combine .w32 .add
  | "i32.sub", _ => combine .w32 .sub
  | "i32.mul", _ => combine .w32 .mul
  | "i64.add", _ => combine .w64 .add
  | "i64.sub", _ => combine .w64 .sub
  | "i64.mul", _ => combine .w64 .mul
  | _, _ => none

def initials? (d : Directory) : Nat → List Initial → List Term → Option (List Initial)
  | 0, _, _ => none
  | fuel + 1, stack, items =>
    match items with
    | [] => some stack
    | .list (.word name :: inner) :: rest => do
      let (apply, operands) ← initialOp? d name inner
      initials? d fuel (← apply (← initials? d fuel stack operands)) rest
    | .word name :: rest => do
      let (apply, rest) ← initialOp? d name rest
      initials? d fuel (← apply stack) rest
    | _ => none

-- What the reading of fields goes by: the names in all of them, and the number of terms at most.
structure Reading where
  directory : Directory
  fuel : Nat

def Reading.initial? (r : Reading) (items : List Term) : Option Initial := do
  match ← initials? r.directory r.fuel [] items with
  | [value] => some value
  | _ => none

def Reading.offset? (r : Reading) : Term → Option Initial
  | .list (.word "offset" :: items) => r.initial? items
  | t@(.list _) => r.initial? [t]
  | _ => none

def Reading.item? (r : Reading) : Term → Option Initial
  | .list (.word "item" :: items) => r.initial? items
  | t@(.list _) => r.initial? [t]
  | _ => none

def Reading.elements? (r : Reading) : List Term → Option (List Initial)
  | .word "func" :: items =>
    (items.mapM (lookup? r.directory.functions)).map fun found => found.map .function
  | .word "funcref" :: items => items.mapM r.item?
  | items => (items.mapM (lookup? r.directory.functions)).map fun found => found.map .function

def Reading.function? (r : Reading) (items : List Term) : Option Function := do
  let (h, items) ← typeUse? r.directory items
  let (h, items) ← locals? h items
  let names := (h.params ++ h.locals).map Prod.fst
  if distinct names then
    -- A branch beyond the outermost block leaves the function.
    let body ← unmarked? (← code? ⟨r.directory, names, [none]⟩ r.fuel items)
    return ⟨h.type, h.locals.map Prod.snd, body⟩
  else none

def withExports (m : Module) (names : List String) (target : Export) : Module :=
  { m with exports := m.exports ++ names.map fun n => (n, target) }

-- Imports come before everything that is defined.
def addImport? (m : Module) (i : Import) : Option Module :=
  if m.functions.isEmpty && m.tables.isEmpty && m.memories.isEmpty && m.globals.isEmpty then
    some { m with imports := m.imports ++ [i] }
  else none

def addElements (m : Module) (place : Option (Nat × Initial)) (items : List Initial) : Module :=
  { m with elements := m.elements ++ [⟨place, items⟩] }

def addData (m : Module) (place : Option (Nat × Initial)) (bytes : List UInt8) : Module :=
  { m with data := m.data ++ [⟨place, bytes⟩] }

def origin : Initial := .value (.i32 0)

def Reading.define? (r : Reading) (m : Module) (kind : String) (items : List Term) :
    Option Module :=
  match kind, items with
  | "func", items => do
    return { m with functions := m.functions ++ [← r.function? items] }
  | "table", [element, .list (.word "elem" :: items)] => do
    let type ← element.type?
    let found ← match items with
      | .list _ :: _ => items.mapM r.item?
      | _ => (items.mapM (lookup? r.directory.functions)).map fun found => found.map .function
    let table : TableType := ⟨type, ⟨found.length, some found.length⟩⟩
    return ({ m with tables := m.tables ++ [table] }).addElements
      (some (m.allTables.length, origin)) found
  | "table", items => do return { m with tables := m.tables ++ [← tableType? items] }
  | "memory", [.list (.word "data" :: pieces)] => do
    let bytes := (← pieces.mapM Term.bytes?).flatten
    let pages := (bytes.length + 65535) / 65536
    let limits : Limits := ⟨pages, some pages⟩
    return ({ m with memories := m.memories ++ [limits] }).addData
      (some (m.allMemories.length, origin)) bytes
  | "memory", items => do return { m with memories := m.memories ++ [← memoryType? items] }
  | "global", type :: items => do
    let g : Global := ⟨← globalType? type, ← r.initial? items⟩
    return { m with globals := m.globals ++ [g] }
  | _, _ => none

def next? (m : Module) : String → Option Export
  | "func" => some (.function m.signatures.length)
  | "table" => some (.table m.allTables.length)
  | "memory" => some (.memory m.allMemories.length)
  | "global" => some (.global m.globalTypes.length)
  | _ => none

def exported? (d : Directory) (item : Term) : String → Option Export
  | "func" => (lookup? d.functions item).map .function
  | "table" => (lookup? d.tables item).map .table
  | "memory" => (lookup? d.memories item).map .memory
  | "global" => (lookup? d.globals item).map .global
  | _ => none

def Reading.segment? (r : Reading) (m : Module) : String → List Term → Option Module
  | "elem", .word "declare" :: items => do return m.addElements none (← r.elements? items)
  | "elem", .list [.word "table", table] :: offset :: items => do
    let place := (← lookup? r.directory.tables table, ← r.offset? offset)
    return m.addElements (some place) (← r.elements? items)
  | "elem", .list offset :: items => do
    return m.addElements (some (0, ← r.offset? (.list offset))) (← r.elements? items)
  | "elem", items => do return m.addElements none (← r.elements? items)
  | "data", .list [.word "memory", memory] :: offset :: pieces => do
    let place := (← lookup? r.directory.memories memory, ← r.offset? offset)
    return m.addData (some place) (← pieces.mapM Term.bytes?).flatten
  | "data", .list offset :: pieces => do
    return m.addData (some (0, ← r.offset? (.list offset))) (← pieces.mapM Term.bytes?).flatten
  | "data", pieces => do return m.addData none (← pieces.mapM Term.bytes?).flatten
  | _, _ => none

-- One field. An import or an export of an item may stand in the item's own field.
def Reading.field? (r : Reading) (m : Module) : Term → Option Module
  | .list (.word "type" :: _) => some m
  | .list [.word "import", space, field, .list (.word kind :: items)] => do
    let type ← importType? r.directory (.word kind :: (Term.takeName items).2)
    m.addImport? ⟨← space.text?, ← field.text?, type⟩
  | .list [.word "export", name, .list [.word kind, item]] => do
    return m.withExports [← name.text?] (← exported? r.directory item kind)
  | .list [.word "start", item] => do
    if m.start.isSome then none
    else return { m with start := some (← lookup? r.directory.functions item) }
  | .list (.word kind :: items) => do
    let items := (Term.takeName items).2
    match m.next? kind with
    | none => r.segment? m kind items
    | some target =>
      let (exports, items) ← inlineExports? items
      let m ← match items with
        | .list [.word "import", space, field] :: items => do
          let type ← importType? r.directory (.word kind :: items)
          m.addImport? ⟨← space.text?, ← field.text?, type⟩
        | _ => r.define? m kind items
      return m.withExports exports target
  | _ => none

def Directory.add (d : Directory) (kind : String) (name : Option String) : Directory :=
  match kind with
  | "func" => { d with functions := d.functions ++ [name] }
  | "table" => { d with tables := d.tables ++ [name] }
  | "memory" => { d with memories := d.memories ++ [name] }
  | "global" => { d with globals := d.globals ++ [name] }
  | _ => d

-- The names of one field, which may be used before it.
def Directory.note? (d : Directory) : Term → Option Directory
  | .list (.word "type" :: items) => do
    match Term.takeName items with
    | (name, [.list (.word "func" :: parts)]) =>
      match ← types? {} parts with
      | (h, []) => some { d with types := d.types ++ [(name, h.type)] }
      | _ => none
    | _ => none
  | .list [.word "import", _, _, .list (.word kind :: items)] =>
    some (d.add kind (Term.takeName items).1)
  | .list (.word kind :: items) => some (d.add kind (Term.takeName items).1)
  | _ => none

def Directory.isDistinct (d : Directory) : Bool :=
  distinct (d.types.map Prod.fst) && distinct d.functions && distinct d.tables &&
    distinct d.memories && distinct d.globals

def ofFields? (fields : List Term) (fuel : Nat) : Option Module := do
  let d ← fields.foldlM Directory.note? {}
  if d.isDistinct then
    let m ← fields.foldlM (Reading.field? ⟨d, fuel⟩) {}
    if m.isValid then some m else none
  else none

-- Reads and checks a module in text form, which may hold the binary form in strings.
def ofSource? (text : String) : Option Module := do
  let fuel := text.length + 1
  match ← Term.ofText? text with
  | [] => none
  | [.list (.word "module" :: items)] =>
    match (Term.takeName items).2 with
    | .word "binary" :: pieces => ofBytes? (← pieces.mapM Term.bytes?).flatten
    | fields => ofFields? fields fuel
  | fields => ofFields? fields fuel

-- A name is a number once it is read: the label of the block, and the places of the exports.
example : ofSource?
    "(module (memory (export \"memory\") 1) (func (export \"spin\") (loop $l (br $l))))" = some {
      functions := [⟨⟨[], []⟩, [], .loop ⟨[], []⟩ (.op (.br 0) .done) .done⟩]
      memories := [⟨1, none⟩]
      exports := [("memory", .memory 0), ("spin", .function 0)] } := by decide +kernel

-- Either form is given as bytes. The binary one is known by its mark.
def ofInput? (input : List UInt8) : Option Module :=
  if input.take 4 = magic then ofBytes? input else (Text.ofUtf8 input).toOption >>= ofSource?

end Module

-- What reads and checks modules for a machine room, or says why it cannot.
abbrev Loader := List UInt8 → Except String Module

def Module.load : Loader := fun input => (ofInput? input).elim (.error "malformed module") .ok

end Tollgate.Guest
