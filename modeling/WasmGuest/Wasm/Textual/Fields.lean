import WasmGuest.Wasm.Textual.Operator

/-!
# Modules of the text format

A module is a list of fields.  A first pass gathers the names of every index
space, so that a field may refer to one that stands behind it; a second pass
reads the fields.  An import or export written inside the field of its item
means the same as one with a field of its own.

The index space of types holds the types that have fields of their own, and
behind them the types that functions and blocks write out, each once and in
order of appearance.
-/

namespace WasmGuest.Wasm.Textual

/-- A field that adds an item to an index space. -/
structure ItemField where
  /-- `func`, `table`, `memory` or `global`. -/
  keyword : String
  name : Option String
  exports : List String
  source : Option (String × String)
  rest : List Tree

inductive Field where
  | type (name : Option String) (type : FuncType)
  | item (field : ItemField)
  | export (name : String) (keyword : String) (index : Tree)
  | start (index : Tree)
  | elem (rest : List Tree)
  | data (rest : List Tree)

/-- The text of a string that has to be UTF-8. -/
def utf8 (bytes : List UInt8) : Except Fault String :=
  match String.fromUTF8? ⟨bytes.toArray⟩ with
  | some s => .ok s
  | none => .error .notText

/-- An optional name at the front of a field. -/
def optionalName : List Tree → Option String × List Tree
  | .word w :: ts => if begins "$" w then (some w, ts) else (none, .word w :: ts)
  | ts => (none, ts)

/-- The exports written inside an item's field. -/
def inlineExports : List Tree → Except Fault (List String × List Tree)
  | .list [.word "export", .string b] :: ts => do
    let (names, rest) ← inlineExports ts
    .ok ((← utf8 b) :: names, rest)
  | ts => .ok ([], ts)

/-- A field of an index space. -/
def itemField (keyword : String) (ts : List Tree) : Except Fault Field := do
  let (name, ts) := optionalName ts
  let (exports, ts) ← inlineExports ts
  match ts with
  | .list [.word "import", .string space, .string item] :: ts =>
    .ok (.item ⟨keyword, name, exports, some (← utf8 space, ← utf8 item), ts⟩)
  | ts => .ok (.item ⟨keyword, name, exports, none, ts⟩)

def spaces : List String := ["func", "table", "memory", "global"]

/-- A field, as far as it can be read without the names of others. -/
def field : Tree → Except Fault Field
  | .list (.word "type" :: ts) => do
    let (name, ts) := optionalName ts
    match ts with
    | [.list (.word "func" :: ts)] =>
      let (_, type, rest) ← signature ts
      if rest.isEmpty then .ok (.type name type) else .error (.expected "function type")
    | _ => .error (.expected "function type")
  | .list [.word "import", .string space, .string item, .list (.word keyword :: ts)] => do
    if !spaces.contains keyword then .error (.expected "import description")
    else
      let (name, rest) := optionalName ts
      .ok (.item ⟨keyword, name, [], some (← utf8 space, ← utf8 item), rest⟩)
  | .list [.word "export", .string name, .list [.word keyword, index]] => do
    if !spaces.contains keyword then .error (.expected "export description")
    else .ok (.export (← utf8 name) keyword index)
  | .list [.word "start", index] => .ok (.start index)
  | .list (.word "elem" :: ts) => .ok (.elem ts)
  | .list (.word "data" :: ts) => .ok (.data ts)
  | .list (.word keyword :: ts) =>
    if spaces.contains keyword then itemField keyword ts else .error (.expected "module field")
  | _ => .error (.expected "module field")

/-! ## Names -/

/-- The names of the items of one index space. -/
def itemNames (keyword : String) (fields : List Field) : List (Option String) :=
  fields.filterMap fun
    | .item f => if f.keyword = keyword then some f.name else none
    | _ => none

/-- No name is given twice. -/
def distinct (space : String) : List (Option String) → Except Fault Unit
  | [] => .ok ()
  | none :: names => distinct space names
  | some n :: names =>
    if names.contains (some n) then .error (.duplicateName space n) else distinct space names

/-- The types that a field writes out where it refers to none. -/
def Field.writtenTypes (depth : Nat) : Field → List FuncType
  | .item f =>
    if f.keyword ≠ "func" then []
    else
      let own := (writtenType? f.rest).toList
      let body := f.rest.dropWhile (Tree.headedBy ["type", "param", "result", "local"])
      match f.source, flatten depth body with
      | none, .ok ops => own ++ ops.filterMap Op.writtenType?
      | _, _ => own
  | _ => []

/-- Put a type behind others unless it is among them. -/
def addType (types : List (Option String × FuncType)) (type : FuncType) :
    List (Option String × FuncType) :=
  if types.any (·.2 = type) then types else types ++ [(none, type)]

/-- The index space of types. -/
def typeSpace (depth : Nat) (fields : List Field) : List (Option String × FuncType) :=
  let declared := fields.filterMap fun
    | .type name type => some (name, type)
    | _ => none
  (fields.flatMap (Field.writtenTypes depth)).foldl addType declared

/-- An address of the width may be asked for in front of limits. -/
def widthUse : List Tree → Width × List Tree
  | .word "i64" :: ts => (.w64, ts)
  | .word "i32" :: ts => (.w32, ts)
  | ts => (.w32, ts)

/-- The names of memories or tables, with the width of their addresses or indices. -/
def spaceNames (keyword : String) (fields : List Field) : List (Option String × Width) :=
  fields.filterMap fun
    | .item f => if f.keyword = keyword then some (f.name, (widthUse f.rest).1) else none
    | _ => none

/-- The element segment that is written inside the field of its table. -/
def ItemField.hasElems (f : ItemField) : Bool :=
  f.keyword = "table" && f.rest.any (Tree.headedBy ["elem"])

/-- The data segment that is written inside the field of its memory. -/
def ItemField.hasData (f : ItemField) : Bool :=
  f.keyword = "memory" && f.rest.any (Tree.headedBy ["data"])

/-- The names of element segments. -/
def elemNames (fields : List Field) : List (Option String) :=
  fields.filterMap fun
    | .elem ts => some (optionalName ts).1
    | .item f => if f.hasElems then some none else none
    | _ => none

/-- The names of data segments. -/
def dataNames (fields : List Field) : List (Option String) :=
  fields.filterMap fun
    | .data ts => some (optionalName ts).1
    | .item f => if f.hasData then some none else none
    | _ => none

/-- The names of all index spaces of a module. -/
def names (depth : Nat) (fields : List Field) : Except Fault Names := do
  let found : Names :=
    { types := typeSpace depth fields
      funcs := itemNames "func" fields
      tables := spaceNames "table" fields
      memories := spaceNames "memory" fields
      globals := itemNames "global" fields
      elems := elemNames fields
      datas := dataNames fields }
  distinct "type" (found.types.map Prod.fst)
  distinct "function" found.funcs
  distinct "table" (found.tables.map Prod.fst)
  distinct "memory" (found.memories.map Prod.fst)
  distinct "global" found.globals
  distinct "element segment" found.elems
  distinct "data segment" found.datas
  .ok found

/-- Every import stands before every definition. -/
def importsFirst : List Field → Bool → Except Fault Unit
  | [], _ => .ok ()
  | .item f :: fields, defined =>
    match f.source with
    | some _ => if defined then .error (.expected "imports first") else importsFirst fields false
    | none => importsFirst fields true
  | _ :: fields, defined => importsFirst fields defined

/-! ## Items -/

/-- A bound of limits. -/
def bound : Tree → Option Nat
  | .word w => natural w.toList
  | _ => none

/-- Limits, and the rest of a field. -/
def limits : List Tree → Except Fault (Limits × List Tree)
  | t :: u :: ts =>
    match bound t, bound u with
    | some min, some max => .ok (⟨min, some max⟩, ts)
    | some min, none => .ok (⟨min, none⟩, u :: ts)
    | none, _ => .error (.expected "limits")
  | [t] =>
    match bound t with
    | some min => .ok (⟨min, none⟩, [])
    | none => .error (.expected "limits")
  | [] => .error (.expected "limits")

def refType (t : Tree) : Except Fault ValType := do
  let type ← valType t
  if type.isReference then .ok type else .error (.expected "reference type")

def tableType (ts : List Tree) : Except Fault TableType := do
  let (width, ts) := widthUse ts
  match ← limits ts with
  | (limits, [t]) => .ok ⟨limits, width, ← refType t⟩
  | _ => .error (.expected "table type")

def memoryType (ts : List Tree) : Except Fault MemoryType := do
  let (width, ts) := widthUse ts
  match ← limits ts with
  | (limits, []) => .ok ⟨limits, width⟩
  | _ => .error (.expected "memory type")

def globalType : Tree → Except Fault GlobalType
  | .list [.word "mut", t] => do .ok ⟨true, ← valType t⟩
  | t => do .ok ⟨false, ← valType t⟩

/-- A function that is defined in the module. -/
def func (depth : Nat) (names : Names) (ts : List Tree) : Except Fault Func := do
  let (paramNames, type, ts) ← typeUse names ts
  let (locals, ts) := leading "local" ts
  let locals := (← locals.mapM namedTypes).flatten
  let localNames := paramNames ++ locals.map Prod.fst
  distinct "local" localNames
  let body ← instructions depth { names with locals := localNames } ts
  .ok ⟨type, locals.map Prod.snd, body⟩

/-- The bytes of the strings of a data segment. -/
def strings (ts : List Tree) : Except Fault (List UInt8) := do
  let parts ← ts.mapM fun
    | .string b => .ok b
    | _ => .error (.expected "string")
  .ok parts.flatten

/-- The entries of a table as references to functions. -/
def funcEntries (names : Names) (ts : List Tree) : Except Fault (List (List Instr)) :=
  ts.mapM fun t => do .ok [.refFunc (← resolve "function" names.funcs t)]

/-- The entries of an element segment: expressions under a reference type, or functions, in front
of which `func` may stand. -/
def elemList (depth : Nat) (names : Names) :
    List Tree → Except Fault (ValType × List (List Instr))
  | .word "func" :: ts => do .ok (.funcref, ← funcEntries names ts)
  | t :: ts =>
    match refType t with
    | .ok type => do
      let entries ← ts.mapM fun
        | .list (.word "item" :: is) => instructions depth names is
        | .list is => instructions depth names [.list is]
        | _ => .error (.expected "element")
      .ok (type, entries)
    | .error _ => do .ok (.funcref, ← funcEntries names (t :: ts))
  | [] => .ok (.funcref, [])

/-- An offset: an expression in an `offset` list, or one folded instruction. -/
def offset? (depth : Nat) (names : Names) :
    List Tree → Option (Except Fault (List Instr) × List Tree)
  | .list (.word "offset" :: is) :: ts => some (instructions depth names is, ts)
  | .list (.word op :: is) :: ts =>
    if ["item", "ref"].contains op then none
    else some (instructions depth names [.list (.word op :: is)], ts)
  | _ => none

/-- The table or memory that an active segment names: by a bare number, or in a list such as
`(memory $m)`. -/
def inSpace (keyword : String) (names : List (Option String)) :
    List Tree → Except Fault (Option Nat × List Tree)
  | .list [.word w, x] :: ts =>
    if w = keyword then do .ok (some (← resolve keyword names x), ts)
    else .ok (none, .list [.word w, x] :: ts)
  | .word w :: ts =>
    if (w.toList.head?).any Char.isDigit then do .ok (some (← word32 w), ts)
    else .ok (none, .word w :: ts)
  | ts => .ok (none, ts)

/-- An element segment. -/
def elemSegment (depth : Nat) (names : Names) (ts : List Tree) : Except Fault ElemSegment := do
  match (optionalName ts).2 with
  | .word "declare" :: ts =>
    let (entry, entries) ← elemList depth names ts
    .ok ⟨entry, entries, .declarative⟩
  | ts =>
    let (table, ts) ← inSpace "table" (names.tables.map Prod.fst) ts
    match offset? depth names ts with
    | some (offset, ts) =>
      let (entry, entries) ← elemList depth names ts
      .ok ⟨entry, entries, .active (table.getD 0) (← offset)⟩
    | none =>
      if table.isSome then .error (.expected "offset")
      else
        let (entry, entries) ← elemList depth names ts
        .ok ⟨entry, entries, .passive⟩

/-- A data segment. -/
def dataSegment (depth : Nat) (names : Names) (ts : List Tree) : Except Fault DataSegment := do
  let (memory, ts) ← inSpace "memory" (names.memories.map Prod.fst) (optionalName ts).2
  match offset? depth names ts with
  | some (offset, ts) => .ok ⟨← strings ts, .active (memory.getD 0) (← offset)⟩
  | none =>
    if memory.isSome then .error (.expected "offset") else .ok ⟨← strings ts, .passive⟩

/-! ## The module -/

/-- The constant expression zero. -/
def zeroOffset : Width → List Instr
  | .w32 => [.const (.i32 0)]
  | .w64 => [.const (.i64 0)]

/-- A module with its lists in reverse, as they are while fields are read in order. -/
abbrev Draft := Module

/-- The index that the next item of a space will have. -/
def nextIndex (m : Module) (keyword : String) : ExternIndex :=
  match keyword with
  | "func" => .func m.funcTypes.length
  | "table" => .table m.tableTypes.length
  | "memory" => .memory m.memoryTypes.length
  | _ => .global m.globalTypes.length

/-- The type of an imported item. -/
def importType (names : Names) (f : ItemField) : Except Fault ExternType := do
  match f.keyword with
  | "func" =>
    let (_, type, rest) ← typeUse names f.rest
    if rest.isEmpty then .ok (.func type) else .error (.expected "function type")
  | "table" => .ok (.table (← tableType f.rest))
  | "memory" => .ok (.memory (← memoryType f.rest))
  | _ =>
    match f.rest with
    | [t] => .ok (.global (← globalType t))
    | _ => .error (.expected "global type")

/-- Add a defined item to a module. -/
def define (depth : Nat) (names : Names) (m : Draft) (f : ItemField) : Except Fault Draft := do
  match f.keyword with
  | "func" => .ok { m with funcs := m.funcs ++ [← func depth names f.rest] }
  | "table" =>
    match widthUse f.rest with
    | (width, [t, .list (.word "elem" :: ts)]) =>
      let entry ← refType t
      let entries ← match ts with
        | .list _ :: _ => (·.2) <$> elemList depth names (t :: ts)
        | .word "func" :: ts => funcEntries names ts
        | ts => funcEntries names ts
      let n := entries.length
      .ok { m with
        tables := m.tables ++ [⟨⟨n, some n⟩, width, entry⟩]
        elems := m.elems ++
          [⟨entry, entries, .active m.tableTypes.length (zeroOffset width)⟩] }
    | _ => .ok { m with tables := m.tables ++ [← tableType f.rest] }
  | "memory" =>
    match widthUse f.rest with
    | (width, [.list (.word "data" :: ts)]) =>
      let bytes ← strings ts
      let pages := (bytes.length + pageSize - 1) / pageSize
      .ok { m with
        memories := m.memories ++ [⟨⟨pages, some pages⟩, width⟩]
        datas := m.datas ++ [⟨bytes, .active m.memoryTypes.length (zeroOffset width)⟩] }
    | _ => .ok { m with memories := m.memories ++ [← memoryType f.rest] }
  | _ =>
    match f.rest with
    | t :: ts =>
      let type ← globalType t
      .ok { m with globals := m.globals ++ [⟨type, ← instructions depth names ts⟩] }
    | [] => .error (.expected "global type")

/-- The item that an export field names. -/
def exportIndex (names : Names) (keyword : String) (x : Tree) : Except Fault ExternIndex := do
  match keyword with
  | "func" => .ok (.func (← resolve "function" names.funcs x))
  | "table" => .ok (.table (← resolve "table" (names.tables.map Prod.fst) x))
  | "memory" => .ok (.memory (← resolve "memory" (names.memories.map Prod.fst) x))
  | _ => .ok (.global (← resolve "global" names.globals x))

/-- Add what a field says to a module. -/
def addField (depth : Nat) (names : Names) (m : Draft) : Field → Except Fault Draft
  | .type .. => .ok m
  | .item f => do
    let exports := m.exports ++ f.exports.map fun name => ⟨name, nextIndex m f.keyword⟩
    let m := { m with exports }
    match f.source with
    | some (space, name) =>
      .ok { m with imports := m.imports ++ [⟨space, name, ← importType names f⟩] }
    | none => define depth names m f
  | .export name keyword x => do
    .ok { m with exports := m.exports ++ [⟨name, ← exportIndex names keyword x⟩] }
  | .start x => do
    match m.start with
    | none => .ok { m with start := some (← resolve "function" names.funcs x) }
    | some _ => .error (.expected "one start function")
  | .elem ts => do .ok { m with elems := m.elems ++ [← elemSegment depth names ts] }
  | .data ts => do .ok { m with datas := m.datas ++ [← dataSegment depth names ts] }

/-- A module from its fields. -/
def ofFields (depth : Nat) (ts : List Tree) : Except Fault Module := do
  let fields ← ts.mapM field
  importsFirst fields false
  let names ← names depth fields
  fields.foldlM (addField depth names) {}

/-- What a text holds: the trees of a module's fields, or a binary module written as strings. -/
inductive Script where
  | fields (ts : List Tree)
  | binary (bytes : List UInt8)

/-- A text is one `module` list, or fields without the list around them. -/
def script : List Tree → Except Fault Script
  | [] => .error (.expected "module")
  | [.list (.word "module" :: ts)] => do
    match (optionalName ts).2 with
    | .word "binary" :: ts => .ok (.binary (← strings ts))
    | ts => .ok (.fields ts)
  | ts => .ok (.fields ts)

end WasmGuest.Wasm.Textual
