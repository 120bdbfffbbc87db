import WasmGuest.Wasm.Validity
import WasmGuest.Wasm.Binary.Operator

/-!
# Modules of the binary format

A module is a header followed by sections.  Each section stands at most once and
in a fixed order; custom sections stand anywhere and are skipped.
-/

namespace WasmGuest.Wasm.Binary

/-- What has been read so far; the types of functions come before their bodies. -/
structure Draft where
  types : List FuncType := []
  declared : List FuncType := []
  bodies : List (List ValType × List Instr) := []
  dataCount : Option Nat := none
  module : Module := {}

/-- What the instructions of later sections refer to. -/
def Draft.scope (d : Draft) : Scope :=
  ⟨d.types, d.module.memoryTypes, d.module.tableTypes, d.dataCount⟩

/-! ## Items -/

def moduleImport (types : List FuncType) : Reader ModuleImport := do
  let space ← name
  let item ← name
  let type ← match ← byte with
    | 0 => do pure (.func (← typeAt types (← u32)))
    | 1 => do pure (.table (← tableType))
    | 2 => do pure (.memory (← memoryType))
    | 3 => do pure (.global (← globalType))
    | _ => fail (.expected "import description")
  pure ⟨space, item, type⟩

def moduleExport : Reader ModuleExport := do
  let item ← name
  match ← byte with
  | 0 => pure ⟨item, .func (← u32)⟩
  | 1 => pure ⟨item, .table (← u32)⟩
  | 2 => pure ⟨item, .memory (← u32)⟩
  | 3 => pure ⟨item, .global (← u32)⟩
  | _ => fail (.expected "export description")

def global (scope : Scope) : Reader Global := do
  let type ← globalType
  pure ⟨type, ← expression scope⟩

/-- Entries given as function indices. -/
def funcEntries : Reader (List (List Instr)) := do
  pure ((← vector u32).map fun f => [.refFunc f])

/-- The byte that says that entries are functions. -/
def elemKind : Reader Unit := do
  if (← byte) = 0 then pure () else fail (.expected "element kind")

def elemSegment (scope : Scope) : Reader ElemSegment := do
  let entries : Reader (List (List Instr)) := vector (expression scope)
  match ← u32 with
  | 0 =>
    let offset ← expression scope
    pure ⟨.funcref, ← funcEntries, .active 0 offset⟩
  | 1 =>
    elemKind
    pure ⟨.funcref, ← funcEntries, .passive⟩
  | 2 =>
    let table ← u32
    let offset ← expression scope
    elemKind
    pure ⟨.funcref, ← funcEntries, .active table offset⟩
  | 3 =>
    elemKind
    pure ⟨.funcref, ← funcEntries, .declarative⟩
  | 4 =>
    let offset ← expression scope
    pure ⟨.funcref, ← entries, .active 0 offset⟩
  | 5 =>
    let entry ← refType
    pure ⟨entry, ← entries, .passive⟩
  | 6 =>
    let table ← u32
    let offset ← expression scope
    let entry ← refType
    pure ⟨entry, ← entries, .active table offset⟩
  | 7 =>
    let entry ← refType
    pure ⟨entry, ← entries, .declarative⟩
  | _ => fail (.expected "element segment")

def dataSegment (scope : Scope) : Reader DataSegment := do
  match ← u32 with
  | 0 =>
    let offset ← expression scope
    pure ⟨← byteVector, .active 0 offset⟩
  | 1 => pure ⟨← byteVector, .passive⟩
  | 2 =>
    let memory ← u32
    let offset ← expression scope
    pure ⟨← byteVector, .active memory offset⟩
  | _ => fail (.expected "data segment")

/-- Runs of locals of one type, written out; their number is checked first. -/
def locals : Reader (List ValType) := do
  let runs ← vector do
    let n ← u32
    pure (n, ← valType)
  if Validity.maxLocals < runs.foldl (fun n run => n + run.1) 0 then
    fail (.outOfRange "number of locals")
  else pure (runs.map fun (n, t) => List.replicate n t).flatten

/-- The locals and the body of a function. -/
def code (scope : Scope) : Reader (List ValType × List Instr) := do
  let content ← byteVector
  whole (do
    let locals ← locals
    pure (locals, ← expression scope)) (.sectionSize 10) content

/-! ## Sections -/

/-- The place of a section in the order. -/
def place? (id : Nat) : Option Nat :=
  [1, 2, 3, 4, 5, 6, 7, 8, 9, 12, 10, 11].idxOf? id

/-- The content of one section added to a draft. -/
def section? (id : Nat) (d : Draft) : Reader Draft := do
  let m := d.module
  match id with
  | 1 => pure { d with types := ← vector funcType }
  | 2 => pure { d with module := { m with imports := ← vector (moduleImport d.types) } }
  | 3 => pure { d with declared := ← vector do typeAt d.types (← u32) }
  | 4 => pure { d with module := { m with tables := ← vector tableType } }
  | 5 => pure { d with module := { m with memories := ← vector memoryType } }
  | 6 => pure { d with module := { m with globals := ← vector (global d.scope) } }
  | 7 => pure { d with module := { m with exports := ← vector moduleExport } }
  | 8 => pure { d with module := { m with start := some (← u32) } }
  | 9 => pure { d with module := { m with elems := ← vector (elemSegment d.scope) } }
  | 10 => pure { d with bodies := ← vector (code d.scope) }
  | 11 => pure { d with module := { m with datas := ← vector (dataSegment d.scope) } }
  | 12 => pure { d with dataCount := some (← u32) }
  | id => fail (.misplacedSection id)

/-- Read sections to the end; `bound` is no less than the number of bytes left. -/
def sections : (bound : Nat) → (next : Nat) → Draft → Reader Draft
  | 0, _, d => do if (← get).isEmpty then pure d else fail .unexpectedEnd
  | bound + 1, next, d => do
    if (← get).isEmpty then pure d
    else
      let id ← byte
      let content ← byteVector
      if id = 0 then
        let _ ← whole (do
          let _ ← name
          set ([] : List UInt8)) (.sectionSize 0) content
        sections bound next d
      else match place? id with
        | some place =>
          if place < next then fail (.misplacedSection id)
          else sections bound (place + 1) (← whole (section? id d) (.sectionSize id) content)
        | none => fail (.misplacedSection id)

/-- The module that a draft amounts to. -/
def Draft.finish (d : Draft) : Except Fault Module :=
  if d.declared.length ≠ d.bodies.length then .error (.countMismatch "functions and bodies")
  else if d.dataCount.any (· ≠ d.module.datas.length) then
    .error (.countMismatch "data segments")
  else .ok { d.module with
    funcs := d.declared.zipWith (fun type (locals, body) => ⟨type, locals, body⟩) d.bodies }

/-- The four bytes that begin the binary format. -/
def magic : List UInt8 := [0x00, 0x61, 0x73, 0x6d]

/-- A module from the bytes of the binary format. -/
def ofBytes (bs : List UInt8) : Except Fault Module := do
  if bs.take 4 ≠ magic then .error (.expected "binary header")
  else if (bs.drop 4).take 4 ≠ [1, 0, 0, 0] then .error .badVersion
  else
    let (d, _) ← sections bs.length 0 {} (bs.drop 8)
    d.finish

end WasmGuest.Wasm.Binary
