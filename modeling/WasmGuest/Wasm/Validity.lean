import WasmGuest.Wasm.Fault
import WasmGuest.Wasm.Module

/-!
# Validity of modules

Every function body is typed against a stack of operand types.  Behind an
instruction that never falls through the stack is *open*: it yields operands of
any type.  A module is valid if all its parts are, and `Module.validate` names
the first fault.
-/

namespace WasmGuest.Wasm.Validity

/-- The operand types of a block, the top first; `none` is a type that any other matches. -/
structure Operands where
  types : List (Option ValType)
  isOpen : Bool

namespace Operands

/-- Take the top operand, whatever its type. -/
def popAny (s : Operands) : Except Fault (Option ValType × Operands) :=
  match s.types with
  | t :: ts => .ok (t, { s with types := ts })
  | [] => if s.isOpen then .ok (none, s) else .error (.typeMismatch "operand expected")

/-- Take the top operand, which has to match a type. -/
def pop (s : Operands) (t : ValType) : Except Fault Operands := do
  let (found, s) ← s.popAny
  if found = none ∨ found = some t then .ok s
  else .error (.typeMismatch s!"expected {t.name}")

/-- Take operands for a list of types, the last of which is on top. -/
def popAll (s : Operands) (ts : List ValType) : Except Fault Operands :=
  ts.reverse.foldlM pop s

def push (s : Operands) (t : ValType) : Operands :=
  { s with types := some t :: s.types }

def pushAll (s : Operands) (ts : List ValType) : Operands :=
  { s with types := (ts.reverse.map some) ++ s.types }

/-- The stack behind an instruction that does not fall through. -/
def beyond : Operands := ⟨[], true⟩

end Operands

/-- What an instruction may refer to. -/
structure Context where
  funcs : List FuncType
  tables : List TableType
  memories : List MemoryType
  globals : List GlobalType
  /-- The number of data segments. -/
  datas : Nat
  /-- The types of the element segments. -/
  elems : List ValType
  /-- The functions whose references may be taken. -/
  referable : List Nat
  locals : List ValType := []
  /-- The operand types of a branch to each label, innermost first. -/
  labels : List (List ValType) := []
  results : List ValType := []

/-- Look up an index. -/
def find {α : Type} (space : String) (xs : List α) (i : Nat) : Except Fault α :=
  match xs[i]? with
  | some x => .ok x
  | none => .error (.noSuch space i)

namespace Context

/-- The type of the addresses of a memory. -/
def addresses (c : Context) (x : Nat) : Except Fault ValType := do
  .ok (← find "memory" c.memories x).width.intType

/-- The type of the addresses that a memory access takes. -/
def access (c : Context) (a : Access) (arg : MemArg) : Except Fault ValType := do
  let memory ← find "memory" c.memories arg.memory
  if a.bytes < 1 <<< arg.align then
    .error (.invalid "alignment is larger than natural")
  else if memory.width.bound ≤ arg.offset then .error (.outOfRange "offset")
  else .ok memory.width.intType

/-- There is such a data segment. -/
def hasData (c : Context) (x : Nat) : Except Fault Unit :=
  if x < c.datas then .ok () else .error (.noSuch "data segment" x)

/-- The type of the number that says how much is copied between spaces of these widths. -/
def countType (target source : Width) : ValType :=
  (target.narrower source).intType

/-- The type of the size of a memory or table, for which an instruction gives the width. -/
def sizeType (what : String) (found given : Width) : Except Fault ValType :=
  if found = given then .ok given.intType else .error (.invalid ("width of " ++ what))

/-- The type of the indices of a table of functions. -/
def functionTable (c : Context) (x : Nat) : Except Fault ValType := do
  let table ← find "table" c.tables x
  if table.entry = .funcref then .ok table.width.intType
  else .error (.typeMismatch "table of functions expected")

/-- A function that leaves for another one has its results. -/
def leavesFor (c : Context) (type : FuncType) : Except Fault Unit :=
  if type.results = c.results then .ok () else .error (.typeMismatch "results of a tail call")

/-- The branch targets of a table, which have to take the same number of operands. -/
def branches (c : Context) (s : Operands) (arity : Nat) :
    List Nat → Except Fault Unit
  | [] => .ok ()
  | l :: ls => do
    let types ← find "label" c.labels l
    if types.length ≠ arity then .error (.typeMismatch "branch targets differ")
    else
      let _ ← s.popAll types
      c.branches s arity ls

/-- Select from two operands of one numeric type. -/
def select (s : Operands) : Except Fault Operands := do
  let s ← s.pop .i32
  let (t, s) ← s.popAny
  let (u, s) ← s.popAny
  if (t.any ValType.isReference) ∨ (u.any ValType.isReference) then
    .error (.typeMismatch "numeric operand expected")
  else if t = u ∨ u = none then .ok { s with types := t :: s.types }
  else if t = none then .ok { s with types := u :: s.types }
  else .error (.typeMismatch "operands differ")

/-- What a block body starts with: its parameters. -/
def bodyStart (type : FuncType) : Operands :=
  ⟨type.params.reverse.map some, false⟩

/-- A block body leaves exactly its results. -/
def bodyEnd (type : FuncType) (s : Operands) : Except Fault Unit := do
  let rest ← s.popAll type.results
  if rest.types.isEmpty then .ok () else .error (.typeMismatch "operands remain")

mutual

/-- The operands after an instruction. -/
def instr (c : Context) (s : Operands) : Instr → Except Fault Operands
  | .unreachable => .ok .beyond
  | .nop => .ok s
  | .drop => do .ok (← s.popAny).2
  | .select none => select s
  | .select (some [t]) => do .ok ((← (← (← s.pop .i32).pop t).pop t).push t)
  | .select (some _) => .error (.invalid "select of several results")
  | .block type body => do
    let outer ← s.popAll type.params
    bodyEnd type (← instrs { c with labels := type.results :: c.labels } (bodyStart type) body)
    .ok (outer.pushAll type.results)
  | .loop type body => do
    let outer ← s.popAll type.params
    bodyEnd type (← instrs { c with labels := type.params :: c.labels } (bodyStart type) body)
    .ok (outer.pushAll type.results)
  | .ifElse type onTrue onFalse => do
    let outer ← (← s.pop .i32).popAll type.params
    let inner := { c with labels := type.results :: c.labels }
    bodyEnd type (← inner.instrs (bodyStart type) onTrue)
    bodyEnd type (← inner.instrs (bodyStart type) onFalse)
    .ok (outer.pushAll type.results)
  | .br l => do
    let _ ← s.popAll (← find "label" c.labels l)
    .ok .beyond
  | .brIf l => do
    let types ← find "label" c.labels l
    .ok ((← (← s.pop .i32).popAll types).pushAll types)
  | .brTable ls l => do
    let s ← s.pop .i32
    let types ← find "label" c.labels l
    c.branches s types.length ls
    let _ ← s.popAll types
    .ok .beyond
  | .ret => do
    let _ ← s.popAll c.results
    .ok .beyond
  | .call f => do
    let type ← find "function" c.funcs f
    .ok ((← s.popAll type.params).pushAll type.results)
  | .callIndirect x type => do
    let s ← s.pop (← c.functionTable x)
    .ok ((← s.popAll type.params).pushAll type.results)
  | .returnCall f => do
    let type ← find "function" c.funcs f
    c.leavesFor type
    let _ ← s.popAll type.params
    .ok .beyond
  | .returnCallIndirect x type => do
    let s ← s.pop (← c.functionTable x)
    c.leavesFor type
    let _ ← s.popAll type.params
    .ok .beyond
  | .localGet x => do .ok (s.push (← find "local" c.locals x))
  | .localSet x => do s.pop (← find "local" c.locals x)
  | .localTee x => do
    let t ← find "local" c.locals x
    .ok ((← s.pop t).push t)
  | .globalGet x => do .ok (s.push (← find "global" c.globals x).type)
  | .globalSet x => do
    let g ← find "global" c.globals x
    if g.isMutable then s.pop g.type else .error (.invalid "global is immutable")
  | .load a arg => do
    let t ← c.access a arg
    .ok ((← s.pop t).push a.type)
  | .store a arg => do
    let t ← c.access a arg
    (← s.pop a.type).pop t
  | .memorySize x w => do
    .ok (s.push (← sizeType "memory" (← find "memory" c.memories x).width w))
  | .memoryGrow x w => do
    let t ← sizeType "memory" (← find "memory" c.memories x).width w
    .ok ((← s.pop t).push t)
  | .memoryFill x => do
    let t ← c.addresses x
    s.popAll [t, .i32, t]
  | .memoryCopy x y => do
    let target ← find "memory" c.memories x
    let source ← find "memory" c.memories y
    s.popAll [target.width.intType, source.width.intType, countType target.width source.width]
  | .memoryInit x d => do
    let t ← c.addresses x
    c.hasData d
    s.popAll [t, .i32, .i32]
  | .dataDrop d => do
    c.hasData d
    .ok s
  | .tableGet x => do
    let table ← find "table" c.tables x
    .ok ((← s.pop table.width.intType).push table.entry)
  | .tableSet x => do
    let table ← find "table" c.tables x
    s.popAll [table.width.intType, table.entry]
  | .tableSize x w => do
    .ok (s.push (← sizeType "table" (← find "table" c.tables x).width w))
  | .tableGrow x w => do
    let table ← find "table" c.tables x
    let t ← sizeType "table" table.width w
    .ok ((← s.popAll [table.entry, t]).push t)
  | .tableFill x => do
    let table ← find "table" c.tables x
    s.popAll [table.width.intType, table.entry, table.width.intType]
  | .tableCopy x y => do
    let target ← find "table" c.tables x
    let source ← find "table" c.tables y
    if target.entry ≠ source.entry then .error (.typeMismatch "tables")
    else s.popAll [target.width.intType, source.width.intType,
      countType target.width source.width]
  | .tableInit x e => do
    let table ← find "table" c.tables x
    let entry ← find "element segment" c.elems e
    if table.entry ≠ entry then .error (.typeMismatch "element segment")
    else s.popAll [table.width.intType, .i32, .i32]
  | .elemDrop e => do
    let _ ← find "element segment" c.elems e
    .ok s
  | .const v => .ok (s.push v.type)
  | .refFunc f => do
    let _ ← find "function" c.funcs f
    if c.referable.contains f then .ok (s.push .funcref)
    else .error (.invalid "undeclared function reference")
  | .refIsNull => do
    let (t, s) ← s.popAny
    if t.all ValType.isReference then .ok (s.push .i32)
    else .error (.typeMismatch "reference expected")
  | .numeric op => do .ok ((← s.popAll op.type.1).push op.type.2)

/-- The operands after a sequence. -/
def instrs (c : Context) (s : Operands) : List Instr → Except Fault Operands
  | [] => .ok s
  | i :: is => do c.instrs (← c.instr s i) is

end

/-- A block body: it starts with the parameters and leaves exactly the results. -/
def blockBody (c : Context) (type : FuncType) (is : List Instr) : Except Fault Unit := do
  bodyEnd type (← c.instrs (bodyStart type) is)

/-- A function body. -/
def func (c : Context) (f : Func) : Except Fault Unit :=
  blockBody { c with
    locals := f.type.params ++ f.locals
    labels := [f.type.results]
    results := f.type.results } ⟨[], f.type.results⟩ f.body

/-- An instruction of a constant expression. -/
def isConstant (c : Context) : Instr → Bool
  | .const _ | .refFunc _ => true
  | .numeric (.intBinary _ op) => [.add, .sub, .mul].contains op
  | .globalGet x => (c.globals[x]?).any (!·.isMutable)
  | _ => false

/-- A constant expression of a type. -/
def constant (c : Context) (t : ValType) (is : List Instr) : Except Fault Unit :=
  if is.all c.isConstant then blockBody c ⟨[], [t]⟩ is
  else .error (.invalid "constant expression required")

end Context

/-- Bounds in order and below a ceiling. -/
def limits (ceiling : Nat) (l : Limits) : Except Fault Unit :=
  if ceiling < l.min ∨ l.max.any (ceiling < ·) then .error (.outOfRange "size")
  else if l.max.any (· < l.min) then .error (.invalid "minimum above maximum")
  else .ok ()

/-- The most entries that a table may have. -/
def maxEntries (w : Width) : Nat := w.bound - 1

/-- The most memories, and the most tables, that a module may have. -/
def maxSpaces : Nat := 100

/-- The most locals that a function may declare. -/
def maxLocals : Nat := 50000

/-- The function that a constant expression refers to. -/
def references (is : List Instr) : List Nat :=
  is.filterMap fun
    | .refFunc f => some f
    | _ => none

/-- The context of the functions of a module. -/
def Context.ofModule (m : Module) : Context where
  funcs := m.funcTypes
  tables := m.tableTypes
  memories := m.memoryTypes
  globals := m.globalTypes
  datas := m.datas.length
  elems := m.elems.map ElemSegment.entry
  referable :=
    m.exports.filterMap (fun e => match e.item with | .func f => some f | _ => none)
      ++ (m.globals.map fun g => references g.init).flatten
      ++ (m.elems.map fun e => (e.entries.map references).flatten).flatten

/-- The context of constant expressions, which reach imported globals only. -/
def Context.ofConstants (m : Module) : Context :=
  { Context.ofModule m with globals := m.importedGlobals }

def table (t : TableType) : Except Fault Unit :=
  limits (maxEntries t.width) t.limits

def memory (t : MemoryType) : Except Fault Unit :=
  limits t.width.mostPages t.limits

def global (c : Context) (g : Global) : Except Fault Unit :=
  c.constant g.type.type g.init

def elemSegment (c : Context) (e : ElemSegment) : Except Fault Unit := do
  e.entries.forM (c.constant e.entry)
  match e.mode with
  | .active t offset =>
    let table ← find "table" c.tables t
    if table.entry ≠ e.entry then .error (.typeMismatch "element segment")
    else c.constant table.width.intType offset
  | _ => .ok ()

def dataSegment (c : Context) (d : DataSegment) : Except Fault Unit := do
  match d.mode with
  | .active i offset =>
    c.constant (← c.addresses i) offset
  | _ => .ok ()

/-- No name is exported twice. -/
def distinctNames : List ModuleExport → Except Fault Unit
  | [] => .ok ()
  | e :: es =>
    if es.any (·.name == e.name) then .error (.duplicateName "export" e.name) else distinctNames es

def exported (m : Module) (e : ModuleExport) : Except Fault Unit :=
  match m.externType? e.item with
  | some _ => .ok ()
  | none => .error (.unknownName "export" e.name)

def startFunction (m : Module) : Except Fault Unit := do
  match m.start with
  | none => .ok ()
  | some f =>
    let type ← find "function" m.funcTypes f
    if type = ⟨[], []⟩ then .ok () else .error (.typeMismatch "start function")

end Validity

open Validity in
/-- The first fault of a module, if it has one. -/
def Module.validate (m : Module) : Except Fault Unit := do
  let c := Context.ofModule m
  let constants := Context.ofConstants m
  m.tableTypes.forM table
  m.memoryTypes.forM memory
  if maxSpaces < m.tableTypes.length then .error (.outOfRange "number of tables") else
  if maxSpaces < m.memoryTypes.length then .error (.outOfRange "number of memories") else
  m.globals.forM (global constants)
  distinctNames m.exports
  m.exports.forM (exported m)
  startFunction m
  m.elems.forM (elemSegment constants)
  m.datas.forM (dataSegment constants)
  m.funcs.forM fun f =>
    if maxLocals < f.locals.length then .error (.outOfRange "number of locals") else c.func f

end WasmGuest.Wasm
