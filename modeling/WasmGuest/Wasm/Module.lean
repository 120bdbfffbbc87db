import WasmGuest.Wasm.Instr

/-!
# Modules

A module as it stands after reading, in either format: function types are held
in full, and every other reference is an index into an index space, in which
imported items come first.
-/

namespace WasmGuest.Wasm

structure Func where
  type : FuncType
  locals : List ValType
  body : List Instr
  deriving Repr

structure Global where
  type : GlobalType
  init : List Instr
  deriving Repr

/-- An item expected from outside, under a two-level name. -/
structure ModuleImport where
  space : String
  name : String
  type : ExternType
  deriving Repr, DecidableEq

/-- A reference into one of the four index spaces. -/
inductive ExternIndex where
  | func (index : Nat)
  | table (index : Nat)
  | memory (index : Nat)
  | global (index : Nat)
  deriving DecidableEq, Repr

structure ModuleExport where
  name : String
  item : ExternIndex
  deriving Repr, DecidableEq

/-- When a segment is copied: on instantiation, when an instruction says so, or never. -/
inductive SegmentMode where
  | active (index : Nat) (offset : List Instr)
  | passive
  | declarative
  deriving Repr

/-- Entries for a table, each computed by an expression. -/
structure ElemSegment where
  entry : ValType
  entries : List (List Instr)
  mode : SegmentMode
  deriving Repr

/-- Bytes for a memory. -/
structure DataSegment where
  bytes : List UInt8
  mode : SegmentMode
  deriving Repr

structure Module where
  imports : List ModuleImport := []
  funcs : List Func := []
  tables : List TableType := []
  memories : List MemoryType := []
  globals : List Global := []
  exports : List ModuleExport := []
  start : Option Nat := none
  elems : List ElemSegment := []
  datas : List DataSegment := []
  deriving Repr, Inhabited

namespace Module

/-- The types of all functions, imported ones first. -/
def funcTypes (m : Module) : List FuncType :=
  m.imports.filterMap (fun i => match i.type with | .func t => some t | _ => none)
    ++ m.funcs.map Func.type

/-- The types of all tables, imported ones first. -/
def tableTypes (m : Module) : List TableType :=
  m.imports.filterMap (fun i => match i.type with | .table t => some t | _ => none) ++ m.tables

/-- The types of all memories, imported ones first. -/
def memoryTypes (m : Module) : List MemoryType :=
  m.imports.filterMap (fun i => match i.type with | .memory t => some t | _ => none) ++ m.memories

/-- The types of the imported globals. -/
def importedGlobals (m : Module) : List GlobalType :=
  m.imports.filterMap fun i => match i.type with | .global g => some g | _ => none

/-- The types of all globals, imported ones first. -/
def globalTypes (m : Module) : List GlobalType :=
  m.importedGlobals ++ m.globals.map Global.type

/-- The type of an item of an index space, if there is such an item. -/
def externType? (m : Module) : ExternIndex → Option ExternType
  | .func i => (m.funcTypes[i]?).map .func
  | .table i => (m.tableTypes[i]?).map .table
  | .memory i => (m.memoryTypes[i]?).map .memory
  | .global i => (m.globalTypes[i]?).map .global

/-- The item exported under a name. -/
def export? (m : Module) (name : String) : Option ExternIndex :=
  (m.exports.find? (·.name == name)).map (·.item)

end Module

end WasmGuest.Wasm
