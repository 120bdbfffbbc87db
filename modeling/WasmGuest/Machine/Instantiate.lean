import WasmGuest.Machine.Run

/-!
# Instantiation

The store of a module without imports: the memories at their least sizes, the
globals at their initial values, the tables and the memories filled from the active
segments in order, and the start function run.  Only passive segments are there for
the code to copy.
-/

namespace WasmGuest.Machine

open Wasm

/-- Why a module cannot be instantiated. -/
inductive StartFault where
  /-- The least size of a memory, in pages, is above the limit. -/
  | memoryLimit (pages : Nat)
  /-- An active segment does not fit into its table or memory. -/
  | segment (t : Trap)
  /-- The start function halted. -/
  | halt (h : Halt)
  deriving DecidableEq, Repr

def StartFault.message : StartFault → String
  | memoryLimit pages =>
    "memory minimum size of " ++ toString pages ++ " pages exceeds memory limits"
  | segment t => "wasm trap: " ++ t.message
  | halt h => h.message

/-! ## Constant expressions -/

/-- The operands after a constant expression over the globals set so far. -/
def constantOperands (globals : Array Val) : List Instr → List Val → List Val
  | [], stack => stack
  | .const v :: is, stack => constantOperands globals is (v :: stack)
  | .globalGet x :: is, stack => constantOperands globals is (globals.getD x default :: stack)
  | .refFunc f :: is, stack => constantOperands globals is (.funcref (some f) :: stack)
  | .numeric op :: is, stack =>
    match numeric op stack with
    | .ok stack => constantOperands globals is stack
    | .error _ => []
  | _, _ => []

/-- The value of a constant expression over the globals set so far. -/
def constant (globals : Array Val) (is : List Instr) : Val :=
  (constantOperands globals is []).headD default

/-- The address that a constant expression computes. -/
def address (globals : Array Val) (is : List Instr) : Nat :=
  (address? (constant globals is)).getD 0

/-! ## The parts of a store -/

/-- The values of globals in order. -/
def initialGlobals (gs : List Global) : Array Val :=
  gs.foldl (fun values g => values.push (constant values g.init)) #[]

/-- A memory at its least size. -/
def initialMemory (maxMemory : Nat) (l : Limits) : Except StartFault Memory :=
  if l.min * pageSize ≤ maxMemory then .ok (.ofPages l.min l.max) else .error (.memoryLimit l.min)

/-- A table at its least size, null everywhere. -/
def initialTable (t : TableType) : Table :=
  ⟨Array.replicate t.limits.min (Val.zero t.entry), t.limits.max⟩

/-- What code can copy of a segment. -/
def SegmentMode.left {α : Type} (items : List α) : SegmentMode → List α
  | .passive => items
  | .active .. | .declarative => []

/-- The entries of an element segment. -/
def entriesOf (globals : Array Val) (e : ElemSegment) : List Val :=
  e.entries.map (constant globals)

/-- Copy an element segment. -/
def copyElems (e : ElemSegment) (store : Store) : Except StartFault Store :=
  match e.mode with
  | .active x offset =>
    let i := address store.globals offset
    let vs := entriesOf store.globals e
    if i + vs.length ≤ store.tableSize x then
      .ok { store with toContents := store.toContents.setEntries x i vs }
    else .error (.segment .tableOutOfBounds)
  | _ => .ok store

/-- Copy a data segment. -/
def copyData (d : DataSegment) (store : Store) : Except StartFault Store :=
  match d.mode with
  | .active x offset =>
    let i := address store.globals offset
    if i + d.bytes.length ≤ store.memorySize x then .ok (store.write x i d.bytes)
    else .error (.segment .memoryOutOfBounds)
  | _ => .ok store

/-! ## Instances -/

/-- The code of a module under its bounds. -/
def Code.ofModule (m : Module) (limit : Option Nat) (maxMemory : Nat) : Code :=
  ⟨m.funcs.toArray, limit, maxMemory⟩

/-- The store of a module before its segments are copied. -/
def initialStore (m : Module) (maxMemory : Nat) : Except StartFault Store := do
  let memories ← m.memories.mapM fun t => initialMemory maxMemory t.limits
  let globals := initialGlobals m.globals
  let datas := m.datas.map fun d => SegmentMode.left d.bytes d.mode
  let elems := m.elems.map fun e => SegmentMode.left (entriesOf globals e) e.mode
  .ok ⟨⟨memories, globals, m.tables.map initialTable, datas, elems⟩, 0, 0⟩

/-- The store of a new instance. -/
def instantiate (m : Module) (limit : Option Nat) (maxMemory : Nat) :
    Except StartFault Store := do
  let store ← initialStore m maxMemory
  let store ← m.elems.foldlM (fun store e => copyElems e store) store
  let store ← m.datas.foldlM (fun store d => copyData d store) store
  match m.start with
  | none => .ok store
  | some f =>
    match call (Code.ofModule m limit maxMemory) f [] store with
    | .values _ store => .ok store
    | .halt h _ => .error (.halt h)

end WasmGuest.Machine
