import WasmGuest.Wasm.Assembly
import WasmGuest.Wasm.Module
import WasmGuest.Wasm.Binary.Reader

/-!
# Instructions of the binary format

An expression is a sequence of instructions that ends with the `end` matching
no open block.
-/

namespace WasmGuest.Wasm.Binary

/-- What instructions refer to: function types by index, the memories and tables whose widths they
hold, and the number of data segments, if it was given. -/
structure Scope where
  types : List FuncType := []
  memories : List MemoryType := []
  tables : List TableType := []
  dataCount : Option Nat := none

/-- The function type under an index. -/
def typeAt (types : List FuncType) (i : Nat) : Reader FuncType :=
  match types[i]? with
  | some t => pure t
  | none => fail (.noSuch "type" i)

/-- The type of a block: nothing, one result, or a function type by index. -/
def blockType (types : List FuncType) : Reader FuncType := do
  let b ← peek
  if b = 0x40 then
    let _ ← byte
    pure ⟨[], []⟩
  else match valType? b with
    | some t =>
      let _ ← byte
      pure ⟨[], [t]⟩
    | none =>
      match ← s33 with
      | .ofNat i => typeAt types i
      | .negSucc _ => fail (.expected "block type")

/-- The immediate of a memory access.  An alignment with 64 added to it says that the index of the
memory follows. -/
def memArg : Reader MemArg := do
  let flags ← u32
  if flags < 64 then pure ⟨0, flags, ← u64⟩
  else if flags < 128 then
    let memory ← u32
    pure ⟨memory, flags - 64, ← u64⟩
  else fail (.outOfRange "alignment")

/-- The index of a memory, with the width of its addresses; validation finds out if there is
none. -/
def sizedMemory (scope : Scope) : Reader (Nat × Width) := do
  let x ← u32
  pure (x, ((scope.memories[x]?).map (·.width)).getD .w32)

/-- The index of a table, with the width of its indices. -/
def sizedTable (scope : Scope) : Reader (Nat × Width) := do
  let x ← u32
  pure (x, ((scope.tables[x]?).map (·.width)).getD .w32)

/-- A data segment may be named only if their number was given. -/
def dataIndex (scope : Scope) : Reader Nat :=
  if scope.dataCount.isSome then u32 else fail (.expected "number of data segments")

/-- The type and the table of a call through a table. -/
def indirect (scope : Scope) : Reader (Nat × FuncType) := do
  let type ← typeAt scope.types (← u32)
  pure (← u32, type)

/-- The operators behind the byte 0xfc that are not numeric. -/
def bulk (scope : Scope) (code : Nat) : Reader Instr := do
  match code with
  | 8 =>
    let d ← dataIndex scope
    pure (.memoryInit (← u32) d)
  | 9 => pure (.dataDrop (← dataIndex scope))
  | 10 =>
    let x ← u32
    pure (.memoryCopy x (← u32))
  | 11 => pure (.memoryFill (← u32))
  | 12 =>
    let e ← u32
    pure (.tableInit (← u32) e)
  | 13 => pure (.elemDrop (← u32))
  | 14 =>
    let x ← u32
    pure (.tableCopy x (← u32))
  | 15 =>
    let (x, w) ← sizedTable scope
    pure (.tableGrow x w)
  | 16 =>
    let (x, w) ← sizedTable scope
    pure (.tableSize x w)
  | 17 => pure (.tableFill (← u32))
  | _ => fail (.unknownOperator "0xfc")

/-- An operator that neither opens nor closes a block. -/
def plain (scope : Scope) (code : Nat) : Reader Instr := do
  match code with
  | 0x00 => pure .unreachable
  | 0x01 => pure .nop
  | 0x0c => pure (.br (← u32))
  | 0x0d => pure (.brIf (← u32))
  | 0x0e =>
    let labels ← vector u32
    pure (.brTable labels (← u32))
  | 0x0f => pure .ret
  | 0x10 => pure (.call (← u32))
  | 0x11 =>
    let (x, type) ← indirect scope
    pure (.callIndirect x type)
  | 0x12 => pure (.returnCall (← u32))
  | 0x13 =>
    let (x, type) ← indirect scope
    pure (.returnCallIndirect x type)
  | 0x1a => pure .drop
  | 0x1b => pure (.select none)
  | 0x1c => pure (.select (some (← vector valType)))
  | 0x20 => pure (.localGet (← u32))
  | 0x21 => pure (.localSet (← u32))
  | 0x22 => pure (.localTee (← u32))
  | 0x23 => pure (.globalGet (← u32))
  | 0x24 => pure (.globalSet (← u32))
  | 0x25 => pure (.tableGet (← u32))
  | 0x26 => pure (.tableSet (← u32))
  | 0x3f =>
    let (x, w) ← sizedMemory scope
    pure (.memorySize x w)
  | 0x40 =>
    let (x, w) ← sizedMemory scope
    pure (.memoryGrow x w)
  | 0x41 => pure (.const (.i32 (UInt32.ofInt (← s32))))
  | 0x42 => pure (.const (.i64 (UInt64.ofInt (← s64))))
  | 0x43 => pure (.const (.f32 (UInt32.ofNat (← littleEndian 4))))
  | 0x44 => pure (.const (.f64 (UInt64.ofNat (← littleEndian 8))))
  | 0xd0 =>
    match ← refType with
    | .funcref => pure (.const (.funcref none))
    | _ => pure (.const .externref)
  | 0xd1 => pure .refIsNull
  | 0xd2 => pure (.refFunc (← u32))
  | 0xfc =>
    let code ← u32
    match Numeric.ofSaturatingCode? code with
    | some op => pure (.numeric op)
    | none => bulk scope code
  | code =>
    match Access.loads[code - Access.firstLoad]?, Access.stores[code - Access.firstStore]?,
      Numeric.ofCode? code with
    | some (_, a), _, _ =>
      if Access.firstLoad ≤ code then pure (.load a (← memArg)) else unknown code
    | none, some (_, a), _ => pure (.store a (← memArg))
    | none, none, some op => pure (.numeric op)
    | none, none, none => unknown code
where
  unknown (code : Nat) : Reader Instr :=
    fail (.unknownOperator (toString code))

/-- The next assembly, or the finished sequence. -/
def orFail {α : Type} (what : String) : Option α → Reader α
  | some a => pure a
  | none => fail (.expected what)

/-- Read instructions up to the last `end`; `bound` is no less than the number of bytes left. -/
def instructions (scope : Scope) : (bound : Nat) → Assembly → Reader (List Instr)
  | 0, _ => fail .unexpectedEnd
  | bound + 1, a => do
    match ← byte with
    | 0x02 => instructions scope bound (a.enter .block none (← blockType scope.types))
    | 0x03 => instructions scope bound (a.enter .loop none (← blockType scope.types))
    | 0x04 => instructions scope bound (a.enter .onTrue none (← blockType scope.types))
    | 0x05 => instructions scope bound (← orFail "if" a.turn)
    | 0x0b =>
      match a.finish with
      | some is => pure is
      | none => instructions scope bound (← orFail "block" a.leave)
    | code => instructions scope bound (a.push (← plain scope code))

/-- An expression. -/
def expression (scope : Scope) : Reader (List Instr) := do
  instructions scope ((← get).length) {}

end WasmGuest.Wasm.Binary
