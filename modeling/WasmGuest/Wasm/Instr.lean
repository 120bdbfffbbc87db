import WasmGuest.Wasm.Val
import WasmGuest.Wasm.Numeric

/-!
# Instructions

Instructions are structured: a block holds its body as a list, and branches
name the enclosing blocks by their distance.  Types are held in full, not by
index: those of blocks and of functions called through a table, and of a memory
or table the width of its size.

All operators on numbers, references, tables, memories and segments are here, with
tail calls and indices of either width.  Operators on vectors are not, although a
vector is a value; nor is what needs shared memories, exceptions or collected
references.
-/

namespace WasmGuest.Wasm

/-- How a load or store moves a value: the type on the stack, the number of bytes in memory and,
for a load narrower than the type, how the bytes are widened. -/
structure Access where
  type : ValType
  bytes : Nat
  sign : Sign
  deriving DecidableEq, Repr

/-- The immediate of a memory access: the memory, the alignment promised, as a power of two, and the
constant added to the address. -/
structure MemArg where
  memory : Nat
  align : Nat
  offset : Nat
  deriving DecidableEq, Repr

namespace Access

/-- The loads by name, in the order of their codes. -/
def loads : List (String × Access) :=
  [("i32.load", ⟨.i32, 4, .unsigned⟩), ("i64.load", ⟨.i64, 8, .unsigned⟩),
   ("f32.load", ⟨.f32, 4, .unsigned⟩), ("f64.load", ⟨.f64, 8, .unsigned⟩),
   ("i32.load8_s", ⟨.i32, 1, .signed⟩), ("i32.load8_u", ⟨.i32, 1, .unsigned⟩),
   ("i32.load16_s", ⟨.i32, 2, .signed⟩), ("i32.load16_u", ⟨.i32, 2, .unsigned⟩),
   ("i64.load8_s", ⟨.i64, 1, .signed⟩), ("i64.load8_u", ⟨.i64, 1, .unsigned⟩),
   ("i64.load16_s", ⟨.i64, 2, .signed⟩), ("i64.load16_u", ⟨.i64, 2, .unsigned⟩),
   ("i64.load32_s", ⟨.i64, 4, .signed⟩), ("i64.load32_u", ⟨.i64, 4, .unsigned⟩)]

/-- The code of the first load. -/
def firstLoad : Nat := 0x28

/-- The stores by name, in the order of their codes. -/
def stores : List (String × Access) :=
  [("i32.store", ⟨.i32, 4, .unsigned⟩), ("i64.store", ⟨.i64, 8, .unsigned⟩),
   ("f32.store", ⟨.f32, 4, .unsigned⟩), ("f64.store", ⟨.f64, 8, .unsigned⟩),
   ("i32.store8", ⟨.i32, 1, .unsigned⟩), ("i32.store16", ⟨.i32, 2, .unsigned⟩),
   ("i64.store8", ⟨.i64, 1, .unsigned⟩), ("i64.store16", ⟨.i64, 2, .unsigned⟩),
   ("i64.store32", ⟨.i64, 4, .unsigned⟩)]

/-- The code of the first store. -/
def firstStore : Nat := 0x36

end Access

inductive Instr where
  | unreachable
  | nop
  | drop
  /-- The second of two values if the top is zero, else the first; a reference type is named. -/
  | select (type : Option (List ValType))
  | block (type : FuncType) (body : List Instr)
  | loop (type : FuncType) (body : List Instr)
  | ifElse (type : FuncType) (onTrue onFalse : List Instr)
  | br (label : Nat)
  | brIf (label : Nat)
  | brTable (labels : List Nat) (default : Nat)
  | ret
  | call (index : Nat)
  /-- Call the function in a table, which has to be of the type. -/
  | callIndirect (table : Nat) (type : FuncType)
  /-- Leave the function for another one that takes its place. -/
  | returnCall (index : Nat)
  | returnCallIndirect (table : Nat) (type : FuncType)
  | localGet (index : Nat)
  | localSet (index : Nat)
  | localTee (index : Nat)
  | globalGet (index : Nat)
  | globalSet (index : Nat)
  | load (access : Access) (arg : MemArg)
  | store (access : Access) (arg : MemArg)
  | memorySize (memory : Nat) (width : Width)
  | memoryGrow (memory : Nat) (width : Width)
  | memoryFill (memory : Nat)
  | memoryCopy (target source : Nat)
  | memoryInit (memory segment : Nat)
  | dataDrop (segment : Nat)
  | tableGet (table : Nat)
  | tableSet (table : Nat)
  | tableSize (table : Nat) (width : Width)
  | tableGrow (table : Nat) (width : Width)
  | tableFill (table : Nat)
  | tableCopy (target source : Nat)
  | tableInit (table segment : Nat)
  | elemDrop (segment : Nat)
  | const (value : Val)
  | refFunc (index : Nat)
  | refIsNull
  | numeric (op : Numeric)
  deriving Repr

instance : Inhabited Instr := ⟨.nop⟩

end WasmGuest.Wasm
