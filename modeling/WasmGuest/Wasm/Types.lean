/-!
# Types of WebAssembly

Value types, function types and the types of the four kinds of items that a
module imports and exports.
-/

namespace WasmGuest.Wasm

inductive ValType where
  | i32 | i64 | f32 | f64 | v128 | funcref | externref
  deriving DecidableEq, Repr, Inhabited

namespace ValType

/-- The text of a type; a reference type is written out in full. -/
def name : ValType → String
  | i32 => "i32"
  | i64 => "i64"
  | f32 => "f32"
  | f64 => "f64"
  | v128 => "v128"
  | funcref => "(ref null func)"
  | externref => "(ref null extern)"

/-- Whether values of the type are numbers of 32 or 64 bits. -/
def isScalar : ValType → Bool
  | i32 | i64 | f32 | f64 => true
  | v128 | funcref | externref => false

def isReference : ValType → Bool
  | funcref | externref => true
  | _ => false

end ValType

structure FuncType where
  params : List ValType
  results : List ValType
  deriving DecidableEq, Repr, Inhabited

/-- The width of an integer or floating-point operand. -/
inductive Width where
  | w32 | w64
  deriving DecidableEq, Repr, Inhabited

namespace Width

def intType : Width → ValType
  | w32 => .i32
  | w64 => .i64

def floatType : Width → ValType
  | w32 => .f32
  | w64 => .f64

/-- Numbers of the width are below this bound. -/
def bound : Width → Nat
  | w32 => UInt32.size
  | w64 => UInt64.size

def narrower : Width → Width → Width
  | w64, w64 => w64
  | _, _ => w32

/-- The most pages that addresses of the width reach. -/
def mostPages : Width → Nat
  | w32 => 65536
  | w64 => 281474976710656

end Width

/-- The bounds on the size of a memory, in pages, or of a table, in entries. -/
structure Limits where
  min : Nat
  max : Option Nat
  deriving DecidableEq, Repr, Inhabited

/-- A memory: its bounds and the width of its addresses. -/
structure MemoryType where
  limits : Limits
  width : Width
  deriving DecidableEq, Repr, Inhabited

/-- A table: its bounds, the width of its indices, and the type of its entries. -/
structure TableType where
  limits : Limits
  width : Width
  entry : ValType
  deriving DecidableEq, Repr

structure GlobalType where
  isMutable : Bool
  type : ValType
  deriving DecidableEq, Repr

/-- The type of an item that crosses the border of a module. -/
inductive ExternType where
  | func (type : FuncType)
  | table (type : TableType)
  | memory (type : MemoryType)
  | global (type : GlobalType)
  deriving DecidableEq, Repr

/-- A memory is counted in pages of 64 KiB. -/
def pageSize : Nat := 65536

end WasmGuest.Wasm
