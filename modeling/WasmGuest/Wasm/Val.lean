import WasmGuest.Wasm.Types

/-!
# Values of the machine

The values on the operand stack, in locals and in globals.  Floating-point
numbers are held as their bit patterns.
-/

namespace WasmGuest.Wasm

inductive Val where
  | i32 (n : UInt32)
  | i64 (n : UInt64)
  | f32 (bits : UInt32)
  | f64 (bits : UInt64)
  | v128 (bits : BitVec 128)
  /-- A reference to a function of the instance, or null. -/
  | funcref (index : Option Nat)
  /-- The null reference: the host hands out no other. -/
  | externref
  deriving DecidableEq, Repr

namespace Val

instance : Inhabited Val := ⟨.i32 0⟩

/-- The type of a value. -/
def type : Val → ValType
  | i32 _ => .i32
  | i64 _ => .i64
  | f32 _ => .f32
  | f64 _ => .f64
  | v128 _ => .v128
  | funcref _ => .funcref
  | externref => .externref

/-- The value that a local of the type starts with. -/
def zero : ValType → Val
  | .i32 => i32 0
  | .i64 => i64 0
  | .f32 => f32 0
  | .f64 => f64 0
  | .v128 => v128 0
  | .funcref => funcref none
  | .externref => externref

end Val

end WasmGuest.Wasm
