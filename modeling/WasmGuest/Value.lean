import WasmGuest.Floating.Arithmetic
import WasmGuest.Wasm.Val

/-!
# Host values

The values that a caller passes to an export and gets back.  A number or a
truth value takes one parameter of the export; a list of 32-bit integers takes
two, its place in guest memory and its length.
-/

namespace WasmGuest

open Wasm (Val ValType)
open Floating (Format)

/-- The kinds of host values. -/
inductive Kind where
  | i32 | i64 | f32 | f64 | bool | list
  deriving DecidableEq, Repr

/-- The name of a kind. -/
def Kind.name : Kind → String
  | i32 => "i32"
  | i64 => "i64"
  | f32 => "f32"
  | f64 => "f64"
  | bool => "bool"
  | list => "list"

/-- A host value; floating-point numbers are held as their bit patterns. -/
inductive Value where
  | i32 (n : Int32)
  | i64 (n : Int64)
  | f32 (bits : UInt32)
  | f64 (bits : UInt64)
  | bool (b : Bool)
  | list (xs : List Int32)
  deriving DecidableEq, Repr

namespace Value

def kind : Value → Kind
  | i32 _ => .i32
  | i64 _ => .i64
  | f32 _ => .f32
  | f64 _ => .f64
  | bool _ => .bool
  | list _ => .list

/-- The types of the parameters that a value takes. -/
def slots : Value → List ValType
  | i32 _ => [.i32]
  | i64 _ => [.i64]
  | f32 _ => [.f32]
  | f64 _ => [.f64]
  | bool _ => [.i32]
  | list _ => [.i32, .i32]

/-- The number of parameters that a value takes. -/
def arity (v : Value) : Nat :=
  v.slots.length

/-- Whether a value may be passed as a parameter of a type, or as one of two for a list. -/
def fits (v : Value) (t : ValType) : Bool :=
  v.slots.contains t

def isList : Value → Bool
  | list _ => true
  | _ => false

/-- The machine value that stands for a host value; a list has none outside guest memory. -/
def lower? : Value → Option Val
  | i32 n => some (.i32 n.toUInt32)
  | i64 n => some (.i64 n.toUInt64)
  | f32 bits => some (.f32 bits)
  | f64 bits => some (.f64 bits)
  | bool b => some (.i32 (if b then 1 else 0))
  | list _ => none

/-- The number that a machine value stands for. -/
def lift? : Val → Option Value
  | .i32 n => some (i32 n.toInt32)
  | .i64 n => some (i64 n.toInt64)
  | .f32 bits => some (f32 bits)
  | .f64 bits => some (f64 bits)
  | .v128 _ | .funcref _ | .externref => none

/-- Equality of values: kinds never mix, and floating-point numbers are compared as numbers, so
that a NaN differs from itself and the two zeros are equal. -/
def agrees : Value → Value → Bool
  | i32 a, i32 b => a == b
  | i64 a, i64 b => a == b
  | f32 a, f32 b => Format.single.eq a.toNat b.toNat
  | f64 a, f64 b => Format.double.eq a.toNat b.toNat
  | bool a, bool b => a == b
  | list a, list b => a == b
  | _, _ => false

/-! ## Numbers and the machine -/

theorem lower?_eq_none_iff (v : Value) : v.lower? = none ↔ v.isList = true := by
  cases v <;> simp [lower?, isList]

/-- A machine value that stands for a host value has the type of its slot. -/
theorem slots_of_lower? {v : Value} {w : Val} (h : v.lower? = some w) : v.slots = [w.type] := by
  cases v <;> cases h <;> rfl

end Value

end WasmGuest
