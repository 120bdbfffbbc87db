import WasmGuest.Floating.Arithmetic
import WasmGuest.Machine.Integer
import WasmGuest.Wasm.Val

/-!
# Numeric operators on the operand stack

Each operator takes its operands from the top of the stack, the last one pushed
first, and pushes its result.
-/

namespace WasmGuest.Machine

open Wasm
open Floating (Format)

/-- The floating-point format of a width. -/
def format : Width → Format
  | .w32 => .single
  | .w64 => .double

/-- A bit pattern of a floating-point width as a value. -/
def floatVal (w : Width) (bits : Nat) : Val :=
  match w with
  | .w32 => .f32 (UInt32.ofNat bits)
  | .w64 => .f64 (UInt64.ofNat bits)

/-- An integer, modulo the width, as a value. -/
def intVal (w : Width) (n : Int) : Val :=
  match w with
  | .w32 => .i32 (UInt32.ofInt n)
  | .w64 => .i64 (UInt64.ofInt n)

def boolVal (b : Bool) : Val :=
  .i32 (if b then 1 else 0)

/-- The bit pattern of a floating-point value of a width. -/
def floatBits? (w : Width) : Val → Option Nat
  | .f32 bits => if w = .w32 then some bits.toNat else none
  | .f64 bits => if w = .w64 then some bits.toNat else none
  | _ => none

/-- The integer of a width, read under a sign. -/
def int? (w : Width) (sign : Sign) (v : Val) : Option Int :=
  match w, sign, v with
  | .w32, .unsigned, .i32 n => some n.toNat
  | .w32, .signed, .i32 n => some n.toInt32.toInt
  | .w64, .unsigned, .i64 n => some n.toNat
  | .w64, .signed, .i64 n => some n.toInt64.toInt
  | _, _, _ => none

def floatUnary (f : Format) (op : FloatUnary) (a : Nat) : Nat :=
  match op with
  | .abs => f.abs a
  | .neg => f.neg a
  | .ceil => f.roundWhole .up a
  | .floor => f.roundWhole .down a
  | .trunc => f.roundWhole .towardZero a
  | .nearest => f.roundWhole .toNearest a
  | .sqrt => f.sqrt a

def floatBinary (f : Format) (op : FloatBinary) (a b : Nat) : Nat :=
  match op with
  | .add => f.add a b
  | .sub => f.sub a b
  | .mul => f.mul a b
  | .div => f.div a b
  | .min => f.min a b
  | .max => f.max a b
  | .copysign => f.copysign a b

def floatCompare (f : Format) (op : FloatCompare) (a b : Nat) : Bool :=
  match op with
  | .eq => f.eq a b
  | .ne => !f.eq a b
  | .lt => f.lt a b
  | .gt => f.lt b a
  | .le => f.le a b
  | .ge => f.le b a

/-- The least and the greatest integer of a width under a sign. -/
def intRange (w : Width) (sign : Sign) : Int × Int :=
  match w, sign with
  | .w32, .signed => (-2147483648, 2147483647)
  | .w32, .unsigned => (0, 4294967295)
  | .w64, .signed => (-9223372036854775808, 9223372036854775807)
  | .w64, .unsigned => (0, 18446744073709551615)

/-- The whole part of a number as an integer in range; if saturating, out-of-range numbers go to
the nearer end and a NaN goes to zero. -/
def truncate (f : Format) (range : Int × Int) (saturating : Bool) (a : Nat) :
    Except Trap Int :=
  let (lo, hi) := range
  match f.decode a with
  | .nan => if saturating then .ok 0 else .error .badConversion
  | .infinite negative =>
    if saturating then .ok (if negative then lo else hi) else .error .integerOverflow
  | .finite negative n =>
    let whole := Format.signedTicks negative (n >>> f.unitLog)
    if lo ≤ whole ∧ whole ≤ hi then .ok whole
    else if saturating then .ok (if whole < lo then lo else hi)
    else .error .integerOverflow

/-- Convert one value. -/
def convert (op : Conversion) (v : Val) : Except Halt Val :=
  match op, v with
  | .wrap, .i64 n => .ok (.i32 n.toUInt32)
  | .extend .unsigned, .i32 n => .ok (.i64 n.toUInt64)
  | .extend .signed, .i32 n => .ok (.i64 n.toInt32.toInt64.toUInt64)
  | .truncate target source sign saturating, v =>
    match floatBits? source v with
    | some a =>
      match truncate (format source) (intRange target sign) saturating a with
      | .ok n => .ok (intVal target n)
      | .error t => .error (.trap t)
    | none => .error .stuck
  | .ofInt target source sign, v =>
    match int? source sign v with
    | some n => .ok (floatVal target ((format target).ofInt n))
    | none => .error .stuck
  | .demote, .f64 bits => .ok (floatVal .w32 (Format.double.convert .single bits.toNat))
  | .promote, .f32 bits => .ok (floatVal .w64 (Format.single.convert .double bits.toNat))
  | .bitsOf .w32, .f32 bits => .ok (.i32 bits)
  | .bitsOf .w64, .f64 bits => .ok (.i64 bits)
  | .ofBits .w32, .i32 n => .ok (.f32 n)
  | .ofBits .w64, .i64 n => .ok (.f64 n)
  | _, _ => .error .stuck

/-- Push the result of an operator that may trap. -/
def pushResult {α : Type} (val : α → Val) (stack : List Val) :
    Except Trap α → Except Halt (List Val)
  | .ok a => .ok (val a :: stack)
  | .error t => .error (.trap t)

/-- The stack after an operator. -/
def numeric (op : Numeric) (stack : List Val) : Except Halt (List Val) :=
  match op, stack with
  | .intBinary .w32 op, .i32 b :: .i32 a :: stack => pushResult .i32 stack (Word32.binary op a b)
  | .intBinary .w64 op, .i64 b :: .i64 a :: stack => pushResult .i64 stack (Word64.binary op a b)
  | .intCompare .w32 op, .i32 b :: .i32 a :: stack => .ok (boolVal (Word32.compare op a b) :: stack)
  | .intCompare .w64 op, .i64 b :: .i64 a :: stack => .ok (boolVal (Word64.compare op a b) :: stack)
  | .isZero .w32, .i32 a :: stack => .ok (boolVal (a == 0) :: stack)
  | .isZero .w64, .i64 a :: stack => .ok (boolVal (a == 0) :: stack)
  | .intUnary .w32 op, .i32 a :: stack => .ok (.i32 (Word32.unary op a) :: stack)
  | .intUnary .w64 op, .i64 a :: stack => .ok (.i64 (Word64.unary op a) :: stack)
  | .floatUnary w op, a :: stack =>
    match floatBits? w a with
    | some a => .ok (floatVal w (floatUnary (format w) op a) :: stack)
    | none => .error .stuck
  | .floatBinary w op, b :: a :: stack =>
    match floatBits? w a, floatBits? w b with
    | some a, some b => .ok (floatVal w (floatBinary (format w) op a b) :: stack)
    | _, _ => .error .stuck
  | .floatCompare w op, b :: a :: stack =>
    match floatBits? w a, floatBits? w b with
    | some a, some b => .ok (boolVal (floatCompare (format w) op a b) :: stack)
    | _, _ => .error .stuck
  | .convert op, v :: stack => (convert op v).map (· :: stack)
  | _, _ => .error .stuck

end WasmGuest.Machine
