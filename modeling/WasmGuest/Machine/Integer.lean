import WasmGuest.Machine.Trap
import WasmGuest.Wasm.Numeric

/-!
# Integer operators

Integers are words without a sign; an operator reads them as signed or unsigned.
Arithmetic wraps.  Division by zero traps, and so does the one signed quotient
that does not fit; shift distances count modulo the width.
-/

namespace WasmGuest.Machine

open Wasm

/-! ## Counting bits -/

/-- The zero bits above the highest set bit of a word of `bits` bits. -/
def leadingZeros (bits : Nat) (n : Nat) : Nat :=
  if n = 0 then bits else bits - 1 - n.log2

/-- The zero bits below the lowest set bit of a word of `bits` bits. -/
def trailingZeros : (bits : Nat) → Nat → Nat
  | 0, _ => 0
  | bits + 1, n => if n % 2 = 1 then 0 else trailingZeros bits (n / 2) + 1

/-- The set bits among the lowest `bits` bits. -/
def setBits : (bits : Nat) → Nat → Nat
  | 0, _ => 0
  | bits + 1, n => n % 2 + setBits bits (n / 2)

/-! ## Words of 32 bits -/

namespace Word32

def unary (op : IntUnary) (a : UInt32) : UInt32 :=
  match op with
  | .clz => UInt32.ofNat (leadingZeros 32 a.toNat)
  | .ctz => UInt32.ofNat (trailingZeros 32 a.toNat)
  | .popcnt => UInt32.ofNat (setBits 32 a.toNat)
  | .extend8 => a.toUInt8.toInt8.toInt32.toUInt32
  | .extend16 => a.toUInt16.toInt16.toInt32.toUInt32
  | .extend32 => a

def rotateLeft (a b : UInt32) : UInt32 :=
  (a <<< b) ||| (a >>> (32 - b % 32))

def rotateRight (a b : UInt32) : UInt32 :=
  (a >>> b) ||| (a <<< (32 - b % 32))

def divide (sign : Sign) (a b : UInt32) : Except Trap UInt32 :=
  if b = 0 then .error .divisionByZero
  else match sign with
    | .unsigned => .ok (a / b)
    | .signed =>
      if a = 0x80000000 ∧ b = 0xffffffff then .error .integerOverflow
      else .ok (a.toInt32 / b.toInt32).toUInt32

def remainder (sign : Sign) (a b : UInt32) : Except Trap UInt32 :=
  if b = 0 then .error .divisionByZero
  else match sign with
    | .unsigned => .ok (a % b)
    | .signed => .ok (a.toInt32 % b.toInt32).toUInt32

def binary (op : IntBinary) (a b : UInt32) : Except Trap UInt32 :=
  match op with
  | .add => .ok (a + b)
  | .sub => .ok (a - b)
  | .mul => .ok (a * b)
  | .div sign => divide sign a b
  | .rem sign => remainder sign a b
  | .and => .ok (a &&& b)
  | .or => .ok (a ||| b)
  | .xor => .ok (a ^^^ b)
  | .shl => .ok (a <<< b)
  | .shr .unsigned => .ok (a >>> b)
  | .shr .signed => .ok (a.toInt32 >>> b.toInt32).toUInt32
  | .rotl => .ok (rotateLeft a b)
  | .rotr => .ok (rotateRight a b)

def compare (op : IntCompare) (a b : UInt32) : Bool :=
  match op with
  | .eq => a == b
  | .ne => a != b
  | .lt .unsigned => a < b
  | .gt .unsigned => b < a
  | .le .unsigned => a ≤ b
  | .ge .unsigned => b ≤ a
  | .lt .signed => a.toInt32 < b.toInt32
  | .gt .signed => b.toInt32 < a.toInt32
  | .le .signed => a.toInt32 ≤ b.toInt32
  | .ge .signed => b.toInt32 ≤ a.toInt32

end Word32

/-! ## Words of 64 bits -/

namespace Word64

def unary (op : IntUnary) (a : UInt64) : UInt64 :=
  match op with
  | .clz => UInt64.ofNat (leadingZeros 64 a.toNat)
  | .ctz => UInt64.ofNat (trailingZeros 64 a.toNat)
  | .popcnt => UInt64.ofNat (setBits 64 a.toNat)
  | .extend8 => a.toUInt8.toInt8.toInt64.toUInt64
  | .extend16 => a.toUInt16.toInt16.toInt64.toUInt64
  | .extend32 => a.toUInt32.toInt32.toInt64.toUInt64

def rotateLeft (a b : UInt64) : UInt64 :=
  (a <<< b) ||| (a >>> (64 - b % 64))

def rotateRight (a b : UInt64) : UInt64 :=
  (a >>> b) ||| (a <<< (64 - b % 64))

def divide (sign : Sign) (a b : UInt64) : Except Trap UInt64 :=
  if b = 0 then .error .divisionByZero
  else match sign with
    | .unsigned => .ok (a / b)
    | .signed =>
      if a = 0x8000000000000000 ∧ b = 0xffffffffffffffff then .error .integerOverflow
      else .ok (a.toInt64 / b.toInt64).toUInt64

def remainder (sign : Sign) (a b : UInt64) : Except Trap UInt64 :=
  if b = 0 then .error .divisionByZero
  else match sign with
    | .unsigned => .ok (a % b)
    | .signed => .ok (a.toInt64 % b.toInt64).toUInt64

def binary (op : IntBinary) (a b : UInt64) : Except Trap UInt64 :=
  match op with
  | .add => .ok (a + b)
  | .sub => .ok (a - b)
  | .mul => .ok (a * b)
  | .div sign => divide sign a b
  | .rem sign => remainder sign a b
  | .and => .ok (a &&& b)
  | .or => .ok (a ||| b)
  | .xor => .ok (a ^^^ b)
  | .shl => .ok (a <<< b)
  | .shr .unsigned => .ok (a >>> b)
  | .shr .signed => .ok (a.toInt64 >>> b.toInt64).toUInt64
  | .rotl => .ok (rotateLeft a b)
  | .rotr => .ok (rotateRight a b)

def compare (op : IntCompare) (a b : UInt64) : Bool :=
  match op with
  | .eq => a == b
  | .ne => a != b
  | .lt .unsigned => a < b
  | .gt .unsigned => b < a
  | .le .unsigned => a ≤ b
  | .ge .unsigned => b ≤ a
  | .lt .signed => a.toInt64 < b.toInt64
  | .gt .signed => b.toInt64 < a.toInt64
  | .le .signed => a.toInt64 ≤ b.toInt64
  | .ge .signed => b.toInt64 ≤ a.toInt64

end Word64

end WasmGuest.Machine
