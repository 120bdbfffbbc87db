import WasmGuest.Floating.Format

/-!
# Floating-point arithmetic

Each operation computes its exact result in ticks and rounds it once to nearest,
ties to even.  A result that is no number is the quiet NaN.  The sign of an
exact zero sum is positive unless both terms are negative; the sign of a product
or quotient is the product of the signs.
-/

namespace WasmGuest.Floating.Format

variable (f : Format)

/-- The pattern nearest to `num / den` ticks under a sign. -/
def rounded (negative : Bool) (num den : Nat) : Nat :=
  f.signed negative (f.nearest num den)

/-- The ticks with their sign. -/
def signedTicks (negative : Bool) (ticks : Nat) : Int :=
  if negative then -(ticks : Int) else ticks

def abs (a : Nat) : Nat :=
  f.magnitude a

def neg (a : Nat) : Nat :=
  f.signed (!f.isNegative a) (f.magnitude a)

/-- The magnitude of `a` under the sign of `b`. -/
def copysign (a b : Nat) : Nat :=
  f.signed (f.isNegative b) (f.magnitude a)

def add (a b : Nat) : Nat :=
  match f.decode a, f.decode b with
  | .nan, _ | _, .nan => f.quietNaN
  | .infinite s, .infinite t => if s = t then f.signed s f.infinity else f.quietNaN
  | .infinite s, .finite .. => f.signed s f.infinity
  | .finite .., .infinite t => f.signed t f.infinity
  | .finite s m, .finite t n =>
    let sum := signedTicks s m + signedTicks t n
    f.rounded (if sum = 0 then s && t else sum < 0) sum.natAbs 1

def sub (a b : Nat) : Nat :=
  f.add a (f.neg b)

def mul (a b : Nat) : Nat :=
  match f.decode a, f.decode b with
  | .nan, _ | _, .nan => f.quietNaN
  | .infinite s, .infinite t => f.signed (s != t) f.infinity
  | .infinite s, .finite t n | .finite t n, .infinite s =>
    if n = 0 then f.quietNaN else f.signed (s != t) f.infinity
  | .finite s m, .finite t n => f.rounded (s != t) (m * n) (1 <<< f.unitLog)

def div (a b : Nat) : Nat :=
  match f.decode a, f.decode b with
  | .nan, _ | _, .nan => f.quietNaN
  | .infinite _, .infinite _ => f.quietNaN
  | .infinite s, .finite t _ => f.signed (s != t) f.infinity
  | .finite s _, .infinite t => f.signed (s != t) 0
  | .finite s m, .finite t n =>
    if n = 0 then (if m = 0 then f.quietNaN else f.signed (s != t) f.infinity)
    else f.rounded (s != t) (m <<< f.unitLog) n

/-- Newton's iteration for the integer square root, from above, for as long as it falls. -/
def descend (n : Nat) : Nat → Nat → Nat
  | 0, x => x
  | turns + 1, x =>
    let y := (x + n / x) / 2
    if y < x then descend n turns y else x

/-- The integer square root. -/
def sqrtFloor (n : Nat) : Nat :=
  descend n (n.log2 + 2) (1 <<< (n.log2 / 2 + 1))

/-- The square root.  An inexact integer root of the scaled ticks stands half a tick above its
floor: no rounding boundary lies inside that tick. -/
def sqrt (a : Nat) : Nat :=
  match f.decode a with
  | .nan => f.quietNaN
  | .infinite s => if s then f.quietNaN else f.infinity
  | .finite s n =>
    if n = 0 then a
    else if s then f.quietNaN
    else
      let scaled := n <<< f.unitLog
      let root := sqrtFloor scaled
      f.rounded false (2 * root + if root * root = scaled then 0 else 1) 2

/-- A direction in which a number is rounded to a whole one. -/
inductive Direction where
  | up | down | towardZero | toNearest
  deriving DecidableEq, Repr

/-- The whole number that `num / den` goes to under a sign. -/
def wholePart (direction : Direction) (negative : Bool) (num den : Nat) : Nat :=
  let below := num / den
  let rest := num % den
  match direction with
  | .towardZero => below
  | .up => if rest ≠ 0 ∧ !negative then below + 1 else below
  | .down => if rest ≠ 0 ∧ negative then below + 1 else below
  | .toNearest =>
    if den < 2 * rest ∨ (den = 2 * rest ∧ below % 2 = 1) then below + 1 else below

/-- Rounding to a whole number, which keeps the sign. -/
def roundWhole (direction : Direction) (a : Nat) : Nat :=
  match f.decode a with
  | .nan => f.quietNaN
  | .infinite _ => a
  | .finite s n => f.rounded s (wholePart direction s n (1 <<< f.unitLog) <<< f.unitLog) 1

/-- A key in which negative zero lies below zero. -/
def sortKey (a : Nat) : Int :=
  if f.isNegative a then -(f.magnitude a : Int) - 1 else f.magnitude a

/-- A key in which the two zeros are equal. -/
def valueKey (a : Nat) : Int :=
  if f.isNegative a then -(f.magnitude a : Int) else f.magnitude a

def min (a b : Nat) : Nat :=
  if f.isNaN a ∨ f.isNaN b then f.quietNaN else if f.sortKey a ≤ f.sortKey b then a else b

def max (a b : Nat) : Nat :=
  if f.isNaN a ∨ f.isNaN b then f.quietNaN else if f.sortKey a ≤ f.sortKey b then b else a

/-- Equality of numbers: a NaN differs from everything, the two zeros are equal. -/
def eq (a b : Nat) : Bool :=
  !f.isNaN a && !f.isNaN b && f.valueKey a == f.valueKey b

def lt (a b : Nat) : Bool :=
  !f.isNaN a && !f.isNaN b && decide (f.valueKey a < f.valueKey b)

def le (a b : Nat) : Bool :=
  !f.isNaN a && !f.isNaN b && decide (f.valueKey a ≤ f.valueKey b)

/-- The pattern nearest to an integer. -/
def ofInt (n : Int) : Nat :=
  f.rounded (n < 0) (n.natAbs <<< f.unitLog) 1

/-- The same number in another format. -/
def convert (g : Format) (a : Nat) : Nat :=
  match f.decode a with
  | .nan => g.quietNaN
  | .infinite s => g.signed s g.infinity
  | .finite s n => g.rounded s (n <<< g.unitLog) (1 <<< f.unitLog)

end WasmGuest.Floating.Format
