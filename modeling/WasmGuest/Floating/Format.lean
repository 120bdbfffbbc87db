/-!
# Binary floating-point formats

A number is held as its bit pattern, a natural number: sign bit, exponent
field, fraction field.  The smallest positive number of a format is its *tick*,
and every finite number is a whole number of ticks, so that all arithmetic is
exact arithmetic on natural numbers followed by one rounding.

* `Format.decode` reads a pattern as a `Datum`.
* `Format.nearest` is the pattern nearest to a quotient of tick counts, a tie
  going to the even significand.
* `Format.ofDecimal` reads a decimal number correctly rounded.
-/

namespace WasmGuest.Floating

/-- A binary format by the widths of its two fields. -/
structure Format where
  fractionBits : Nat
  exponentBits : Nat
  deriving DecidableEq, Repr

/-- What a bit pattern stands for; a finite number is counted in ticks. -/
inductive Datum where
  | nan
  | infinite (negative : Bool)
  | finite (negative : Bool) (ticks : Nat)
  deriving DecidableEq, Repr

namespace Format

/-- The 32-bit format. -/
def single : Format := ⟨23, 8⟩

/-- The 64-bit format. -/
def double : Format := ⟨52, 11⟩

/-- The number one is `2 ^ unitLog` ticks. -/
def unitLog (f : Format) : Nat :=
  1 <<< (f.exponentBits - 1) - 2 + f.fractionBits

/-- The weight of the sign bit. -/
def signWeight (f : Format) : Nat :=
  1 <<< (f.fractionBits + f.exponentBits)

/-- The pattern of positive infinity. -/
def infinity (f : Format) : Nat :=
  (1 <<< f.exponentBits - 1) <<< f.fractionBits

/-- The pattern of the NaN that arithmetic answers with. -/
def quietNaN (f : Format) : Nat :=
  f.infinity + 1 <<< (f.fractionBits - 1)

/-- The pattern without its sign bit. -/
def magnitude (f : Format) (bits : Nat) : Nat :=
  bits % f.signWeight

/-- Whether the sign bit is set. -/
def isNegative (f : Format) (bits : Nat) : Bool :=
  bits / f.signWeight % 2 == 1

/-- A magnitude under a sign. -/
def signed (f : Format) (negative : Bool) (magnitude : Nat) : Nat :=
  if negative then f.signWeight + magnitude else magnitude

/-- The tick count of a finite magnitude. -/
def ticks (f : Format) (magnitude : Nat) : Nat :=
  let exponent := magnitude >>> f.fractionBits
  let fraction := magnitude % 1 <<< f.fractionBits
  if exponent = 0 then fraction else (1 <<< f.fractionBits + fraction) <<< (exponent - 1)

/-- What a bit pattern stands for. -/
def decode (f : Format) (bits : Nat) : Datum :=
  let magnitude := f.magnitude bits
  if f.infinity < magnitude then .nan
  else if magnitude = f.infinity then .infinite (f.isNegative bits)
  else .finite (f.isNegative bits) (f.ticks magnitude)

/-- Whether a pattern stands for no number. -/
def isNaN (f : Format) (bits : Nat) : Bool :=
  f.infinity < f.magnitude bits

/-- The magnitude nearest to `num / den` ticks, a tie going to the even significand.

The quotient is cut at the unit `2 ^ shift` that leaves one bit more than the
fraction field holds; a significand that rounds up to the next power of two
carries into the exponent field by itself. -/
def nearest (f : Format) (num den : Nat) : Nat :=
  let shift := (num / den).log2 - f.fractionBits
  let unit := den <<< shift
  let cut := num / unit
  let rest := 2 * (num % unit)
  let significand := if unit < rest ∨ (unit = rest ∧ cut % 2 = 1) then cut + 1 else cut
  min (shift <<< f.fractionBits + significand) f.infinity

/-- The magnitude nearest to `digits * 10 ^ exponent`.

The first two tests keep the powers of ten small: from the place of its leading
digit such a number is known to lie above every finite number or below half a
tick. -/
def ofDecimal (f : Format) (digits : Nat) (exponent : Int) : Nat :=
  let top : Int := (Nat.toDigits 10 digits).length + exponent
  if digits = 0 then 0
  else if (1 <<< (f.exponentBits - 1) : Nat) < top then f.infinity
  else if top < -(f.unitLog : Int) then 0
  else match exponent with
    | .ofNat e => f.nearest ((digits * Nat.pow 10 e) <<< f.unitLog) 1
    | .negSucc e => f.nearest (digits <<< f.unitLog) (Nat.pow 10 (e + 1))

/-- The magnitude nearest to `digits * 2 ^ exponent`, with the same two tests. -/
def ofBinary (f : Format) (digits : Nat) (exponent : Int) : Nat :=
  let top : Int := digits.log2 + exponent
  if digits = 0 then 0
  else if (1 <<< (f.exponentBits - 1) : Nat) < top then f.infinity
  else if top < -(f.unitLog : Int) - 1 then 0
  else match exponent with
    | .ofNat e => f.nearest (digits <<< (e + f.unitLog)) 1
    | .negSucc e => f.nearest (digits <<< f.unitLog) (1 <<< (e + 1))

end Format

end WasmGuest.Floating
