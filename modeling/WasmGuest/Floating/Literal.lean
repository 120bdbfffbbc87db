import WasmGuest.Floating.Format
import WasmGuest.Text.Integer

/-!
# Reading floating-point numbers

A literal is an optional sign followed by one of the words `inf`, `infinity`
and `nan` in any case, or by decimal digits with an optional point and an
optional exponent.  At least one digit stands beside the point and in the
exponent.  The number is rounded once, to the format it is read as.
-/

namespace WasmGuest.Floating

open Text

/-- The digits at the head of a text, and what follows them. -/
def splitDigits (s : List Char) : List Char × List Char :=
  (s.takeWhile Char.isDigit, s.dropWhile Char.isDigit)

/-- The exponent part: nothing, or `e` and an integer. -/
def readExponent : List Char → Option Int
  | [] => some 0
  | c :: s => if c = 'e' ∨ c = 'E' then readInt s else none

/-- An unsigned decimal number as digits and a power of ten. -/
def readDecimal (s : List Char) : Option (Nat × Int) :=
  let (whole, s) := splitDigits s
  let (fraction, s) := match s with
    | '.' :: s => splitDigits s
    | s => ([], s)
  if whole.isEmpty && fraction.isEmpty then none
  else (readExponent s).map fun e =>
    (Nat.ofDigitChars 10 (whole ++ fraction) 0, e - fraction.length)

/-- The magnitude that an unsigned literal stands for. -/
def Format.readMagnitude (f : Format) (s : List Char) : Option Nat :=
  let word := s.map Char.toLower
  if word = ['i', 'n', 'f'] ∨ word = ['i', 'n', 'f', 'i', 'n', 'i', 't', 'y'] then some f.infinity
  else if word = ['n', 'a', 'n'] then some f.quietNaN
  else (readDecimal s).map fun (digits, exponent) => f.ofDecimal digits exponent

/-- The bit pattern that a literal stands for. -/
def Format.read (f : Format) : List Char → Option Nat
  | '-' :: s => (f.readMagnitude s).map (f.signed true)
  | '+' :: s => (f.readMagnitude s).map (f.signed false)
  | s => (f.readMagnitude s).map (f.signed false)

end WasmGuest.Floating
