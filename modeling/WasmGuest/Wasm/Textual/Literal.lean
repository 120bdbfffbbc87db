import WasmGuest.Floating.Format
import WasmGuest.Text.Integer
import WasmGuest.Wasm.Textual.Token

/-!
# Numbers of the text format

Digits may be grouped by single underscores, and `0x` begins a hexadecimal
number.  A floating-point number is rounded to its format and is out of range
if that makes it infinite; `nan:0x…` gives the fraction field of a NaN.
-/

namespace WasmGuest.Wasm.Textual

open Floating (Format)

/-- The digits of a group without the underscores between them. -/
def ungroup : List Char → Option (List Char)
  | [] => none
  | '_' :: _ => none
  | [c] => some [c]
  | c :: '_' :: cs => (ungroup cs).map (c :: ·)
  | c :: cs => (ungroup cs).map (c :: ·)

/-- The number that digits stand for in a base. -/
def number (base : Nat) (s : List Char) : Option Nat := do
  let ds ← (← ungroup s).mapM hexDigit?
  if ds.all (· < base) then some (ds.foldl (fun n d => base * n + d) 0) else none

/-- An unsigned integer. -/
def natural : List Char → Option Nat
  | '0' :: 'x' :: s => number 16 s
  | s => number 10 s

/-- A sign and what follows it; whether the sign is a minus. -/
def splitSign : List Char → Bool × List Char
  | '-' :: s => (true, s)
  | '+' :: s => (false, s)
  | s => (false, s)

/-- An integer of `bits` bits, signed or unsigned, as the unsigned number with the same bits. -/
def integer (bits : Nat) (s : List Char) : Option Nat := do
  let (negative, s) := splitSign s
  let n ← natural s
  if negative then
    if n ≤ 1 <<< (bits - 1) then some ((1 <<< bits - n) % 1 <<< bits) else none
  else if n < 1 <<< bits then some n else none

/-- The digits before a point, those after it, and the exponent behind `mark`. -/
def splitNumber (base : Nat) (mark : Char) (s : List Char) :
    Option (List Char × List Char × Int) := do
  let isDigit (c : Char) : Bool := c == '_' || (hexDigit? c).any (· < base)
  let whole ← ungroup (s.takeWhile isDigit)
  let s := s.dropWhile isDigit
  let (fraction, s) := match s with
    | '.' :: s => (s.takeWhile isDigit, s.dropWhile isDigit)
    | s => ([], s)
  let fraction ← if fraction.isEmpty then some [] else ungroup fraction
  let exponent ← match s with
    | [] => some 0
    | c :: s =>
      if c.toLower = mark then
        let (negative, s) := splitSign s
        (number 10 s).map fun n => if negative then -(n : Int) else n
      else none
  some (whole, fraction, exponent)

/-- The magnitude of an unsigned floating-point number. -/
def floatMagnitude (f : Format) (s : List Char) : Option Nat := do
  match s with
  | ['i', 'n', 'f'] => some f.infinity
  | ['n', 'a', 'n'] => some f.quietNaN
  | 'n' :: 'a' :: 'n' :: ':' :: '0' :: 'x' :: s =>
    let payload ← number 16 s
    if 0 < payload ∧ payload < 1 <<< f.fractionBits then some (f.infinity + payload) else none
  | '0' :: 'x' :: s =>
    let (whole, fraction, exponent) ← splitNumber 16 'p' s
    let digits ← number 16 (whole ++ fraction)
    finite (f.ofBinary digits (exponent - 4 * fraction.length))
  | s =>
    let (whole, fraction, exponent) ← splitNumber 10 'e' s
    let digits ← number 10 (whole ++ fraction)
    finite (f.ofDecimal digits (exponent - fraction.length))
where
  finite (magnitude : Nat) : Option Nat :=
    if magnitude = f.infinity then none else some magnitude

/-- A floating-point number as its bit pattern. -/
def float (f : Format) (s : List Char) : Option Nat :=
  let (negative, s) := splitSign s
  (floatMagnitude f s).map (f.signed negative)

end WasmGuest.Wasm.Textual
