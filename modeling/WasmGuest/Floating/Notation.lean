import WasmGuest.Floating.Shortest
import WasmGuest.Text.Integer

/-!
# Text of floating-point numbers

Both notations write the shortest digits that read back.  *Plain* notation is
always positional and writes a whole number without a point; *marked* notation
always shows that the number is not an integer: by a point, or by an exponent
where the number is very large or very small.
-/

namespace WasmGuest.Floating

open Text

/-- How a finite number is laid out. -/
structure Notation where
  /-- Whether a whole number is written with `.0`. -/
  wholeFraction : Bool
  /-- Numbers other than zero outside `[10 ^ lo, 10 ^ hi)` are written with an exponent. -/
  positional : Option (Int × Int)

/-- Positional, without a point in a whole number. -/
def Notation.plain : Notation := ⟨false, none⟩

/-- With a point or an exponent; positional from `1e-4` up to below `1e16`. -/
def Notation.marked : Notation := ⟨true, some (-4, 16)⟩

namespace Decimal

/-- The positional text. -/
def positional (wholeFraction : Bool) (d : Decimal) : List Char :=
  let ds := Text.digits d.digits
  match d.exponent with
  | .ofNat e => ds ++ List.replicate e '0' ++ if wholeFraction then ['.', '0'] else []
  | .negSucc e =>
    let places := e + 1
    if places < ds.length then
      ds.take (ds.length - places) ++ '.' :: ds.drop (ds.length - places)
    else
      '0' :: '.' :: List.replicate (places - ds.length) '0' ++ ds

/-- The text with one digit before the point and an exponent. -/
def scientific (d : Decimal) : List Char :=
  match Text.digits d.digits with
  | [] => []
  | c :: rest =>
    let fraction := if rest.isEmpty then [] else '.' :: rest
    c :: fraction ++ 'e' :: intText (d.exponent + rest.length)

end Decimal

/-- The text of a finite magnitude. -/
def Notation.finite (style : Notation) (f : Format) (magnitude : Nat) : List Char :=
  let d := f.shortest magnitude
  match style.positional with
  | none => d.positional style.wholeFraction
  | some (lo, hi) =>
    if magnitude ≠ 0 ∧ (magnitude < f.ofDecimal 1 lo ∨ f.ofDecimal 1 hi ≤ magnitude) then
      d.scientific
    else d.positional style.wholeFraction

/-- The text of a bit pattern. -/
def Notation.text (style : Notation) (f : Format) (bits : Nat) : List Char :=
  let magnitude := f.magnitude bits
  if f.infinity < magnitude then ['N', 'a', 'N']
  else
    let number := if magnitude = f.infinity then ['i', 'n', 'f'] else style.finite f magnitude
    if f.isNegative bits then '-' :: number else number

end WasmGuest.Floating
