import WasmGuest.Floating.Format

/-!
# Shortest decimal form

The decimal form of a finite number with the fewest digits that reads back to
the same number, and of those the nearest one, a tie going up.
`ofDecimal_candidate` says that a form found by the search reads back.
-/

namespace WasmGuest.Floating

/-- The number `digits * 10 ^ exponent`. -/
structure Decimal where
  digits : Nat
  exponent : Int
  deriving DecidableEq, Repr

namespace Format

/-- The exponent of the leading decimal digit of `num / den`, for a positive quotient. -/
def leadingExponent (num den : Nat) : Int :=
  if den ≤ num then (Nat.toDigits 10 (num / den)).length - 1
  else -((Nat.toDigits 10 ((den + num - 1) / num - 1)).length : Int)

/-- The quotient `num / den` in units of `10 ^ exponent`, as a quotient. -/
def inUnits (num den : Nat) : Int → Nat × Nat
  | .ofNat e => (num, den * Nat.pow 10 e)
  | .negSucc e => (num * Nat.pow 10 (e + 1), den)

/-- The point of the grid of multiples of `10 ^ exponent` next to the number that reads back as it,
the nearer one if both neighbours do, and the greater one of two that are equally near. -/
def candidate (f : Format) (magnitude : Nat) (exponent : Int) : Option Decimal :=
  let (num, den) := inUnits (f.ticks magnitude) (1 <<< f.unitLog) exponent
  let below := num / den
  let rest := num % den
  let reads (n : Nat) : Bool := f.ofDecimal n exponent == magnitude
  let points := if 2 * rest < den then [below, below + 1] else [below + 1, below]
  (points.find? reads).map fun n => ⟨n, exponent⟩

/-- The first candidate on the grids that begin at `exponent` and become ten times finer. -/
def firstCandidate (f : Format) (magnitude : Nat) : Nat → Int → Option Decimal
  | 0, _ => none
  | n + 1, exponent =>
    match f.candidate magnitude exponent with
    | some d => some d
    | none => firstCandidate f magnitude n (exponent - 1)

/-- The shortest decimal form of a finite magnitude.  The first grid is one step coarser than the
leading digit, for a number just below a power of ten.  Seventeen digits always suffice for the
two formats in use; the exact form stands behind them for any other. -/
def shortest (f : Format) (magnitude : Nat) : Decimal :=
  if magnitude = 0 then ⟨0, 0⟩
  else
    let ticks := f.ticks magnitude
    (f.firstCandidate magnitude 18 (leadingExponent ticks (1 <<< f.unitLog) + 1)).getD
      ⟨ticks * Nat.pow 5 f.unitLog, -f.unitLog⟩

theorem ofDecimal_candidate {f : Format} {m : Nat} {e : Int} {d : Decimal}
    (h : f.candidate m e = some d) : f.ofDecimal d.digits d.exponent = m := by
  unfold candidate at h
  obtain ⟨n, hn, rfl⟩ := Option.map_eq_some_iff.1 h
  simpa using List.find?_some hn

theorem ofDecimal_firstCandidate {f : Format} {m : Nat} {n : Nat} {e : Int} {d : Decimal}
    (h : f.firstCandidate m n e = some d) : f.ofDecimal d.digits d.exponent = m := by
  induction n generalizing e with
  | zero => simp [firstCandidate] at h
  | succ n ih =>
    rw [firstCandidate] at h
    split at h
    · next hc => cases h; exact ofDecimal_candidate hc
    · exact ih h

end Format

end WasmGuest.Floating
