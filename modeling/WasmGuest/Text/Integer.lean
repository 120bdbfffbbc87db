/-!
# Decimal integers

Integers are written with the fewest digits and a minus sign, and read from an
optional sign followed by digits.  The readers accept ASCII digits only and
never an empty run of digits.  `readNat_digits` and `readInt_intText` say that
every integer is read back from its own text.
-/

namespace WasmGuest.Text

/-- The decimal digits of a natural number. -/
def digits (n : Nat) : List Char :=
  Nat.toDigits 10 n

/-- The decimal text of an integer. -/
def intText : Int → List Char
  | .ofNat n => digits n
  | .negSucc n => '-' :: digits (n + 1)

/-- The number written by a non-empty run of digits. -/
def readNat (s : List Char) : Option Nat :=
  if s ≠ [] ∧ s.all Char.isDigit then some (Nat.ofDigitChars 10 s 0) else none

/-- The number written by one optional sign and a run of digits. -/
def readInt : List Char → Option Int
  | '-' :: s => (readNat s).map fun n => -(n : Int)
  | '+' :: s => (readNat s).map Int.ofNat
  | s => (readNat s).map Int.ofNat

/-- `readInt`, for the integers from `lo` up to `hi`. -/
def readIntIn (lo hi : Int) (s : List Char) : Option Int :=
  (readInt s).filter fun n => decide (lo ≤ n ∧ n ≤ hi)

/-- A natural number below `bound`, written by an optional plus sign and digits. -/
def readNatBelow (bound : Nat) (s : List Char) : Option Nat :=
  let unsigned := match s with
    | '+' :: s => s
    | s => s
  (readNat unsigned).filter fun n => decide (n < bound)

theorem readNat_digits (n : Nat) : readNat (digits n) = some n := by
  have digit : ∀ c ∈ Nat.toDigits 10 n, c.isDigit = true := fun _ hc =>
    Nat.isDigit_of_mem_toDigits (by decide) (by decide) hc
  simpa [readNat, digits, Nat.toDigits_ne_nil] using digit

/-- A digit is no sign. -/
theorem digits_head (n : Nat) : ∃ c s, digits n = c :: s ∧ c ≠ '-' ∧ c ≠ '+' := by
  rcases h : digits n with _ | ⟨c, s⟩
  · exact absurd h Nat.toDigits_ne_nil
  · have hc : c.isDigit = true :=
      Nat.isDigit_of_mem_toDigits (b := 10) (n := n) (by decide) (by decide)
        (by rw [← digits, h]; exact List.mem_cons_self)
    exact ⟨c, s, rfl, by rintro rfl; simp at hc, by rintro rfl; simp at hc⟩

theorem readInt_intText (n : Int) : readInt (intText n) = some n := by
  cases n with
  | ofNat n =>
    obtain ⟨c, s, h, hm, hp⟩ := digits_head n
    have hr := readNat_digits n
    rw [h] at hr
    rw [intText, h, readInt, hr]
    · rfl
    · intro t ht; exact hm (List.cons.inj ht).1
    · intro t ht; exact hp (List.cons.inj ht).1
  | negSucc n => simp [intText, readInt, readNat_digits, Int.negSucc_eq]

end WasmGuest.Text
