import Mathlib.Data.List.Forall2
import WasmGuest.Proofs.Value.Splitting
import WasmGuest.Value.Text

/-!
# The grammar of literals

Which texts stand for which values, and what is said of the texts that stand for
none, is written down here without the order in which a reader looks at a text:
every case has premises that exclude the others.  The reader agrees with it on
every text.

* `IntLiteral`, `DecimalText`, `FloatLiteral`, `NumberLiteral`: the texts of numbers,
  and the readers that recognize exactly these.
* `KindText`: the kind that a text names by a suffix or implies.
* `Reads`: the cases of the grammar, each with its answer; `exists_reads` finds a
  case for every text, `Reads.ofTrimmed_eq` says that the reader gives the answer of
  the case, and `Reads.case_eq` that the answer tells which case it was.
* `Value.parse_grammar` is the result for every text.
-/

namespace WasmGuest

open Text
open Floating (Format)

/-! ## Signs -/

section Signs

variable {α : Type}

/-- A text with at most one sign before an unsigned one; `value` puts a sign to a number. -/
inductive SignedText (Unsigned : List Char → Nat → Prop) (value : Bool → Nat → α) :
    List Char → α → Prop where
  | bare {s : List Char} {n : Nat} (h : Unsigned s n) : SignedText Unsigned value s (value false n)
  | plus {s : List Char} {n : Nat} (h : Unsigned s n) :
      SignedText Unsigned value ('+' :: s) (value false n)
  | minus {s : List Char} {n : Nat} (h : Unsigned s n) :
      SignedText Unsigned value ('-' :: s) (value true n)

/-- The text begins with a sign. -/
def HasSign (s : List Char) : Prop :=
  ∃ t, s = '-' :: t ∨ s = '+' :: t

/-- A reader that looks for one sign recognizes what a reader without signs recognizes behind it. -/
theorem eq_some_iff_signedText {read : List Char → Option Nat} {readSigned : List Char → Option α}
    {Unsigned : List Char → Nat → Prop} {value : Bool → Nat → α}
    (hread : ∀ {s n}, read s = some n ↔ Unsigned s n)
    (hunsigned : ∀ {s n}, Unsigned s n → ¬ HasSign s)
    (hminus : ∀ s, readSigned ('-' :: s) = (read s).map (value true))
    (hplus : ∀ s, readSigned ('+' :: s) = (read s).map (value false))
    (hbare : ∀ s, ¬ HasSign s → readSigned s = (read s).map (value false))
    {s : List Char} {a : α} : readSigned s = some a ↔ SignedText Unsigned value s a := by
  constructor
  · intro h
    by_cases hsign : HasSign s
    · obtain ⟨t, rfl | rfl⟩ := hsign
      · rw [hminus] at h
        obtain ⟨n, hn, rfl⟩ := Option.map_eq_some_iff.1 h
        exact .minus (hread.1 hn)
      · rw [hplus] at h
        obtain ⟨n, hn, rfl⟩ := Option.map_eq_some_iff.1 h
        exact .plus (hread.1 hn)
    · rw [hbare s hsign] at h
      obtain ⟨n, hn, rfl⟩ := Option.map_eq_some_iff.1 h
      exact .bare (hread.1 hn)
  · intro h
    cases h with
    | bare h => rw [hbare s (hunsigned h), hread.2 h, Option.map_some]
    | plus h => rw [hplus, hread.2 h, Option.map_some]
    | minus h => rw [hminus, hread.2 h, Option.map_some]

end Signs

/-! ## Integers -/

/-- One or more ASCII digits, and their number. -/
def DigitRun (s : List Char) (n : Nat) : Prop :=
  s ≠ [] ∧ (∀ c ∈ s, c.isDigit = true) ∧ n = Nat.ofDigitChars 10 s 0

/-- At most one sign and one or more digits. -/
def IntLiteral : List Char → Int → Prop :=
  SignedText DigitRun fun negative n => if negative then -(n : Int) else n

theorem readNat_eq_some_iff {s : List Char} {n : Nat} : readNat s = some n ↔ DigitRun s n := by
  rw [readNat, DigitRun, ← and_assoc, ← List.all_eq_true]
  constructor
  · intro h
    split at h
    · next hrun => exact ⟨hrun, (Option.some.inj h).symm⟩
    · cases h
  · intro h
    rw [if_pos h.1, h.2]

theorem DigitRun.not_hasSign {s : List Char} {n : Nat} (h : DigitRun s n) : ¬ HasSign s := by
  intro hsign
  obtain ⟨t, rfl | rfl⟩ := hsign
  · exact absurd (h.2.1 '-' List.mem_cons_self) (by decide)
  · exact absurd (h.2.1 '+' List.mem_cons_self) (by decide)

theorem readInt_eq_some_iff {s : List Char} {n : Int} : readInt s = some n ↔ IntLiteral s n := by
  refine eq_some_iff_signedText readNat_eq_some_iff DigitRun.not_hasSign (fun s => ?_)
    (fun s => ?_) (fun s hbare => ?_)
  · rw [readInt]
    cases readNat s <;> rfl
  · rfl
  rw [readInt]
  · rfl
  · exact fun t ht => hbare ⟨t, .inl ht⟩
  · exact fun t ht => hbare ⟨t, .inr ht⟩

theorem readIntIn_eq_some_iff {lo hi : Int} {s : List Char} {n : Int} :
    readIntIn lo hi s = some n ↔ IntLiteral s n ∧ lo ≤ n ∧ n ≤ hi := by
  rw [readIntIn, Option.filter_eq_some_iff, readInt_eq_some_iff, decide_eq_true_eq]

/-! ## Floating-point numbers -/

/-- Nothing, or `e` in either case and an integer. -/
inductive ExponentText : List Char → Int → Prop where
  | absent : ExponentText [] 0
  | present {c : Char} {s : List Char} {e : Int} (hc : c = 'e' ∨ c = 'E') (h : IntLiteral s e) :
      ExponentText (c :: s) e

/-- Digits with at most one point, of which at least one digit is there, and an exponent.  The
number is the first one given times ten to the second. -/
inductive DecimalText : List Char → Nat → Int → Prop where
  | whole {whole exponent : List Char} {n : Nat} {e : Int} (hdigits : DigitRun whole n)
      (he : ExponentText exponent e) : DecimalText (whole ++ exponent) n e
  | point {whole fraction exponent : List Char} {n : Nat} {e : Int}
      (hdigits : DigitRun (whole ++ fraction) n) (he : ExponentText exponent e) :
      DecimalText (whole ++ '.' :: (fraction ++ exponent)) n (e - fraction.length)

/-- A word for infinity or for no number, in any case, or a decimal number. -/
inductive MagnitudeText (f : Format) : List Char → Nat → Prop where
  | infinity {s : List Char} (h : s.map Char.toLower = ['i', 'n', 'f'] ∨
      s.map Char.toLower = ['i', 'n', 'f', 'i', 'n', 'i', 't', 'y']) : MagnitudeText f s f.infinity
  | nan {s : List Char} (h : s.map Char.toLower = ['n', 'a', 'n']) : MagnitudeText f s f.quietNaN
  | decimal {s : List Char} {n : Nat} {e : Int} (h : DecimalText s n e) :
      MagnitudeText f s (f.ofDecimal n e)

/-- At most one sign before a magnitude, and the pattern that it stands for. -/
def FloatLiteral (f : Format) : List Char → Nat → Prop :=
  SignedText (MagnitudeText f) f.signed

theorem readExponent_eq_some_iff {s : List Char} {e : Int} :
    Floating.readExponent s = some e ↔ ExponentText s e := by
  constructor
  · intro h
    cases s with
    | nil =>
      cases h
      exact .absent
    | cons c s =>
      rw [Floating.readExponent] at h
      split at h
      · next hc => exact .present hc (readInt_eq_some_iff.1 h)
      · cases h
  · intro h
    cases h with
    | absent => rfl
    | present hc h => rw [Floating.readExponent, if_pos hc, readInt_eq_some_iff.2 h]

/-- An exponent does not begin with a digit or a point. -/
theorem ExponentText.head {s : List Char} {e : Int} (h : ExponentText s e) {c : Char}
    (hc : s.head? = some c) : c.isDigit = false ∧ c ≠ '.' := by
  cases h with
  | absent => cases hc
  | present he =>
    cases hc
    rcases he with rfl | rfl <;> decide

/-- Digits are split off up to a character that is none. -/
theorem splitDigits_eq_iff {s ds rest : List Char} : Floating.splitDigits s = (ds, rest) ↔
    s = ds ++ rest ∧ (∀ c ∈ ds, c.isDigit = true) ∧
      ∀ c, rest.head? = some c → c.isDigit = false := by
  have hwhole := List.takeWhile_append_dropWhile (p := Char.isDigit) (l := s)
  rw [Floating.splitDigits, Prod.mk.injEq]
  constructor
  · intro h
    obtain ⟨rfl, hdrop⟩ := h
    rw [hdrop] at hwhole
    obtain ⟨-, -, -, hstop⟩ := dropWhile_eq_iff.1 hdrop
    exact ⟨hwhole.symm, fun c hc => List.mem_takeWhile_imp hc, hstop⟩
  · intro h
    obtain ⟨hs, hds, hstop⟩ := h
    have hdrop : s.dropWhile Char.isDigit = rest := dropWhile_eq_iff.2 ⟨ds, hs, hds, hstop⟩
    rw [hdrop, hs] at hwhole
    refine ⟨?_, hdrop⟩
    rw [hs]
    exact List.append_cancel_right hwhole

theorem readDecimal_of_point {s whole fraction rest rest' : List Char}
    (hwhole : Floating.splitDigits s = (whole, '.' :: rest))
    (hfraction : Floating.splitDigits rest = (fraction, rest')) :
    Floating.readDecimal s = if whole ++ fraction = [] then none
      else (Floating.readExponent rest').map fun e : Int =>
        (Nat.ofDigitChars 10 (whole ++ fraction) 0, e - fraction.length) := by
  simp only [Floating.readDecimal, hwhole, hfraction, Bool.and_eq_true, List.isEmpty_iff,
    List.append_eq_nil_iff]

theorem readDecimal_of_no_point {s whole rest : List Char}
    (hwhole : Floating.splitDigits s = (whole, rest)) (hrest : rest.head? ≠ some '.') :
    Floating.readDecimal s = if whole = [] then none
      else (Floating.readExponent rest).map fun e : Int => (Nat.ofDigitChars 10 whole 0, e) := by
  simp only [Floating.readDecimal, hwhole]
  split
  · exact absurd rfl hrest
  · simp

theorem readDecimal_eq_some_iff {s : List Char} {n : Nat} {e : Int} :
    Floating.readDecimal s = some (n, e) ↔ DecimalText s n e := by
  constructor
  · intro h
    rcases hwhole : Floating.splitDigits s with ⟨whole, rest⟩
    obtain ⟨rfl, hdigits, -⟩ := splitDigits_eq_iff.1 hwhole
    by_cases hpoint : rest.head? = some '.'
    · obtain ⟨rest, rfl⟩ := List.head?_eq_some_iff.1 hpoint
      rcases hfraction : Floating.splitDigits rest with ⟨fraction, rest'⟩
      obtain ⟨rfl, hdigits', -⟩ := splitDigits_eq_iff.1 hfraction
      rw [readDecimal_of_point hwhole hfraction] at h
      split at h
      · cases h
      · next hne =>
        obtain ⟨e', he, heq⟩ := Option.map_eq_some_iff.1 h
        cases heq
        refine .point ⟨hne, ?_, rfl⟩ (readExponent_eq_some_iff.1 he)
        exact List.forall_mem_append.2 ⟨hdigits, hdigits'⟩
    · rw [readDecimal_of_no_point hwhole hpoint] at h
      split at h
      · cases h
      · next hne =>
        obtain ⟨e', he, heq⟩ := Option.map_eq_some_iff.1 h
        cases heq
        exact .whole ⟨hne, hdigits, rfl⟩ (readExponent_eq_some_iff.1 he)
  · intro h
    cases h with
    | @whole whole rest n e hdigits he =>
      obtain ⟨hne, hdigits, rfl⟩ := hdigits
      have hwhole : Floating.splitDigits (whole ++ rest) = (whole, rest) :=
        splitDigits_eq_iff.2 ⟨rfl, hdigits, fun c hc => (he.head hc).1⟩
      have hrest : rest.head? ≠ some '.' := fun hc => (he.head hc).2 rfl
      rw [readDecimal_of_no_point hwhole hrest, if_neg hne, readExponent_eq_some_iff.2 he]
      rfl
    | @point whole fraction rest n e hdigits he =>
      obtain ⟨hne, hdigits, rfl⟩ := hdigits
      obtain ⟨hdigits, hdigits'⟩ := List.forall_mem_append.1 hdigits
      have hwhole : Floating.splitDigits (whole ++ '.' :: (fraction ++ rest)) =
          (whole, '.' :: (fraction ++ rest)) :=
        splitDigits_eq_iff.2 ⟨rfl, hdigits, fun c hc => by cases hc; rfl⟩
      have hfraction : Floating.splitDigits (fraction ++ rest) = (fraction, rest) :=
        splitDigits_eq_iff.2 ⟨rfl, hdigits', fun c hc => (he.head hc).1⟩
      rw [readDecimal_of_point hwhole hfraction, if_neg hne, readExponent_eq_some_iff.2 he]
      rfl

/-- A decimal number begins with a digit or a point. -/
theorem DecimalText.head {s : List Char} {n : Nat} {e : Int} (h : DecimalText s n e) :
    ∃ c t, s = c :: t ∧ (c.isDigit = true ∨ c = '.') := by
  cases h with
  | @whole whole rest _ _ hdigits =>
    obtain ⟨c, t, rfl⟩ := List.exists_cons_of_ne_nil hdigits.1
    exact ⟨c, t ++ rest, rfl, .inl (hdigits.2.1 c List.mem_cons_self)⟩
  | @point whole fraction rest _ _ hdigits =>
    cases whole with
    | nil => exact ⟨'.', _, rfl, .inr rfl⟩
    | cons c t => exact ⟨c, _, rfl, .inl (hdigits.2.1 c List.mem_cons_self)⟩

theorem toLower_of_isDigit {c : Char} (hc : c.isDigit = true) : c.toLower = c := by
  have hupper : ¬ (c.val ≥ 'A'.val ∧ c.val ≤ 'Z'.val) := by
    intro hupper
    simp only [Char.isDigit, Bool.and_eq_true, decide_eq_true_eq] at hc
    exact absurd (UInt32.le_trans hupper.1 hc.2) (by decide)
  exact dif_neg hupper

/-- A text that begins with a digit or a point is not a word. -/
theorem DecimalText.ne_word {s : List Char} {n : Nat} {e : Int} (h : DecimalText s n e) {c : Char}
    {w : List Char} (hdigit : c.isDigit = false) (hpoint : c ≠ '.') :
    s.map Char.toLower ≠ c :: w := by
  intro hword
  obtain ⟨d, t, rfl, hd⟩ := h.head
  have hlower : d.toLower = d := by
    rcases hd with hd | rfl
    · exact toLower_of_isDigit hd
    · rfl
  rw [List.map_cons, hlower] at hword
  obtain rfl : d = c := (List.cons.inj hword).1
  rcases hd with hd | hd
  · rw [hdigit] at hd
    cases hd
  · exact hpoint hd

section Format

variable {f : Format} {s : List Char} {m : Nat}

theorem readMagnitude_eq_some_iff : f.readMagnitude s = some m ↔ MagnitudeText f s m := by
  constructor
  · intro h
    rw [Format.readMagnitude] at h
    split at h
    · next hinf =>
      cases h
      exact .infinity hinf
    · split at h
      · next hnan =>
        cases h
        exact .nan hnan
      · obtain ⟨⟨n, e⟩, hdecimal, rfl⟩ := Option.map_eq_some_iff.1 h
        exact .decimal (readDecimal_eq_some_iff.1 hdecimal)
  · intro h
    rw [Format.readMagnitude]
    cases h with
    | infinity hinf => exact if_pos hinf
    | nan hnan =>
      simp only [hnan]
      rfl
    | decimal hdecimal =>
      have hne {c : Char} {w : List Char} (hdigit : c.isDigit = false) (hpoint : c ≠ '.') :=
        hdecimal.ne_word (w := w) hdigit hpoint
      rw [if_neg (not_or.2 ⟨hne rfl (by decide), hne rfl (by decide)⟩),
        if_neg (hne rfl (by decide)), readDecimal_eq_some_iff.2 hdecimal]
      rfl

theorem MagnitudeText.not_hasSign (h : MagnitudeText f s m) : ¬ HasSign s := by
  intro hsign
  cases h with
  | infinity hinf => obtain ⟨t, rfl | rfl⟩ := hsign <;> simp at hinf
  | nan hnan => obtain ⟨t, rfl | rfl⟩ := hsign <;> simp at hnan
  | decimal hdecimal =>
    obtain ⟨c, t, rfl, hc⟩ := hdecimal.head
    obtain ⟨t, ht | ht⟩ := hsign
    · cases ht
      revert hc
      decide
    · cases ht
      revert hc
      decide

theorem read_eq_some_iff : f.read s = some m ↔ FloatLiteral f s m := by
  refine eq_some_iff_signedText readMagnitude_eq_some_iff MagnitudeText.not_hasSign (fun s => rfl)
    (fun s => rfl) (fun s hbare => ?_)
  rw [Format.read]
  · exact fun t ht => hbare ⟨t, .inl ht⟩
  · exact fun t ht => hbare ⟨t, .inr ht⟩

end Format

/-! ## Numbers of a kind -/

/-- A literal of a number of a kind, and the number. -/
inductive NumberLiteral : Kind → List Char → Value → Prop where
  | i32 {s : List Char} {n : Int} (h : IntLiteral s n) (hlo : -2147483648 ≤ n)
      (hhi : n ≤ 2147483647) : NumberLiteral .i32 s (.i32 (Int32.ofInt n))
  | i64 {s : List Char} {n : Int} (h : IntLiteral s n) (hlo : -9223372036854775808 ≤ n)
      (hhi : n ≤ 9223372036854775807) : NumberLiteral .i64 s (.i64 (Int64.ofInt n))
  | f32 {s : List Char} {bits : Nat} (h : FloatLiteral .single s bits) :
      NumberLiteral .f32 s (.f32 (UInt32.ofNat bits))
  | f64 {s : List Char} {bits : Nat} (h : FloatLiteral .double s bits) :
      NumberLiteral .f64 s (.f64 (UInt64.ofNat bits))

theorem number?_eq_some_iff {k : Kind} {s : List Char} {v : Value} :
    Value.number? k s = some v ↔ NumberLiteral k s v := by
  constructor
  · intro h
    cases k with
    | i32 =>
      obtain ⟨x, hx, rfl⟩ := Option.map_eq_some_iff.1 h
      obtain ⟨n, hn, rfl⟩ := Option.map_eq_some_iff.1 hx
      obtain ⟨hliteral, hlo, hhi⟩ := readIntIn_eq_some_iff.1 hn
      exact .i32 hliteral hlo hhi
    | i64 =>
      obtain ⟨x, hx, rfl⟩ := Option.map_eq_some_iff.1 h
      obtain ⟨n, hn, rfl⟩ := Option.map_eq_some_iff.1 hx
      obtain ⟨hliteral, hlo, hhi⟩ := readIntIn_eq_some_iff.1 hn
      exact .i64 hliteral hlo hhi
    | f32 =>
      obtain ⟨bits, hbits, rfl⟩ := Option.map_eq_some_iff.1 h
      exact .f32 (read_eq_some_iff.1 hbits)
    | f64 =>
      obtain ⟨bits, hbits, rfl⟩ := Option.map_eq_some_iff.1 h
      exact .f64 (read_eq_some_iff.1 hbits)
    | bool => cases h
    | list => cases h
  · intro h
    cases h with
    | i32 h hlo hhi =>
      rw [Value.number?, readInt32, readIntIn_eq_some_iff.2 ⟨h, hlo, hhi⟩]
      rfl
    | i64 h hlo hhi =>
      rw [Value.number?, readInt64, readIntIn_eq_some_iff.2 ⟨h, hlo, hhi⟩]
      rfl
    | f32 h =>
      rw [Value.number?, read_eq_some_iff.2 h]
      rfl
    | f64 h =>
      rw [Value.number?, read_eq_some_iff.2 h]
      rfl

theorem number?_eq_none_iff {k : Kind} {s : List Char} :
    Value.number? k s = none ↔ ∀ v, ¬ NumberLiteral k s v := by
  rw [Option.eq_none_iff_forall_ne_some]
  exact forall_congr' fun v => not_congr number?_eq_some_iff

/-- The kind that a text names by a suffix, with what stands before it, or the kind that a text
without a suffix implies. -/
inductive KindText (t : List Char) : Kind → List Char → Prop where
  | suffixed {suffix n : List Char} {k : Kind} (hsuffix : (suffix, k) ∈ Value.suffixes)
      (ht : t = n ++ suffix) : KindText t k n
  | pointed (hbare : ∀ e ∈ Value.suffixes, ∀ n, t ≠ n ++ e.1)
      (hpoint : '.' ∈ t ∨ 'e' ∈ t ∨ 'E' ∈ t) : KindText t .f64 t
  | plain (hbare : ∀ e ∈ Value.suffixes, ∀ n, t ≠ n ++ e.1)
      (hpoint : '.' ∉ t ∧ 'e' ∉ t ∧ 'E' ∉ t) : KindText t .i32 t

/-- A text does not end in two suffixes of one length. -/
theorem dropSuffix?_append_of_ne {suffix suffix' : List Char} (n : List Char)
    (hlength : suffix'.length = suffix.length) (hne : suffix' ≠ suffix) :
    dropSuffix? suffix (n ++ suffix') = none := by
  refine dropSuffix?_eq_none_iff.2 fun rest hrest => hne ?_
  exact (List.append_inj' hrest hlength).2

/-- The first suffix that a text ends in is the one that is found. -/
theorem numberKind_of_suffix {t n suffix : List Char} {k : Kind}
    {before behind : List (List Char × Kind)}
    (hbefore : ∀ e ∈ before, e.1.length = suffix.length ∧ suffix ≠ e.1) (ht : t = n ++ suffix) :
    Value.numberKind t (before ++ (suffix, k) :: behind) = (k, n) := by
  subst ht
  induction before with
  | nil => rw [List.nil_append, Value.numberKind, dropSuffix?_eq_some_iff.2 rfl]
  | cons e before ih =>
    obtain ⟨⟨hlength, hne⟩, hbefore⟩ := List.forall_mem_cons.1 hbefore
    rw [List.cons_append, Value.numberKind, dropSuffix?_append_of_ne n hlength.symm hne]
    exact ih hbefore

theorem numberKind_of_bare {t : List Char} {suffixes : List (List Char × Kind)}
    (hbare : ∀ e ∈ suffixes, ∀ n, t ≠ n ++ e.1) :
    Value.numberKind t suffixes = Value.numberKind t [] := by
  induction suffixes with
  | nil => rfl
  | cons e suffixes ih =>
    obtain ⟨suffix, k⟩ := e
    obtain ⟨hne, hbare⟩ := List.forall_mem_cons.1 hbare
    have hskip : Value.numberKind t ((suffix, k) :: suffixes) = Value.numberKind t suffixes := by
      rw [Value.numberKind, dropSuffix?_eq_none_iff.2 hne]
    rw [hskip, ih hbare]

/-- The suffixes are different and of one length. -/
theorem pairwise_suffixes :
    Value.suffixes.Pairwise fun a b => a.1.length = b.1.length ∧ b.1 ≠ a.1 := by
  decide

theorem any_point_iff {t : List Char} :
    t.any (fun c => c = '.' ∨ c = 'e' ∨ c = 'E') = true ↔ '.' ∈ t ∨ 'e' ∈ t ∨ 'E' ∈ t := by
  simp [and_or_left, exists_or]

theorem KindText.numberKind_eq {t n : List Char} {k : Kind} (h : KindText t k n) :
    Value.numberKind t Value.suffixes = (k, n) := by
  cases h with
  | suffixed hsuffix ht =>
    obtain ⟨before, behind, hsplit⟩ := List.append_of_mem hsuffix
    have hpairwise := pairwise_suffixes
    rw [hsplit] at hpairwise ⊢
    refine numberKind_of_suffix (fun e he => ?_) ht
    exact (List.pairwise_append.1 hpairwise).2.2 e he _ List.mem_cons_self
  | pointed hbare hpoint =>
    rw [numberKind_of_bare hbare, Value.numberKind, if_pos (any_point_iff.2 hpoint)]
  | plain hbare hpoint =>
    rw [← not_or, ← not_or, ← any_point_iff] at hpoint
    rw [numberKind_of_bare hbare, Value.numberKind, if_neg hpoint]

theorem kindText_numberKind (t : List Char) :
    KindText t (Value.numberKind t Value.suffixes).1 (Value.numberKind t Value.suffixes).2 := by
  have hany : ∃ k n, KindText t k n := by
    by_cases hbare : ∀ e ∈ Value.suffixes, ∀ n, t ≠ n ++ e.1
    · by_cases hpoint : '.' ∈ t ∨ 'e' ∈ t ∨ 'E' ∈ t
      · exact ⟨_, _, .pointed hbare hpoint⟩
      · rw [not_or, not_or] at hpoint
        exact ⟨_, _, .plain hbare hpoint⟩
    · simp only [not_forall, ne_eq, not_not] at hbare
      obtain ⟨⟨suffix, k⟩, hsuffix, n, ht⟩ := hbare
      exact ⟨k, n, .suffixed hsuffix ht⟩
  obtain ⟨k, n, h⟩ := hany
  rw [h.numberKind_eq]
  exact h

/-! ## Lists -/

/-- A piece of a list that stands for an item. -/
def ItemText (piece : List Char) (x : Int32) : Prop :=
  ∃ t, Stripped piece t ∧ NumberLiteral .i32 t (.i32 x)

theorem readInt32_eq_some_iff {s : List Char} {x : Int32} :
    readInt32 s = some x ↔ NumberLiteral .i32 s (.i32 x) := by
  rw [← number?_eq_some_iff, Value.number?, Option.map_eq_some_iff]
  constructor
  · intro h
    exact ⟨x, h, rfl⟩
  · intro h
    obtain ⟨y, hy, hxy⟩ := h
    cases hxy
    exact hy

theorem itemText_iff {piece : List Char} {x : Int32} :
    ItemText piece x ↔ readInt32 (trim piece) = some x := by
  rw [readInt32_eq_some_iff]
  constructor
  · intro h
    obtain ⟨t, ht, hliteral⟩ := h
    rwa [trim_eq_iff.2 ht]
  · intro h
    exact ⟨trim piece, stripped_trim piece, h⟩

/-- Pieces that all stand for items are read as these. -/
theorem readItems_of_items {pieces : List (List Char)} {xs : List Int32}
    (h : List.Forall₂ ItemText pieces xs) : readItems pieces = .ok xs := by
  induction h with
  | nil => rfl
  | cons hitem _ ih =>
    rw [readItems, itemText_iff.1 hitem, ih]
    rfl

/-- The first piece that stands for no item is what is wrong with a list. -/
theorem readItems_of_bad {good behind : List (List Char)} {bad t : List Char}
    (hgood : ∀ piece ∈ good, ∃ x, ItemText piece x) (hbad : ∀ x, ¬ ItemText bad x)
    (ht : Stripped bad t) :
    readItems (good ++ bad :: behind) = .error (.invalid .item (String.ofList t)) := by
  induction good with
  | nil =>
    have hnone : readInt32 (trim bad) = none := by
      rw [Option.eq_none_iff_forall_ne_some]
      exact fun x hx => hbad x (itemText_iff.2 hx)
    rw [List.nil_append, readItems, hnone, trim_eq_iff.2 ht]
  | cons piece good ih =>
    obtain ⟨⟨x, hx⟩, hgood⟩ := List.forall_mem_cons.1 hgood
    rw [List.cons_append, readItems, itemText_iff.1 hx, ih hgood]
    rfl

/-- Either all pieces stand for items, or there is a first that does not. -/
theorem items_or_bad (pieces : List (List Char)) :
    (∃ xs, List.Forall₂ ItemText pieces xs) ∨
      ∃ good bad behind, pieces = good ++ bad :: behind ∧
        (∀ piece ∈ good, ∃ x, ItemText piece x) ∧ ∀ x, ¬ ItemText bad x := by
  induction pieces with
  | nil => exact .inl ⟨[], .nil⟩
  | cons piece pieces ih =>
    by_cases hitem : ∃ x, ItemText piece x
    · rcases ih with ⟨xs, hxs⟩ | ⟨good, bad, behind, rfl, hgood, hbad⟩
      · obtain ⟨x, hx⟩ := hitem
        exact .inl ⟨x :: xs, .cons hx hxs⟩
      · exact .inr ⟨piece :: good, bad, behind, rfl, List.forall_mem_cons.2 ⟨hitem, hgood⟩, hbad⟩
    · exact .inr ⟨[], piece, pieces, rfl, nofun, not_exists.1 hitem⟩

/-! ## The cases of a literal -/

inductive LiteralCase where
  | empty
  | unterminated
  | noItems
  | items
  | badItem
  | truth (b : Bool)
  | number (k : Kind)
  | badNumber (k : Kind)
  deriving DecidableEq, Repr

/-- A text that can only be a number: it is not empty, opens no list, and is no truth value. -/
structure NumberLike (t : List Char) : Prop where
  ne_nil : t ≠ []
  noBracket : t.head? ≠ some '['
  noTruth : ∀ b, t ≠ boolText b

/-- The cases of a literal without blanks at its ends, with the answer in each. -/
inductive Reads : LiteralCase → List Char → Except LiteralError Value → Prop where
  | empty : Reads .empty [] (.error .empty)
  | unterminated {rest : List Char} (hopen : ∀ inner, rest ≠ inner ++ [']']) :
      Reads .unterminated ('[' :: rest) (.error (.unterminatedList (String.ofList ('[' :: rest))))
  | noItems {inner : List Char} (hblank : ∀ c ∈ inner, isBlank c = true) :
      Reads .noItems ('[' :: (inner ++ [']'])) (.ok (.list []))
  | items {inner : List Char} {pieces : List (List Char)} {xs : List Int32}
      (hfilled : ∃ c ∈ inner, isBlank c = false) (hpieces : Pieces inner pieces)
      (hitems : List.Forall₂ ItemText pieces xs) :
      Reads .items ('[' :: (inner ++ [']'])) (.ok (.list xs))
  | badItem {inner bad t : List Char} {good behind : List (List Char)}
      (hfilled : ∃ c ∈ inner, isBlank c = false) (hpieces : Pieces inner (good ++ bad :: behind))
      (hgood : ∀ piece ∈ good, ∃ x, ItemText piece x) (hbad : ∀ x, ¬ ItemText bad x)
      (ht : Stripped bad t) :
      Reads .badItem ('[' :: (inner ++ [']'])) (.error (.invalid .item (String.ofList t)))
  | truth (b : Bool) : Reads (.truth b) (boolText b) (.ok (.bool b))
  | number {t n : List Char} {k : Kind} {v : Value} (hlike : NumberLike t) (hkind : KindText t k n)
      (hvalue : NumberLiteral k n v) : Reads (.number k) t (.ok v)
  | badNumber {t n : List Char} {k : Kind} (hlike : NumberLike t) (hkind : KindText t k n)
      (hnone : ∀ v, ¬ NumberLiteral k n v) :
      Reads (.badNumber k) t (.error (.invalid (.number k) (String.ofList t)))

theorem ofTrimmed_list (inner : List Char) :
    Value.ofTrimmed ('[' :: (inner ++ [']'])) = if (trim inner).isEmpty then .ok (.list [])
      else (readItems (splitCommas inner)).map .list := by
  rw [Value.ofTrimmed, dropSuffix?_eq_some_iff.2 rfl]

theorem ofTrimmed_of_numberLike {t n : List Char} {k : Kind} (h : NumberLike t)
    (hkind : KindText t k n) : Value.ofTrimmed t =
      (Value.number? k n).elim (.error (.invalid (.number k) (String.ofList t))) .ok := by
  have htrue : t ≠ ['t', 'r', 'u', 'e'] := h.noTruth true
  have hfalse : t ≠ ['f', 'a', 'l', 's', 'e'] := h.noTruth false
  rw [Value.ofTrimmed, if_neg htrue, if_neg hfalse, hkind.numberKind_eq]
  · dsimp only
    cases Value.number? k n <;> rfl
  · exact h.ne_nil
  · intro rest ht
    exact h.noBracket (by rw [ht]; rfl)

/-- The blanks inside brackets are told apart from a list with items. -/
theorem isEmpty_trim_eq_false {inner : List Char} (h : ∃ c ∈ inner, isBlank c = false) :
    (trim inner).isEmpty = false := by
  rw [List.isEmpty_eq_false_iff, ne_eq, trim_eq_nil_iff]
  intro hblank
  obtain ⟨c, hc, hfilled⟩ := h
  rw [hblank c hc] at hfilled
  cases hfilled

/-- The reader gives the answer of a case. -/
theorem Reads.ofTrimmed_eq {k : LiteralCase} {t : List Char} {r : Except LiteralError Value}
    (h : Reads k t r) : Value.ofTrimmed t = r := by
  cases h with
  | empty => rfl
  | unterminated hopen => rw [Value.ofTrimmed, dropSuffix?_eq_none_iff.2 hopen]
  | noItems hblank =>
    rw [ofTrimmed_list, trim_eq_nil_iff.2 hblank]
    rfl
  | items hfilled hpieces hitems =>
    rw [ofTrimmed_list, isEmpty_trim_eq_false hfilled, splitCommas_eq_iff.2 hpieces,
      readItems_of_items hitems]
    rfl
  | badItem hfilled hpieces hgood hbad ht =>
    rw [ofTrimmed_list, isEmpty_trim_eq_false hfilled, splitCommas_eq_iff.2 hpieces,
      readItems_of_bad hgood hbad ht]
    rfl
  | truth b => cases b <;> rfl
  | number hlike hkind hvalue =>
    rw [ofTrimmed_of_numberLike hlike hkind, number?_eq_some_iff.2 hvalue]
    rfl
  | badNumber hlike hkind hnone =>
    rw [ofTrimmed_of_numberLike hlike hkind, number?_eq_none_iff.2 hnone]
    rfl

/-- Every text falls into a case. -/
theorem exists_reads (t : List Char) : ∃ k r, Reads k t r := by
  by_cases hempty : t = []
  · subst hempty
    exact ⟨_, _, .empty⟩
  by_cases hbracket : t.head? = some '['
  · obtain ⟨rest, rfl⟩ := List.head?_eq_some_iff.1 hbracket
    by_cases hopen : ∀ inner, rest ≠ inner ++ [']']
    · exact ⟨_, _, .unterminated hopen⟩
    simp only [not_forall, ne_eq, not_not] at hopen
    obtain ⟨inner, rfl⟩ := hopen
    by_cases hblank : ∀ c ∈ inner, isBlank c = true
    · exact ⟨_, _, .noItems hblank⟩
    simp only [not_forall, Bool.not_eq_true, exists_prop] at hblank
    have hpieces := pieces_splitCommas inner
    rcases items_or_bad (splitCommas inner) with
      ⟨xs, hxs⟩ | ⟨good, bad, behind, hsplit, hgood, hbad⟩
    · exact ⟨_, _, .items hblank hpieces hxs⟩
    · rw [hsplit] at hpieces
      exact ⟨_, _, .badItem hblank hpieces hgood hbad (stripped_trim bad)⟩
  by_cases htruth : ∃ b, t = boolText b
  · obtain ⟨b, rfl⟩ := htruth
    exact ⟨_, _, .truth b⟩
  have hlike : NumberLike t := ⟨hempty, hbracket, not_exists.1 htruth⟩
  have hkind := kindText_numberKind t
  by_cases hvalue : ∃ v, NumberLiteral (Value.numberKind t Value.suffixes).1
      (Value.numberKind t Value.suffixes).2 v
  · obtain ⟨v, hv⟩ := hvalue
    exact ⟨_, _, .number hlike hkind hv⟩
  · exact ⟨_, _, .badNumber hlike hkind (not_exists.1 hvalue)⟩

/-- The case that an answer is given in. -/
def LiteralCase.ofAnswer : Except LiteralError Value → LiteralCase
  | .error .empty => .empty
  | .error (.unterminatedList _) => .unterminated
  | .error (.invalid .item _) => .badItem
  | .error (.invalid (.number k) _) => .badNumber k
  | .ok (.bool b) => .truth b
  | .ok (.list []) => .noItems
  | .ok (.list (_ :: _)) => .items
  | .ok v => .number v.kind

/-- No two cases have a common answer. -/
theorem Reads.case_eq {k : LiteralCase} {t : List Char} {r : Except LiteralError Value}
    (h : Reads k t r) : k = .ofAnswer r := by
  cases h with
  | items _ hpieces hitems =>
    cases hitems with
    | nil => exact absurd rfl hpieces.ne_nil
    | cons => rfl
  | number _ _ hvalue => cases hvalue <;> rfl
  | _ => rfl

/-! ## Blanks -/

/-- Blanks around the items of a list do not matter. -/
theorem readItems_congr {pieces pieces' : List (List Char)}
    (h : List.Forall₂ (fun p p' => trim p = trim p') pieces pieces') :
    readItems pieces = readItems pieces' := by
  induction h with
  | nil => rfl
  | cons htrim _ ih => rw [readItems, readItems, htrim, ih]

/-- More than one piece is more than blanks. -/
theorem trim_intercalate_ne_nil (p q : List Char) (pieces : List (List Char)) :
    trim ([','].intercalate (p :: q :: pieces)) ≠ [] := by
  rw [ne_eq, trim_eq_nil_iff, List.intercalate_cons_cons]
  intro hblank
  have hcomma := hblank ',' (List.mem_append_left _ (List.mem_append_right p List.mem_cons_self))
  exact absurd hcomma (by decide)

/-- The text of a list, by the pieces between its commas. -/
def bracketed (pieces : List (List Char)) : List Char :=
  '[' :: ([','].intercalate pieces ++ [']'])

theorem bare_bracketed (pieces : List (List Char)) : Bare (bracketed pieces) where
  head c hc := by
    cases hc
    rfl
  last c hc := by
    rw [bracketed, ← List.cons_append, List.getLast?_concat] at hc
    cases hc
    rfl

/-- Pieces without commas of which the same is left without blanks make lists of the same value. -/
theorem ofTrimmed_bracketed_congr {pieces pieces' : List (List Char)}
    (hfree : ∀ piece ∈ pieces ++ pieces', ',' ∉ piece)
    (h : List.Forall₂ (fun p p' => trim p = trim p') pieces pieces') :
    Value.ofTrimmed (bracketed pieces) = Value.ofTrimmed (bracketed pieces') := by
  have hsplit {pieces : List (List Char)} (hne : pieces ≠ [])
      (hfree : ∀ piece ∈ pieces, ',' ∉ piece) :
      splitCommas ([','].intercalate pieces) = pieces := splitCommas_eq_iff.2 ⟨hne, rfl, hfree⟩
  have hleft := fun piece hpiece => hfree piece (List.mem_append_left pieces' hpiece)
  have hright := fun piece hpiece => hfree piece (List.mem_append_right pieces hpiece)
  have hitems := readItems_congr h
  rw [bracketed, bracketed, ofTrimmed_list, ofTrimmed_list]
  cases h with
  | nil => rfl
  | cons htrim hrest =>
    rw [hsplit (List.cons_ne_nil _ _) hleft, hsplit (List.cons_ne_nil _ _) hright, hitems]
    cases hrest with
    | nil => rw [List.intercalate_singleton, List.intercalate_singleton, htrim]
    | cons =>
      rw [List.isEmpty_eq_false_iff.2 (trim_intercalate_ne_nil _ _ _),
        List.isEmpty_eq_false_iff.2 (trim_intercalate_ne_nil _ _ _)]

/-! ## The result -/

/-- What is promised about reading literals. -/
structure Value.Grammatical : Prop where
  /-- Without the blanks at its ends every text is in one case, and its answer is the answer. -/
  answers : ∀ s : String, ∃ t, Stripped s.toList t ∧ (∀ t', Stripped s.toList t' → t' = t) ∧
    (∃! k, ∃ r, Reads k t r) ∧ ∀ r, Value.parse s = r ↔ ∃ k, Reads k t r
  /-- Blanks around a text change nothing. -/
  around : ∀ before s behind : List Char, (∀ c ∈ before, isBlank c = true) →
    (∀ c ∈ behind, isBlank c = true) →
    Value.parse (String.ofList (before ++ s ++ behind)) = Value.parse (String.ofList s)
  /-- Blanks around the items of a list change nothing. -/
  inside : ∀ pieces pieces' : List (List Char), (∀ piece ∈ pieces ++ pieces', ',' ∉ piece) →
    List.Forall₂ (fun p p' => ∃ t, Stripped p t ∧ Stripped p' t) pieces pieces' →
    Value.parse (String.ofList (bracketed pieces)) = Value.parse (String.ofList (bracketed pieces'))

/-- The texts that stand for values are those of the grammar, and stand for these values; the other
texts are turned away for what is wrong with them. -/
theorem Value.parse_grammar : Value.Grammatical where
  answers s := by
    refine ⟨trim s.toList, stripped_trim _, fun t' ht' => (trim_eq_iff.2 ht').symm, ?_, ?_⟩
    · obtain ⟨k, r, h⟩ := exists_reads (trim s.toList)
      refine ⟨k, ⟨r, h⟩, ?_⟩
      intro k' h'
      obtain ⟨r', h'⟩ := h'
      rw [h.case_eq, h'.case_eq, ← h.ofTrimmed_eq, ← h'.ofTrimmed_eq]
    · intro r
      obtain ⟨k, r', h⟩ := exists_reads (trim s.toList)
      constructor
      · intro hr
        rw [Value.parse, h.ofTrimmed_eq] at hr
        exact ⟨k, hr ▸ h⟩
      · intro hr
        obtain ⟨k', h'⟩ := hr
        exact h'.ofTrimmed_eq
  around before s behind hbefore hbehind := by
    have hstripped : Stripped (before ++ s ++ behind) (trim s) := by
      obtain ⟨hbare, before', behind', hs, hbefore', hbehind'⟩ := stripped_trim s
      refine ⟨hbare, before ++ before', behind' ++ behind, ?_,
        List.forall_mem_append.2 ⟨hbefore, hbefore'⟩, List.forall_mem_append.2 ⟨hbehind', hbehind⟩⟩
      conv_lhs => rw [hs]
      simp only [List.append_assoc]
    rw [Value.parse, Value.parse, String.toList_ofList, String.toList_ofList,
      trim_eq_iff.2 hstripped]
  inside pieces pieces' hfree h := by
    rw [Value.parse, Value.parse, String.toList_ofList, String.toList_ofList,
      trim_of_bare (bare_bracketed pieces), trim_of_bare (bare_bracketed pieces')]
    refine ofTrimmed_bracketed_congr hfree (h.imp fun p p' hp => ?_)
    obtain ⟨t, ht, ht'⟩ := hp
    rw [trim_eq_iff.2 ht, trim_eq_iff.2 ht']

end WasmGuest
