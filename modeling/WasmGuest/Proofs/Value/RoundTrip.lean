import WasmGuest.Proofs.Floating.ReadBack
import WasmGuest.Proofs.Value.Grammar

/-!
# Values are read back from their texts

The text of a truth value or of a list stands for it, and so does the text of a
number with the name of its kind behind it.  Every bit pattern comes back as it
was, except that a NaN comes back as a NaN.

* `digitRun_digits`, `intLiteral_intText`: the texts of natural numbers and integers.
* `decimalText_positional`, `floatLiteral_text`: the texts of floating-point numbers.
* `Value.numberLiteral_chars`: the text of a number is a literal of its kind.
* `Value.parse_literal` is the result for every value.
-/

namespace WasmGuest

open Text
open Floating (Decimal Format Notation)

/-! ## Integers -/

theorem digitRun_digits (n : Nat) : DigitRun (digits n) n :=
  readNat_eq_some_iff.1 (readNat_digits n)

theorem intLiteral_intText (n : Int) : IntLiteral (intText n) n :=
  readInt_eq_some_iff.1 (readInt_intText n)

/-- The text of an integer is of digits behind at most a minus sign. -/
theorem mem_intText {n : Int} {c : Char} (hc : c ∈ intText n) : c.isDigit = true ∨ c = '-' := by
  cases n with
  | ofNat n => exact .inl ((digitRun_digits n).2.1 c hc)
  | negSucc n =>
    rcases List.mem_cons.1 hc with hsign | hdigit
    · exact .inr hsign
    · exact .inl ((digitRun_digits (n + 1)).2.1 c hdigit)

theorem intText_ne_nil (n : Int) : intText n ≠ [] := by
  cases n with
  | ofNat n => exact (digitRun_digits n).1
  | negSucc n => exact List.cons_ne_nil _ _

/-! ## Floating-point numbers -/

/-- Zeros before the digits change nothing. -/
theorem digitRun_zeros (k n : Nat) : DigitRun (List.replicate k '0' ++ digits n) n := by
  obtain ⟨hne, hdigits, hn⟩ := digitRun_digits n
  refine ⟨List.append_ne_nil_of_right_ne_nil _ hne, List.forall_mem_append.2 ⟨?_, hdigits⟩, ?_⟩
  · intro c hc
    rw [List.eq_of_mem_replicate hc]
    rfl
  · rw [Nat.ofDigitChars_append, Nat.ofDigitChars_replicate_zero, Nat.mul_zero, ← hn]

/-- Zeros behind the digits are powers of ten. -/
theorem digitRun_append_zeros (n k : Nat) :
    DigitRun (digits n ++ List.replicate k '0') (n * 10 ^ k) := by
  obtain ⟨hne, hdigits, hn⟩ := digitRun_digits n
  refine ⟨List.append_ne_nil_of_left_ne_nil hne _, List.forall_mem_append.2 ⟨hdigits, ?_⟩, ?_⟩
  · intro c hc
    rw [List.eq_of_mem_replicate hc]
    rfl
  · rw [Nat.ofDigitChars_append, Nat.ofDigitChars_replicate_zero, ← hn, Nat.mul_comm]

/-- Digits around a point are counted in units of the last place. -/
theorem decimalText_point {whole fraction : List Char} {n e : Nat}
    (hdigits : DigitRun (whole ++ fraction) n) (he : fraction.length = e + 1) :
    DecimalText (whole ++ '.' :: fraction) n (.negSucc e) := by
  have htext := DecimalText.point hdigits .absent
  rw [List.append_nil, he] at htext
  have hexponent : (0 : Int) - ((e + 1 : Nat) : Int) = .negSucc e := Int.zero_sub _
  rwa [hexponent] at htext

/-- The positional text of a decimal number stands for a number that is read as the same. -/
theorem decimalText_positional (d : Decimal) : ∃ n e, DecimalText (d.positional false) n e ∧
    ∀ f : Format, f.ofDecimal n e = f.ofDecimal d.digits d.exponent := by
  obtain ⟨n, exponent⟩ := d
  cases exponent with
  | ofNat e =>
    refine ⟨n * 10 ^ e, 0, ?_, fun f => f.ofDecimal_mul_pow n e⟩
    have htext := DecimalText.whole (digitRun_append_zeros n e) .absent
    simp only [Decimal.positional, Bool.false_eq_true, if_false]
    exact htext
  | negSucc e =>
    refine ⟨n, .negSucc e, ?_, fun f => rfl⟩
    simp only [Decimal.positional]
    split
    · next hplaces =>
      refine decimalText_point ?_ ?_
      · rw [List.take_append_drop]
        exact digitRun_digits n
      · rw [List.length_drop]
        omega
    · next hplaces =>
      have hzeros := digitRun_zeros (e + 1 - (digits n).length + 1) n
      rw [List.replicate_succ, List.cons_append, ← List.singleton_append] at hzeros
      refine decimalText_point hzeros ?_
      rw [List.length_append, List.length_replicate]
      omega

/-- A character that the text of a number begins with. -/
def Leading (c : Char) : Prop :=
  c.isDigit = true ∨ c ∈ ['-', '.', 'i', 'N']

theorem Leading.not_blank {c : Char} (h : Leading c) : isBlank c = false := by
  rcases h with hdigit | hother
  · simp only [Char.isDigit, Bool.and_eq_true, decide_eq_true_eq, ge_iff_le,
      UInt32.le_iff_toNat_le] at hdigit
    have hlow : 48 ≤ c.toNat := hdigit.1
    have hhigh : c.toNat ≤ 57 := hdigit.2
    simp [isBlank]
    omega
  · simp only [List.mem_cons, List.not_mem_nil, or_false] at hother
    rcases hother with rfl | rfl | rfl | rfl <;> rfl

theorem Leading.ne_bracket {c : Char} (h : Leading c) : c ≠ '[' := by
  intro hc
  subst hc
  revert h
  unfold Leading
  decide

section Floats

variable {f : Format}

/-- The text of a finite magnitude is decimal and stands for it. -/
theorem decimalText_finite (hf : f.Ample) {m : Nat} (h : m < f.infinity) :
    ∃ n e, DecimalText (Notation.plain.finite f m) n e ∧ f.ofDecimal n e = m := by
  obtain ⟨n, e, htext, hread⟩ := decimalText_positional (f.shortest m)
  exact ⟨n, e, htext, by rw [hread, Format.ofDecimal_shortest hf h]⟩

/-- A bit pattern is its magnitude under its sign. -/
theorem signed_magnitude {bits : Nat} (h : bits < 2 * f.signWeight) :
    f.signed (f.isNegative bits) (f.magnitude bits) = bits := by
  have hpos : 0 < f.signWeight := by omega
  have hquotient : bits / f.signWeight < 2 := (Nat.div_lt_iff_lt_mul hpos).2 h
  have hsplit := Nat.div_add_mod bits f.signWeight
  rw [Format.signed, Format.isNegative, Format.magnitude]
  by_cases hzero : bits / f.signWeight = 0
  · rw [hzero, Nat.mul_zero, Nat.zero_add] at hsplit
    rw [hzero]
    exact hsplit
  · have hone : bits / f.signWeight = 1 :=
      Nat.le_antisymm (Nat.le_of_lt_succ hquotient) (Nat.pos_of_ne_zero hzero)
    rw [hone, Nat.mul_one] at hsplit
    rw [hone]
    exact hsplit

/-- The text of a magnitude up to infinity stands for it. -/
theorem magnitudeText_number (hf : f.Ample) {m : Nat} (h : m ≤ f.infinity) :
    let number := if m = f.infinity then ['i', 'n', 'f'] else Notation.plain.finite f m
    MagnitudeText f number m ∧ ∃ c t, number = c :: t ∧ Leading c := by
  intro number
  by_cases hm : m = f.infinity
  · have hnumber : number = ['i', 'n', 'f'] := if_pos hm
    rw [hnumber, hm]
    exact ⟨.infinity (.inl rfl), 'i', _, rfl, .inr (by decide)⟩
  · have hnumber : number = Notation.plain.finite f m := if_neg hm
    obtain ⟨n, e, htext, hread⟩ := decimalText_finite hf (Nat.lt_of_le_of_ne h hm)
    obtain ⟨c, t, hhead, hc⟩ := htext.head
    rw [hnumber]
    refine ⟨?_, c, t, hhead, ?_⟩
    · have hdecimal := MagnitudeText.decimal (f := f) htext
      rwa [hread] at hdecimal
    · rcases hc with hdigit | rfl
      · exact .inl hdigit
      · exact .inr (by decide)

/-- The text of a bit pattern stands for it, or for a NaN if it is one. -/
theorem floatLiteral_text (hf : f.Ample) {bits : Nat} (h : bits < 2 * f.signWeight) :
    FloatLiteral f (Notation.plain.text f bits) (if f.isNaN bits then f.quietNaN else bits) ∧
      ∃ c t, Notation.plain.text f bits = c :: t ∧ Leading c := by
  rw [Notation.text, Format.isNaN]
  by_cases hnan : f.infinity < f.magnitude bits
  · simp only [hnan, if_true, decide_true]
    exact ⟨.bare (.nan rfl), 'N', _, rfl, .inr (by decide)⟩
  · obtain ⟨hnumber, hhead⟩ := magnitudeText_number hf (Nat.le_of_not_lt hnan)
    have hsigned := signed_magnitude h
    simp only [hnan, if_false, decide_false, Bool.false_eq_true]
    cases hnegative : f.isNegative bits with
    | true =>
      rw [hnegative] at hsigned
      rw [if_pos rfl]
      refine ⟨?_, '-', _, rfl, .inr (by decide)⟩
      conv_rhs => rw [← hsigned]
      exact .minus hnumber
    | false =>
      rw [hnegative] at hsigned
      rw [if_neg Bool.false_ne_true]
      refine ⟨?_, hhead⟩
      conv_rhs => rw [← hsigned]
      exact .bare hnumber

end Floats

/-! ## Numbers -/

namespace Value

/-- The text that stands for a value: that of a number names its kind. -/
def literal (v : Value) : String :=
  if v.kind = .bool ∨ v.kind = .list then v.text else v.text ++ v.kind.name

/-- The same value, or a NaN for a NaN of the same width. -/
inductive SameUpToNaN : Value → Value → Prop where
  | refl (v : Value) : SameUpToNaN v v
  | nan32 {a b : UInt32} (ha : Format.single.isNaN a.toNat = true)
      (hb : Format.single.isNaN b.toNat = true) : SameUpToNaN (.f32 a) (.f32 b)
  | nan64 {a b : UInt64} (ha : Format.double.isNaN a.toNat = true)
      (hb : Format.double.isNaN b.toNat = true) : SameUpToNaN (.f64 a) (.f64 b)

theorem leading_intText (n : Int) : ∃ c t, intText n = c :: t ∧ Leading c := by
  obtain ⟨c, t, htext⟩ := List.exists_cons_of_ne_nil (intText_ne_nil n)
  refine ⟨c, t, htext, ?_⟩
  rcases mem_intText (n := n) (htext ▸ List.mem_cons_self) with hdigit | rfl
  · exact .inl hdigit
  · exact .inr (by decide)

/-- The text of a number is a literal of its kind. -/
theorem numberLiteral_chars {v : Value} (hb : v.kind ≠ .bool) (hl : v.kind ≠ .list) :
    (∃ w, NumberLiteral v.kind (v.chars .plain) w ∧ v.SameUpToNaN w) ∧
      ∃ c t, v.chars .plain = c :: t ∧ Leading c := by
  cases v with
  | bool b => exact absurd rfl hb
  | list xs => exact absurd rfl hl
  | i32 n =>
    have hliteral := NumberLiteral.i32 (intLiteral_intText n.toInt) n.le_toInt
      (Int.le_of_lt_add_one n.toInt_lt)
    rw [Int32.ofInt_toInt] at hliteral
    exact ⟨⟨_, hliteral, .refl _⟩, leading_intText n.toInt⟩
  | i64 n =>
    have hliteral := NumberLiteral.i64 (intLiteral_intText n.toInt) n.le_toInt
      (Int.le_of_lt_add_one n.toInt_lt)
    rw [Int64.ofInt_toInt] at hliteral
    exact ⟨⟨_, hliteral, .refl _⟩, leading_intText n.toInt⟩
  | f32 bits =>
    obtain ⟨htext, hhead⟩ := floatLiteral_text Format.ample_single
      (show bits.toNat < 2 * Format.single.signWeight from bits.toNat_lt)
    refine ⟨⟨_, .f32 htext, ?_⟩, hhead⟩
    cases hnan : Format.single.isNaN bits.toNat with
    | true =>
      rw [if_pos rfl]
      exact .nan32 hnan (by decide)
    | false =>
      rw [if_neg Bool.false_ne_true, UInt32.ofNat_toNat]
      exact .refl _
  | f64 bits =>
    obtain ⟨htext, hhead⟩ := floatLiteral_text Format.ample_double
      (show bits.toNat < 2 * Format.double.signWeight from bits.toNat_lt)
    refine ⟨⟨_, .f64 htext, ?_⟩, hhead⟩
    cases hnan : Format.double.isNaN bits.toNat with
    | true =>
      rw [if_pos rfl]
      exact .nan64 hnan (by decide)
    | false =>
      rw [if_neg Bool.false_ne_true, UInt64.ofNat_toNat]
      exact .refl _

/-- A text whose ends belong to a number is read as the number that it stands for. -/
theorem parse_of_numberLiteral {t n : List Char} {k : Kind} {w : Value}
    (hhead : ∃ c rest, t = c :: rest ∧ Leading c)
    (hlast : ∃ before c, t = before ++ [c] ∧ Leading c)
    (hkind : KindText t k n) (hvalue : NumberLiteral k n w) : parse (String.ofList t) = .ok w := by
  obtain ⟨c, rest, ht, hc⟩ := hhead
  obtain ⟨before, d, ht', hd⟩ := hlast
  have hbare : Bare t := by
    refine ⟨fun e he => ?_, fun e he => ?_⟩
    · rw [ht] at he
      cases he
      exact hc.not_blank
    · rw [ht', List.getLast?_concat] at he
      cases he
      exact hd.not_blank
  have hlike : NumberLike t := by
    refine ⟨?_, ?_, fun b hb => ?_⟩
    · rw [ht]
      exact List.cons_ne_nil c rest
    · rw [ht]
      exact fun hopen => hc.ne_bracket (Option.some.inj hopen)
    · have he : (boolText b).getLast? = some 'e' := by cases b <;> rfl
      rw [← hb, ht', List.getLast?_concat] at he
      cases he
      revert hd
      unfold Leading
      decide
  rw [parse, String.toList_ofList, trim_of_bare hbare]
  exact (Reads.number hlike hkind hvalue).ofTrimmed_eq

/-- A suffix is a letter and two digits. -/
theorem suffix_spelled : ∀ e ∈ suffixes, ∃ c d d', e.1 = [c, d, d'] ∧
    (c = 'i' ∨ c = 'f') ∧ d'.isDigit = true := by
  simp only [suffixes, List.forall_mem_cons]
  exact ⟨⟨_, _, _, rfl, .inl rfl, rfl⟩, ⟨_, _, _, rfl, .inl rfl, rfl⟩,
    ⟨_, _, _, rfl, .inr rfl, rfl⟩, ⟨_, _, _, rfl, .inr rfl, rfl⟩, nofun⟩

/-- The name of the kind of a number is its suffix. -/
theorem mem_suffixes {k : Kind} (hb : k ≠ .bool) (hl : k ≠ .list) :
    (k.name.toList, k) ∈ suffixes := by
  cases k with
  | bool => exact absurd rfl hb
  | list => exact absurd rfl hl
  | _ => decide

/-- A number is read back from its text and the name of its kind. -/
theorem parse_number {v : Value} (hb : v.kind ≠ .bool) (hl : v.kind ≠ .list) :
    ∃ w, parse (v.text ++ v.kind.name) = .ok w ∧ v.SameUpToNaN w := by
  obtain ⟨⟨w, hliteral, hsame⟩, c, rest, hhead, hc⟩ := numberLiteral_chars hb hl
  have hsuffix := mem_suffixes hb hl
  obtain ⟨e, d, d', hname, -, hd⟩ : ∃ e d d', v.kind.name.toList = [e, d, d'] ∧ _ :=
    suffix_spelled _ hsuffix
  have htext : v.text ++ v.kind.name = String.ofList (v.chars .plain ++ v.kind.name.toList) := by
    rw [text, String.ofList_append, String.ofList_toList]
  refine ⟨w, ?_, hsame⟩
  rw [htext]
  refine parse_of_numberLiteral ⟨c, rest ++ v.kind.name.toList, ?_, hc⟩
    ⟨v.chars .plain ++ [e, d], d', ?_, .inl hd⟩ (.suffixed hsuffix rfl) hliteral
  · rw [hhead, List.cons_append]
  · rw [hname, List.append_assoc]
    rfl

/-- A 32-bit integer is read back from its text alone. -/
theorem parse_i32 (n : Int32) : parse (Value.i32 n).text = .ok (.i32 n) := by
  obtain ⟨⟨w, hliteral, hsame⟩, hhead⟩ := numberLiteral_chars (v := .i32 n) nofun nofun
  cases hsame
  have hnot {c : Char} (hdigit : c.isDigit = false) (hsign : c ≠ '-') : c ∉ intText n.toInt := by
    intro hc
    rcases mem_intText hc with hc | hc
    · rw [hdigit] at hc
      cases hc
    · exact hsign hc
  have hbare : ∀ e ∈ suffixes, ∀ s, intText n.toInt ≠ s ++ e.1 := by
    intro e he s hs
    obtain ⟨c, d, d', hspelled, hc, -⟩ := suffix_spelled e he
    have hmem : c ∈ intText n.toInt := by
      rw [hs, hspelled]
      exact List.mem_append_right _ List.mem_cons_self
    rcases hc with rfl | rfl
    · exact hnot rfl (by decide) hmem
    · exact hnot rfl (by decide) hmem
  have hkind : KindText (intText n.toInt) .i32 (intText n.toInt) :=
    .plain hbare ⟨hnot rfl (by decide), hnot rfl (by decide), hnot rfl (by decide)⟩
  refine parse_of_numberLiteral hhead ⟨_, _, (List.dropLast_concat_getLast
    (intText_ne_nil n.toInt)).symm, ?_⟩ hkind hliteral
  rcases mem_intText (List.getLast_mem (intText_ne_nil n.toInt)) with hdigit | hsign
  · exact .inl hdigit
  · exact .inr (by rw [hsign]; decide)

/-! ## Lists and truth values -/

theorem bare_intText (n : Int) : Bare (intText n) := by
  have hmem {c : Char} (hc : c ∈ intText n) : isBlank c = false := by
    rcases mem_intText hc with hdigit | rfl
    · exact Leading.not_blank (.inl hdigit)
    · rfl
  exact ⟨fun c hc => hmem (List.mem_of_head? hc), fun c hc => hmem (List.mem_of_getLast? hc)⟩

/-- The text of an integer stands for an item, also behind a blank. -/
theorem itemText_intText (x : Int32) :
    ItemText (intText x.toInt) x ∧ ItemText (' ' :: intText x.toInt) x := by
  obtain ⟨⟨w, hliteral, hsame⟩, -⟩ := numberLiteral_chars (v := .i32 x) nofun nofun
  cases hsame
  have hbare := bare_intText x.toInt
  refine ⟨⟨_, ⟨hbare, [], [], ?_, nofun, nofun⟩, hliteral⟩,
    ⟨_, ⟨hbare, [' '], [], ?_, List.forall_mem_singleton.2 rfl, nofun⟩, hliteral⟩⟩
  · rw [List.nil_append, List.append_nil]
  · rw [List.append_nil]
    rfl

/-- A comma and a blank separate as a comma does, with the blanks in the pieces. -/
theorem intercalate_blank (t : List Char) (ts : List (List Char)) :
    commaSeparated (t :: ts) = [','].intercalate (t :: ts.map (' ' :: ·)) := by
  induction ts generalizing t with
  | nil => rfl
  | cons u ts ih =>
    have hblank : [','].intercalate ((' ' :: u) :: ts.map (' ' :: ·)) =
        ' ' :: [','].intercalate (u :: ts.map (' ' :: ·)) := by
      cases ts <;> rfl
    rw [List.map_cons, List.intercalate_cons_cons, hblank, ← ih u]
    rw [commaSeparated, commaSeparated, List.intercalate_cons_cons]
    simp only [List.append_assoc, List.cons_append, List.nil_append]

/-- The pieces of the text of a list: its items, each but the first behind a blank. -/
def itemPieces (x : Int32) (xs : List Int32) : List (List Char) :=
  intText x.toInt :: xs.map fun x => ' ' :: intText x.toInt

theorem itemsText_cons (x : Int32) (xs : List Int32) :
    itemsText (x :: xs) = bracketed (itemPieces x xs) := by
  rw [itemsText, bracketed, List.map_cons, intercalate_blank, List.map_map]
  rfl

theorem pieces_itemPieces (x : Int32) (xs : List Int32) :
    Pieces ([','].intercalate (itemPieces x xs)) (itemPieces x xs) := by
  have hfree (y : Int32) : ',' ∉ intText y.toInt := by
    intro hc
    rcases mem_intText hc with hc | hc
    · exact absurd hc (by decide)
    · exact absurd hc (by decide)
  refine ⟨List.cons_ne_nil _ _, rfl, List.forall_mem_cons.2 ⟨hfree x, ?_⟩⟩
  intro piece hpiece hc
  obtain ⟨y, -, rfl⟩ := List.mem_map.1 hpiece
  rcases List.mem_cons.1 hc with hc | hc
  · exact absurd hc (by decide)
  · exact hfree y hc

theorem items_itemPieces (x : Int32) (xs : List Int32) :
    List.Forall₂ ItemText (itemPieces x xs) (x :: xs) := by
  refine .cons (itemText_intText x).1 ?_
  rw [List.forall₂_map_left_iff, List.forall₂_same]
  exact fun y _ => (itemText_intText y).2

theorem exists_not_blank_itemPieces (x : Int32) (xs : List Int32) :
    ∃ c ∈ [','].intercalate (itemPieces x xs), isBlank c = false := by
  obtain ⟨c, rest, hhead, hc⟩ := leading_intText x.toInt
  refine ⟨c, ?_, hc.not_blank⟩
  rw [itemPieces, hhead]
  cases xs <;> exact List.mem_cons_self

/-- A list is read back from its text. -/
theorem parse_list (xs : List Int32) : parse (Value.list xs).text = .ok (.list xs) := by
  rw [parse, text, String.toList_ofList]
  cases xs with
  | nil => rfl
  | cons x xs =>
    have hreads := Reads.items (exists_not_blank_itemPieces x xs) (pieces_itemPieces x xs)
      (items_itemPieces x xs)
    rw [chars, itemsText_cons, trim_of_bare (bare_bracketed _)]
    exact hreads.ofTrimmed_eq

/-- A truth value is read back from its text. -/
theorem parse_bool (b : Bool) : parse (Value.bool b).text = .ok (.bool b) := by
  rw [parse, text, String.toList_ofList]
  cases b <;> rfl

/-! ## The result -/

/-- Every value is read back from its literal, and 32-bit integers also without the name of their
kind. -/
theorem parse_literal (v : Value) : (∃ w, parse v.literal = .ok w ∧ v.SameUpToNaN w) ∧
    ∀ n, v = .i32 n → parse v.text = .ok v := by
  refine ⟨?_, fun n hn => hn ▸ parse_i32 n⟩
  by_cases hplain : v.kind = .bool ∨ v.kind = .list
  · rw [literal, if_pos hplain]
    cases v with
    | bool b => exact ⟨_, parse_bool b, .refl _⟩
    | list xs => exact ⟨_, parse_list xs, .refl _⟩
    | _ => simp [kind] at hplain
  · rw [literal, if_neg hplain]
    rw [not_or] at hplain
    exact parse_number hplain.1 hplain.2

end Value

end WasmGuest
