import Mathlib.Data.List.TakeWhile
import WasmGuest.Value.Literal

/-!
# Blanks, pieces and suffixes

What the three cuts of a literal come to: the blanks taken off its ends, the
pieces between its commas, and the suffix taken off its end.  Each cut is said
without an algorithm, and the function that makes it is the only way to make it.

* `Stripped`, `trim_eq_iff`: a text and what is left of it without the blanks at its
  two ends.
* `Pieces`, `splitCommas_eq_iff`: a text and the pieces that its commas separate.
* `dropSuffix?_eq_some_iff`: a text and what stands before a suffix.
-/

namespace WasmGuest

namespace Text

/-! ## Blanks at the ends -/

/-- The text neither begins nor ends with a blank. -/
structure Bare (t : List Char) : Prop where
  head : ∀ c, t.head? = some c → isBlank c = false
  last : ∀ c, t.getLast? = some c → isBlank c = false

/-- What is left of `s` without the blanks at its two ends. -/
def Stripped (s t : List Char) : Prop :=
  Bare t ∧ ∃ before behind, s = before ++ t ++ behind ∧
    (∀ c ∈ before, isBlank c = true) ∧ ∀ c ∈ behind, isBlank c = true

/-- The characters that are dropped are those up to the first that fails the test. -/
theorem dropWhile_eq_iff {p : Char → Bool} {s t : List Char} : s.dropWhile p = t ↔
    ∃ before, s = before ++ t ∧ (∀ c ∈ before, p c = true) ∧
      ∀ c, t.head? = some c → p c = false := by
  constructor
  · intro h
    have hstop := List.head?_dropWhile_not p s
    rw [h] at hstop
    refine ⟨s.takeWhile p, ?_, fun c hc => List.mem_takeWhile_imp hc, fun c hc => ?_⟩
    · rw [← h, List.takeWhile_append_dropWhile]
    · rw [hc] at hstop
      exact hstop
  · intro h
    obtain ⟨before, rfl, hbefore, hstop⟩ := h
    rw [List.dropWhile_append_of_pos hbefore]
    cases t with
    | nil => rfl
    | cons c t => rw [List.dropWhile_cons_of_neg (by rw [hstop c rfl]; exact Bool.false_ne_true)]

theorem trimStart_eq_iff {s t : List Char} : trimStart s = t ↔ ∃ before, s = before ++ t ∧
    (∀ c ∈ before, isBlank c = true) ∧ ∀ c, t.head? = some c → isBlank c = false :=
  dropWhile_eq_iff

theorem trimEnd_eq_iff {s t : List Char} : trimEnd s = t ↔ ∃ behind, s = t ++ behind ∧
    (∀ c ∈ behind, isBlank c = true) ∧ ∀ c, t.getLast? = some c → isBlank c = false := by
  rw [trimEnd, List.reverse_eq_iff, dropWhile_eq_iff]
  constructor
  · intro h
    obtain ⟨before, hs, hbefore, hstop⟩ := h
    refine ⟨before.reverse, ?_, fun c hc => hbefore c (List.mem_reverse.1 hc), fun c hc => ?_⟩
    · rw [← List.reverse_inj, hs, List.reverse_append, List.reverse_reverse]
    · exact hstop c (by rw [List.head?_reverse, hc])
  · intro h
    obtain ⟨behind, hs, hbehind, hstop⟩ := h
    refine ⟨behind.reverse, ?_, fun c hc => hbehind c (List.mem_reverse.1 hc), fun c hc => ?_⟩
    · rw [hs, List.reverse_append]
    · exact hstop c (by rw [← hc, List.head?_reverse])

/-- The text without the blanks at its ends is the only one that is left of it. -/
theorem trim_eq_iff {s t : List Char} : trim s = t ↔ Stripped s t := by
  rw [trim]
  constructor
  · intro h
    obtain ⟨before, hs, hbefore, hhead⟩ := trimStart_eq_iff.1 (Eq.refl (trimStart s))
    obtain ⟨behind, hmiddle, hbehind, hlast⟩ := trimEnd_eq_iff.1 h
    rw [hmiddle] at hs hhead
    refine ⟨⟨fun c hc => hhead c ?_, hlast⟩, before, behind, ?_, hbefore, hbehind⟩
    · rw [List.head?_append, hc]
      rfl
    · rw [hs, List.append_assoc]
  · intro h
    obtain ⟨⟨hhead, hlast⟩, before, behind, hs, hbefore, hbehind⟩ := h
    by_cases hempty : t = []
    · have hblank : trimStart s = [] := by
        refine trimStart_eq_iff.2 ⟨before ++ behind, ?_, ?_, nofun⟩
        · rw [hs, hempty, List.append_nil, List.append_nil]
        · intro c hc
          rcases List.mem_append.1 hc with hc | hc
          · exact hbefore c hc
          · exact hbehind c hc
      rw [hblank, hempty]
      rfl
    · have hmiddle : trimStart s = t ++ behind := by
        refine trimStart_eq_iff.2 ⟨before, ?_, hbefore, fun c hc => hhead c ?_⟩
        · rw [hs, List.append_assoc]
        · obtain ⟨first, rest, rfl⟩ := List.exists_cons_of_ne_nil hempty
          exact hc
      rw [hmiddle]
      exact trimEnd_eq_iff.2 ⟨behind, rfl, hbehind, hlast⟩

theorem stripped_trim (s : List Char) : Stripped s (trim s) :=
  trim_eq_iff.1 rfl

/-- A text without blanks at its ends is left as it is. -/
theorem trim_of_bare {t : List Char} (h : Bare t) : trim t = t :=
  trim_eq_iff.2 ⟨h, [], [], by rw [List.nil_append, List.append_nil], nofun, nofun⟩

/-- Nothing is left of blanks alone. -/
theorem trim_eq_nil_iff {s : List Char} : trim s = [] ↔ ∀ c ∈ s, isBlank c = true := by
  rw [trim_eq_iff]
  constructor
  · intro h c hc
    obtain ⟨-, before, behind, rfl, hbefore, hbehind⟩ := h
    rw [List.append_nil, List.mem_append] at hc
    rcases hc with hc | hc
    · exact hbefore c hc
    · exact hbehind c hc
  · intro h
    exact ⟨⟨nofun, nofun⟩, s, [], by rw [List.append_nil, List.append_nil], h, nofun⟩

end Text

/-! ## Pieces between commas -/

/-- The pieces that the commas of `s` separate. -/
structure Pieces (s : List Char) (pieces : List (List Char)) : Prop where
  ne_nil : pieces ≠ []
  joined : [','].intercalate pieces = s
  comma_notMem : ∀ piece ∈ pieces, ',' ∉ piece

theorem splitCommas_ne_nil (s : List Char) : splitCommas s ≠ [] := by
  fun_cases splitCommas s <;> exact List.cons_ne_nil _ _

theorem splitCommas_comma (s : List Char) : splitCommas (',' :: s) = [] :: splitCommas s := by
  rw [splitCommas, if_pos rfl]

theorem splitCommas_cons {c : Char} (h : c ≠ ',') {s : List Char} {piece : List Char}
    {pieces : List (List Char)} (hs : splitCommas s = piece :: pieces) :
    splitCommas (c :: s) = (c :: piece) :: pieces := by
  rw [splitCommas, if_neg h, hs]

theorem pieces_splitCommas (s : List Char) : Pieces s (splitCommas s) := by
  induction s with
  | nil => exact ⟨List.cons_ne_nil _ _, rfl, by simp [splitCommas]⟩
  | cons c s ih =>
    obtain ⟨piece, pieces, hs⟩ := List.exists_cons_of_ne_nil (splitCommas_ne_nil s)
    obtain ⟨-, hjoined, hfree⟩ := ih
    by_cases hc : c = ','
    · subst hc
      rw [splitCommas_comma]
      refine ⟨List.cons_ne_nil _ _, ?_, List.forall_mem_cons.2 ⟨List.not_mem_nil, hfree⟩⟩
      rw [List.intercalate_cons_of_ne_nil (splitCommas_ne_nil s), hjoined]
      rfl
    · rw [splitCommas_cons hc hs]
      rw [hs] at hjoined hfree
      obtain ⟨hpiece, hpieces⟩ := List.forall_mem_cons.1 hfree
      refine ⟨List.cons_ne_nil _ _, ?_, List.forall_mem_cons.2 ⟨?_, hpieces⟩⟩
      · cases pieces with
        | nil =>
          rw [List.intercalate_singleton] at hjoined ⊢
          rw [hjoined]
        | cons next pieces =>
          rw [List.intercalate_cons_cons] at hjoined ⊢
          rw [← hjoined]
          rfl
      · intro hmem
        rcases List.mem_cons.1 hmem with hcomma | hmem
        · exact hc hcomma.symm
        · exact hpiece hmem

/-- A piece without a comma, followed by the end or by a comma, is the first one. -/
theorem splitCommas_append {piece s : List Char} (h : ',' ∉ piece) {pieces : List (List Char)}
    (hs : splitCommas s = [] :: pieces) : splitCommas (piece ++ s) = piece :: pieces := by
  induction piece with
  | nil => exact hs
  | cons c piece ih =>
    have hc : c ≠ ',' := fun hc => h (hc ▸ List.mem_cons_self)
    exact splitCommas_cons hc (ih fun hmem => h (List.mem_cons_of_mem c hmem))

/-- The pieces of a text are the only ones that its commas separate. -/
theorem splitCommas_eq_iff {s : List Char} {pieces : List (List Char)} :
    splitCommas s = pieces ↔ Pieces s pieces := by
  constructor
  · intro h
    subst h
    exact pieces_splitCommas s
  · intro h
    obtain ⟨hne, rfl, hfree⟩ := h
    induction pieces with
    | nil => exact absurd rfl hne
    | cons piece pieces ih =>
      obtain ⟨hpiece, hpieces⟩ := List.forall_mem_cons.1 hfree
      by_cases hlast : pieces = []
      · subst hlast
        have hsplit : splitCommas (piece ++ []) = [piece] := splitCommas_append hpiece rfl
        rw [List.append_nil] at hsplit
        rw [List.intercalate_singleton, hsplit]
      · have hrest : splitCommas (',' :: [','].intercalate pieces) = [] :: pieces := by
          rw [splitCommas_comma, ih hlast hpieces]
        rw [List.intercalate_cons_of_ne_nil hlast, List.append_assoc, List.singleton_append]
        exact splitCommas_append hpiece hrest

/-! ## Suffixes -/

theorem dropSuffix?_eq_some_iff {suffix s rest : List Char} :
    dropSuffix? suffix s = some rest ↔ s = rest ++ suffix := by
  rw [dropSuffix?]
  constructor
  · intro h
    split at h
    · next hends =>
      obtain ⟨before, rfl⟩ := List.isSuffixOf_iff_suffix.1 hends
      rw [List.length_append, Nat.add_sub_cancel, List.take_left] at h
      cases h
      rfl
    · cases h
  · intro h
    subst h
    rw [if_pos (List.isSuffixOf_iff_suffix.2 (List.suffix_append rest suffix)), List.length_append,
      Nat.add_sub_cancel, List.take_left]

theorem dropSuffix?_eq_none_iff {suffix s : List Char} :
    dropSuffix? suffix s = none ↔ ∀ rest, s ≠ rest ++ suffix := by
  constructor
  · intro h rest hs
    rw [dropSuffix?_eq_some_iff.2 hs] at h
    cases h
  · intro h
    cases hdrop : dropSuffix? suffix s with
    | none => rfl
    | some rest => exact absurd (dropSuffix?_eq_some_iff.1 hdrop) (h rest)

end WasmGuest
