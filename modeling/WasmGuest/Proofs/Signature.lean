import Mathlib.Data.List.Basic
import WasmGuest.Command
import WasmGuest.Proofs.Value.Splitting

/-!
# Reading signatures back

The text of a signature joins names by commas and puts an arrow between
parameters and results.  It says neither how many names there are nor, where the
results stand in parentheses, whether these enclose several results or belong to
the name of a single one.  Still there is one signature to a text: no name of a
type has a comma or an arrow in it, so the arrow ends the parameters, commas end
the names, and a comma tells several results from one.

* `Legible` is what all this asks of a name, and `Signature.Typed` says that the
  names of a signature are those of types.
* `intercalate_eq_iff`: joined names are the names between the commas.
* `Signature.text_eq_append`: a text as parameters and results;
  `append_arrowText_inj` takes it apart again.
* `TellsApart` puts texts and the cells of a table together, and
  `Signature.tells_apart` proves it for any two signatures.
-/

namespace WasmGuest

open Wasm (FuncType ValType)

/-! ## Names -/

/-- A name that cannot be taken for what stands around it: the comma between names, the arrow before
results, or the cell for no results. -/
structure Legible (name : String) : Prop where
  ne_empty : name ≠ ""
  comma_notMem : ',' ∉ name.toList
  arrow_notMem : '>' ∉ name.toList
  ne_unit : name ≠ "()"

/-- The parentheses in the names of reference types do no harm. -/
theorem legible_name (t : ValType) : Legible t.name := by
  cases t <;> exact ⟨by decide, by decide, by decide, by decide⟩

/-- The names of a signature are names of types. -/
structure Signature.Typed (s : Signature) : Prop where
  params : ∀ name ∈ s.params, ∃ t : ValType, t.name = name
  results : ∀ name ∈ s.results, ∃ t : ValType, t.name = name

/-- The signatures of functions are of this kind. -/
theorem typed_ofType (t : FuncType) : (Signature.ofType t).Typed where
  params _ h := by
    obtain ⟨p, -, hp⟩ := List.mem_map.1 h
    exact ⟨p, hp⟩
  results _ h := by
    obtain ⟨r, -, hr⟩ := List.mem_map.1 h
    exact ⟨r, hr⟩

section Names

variable {names names' : List String}

theorem legible_of_typed (h : ∀ name ∈ names, ∃ t : ValType, t.name = name) :
    ∀ name ∈ names, Legible name := by
  intro name hname
  obtain ⟨t, rfl⟩ := h name hname
  exact legible_name t

/-! ## Joined names -/

/-- What stands between the commas of joined names: the names, all but the first behind a blank. -/
def joinedPieces : List String → List (List Char)
  | [] => []
  | name :: names => name.toList :: names.map (' ' :: ·.toList)

theorem joinedPieces_inj (h : joinedPieces names = joinedPieces names') : names = names' := by
  cases names with
  | nil =>
    cases names' with
    | nil => rfl
    | cons => cases h
  | cons name names =>
    cases names' with
    | nil => cases h
    | cons name' names' =>
      obtain ⟨hhead, htail⟩ := List.cons.inj h
      have hspaced : Function.Injective fun s : String => ' ' :: s.toList :=
        fun _ _ hs => String.toList_inj.1 (List.cons.inj hs).2
      rw [String.toList_inj.1 hhead, List.map_injective_iff.2 hspaced htail]

theorem intercalate_joinedPieces (names : List String) :
    [','].intercalate (joinedPieces names) = (", ".intercalate names).toList := by
  rw [String.toList_intercalate]
  cases names with
  | nil => rfl
  | cons name names =>
    induction names generalizing name with
    | nil => rfl
    | cons next names ih =>
      -- A comma and the blank behind it: the blank is where the next piece begins.
      have hblank : [','].intercalate ((' ' :: next.toList) :: names.map (' ' :: ·.toList)) =
          ' ' :: [','].intercalate (joinedPieces (next :: names)) := by
        cases names <;> rfl
      show [','].intercalate
        (name.toList :: (' ' :: next.toList) :: names.map (' ' :: ·.toList)) = _
      rw [List.intercalate_cons_cons, hblank, ih next]
      simp only [List.map_cons, List.intercalate_cons_cons, List.append_assoc]
      rfl

/-- The commas of joined names separate the names. -/
theorem pieces_joinedPieces (hne : names ≠ []) (hlegible : ∀ name ∈ names, Legible name) :
    Pieces (", ".intercalate names).toList (joinedPieces names) := by
  obtain ⟨name, names, rfl⟩ := List.exists_cons_of_ne_nil hne
  refine ⟨List.cons_ne_nil _ _, intercalate_joinedPieces _, fun piece hpiece hcomma => ?_⟩
  rcases List.mem_cons.1 hpiece with rfl | hpiece
  · exact (hlegible name List.mem_cons_self).comma_notMem hcomma
  · obtain ⟨other, hother, rfl⟩ := List.mem_map.1 hpiece
    rcases List.mem_cons.1 hcomma with hblank | hcomma
    · exact absurd hblank (by decide)
    · exact (hlegible other (List.mem_cons_of_mem _ hother)).comma_notMem hcomma

theorem intercalate_ne_empty {name : String} (h : ∀ other ∈ name :: names, Legible other) :
    ", ".intercalate (name :: names) ≠ "" := by
  have hname := (h name List.mem_cons_self).ne_empty
  cases names with
  | nil => rwa [String.intercalate_singleton]
  | cons next names =>
    rw [String.intercalate_cons_cons, String.append_assoc]
    intro hempty
    exact hname (String.append_eq_empty_iff.1 hempty).1

/-- Joined names are those of one list only. -/
theorem intercalate_eq_iff (h : ∀ name ∈ names, Legible name)
    (h' : ∀ name ∈ names', Legible name) :
    ", ".intercalate names = ", ".intercalate names' ↔ names = names' := by
  constructor
  · intro heq
    cases names with
    | nil =>
      cases names' with
      | nil => rfl
      | cons name' names' => exact absurd heq.symm (intercalate_ne_empty h')
    | cons name names =>
      cases names' with
      | nil => exact absurd heq (intercalate_ne_empty h)
      | cons name' names' =>
        have hpieces := pieces_joinedPieces (List.cons_ne_nil name names) h
        have hpieces' := pieces_joinedPieces (List.cons_ne_nil name' names') h'
        rw [heq] at hpieces
        exact joinedPieces_inj ((splitCommas_eq_iff.2 hpieces).symm.trans
          (splitCommas_eq_iff.2 hpieces'))
  · rintro rfl
    rfl

theorem arrow_notMem_intercalate (h : ∀ name ∈ names, Legible name) :
    '>' ∉ (", ".intercalate names).toList := by
  induction names with
  | nil => exact List.not_mem_nil
  | cons name names ih =>
    obtain ⟨hname, hnames⟩ := List.forall_mem_cons.1 h
    cases names with
    | nil =>
      rw [String.intercalate_singleton]
      exact hname.arrow_notMem
    | cons next names =>
      rw [String.intercalate_cons_cons, String.toList_append, String.toList_append,
        List.mem_append, List.mem_append]
      rintro ((hmem | hmem) | hmem)
      · exact hname.arrow_notMem hmem
      · exact absurd hmem (by decide)
      · exact ih hnames hmem

end Names

/-! ## Texts -/

/-- The results of a signature that has some: a single one stands alone. -/
def enclosed : List String → String
  | [result] => result
  | results => "(" ++ ", ".intercalate results ++ ")"

/-- What stands behind the parameters. -/
def arrowText (results : List String) : String :=
  if results = [] then "" else " -> " ++ enclosed results

theorem Signature.text_eq_append (s : Signature) :
    s.text = "(" ++ ", ".intercalate s.params ++ ")" ++ arrowText s.results := by
  obtain ⟨params, results⟩ := s
  rcases results with _ | ⟨first, _ | ⟨second, results⟩⟩ <;> rfl

section Texts

variable {names names' results results' : List String}

theorem comma_mem_intercalate (first second : String) (names : List String) :
    ',' ∈ (", ".intercalate (first :: second :: names)).toList := by
  rw [String.intercalate_cons_cons, String.toList_append, String.toList_append]
  exact List.mem_append_left _ (List.mem_append_right _ (by decide))

theorem toList_arrowText (hne : results ≠ []) :
    (arrowText results).toList = ' ' :: '-' :: '>' :: ' ' :: (enclosed results).toList := by
  rw [arrowText, if_neg hne, String.toList_append]
  rfl

theorem arrow_mem_arrowText (hne : results ≠ []) : '>' ∈ (arrowText results).toList := by
  rw [toList_arrowText hne]
  exact .tail _ (.tail _ (.head _))

/-- A text without an arrow has no results. -/
theorem ne_append_arrowText {s s' : String} (hs : '>' ∉ s.toList) (hne : results ≠ []) :
    s ≠ s' ++ arrowText results := by
  rintro rfl
  rw [String.toList_append] at hs
  exact hs (List.mem_append_right _ (arrow_mem_arrowText hne))

/-- The first arrow of a text is the one before the results, if there are any. -/
theorem append_arrowText_inj {s s' : String} (hs : '>' ∉ s.toList) (hs' : '>' ∉ s'.toList)
    (heq : s ++ arrowText results = s' ++ arrowText results') :
    s = s' ∧ arrowText results = arrowText results' := by
  have hnil : arrowText [] = "" := rfl
  by_cases hnone : results = [] <;> by_cases hnone' : results' = []
  · rw [hnone, hnone', hnil, String.append_empty, String.append_empty] at heq
    exact ⟨heq, by rw [hnone, hnone']⟩
  · rw [hnone, hnil, String.append_empty] at heq
    exact absurd heq (ne_append_arrowText hs hnone')
  · rw [hnone', hnil, String.append_empty] at heq
    exact absurd heq.symm (ne_append_arrowText hs' hnone)
  · have hchars := congrArg String.toList heq
    rw [String.toList_append, String.toList_append] at hchars
    -- The first arrow is as far behind `s` as behind `s'`, so both have the same length.
    have hplace := congrArg (List.idxOf '>') hchars
    rw [List.idxOf_append_of_notMem hs, List.idxOf_append_of_notMem hs', toList_arrowText hnone,
      toList_arrowText hnone'] at hplace
    obtain ⟨hfront, hend⟩ := List.append_inj hchars (Nat.add_right_cancel hplace)
    exact ⟨String.toList_inj.1 hfront, String.toList_inj.1 hend⟩

theorem parenthesized_inj {s s' : String} (h : "(" ++ s ++ ")" = "(" ++ s' ++ ")") : s = s' := by
  have hchars := congrArg String.toList h
  simp only [String.toList_append] at hchars
  exact String.toList_inj.1 (List.append_cancel_left (List.append_cancel_right hchars))

theorem arrow_notMem_parenthesized (h : ∀ name ∈ names, Legible name) :
    '>' ∉ ("(" ++ ", ".intercalate names ++ ")").toList := by
  rw [String.toList_append, String.toList_append, List.mem_append, List.mem_append]
  rintro ((hmem | hmem) | hmem)
  · exact absurd hmem (by decide)
  · exact arrow_notMem_intercalate h hmem
  · exact absurd hmem (by decide)

theorem ne_enclosed_of_legible {result first second : String} (h : Legible result) :
    result ≠ enclosed (first :: second :: results) := by
  rintro rfl
  apply h.comma_notMem
  show ',' ∈ ("(" ++ ", ".intercalate (first :: second :: results) ++ ")").toList
  rw [String.toList_append, String.toList_append]
  exact List.mem_append_left _ (List.mem_append_right _ (comma_mem_intercalate _ _ _))

/-- A comma tells several results from a single one, whatever parentheses this has of its own. -/
theorem enclosed_inj (h : ∀ result ∈ results, Legible result)
    (h' : ∀ result ∈ results', Legible result) (hne : results ≠ []) (hne' : results' ≠ [])
    (heq : enclosed results = enclosed results') : results = results' := by
  rcases results with _ | ⟨first, _ | ⟨second, results⟩⟩
  · contradiction
  · rcases results' with _ | ⟨first', _ | ⟨second', results'⟩⟩
    · contradiction
    · exact congrArg ([·]) heq
    · exact absurd heq (ne_enclosed_of_legible (h first List.mem_cons_self))
  · rcases results' with _ | ⟨first', _ | ⟨second', results'⟩⟩
    · contradiction
    · exact absurd heq.symm (ne_enclosed_of_legible (h' first' List.mem_cons_self))
    · exact (intercalate_eq_iff h h').1 (parenthesized_inj heq)

theorem arrowText_inj (h : ∀ result ∈ results, Legible result)
    (h' : ∀ result ∈ results', Legible result) (heq : arrowText results = arrowText results') :
    results = results' := by
  by_cases hnone : results = [] <;> by_cases hnone' : results' = []
  · rw [hnone, hnone']
  · have hmem := arrow_mem_arrowText hnone'
    rw [← heq, hnone] at hmem
    exact absurd hmem (by decide)
  · have hmem := arrow_mem_arrowText hnone
    rw [heq, hnone'] at hmem
    exact absurd hmem (by decide)
  · rw [arrowText, arrowText, if_neg hnone, if_neg hnone'] at heq
    exact enclosed_inj h h' hnone hnone' (String.append_right_inj _ |>.1 heq)

/-- The cell for no results is not that of others. -/
theorem intercalate_ne_unit (h : ∀ result ∈ results, Legible result) :
    ", ".intercalate results ≠ "()" := by
  rcases results with _ | ⟨first, _ | ⟨second, results⟩⟩
  · decide
  · rw [String.intercalate_singleton]
    exact (h first List.mem_cons_self).ne_unit
  · intro hunit
    have hcomma := comma_mem_intercalate first second results
    rw [hunit] at hcomma
    exact absurd hcomma (by decide)

end Texts

/-! ## Signatures -/

namespace Signature

variable {s t : Signature}

theorem text_eq_iff (hs : s.Typed) (ht : t.Typed) :
    s.text = t.text ↔ s.params = t.params ∧ s.results = t.results := by
  have hparams := legible_of_typed hs.params
  have hparams' := legible_of_typed ht.params
  constructor
  · intro heq
    rw [text_eq_append, text_eq_append] at heq
    obtain ⟨hfront, hend⟩ := append_arrowText_inj (arrow_notMem_parenthesized hparams)
      (arrow_notMem_parenthesized hparams') heq
    exact ⟨(intercalate_eq_iff hparams hparams').1 (parenthesized_inj hfront),
      arrowText_inj (legible_of_typed hs.results) (legible_of_typed ht.results) hend⟩
  · rintro ⟨hp, hr⟩
    rw [text_eq_append, text_eq_append, hp, hr]

/-- The cell of the results is that of a list of names, or of none. -/
theorem signatureCells_eq (s : Signature) : Command.signatureCells (some s) =
    [", ".intercalate s.params,
      if s.results = [] then "()" else ", ".intercalate s.results] := by
  obtain ⟨params, results⟩ := s
  cases results <;> rfl

theorem signatureCells_eq_iff (hs : s.Typed) (ht : t.Typed) :
    Command.signatureCells (some s) = Command.signatureCells (some t) ↔
      s.params = t.params ∧ s.results = t.results := by
  have hresults := legible_of_typed hs.results
  have hresults' := legible_of_typed ht.results
  rw [signatureCells_eq, signatureCells_eq]
  constructor
  · intro heq
    simp only [List.cons.injEq, and_true] at heq
    obtain ⟨hp, hr⟩ := heq
    have hparams := legible_of_typed hs.params
    refine ⟨(intercalate_eq_iff hparams (legible_of_typed ht.params)).1 hp, ?_⟩
    split_ifs at hr with hnone hnone' hnone'
    · rw [hnone, hnone']
    · exact absurd hr.symm (intercalate_ne_unit hresults')
    · exact absurd hr (intercalate_ne_unit hresults)
    · exact (intercalate_eq_iff hresults hresults').1 hr
  · rintro ⟨hp, hr⟩
    rw [hp, hr]

/-- Two signatures show as the same only if they have the same parameters and the same results. -/
structure TellsApart (s t : Signature) : Prop where
  text : s.text = t.text ↔ s.params = t.params ∧ s.results = t.results
  cells : Command.signatureCells (some s) = Command.signatureCells (some t) ↔
    s.params = t.params ∧ s.results = t.results

/-- Neither the text of a signature nor its cells in a table can be read in two ways. -/
theorem tells_apart (hs : s.Typed) (ht : t.Typed) : TellsApart s t where
  text := text_eq_iff hs ht
  cells := signatureCells_eq_iff hs ht

/-- One reference is in parentheses already, as two are, and is told from the two. -/
theorem tells_apart_references :
    let one := ofType ⟨[], [.funcref]⟩
    let two := ofType ⟨[], [.funcref, .funcref]⟩
    one.Typed ∧ two.Typed ∧ TellsApart one two ∧
      one.text = "() -> (ref null func)" ∧
      two.text = "() -> ((ref null func), (ref null func))" := by
  intro one two
  have hone := typed_ofType ⟨[], [.funcref]⟩
  have htwo := typed_ofType ⟨[], [.funcref, .funcref]⟩
  exact ⟨hone, htwo, tells_apart hone htwo, by decide, by decide⟩

end Signature

end WasmGuest
