import Mathlib.Data.List.Lex
import WasmGuest.Command
import WasmGuest.Proofs.Instance.Session
import WasmGuest.Proofs.Scenario.Reading
import WasmGuest.Proofs.Text.ByteOrder
import WasmGuest.Proofs.Wasm.Exports

/-!
# The listing of exports

Exports are sorted by kind and name, and the comparison does not look at
signatures.  In a valid module it need not: no two exports have the same name, so
the comparison is strict, and a set of exports has one listing, whatever the order
in which they are declared.

* `Describes`: an entry of a listing says what an export is.
* `Export.Before` is the strict order of listings, with names by their bytes;
  `le_iff` ties it to the comparison of the sort.
* `ListsExports` is what makes a list the listing of a module, and
  `ListsExports.eq_of_sameExports` that there is no other one.
* `Prepared.lists_canonically` puts both together, up to the table that is shown.
-/

namespace WasmGuest

open Wasm (Module ModuleExport FuncType GlobalType)

/-! ## Entries -/

/-- The entry of a listing for an export of a module: its name, its kind, and for a function, and
nothing else, its signature. -/
inductive Describes (m : Module) : ModuleExport → Export → Prop where
  | func {name : String} {k : Nat} {t : FuncType} (htype : m.funcTypes[k]? = some t) :
      Describes m ⟨name, .func k⟩ ⟨name, .func, some (.ofType t)⟩
  | global {name : String} {k : Nat} (hk : k < m.globalTypes.length) :
      Describes m ⟨name, .global k⟩ ⟨name, .global, none⟩
  | table {name : String} {k : Nat} (hk : k < m.tableTypes.length) :
      Describes m ⟨name, .table k⟩ ⟨name, .table, none⟩
  | memory {name : String} {k : Nat} (hk : k < m.memoryTypes.length) :
      Describes m ⟨name, .memory k⟩ ⟨name, .memory, none⟩

variable {m m' : Module}

theorem Describes.name_eq {e : ModuleExport} {x : Export} (h : Describes m e x) :
    x.name = e.name := by
  cases h <;> rfl

/-- There is an entry for every export of an item that exists. -/
theorem exists_describes {e : ModuleExport} (h : ∃ type, m.externType? e.item = some type) :
    ∃ x, Describes m e x := by
  obtain ⟨name, item⟩ := e
  obtain ⟨type, htype⟩ := h
  cases item with
  | func k =>
    obtain ⟨t, ht, -⟩ := Option.map_eq_some_iff.1 htype
    exact ⟨_, .func ht⟩
  | table k =>
    obtain ⟨t, ht, -⟩ := Option.map_eq_some_iff.1 htype
    exact ⟨_, .table (List.getElem?_eq_some_iff.1 ht).1⟩
  | memory k =>
    obtain ⟨t, ht, -⟩ := Option.map_eq_some_iff.1 htype
    exact ⟨_, .memory (List.getElem?_eq_some_iff.1 ht).1⟩
  | global k =>
    obtain ⟨t, ht, -⟩ := Option.map_eq_some_iff.1 htype
    exact ⟨_, .global (List.getElem?_eq_some_iff.1 ht).1⟩

/-- The entry that is made for an export. -/
def listed? (m : Module) (e : ModuleExport) : Option Export :=
  (m.externType? e.item).map fun t => ⟨e.name, (describe t).1, (describe t).2⟩

theorem Describes.listed?_eq {e : ModuleExport} {x : Export} (h : Describes m e x) :
    listed? m e = some x := by
  cases h with
  | func htype => simp [listed?, Module.externType?, htype, describe]
  | global hk | table hk | memory hk =>
    simp [listed?, Module.externType?, List.getElem?_eq_getElem hk, describe]

theorem exists_forall₂_describes {es : List ModuleExport}
    (h : ∀ e ∈ es, ∃ type, m.externType? e.item = some type) :
    ∃ declared, List.Forall₂ (Describes m) es declared := by
  induction es with
  | nil => exact ⟨[], .nil⟩
  | cons e es ih =>
    obtain ⟨x, hx⟩ := exists_describes (h e List.mem_cons_self)
    obtain ⟨declared, hdeclared⟩ := ih fun e' he' => h e' (List.mem_cons_of_mem e he')
    exact ⟨x :: declared, .cons hx hdeclared⟩

theorem filterMap_listed? {es : List ModuleExport} {declared : List Export}
    (h : List.Forall₂ (Describes m) es declared) : es.filterMap (listed? m) = declared := by
  induction h with
  | nil => rfl
  | cons hx _ ih => rw [List.filterMap_cons_some hx.listed?_eq, ih]

theorem exportsOf_eq_sorted {declared : List Export}
    (h : List.Forall₂ (Describes m) m.exports declared) : exportsOf m = Export.sorted declared :=
  congrArg Export.sorted (filterMap_listed? h)

theorem map_name_of_forall₂ {es : List ModuleExport} {declared : List Export}
    (h : List.Forall₂ (Describes m) es declared) :
    declared.map (·.name) = es.map (·.name) := by
  induction h with
  | nil => rfl
  | cons hx _ ih => rw [List.map_cons, List.map_cons, hx.name_eq, ih]

/-! ## The order of listings -/

namespace ItemKind

/-- All kinds, in the order of listings. -/
def all : List ItemKind :=
  [.func, .global, .table, .memory, .tag]

/-- A kind is listed before another one. -/
def Precedes (k k' : ItemKind) : Prop :=
  [k, k'].Sublist all

theorem precedes_iff {k k' : ItemKind} : k.Precedes k' ↔ k.rank < k'.rank := by
  unfold Precedes
  cases k <;> cases k' <;> decide

theorem rank_inj {k k' : ItemKind} : k.rank = k'.rank ↔ k = k' := by
  cases k <;> cases k' <;> decide

end ItemKind

namespace Export

/-- An export is listed before another one: by its kind, or by the bytes of its name if they are of
one kind. -/
def Before (x y : Export) : Prop :=
  x.kind.Precedes y.kind ∨ x.kind = y.kind ∧ Text.BytesBefore x.name y.name

theorem before_iff {x y : Export} :
    x.Before y ↔ x.kind.rank < y.kind.rank ∨ x.kind.rank = y.kind.rank ∧ x.name < y.name := by
  rw [Before, ItemKind.precedes_iff, ItemKind.rank_inj, Text.bytesBefore_iff_lt]

theorem le_iff {x y : Export} :
    x.le y ↔ x.kind.rank < y.kind.rank ∨ x.kind.rank = y.kind.rank ∧ x.name ≤ y.name := by
  simp [le]

theorem le_trans (x y z : Export) (hxy : x.le y) (hyz : y.le z) : x.le z := by
  rw [le_iff] at *
  rcases hxy with hxy | ⟨hxy, hname⟩ <;> rcases hyz with hyz | ⟨hyz, hname'⟩
  · exact .inl (hxy.trans hyz)
  · exact .inl (hyz ▸ hxy)
  · exact .inl (hxy ▸ hyz)
  · exact .inr ⟨hxy.trans hyz, String.le_trans hname hname'⟩

theorem le_total (x y : Export) : x.le y || y.le x := by
  rw [Bool.or_eq_true, le_iff, le_iff]
  rcases Nat.lt_trichotomy x.kind.rank y.kind.rank with h | h | h
  · exact .inl (.inl h)
  · exact (String.le_total x.name y.name).imp (fun hname => .inr ⟨h, hname⟩)
      fun hname => .inr ⟨h.symm, hname⟩
  · exact .inr (.inl h)

/-- Between exports of different names the comparison is strict. -/
theorem before_of_le {x y : Export} (hle : x.le y) (hne : x.name ≠ y.name) : x.Before y := by
  rw [before_iff]
  refine (le_iff.1 hle).imp_right fun ⟨hrank, hname⟩ => ⟨hrank, ?_⟩
  exact String.not_le.1 fun h => hne (String.le_antisymm hname h)

theorem Before.asymm {x y : Export} (h : x.Before y) : ¬ y.Before x := by
  rw [before_iff] at *
  rintro (h' | ⟨h', hname'⟩) <;> rcases h with h | ⟨h, hname⟩
  · omega
  · omega
  · omega
  · exact String.lt_asymm hname hname'

theorem perm_sorted (xs : List Export) : (sorted xs).Perm xs :=
  List.mergeSort_perm xs le

theorem pairwise_before_sorted {xs : List Export} (h : xs.Pairwise (·.name ≠ ·.name)) :
    (sorted xs).Pairwise Before := by
  have hle : (sorted xs).Pairwise (fun x y => x.le y) :=
    List.pairwise_mergeSort le_trans le_total xs
  have hne : (sorted xs).Pairwise (·.name ≠ ·.name) :=
    h.perm (perm_sorted xs).symm fun hne => hne.symm
  exact hle.imp₂ (fun _ _ hle hne => before_of_le hle hne) hne

end Export

/-! ## Listings -/

/-- A list is the listing of what a module exports. -/
structure ListsExports (m : Module) (xs : List Export) : Prop where
  /-- There is one entry for each export. -/
  complete : ∃ declared, List.Forall₂ (Describes m) m.exports declared ∧ xs.Perm declared
  increasing : xs.Pairwise Export.Before

/-- Two modules export the same, in whatever order they declare it. -/
def SameExports (m m' : Module) : Prop :=
  ∃ declared declared', List.Forall₂ (Describes m) m.exports declared ∧
    List.Forall₂ (Describes m') m'.exports declared' ∧ declared'.Perm declared

/-- A module exports the same if its exports are declared in another order. -/
theorem sameExports_of_perm {es : List ModuleExport} (hvalid : m.validate = .ok ())
    (h : es.Perm m.exports) : SameExports m { m with exports := es } := by
  obtain ⟨-, hexists⟩ := Module.exports_of_validate hvalid
  obtain ⟨declared, hdeclared⟩ := exists_forall₂_describes hexists
  obtain ⟨declared', hdeclared'⟩ : ∃ declared',
      List.Forall₂ (Describes { m with exports := es }) es declared' :=
    exists_forall₂_describes fun e he => hexists e (h.mem_iff.1 he)
  refine ⟨declared, declared', hdeclared, hdeclared', ?_⟩
  rw [← filterMap_listed? hdeclared, ← filterMap_listed? hdeclared']
  exact h.filterMap (listed? m)

theorem listsExports_exportsOf (hvalid : m.validate = .ok ()) : ListsExports m (exportsOf m) := by
  obtain ⟨hdistinct, hexists⟩ := Module.exports_of_validate hvalid
  obtain ⟨declared, hdeclared⟩ := exists_forall₂_describes hexists
  have hnames : declared.Pairwise (·.name ≠ ·.name) := by
    have hexports : (m.exports.map (·.name)).Pairwise (· ≠ ·) :=
      List.pairwise_map.2 (hdistinct.imp Ne.symm)
    rwa [← map_name_of_forall₂ hdeclared, List.pairwise_map] at hexports
  rw [exportsOf_eq_sorted hdeclared]
  exact ⟨⟨declared, hdeclared, Export.perm_sorted declared⟩, Export.pairwise_before_sorted hnames⟩

/-- What is exported has one listing, in whatever order it is declared. -/
theorem ListsExports.eq_of_sameExports {xs ys : List Export} (hxs : ListsExports m xs)
    (hys : ListsExports m' ys) (h : SameExports m m') : ys = xs := by
  obtain ⟨declared, hdeclared, hperm⟩ := hxs.complete
  obtain ⟨declared', hdeclared', hperm'⟩ := hys.complete
  obtain ⟨_, _, hsame, hsame', hdeclarations⟩ := h
  obtain rfl := (filterMap_listed? hsame).symm.trans (filterMap_listed? hdeclared)
  obtain rfl := (filterMap_listed? hsame').symm.trans (filterMap_listed? hdeclared')
  have hyx : ys.Perm xs := hperm'.trans (hdeclarations.trans hperm.symm)
  exact hyx.eq_of_pairwise (fun _ _ _ _ hxy hyx => absurd hyx hxy.asymm) hys.increasing
    hxs.increasing

/-- In a listing the functions come first. -/
theorem ListsExports.functions_first {xs : List Export} (h : ListsExports m xs) :
    xs.Pairwise fun x y => y.kind = .func → x.kind = .func := by
  refine h.increasing.imp fun {x y} hbefore hy => ?_
  rcases hbefore with hkind | ⟨hkind, -⟩
  · rw [ItemKind.precedes_iff, hy] at hkind
    exact absurd hkind (Nat.not_lt_zero _)
  · rwa [hkind]

/-! ## Listings that are shown -/

/-- The module that is inspected. -/
def Command.Inspect.Reads (i : Command.Inspect) (files : FileSystem) (p : Prepared) : Prop :=
  ∃ image, Image.load files i.path = .ok image ∧ Prepared.ofImage {} image = .ok p

/-- An inspection succeeds, and what it prints begins with a table of exports of these rows. -/
def Command.Inspect.ShowsExports (i : Command.Inspect) (files : FileSystem)
    (rows : List (List String)) : Prop :=
  (i.execute files).ending = .success ∧ ∃ rest, (i.execute files).output.written =
    Text.bytes (Text.boxTableText "Exports" (Command.headings :: rows) ++ "\n\n" ++ rest)

theorem Command.Inspect.Reads.showsExports {i : Command.Inspect} {files : FileSystem}
    {p : Prepared} (h : i.Reads files p) : i.ShowsExports files (p.exports.map exportRow) := by
  obtain ⟨image, hload, hcompile⟩ := h
  have hexecute : i.execute files = ⟨(({} : Output).writeLine (listing p.exports p.imports)).2,
      .success, shown i.debug [.loaded image.bytes.size image.format image.origin,
        .reached .compiled]⟩ := by
    rw [execute, hload]
    simp only [hcompile]
    rfl
  rw [ShowsExports, hexecute]
  refine ⟨rfl, (if p.imports.isEmpty then "no imports"
    else Text.boxTableText "Imports" (headings :: p.imports.map importRow)) ++ "\n", ?_⟩
  rw [← String.append_assoc]
  rfl

/-- The listing of a module that compiles is determined by what the module exports. -/
structure Prepared.ListsCanonically (p : Prepared) : Prop where
  lists : ListsExports p.module p.exports
  functions_first : p.exports.Pairwise fun x y => y.kind = .func → x.kind = .func
  agrees : ∀ {config : Config} {image : Image} {p' : Prepared},
    ofImage config image = .ok p' → SameExports p.module p'.module → p'.exports = p.exports
  /-- The commands that inspect two such modules show the same rows. -/
  inspected : ∀ {i i' : Command.Inspect} {files files' : FileSystem} {p' : Prepared},
    i.Reads files p → i'.Reads files' p' → SameExports p.module p'.module →
      i.ShowsExports files (p.exports.map Command.exportRow) ∧
        i'.ShowsExports files' (p.exports.map Command.exportRow)

theorem Prepared.lists_canonically {config : Config} {image : Image} {p : Prepared}
    (h : ofImage config image = .ok p) : p.ListsCanonically := by
  have hlists := listsExports_exportsOf (validate_of_ofImage h)
  have hagrees {config' : Config} {image' : Image} {p' : Prepared}
      (h' : ofImage config' image' = .ok p') (hsame : SameExports p.module p'.module) :
      p'.exports = p.exports :=
    hlists.eq_of_sameExports (listsExports_exportsOf (validate_of_ofImage h')) hsame
  refine ⟨hlists, hlists.functions_first, hagrees, fun hreads hreads' hsame => ?_⟩
  have hshows := hreads'.showsExports
  obtain ⟨image', -, hcompile⟩ := hreads'
  rw [hagrees hcompile hsame] at hshows
  exact ⟨hreads.showsExports, hshows⟩

/-! ## Three exports in two orders -/

def shelfText : String := "(module
  (func (result i32) (i32.const 7)) (func (param f64)) (memory 1)
  (export \"z\" (func 0)) (export \"m\" (memory 0)) (export \"a\" (func 1)))"

def turnedShelfText : String := "(module
  (func (result i32) (i32.const 7)) (func (param f64)) (memory 1)
  (export \"m\" (memory 0)) (export \"a\" (func 1)) (export \"z\" (func 0)))"

def shelfModule : Module where
  funcs := [⟨⟨[], [.i32]⟩, [], [.const (.i32 7)]⟩, ⟨⟨[.f64], []⟩, [], []⟩]
  memories := [⟨⟨1, none⟩, .w32⟩]
  exports := [⟨"z", .func 0⟩, ⟨"m", .memory 0⟩, ⟨"a", .func 1⟩]

def turnedShelfModule : Module :=
  { shelfModule with exports := [⟨"m", .memory 0⟩, ⟨"a", .func 1⟩, ⟨"z", .func 0⟩] }

theorem validate_shelfModule : shelfModule.validate = .ok () := by
  rfl

theorem parse_shelfText : ∃ cs, shelfText = String.ofList ('(' :: cs) ∧
    Wasm.Module.ofText ('(' :: cs) = .ok shelfModule := by
  refine ⟨_, by unfold shelfText; rfl, ?_⟩
  rfl

theorem parse_turnedShelfText : ∃ cs, turnedShelfText = String.ofList ('(' :: cs) ∧
    Wasm.Module.ofText ('(' :: cs) = .ok turnedShelfModule := by
  refine ⟨_, by unfold turnedShelfText; rfl, ?_⟩
  rfl

def shelfListing : List Export :=
  [⟨"a", .func, some ⟨["f64"], []⟩⟩, ⟨"z", .func, some ⟨[], ["i32"]⟩⟩, ⟨"m", .memory, none⟩]

theorem listsExports_shelfListing : ListsExports shelfModule shelfListing where
  complete := by
    refine ⟨[⟨"z", .func, some ⟨[], ["i32"]⟩⟩, ⟨"m", .memory, none⟩,
      ⟨"a", .func, some ⟨["f64"], []⟩⟩], ?_, by decide⟩
    exact .cons (.func (t := ⟨[], [.i32]⟩) rfl) (.cons (.memory (by decide))
      (.cons (.func (t := ⟨[.f64], []⟩) rfl) .nil))
  increasing := List.Pairwise.imp Export.before_iff.2 (by decide)

/-- Both orders of declaration are listed in the one order there is. -/
theorem lists_canonically_shelf :
    Prepared.ofImage {} (.ofText shelfText) = .ok ⟨{}, shelfModule⟩ ∧
      (Prepared.mk {} shelfModule).ListsCanonically ∧
      SameExports shelfModule turnedShelfModule ∧
      (Prepared.mk {} shelfModule).exports = shelfListing ∧
      (Prepared.mk {} turnedShelfModule).exports = shelfListing := by
  obtain ⟨_, htext, hread⟩ := parse_shelfText
  obtain ⟨_, htext', hread'⟩ := parse_turnedShelfText
  have himage := Prepared.ofImage_ofText {} htext hread validate_shelfModule
  have himage' := Prepared.ofImage_ofText {} htext' hread' (by rfl)
  have hcanonical := Prepared.lists_canonically himage
  have hsame : SameExports shelfModule turnedShelfModule :=
    sameExports_of_perm validate_shelfModule (by decide)
  have hlisting : (Prepared.mk {} shelfModule).exports = shelfListing :=
    listsExports_shelfListing.eq_of_sameExports hcanonical.lists
      (sameExports_of_perm validate_shelfModule (.refl _))
  exact ⟨himage, hcanonical, hsame, hlisting, (hcanonical.agrees himage' hsame).trans hlisting⟩

end WasmGuest
