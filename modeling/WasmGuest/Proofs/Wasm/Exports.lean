import WasmGuest.Guest.Block
import WasmGuest.Wasm.Validity

/-!
# What a valid module exports

The names under which a valid module exports its items are distinct, and each
item exists.  A look-up by name, which takes the first entry, therefore finds what
is exported.

* `Exports` says that an item of a type is exported under a name.
* `function?_eq_some_iff`: the look-up of a function finds every exported one.
* `memory?_eq_some_iff`: so does the look-up of a memory.
-/

namespace WasmGuest

open Wasm (ExternIndex ExternType FuncType MemoryType Module ModuleExport)

namespace Wasm

/-- The module exports an item of a type under a name. -/
def Module.Exports (m : Module) (name : String) (type : ExternType) : Prop :=
  ∃ e ∈ m.exports, e.name = name ∧ m.externType? e.item = some type

namespace Validity

/-- Distinct names are a property of pairs of exports. -/
theorem pairwise_of_distinctNames {es : List ModuleExport} (h : distinctNames es = .ok ()) :
    es.Pairwise fun e e' => e'.name ≠ e.name := by
  induction es with
  | nil => exact .nil
  | cons e es ih =>
    rw [distinctNames] at h
    split at h
    · cases h
    · next hnone =>
      refine .cons (fun e' he' hname => hnone ?_) (ih h)
      exact List.any_eq_true.2 ⟨e', he', by rw [hname, beq_self_eq_true]⟩

end Validity

theorem Module.externType?_eq_func_iff {m : Module} {item : ExternIndex} {type : FuncType} :
    m.externType? item = some (.func type) ↔
      ∃ k, item = .func k ∧ m.funcTypes[k]? = some type := by
  cases item <;> simp [externType?]

theorem Module.externType?_eq_memory_iff {m : Module} {item : ExternIndex} {type : MemoryType} :
    m.externType? item = some (.memory type) ↔
      ∃ k, item = .memory k ∧ m.memoryTypes[k]? = some type := by
  cases item <;> simp [externType?]

/-- A computation that succeeds does so step by step. -/
theorem exists_of_bind_eq_ok {ε α β : Type} {x : Except ε α} {f : α → Except ε β} {b : β}
    (h : x >>= f = .ok b) : ∃ a, x = .ok a ∧ f a = .ok b := by
  cases x with
  | error e => cases h
  | ok a => exact ⟨a, rfl, h⟩

/-- A check that a list passes is passed by each of its items. -/
theorem eq_ok_of_forM {ε α : Type} {check : α → Except ε Unit} {xs : List α}
    (h : xs.forM check = .ok ()) : ∀ x ∈ xs, check x = .ok () := by
  induction xs with
  | nil => exact fun x hx => nomatch hx
  | cons x xs ih =>
    obtain ⟨_, hx, hxs⟩ := exists_of_bind_eq_ok (h : check x >>= (fun _ => xs.forM check) = .ok ())
    exact List.forall_mem_cons.2 ⟨hx, ih hxs⟩

/-- The exports of a valid module have distinct names, and each of them exists. -/
theorem Module.exports_of_validate {m : Module} (h : m.validate = .ok ()) :
    m.exports.Pairwise (fun e e' => e'.name ≠ e.name) ∧
      ∀ e ∈ m.exports, ∃ type, m.externType? e.item = some type := by
  rw [Module.validate] at h
  obtain ⟨_, -, h⟩ := exists_of_bind_eq_ok h
  obtain ⟨_, -, h⟩ := exists_of_bind_eq_ok h
  split at h
  · cases h
  split at h
  · cases h
  obtain ⟨_, -, h⟩ := exists_of_bind_eq_ok h
  obtain ⟨_, hnames, h⟩ := exists_of_bind_eq_ok h
  obtain ⟨_, hitems, -⟩ := exists_of_bind_eq_ok h
  refine ⟨Validity.pairwise_of_distinctNames hnames, fun e he => ?_⟩
  have hexported := eq_ok_of_forM hitems e he
  rw [Validity.exported] at hexported
  split at hexported
  · next type htype => exact ⟨type, htype⟩
  · cases hexported

/-- The first entry under a name is the only one. -/
theorem Module.export?_eq_some_iff {m : Module} (h : m.validate = .ok ()) {name : String}
    {item : ExternIndex} :
    m.export? name = some item ↔ ∃ e ∈ m.exports, e.name = name ∧ e.item = item := by
  obtain ⟨hdistinct, -⟩ := exports_of_validate h
  rw [Module.export?, Option.map_eq_some_iff]
  constructor
  · rintro ⟨e, hfind, rfl⟩
    have hname := List.find?_some hfind
    exact ⟨e, List.mem_of_find?_eq_some hfind, by simpa using hname, rfl⟩
  · rintro ⟨e, he, rfl, rfl⟩
    refine ⟨e, ?_, rfl⟩
    generalize m.exports = es at hdistinct he
    induction hdistinct with
    | nil => cases he
    | @cons e' es hne _ ih =>
      rcases List.mem_cons.1 he with rfl | he
      · exact List.find?_cons_of_pos (beq_self_eq_true _)
      · rw [List.find?_cons_of_neg, ih he]
        rw [beq_iff_eq]
        exact (hne e he).symm

end Wasm

/-- The functions of a valid module are found under the names that it exports them. -/
theorem Guest.function?_eq_some_iff {m : Module} (h : m.validate = .ok ()) {name : String}
    {type : FuncType} :
    (∃ f, Guest.function? m name = some (f, type)) ↔ m.Exports name (.func type) := by
  constructor
  · rintro ⟨f, hf⟩
    rw [Guest.function?] at hf
    split at hf
    · next k hfound =>
      obtain ⟨e, he, hname, hitem⟩ := (Module.export?_eq_some_iff h).1 hfound
      obtain ⟨t, ht, ⟨⟩⟩ := Option.map_eq_some_iff.1 hf
      exact ⟨e, he, hname, Module.externType?_eq_func_iff.2 ⟨f, hitem, ht⟩⟩
    · cases hf
  · rintro ⟨e, he, hname, htype⟩
    obtain ⟨k, hitem, ht⟩ := Module.externType?_eq_func_iff.1 htype
    refine ⟨k, ?_⟩
    rw [Guest.function?, (Module.export?_eq_some_iff h).2 ⟨e, he, hname, hitem⟩]
    simp only [ht, Option.map_some]

/-- No function is found under a name exactly if none is exported under it. -/
theorem Guest.function?_eq_none_iff {m : Module} (h : m.validate = .ok ()) {name : String} :
    Guest.function? m name = none ↔ ∀ type, ¬ m.Exports name (.func type) := by
  constructor
  · intro hnone type hexport
    obtain ⟨f, hf⟩ := (function?_eq_some_iff h).2 hexport
    rw [hnone] at hf
    cases hf
  · intro hnone
    cases hfound : Guest.function? m name with
    | none => rfl
    | some found => exact absurd ((function?_eq_some_iff h).1 ⟨found.1, hfound⟩) (hnone found.2)

/-- A memory is found under a name exactly if one is exported under it. -/
theorem Guest.memory?_eq_some_iff {m : Module} (h : m.validate = .ok ()) {name : String} :
    (∃ x, Guest.memory? m name = some x) ↔ ∃ type, m.Exports name (.memory type) := by
  constructor
  · rintro ⟨x, hx⟩
    rw [Guest.memory?] at hx
    split at hx
    · next k hfound =>
      obtain ⟨e, he, hname, hitem⟩ := (Module.export?_eq_some_iff h).1 hfound
      obtain ⟨type, htype⟩ := (Module.exports_of_validate h).2 e he
      have hmemory := htype
      rw [hitem] at hmemory
      obtain ⟨type, -, rfl⟩ := Option.map_eq_some_iff.1 hmemory
      exact ⟨type, e, he, hname, htype⟩
    · cases hx
  · rintro ⟨type, e, he, hname, htype⟩
    obtain ⟨k, hitem, -⟩ := Module.externType?_eq_memory_iff.1 htype
    refine ⟨k, ?_⟩
    rw [Guest.memory?, (Module.export?_eq_some_iff h).2 ⟨e, he, hname, hitem⟩]

end WasmGuest
