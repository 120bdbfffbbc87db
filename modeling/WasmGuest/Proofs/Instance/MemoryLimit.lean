import Mathlib.Data.List.Forall2
import WasmGuest.Proofs.Instance.Moments
import WasmGuest.Proofs.Scenario.Reading

/-!
# The memories stay inside their limits

The memories of an instance are created at the least sizes its module asks for and grow
by whole pages.  None of them ever exceeds the limit of the configuration or its own
maximum, at any moment of any session, and none ever becomes smaller.

* `Becomes` says what a memory may turn into: it keeps its maximum, and if its size
  changes, the new size is larger and inside both bounds.
* `lasts_becomes`: everything that changes a store in a session keeps this for every
  memory, and so it holds between any two moments; `Prepared.within_initialStore` is the
  first moment.
* `Prepared.MemoryLimited` lists what is promised, and `Prepared.memory_limited` is
  the result for every valid module under every configuration.
* `imports_before_memory`: a module with imports is turned away for them, however
  large a memory it asks for.
-/

namespace WasmGuest

open Wasm (MemoryType Module Width pageSize)
open Machine (Code Contents Lasts Memory Store)

/-! ## What a memory may turn into -/

/-- The maximum is kept, and the size is kept, or becomes larger inside the bounds. -/
structure Becomes (maxMemory : Nat) (m m' : Memory) : Prop where
  max_eq : m'.max = m.max
  size_le : m.size ≤ m'.size
  bounded : m'.size = m.size ∨
    m'.size ≤ maxMemory ∧ ∀ max, m.max = some max → m'.size ≤ max * pageSize

namespace Becomes

variable {maxMemory : Nat} {a b d : Memory}

theorem refl (a : Memory) : Becomes maxMemory a a where
  max_eq := rfl
  size_le := Nat.le_refl _
  bounded := .inl rfl

theorem trans (h : Becomes maxMemory a b) (h' : Becomes maxMemory b d) :
    Becomes maxMemory a d where
  max_eq := h'.max_eq.trans h.max_eq
  size_le := Nat.le_trans h.size_le h'.size_le
  bounded := by
    have hbounded := h'.bounded
    rw [h.max_eq] at hbounded
    rcases hbounded with hsame | hinside
    · rw [hsame]
      exact h.bounded
    · exact .inr hinside

end Becomes

/-- What relates the memories of one list to those of the next relates the ends of a way. -/
theorem forall₂_trans {α β γ : Type} {R : α → β → Prop} {S : β → γ → Prop} {T : α → γ → Prop}
    (hRS : ∀ a b d, R a b → S b d → T a d) {as : List α} {bs : List β} {ds : List γ}
    (h : List.Forall₂ R as bs) (h' : List.Forall₂ S bs ds) : List.Forall₂ T as ds := by
  induction h generalizing ds with
  | nil =>
    cases h'
    exact .nil
  | cons hab _ ih =>
    cases h' with
    | cons hbd hrest => exact .cons (hRS _ _ _ hab hbd) (ih hrest)

/-- One memory changes and the others stay. -/
theorem forall₂_modify {R : Memory → Memory → Prop} (hrefl : ∀ m, R m m) {ms : List Memory}
    {x : Nat} {f : Memory → Memory} (hf : ∀ m, ms[x]? = some m → R m (f m)) :
    List.Forall₂ R ms (ms.modify x f) := by
  induction ms generalizing x with
  | nil =>
    rw [List.modify_nil]
    exact .nil
  | cons m ms ih =>
    cases x with
    | zero =>
      rw [List.modify_zero_cons]
      exact .cons (hf m rfl) (List.forall₂_same.2 fun m _ => hrefl m)
    | succ x =>
      rw [List.modify_succ_cons]
      exact .cons (hrefl m) (ih hf)

/-- Growing turns a memory into one inside the bounds, or leaves it. -/
theorem becomes_growMemory (maxMemory : Nat) (k : Contents) (x : Nat) (w : Width) (n : Nat) :
    List.Forall₂ (Becomes maxMemory) k.memories (k.growMemory maxMemory x w n).1.memories := by
  fun_cases Contents.growMemory k maxMemory x w n with
  | case1 m _ pages hinside memories globals tables datas elems hm =>
    obtain ⟨hlimit, -, hmax⟩ := hinside
    refine forall₂_modify .refl fun m' hm' => ?_
    cases hm.symm.trans hm'
    have hsize : (m.grow n).size = pages * pageSize := by
      rw [Memory.size_grow, Memory.size, ← Nat.add_mul]
    refine ⟨m.max_grow n, by rw [Memory.size_grow]; omega, .inr ⟨?_, ?_⟩⟩
    · rw [hsize]
      exact hlimit
    · intro max hmaximum
      rw [hmaximum, Option.all_some, decide_eq_true_eq] at hmax
      rw [hsize]
      exact Nat.mul_le_mul_right pageSize hmax
  | case2 => exact List.forall₂_same.2 fun m _ => .refl m
  | case3 => exact List.forall₂_same.2 fun m _ => .refl m

/-- Whatever changes a store in a session turns its memories into ones they may become. -/
theorem lasts_becomes (c : Code) :
    Lasts c fun st st' => List.Forall₂ (Becomes c.maxMemory) st.memories st'.memories where
  trans h h' := forall₂_trans (fun _ _ _ hab hbd => hab.trans hbd) h h'
  spend st n := List.forall₂_same.2 fun m _ => .refl m
  settle st := List.forall₂_same.2 fun m _ => .refl m
  afterHalt st h := by
    rw [st.toContents_afterHalt h]
    exact List.forall₂_same.2 fun m _ => .refl m
  touch {st _} h := by
    cases h with
    | write x i bs =>
      refine forall₂_modify .refl fun m _ => ?_
      exact ⟨m.max_write i bs, Nat.le_of_eq (m.size_write i bs).symm, .inl (m.size_write i bs)⟩
    | grow x w n => exact becomes_growMemory c.maxMemory st.toContents x w n
    | _ => exact List.forall₂_same.2 fun m _ => .refl m
  refuel st := List.forall₂_same.2 fun m _ => .refl m

/-! ## The first moment -/

/-- The memories are those that the module declares, each a whole number of pages, inside the limit
of the configuration and inside the maximum that is declared for it. -/
def Prepared.Within (p : Prepared) (st : Store) : Prop :=
  List.Forall₂ (fun t m => pageSize ∣ m.size ∧ m.size ≤ p.config.maxMemory.toNat ∧
    m.max = t.limits.max ∧ ∀ max, t.limits.max = some max → m.size ≤ max * pageSize)
    p.module.memories st.memories

/-- The memories stay, and none becomes smaller. -/
def Grows (st st' : Store) : Prop :=
  List.Forall₂ (fun m m' => m.size ≤ m'.size) st.memories st'.memories

/-- The bounds of a memory of a valid module are in order. -/
theorem Wasm.Module.min_le_max_of_validate {m : Module} (h : m.validate = .ok ()) {t : MemoryType}
    (ht : t ∈ m.memories) {max : Nat} (hmax : t.limits.max = some max) : t.limits.min ≤ max := by
  rw [Module.validate] at h
  obtain ⟨_, -, h⟩ := exists_of_bind_eq_ok h
  obtain ⟨_, hmemories, -⟩ := exists_of_bind_eq_ok h
  have hchecked := eq_ok_of_forM hmemories t (List.mem_append_right _ ht)
  rw [Validity.memory, Validity.limits] at hchecked
  split at hchecked
  · cases hchecked
  · split at hchecked
    · cases hchecked
    · next horder =>
      rw [hmax, Option.any_some, decide_eq_true_eq] at horder
      omega

theorem size_ofPages (n : Nat) (max : Option Nat) : (Memory.ofPages n max).size = n * pageSize := by
  rw [Memory.ofPages, Memory.size, Array.size_replicate]

namespace Prepared

variable {p : Prepared}

theorem within_initialStore (h : p.module.validate = .ok ()) {first : Store}
    (hfirst : Machine.initialStore p.module p.config.maxMemory.toNat = .ok first) :
    p.Within first := by
  have hcreated := (Machine.initialStore_eq_ok hfirst).2
  have horder (t : MemoryType) (ht : t ∈ p.module.memories) (max : Nat)
      (hmax : t.limits.max = some max) : t.limits.min ≤ max :=
    Wasm.Module.min_le_max_of_validate h ht hmax
  rw [Within]
  generalize p.module.memories = types at hcreated horder ⊢
  refine ((List.forall₂_and_left _ _).2 ⟨horder, hcreated⟩).imp ?_
  rintro t m ⟨horder, hmemory⟩
  rw [Machine.initialMemory] at hmemory
  split at hmemory
  · next hlimit =>
    cases hmemory
    rw [size_ofPages]
    refine ⟨Nat.dvd_mul_left _ _, hlimit, rfl, fun max hmax => ?_⟩
    exact Nat.mul_le_mul_right pageSize (horder max hmax)
  · cases hmemory

/-- Every moment of a session is inside the bounds. -/
theorem within_moments (h : p.module.validate = .ok ()) (is : List Invocation) :
    ∀ st ∈ p.moments is, p.Within st := by
  intro st hst
  obtain ⟨first, hfirst, hbecomes⟩ := (p.ordered_moments (lasts_becomes p.code) is).2 st hst
  refine forall₂_trans ?_ (within_initialStore h hfirst) hbecomes
  rintro t m m' ⟨-, hlimit, hdeclared, hmaximum⟩ hbecomes
  refine ⟨Nat.dvd_mul_left _ _, ?_, hbecomes.max_eq.trans hdeclared, fun max hsome => ?_⟩
  · rcases hbecomes.bounded with hsame | ⟨hinside, -⟩
    · rw [hsame]
      exact hlimit
    · exact hinside
  · rcases hbecomes.bounded with hsame | ⟨-, hinside⟩
    · rw [hsame]
      exact hmaximum max hsome
    · exact hinside max (hdeclared.trans hsome)

/-- At no moment of a session is a memory smaller than before. -/
theorem pairwise_grows (p : Prepared) (is : List Invocation) :
    (p.moments is).Pairwise Grows :=
  (p.ordered_moments (lasts_becomes p.code) is).1.imp fun h => h.imp fun _ _ => Becomes.size_le

end Prepared

/-! ## What is refused -/

/-- The first memory of a module whose least size is above the limit. -/
def Prepared.tooLarge? (p : Prepared) : Option MemoryType :=
  p.module.memories.find? fun t => p.config.maxMemory.toNat < t.limits.min * pageSize

/-- Of memories whose least sizes are above the limit, the first is the one that is not created. -/
theorem mapM_initialMemory {maxMemory : Nat} {ts : List MemoryType} {t : MemoryType}
    (h : ts.find? (maxMemory < ·.limits.min * pageSize) = some t) :
    (ts.mapM fun t => Machine.initialMemory maxMemory t.limits) =
      .error (.memoryLimit t.limits.min) := by
  induction ts with
  | nil => cases h
  | cons t' ts ih =>
    rw [List.mapM_cons, Machine.initialMemory]
    by_cases hlarge : maxMemory < t'.limits.min * pageSize
    · rw [List.find?_cons_of_pos (by simpa using hlarge)] at h
      cases h
      rw [if_neg (Nat.not_le.2 hlarge)]
      rfl
    · rw [List.find?_cons_of_neg (by simpa using hlarge)] at h
      rw [if_pos (Nat.not_lt.1 hlarge), ih h]
      rfl

theorem initialStore_of_find? {m : Module} {maxMemory : Nat} {t : MemoryType}
    (h : m.memories.find? (maxMemory < ·.limits.min * pageSize) = some t) :
    Machine.initialStore m maxMemory = .error (.memoryLimit t.limits.min) := by
  rw [Machine.initialStore, mapM_initialMemory h]
  rfl

/-- The number that an integer of a width has for -1. -/
def minusOne : Width → Wasm.Val
  | .w32 => .i32 (-1)
  | .w64 => .i64 (-1)

theorem sizeVal_none (w : Width) : Machine.sizeVal w none = minusOne w := by
  cases w <;> rfl

/-- Growing past a bound changes nothing. -/
theorem growMemory_of_lt {maxMemory x n : Nat} {k : Contents} {m : Memory}
    (hm : k.memories[x]? = some m)
    (hpast : maxMemory < m.size + n * pageSize ∨
      ∃ max, m.max = some max ∧ max * pageSize < m.size + n * pageSize) (w : Width) :
    k.growMemory maxMemory x w n = (k, none) := by
  rw [Contents.growMemory, hm]
  refine if_neg ?_
  rintro ⟨hlimit, -, hmax⟩
  have hsize : m.size + n * pageSize = (m.pages.size + n) * pageSize := by
    rw [Memory.size, ← Nat.add_mul]
  rw [hsize] at hpast
  rcases hpast with hpast | ⟨max, hmaximum, hpast⟩
  · exact absurd hlimit (Nat.not_le.2 hpast)
  · rw [hmaximum, Option.all_some, decide_eq_true_eq] at hmax
    exact absurd (Nat.mul_le_mul_right pageSize hmax) (Nat.not_le.2 hpast)

/-- Copying a list leaves every memory as large as the guest's `alloc` left it. -/
theorem memorySize_writeList (c : Code) (g : Guest) (xs : List Int32) (st : Store) (x : Nat) :
    (g.writeList c xs st).store.memorySize x =
      if int32Max < (xs.length * itemSize : Nat) then st.memorySize x
      else (g.allocate c xs st).store.memorySize x := by
  by_cases hlong : int32Max < (xs.length * itemSize : Nat)
  · rw [if_pos hlong, Guest.writeList, if_pos hlong]
  · rw [if_neg hlong]
    rcases Machine.store_writeList (c := c) (g := g) st hlong with hsame | ⟨i, bs, -, hwrites⟩
    · rw [hsame]
    · rw [hwrites, Store.toContents_write, Contents.memorySize_write]

/-! ## The result -/

/-- What is promised about the memories of a module under a configuration. -/
structure Prepared.MemoryLimited (p : Prepared) : Prop where
  /-- At every moment of every session each memory is a whole number of pages inside its bounds. -/
  within : ∀ is, ∀ st ∈ p.moments is, p.Within st
  /-- From each moment to every later one no memory becomes smaller. -/
  grows : ∀ is, (p.moments is).Pairwise Grows
  /-- The memories that a session leaves behind are those of one of its moments. -/
  shown : ∀ fresh, p.instantiate = .ok fresh →
    ∀ is js, (fresh.afterAll is).store ∈ p.moments (is ++ js)
  /-- With a least size above the limit there is no instance and no moment; what is reported is the
  first such size, unless there are imports. -/
  tooLarge : ∀ t ∈ p.module.memories, p.config.maxMemory.toNat < t.limits.min * pageSize →
    (∀ is, p.moments is = []) ∧
    (p.imports = [] → ∃ first, p.tooLarge? = some first ∧
      p.instantiate = .error (.instantiation (.start (.memoryLimit first.limits.min)))) ∧
    (p.imports ≠ [] → p.instantiate = .error (.instantiation (.missingImports p.imports)))
  /-- Growing past a bound gives -1 and leaves the store as it is. -/
  growFails : ∀ calls st x m, st.memories[x]? = some m → ∀ v n, Machine.address? v = some n →
    p.config.maxMemory.toNat < m.size + n * pageSize ∨
        (∃ max, m.max = some max ∧ max * pageSize < m.size + n * pageSize) →
      ∀ w stack locals, Machine.exec p.code calls (.memoryGrow x w) ⟨v :: stack, locals, st⟩ =
        .next ⟨minusOne w :: stack, locals, st⟩
  /-- When the host copies a list, only the guest's `alloc` can make a memory larger. -/
  writes : ∀ (g : Guest) xs st x, (g.writeList p.code xs st).store.memorySize x =
    if int32Max < (xs.length * itemSize : Nat) then st.memorySize x
    else (g.allocate p.code xs st).store.memorySize x

/-- No module exceeds the memory limit, under any configuration and in any session. -/
theorem Prepared.memory_limited (p : Prepared) (h : p.module.validate = .ok ()) :
    p.MemoryLimited where
  within := within_moments h
  grows := p.pairwise_grows
  shown fresh hfresh := store_mem_moments hfresh
  tooLarge t ht hlarge := by
    obtain ⟨first, hfound⟩ : ∃ first, p.tooLarge? = some first :=
      Option.isSome_iff_exists.1 (List.find?_isSome.2 ⟨t, ht, by simpa using hlarge⟩)
    have hfirst : Machine.initialStore p.module p.config.maxMemory.toNat =
        .error (.memoryLimit first.limits.min) := initialStore_of_find? hfound
    have hinstance : Machine.instantiate p.module p.config.limit p.config.maxMemory.toNat =
        .error (.memoryLimit first.limits.min) := by
      rw [Machine.instantiate, hfirst]
      rfl
    rw [instantiate]
    cases himports : p.imports with
    | cons i is =>
      refine ⟨?_, fun hnone => absurd hnone (List.cons_ne_nil i is), fun _ => rfl⟩
      intro js
      rw [moments, himports]
    | nil =>
      refine ⟨?_, fun _ => ⟨first, hfound, by simp only [hinstance]⟩, fun hsome => absurd rfl hsome⟩
      intro js
      simp only [moments, himports, hfirst, Machine.onward]
  growFails calls st x m hm v n hv hpast w stack locals := by
    have hgrown : st.growMemory p.code.maxMemory x w n = (st.toContents, none) :=
      growMemory_of_lt hm hpast w
    rw [Machine.exec_eq_step (by rfl)]
    simp only [Machine.step, Machine.effect, hv, hgrown, sizeVal_none]
  writes := memorySize_writeList p.code

/-! ## A memory that grows up to a limit inside a page -/

/-- A module with a page of memory, which may grow to three. -/
def growerText : String := r#"(module
  (memory (export "memory") 1 3)
  (func (export "grow") (param i32) (result i32)
    (memory.grow (local.get 0))))"#

def growerModule : Module where
  funcs := [⟨⟨[.i32], [.i32]⟩, [], [.localGet 0, .memoryGrow 0 .w32]⟩]
  memories := [⟨⟨1, some 3⟩, .w32⟩]
  exports := [⟨"memory", .memory 0⟩, ⟨"grow", .func 0⟩]

/-- The module under a limit between two pages and three. -/
def grower : Prepared := ⟨{ maxMemory := 150000 }, growerModule⟩

theorem validate_growerModule : growerModule.validate = .ok () := by
  rfl

set_option maxRecDepth 4000 in
theorem parse_growerText : ∃ cs, growerText = String.ofList ('(' :: cs) ∧
    Module.ofText ('(' :: cs) = .ok growerModule := by
  refine ⟨_, by unfold growerText; rfl, ?_⟩
  rfl

/-- Ask for pages. -/
def growBy (n : Int32) : Invocation where
  target := "grow"
  args := [.i32 n]

/-- A second page is inside the limit and a third is not. -/
theorem memory_limited_grower :
    Prepared.ofImage grower.config (.ofText growerText) = .ok grower ∧
      growerModule.validate = .ok () ∧ grower.MemoryLimited ∧
      ∃ fresh, grower.instantiate = .ok fresh ∧ fresh.store.memorySize 0 = 65536 ∧
        (fresh.session [growBy 1, growBy 1]).map Reply.result =
          [.ok ⟨some (.i32 1), none⟩, .ok ⟨some (.i32 (-1)), none⟩] ∧
        (fresh.afterAll [growBy 1, growBy 1]).store.memorySize 0 = 131072 := by
  obtain ⟨cs, htext, hread⟩ := parse_growerText
  refine ⟨Prepared.ofImage_ofText _ htext hread validate_growerModule, validate_growerModule,
    grower.memory_limited validate_growerModule, _, rfl, ?_, rfl, ?_⟩
  · rfl
  · rfl

/-! ## A module that asks for too much twice -/

/-- A module that asks for an import and for more memory than the limit. -/
def cravingText : String := r#"(module
  (import "host" "log" (func))
  (memory 2000))"#

def cravingModule : Module where
  imports := [⟨"host", "log", .func ⟨[], []⟩⟩]
  memories := [⟨⟨2000, none⟩, .w32⟩]

set_option maxRecDepth 4000 in
theorem parse_cravingText : ∃ cs, cravingText = String.ofList ('(' :: cs) ∧
    Module.ofText ('(' :: cs) = .ok cravingModule := by
  refine ⟨_, by unfold cravingText; rfl, ?_⟩
  rfl

/-- With an import missing, a memory above the limit is not what is reported. -/
theorem imports_before_memory :
    let p : Prepared := ⟨{}, cravingModule⟩
    Prepared.ofImage {} (.ofText cravingText) = .ok p ∧
      ⟨⟨2000, none⟩, .w32⟩ ∈ p.module.memories ∧ p.config.maxMemory.toNat < 2000 * pageSize ∧
      p.instantiate = .error (.instantiation
        (.missingImports [⟨"host", "log", .func, some ⟨[], []⟩⟩])) ∧
      ∀ cause, p.instantiate ≠ .error (.instantiation (.start cause)) := by
  intro p
  obtain ⟨cs, htext, hread⟩ := parse_cravingText
  have hmissing : p.instantiate = .error (.instantiation
      (.missingImports [⟨"host", "log", .func, some ⟨[], []⟩⟩])) := rfl
  refine ⟨Prepared.ofImage_ofText _ htext hread (by rfl), List.mem_cons_self, by decide, hmissing,
    ?_⟩
  intro cause hstart
  rw [hmissing] at hstart
  cases hstart

end WasmGuest
