import WasmGuest.Proofs.Guest.Lists
import WasmGuest.Proofs.Machine.Steps
import WasmGuest.Proofs.Scenario.Reverse.Code

/-!
# The allocator of the reversing module

`alloc` hands out the end of the heap and moves it up by the size, modulo `2 ^ 32`
and rounded up to whole words.  Nothing keeps the heap inside the memory: a
negative size moves it back, and a call that cannot grow the memory leaves it
moved.

* `Allocates` lists what a call comes to, and `allocates_invoke` proves it for
  every store.
* `Allocates.of_values`: a call that returns gives the end of the heap, moves it,
  and leaves the bytes of memory alone.
* `Allocates.of_roomy`: a call returns if nothing is metered and the heap stays
  inside the pages that are allowed.
-/

namespace WasmGuest.Scenario.Reverse

open Wasm
open Machine

/-- The end of the heap after a block of a size was handed out. -/
def heapAfter (heap size : UInt32) : UInt32 :=
  heap + ((size + 3) &&& 0xfffffffc)

/-- The end of the memory as the module computes it. -/
def memoryEnd (st : Store) : UInt32 :=
  UInt32.ofNat (st.memorySize 0 / pageSize) <<< 16

/-- The pages that are missing up to the end of the heap. -/
def missingPages (heap : UInt32) (st : Store) : UInt32 :=
  (heap - memoryEnd st + 65535) >>> 16

@[simp] theorem memoryEnd_spend (st : Store) (n : Nat) :
    memoryEnd (st.spend n) = memoryEnd st := rfl

@[simp] theorem memoryEnd_setGlobal (st : Store) (x : Nat) (v : Val) :
    memoryEnd (st.setGlobal x v) = memoryEnd st := rfl

@[simp] theorem missingPages_spend (heap : UInt32) (st : Store) (n : Nat) :
    missingPages heap (st.spend n) = missingPages heap st := rfl

@[simp] theorem missingPages_setGlobal (heap : UInt32) (st : Store) (x : Nat) (v : Val) :
    missingPages heap (st.setGlobal x v) = missingPages heap st := rfl

/-! ## Arithmetic on words -/

/-- Clearing the two lowest bits rounds down to a multiple of four. -/
theorem toNat_and_mask (a : UInt32) : (a &&& 0xfffffffc).toNat = a.toNat / 4 * 4 := by
  have hmask : (0xfffffffc : Nat) = (2 ^ 30 - 1) * 2 ^ 2 := by decide
  have hshift : a.toNat / 4 * 4 = (a.toNat >>> 2) <<< 2 := by
    rw [Nat.shiftRight_eq_div_pow, Nat.shiftLeft_eq]
  rw [UInt32.toNat_and, hshift]
  show a.toNat &&& 0xfffffffc = _
  rw [hmask, ← Nat.shiftLeft_eq]
  apply Nat.eq_of_testBit_eq
  intro i
  rw [Nat.testBit_and, Nat.testBit_shiftLeft, Nat.testBit_shiftLeft, Nat.testBit_shiftRight,
    Nat.testBit_two_pow_sub_one]
  by_cases hlow : 2 ≤ i
  · have hback : 2 + (i - 2) = i := by omega
    by_cases hhigh : i < 32
    · have : i - 2 < 30 := by omega
      simp [hlow, hback, this]
    · have hpow : 2 ^ 32 ≤ 2 ^ i := Nat.pow_le_pow_right (by decide) (by omega)
      have hzero : a.toNat.testBit i = false :=
        Nat.testBit_lt_two_pow (Nat.lt_of_lt_of_le a.toNat_lt hpow)
      simp [hback, hzero]
  · simp [hlow]

theorem toNat_mul_four {n : UInt32} (h : n.toNat * 4 < 2 ^ 32) : (n * 4).toNat = n.toNat * 4 := by
  rw [UInt32.toNat_mul]
  exact Nat.mod_eq_of_lt h

theorem toNat_add_mul_four {p n : UInt32} (h : p.toNat + n.toNat * 4 < 2 ^ 32) :
    (p + n * 4).toNat = p.toNat + n.toNat * 4 := by
  rw [UInt32.toNat_add, toNat_mul_four (by omega), Nat.mod_eq_of_lt h]

/-- A number of words is not rounded up. -/
theorem heapAfter_mul_four {heap n : UInt32} (h : n.toNat * 4 + 3 < 2 ^ 32) :
    heapAfter heap (n * 4) = heap + n * 4 := by
  have hround : (n * 4 + 3) &&& 0xfffffffc = n * 4 := by
    apply UInt32.toNat_inj.1
    rw [toNat_and_mask, UInt32.toNat_add, toNat_mul_four (by omega)]
    show (n.toNat * 4 + 3) % 2 ^ 32 / 4 * 4 = n.toNat * 4
    omega
  rw [heapAfter, hround]

theorem memorySize_mod (st : Store) (x : Nat) : st.memorySize x % pageSize = 0 := by
  rw [Contents.memorySize]
  split
  · exact Nat.mul_mod_left _ _
  · exact Nat.zero_mod _

theorem toNat_memoryEnd {st : Store} (h : st.memorySize 0 < 2 ^ 32) :
    (memoryEnd st).toNat = st.memorySize 0 := by
  have hpages := memorySize_mod st 0
  simp only [pageSize] at hpages
  rw [memoryEnd, UInt32.toNat_shiftLeft, UInt32.toNat_ofNat', Nat.shiftLeft_eq]
  show st.memorySize 0 / 65536 % 2 ^ 32 * 2 ^ 16 % 2 ^ 32 = _
  omega

/-- The heap pointer is what it was set to. -/
theorem heap_setGlobal {st : Store} {v : Val} (h : st.globals[0]? = some v) (w : Val) :
    (st.setGlobal 0 w).globals[0]? = some w :=
  Array.getElem?_setIfInBounds_self_of_lt (Array.getElem?_eq_some_iff.1 h).1

/-! ## The run of the allocator -/

section Alloc

variable {c : Code} {calls : Nat → List Val → Store → CallResult} {locals : Array Val}
  {st : Store} {heap : UInt32}

theorem sizeVal_w32 (old : Option Nat) :
    sizeVal .w32 old = .i32 (old.elim 0xffffffff UInt32.ofNat) := by
  cases old <;> rfl

/-- The word that tells a failure is no number of pages. -/
theorem grown_ne_iff (c : Code) (st : Store) (n : Nat) :
    (c.growMemory st 0 .w32 n).2.elim 0xffffffff UInt32.ofNat ≠ 0xffffffff ↔
      (c.growMemory st 0 .w32 n).2.isSome = true := by
  rw [Code.growMemory]
  fun_cases Contents.growMemory st.toContents c.maxMemory 0 .w32 n with
  | case1 m old pages hinside =>
    obtain ⟨-, hmost, -⟩ := hinside
    refine iff_of_true (fun htop => ?_) rfl
    have hpages : pages = m.pages.size + n := rfl
    have hold : (UInt32.ofNat m.pages.size).toNat = m.pages.size := by
      rw [UInt32.toNat_ofNat_of_lt']
      exact Nat.lt_of_le_of_lt (Nat.le_trans (Nat.le_add_right _ n) hmost) (by decide)
    have htoNat : (UInt32.ofNat m.pages.size).toNat = 4294967295 := congrArg UInt32.toNat htop
    simp only [Width.mostPages] at hmost
    omega
  | case2 => exact iff_of_false (fun h => h rfl) Bool.false_ne_true
  | case3 => exact iff_of_false (fun h => h rfl) Bool.false_ne_true

theorem execAll_grow (hheap : st.globals[0]? = some (.i32 heap)) :
    execAll c calls grow ⟨[], locals, st⟩ =
      if heap ≤ memoryEnd st then .branch 0 ⟨[], locals, st.spend 6⟩
      else
        let grown := c.growMemory st 0 .w32 (missingPages heap st).toNat
        if grown.2.isSome then .branch 0 ⟨[], locals, grown.1.spend 19⟩
        else .halt (.trap .unreachable) (grown.1.spend 19) := by
  simp only [grow, num, shl, shr, add, sub, execAll_globalGet, execAll_memorySize, execAll_const,
    execAll_binary, execAll_compare, execAll_brIf, execAll_memoryGrow, execAll_unreachable,
    sizeVal_w32, Option.elim_some, Store.spend_spend, Store.toContents_spend, hheap, Word32.binary,
    Word32.compare, Store.growMemory_spend, Nat.reduceAdd, decide_eq_true_eq, bne_iff_ne,
    grown_ne_iff, memoryEnd, missingPages]
  rfl

theorem execAll_alloc {size : UInt32} (hheap : st.globals[0]? = some (.i32 heap)) :
    execAll c calls alloc.body ⟨[], #[.i32 size, .i32 0], st⟩ =
      let next := heapAfter heap size
      let moved := st.setGlobal 0 (.i32 next)
      let grown := c.growMemory moved 0 .w32 (missingPages next st).toNat
      if next ≤ memoryEnd st then .next ⟨[.i32 heap], #[.i32 size, .i32 heap], moved.spend 17⟩
      else if grown.2.isSome then
        .next ⟨[.i32 heap], #[.i32 size, .i32 heap], grown.1.spend 30⟩
      else .halt (.trap .unreachable) (grown.1.spend 29) := by
  have hnext : (st.setGlobal 0 (.i32 (heapAfter heap size))).globals[0]? =
      some (.i32 (heapAfter heap size)) := heap_setGlobal hheap _
  simp only [alloc, num, and, add, execAll_globalGet, execAll_localGet, execAll_localSet,
    execAll_const, execAll_binary, execAll_globalSet, execAll_block, Store.spend_spend,
    Store.toContents_spend, hheap, Word32.binary, Nat.reduceAdd, Store.setGlobal_spend,
    List.setIfInBounds_toArray, List.set_cons_succ, List.set_cons_zero, List.getElem?_toArray,
    List.getElem?_cons_zero, List.length_nil, List.take_nil, List.drop_nil]
  change andThen c calls _ (leave 0 [] (execAll c calls grow ⟨[], _,
    (st.setGlobal 0 (.i32 (heapAfter heap size))).spend 10⟩)) = _
  rw [execAll_grow (by exact hnext)]
  simp only [memoryEnd_spend, memoryEnd_setGlobal, missingPages_spend, missingPages_setGlobal,
    Store.growMemory_spend, Store.spend_spend, Nat.reduceAdd]
  split
  · rfl
  · split <;> rfl

/-- What a call to `alloc` comes to.  It runs out of fuel on entry, is stuck on a store whose global
is no pointer, or moves the pointer; then the heap fits, or the memory grows, or it cannot grow. -/
inductive Allocates (c : Code) (size : UInt32) (st : Store) : CallResult → Prop where
  | outOfFuel (hout : c.exhausted (st.spend 1) = true) :
      Allocates c size st (.halt (.trap .outOfFuel) (st.spend 1))
  | stuck (after : Store) (hnone : ∀ heap, st.globals[0]? ≠ some (.i32 heap)) :
      Allocates c size st (.halt .stuck after)
  | fits {heap : UInt32} (hheap : st.globals[0]? = some (.i32 heap))
      (hfits : heapAfter heap size ≤ memoryEnd st) :
      Allocates c size st
        (.values [.i32 heap] ((st.setGlobal 0 (.i32 (heapAfter heap size))).spend 18).settle)
  | grows {heap : UInt32} (hheap : st.globals[0]? = some (.i32 heap))
      (hover : ¬ heapAfter heap size ≤ memoryEnd st)
      (hgrown : (c.growMemory (st.setGlobal 0 (.i32 (heapAfter heap size))) 0 .w32
        (missingPages (heapAfter heap size) st).toNat).2.isSome) :
      Allocates c size st (.values [.i32 heap]
        ((c.growMemory (st.setGlobal 0 (.i32 (heapAfter heap size))) 0 .w32
          (missingPages (heapAfter heap size) st).toNat).1.spend 31).settle)
  | full {heap : UInt32} (hheap : st.globals[0]? = some (.i32 heap))
      (hover : ¬ heapAfter heap size ≤ memoryEnd st)
      (hfull : (c.growMemory (st.setGlobal 0 (.i32 (heapAfter heap size))) 0 .w32
        (missingPages (heapAfter heap size) st).toNat).2 = none) :
      Allocates c size st (.halt (.trap .unreachable)
        ((c.growMemory (st.setGlobal 0 (.i32 (heapAfter heap size))) 0 .w32
          (missingPages (heapAfter heap size) st).toNat).1.spend 30))

/-- On a global that is no pointer the allocator is stuck. -/
theorem execAll_alloc_stuck {size : UInt32} (hnone : ∀ heap, st.globals[0]? ≠ some (.i32 heap)) :
    ∃ after, execAll c calls alloc.body ⟨[], #[.i32 size, .i32 0], st⟩ = .halt .stuck after := by
  cases hglobal : st.globals[0]? with
  | none => exact ⟨_, by rw [alloc, execAll_globalGet, hglobal]⟩
  | some v =>
    have hv : ∀ a, v ≠ .i32 a := by
      rintro a rfl
      exact hnone a hglobal
    refine ⟨st.spend 9, ?_⟩
    simp only [alloc, num, and, add, execAll_globalGet, execAll_localGet, execAll_localSet,
      execAll_const, execAll_binary, execAll_binary_stuck _ _ hv, Store.spend_spend,
      Store.toContents_spend, hglobal, Word32.binary, Nat.reduceAdd, List.setIfInBounds_toArray,
      List.set_cons_succ, List.set_cons_zero, List.getElem?_toArray, List.getElem?_cons_zero]

theorem allocates_invoke (hc : c.funcs = #[alloc, free, reverse]) (depth : Nat) (size : UInt32)
    (st : Store) : Allocates c size st (invoke c (depth + 1) 0 [.i32 size] st) := by
  have hlocals : [Val.i32 size].reverse.toArray ++ (alloc.locals.map Val.zero).toArray =
      #[.i32 size, .i32 0] := rfl
  rw [invoke_succ]
  by_cases hout : c.exhausted (st.spend 1) = true
  · simp only [hout, if_true]
    exact .outOfFuel hout
  · have hfn : c.funcs[0]? = some alloc := by rw [hc]; rfl
    simp only [if_neg hout, hfn, hlocals]
    by_cases hheap : ∃ heap, st.globals[0]? = some (.i32 heap)
    · obtain ⟨heap, hheap⟩ := hheap
      rw [execAll_alloc (by exact hheap)]
      simp only [memoryEnd_spend, missingPages_spend, Store.setGlobal_spend, Store.growMemory_spend,
        Store.spend_spend, Nat.reduceAdd]
      split
      · next hfits => exact .fits hheap hfits
      · next hover =>
        split
        · next hgrown => exact .grows hheap hover hgrown
        · next hfull => exact .full hheap hover (Option.not_isSome_iff_eq_none.1 hfull)
    · rw [not_exists] at hheap
      obtain ⟨after, hstuck⟩ : ∃ after, execAll c (invoke c depth) alloc.body
          ⟨[], #[.i32 size, .i32 0], st.spend 1⟩ = .halt .stuck after :=
        execAll_alloc_stuck hheap
      rw [hstuck]
      exact .stuck after hheap

end Alloc

/-! ## What an allocation keeps and what it needs -/

section Memory

variable {c : Code} {st : Store}

theorem globals_growMemory (c : Code) (st : Store) (x : Nat) (w : Width) (n : Nat) :
    (c.growMemory st x w n).1.globals = st.globals := by
  rw [Code.growMemory]
  rcases st.growMemory_cases c.maxMemory x w n with ⟨m, -, hgrown⟩ | hsame
  · rw [hgrown]
  · rw [hsame]

/-- Growing a memory leaves the bytes of all where they are. -/
theorem bytes_growMemory (c : Code) (st : Store) (x : Nat) (w : Width) (n y i k : Nat) :
    (c.growMemory st x w n).1.bytes y i k = st.bytes y i k := by
  rw [Code.growMemory]
  rcases st.growMemory_cases c.maxMemory x w n with ⟨_, -, hgrown⟩ | hsame
  · rw [hgrown, Store.bytes, Store.bytes, st.getElem?_memories_modify]
    cases st.memories[y]? with
    | none => rfl
    | some m =>
      refine List.map_congr_left fun j _ => ?_
      split
      · exact m.byteAt_grow n (i + j)
      · rfl
  · rw [hsame]

/-- An allocation that returns hands out the end of the heap, moves it, and leaves all bytes. -/
theorem Allocates.of_values {size : UInt32} {vs : List Val} {after : Store}
    (h : Allocates c size st (.values vs after)) :
    ∃ heap, vs = [.i32 heap] ∧ st.globals[0]? = some (.i32 heap) ∧
      after.globals[0]? = some (.i32 (heapAfter heap size)) ∧
      ∀ i k, after.bytes 0 i k = st.bytes 0 i k := by
  cases h with
  | @fits heap hheap _ => exact ⟨heap, rfl, hheap, heap_setGlobal hheap _, fun i k => rfl⟩
  | @grows heap hheap _ _ =>
    refine ⟨heap, rfl, hheap, ?_, fun i k => ?_⟩
    · show (c.growMemory _ _ _ _).1.globals[0]? = _
      rw [globals_growMemory]
      exact heap_setGlobal hheap _
    · show (c.growMemory _ _ _ _).1.bytes 0 i k = _
      rw [bytes_growMemory]
      rfl

/-- The code of the module without metering, under a limit of whole pages that leaves all addresses
in the lower half. -/
structure Unmetered (c : Code) (pages : Nat) : Prop where
  funcs_eq : c.funcs = #[alloc, free, reverse]
  limit_eq : c.limit = none
  maxMemory_eq : c.maxMemory = pages * pageSize
  pages_lt : pages < 32768

theorem Unmetered.bytes_lt {pages : Nat} (h : Unmetered c pages) : pages * pageSize < 2 ^ 31 := by
  have hpages := h.pages_lt
  simp only [pageSize]
  omega

/-- The memory has no bound of its own and lies inside a number of pages. -/
def Roomy (pages : Nat) (st : Store) : Prop :=
  ∃ m, st.memories[0]? = some m ∧ m.max = none ∧ m.pages.size ≤ pages

theorem toNat_memoryEnd_of_roomy {pages : Nat} (hc : Unmetered c pages) (h : Roomy pages st) :
    (memoryEnd st).toNat = st.memorySize 0 := by
  obtain ⟨m, hm, -, hfew⟩ := h
  have hpages := hc.pages_lt
  have hsize : st.memorySize 0 = m.pages.size * pageSize := Contents.memorySize_of_eq_some hm
  apply toNat_memoryEnd
  rw [hsize]
  simp only [pageSize]
  omega

theorem toNat_missingPages {heap : UInt32} (hover : memoryEnd st ≤ heap)
    (hbelow : heap.toNat - (memoryEnd st).toNat + 65535 < 2 ^ 32) :
    (missingPages heap st).toNat = (heap.toNat - (memoryEnd st).toNat + 65535) / 65536 := by
  rw [missingPages, UInt32.toNat_shiftRight, UInt32.toNat_add, UInt32.toNat_sub_of_le _ _ hover,
    Nat.shiftRight_eq_div_pow]
  show (heap.toNat - (memoryEnd st).toNat + 65535) % 2 ^ 32 / 2 ^ 16 = _
  omega

/-- If the heap stays inside the pages that are allowed, the missing pages are added. -/
theorem growMemory_of_roomy {pages : Nat} {heap : UInt32} {next : Store}
    (hc : Unmetered c pages) (hroomy : Roomy pages st) (hnext : next.memories = st.memories)
    (hover : ¬ heap ≤ memoryEnd st) (hfit : heap.toNat ≤ pages * pageSize) :
    ∃ m n, c.growMemory next 0 .w32 (missingPages heap st).toNat =
        ({ next with memories := next.memories.modify 0 (·.grow n) }, some m.pages.size) ∧
      st.memories[0]? = some m ∧ m.max = none ∧ m.pages.size + n ≤ pages ∧
      heap.toNat ≤ (m.grow n).size := by
  have hpages := hc.pages_lt
  have hbytes := hc.bytes_lt
  have hend := toNat_memoryEnd_of_roomy hc hroomy
  obtain ⟨m, hm, hnone, hfew⟩ := hroomy
  have hsize : st.memorySize 0 = m.pages.size * pageSize := Contents.memorySize_of_eq_some hm
  rw [UInt32.le_iff_toNat_le, hend] at hover
  have hcount := @toNat_missingPages st heap
    (by rw [UInt32.le_iff_toNat_le, hend]; omega) (by omega)
  rw [hend] at hcount
  generalize (missingPages heap st).toNat = missing at hcount
  have hfew' : m.pages.size + missing ≤ pages := by
    simp only [pageSize] at hfit hsize
    omega
  have hbound : (m.pages.size + missing) * pageSize ≤ c.maxMemory := by
    rw [hc.maxMemory_eq]
    exact Nat.mul_le_mul_right _ hfew'
  have hinside : heap.toNat ≤ (m.pages.size + missing) * pageSize := by
    simp only [pageSize] at hsize ⊢
    omega
  have hmost : m.pages.size + missing ≤ Width.mostPages .w32 := by
    simp only [Width.mostPages]
    omega
  refine ⟨m, missing, ?_, hm, hnone, hfew', ?_⟩
  · rw [← hnext] at hm
    rw [Code.growMemory, Contents.growMemory, hm]
    simp only
    rw [if_pos ⟨hbound, hmost, by rw [hnone]; rfl⟩]
  · rw [Memory.size_grow, Memory.size, ← Nat.add_mul]
    exact hinside

/-- Without metering an allocation returns if the heap stays inside the pages that are allowed. -/
theorem Allocates.of_roomy {pages : Nat} {size heap : UInt32} {r : CallResult}
    (h : Allocates c size st r) (hc : Unmetered c pages) (hroomy : Roomy pages st)
    (hheap : st.globals[0]? = some (.i32 heap))
    (hfit : (heapAfter heap size).toNat ≤ pages * pageSize) :
    ∃ after, r = .values [.i32 heap] after ∧ Roomy pages after ∧
      (heapAfter heap size).toNat ≤ after.memorySize 0 := by
  have hend := toNat_memoryEnd_of_roomy hc hroomy
  have hgrow (hover : ¬ heapAfter heap size ≤ memoryEnd st) :=
    @growMemory_of_roomy c st pages _ (st.setGlobal 0 (.i32 (heapAfter heap size))) hc hroomy rfl
      hover hfit
  cases h with
  | outOfFuel hout =>
    rw [Code.exhausted, hc.limit_eq] at hout
    cases hout
  | stuck _ hstuck => exact absurd hheap (hstuck heap)
  | fits hheap' hfits =>
    cases hheap.symm.trans hheap'
    rw [UInt32.le_iff_toNat_le, hend] at hfits
    exact ⟨_, rfl, hroomy, hfits⟩
  | grows hheap' hover =>
    cases hheap.symm.trans hheap'
    obtain ⟨m, n, hgrown, hm, hnone, hfew, hinside⟩ := hgrow hover
    have hmemory := Contents.getElem?_memories_modify_self hm (·.grow n)
    rw [hgrown]
    refine ⟨_, rfl, ⟨m.grow n, hmemory, ?_, ?_⟩, ?_⟩
    · rw [Memory.max_grow, hnone]
    · simpa [Memory.grow] using hfew
    · exact hinside.trans (Nat.le_of_eq (Contents.memorySize_of_eq_some hmemory).symm)
  | full hheap' hover hfull =>
    cases hheap.symm.trans hheap'
    obtain ⟨m, n, hgrown, -⟩ := hgrow hover
    rw [hgrown] at hfull
    cases hfull

end Memory

end WasmGuest.Scenario.Reverse
