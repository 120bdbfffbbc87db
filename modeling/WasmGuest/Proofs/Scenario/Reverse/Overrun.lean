import WasmGuest.Proofs.Instance.Exhaustion
import WasmGuest.Proofs.Scenario.Reverse.Invocation

/-!
# A heap that ran over the memory

`alloc` moves the heap before it knows whether the memory can be grown up to it, and
a trap does not undo that.  The block of a list starts where the heap ends, so the
next list that the host wants to pass asks for still more pages, which are refused
as well.

* `Overrun`: the heap ends above the memory, and the pages up to it are refused.
* `Allocates.overrun`: that is how an allocation that traps leaves the store.
* `Overrun.not_returns`: no list can then be passed and come back.
* `DisablesReversal` is what a reversal that failed for memory leaves behind, and
  `failed_reversal_disables` proves it for every instance of the module.
-/

namespace WasmGuest

open Wasm (Val)
open Machine (Code Store SameContents)

namespace Scenario.Reverse

open Wasm
open Machine

/-! ## Memory that cannot be grown -/

section Grow

variable {c : Code} {st : Store} {x : Nat} {w : Width} {m n : Nat}

/-- Pages are refused unless they fit into all bounds. -/
theorem growMemory_refused_iff : (c.growMemory st x w n).2 = none ↔
    ¬ ∃ mem, st.memories[x]? = some mem ∧ (mem.pages.size + n) * pageSize ≤ c.maxMemory ∧
      mem.pages.size + n ≤ w.mostPages ∧ mem.max.all (mem.pages.size + n ≤ ·) = true := by
  rw [Code.growMemory, Contents.growMemory]
  cases hmem : st.memories[x]? with
  | none => simp only [reduceCtorEq, false_and, exists_false, not_false_eq_true]
  | some mem =>
    simp only [Option.some.injEq, exists_eq_left']
    split
    · next hfit => exact iff_of_false (Option.some_ne_none _) (not_not_intro hfit)
    · next hover => exact iff_of_true rfl hover

/-- Memory that cannot be grown by some pages cannot be grown by more. -/
theorem growMemory_refused_of_le (h : (c.growMemory st x w m).2 = none) (hle : m ≤ n) :
    (c.growMemory st x w n).2 = none := by
  rw [growMemory_refused_iff] at h ⊢
  rintro ⟨mem, hmem, hbytes, hpages, hmax⟩
  refine h ⟨mem, hmem, ?_, by omega, ?_⟩
  · exact Nat.le_trans (Nat.mul_le_mul_right _ (by omega)) hbytes
  · cases hbound : mem.max with
    | none => rfl
    | some bound =>
      rw [hbound, Option.all_some, decide_eq_true_eq] at hmax
      rw [Option.all_some, decide_eq_true_eq]
      omega

theorem growMemory_of_refused (h : (c.growMemory st x w n).2 = none) :
    (c.growMemory st x w n).1 = st := by
  rw [Code.growMemory] at h ⊢
  rcases st.growMemory_cases c.maxMemory x w n with ⟨_, -, hgrown⟩ | hsame
  · rw [hgrown] at h
    cases h
  · rw [hsame]

end Grow

/-! ## The heap above the memory -/

/-- The heap ends above the memory, which cannot be grown up to it. -/
structure Overrun (c : Code) (heap : UInt32) (st : Store) : Prop where
  heap_eq : st.globals[0]? = some (.i32 heap)
  above : ¬ heap ≤ memoryEnd st
  refused : (c.growMemory st 0 .w32 (missingPages heap st).toNat).2 = none

section Overrun

variable {c : Code} {st st' : Store} {heap size : UInt32}

theorem Overrun.of_sameContents (h : Overrun c heap st) (hsame : SameContents st st') :
    Overrun c heap st' := by
  have hend : memoryEnd st' = memoryEnd st := by rw [memoryEnd, hsame.memorySize_eq 0, memoryEnd]
  have hmissing : missingPages heap st' = missingPages heap st := by
    rw [missingPages, hend, missingPages]
  refine ⟨by rw [hsame.globals_eq, h.heap_eq], by rw [hend]; exact h.above, ?_⟩
  rw [hmissing, Code.growMemory, hsame]
  exact h.refused

/-- An allocation that traps leaves the heap above the memory. -/
theorem Allocates.overrun {after : Store}
    (h : Allocates c size st (.halt (.trap .unreachable) after)) :
    ∃ heap, st.globals[0]? = some (.i32 heap) ∧ Overrun c (heapAfter heap size) after := by
  generalize hr : CallResult.halt (.trap .unreachable) after = r at h
  cases h with
  | @full heap hheap hover hfull =>
    cases hr
    refine ⟨heap, hheap, ?_⟩
    rw [growMemory_of_refused hfull]
    exact ⟨heap_setGlobal hheap _, hover, by
      rw [Store.growMemory_spend]
      exact hfull⟩
  | _ => cases hr

/-- Above the memory, an allocation that moves the heap up inside the lower half traps. -/
theorem Overrun.not_values (h : Overrun c heap st) (hle : heap ≤ heapAfter heap size)
    (hbelow : (heapAfter heap size).toNat < 2 ^ 31) {vs : List Val} {after : Store} :
    ¬ Allocates c size st (.values vs after) := by
  intro hallocates
  have habove := h.above
  rw [UInt32.le_iff_toNat_le] at habove hle
  generalize hr : CallResult.values vs after = r at hallocates
  cases hallocates with
  | fits hheap hfits =>
    cases h.heap_eq.symm.trans hheap
    rw [UInt32.le_iff_toNat_le] at hfits
    omega
  | grows hheap hover hgrown =>
    cases h.heap_eq.symm.trans hheap
    have hmissing := @toNat_missingPages st heap
      (by rw [UInt32.le_iff_toNat_le]; omega) (by omega)
    have hmissing' := @toNat_missingPages st (heapAfter heap size)
      (by rw [UInt32.le_iff_toNat_le]; omega) (by omega)
    have hmore : (missingPages heap st).toNat ≤ (missingPages (heapAfter heap size) st).toNat := by
      rw [hmissing, hmissing']
      exact Nat.div_le_div_right (by omega)
    -- Moving the heap does not touch the memory, so the pages are refused all the same.
    have hrefused := growMemory_refused_iff.1 (growMemory_refused_of_le h.refused hmore)
    exact Option.isSome_iff_ne_none.1 hgrown (growMemory_refused_iff.2 hrefused)
  | _ => cases hr

end Overrun

/-! ## Calls from outside -/

section Calls

variable {c : Code} {g : Guest} {xs : List Int32} {st : Store}

/-- `free` leaves the contents of the store. -/
theorem sameContents_free (hc : c.funcs = #[alloc, free, reverse]) (ptr size : UInt32)
    (st : Store) : SameContents st (call c 1 [.i32 ptr, .i32 size] st).store := by
  rw [call_free hc]
  split <;> rfl

theorem sameContents_releaseAll (hc : c.funcs = #[alloc, free, reverse]) (hfree : g.free = some 1)
    (bs : List Block) (st : Store) : SameContents st (g.releaseAll c bs st).store := by
  induction bs generalizing st with
  | nil => exact .refl st
  | cons b bs ih =>
    have hfirst : (g.release c b st).store =
        (call c 1 [.i32 b.ptr.toUInt32, .i32 b.size.toUInt32] st).store := by
      rw [Guest.release, hfree]
      cases hcall : call c 1 [.i32 b.ptr.toUInt32, .i32 b.size.toUInt32] st <;>
        simp only [hcall] <;> rfl
    rw [Guest.releaseAll]
    refine SameContents.trans ?_ (ih _)
    rw [hfirst]
    exact sameContents_free hc _ _ st

theorem fromOutside_eq_halt {r : CallResult} {cause : Halt} {after : Store}
    (h : fromOutside r = .halt cause after) :
    ∃ halted, r = .halt cause halted ∧ after = halted.afterHalt cause := by
  cases r with
  | values vs st => cases h
  | halt cause' halted =>
    cases h
    exact ⟨halted, rfl, rfl⟩

/-- A list for which the memory cannot be grown moves the heap by its size. -/
theorem overrun_allocate (hc : c.funcs = #[alloc, free, reverse]) (hg : g.alloc = 0)
    (hshort : ¬ int32Max < (xs.length * itemSize : Nat)) {after : Store}
    (h : g.allocate c xs st = .halt (.trap .unreachable) after) :
    ∃ heap, st.globals[0]? = some (.i32 heap) ∧
      Overrun c (heap + UInt32.ofNat xs.length * 4) after := by
  obtain ⟨r, hallocates, hallocate⟩ := allocates_list hc hg xs st
  obtain ⟨halted, rfl, rfl⟩ := fromOutside_eq_halt (hallocate.symm.trans h)
  obtain ⟨heap, hheap, hoverrun⟩ := hallocates.overrun
  rw [heapAfter_bytesAsked hshort] at hoverrun
  exact ⟨heap, hheap, hoverrun.of_sameContents (.afterHalt _ _)⟩

theorem overrun_writeList (hc : c.funcs = #[alloc, free, reverse]) (hg : g.alloc = 0) {size : Int32}
    (h : (g.writeList c xs st).result = .error (.alloc size (.trap .unreachable))) :
    ∃ heap, st.globals[0]? = some (.i32 heap) ∧ ¬ int32Max < (xs.length * itemSize : Nat) ∧
      Overrun c (heap + UInt32.ofNat xs.length * 4) (g.writeList c xs st).store := by
  have hcopies := Guest.copies_writeList c g xs st
  generalize g.writeList c xs st = copy at hcopies h ⊢
  cases hcopies with
  | halts hshort hcall =>
    cases h
    obtain ⟨heap, hheap, hoverrun⟩ := overrun_allocate hc hg hshort hcall
    exact ⟨heap, hheap, hshort, hoverrun⟩
  | _ => cases h

/-- `reverse` traps in this way only if the memory cannot be grown for its result. -/
theorem overrun_call_reverse (hc : c.funcs = #[alloc, free, reverse]) {p n : UInt32} {after : Store}
    (h : call c 2 [.i32 p, .i32 n] st = .halt (.trap .unreachable) after) :
    ∃ heap, st.globals[0]? = some (.i32 heap) ∧ Overrun c (heapAfter heap (n * 4)) after := by
  obtain ⟨r, hreverses, hresult⟩ := reverses_call hc p n st
  obtain ⟨halted, rfl, rfl⟩ := fromOutside_eq_halt (hresult.symm.trans h)
  generalize hr : CallResult.halt (.trap .unreachable) halted = r at hreverses
  cases hreverses with
  | outOfFuel => cases hr
  | unallocated halloc =>
    cases hr
    have hallocates := allocates_inner hc n st
    rw [innerAllocation, halloc] at hallocates
    obtain ⟨heap, hheap, hoverrun⟩ := hallocates.overrun
    exact ⟨heap, hheap, hoverrun.of_sameContents (.afterHalt _ _)⟩
  | hindered _ hhindered =>
    cases hr
    cases hhindered
  | returns => cases hr

end Calls

/-! ## Exchanges -/

/-- A call fails because the memory cannot be grown: for its argument, or for its result. -/
inductive LacksMemory : CallError → Prop where
  | argument (size : Int32) : LacksMemory (.guest (.alloc size (.trap .unreachable)))
  | result : LacksMemory (.trap (.trap .unreachable))

theorem LacksMemory.of_ofHalt {cause : Halt} (h : LacksMemory (.ofHalt cause)) :
    cause = .trap .unreachable := by
  revert h
  fun_cases CallError.ofHalt cause with
  | case1 => rintro ⟨⟩
  | case2 =>
    rintro ⟨⟩
    rfl

section Exchange

variable {c : Code} {g : Guest} {xs : List Int32} {st : Store} {i : Invocation}

/-- An exchange of a list for which memory lacks leaves the heap above the memory, moved by one
block or by two. -/
theorem overrun_exchange (hc : c.funcs = #[alloc, free, reverse]) (hg : g.alloc = 0)
    (hargs : i.args = [.list xs]) {e : CallError} (he : LacksMemory e)
    (h : (exchange c (some g) 2 i st).result = .error e) :
    ∃ heap k, st.globals[0]? = some (.i32 heap) ∧ (k = 1 ∨ k = 2) ∧
      ¬ int32Max < (xs.length * itemSize : Nat) ∧
      Overrun c (heap + k * (UInt32.ofNat xs.length * 4)) (exchange c (some g) 2 i st).store := by
  have hexchanged := exchanged_exchange c (some g) 2 i st
  generalize exchange c (some g) 2 i st = done at hexchanged h ⊢
  cases hexchanged with
  | refused hpassed =>
    cases h
    rw [hargs] at hpassed ⊢
    cases hcopy : (g.writeList c xs st).result with
    | ok b =>
      rw [Guest.passArgs_list_ok hcopy] at hpassed
      cases hpassed
    | error e' =>
      rw [Guest.passArgs_list_error hcopy] at hpassed ⊢
      cases hpassed
      cases he
      obtain ⟨heap, hheap, hshort, hoverrun⟩ := overrun_writeList hc hg hcopy
      refine ⟨heap, 1, hheap, .inl rfl, hshort, ?_⟩
      rw [UInt32.one_mul]
      exact hoverrun
  | @halts params cause after hpassed hcall =>
    cases h
    obtain ⟨b, p, hcopied, rfl, hstore⟩ := copied_of_passed hargs hpassed
    rw [hstore] at hcall
    obtain rfl := he.of_ofHalt
    obtain ⟨hplace, hheap⟩ := heap_of_copied hc hg hcopied
    obtain ⟨heap, hheap', hoverrun⟩ := overrun_call_reverse hc hcall
    cases hheap.symm.trans hheap'
    have hlen := Guest.toNat_length hcopied.short
    have hsmall := length_lt hcopied.short
    rw [heapAfter_mul_four (by omega), UInt32.add_assoc, ← UInt32.two_mul] at hoverrun
    exact ⟨p, 2, hplace, .inr rfl, hcopied.short, hoverrun⟩
  | unreadable hpassed hcall hlift =>
    cases h
    obtain ⟨_, b, hread⟩ := exists_readList_eq_error hlift
    cases he
    exact absurd rfl (ne_alloc_of_readList hread _ _)
  | returns => cases h

/-- Above the memory no list is passed and comes back. -/
theorem Overrun.not_returns (hc : c.funcs = #[alloc, free, reverse]) (hg : g.alloc = 0)
    (hargs : i.args = [.list xs]) (hreturns : i.returns = .list) {heap : UInt32}
    (h : Overrun c heap st) (outcome : Outcome) :
    (exchange c (some g) 2 i st).result ≠ .ok outcome := by
  intro hok
  have hexchanged := exchanged_exchange c (some g) 2 i st
  generalize exchange c (some g) 2 i st = done at hexchanged hok
  cases hexchanged with
  | @returns params results after value blocks hpassed hcall hlift =>
    obtain ⟨b, p, hcopied, rfl, hstore⟩ := copied_of_passed hargs hpassed
    rw [hstore] at hcall
    obtain ⟨hplace, hend⟩ := heap_of_copied hc hg hcopied
    cases h.heap_eq.symm.trans hplace
    -- The result starts where the heap ended behind the argument, and the host reads it only if it
    -- is in the lower half.
    obtain ⟨rfl, -⟩ := results_of_call hc hend hcall
    rw [hreturns] at hlift
    obtain ⟨ys, hread, -⟩ := readList_of_liftResults hlift
    have hout := (Guest.readList_eq_ok_iff.1 hread).1
    have hpos := hcopied.nonneg
    rw [toInt32_neg_iff] at hout hpos
    have hlen := Guest.toNat_length hcopied.short
    have hsmall := length_lt hcopied.short
    have hsum : (heap + UInt32.ofNat xs.length * 4).toNat = heap.toNat + xs.length * 4 := by
      rw [toNat_add_mul_four (by omega), hlen]
    obtain ⟨allocated, hallocates, -⟩ := allocates_of_copied hc hg hcopied
    have hsettled : Overrun c heap st.settle := h.of_sameContents rfl
    refine hsettled.not_values ?_ ?_ hallocates
    · rw [heapAfter_bytesAsked hcopied.short, UInt32.le_iff_toNat_le]
      omega
    · rw [heapAfter_bytesAsked hcopied.short]
      omega
  | _ => cases hok

end Exchange

end Scenario.Reverse

/-! ## Invocations -/

namespace Scenario

open Wasm (pageSize)
open Reverse

/-- Reversing a list failed because the memory cannot be grown. -/
def FailsForMemory (result : Except Error Outcome) : Prop :=
  ∃ e, LacksMemory e ∧ result = .error (.invocation "reverse" e)

/-- Reversing a list gave it back to front. -/
def ReversesList (ys : List Int32) (result : Except Error Outcome) : Prop :=
  ∃ fuel, result = .ok ⟨some (.list ys.reverse), fuel⟩

section

variable {a : Instance} {config : Config} {xs ys : List Int32} {label : Option String}
  {separator : Separator}

/-- A reversal that failed for memory leaves the heap above the memory. -/
theorem overrun_reversal (h : a.prepared = ⟨config, reverseModule⟩)
    (hfails : FailsForMemory (a.invoke (reversal xs label separator)).result) :
    ∃ heap k, a.store.globals[0]? = some (.i32 heap) ∧ (k = 1 ∨ k = 2) ∧
      ¬ int32Max < (xs.length * itemSize : Nat) ∧
      Overrun a.prepared.code (heap + k * (UInt32.ofNat xs.length * 4))
        (a.invoke (reversal xs label separator)).after.store := by
  obtain ⟨e, he, hresult⟩ := hfails
  have hexchanges := exchanges_reversal h xs label separator
  have hfree : ∀ ptr cause, e ≠ .guest (.free ptr cause) := by
    rintro ptr cause rfl
    cases he
  have hreaches : a.Reaches (reversal xs label separator) 2 (some ⟨0, 0, some 1⟩) := hexchanges
  have hexchange := (hreaches.invoke_eq_error_iff hfree).1 hresult
  obtain ⟨heap, k, hheap, hk, hshort, hoverrun⟩ :=
    overrun_exchange (funcs_reverse h) rfl rfl he hexchange
  refine ⟨heap, k, hheap, hk, hshort, ?_⟩
  rw [hexchanges.invoke_eq.2.1, callWithMemory, hexchange]
  exact (hoverrun.of_sameContents (.refuel _)).of_sameContents
    (sameContents_releaseAll (funcs_reverse h) rfl _ _)

/-- Above the memory a reversal fails. -/
theorem fails_of_overrun (h : a.prepared = ⟨config, reverseModule⟩) {heap : UInt32}
    (hoverrun : Overrun a.prepared.code heap a.store) (ys : List Int32) (label : Option String)
    (separator : Separator) :
    ∃ e, (a.invoke (reversal ys label separator)).result = .error (.invocation "reverse" e) := by
  rcases reversal_cases h ys label separator with hfails | ⟨fuel, hok⟩
  · exact hfails
  · exfalso
    rw [(exchanges_reversal h ys label separator).invoke_eq.1] at hok
    have hexchange := result_exchange_of_callWithMemory (eq_ok_of_mapError_eq_ok hok)
    exact (hoverrun.of_sameContents (.refuel _)).not_returns (funcs_reverse h) rfl rfl rfl _
      hexchange

/-- One block or two are no whole turn around the addresses. -/
theorem moved_eq_iff {heap k : UInt32} (hk : k = 1 ∨ k = 2)
    (hshort : ¬ int32Max < (xs.length * itemSize : Nat)) :
    heap + k * (UInt32.ofNat xs.length * 4) = heap ↔ xs = [] := by
  have hlen := Guest.toNat_length hshort
  have hsmall := length_lt hshort
  have hbytes : (UInt32.ofNat xs.length * 4).toNat = xs.length * 4 := by
    rw [toNat_mul_four (by omega), hlen]
  have hmoved : (k * (UInt32.ofNat xs.length * 4)).toNat = k.toNat * (xs.length * 4) := by
    rw [UInt32.toNat_mul, hbytes]
    rcases hk with rfl | rfl
    · exact Nat.mod_eq_of_lt (show 1 * (xs.length * 4) < 2 ^ 32 by omega)
    · exact Nat.mod_eq_of_lt (show 2 * (xs.length * 4) < 2 ^ 32 by omega)
  have hpos : k.toNat ≠ 0 := by rcases hk with rfl | rfl <;> decide
  rw [UInt32.add_eq_left, ← List.length_eq_zero_iff, ← UInt32.toNat_inj, hmoved]
  refine ⟨fun h => ?_, fun h => by rw [h]; rfl⟩
  have hzero := (Nat.mul_eq_zero.1 h).resolve_left hpos
  omega

end

/-! ## A memory of one page -/

section OnePage

variable {c : Code} {xs : List Int32}

/-- The code of the module without metering, under a limit of one page. -/
structure OnePage (c : Code) : Prop where
  funcs_eq : c.funcs = #[alloc, free, reverse]
  limit_eq : c.limit = none
  maxMemory_eq : c.maxMemory = pageSize

theorem growMemory_of_onePage (hc : OnePage c) {st : Store} (hsize : st.memorySize 0 = pageSize)
    {n : Nat} (hpos : 0 < n) : (c.growMemory st 0 .w32 n).2 = none := by
  rw [growMemory_refused_iff]
  rintro ⟨mem, hmem, hbytes, -⟩
  rw [Machine.Contents.memorySize_of_eq_some hmem, Machine.Memory.size] at hsize
  rw [hc.maxMemory_eq, Nat.add_mul, hsize, pageSize] at hbytes
  omega

/-- On the store of a new instance a list that ends above the page is not allocated. -/
theorem allocate_of_onePage (hc : OnePage c) (hshort : ¬ int32Max < (xs.length * itemSize : Nat))
    (hlong : 65536 < 1024 + xs.length * 4) :
    ∃ after, Guest.allocate c ⟨0, 0, some 1⟩ xs initial.refuel =
      .halt (.trap .unreachable) after := by
  have hlen := Guest.toNat_length hshort
  have hsmall := length_lt hshort
  obtain ⟨r, hallocates, hallocate⟩ :=
    @allocates_list c hc.funcs_eq ⟨0, 0, some 1⟩ rfl xs initial.refuel
  have hheap : initial.refuel.settle.globals[0]? = some (.i32 1024) := rfl
  have hsize : initial.refuel.settle.memorySize 0 = pageSize := memorySize_initial
  have hend : (memoryEnd initial.refuel.settle).toNat = 65536 := by
    rw [toNat_memoryEnd (by rw [hsize]; decide), hsize]
    rfl
  have hmoved : (heapAfter 1024 (Guest.bytesAsked xs).toUInt32).toNat = 1024 + xs.length * 4 := by
    rw [heapAfter_bytesAsked hshort, toNat_add_mul_four, hlen]
    · rfl
    · rw [hlen]
      show 1024 + xs.length * 4 < 2 ^ 32
      omega
  rw [hallocate]
  cases hallocates with
  | outOfFuel hout =>
    rw [Code.exhausted, hc.limit_eq] at hout
    cases hout
  | stuck _ hnone => exact absurd hheap (hnone 1024)
  | fits hheap' hfits =>
    cases hheap.symm.trans hheap'
    rw [UInt32.le_iff_toNat_le, hend, hmoved] at hfits
    omega
  | grows hheap' hover hgrown =>
    cases hheap.symm.trans hheap'
    have hmissing := @toNat_missingPages initial.refuel.settle
      (heapAfter 1024 (Guest.bytesAsked xs).toUInt32)
      (by rw [UInt32.le_iff_toNat_le]; omega) (by omega)
    have hpos : 0 < (missingPages (heapAfter 1024 (Guest.bytesAsked xs).toUInt32)
        initial.refuel.settle).toNat := by omega
    have hsize' : ∀ v, (initial.refuel.settle.setGlobal 0 v).memorySize 0 = pageSize :=
      fun _ => hsize
    exact absurd (growMemory_of_onePage hc (hsize' _) hpos) (Option.isSome_iff_ne_none.1 hgrown)
  | full => exact ⟨_, rfl⟩

/-- A new instance under a limit of one page fails to reverse such a list. -/
theorem fails_of_onePage {config : Config} (hc : OnePage (Prepared.code ⟨config, reverseModule⟩))
    (hshort : ¬ int32Max < (xs.length * itemSize : Nat)) (hlong : 65536 < 1024 + xs.length * 4)
    (label : Option String) (separator : Separator) :
    FailsForMemory (Instance.invoke ⟨⟨config, reverseModule⟩, initial⟩
      (reversal xs label separator)).result := by
  obtain ⟨after, hallocate⟩ := allocate_of_onePage hc hshort hlong
  have hcopies := Guest.copies_writeList (Prepared.code ⟨config, reverseModule⟩) ⟨0, 0, some 1⟩ xs
    initial.refuel
  have hresult : (Guest.writeList (Prepared.code ⟨config, reverseModule⟩) ⟨0, 0, some 1⟩ xs
      initial.refuel).result = .error (.alloc (Guest.bytesAsked xs) (.trap .unreachable)) := by
    generalize Guest.writeList _ _ xs initial.refuel = copy at hcopies ⊢
    cases hcopies with
    | tooLong htoo => exact absurd htoo hshort
    | halts _ hcall =>
      cases hallocate.symm.trans hcall
      rfl
    | illTyped _ hcall | negative _ hcall | outside _ hcall | fills _ hcall =>
      cases hallocate.symm.trans hcall
  have hexchange : (exchange (Prepared.code ⟨config, reverseModule⟩) (some ⟨0, 0, some 1⟩) 2
      (reversal xs label separator) initial.refuel).result =
        .error (.guest (.alloc (Guest.bytesAsked xs) (.trap .unreachable))) := by
    rw [exchange_alloc_iff]
    show (passArgs _ _ [.list xs] _).result = _
    rw [Guest.passArgs_list_error hresult]
  refine ⟨_, .argument (Guest.bytesAsked xs), ?_⟩
  rw [(@exchanges_reversal ⟨⟨config, reverseModule⟩, initial⟩ config rfl xs label
    separator).invoke_eq.1, callWithMemory_of_error hexchange]
  rfl

end OnePage

/-- As many items as fill a page. -/
def pageful : List Int32 :=
  (List.range 16384).map Int32.ofNat

theorem length_pageful : pageful.length = 16384 := by
  rw [pageful, List.length_map, List.length_range]

theorem fails_pageful : FailsForMemory (Instance.invoke
    ⟨⟨{ maxMemory := 65536 }, reverseModule⟩, initial⟩ (reversal pageful none .eq)).result := by
  have hc : OnePage (Prepared.code ⟨{ maxMemory := 65536 }, reverseModule⟩) := ⟨rfl, rfl, rfl⟩
  exact fails_of_onePage hc (by rw [length_pageful]; decide) (by rw [length_pageful]; decide)
    none .eq

/-! ## After a failure -/

/-- What a reversal that failed for memory leaves behind. -/
structure DisablesReversal (a : Instance) (xs : List Int32) (r : Reply) : Prop where
  /-- The heap pointer was moved by the block of the argument, or by that of the result as well. -/
  moved : ∃ heap k : UInt32, a.store.globals[0]? = some (.i32 heap) ∧ (k = 1 ∨ k = 2) ∧
    r.after.store.globals[0]? = some (.i32 (heap + k * (UInt32.ofNat xs.length * 4)))
  kept_iff : r.after.store.globals[0]? = a.store.globals[0]? ↔ xs = []
  /-- Whatever list is reversed next, that fails. -/
  fails : ∀ ys label separator, ∃ e,
    (r.after.invoke (reversal ys label separator)).result = .error (.invocation "reverse" e)
  /-- Only a list that could not be reversed before is reversed as before. -/
  recovers_iff : ∀ ys label separator,
    ((∃ o, (a.invoke (reversal ys label separator)).result = .ok o) →
      ReversesList ys (r.after.invoke (reversal ys label separator)).result) ↔
    ¬ ∃ o, (a.invoke (reversal ys label separator)).result = .ok o

/-- On every instance of the module, whatever its store, a reversal that fails for memory leaves the
heap pointer moved unless the list is empty, and lets the next reversal fail. -/
theorem failed_reversal_disables (config : Config) :
    ∃ p, Prepared.ofImage config (.ofText reverseText) = .ok p ∧
      ∀ a : Instance, a.prepared = p → ∀ xs label separator,
        FailsForMemory (a.invoke (reversal xs label separator)).result →
          DisablesReversal a xs (a.invoke (reversal xs label separator)) := by
  refine ⟨_, ofImage_reverseText config, fun a h xs label separator hfails => ?_⟩
  obtain ⟨heap, k, hheap, hk, hshort, hoverrun⟩ := overrun_reversal h hfails
  have hafter := (a.prepared_after (reversal xs label separator)).trans h
  have hnext (ys : List Int32) (label' : Option String) (separator' : Separator) :=
    fails_of_overrun hafter (by rw [Instance.prepared_after]; exact hoverrun) ys label' separator'
  constructor
  case moved => exact ⟨heap, k, hheap, hk, hoverrun.heap_eq⟩
  case kept_iff =>
    rw [hoverrun.heap_eq, hheap, Option.some.injEq, Val.i32.injEq]
    exact moved_eq_iff hk hshort
  case fails => exact hnext
  case recovers_iff =>
    intro ys label' separator'
    obtain ⟨e, he⟩ := hnext ys label' separator'
    rw [he]
    refine ⟨fun hrecovers hok => ?_, fun hnone hok => absurd hok hnone⟩
    obtain ⟨fuel, hfuel⟩ := hrecovers hok
    cases hfuel

/-- Under a limit of one page a list of one page cannot be reversed; it moves the heap pointer, and
the next list cannot be reversed either. -/
theorem failed_reversal_disables_pageful :
    ∃ p a, Prepared.ofImage { maxMemory := 65536 } (.ofText reverseText) = .ok p ∧
      p.instantiate = .ok a ∧ FailsForMemory (a.invoke (reversal pageful none .eq)).result ∧
      (a.invoke (reversal pageful none .eq)).after.store.globals[0]? ≠ a.store.globals[0]? ∧
      ∃ e, ((a.invoke (reversal pageful none .eq)).after.invoke (reversal [7] none .eq)).result =
        .error (.invocation "reverse" e) := by
  obtain ⟨p, hp, hdisables⟩ := failed_reversal_disables { maxMemory := 65536 }
  cases hp.symm.trans (ofImage_reverseText _)
  have hfails := fails_pageful
  have hleft := hdisables ⟨⟨{ maxMemory := 65536 }, reverseModule⟩, initial⟩ rfl pageful none .eq
    hfails
  refine ⟨_, _, hp, instantiate_reverseModule (by decide), hfails, fun hkept => ?_,
    hleft.fails [7] none .eq⟩
  have hlength := length_pageful
  rw [hleft.kept_iff.1 hkept] at hlength
  cases hlength

/-- Under a limit of one page a new instance reverses a short list; after it has failed to reverse a
list of one page, it does not reverse the short one any more. -/
theorem reversal_disabled_by_pageful :
    ∃ p a, Prepared.ofImage { maxMemory := 65536 } (.ofText reverseText) = .ok p ∧
      p.instantiate = .ok a ∧
      ReversesList [1, 2] (a.invoke (reversal [1, 2] none .eq)).result ∧
      FailsForMemory (a.invoke (reversal pageful none .eq)).result ∧
      ¬ ∃ o, ((a.invoke (reversal pageful none .eq)).after.invoke
        (reversal [1, 2] none .eq)).result = .ok o := by
  have hfails := fails_pageful
  refine ⟨_, _, ofImage_reverseText _, instantiate_reverseModule (by decide), ?_, hfails, ?_⟩
  · have hroomy : Roomy 1 initial := ⟨_, rfl, rfl, by
      rw [Machine.Memory.ofPages, Array.size_replicate]⟩
    exact ⟨_, @reversal_of_roomy ⟨⟨{ maxMemory := 65536 }, reverseModule⟩, initial⟩
      { maxMemory := 65536 } rfl 1 1024 rfl rfl (by decide) hroomy rfl (by decide) [1, 2]
      (by decide) none .eq⟩
  · obtain ⟨heap, k, -, -, -, hoverrun⟩ := overrun_reversal rfl hfails
    obtain ⟨e, he⟩ := fails_of_overrun (Instance.prepared_after _ _)
      (by rw [Instance.prepared_after]; exact hoverrun) [1, 2] none .eq
    rw [he]
    rintro ⟨o, ho⟩
    cases ho

end Scenario

end WasmGuest
