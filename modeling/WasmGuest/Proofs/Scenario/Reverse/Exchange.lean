import WasmGuest.Proofs.Guest.Marshalling
import WasmGuest.Proofs.Scenario.Reverse.Loop

/-!
# The exchange of one list with the reversing module

The host copies the list into the block that `alloc` returned, and `reverse` gets
a second block from a later call.  What the host checks is just enough: the first
block is not negative to it, so the heap behind it does not wrap around and the
second block starts where the first one ends; and unless the second block is
negative to it as well, that block does not wrap around either.

* `heap_of_copied`: where the heap ends after the list was copied.
* `reversed_of_call`, `reversed_of_copied`: what can be read from the results is the
  reversed list.
* `value_exchange`: an exchange that has an outcome gives the reversed list.
* `exchange_of_roomy`: it has one if there is room for two blocks.
-/

namespace WasmGuest

open Wasm (Val)
open Machine (Code Store CallResult)

/-! ## Words of a block as a list -/

/-- Items that stand back to front make up the reversed list. -/
theorem map_range_eq_reverse {α : Type} {n : Nat} {p q : Nat → α}
    (h : ∀ k < n, p (n - 1 - k) = q k) :
    (List.range n).map p = ((List.range n).map q).reverse := by
  apply List.ext_getElem
  · simp
  · intro k hk _
    have hlt : k < n := by simpa using hk
    have hback : n - 1 - (n - 1 - k) = k := by omega
    have hitem := h (n - 1 - k) (by omega)
    rw [hback] at hitem
    simpa using hitem

namespace Scenario.Reverse

open Wasm
open Machine

/-! ## Calls from outside -/

section Calls

variable {c : Code}

/-- What a call from outside makes of the result of its function. -/
def fromOutside : CallResult → CallResult
  | .values vs st => .values vs.reverse st
  | .halt h st => .halt h (st.afterHalt h)

theorem call_eq (c : Code) (f : Nat) (args : List Val) (st : Store) :
    call c f args st = fromOutside (invoke c depthBound f args.reverse st.settle) := by
  rw [call]
  cases invoke c depthBound f args.reverse st.settle <;> rfl

/-- The call to `alloc` for a list. -/
theorem allocates_list (hc : c.funcs = #[alloc, free, reverse]) {g : Guest} (hg : g.alloc = 0)
    (xs : List Int32) (st : Store) :
    ∃ r, Allocates c (Guest.bytesAsked xs).toUInt32 st.settle r ∧
      g.allocate c xs st = fromOutside r := by
  refine ⟨_, allocates_invoke hc 15999 (Guest.bytesAsked xs).toUInt32 st.settle, ?_⟩
  rw [Guest.allocate, hg]
  exact call_eq c 0 _ st

/-- A call to `free` enters it and returns, if there is fuel for that. -/
theorem call_free (hc : c.funcs = #[alloc, free, reverse]) (ptr size : UInt32) (st : Store) :
    call c 1 [.i32 ptr, .i32 size] st =
      if c.exhausted (st.settle.spend 1) then
        .halt (.trap .outOfFuel) (st.settle.spend 1).settle
      else .values [] (st.settle.spend 1).settle := by
  have hfn : c.funcs[1]? = some free := by rw [hc]; rfl
  rw [call, depthBound, invoke_succ]
  cases hin : c.exhausted (st.settle.spend 1) with
  | true => rfl
  | false =>
    simp only [Bool.false_eq_true, if_false, hfn]
    rfl

/-- The call to `alloc` inside a call to `reverse` from outside. -/
def innerAllocation (c : Code) (n : UInt32) (st : Store) : CallResult :=
  allocation c 15999 n st.settle

theorem allocates_inner (hc : c.funcs = #[alloc, free, reverse]) (n : UInt32) (st : Store) :
    Allocates c (n * 4) (st.settle.spend 5).settle (innerAllocation c n st) :=
  allocates_invoke hc 15998 (n * 4) (st.settle.spend 5).settle

theorem reverses_call (hc : c.funcs = #[alloc, free, reverse]) (ptr n : UInt32) (st : Store) :
    ∃ r, Reverses c 15999 ptr n st.settle r ∧
      call c 2 [.i32 ptr, .i32 n] st = fromOutside r :=
  ⟨_, reverses_invoke hc 15998 ptr n st.settle, call_eq c 2 _ st⟩

end Calls

/-! ## The list that comes back -/

/-- The memory and the allocator are those of the module. -/
structure Resolved (g : Guest) : Prop where
  memory_eq : g.memory = 0
  alloc_eq : g.alloc = 0

section List

variable {c : Code} {g : Guest} {xs : List Int32} {st : Store}

/-- The list that was copied item by item is the reversed one. -/
theorem decode_of_turned {p n out : UInt32} {allocated after : Store}
    (hbytes : ∀ i k, allocated.bytes 0 i k = st.bytes 0 i k)
    (hturned : Turned p n out allocated n.toNat after) (hbehind : Behind p n out)
    (hin : p.toNat + n.toNat * itemSize ≤ st.memorySize 0)
    (hout : out.toNat + n.toNat * itemSize ≤ after.memorySize 0) :
    Guest.decode (after.bytes 0 out.toNat (n.toNat * itemSize)) =
      (Guest.decode (st.bytes 0 p.toNat (n.toNat * itemSize))).reverse := by
  have hwords (k : Nat) : allocated.wordAt 0 k = st.wordAt 0 k := by
    rw [Store.wordAt, hbytes, Store.wordAt]
  rw [Guest.decode_bytes hin, Guest.decode_bytes hout]
  apply map_range_eq_reverse
  intro k hk
  rw [hturned.target hbehind k hk, hwords]

/-- The bytes asked of `alloc` are four to an item. -/
theorem toUInt32_bytesAsked (xs : List Int32) :
    (Guest.bytesAsked xs).toUInt32 = UInt32.ofNat xs.length * 4 := by
  rw [Guest.bytesAsked, itemSize, Int32.toUInt32_ofNat', UInt32.ofNat_mul]
  rfl

theorem length_lt {xs : List Int32} (hshort : ¬ int32Max < (xs.length * itemSize : Nat)) :
    xs.length * 4 < 2 ^ 31 := by
  simp only [int32Max, itemSize] at hshort
  omega

/-- A list that was copied was allocated by a call that returned. -/
theorem allocates_of_copied (hc : c.funcs = #[alloc, free, reverse]) (hg : g.alloc = 0) {b : Block}
    {p : UInt32} (h : Guest.Copied c g xs st b p) :
    ∃ after, Allocates c (Guest.bytesAsked xs).toUInt32 st.settle (.values [.i32 p] after) ∧
      (g.writeList c xs st).store = after.write g.memory p.toNat (Guest.encode xs) := by
  obtain ⟨r, hallocates, hallocate⟩ := allocates_list hc hg xs st
  have hplace := h.place_eq
  have hstore := h.store_eq
  simp only [Guest.Passing.place?, Guest.Passing.allocated, hallocate] at hplace hstore
  cases r with
  | halt cause after => cases hplace
  | values vs after =>
    obtain ⟨heap, rfl, -⟩ := hallocates.of_values
    cases hplace
    exact ⟨after, hallocates, hstore⟩

theorem heapAfter_bytesAsked {xs : List Int32} (hshort : ¬ int32Max < (xs.length * itemSize : Nat))
    (heap : UInt32) : heapAfter heap (Guest.bytesAsked xs).toUInt32 =
      heap + UInt32.ofNat xs.length * 4 := by
  have hlen := Guest.toNat_length hshort
  have hsmall := length_lt hshort
  rw [toUInt32_bytesAsked, heapAfter_mul_four (by omega)]

/-- A list is copied to where the heap ended, and then the heap ends behind its block. -/
theorem heap_of_copied (hc : c.funcs = #[alloc, free, reverse]) (hg : g.alloc = 0) {b : Block}
    {p : UInt32} (h : Guest.Copied c g xs st b p) :
    st.globals[0]? = some (.i32 p) ∧
      (g.writeList c xs st).store.globals[0]? =
        some (.i32 (p + UInt32.ofNat xs.length * 4)) := by
  obtain ⟨after, hallocates, hstore⟩ := allocates_of_copied hc hg h
  obtain ⟨heap, hp, hbefore, hafter, -⟩ := hallocates.of_values
  cases hp
  rw [hstore, Store.globals_write, hafter, heapAfter_bytesAsked h.short]
  exact ⟨hbefore, rfl⟩

/-- The new block lies where the heap ended. -/
theorem results_of_call (hc : c.funcs = #[alloc, free, reverse]) {heap p n : UInt32}
    (hheap : st.globals[0]? = some (.i32 heap)) {results : List Val} {after : Store}
    (hcall : call c 2 [.i32 p, .i32 n] st = .values results after) :
    results = [.i32 heap, .i32 n] ∧ ∃ allocated, (∀ i k, allocated.bytes 0 i k = st.bytes 0 i k) ∧
      Turned p n heap allocated (turnCount n) after := by
  obtain ⟨r, hreverses, hresult⟩ := reverses_call hc p n st
  rw [hresult] at hcall
  cases hreverses with
  | outOfFuel => cases hcall
  | unallocated => cases hcall
  | hindered => cases hcall
  | @returns out allocated done halloc hturned =>
    cases hcall
    have hallocates := allocates_inner hc n st
    rw [innerAllocation, halloc] at hallocates
    obtain ⟨_, heq, hheap', -, hbytes⟩ := hallocates.of_values
    cases heq
    cases hheap.symm.trans hheap'
    exact ⟨rfl, allocated, hbytes, hturned⟩

/-- If the heap ends behind a block, and the block is below `2 ^ 31` and no longer than that, then
what can be read from the results of `reverse` is the reversed list of the block. -/
theorem reversed_of_call (hc : c.funcs = #[alloc, free, reverse]) (hg : Resolved g) {p n : UInt32}
    (hheap : st.globals[0]? = some (.i32 (p + n * 4))) (hp : p.toNat < 2 ^ 31)
    (hn : n.toNat * 4 < 2 ^ 31) (hin : p.toNat + n.toNat * itemSize ≤ st.memorySize 0)
    {results : List Val} {after : Store}
    (hcall : call c 2 [.i32 p, .i32 n] st = .values results after) :
    ∃ out, results = [.i32 out, .i32 n] ∧
      ∀ ys, g.readList after ⟨out.toInt32, n.toInt32⟩ = .ok ys →
        ys = (Guest.decode (st.bytes 0 p.toNat (n.toNat * itemSize))).reverse := by
  obtain ⟨rfl, allocated, hbytes, hturned⟩ := results_of_call hc hheap hcall
  rw [turnCount_of_lt (by omega)] at hturned
  refine ⟨p + n * 4, rfl, fun ys hread => ?_⟩
  obtain ⟨hnonneg, hcount, -, hout, rfl⟩ := Guest.readList_eq_ok_iff.1 hread
  rw [hg.memory_eq] at hout ⊢
  simp only [toInt_toInt32 hnonneg, toInt_toInt32 hcount, Int.toNat_natCast] at hout ⊢
  -- The end of the first block does not wrap around.  The host is about to read the second block,
  -- so that one is below `2 ^ 31` as well.
  have hend : (p + n * 4).toNat = p.toNat + n.toNat * 4 := toNat_add_mul_four (by omega)
  have hbehind : Behind p n (p + n * 4) := by
    rw [toInt32_neg_iff, hend] at hnonneg
    rw [Behind, hend]
    omega
  exact @decode_of_turned st p n _ allocated after hbytes hturned hbehind hin hout

/-- What is returned for a list that was copied is the reversed list, if it can be read. -/
theorem reversed_of_copied (hc : c.funcs = #[alloc, free, reverse]) (hg : Resolved g) {b : Block}
    {p : UInt32} (h : Guest.Copied c g xs st b p) {results : List Val} {after : Store}
    (hcall : call c 2 [.i32 p, .i32 (UInt32.ofNat xs.length)] (g.writeList c xs st).store =
      .values results after) :
    ∃ out, results = [.i32 out, .i32 (UInt32.ofNat xs.length)] ∧
      ∀ ys, g.readList after ⟨out.toInt32, (UInt32.ofNat xs.length).toInt32⟩ = .ok ys →
        ys = xs.reverse := by
  have hlen := Guest.toNat_length h.short
  have hshort := length_lt h.short
  have hpos := h.nonneg
  rw [toInt32_neg_iff] at hpos
  have hin : p.toNat + (UInt32.ofNat xs.length).toNat * itemSize ≤
      (g.writeList c xs st).store.memorySize 0 := by
    rw [hlen, h.store_eq, Store.toContents_write, Contents.memorySize_write, ← hg.memory_eq]
    exact h.inside
  obtain ⟨out, hresults, hread⟩ := reversed_of_call hc hg (heap_of_copied hc hg.alloc_eq h).2
    (by omega) (by omega) hin hcall
  rw [hlen, ← hg.memory_eq, h.bytes_eq, Guest.decode_encode] at hread
  exact ⟨out, hresults, hread⟩

/-- One list that is passed was copied, and its place and length are the parameters. -/
theorem copied_of_passed {i : Invocation} (hargs : i.args = [.list xs]) {params : List Val}
    (h : (passArgs c (some g) i.args st).result = .ok params) :
    ∃ b p, Guest.Copied c g xs st b p ∧ params = [.i32 p, .i32 (UInt32.ofNat xs.length)] ∧
      (passArgs c (some g) i.args st).store = (g.writeList c xs st).store := by
  rw [hargs] at h ⊢
  cases hcopy : (g.writeList c xs st).result with
  | error e =>
    rw [Guest.passArgs_list_error hcopy] at h
    cases h
  | ok b =>
    obtain ⟨p, hcopied⟩ := Guest.copied_of_result hcopy
    rw [Guest.passArgs_list_ok hcopy, hcopied.block_eq] at h ⊢
    cases h
    exact ⟨b, p, hcopied, rfl, rfl⟩

/-- A list that is reversed comes back reversed, whatever the store was, if anything comes back. -/
theorem value_exchange (hc : c.funcs = #[alloc, free, reverse]) (hg : Resolved g)
    {i : Invocation} (hargs : i.args = [.list xs]) (hreturns : i.returns = .list)
    {outcome : Outcome} (h : (exchange c (some g) 2 i st).result = .ok outcome) :
    ∃ fuel, outcome = ⟨some (.list xs.reverse), fuel⟩ := by
  have hexchanged := exchanged_exchange c (some g) 2 i st
  generalize exchange c (some g) 2 i st = done at hexchanged h
  cases hexchanged with
  | refused => cases h
  | halts => cases h
  | unreadable => cases h
  | @returns params results after value blocks hpassed hcall hlift =>
    cases h
    refine ⟨fuelSpent c after, ?_⟩
    rw [hreturns] at hlift
    obtain ⟨b, p, hcopied, rfl, hstore⟩ := copied_of_passed hargs hpassed
    rw [hstore] at hcall
    obtain ⟨out, rfl, hread⟩ := reversed_of_copied hc hg hcopied hcall
    obtain ⟨ys, hys, rfl⟩ := readList_of_liftResults hlift
    rw [hread ys hys]

end List

/-! ## A list that does come back -/

section Room

variable {c : Code} {g : Guest} {xs : List Int32} {st : Store} {pages : Nat} {heap : UInt32}

theorem Roomy.write {pages : Nat} {st : Store} (h : Roomy pages st) (x i : Nat)
    (bs : List UInt8) : Roomy pages (st.write x i bs) := by
  obtain ⟨m, hm, hnone, hfew⟩ := h
  have hsame : (m.write i bs).pages.size = m.pages.size :=
    Nat.eq_of_mul_eq_mul_right (by decide : 0 < pageSize) (Memory.size_write m i bs)
  refine ⟨if x = 0 then m.write i bs else m, ?_, ?_, ?_⟩
  · rw [Store.toContents_write, Contents.write, Contents.getElem?_memories_modify, hm]
    rfl
  · split
    · rw [Memory.max_write, hnone]
    · exact hnone
  · split
    · rwa [hsame]
    · exact hfew

/-- A list for which there is room is copied to the end of the heap. -/
theorem copied_of_roomy (hc : Unmetered c pages) (hg : Resolved g) (hroomy : Roomy pages st)
    (hheap : st.globals[0]? = some (.i32 heap))
    (hfit : heap.toNat + xs.length * 4 ≤ pages * pageSize) :
    ∃ b, (g.writeList c xs st).result = .ok b ∧ Guest.Copied c g xs st b heap ∧
      Roomy pages (g.writeList c xs st).store := by
  have hbytes := hc.bytes_lt
  have hshort : ¬ int32Max < (xs.length * itemSize : Nat) := by
    simp only [int32Max, itemSize]
    omega
  have hlen := Guest.toNat_length hshort
  have hend : (heapAfter heap (Guest.bytesAsked xs).toUInt32).toNat =
      heap.toNat + xs.length * 4 := by
    rw [toUInt32_bytesAsked, heapAfter_mul_four (by omega), toNat_add_mul_four (by omega), hlen]
  obtain ⟨r, hallocates, hallocate⟩ := allocates_list hc.funcs_eq hg.alloc_eq xs st
  obtain ⟨after, rfl, hroomy', hinside⟩ := hallocates.of_roomy hc hroomy hheap
    (by rw [hend]; exact hfit)
  have hplace : (Guest.Passing.mk xs st).place? c g = some heap := by
    simp only [Guest.Passing.place?, hallocate]
    rfl
  have hallocated : (Guest.Passing.mk xs st).allocated c g = after := by
    simp only [Guest.Passing.allocated, hallocate]
    rfl
  rw [hend] at hinside
  obtain ⟨b, hresult⟩ := Guest.result_writeList_of_place hshort hplace (by omega)
    (by rw [hallocated, hg.memory_eq]; exact hinside)
  obtain ⟨p, hcopied⟩ := Guest.copied_of_result hresult
  cases hplace.symm.trans hcopied.place_eq
  refine ⟨b, hresult, hcopied, ?_⟩
  rw [hcopied.store_eq, hallocated]
  exact hroomy'.write _ _ _

/-- A call to `reverse` returns if there is room for a second block. -/
theorem returns_of_roomy (hc : Unmetered c pages) (hroomy : Roomy pages st) {p n : UInt32}
    (hheap : st.globals[0]? = some (.i32 (p + n * 4)))
    (hfit : p.toNat + n.toNat * 8 ≤ pages * pageSize) :
    ∃ after, call c 2 [.i32 p, .i32 n] st = .values [.i32 (p + n * 4), .i32 n] after ∧
      p.toNat + n.toNat * 8 ≤ after.memorySize 0 := by
  have hbytes := hc.bytes_lt
  have hout : (p + n * 4).toNat = p.toNat + n.toNat * 4 := toNat_add_mul_four (by omega)
  have hend : (heapAfter (p + n * 4) (n * 4)).toNat = p.toNat + n.toNat * 8 := by
    rw [heapAfter_mul_four (by omega), toNat_add_mul_four (by omega), hout]
    omega
  obtain ⟨allocated, halloc, -, hinside⟩ := (allocates_inner hc.funcs_eq n st).of_roomy hc hroomy
    hheap (by rw [hend]; exact hfit)
  rw [hend] at hinside
  have hfree : Unhindered c p n (p + n * 4) allocated := by
    refine ⟨hc.limit_eq, ⟨?_, ?_⟩, ?_⟩ <;> omega
  obtain ⟨r, hreverses, hresult⟩ := reverses_call hc.funcs_eq p n st
  rw [hresult]
  cases hreverses with
  | outOfFuel hout =>
    rw [Code.exhausted, hc.limit_eq] at hout
    cases hout
  | unallocated halloc' => cases halloc.symm.trans halloc'
  | hindered halloc' hhindered =>
    cases halloc.symm.trans halloc'
    exact absurd hfree hhindered.not_unhindered
  | @returns out allocated' after halloc' hturned =>
    cases halloc.symm.trans halloc'
    refine ⟨after, rfl, ?_⟩
    rw [hturned.memorySize_eq]
    exact hinside

/-- A block inside the lower half of the addresses can be read. -/
theorem readList_of_inside (hg : Resolved g) {p n : UInt32} (hpos : 0 < p.toNat)
    (hbelow : p.toNat + n.toNat * 4 < 2 ^ 31)
    (hin : p.toNat + n.toNat * 4 ≤ st.memorySize 0) :
    ∃ ys, g.readList st ⟨p.toInt32, n.toInt32⟩ = .ok ys := by
  have hplace : ¬ p.toInt32 < 0 := by
    rw [toInt32_neg_iff]
    omega
  have hcount : ¬ n.toInt32 < 0 := by
    rw [toInt32_neg_iff]
    omega
  refine ⟨_, Guest.readList_eq_ok_iff.2 ⟨hplace, hcount, ?_, ?_, rfl⟩⟩
  · rw [hg.memory_eq]
    cases hm : st.memories[0]? with
    | some m => rfl
    | none =>
      rw [Contents.memorySize_of_eq_none hm] at hin
      omega
  · rw [hg.memory_eq, toInt_toInt32 hplace, toInt_toInt32 hcount]
    exact hin

/-- A list for which there is room twice is exchanged. -/
theorem exchange_of_roomy (hc : Unmetered c pages) (hg : Resolved g) (hroomy : Roomy pages st)
    (hheap : st.globals[0]? = some (.i32 heap)) (hpos : 0 < heap.toNat)
    (hfit : heap.toNat + xs.length * 8 ≤ pages * pageSize) {i : Invocation}
    (hargs : i.args = [.list xs]) (hreturns : i.returns = .list) :
    (exchange c (some g) 2 i st).result = .ok ⟨some (.list xs.reverse), none⟩ := by
  have hbytes := hc.bytes_lt
  obtain ⟨b, hcopy, hcopied, hroomy'⟩ := copied_of_roomy hc hg hroomy hheap
    (show heap.toNat + xs.length * 4 ≤ pages * pageSize by omega)
  have hlen := Guest.toNat_length hcopied.short
  obtain ⟨after, hcall, hinside⟩ := returns_of_roomy hc hroomy'
    (heap_of_copied hc.funcs_eq hg.alloc_eq hcopied).2 (by rw [hlen]; exact hfit)
  have hout := @toNat_add_mul_four heap (UInt32.ofNat xs.length) (by omega)
  obtain ⟨ys, hread⟩ := @readList_of_inside g after hg (heap + UInt32.ofNat xs.length * 4)
    (UInt32.ofNat xs.length) (by omega) (by omega) (by omega)
  have hresult : (exchange c (some g) 2 i st).result = .ok ⟨some (.list ys), none⟩ := by
    have hpassed := @Guest.passArgs_list_ok c g xs [] st b hcopy
    rw [hcopied.block_eq] at hpassed
    have hparams : (passArgs c (some g) i.args st).result =
        .ok [.i32 heap, .i32 (UInt32.ofNat xs.length)] := by
      rw [hargs, hpassed]
      rfl
    have hstore : (passArgs c (some g) i.args st).store = (g.writeList c xs st).store := by
      rw [hargs, hpassed]
      rfl
    simp only [exchange, hparams, hstore, hcall, hreturns, liftResults, hread, fuelSpent,
      hc.limit_eq]
    rfl
  obtain ⟨fuel, houtcome⟩ := value_exchange hc.funcs_eq hg hargs hreturns hresult
  cases houtcome
  exact hresult

/-- Without metering all blocks are released. -/
theorem releaseAll_ok (hc : Unmetered c pages)
    (hfree : g.free = some 1) (bs : List Block) (st : Store) :
    (g.releaseAll c bs st).result = .ok () := by
  induction bs generalizing st with
  | nil => rfl
  | cons b bs ih =>
    have hin : c.exhausted (st.settle.spend 1) = false := by
      rw [Code.exhausted, hc.limit_eq]
      rfl
    have hcall := call_free hc.funcs_eq b.ptr.toUInt32 b.size.toUInt32 st
    rw [if_neg (by rw [hin]; exact Bool.false_ne_true)] at hcall
    have hfirst : (g.release c b st).result = .ok () := by
      simp only [Guest.release, hfree, hcall]
    rw [Guest.releaseAll, hfirst]
    exact ih _

end Room

end Scenario.Reverse

end WasmGuest
