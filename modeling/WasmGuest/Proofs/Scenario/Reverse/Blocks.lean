import WasmGuest.Proofs.Instance.Trace
import WasmGuest.Proofs.Instance.MemoryLimit
import WasmGuest.Proofs.Scenario.Reverse.Heap
import WasmGuest.Proofs.Scenario.Reverse.Overrun

/-!
# Blocks on the heap

`alloc` returns the end of the heap and moves it up by the size, in whole words.  While
sizes and memory are below two gibibytes nothing wraps around, so every block is
behind all the earlier ones.

* `blocks`: the blocks that the answers of a run hand out.
* `Placed`, `AllPlaced`: what is said of one block, and of each in a sequence.
* `Laid`: the heap that calls find, which ends behind all blocks and lies in a memory
  with no more pages than they need.  `Laid.concat` adds one block to it.
* `Goes`: what a piece of a run makes of such a heap, also if it fails.
* `Laid.call_alloc`, `Laid.call_reverse`: the calls from outside that hand out a block.
-/

namespace WasmGuest

namespace Scenario.Reverse

open Wasm
open Machine

/-! ## Blocks -/

/-- A block that was handed out, and the store behind the call that returned it. -/
structure Lent where
  place : Nat
  size : Nat
  after : Store

/-- A single integer as an address or a number of bytes. -/
def number : List Val → Nat
  | [.i32 n] => n.toNat
  | _ => 0

/-- The blocks that `alloc`, which is the first function, handed out. -/
def blocks (xs : List Answer) : List Lent :=
  (xs.filter (·.func == 0)).map fun x => ⟨number x.results, number x.args, x.after⟩

@[simp] theorem blocks_append (xs ys : List Answer) :
    blocks (xs ++ ys) = blocks xs ++ blocks ys := by
  simp [blocks]

/-- So many pages, of which there is at least one, are enough for the blocks. -/
def Holds (pages : Nat) (bs : List Lent) : Prop :=
  1 ≤ pages ∧ ∀ b ∈ bs, b.place + b.size ≤ pages * pageSize

/-- The memory has no more pages than the blocks need. -/
def Needed (bs : List Lent) (st : Store) : Prop :=
  ∀ pages, Holds pages bs → st.memorySize 0 ≤ pages * pageSize

/-- A block is well placed behind those that were handed out before it. -/
structure Placed (earlier : List Lent) (b : Lent) : Prop where
  low : 1024 ≤ b.place
  aligned : 4 ∣ b.place
  inside : b.place + b.size ≤ b.after.memorySize 0
  apart : ∀ b' ∈ earlier, Apart b'.place b'.size b.place b.size
  needed : Needed (earlier ++ [b]) b.after

/-- Every block is well placed behind the earlier ones. -/
def AllPlaced (bs : List Lent) : Prop :=
  ∀ earlier b later, bs = earlier ++ b :: later → Placed earlier b

theorem allPlaced_nil : AllPlaced [] := by
  intro earlier b later h
  cases earlier <;> cases h

theorem AllPlaced.concat {bs : List Lent} {b : Lent} (h : AllPlaced bs) (hb : Placed bs b) :
    AllPlaced (bs ++ [b]) := by
  intro earlier b' later heq
  rcases List.eq_nil_or_concat later with rfl | ⟨later', last, rfl⟩
  · obtain ⟨rfl, ⟨⟩⟩ := List.append_inj' heq rfl
    exact hb
  · have hsplit : bs ++ [b] = (earlier ++ b' :: later') ++ [last] := by
      rw [heq, List.concat_eq_append, List.append_assoc, List.cons_append]
    exact h earlier b' later' (List.append_inj' hsplit rfl).1

/-! ## The heap behind the blocks -/

/-- The heap ends behind all blocks and inside the memory, and the memory has no more pages than
they need. -/
structure Laid (limit : Nat) (bs : List Lent) (st : Store) : Prop where
  placed : AllPlaced bs
  heap : ∃ heap, st.globals[0]? = some (.i32 heap) ∧ 1024 ≤ heap.toNat ∧ 4 ∣ heap.toNat ∧
    heap.toNat ≤ st.memorySize 0 ∧ ∀ b ∈ bs, b.place + b.size ≤ heap.toNat
  size_le : st.memorySize 0 ≤ limit
  needed : Needed bs st

section Heap

variable {limit : Nat} {bs : List Lent} {st st' : Store} {heap size : UInt32}

theorem Laid.of_eq (h : Laid limit bs st) (hglobals : st'.globals = st.globals)
    (hsize : st'.memorySize 0 = st.memorySize 0) : Laid limit bs st' where
  placed := h.placed
  heap := by
    rw [hglobals, hsize]
    exact h.heap
  size_le := by
    rw [hsize]
    exact h.size_le
  needed pages hpages := by
    rw [hsize]
    exact h.needed pages hpages

theorem Laid.of_sameContents (h : Laid limit bs st) (hsame : SameContents st st') :
    Laid limit bs st' :=
  h.of_eq hsame.globals_eq (hsame.memorySize_eq 0)

/-- In the lower half of the addresses the heap does not wrap around. -/
theorem toNat_heapAfter (hheap : heap.toNat < 2 ^ 31) (hsize : size.toNat < 2 ^ 31) :
    (heapAfter heap size).toNat = heap.toNat + (size.toNat + 3) / 4 * 4 := by
  rw [heapAfter, UInt32.toNat_add, toNat_and_mask, UInt32.toNat_add]
  show (heap.toNat + (size.toNat + 3) % 2 ^ 32 / 4 * 4) % 2 ^ 32 = _
  omega

/-- A block is added to the end of the heap.  The memory is as large as it was, or ends with the
page that the heap ends in. -/
theorem Laid.concat (h : Laid limit bs st) (hlimit : limit < 2 ^ 31)
    (hheap : st.globals[0]? = some (.i32 heap)) (hsize : size.toNat < 2 ^ 31)
    (hnext : st'.globals[0]? = some (.i32 (heapAfter heap size)))
    (hinside : (heapAfter heap size).toNat ≤ st'.memorySize 0) (hle : st'.memorySize 0 ≤ limit)
    (hgrown : st'.memorySize 0 = st.memorySize 0 ∨
      st'.memorySize 0 = ((heapAfter heap size).toNat + 65535) / 65536 * 65536) :
    Laid limit (bs ++ [⟨heap.toNat, size.toNat, st'⟩]) st' := by
  obtain ⟨heap', hheap', hlow, haligned, hin, hends⟩ := h.heap
  cases hheap.symm.trans hheap'
  have hmost := h.size_le
  have hmoved := @toNat_heapAfter heap size (by omega) hsize
  have hneeded : Needed (bs ++ [⟨heap.toNat, size.toNat, st'⟩]) st' := by
    rintro pages ⟨hpos, hall⟩
    rcases hgrown with hsame | hgrown
    · rw [hsame]
      exact h.needed pages ⟨hpos, fun b hb => hall b (List.mem_append_left _ hb)⟩
    · have hlast := hall _ (List.mem_append_right bs (List.mem_singleton.2 rfl))
      simp only [pageSize] at hlast ⊢
      omega
  have hplaced : Placed bs ⟨heap.toNat, size.toNat, st'⟩ := by
    refine ⟨hlow, haligned, ?_, fun b hb k hk => ?_, hneeded⟩
    · show heap.toNat + size.toNat ≤ st'.memorySize 0
      omega
    · have hend := hends b hb
      have hboth : (b.place ≤ k ∧ k < b.place + b.size) ∧
        heap.toNat ≤ k ∧ k < heap.toNat + size.toNat := hk
      omega
  refine ⟨h.placed.concat hplaced, ⟨_, hnext, by omega, by omega, hinside, ?_⟩, hle, hneeded⟩
  intro b hb
  rcases List.mem_append.1 hb with hb | hb
  · have hend := hends b hb
    omega
  · obtain rfl := List.mem_singleton.1 hb
    show heap.toNat + size.toNat ≤ _
    omega

end Heap

/-! ## One call -/

section Calls

variable {c : Code} {bs : List Lent} {st : Store} {size : UInt32}

/-- A call returns. -/
def Returns (r : CallResult) : Prop :=
  ∃ vs after, r = .values vs after

theorem not_returns_halt (cause : Halt) (after : Store) : ¬ Returns (.halt cause after) := by
  rintro ⟨vs, after', hvalues⟩
  cases hvalues

/-- Behind blocks and the answers of a piece of a run all blocks are well placed, and if the piece
succeeds then the heap ends behind them. -/
structure Goes (limit : Nat) (bs : List Lent) (xs : List Answer) (succeeds : Prop)
    (st : Store) : Prop where
  placed : AllPlaced (bs ++ blocks xs)
  laid : succeeds → Laid limit (bs ++ blocks xs) st

/-- A piece that hands out nothing. -/
theorem Goes.of_blocks_eq_nil {limit : Nat} {xs : List Answer} {succeeds : Prop}
    (hplaced : AllPlaced bs) (hxs : blocks xs = []) (hlaid : succeeds → Laid limit bs st) :
    Goes limit bs xs succeeds st := by
  rw [← List.append_nil bs, ← hxs] at hplaced hlaid
  exact ⟨hplaced, hlaid⟩

/-- A call that halts. -/
theorem Goes.of_halt {limit f : Nat} {args : List Val} {cause : Halt} {after : Store}
    (hplaced : AllPlaced bs) : Goes limit bs (answered f args (.halt cause after))
      (Returns (.halt cause after)) after :=
  .of_blocks_eq_nil hplaced rfl fun hreturns => absurd hreturns (not_returns_halt _ _)

/-- A call to `alloc` that returns. -/
theorem Goes.of_block {limit : Nat} {place : UInt32} {after : Store}
    (h : Laid limit (bs ++ [⟨place.toNat, size.toNat, after⟩]) after) :
    Goes limit bs (answered 0 [.i32 size] (.values [.i32 place] after))
      (Returns (.values [.i32 place] after)) after :=
  ⟨h.placed, fun _ => h⟩

/-- A piece behind another one. -/
theorem Goes.behind {limit : Nat} {xs ys : List Answer} {succeeds : Prop}
    (h : Goes limit (bs ++ blocks xs) ys succeeds st) : Goes limit bs (xs ++ ys) succeeds st := by
  obtain ⟨hplaced, hlaid⟩ := h
  rw [List.append_assoc, ← blocks_append] at hplaced hlaid
  exact ⟨hplaced, hlaid⟩

theorem memorySize_grow {n : Nat} (hgrown : (c.growMemory st 0 .w32 n).2.isSome) :
    (c.growMemory st 0 .w32 n).1.memorySize 0 = st.memorySize 0 + n * pageSize := by
  rw [Code.growMemory] at hgrown ⊢
  rcases st.growMemory_cases c.maxMemory 0 .w32 n with ⟨m, hm, hsome⟩ | hnone
  · rw [hsome, Contents.memorySize_of_eq_some hm, ← m.size_grow n]
    exact Contents.memorySize_of_eq_some (Contents.getElem?_memories_modify_self hm (·.grow n))
  · rw [hnone] at hgrown
    cases hgrown

theorem memorySize_growMemory_le {n : Nat} (h : st.memorySize 0 ≤ c.maxMemory) :
    (c.growMemory st 0 .w32 n).1.memorySize 0 ≤ c.maxMemory := by
  have hbecomes := becomes_growMemory c.maxMemory st.toContents 0 .w32 n
  change ((st.toContents.growMemory c.maxMemory 0 .w32 n).1).memorySize 0 ≤ c.maxMemory
  rw [Contents.memorySize] at h ⊢
  generalize st.memories = memories at hbecomes h
  generalize (st.toContents.growMemory c.maxMemory 0 .w32 n).1.memories = grown at hbecomes ⊢
  cases hbecomes with
  | nil => exact Nat.zero_le _
  | cons hfirst =>
    rcases hfirst.bounded with hsame | ⟨hle, -⟩
    · exact hsame.trans_le h
    · exact hle

/-- A call to `alloc` that returns adds a block to the end of the heap. -/
theorem Laid.allocates (h : Laid c.maxMemory bs st) (hlimit : c.maxMemory < 2 ^ 31)
    (hsize : size.toNat < 2 ^ 31) {r : CallResult} (hr : Allocates c size st r) :
    Goes c.maxMemory bs (answered 0 [.i32 size] r) (Returns r) r.store := by
  obtain ⟨heap, hheap, hlow, haligned, hin, hends⟩ := h.heap
  have hmost := h.size_le
  have hend : (memoryEnd st).toNat = st.memorySize 0 := toNat_memoryEnd (by omega)
  have hmoved := @toNat_heapAfter heap size (by omega) hsize
  cases hr with
  | outOfFuel | stuck | full => exact .of_halt h.placed
  | @fits heap' hheap' hfits =>
    cases hheap.symm.trans hheap'
    rw [UInt32.le_iff_toNat_le, hend] at hfits
    exact .of_block (h.concat hlimit hheap hsize (heap_setGlobal hheap _) hfits hmost (.inl rfl))
  | @grows heap' hheap' hover hgrown =>
    cases hheap.symm.trans hheap'
    rw [UInt32.le_iff_toNat_le, hend] at hover
    have hmissing := @toNat_missingPages st (heapAfter heap size)
      (by rw [UInt32.le_iff_toNat_le]; omega) (by omega)
    have hpages := memorySize_mod st 0
    generalize (missingPages (heapAfter heap size) st).toNat = missing at hmissing hgrown ⊢
    have hle := @memorySize_growMemory_le c (st.setGlobal 0 (.i32 (heapAfter heap size)))
      missing hmost
    have hgrown' : (c.growMemory (st.setGlobal 0 (.i32 (heapAfter heap size)))
        0 .w32 missing).1.memorySize 0 = st.memorySize 0 + missing * pageSize :=
      memorySize_grow hgrown
    simp only [pageSize] at hgrown' hpages
    refine .of_block (h.concat hlimit hheap hsize ?_ ?_ hle (.inr ?_))
    · show (c.growMemory _ _ _ _).1.globals[0]? = _
      rw [globals_growMemory]
      exact heap_setGlobal hheap _
    · show _ ≤ (c.growMemory _ _ _ _).1.memorySize 0
      omega
    · show (c.growMemory _ _ _ _).1.memorySize 0 = _
      omega

/-- What a call from outside makes of its result does not matter to the heap. -/
theorem Goes.fromOutside {limit : Nat} {xs : List Answer} {r : CallResult}
    (h : Goes limit bs xs (Returns r) r.store) :
    Goes limit bs xs (Returns (fromOutside r)) (fromOutside r).store := by
  cases r with
  | values vs after => exact ⟨h.placed, fun _ => h.laid ⟨vs, after, rfl⟩⟩
  | halt cause after => exact ⟨h.placed, fun hreturns => absurd hreturns (not_returns_halt _ _)⟩

/-- What a function other than `alloc` returns is no block. -/
theorem blocks_answered_of_ne {f : Nat} (hf : f ≠ 0) (args : List Val) (r : CallResult) :
    blocks (answered f args r) = [] := by
  cases r with
  | values vs after =>
    have hother : (f == 0) = false := beq_eq_false_iff_ne.2 hf
    rw [answered, blocks, List.filter_cons_of_neg (by simp only [hother, Bool.false_eq_true,
      not_false_eq_true])]
    rfl
  | halt => rfl

/-- The body of `reverse` gets the answers of its call to `alloc`, and it is not left for another
function. -/
theorem answersOf_reverse {calls : Nat → List Val → Store → CallResult}
    {within : Nat → List Val → Store → List Event} (halloc : c.funcs[0]? = some alloc)
    (ptr n : UInt32) (st : Store) :
    let entered : State := ⟨[], #[.i32 ptr, .i32 n, .i32 0, .i32 0], st⟩
    answersOf (allTrace c calls within reverse.body entered) =
        answersOf (within 0 [.i32 (n * 4)] (st.spend 4).settle) ∧
      (execAll c calls reverse.body entered).ending ≠ .leaves := by
  intro entered
  -- The three instructions in front of the call push its argument.
  have hanswers : answersOf (allTrace c calls within reverse.body entered) =
      answersOf (allTrace c calls within (.call 0 :: reverse.body.drop 4)
        ⟨[.i32 (n * 4)], entered.locals, st.spend 3⟩) := rfl
  have hruns : execAll c calls reverse.body entered =
      execAll c calls (.call 0 :: reverse.body.drop 4)
        ⟨[.i32 (n * 4)], entered.locals, st.spend 3⟩ := rfl
  rw [hanswers, hruns]
  obtain ⟨hcall, hends⟩ := @answersOf_call_cons c calls within 0 (reverse.body.drop 4) rfl
    [.i32 (n * 4)] entered.locals (st.spend 3)
  refine ⟨hcall.trans ?_, hends⟩
  rw [operandTrace, halloc]
  rfl

variable (hc : c.funcs = #[alloc, free, reverse]) (hlimit : c.maxMemory < 2 ^ 31)
include hc

/-- A call of `reverse` hands out the block that it gets from `alloc`. -/
theorem blocks_invokeAnswers_reverse (depth : Nat) (ptr n : UInt32) (st : Store) :
    blocks (invokeAnswers c (depth + 2) 2 [.i32 n, .i32 ptr] st) =
      if c.exhausted (st.spend 1) then []
      else blocks (answered 0 [.i32 (n * 4)] (allocation c (depth + 1) n st)) := by
  have halloc : c.funcs[0]? = some alloc := by rw [hc]; rfl
  have hreverse : c.funcs[2]? = some reverse := by rw [hc]; rfl
  have hlocals : [Val.i32 n, .i32 ptr].reverse.toArray ++
      (reverse.locals.map Val.zero).toArray = #[.i32 ptr, .i32 n, .i32 0, .i32 0] := rfl
  obtain ⟨hbody, hends⟩ := @answersOf_reverse c (invoke c (depth + 1)) (invokeTrace c (depth + 1))
    halloc ptr n (st.spend 1)
  have hinner := invokeAnswers_of_callFree halloc rfl depth [.i32 (n * 4)]
    ((st.spend 1).spend 4).settle
  rw [invokeAnswers] at hinner
  rw [invokeAnswers_succ, blocks_append, blocks_answered_of_ne (by decide), List.append_nil]
  split
  · rfl
  · simp only [hreverse, hlocals, hbody, answersOf_returnedTrace hends, List.append_nil, hinner]
    rfl

theorem blocks_callTrace_free (ptr size : UInt32) (st : Store) :
    blocks (answersOf (callTrace c 1 [.i32 ptr, .i32 size] st)) = [] := by
  have hfn : c.funcs[1]? = some free := by rw [hc]; rfl
  rw [answersOf_callTrace, depthBound, invokeAnswers_of_callFree hfn rfl]
  exact blocks_answered_of_ne (by decide) _ _

include hlimit

theorem Laid.call_alloc (h : Laid c.maxMemory bs st) (hsize : size.toNat < 2 ^ 31) :
    Goes c.maxMemory bs (answersOf (callTrace c 0 [.i32 size] st))
      (Returns (call c 0 [.i32 size] st)) (call c 0 [.i32 size] st).store := by
  have hfn : c.funcs[0]? = some alloc := by rw [hc]; rfl
  have hanswers : answersOf (callTrace c 0 [.i32 size] st) =
      answered 0 [.i32 size] (invoke c depthBound 0 [.i32 size] st.settle) :=
    (answersOf_callTrace c 0 [.i32 size] st).trans
      (invokeAnswers_of_callFree hfn rfl 15999 [.i32 size] st.settle)
  have hsettled : Laid c.maxMemory bs st.settle := h.of_eq rfl rfl
  rw [hanswers, call_eq]
  exact (hsettled.allocates hlimit hsize (allocates_invoke hc 15999 size st.settle)).fromOutside

theorem Laid.call_reverse (h : Laid c.maxMemory bs st) {ptr n : UInt32}
    (hn : n.toNat * 4 < 2 ^ 31) :
    Goes c.maxMemory bs (answersOf (callTrace c 2 [.i32 ptr, .i32 n] st))
      (Returns (call c 2 [.i32 ptr, .i32 n] st))
      (call c 2 [.i32 ptr, .i32 n] st).store := by
  have hblocks : blocks (answersOf (callTrace c 2 [.i32 ptr, .i32 n] st)) = _ :=
    (congrArg blocks (answersOf_callTrace c 2 [.i32 ptr, .i32 n] st)).trans
      (blocks_invokeAnswers_reverse hc 15998 ptr n st.settle)
  have hsize : (n * 4).toNat < 2 ^ 31 := by
    rw [toNat_mul_four (by omega)]
    exact hn
  have hentered : Laid c.maxMemory bs (st.settle.spend 5).settle := h.of_eq rfl rfl
  have hinner : Goes c.maxMemory bs (answered 0 [.i32 (n * 4)] (innerAllocation c n st)) _ _ :=
    hentered.allocates hlimit hsize (allocates_inner hc n st)
  rw [innerAllocation] at hinner
  have hreverses : Reverses c 15999 ptr n st.settle
      (invoke c depthBound 2 [Val.i32 ptr, .i32 n].reverse st.settle) :=
    reverses_invoke hc 15998 ptr n st.settle
  rw [call_eq]
  refine Goes.fromOutside ?_
  by_cases hout : c.exhausted (st.settle.spend 1) = true
  · have hhalts : invoke c depthBound 2 [Val.i32 ptr, .i32 n].reverse st.settle =
        .halt (.trap .outOfFuel) (st.settle.spend 1) := by
      rw [depthBound, invoke_succ, if_pos hout]
    rw [if_pos hout] at hblocks
    rw [hhalts]
    exact .of_blocks_eq_nil h.placed hblocks fun hreturns => absurd hreturns (not_returns_halt _ _)
  · rw [if_neg hout] at hblocks
    refine ⟨by rw [hblocks]; exact hinner.placed, fun hreturns => ?_⟩
    rw [hblocks]
    generalize invoke c depthBound 2 [Val.i32 ptr, .i32 n].reverse st.settle = r
      at hreverses hreturns
    obtain ⟨vs, after, rfl⟩ := hreturns
    cases hreverses with
    | returns halloc hturned hglobals =>
      exact (hinner.laid ⟨_, _, halloc⟩).of_eq (by rw [halloc]; exact hglobals)
        (by rw [halloc]; exact hturned.memorySize_eq)

end Calls

end Scenario.Reverse

end WasmGuest
