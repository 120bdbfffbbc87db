import WasmGuest.Proofs.Scenario.Reverse.Alloc

/-!
# The loop of the reversing module

The function `reverse` asks `alloc` for a block and copies the items into it from
its end.  The addresses of the guest are words: they are the numbers one expects
only if neither block wraps around, and a turn keeps what earlier turns wrote only
if the blocks are apart.  `Behind` says both; the invariant `Turned` promises
nothing about the items without it, so that it holds of every run.

* `execAll_turn`: one turn leaves the loop, copies an item, or halts.
* `Turned.step`: a turn keeps the invariant; `iterate_turn` is the induction.
* `Hindered` lists why the loop halts, and `Unhindered` is what rules it out.
* `Reverses` lists what a call of the whole function comes to, and `reverses_invoke`
  proves it.
-/

namespace WasmGuest

open Wasm (Val)
open Machine (Store)

theorem loaded_word (n : Nat) :
    Machine.loaded ⟨.i32, 4, .unsigned⟩ n = .i32 (UInt32.ofNat n) := by
  have hmod : ((n : Int) % 2 ^ 32).toNat = n % 2 ^ 32 := by omega
  show Val.i32 (UInt32.ofNat ((n : Int) % 2 ^ 32).toNat) = _
  rw [hmod]
  congr 1
  apply UInt32.toNat_inj.1
  rw [UInt32.toNat_ofNat', UInt32.toNat_ofNat', Nat.mod_mod]

namespace Scenario.Reverse

open Wasm
open Machine

/-- One turn of the loop: it is left behind the last item, or it copies an item. -/
theorem execAll_turn (c : Code) (calls : Nat → List Val → Store → CallResult)
    (ptr n out i : UInt32) (st : Store) :
    execAll c calls turn ⟨[], #[.i32 ptr, .i32 n, .i32 out, .i32 i], st⟩ =
      let source := (ptr + i * 4).toNat
      let target := (out + (n - 1 - i) * 4).toNat
      if n.toInt32 ≤ i.toInt32 then
        .branch 1 ⟨[], #[.i32 ptr, .i32 n, .i32 out, .i32 i], st.spend 4⟩
      else if source + 4 ≤ st.memorySize 0 then
        if target + 4 ≤ st.memorySize 0 then
          .branch 0 ⟨[], #[.i32 ptr, .i32 n, .i32 out, .i32 (i + 1)],
            (st.write 0 target (bytesOf 4 (st.wordAt 0 source).toNat)).spend 25⟩
        else .halt (.trap .memoryOutOfBounds) (st.spend 20)
      else .halt (.trap .memoryOutOfBounds) (st.spend 19) := by
  simp only [turn, num, sub, mul, add, load, store, execAll_localGet, execAll_localSet,
    execAll_const, execAll_binary, execAll_compare, execAll_brIf, execAll_br, execAll_load,
    execAll_store, load?_word, loaded_word, Store.spend_spend, Store.toContents_spend,
    Store.write_spend, Word32.binary, Word32.compare, Nat.reduceAdd, Nat.add_zero,
    decide_eq_true_eq, List.setIfInBounds_toArray, List.set_cons_succ, List.set_cons_zero,
    List.getElem?_toArray, List.getElem?_cons_zero, List.getElem?_cons_succ]
  split
  · rfl
  · by_cases hsource : (ptr + i * 4).toNat + 4 ≤ st.memorySize 0
    · simp only [hsource, if_true]
      rfl
    · simp only [hsource, if_false]

/-! ## The whole loop -/

/-- The new block lies behind the old one, and neither wraps around. -/
def Behind (ptr n out : UInt32) : Prop :=
  ptr.toNat + 4 * n.toNat ≤ out.toNat ∧ out.toNat + 4 * n.toNat ≤ 2 ^ 32

/-- What holds before turn `i` of a loop that was entered on `st₀`: if the blocks are apart, the old
one is as it was, and its first `i` words stand at the end of the new one, back to front. -/
structure Turned (ptr n out : UInt32) (st₀ : Store) (i : Nat) (st : Store) : Prop where
  le : i ≤ n.toNat
  memorySize_eq : st.memorySize 0 = st₀.memorySize 0
  source : Behind ptr n out → ∀ k < n.toNat,
    st.wordAt 0 (ptr.toNat + 4 * k) = st₀.wordAt 0 (ptr.toNat + 4 * k)
  target : Behind ptr n out → ∀ k < i,
    st.wordAt 0 (out.toNat + 4 * (n.toNat - 1 - k)) = st₀.wordAt 0 (ptr.toNat + 4 * k)

/-- The locals before turn `i`. -/
def turnLocals (ptr n out : UInt32) (i : Nat) : Array Val :=
  #[.i32 ptr, .i32 n, .i32 out, .i32 (UInt32.ofNat i)]

section Loop

variable {ptr n out : UInt32} {st₀ st : Store} {i : Nat}

theorem toNat_index (hn : n.toNat < 2 ^ 31) (hi : i ≤ n.toNat) : (UInt32.ofNat i).toNat = i := by
  rw [UInt32.toNat_ofNat_of_lt']
  show i < 2 ^ 32
  omega

/-- The number of items that are copied: none if the number is negative to the guest. -/
def turnCount (n : UInt32) : Nat :=
  n.toInt32.toInt.toNat

theorem turnCount_of_lt (hn : n.toNat < 2 ^ 31) : turnCount n = n.toNat := by
  have hpos : ¬ n.toInt32 < 0 := by
    rw [toInt32_neg_iff]
    omega
  rw [turnCount, toInt_toInt32 hpos, Int.toNat_natCast]

theorem turnCount_lt (n : UInt32) : turnCount n < 2 ^ 31 := by
  have hbound := n.toInt32.toInt_lt
  rw [turnCount]
  omega

/-- If anything is copied, the number is not negative. -/
theorem lt_of_lt_turnCount (hi : i < turnCount n) : n.toNat < 2 ^ 31 := by
  by_contra hneg
  have hlt : n.toInt32 < 0 := toInt32_neg_iff.2 (Nat.le_of_not_lt hneg)
  have hint : n.toInt32.toInt < 0 := Int32.lt_iff_toInt_lt.1 hlt
  rw [turnCount] at hi
  omega

/-- The loop is left behind the last item. -/
theorem index_le_iff (hi : i ≤ turnCount n) :
    n.toInt32 ≤ (UInt32.ofNat i).toInt32 ↔ turnCount n ≤ i := by
  have hlt := turnCount_lt n
  have hindex : (UInt32.ofNat i).toInt32.toInt = i := by
    rw [UInt32.toInt32_ofNat', Int32.toInt_ofNat_of_lt (by omega)]
  rw [Int32.le_iff_toInt_le, hindex, turnCount]
  omega

theorem toNat_source (hn : n.toNat < 2 ^ 31) (hi : i < n.toNat) (hbehind : Behind ptr n out) :
    (ptr + UInt32.ofNat i * 4).toNat = ptr.toNat + 4 * i := by
  obtain ⟨hold, hnew⟩ := hbehind
  rw [UInt32.toNat_add, UInt32.toNat_mul, toNat_index hn (by omega)]
  show (ptr.toNat + i * 4 % 2 ^ 32) % 2 ^ 32 = _
  omega

theorem toNat_target (hn : n.toNat < 2 ^ 31) (hi : i < n.toNat) (hbehind : Behind ptr n out) :
    (out + (n - 1 - UInt32.ofNat i) * 4).toNat = out.toNat + 4 * (n.toNat - 1 - i) := by
  obtain ⟨hold, hnew⟩ := hbehind
  have hindex := toNat_index hn (Nat.le_of_lt hi)
  have hone : (n - 1).toNat = n.toNat - 1 := by
    rw [UInt32.toNat_sub_of_le]
    · rfl
    · rw [UInt32.le_iff_toNat_le]
      show 1 ≤ n.toNat
      omega
  have hrest : (n - 1 - UInt32.ofNat i).toNat = n.toNat - 1 - i := by
    rw [UInt32.toNat_sub_of_le, hone, hindex]
    rw [UInt32.le_iff_toNat_le, hone, hindex]
    omega
  rw [UInt32.toNat_add, UInt32.toNat_mul, hrest]
  show (out.toNat + (n.toNat - 1 - i) * 4 % 2 ^ 32) % 2 ^ 32 = _
  omega

theorem Turned.start (ptr n out : UInt32) (st : Store) (cost : Nat) :
    Turned ptr n out st 0 (st.spend cost) :=
  ⟨Nat.zero_le _, rfl, fun _ _ _ => rfl, fun _ _ hk => absurd hk (Nat.not_lt_zero _)⟩

theorem Turned.spend (h : Turned ptr n out st₀ i st) (cost : Nat) :
    Turned ptr n out st₀ i (st.spend cost) :=
  ⟨h.le, h.memorySize_eq, h.source, h.target⟩

theorem Turned.settle (h : Turned ptr n out st₀ i st) : Turned ptr n out st₀ i st.settle :=
  ⟨h.le, h.memorySize_eq, h.source, h.target⟩

/-- A turn that copies an item keeps the invariant. -/
theorem Turned.step (h : Turned ptr n out st₀ i st) (hn : n.toNat < 2 ^ 31) (hi : i < n.toNat)
    (hin : (out + (n - 1 - UInt32.ofNat i) * 4).toNat + 4 ≤ st.memorySize 0) (cost : Nat) :
    Turned ptr n out st₀ (i + 1)
      ((st.write 0 (out + (n - 1 - UInt32.ofNat i) * 4).toNat
        (bytesOf 4 (st.wordAt 0 (ptr + UInt32.ofNat i * 4).toNat).toNat)).spend cost) := by
  constructor
  case le => exact hi
  case memorySize_eq =>
    rw [Store.toContents_spend, Store.toContents_write, Contents.memorySize_write, h.memorySize_eq]
  case source =>
    intro hbehind k hk
    have htarget := toNat_target hn hi hbehind
    rw [← h.source hbehind k hk]
    refine wordAt_write_of_ne _ hin ?_
    obtain ⟨hold, hnew⟩ := hbehind
    omega
  case target =>
    intro hbehind k hk
    have htarget := toNat_target hn hi hbehind
    have hsource := toNat_source hn hi hbehind
    by_cases hlast : k = i
    · rw [hlast, ← h.source hbehind i hi, ← htarget, ← hsource]
      exact wordAt_write _ hin
    · rw [← h.target hbehind k (by omega)]
      refine wordAt_write_of_ne _ hin ?_
      omega

/-- Both blocks lie inside the memory, and fuel is not metered: nothing can go wrong. -/
structure Unhindered (c : Code) (ptr n out : UInt32) (st₀ : Store) : Prop where
  limit_eq : c.limit = none
  behind : Behind ptr n out
  inside : out.toNat + 4 * n.toNat ≤ st₀.memorySize 0

/-- Why the loop halts: the limit is reached at the head of some turn, or an address lies outside of
the memory. -/
inductive Hindered (c : Code) (ptr n out : UInt32) (st₀ : Store) : Halt → Prop where
  | outOfFuel {l : Nat} (hlimit : c.limit = some l)
      (hfuel : l ≤ st₀.spent + 1 + 25 * turnCount n) : Hindered c ptr n out st₀ (.trap .outOfFuel)
  | outside (hblocks : ¬ (Behind ptr n out ∧ out.toNat + 4 * n.toNat ≤ st₀.memorySize 0)) :
      Hindered c ptr n out st₀ (.trap .memoryOutOfBounds)

theorem Hindered.not_unhindered {c : Code} {cause : Halt} (h : Hindered c ptr n out st₀ cause) :
    ¬ Unhindered c ptr n out st₀ := by
  rintro ⟨hunlimited, hbehind, hinside⟩
  cases h with
  | outOfFuel hlimit => cases hunlimited.symm.trans hlimit
  | outside hblocks => exact hblocks ⟨hbehind, hinside⟩

/-- What the loop comes to that was entered after the fuel for one instruction was spent: it halts,
or it is left with all items copied.  Either way the globals are as they were. -/
inductive Copies (c : Code) (ptr n out : UInt32) (st₀ : Store) : Exit → Prop where
  | halts {cause : Halt} {after : Store} (hhindered : Hindered c ptr n out st₀ cause)
      (hglobals : after.globals = st₀.globals) : Copies c ptr n out st₀ (.halt cause after)
  | leaves {after : Store} (hturned : Turned ptr n out st₀ (turnCount n) after)
      (hglobals : after.globals = st₀.globals)
      (hspent : after.spent = st₀.spent + 1 + 25 * turnCount n + 4) :
      Copies c ptr n out st₀ (.branch 1 ⟨[], turnLocals ptr n out (turnCount n), after⟩)

/-- The loop turns until all items are copied, unless it is hindered. -/
theorem iterate_turn (c : Code) (calls : Nat → List Val → Store → CallResult) (turns : Nat)
    (h : Turned ptr n out st₀ i st) (hi : i ≤ turnCount n) (hturns : turnCount n - i < turns)
    (hglobals : st.globals = st₀.globals) (hspent : st.spent = st₀.spent + 1 + 25 * i) :
    Copies c ptr n out st₀
      (iterate c (execAll c calls turn) 0 turns ⟨[], turnLocals ptr n out i, st⟩) := by
  -- The induction is on the bound; it is never met, since every turn but the last copies an item.
  induction turns generalizing i st with
  | zero => omega
  | succ turns ih =>
    rw [iterate]
    cases hout : c.exhausted st with
    | true =>
      obtain ⟨l, hlimit, hl⟩ := Code.exhausted_iff.1 hout
      exact .halts (.outOfFuel hlimit (by omega)) hglobals
    | false =>
      simp only [turnLocals, execAll_turn, index_le_iff hi, Bool.false_eq_true, if_false]
      by_cases hlast : turnCount n ≤ i
      · obtain rfl : i = turnCount n := Nat.le_antisymm hi hlast
        simp only [hlast, if_true]
        exact .leaves (h.spend 4) hglobals (by rw [Store.spent_spend, hspent])
      · have hless : i < turnCount n := Nat.lt_of_not_le hlast
        have hn := lt_of_lt_turnCount hless
        have hin : i < n.toNat := by rwa [turnCount_of_lt hn] at hless
        have hnext : UInt32.ofNat i + 1 = UInt32.ofNat (i + 1) := (UInt32.ofNat_add i 1).symm
        simp only [hlast, if_false]
        by_cases hsource : (ptr + UInt32.ofNat i * 4).toNat + 4 ≤ st.memorySize 0
        · by_cases htarget : (out + (n - 1 - UInt32.ofNat i) * 4).toNat + 4 ≤ st.memorySize 0
          · simp only [hsource, htarget, if_true, List.take_nil, hnext]
            refine ih (h.step hn hin htarget 25) hless (by omega) ?_ ?_
            · rw [Store.toContents_spend, Store.globals_write, hglobals]
            · rw [Store.spent_spend, Store.spent_write, hspent]
              omega
          · simp only [hsource, htarget, if_true, if_false]
            refine .halts (.outside fun ⟨hbehind, hinside⟩ => htarget ?_) hglobals
            rw [toNat_target hn hin hbehind, h.memorySize_eq]
            omega
        · simp only [hsource, if_false]
          refine .halts (.outside fun ⟨hbehind, hinside⟩ => hsource ?_) hglobals
          rw [toNat_source hn hin hbehind, h.memorySize_eq]
          obtain ⟨hold, hnew⟩ := hbehind
          omega

end Loop

/-! ## The function -/

section Function

variable {c : Code} {n : UInt32}

/-- What is left to do once the new block was handed out. -/
theorem execAll_copy (c : Code) (calls : Nat → List Val → Store → CallResult)
    (ptr n out : UInt32) (st : Store) :
    let rest := execAll c calls [.localSet 2, .block ⟨[], []⟩ [.loop ⟨[], []⟩ turn],
      .localGet 2, .localGet 1] ⟨[.i32 out], #[.i32 ptr, .i32 n, .i32 0, .i32 0], st⟩
    (∃ cause after, rest = .halt cause after ∧ Hindered c ptr n out st cause ∧
        after.globals = st.globals) ∨
      ∃ locals after, rest = .next ⟨[.i32 n, .i32 out], locals, after⟩ ∧
        Turned ptr n out st (turnCount n) after ∧ after.globals = st.globals ∧
        after.spent = st.spent + 7 + 25 * turnCount n := by
  intro rest
  have hrest : rest = andThen c calls [.localGet 2, .localGet 1]
      (leave 0 [] (andThen c calls [] (leave 0 [] (iterate c (execAll c calls turn) 0 turnBound
        ⟨[], turnLocals ptr n out 0, st.spend 1⟩)))) := by
    simp only [rest, execAll_localSet, execAll_block, execAll_loop, List.setIfInBounds_toArray,
      List.set_cons_succ, List.set_cons_zero, List.length_nil, List.take_nil, List.drop_nil]
    rfl
  have hturns : turnCount n - 0 < turnBound := by
    have hlt := turnCount_lt n
    simp only [turnBound, UInt64.size]
    omega
  have hcopies := iterate_turn c calls turnBound (Turned.start ptr n out st 1) (Nat.zero_le _)
    hturns rfl rfl
  generalize iterate c (execAll c calls turn) 0 turnBound ⟨[], turnLocals ptr n out 0, st.spend 1⟩ =
    exit at hrest hcopies
  cases hcopies with
  | halts hhindered hglobals => exact .inl ⟨_, _, hrest, hhindered, hglobals⟩
  | @leaves after hturned hglobals hspent =>
    refine .inr ⟨_, after.spend 2, hrest, hturned.spend 2, hglobals, ?_⟩
    rw [Store.spent_spend, hspent]
    omega

/-- The call to `alloc` that `reverse` makes for its result. -/
def allocation (c : Code) (depth : Nat) (n : UInt32) (st : Store) : CallResult :=
  invoke c depth 0 [.i32 (n * 4)] (st.spend 5).settle

/-- What a call to `reverse` comes to: it runs out of fuel on entry, or `alloc` halts, or the
copying is hindered, or it returns the new block, into which all items were copied. -/
inductive Reverses (c : Code) (depth : Nat) (ptr n : UInt32) (st : Store) : CallResult → Prop where
  | outOfFuel (hout : c.exhausted (st.spend 1) = true) :
      Reverses c depth ptr n st (.halt (.trap .outOfFuel) (st.spend 1))
  | unallocated {cause : Halt} {after : Store} (halloc : allocation c depth n st = .halt cause after) :
      Reverses c depth ptr n st (.halt cause after)
  | hindered {out : UInt32} {cause : Halt} {allocated after : Store}
      (halloc : allocation c depth n st = .values [.i32 out] allocated)
      (hhindered : Hindered c ptr n out allocated cause)
      (hglobals : after.globals = allocated.globals) :
      Reverses c depth ptr n st (.halt cause after)
  | returns {out : UInt32} {allocated after : Store}
      (halloc : allocation c depth n st = .values [.i32 out] allocated)
      (hturned : Turned ptr n out allocated (turnCount n) after)
      (hglobals : after.globals = allocated.globals)
      (hspent : after.spent = allocated.spent + 7 + 25 * turnCount n) :
      Reverses c depth ptr n st (.values [.i32 n, .i32 out] after)

theorem reverses_invoke (hc : c.funcs = #[alloc, free, reverse]) (depth : Nat) (ptr n : UInt32)
    (st : Store) :
    Reverses c (depth + 1) ptr n st (invoke c (depth + 2) 2 [.i32 n, .i32 ptr] st) := by
  have hlocals : [Val.i32 n, .i32 ptr].reverse.toArray ++ (reverse.locals.map Val.zero).toArray =
      #[.i32 ptr, .i32 n, .i32 0, .i32 0] := rfl
  have halloc : c.funcs[0]? = some alloc := by rw [hc]; rfl
  have hreverse : c.funcs[2]? = some reverse := by rw [hc]; rfl
  rw [invoke_succ]
  generalize enter c (invoke c (depth + 1)) (turnBound - 1) = onward
  by_cases hout : c.exhausted (st.spend 1) = true
  · simp only [hout, if_true]
    exact .outOfFuel hout
  · simp only [if_neg hout, hreverse, hlocals]
    simp only [reverse, num, mul, execAll_localGet, execAll_const, execAll_binary,
      execAll_call halloc, Word32.binary, Store.spend_spend, Nat.reduceAdd,
      List.getElem?_toArray, List.getElem?_cons_zero, List.getElem?_cons_succ]
    have hallocates : Allocates c (n * 4) (st.spend 5).settle (allocation c (depth + 1) n st) :=
      allocates_invoke hc depth (n * 4) (st.spend 5).settle
    have hcall : invoke c (depth + 1) 0 [.i32 (n * 4)] (st.spend 5).settle =
      allocation c (depth + 1) n st := rfl
    have htake : List.take alloc.type.params.length [Val.i32 (n * 4)] = [.i32 (n * 4)] := rfl
    rw [htake, hcall]
    cases hallocation : allocation c (depth + 1) n st with
    | halt cause after => exact .unallocated hallocation
    | values vs allocated =>
      rw [hallocation] at hallocates
      obtain ⟨out, rfl, -⟩ := hallocates.of_values
      rcases execAll_copy c (invoke c (depth + 1)) ptr n out allocated with
        ⟨cause, after, hhalt, hhindered, hglobals⟩ | ⟨locals, after, hnext, hturned, hglobals, hspent⟩
      · have hresult : returned reverse.type.results.length onward (execAll c
            (invoke c (depth + 1)) _ ⟨[.i32 out], _, allocated⟩) = .halt cause after :=
          congrArg (returned 2 onward) hhalt
        exact hresult ▸ .hindered hallocation hhindered hglobals
      · have hresult : returned reverse.type.results.length onward (execAll c
            (invoke c (depth + 1)) _ ⟨[.i32 out], _, allocated⟩) =
              .values [.i32 n, .i32 out] after.settle :=
          congrArg (returned 2 onward) hnext
        exact hresult ▸ .returns hallocation hturned.settle hglobals hspent

end Function

end Scenario.Reverse

end WasmGuest
