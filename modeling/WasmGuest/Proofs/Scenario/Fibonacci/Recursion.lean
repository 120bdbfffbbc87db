import Mathlib.Data.Nat.Fib.Basic
import WasmGuest.Proofs.Machine.Steps
import WasmGuest.Proofs.Scenario.Fibonacci.Code

/-!
# The run of the recursive function

`fibrec` calls itself on the number two below, and then on the number one below.
Its fuel is therefore a sum along the tree of its calls.  Fuel is looked at when a
function is entered, and the last entry lies before the end: a call whose limit
falls in between returns all the same.

* `recursionCost`, `lastCheck`: the fuel of a call, and how much of it is spent at
  the last entry.
* `Computes` lists what a call comes to, and `computes_invoke` proves it for every
  number, store, limit and depth; `computes_call` is about calls from outside.
-/

namespace WasmGuest.Scenario.Fibonacci

open Wasm
open Machine

/-! ## What a call costs -/

/-- The fuel that a call spends. -/
def recursionCost : Nat → Nat
  | 0 | 1 => 6
  | n + 2 => 14 + recursionCost n + recursionCost (n + 1)

/-- The fuel that a call has spent when it enters a function for the last time. -/
def lastCheck : Nat → Nat
  | 0 | 1 => 1
  | n + 2 => 13 + recursionCost n + lastCheck (n + 1)

theorem lastCheck_pos (n : Nat) : 0 < lastCheck n := by
  fun_cases lastCheck n <;> omega

/-- Behind the last entry, every call that is left still has something to do. -/
theorem lastCheck_succ_add (n : Nat) : lastCheck (n + 1) + n + 5 = recursionCost (n + 1) := by
  induction n with
  | zero => rfl
  | succ n ih =>
    rw [lastCheck, recursionCost]
    omega

theorem lastCheck_lt (n : Nat) : lastCheck n < recursionCost n := by
  cases n with
  | zero => decide
  | succ n =>
    have := lastCheck_succ_add n
    omega

theorem lt_recursionCost (n : Nat) : n < recursionCost n := by
  cases n with
  | zero => decide
  | succ n =>
    have := lastCheck_succ_add n
    omega

/-- The next number enters a function behind all that this one costs. -/
theorem recursionCost_lt_lastCheck_succ (n : Nat) : recursionCost (n + 1) < lastCheck (n + 2) := by
  have hleft := lastCheck_succ_add n
  have hbelow := lt_recursionCost n
  rw [lastCheck]
  omega

theorem recursionCost_strictMono : StrictMono fun n => recursionCost (n + 1) :=
  strictMono_nat_of_lt_succ fun n =>
    (recursionCost_lt_lastCheck_succ n).trans (lastCheck_lt (n + 2))

theorem lastCheck_strictMono : StrictMono fun n => lastCheck (n + 1) :=
  strictMono_nat_of_lt_succ fun n =>
    (lastCheck_lt (n + 1)).trans (recursionCost_lt_lastCheck_succ n)

/-- So does every later number. -/
theorem recursionCost_lt_lastCheck {m n : Nat} (h0 : 0 < m) (h : m < n) :
    recursionCost m < lastCheck n := by
  obtain ⟨m, rfl⟩ := Nat.exists_eq_add_one_of_ne_zero (Nat.ne_of_gt h0)
  obtain ⟨n, rfl⟩ := Nat.exists_eq_add_one_of_ne_zero (Nat.ne_of_gt (h0.trans h))
  exact (recursionCost_lt_lastCheck_succ m).trans_le
    (lastCheck_strictMono.monotone (Nat.lt_of_succ_lt_succ h))

/-- The fuel doubles with every second number. -/
theorem two_pow_le_recursionCost (n : Nat) : 2 ^ (n / 2) ≤ recursionCost n := by
  fun_induction recursionCost n with
  | case1 => decide
  | case2 => decide
  | case3 n ih _ =>
    have hnext : recursionCost n ≤ recursionCost (n + 1) := by
      cases n with
      | zero => decide
      | succ n => exact (recursionCost_strictMono (Nat.lt_succ_self n)).le
    have hhalf : (n + 2) / 2 = n / 2 + 1 := Nat.add_div_right n (by decide)
    rw [hhalf, Nat.pow_succ]
    omega

/-- A number whose call can be paid from some limit is far below the bound on the depth. -/
theorem succ_lt_depthBound {n : Nat} (h : lastCheck n < UInt64.size) : n + 1 < depthBound := by
  by_contra hdeep
  obtain ⟨m, rfl⟩ : ∃ m, n = m + 2 := ⟨n - 2, by simp only [depthBound] at hdeep; omega⟩
  have hhalf : 64 ≤ m / 2 := by simp only [depthBound] at hdeep; omega
  have hpow : UInt64.size ≤ recursionCost m :=
    (Nat.pow_le_pow_right (by decide) hhalf).trans (two_pow_le_recursionCost m)
  rw [lastCheck] at h
  omega

/-! ## The body of the function -/

section Body

variable {c : Code} {calls : Nat → List Val → Store → CallResult} {st between after : Store}
  {a x y : UInt32}

theorem arity : recursive.type.params.length = 1 := rfl

/-- The body goes on by whether the number is above one. -/
theorem execAll_recursive : execAll c calls recursive.body ⟨[], #[.i32 a], st⟩ =
    leave 1 [] (execAll c calls
      (if Word32.compare (.le .signed) a 1 then [.localGet 0] else descend)
      ⟨[], #[.i32 a], st.spend 4⟩) := by
  simp only [recursive, execAll_localGet, List.getElem?_toArray, List.getElem?_cons_zero,
    execAll_const, execAll_compare, execAll_ifElse, Store.spend_spend, Nat.reduceAdd, andThen_nil]
  rfl

theorem execAll_descend (hfn : c.funcs[0]? = some recursive)
    (hfirst : calls 0 [.i32 (a - 2)] (st.spend 4).settle = .values [.i32 x] between)
    (hsecond : calls 0 [.i32 (a - 1)] (between.spend 4).settle = .values [.i32 y] after) :
    execAll c calls descend ⟨[], #[.i32 a], st⟩ =
      .next ⟨[.i32 (x + y)], #[.i32 a], after.spend 1⟩ := by
  simp only [descend, execAll_localGet, List.getElem?_toArray, List.getElem?_cons_zero,
    execAll_const, execAll_binary, Word32.binary, execAll_call hfn, Store.spend_spend,
    Nat.reduceAdd, arity, List.take_succ_cons, List.take_zero, List.drop_succ_cons, List.drop_zero,
    hfirst, List.cons_append, List.nil_append, hsecond]
  rw [execAll]

/-- If the first of the two calls halts, the second is not made. -/
theorem execAll_descend_of_first {h : Halt} (hfn : c.funcs[0]? = some recursive)
    (hfirst : calls 0 [.i32 (a - 2)] (st.spend 4).settle = .halt h after) :
    execAll c calls descend ⟨[], #[.i32 a], st⟩ = .halt h after := by
  simp only [descend, execAll_localGet, List.getElem?_toArray, List.getElem?_cons_zero,
    execAll_const, execAll_binary, Word32.binary, execAll_call hfn, Store.spend_spend,
    Nat.reduceAdd, arity, List.take_succ_cons, List.take_zero, hfirst]

theorem execAll_descend_of_second {h : Halt} (hfn : c.funcs[0]? = some recursive)
    (hfirst : calls 0 [.i32 (a - 2)] (st.spend 4).settle = .values [.i32 x] between)
    (hsecond : calls 0 [.i32 (a - 1)] (between.spend 4).settle = .halt h after) :
    execAll c calls descend ⟨[], #[.i32 a], st⟩ = .halt h after := by
  simp only [descend, execAll_localGet, List.getElem?_toArray, List.getElem?_cons_zero,
    execAll_const, execAll_binary, Word32.binary, execAll_call hfn, Store.spend_spend,
    Nat.reduceAdd, arity, List.take_succ_cons, List.take_zero, List.drop_succ_cons, List.drop_zero,
    hfirst, List.cons_append, List.nil_append, hsecond]

end Body

/-! ## The run of a call -/

section Run

variable {c : Code} {st : Store} {n : Nat}

/-- A number as a 32-bit integer. -/
abbrev word (n : Nat) : UInt32 := .ofNat n

theorem compare_word (h : n < 2 ^ 31) :
    Word32.compare (.le .signed) (word n) 1 = decide (n ≤ 1) := by
  have hn : (word n).toInt32.toInt = n := by
    rw [UInt32.toInt32_ofNat', Int32.toInt_ofNat_of_lt h]
  refine decide_eq_decide.2 (Int32.le_iff_toInt_le.trans ?_)
  rw [hn]
  exact Int.ofNat_le

theorem invoke_recursive (hfn : c.funcs[0]? = some recursive)
    (hin : c.exhausted (st.spend 1) = false) (depth : Nat) (a : UInt32) :
    invoke c (depth + 1) 0 [.i32 a] st =
      returned 1 (enter c (invoke c depth) (turnBound - 1))
        (execAll c (invoke c depth) recursive.body ⟨[], #[.i32 a], st.spend 1⟩) := by
  rw [invoke_succ]
  simp only [hin, Bool.false_eq_true, if_false, hfn]
  rfl

/-- What a call on a number comes to: it returns the Fibonacci number modulo `2 ^ 32`, or reaches
the limit at an entry, or makes more calls at once than there may be. -/
inductive Computes (c : Code) (depth n : Nat) (st : Store) : CallResult → Prop where
  | returns (hfuel : ∀ l, c.limit = some l → st.spent + lastCheck n < l) :
      Computes c depth n st
        (.values [.i32 (word (Nat.fib n))] (st.spend (recursionCost n)).settle)
  | runsOut {l : Nat} {after : Store} (hlimit : c.limit = some l)
      (hfuel : l ≤ st.spent + lastCheck n) :
      Computes c depth n st (.halt (.trap .outOfFuel) after)
  | overflows {after : Store} (hdepth : depth ≤ n) :
      Computes c depth n st (.halt (.trap .stackOverflow) after)

section Calls

variable {calls onward : Nat → List Val → Store → CallResult} {depth : Nat}

/-- The first branch returns its parameter. -/
theorem returned_parameter (a : UInt32) : returned 1 onward (leave 1 [] (execAll c calls
    [.localGet 0] ⟨[], #[.i32 a], st.spend 5⟩)) = .values [.i32 a] (st.spend 6).settle := by
  rw [execAll_localGet]
  simp only [List.getElem?_toArray, List.getElem?_cons_zero, Store.spend_spend, execAll]
  rfl

/-- Up to one a number is returned as it is. -/
theorem computes_of_le (h : n ≤ 1) (hfuel : ∀ l, c.limit = some l → st.spent + 1 < l) :
    Computes c depth n st (returned 1 onward (leave 1 [] (execAll c calls [.localGet 0]
      ⟨[], #[.i32 (word n)], st.spend 5⟩))) := by
  rw [returned_parameter]
  obtain rfl | rfl : n = 0 ∨ n = 1 := by omega
  · exact .returns hfuel
  · exact .returns hfuel

/-- Behind the first of its calls, what a call comes to follows from what the second comes to. -/
theorem computes_of_second (hfn : c.funcs[0]? = some recursive)
    (hfirst : calls 0 [.i32 (word (n + 2) - 2)] ((st.spend 5).spend 4).settle =
      .values [.i32 (word (Nat.fib n))] ((st.spend 9).settle.spend (recursionCost n)).settle)
    (hsecond : Computes c depth (n + 1) (st.spend (13 + recursionCost n)).settle
      (calls 0 [.i32 (word (n + 1))] (st.spend (13 + recursionCost n)).settle)) :
    Computes c (depth + 1) (n + 2) st (returned 1 onward (leave 1 [] (execAll c calls descend
      ⟨[], #[.i32 (word (n + 2))], st.spend 5⟩))) := by
  have hone : word (n + 1) = word (n + 2) - 1 := UInt32.ofNat_sub (Nat.le_add_left 1 (n + 1))
  have hlast : lastCheck (n + 2) = 13 + recursionCost n + lastCheck (n + 1) := rfl
  have hbetween : (((st.spend 9).settle.spend (recursionCost n)).settle.spend 4).settle =
      (st.spend (13 + recursionCost n)).settle := by
    simp only [Store.settle_spend_settle, Store.spend_spend]
    exact congrArg (fun k => (st.spend k).settle) (by omega)
  generalize hcall : calls 0 [.i32 (word (n + 1))] (st.spend (13 + recursionCost n)).settle =
    r at hsecond
  rw [hone, ← hbetween] at hcall
  cases hsecond with
  | @runsOut l after hlimit hfuel =>
    rw [execAll_descend_of_second hfn hfirst hcall]
    refine .runsOut hlimit (hfuel.trans (Nat.le_of_eq ?_))
    show st.spent + (13 + recursionCost n) + lastCheck (n + 1) = _
    omega
  | @overflows after hdepth =>
    rw [execAll_descend_of_second hfn hfirst hcall]
    exact .overflows (by omega)
  | returns hfuel =>
    have hafter : (((st.spend (13 + recursionCost n)).settle.spend
        (recursionCost (n + 1))).settle.spend 1).settle =
          (st.spend (recursionCost (n + 2))).settle := by
      simp only [Store.settle_spend_settle, Store.spend_spend]
      exact congrArg (fun k => (st.spend k).settle) (by rw [recursionCost]; omega)
    rw [execAll_descend hfn hfirst hcall, ← UInt32.ofNat_add, ← Nat.fib_add_two]
    show Computes c (depth + 1) (n + 2) st (.values [.i32 (word (Nat.fib (n + 2)))] _)
    rw [hafter]
    refine .returns fun l hlimit => lt_of_eq_of_lt ?_ (hfuel l hlimit)
    show _ = st.spent + (13 + recursionCost n) + lastCheck (n + 1)
    omega

/-- Above one, what a call comes to follows from what its two calls come to. -/
theorem computes_of_calls (hfn : c.funcs[0]? = some recursive)
    (hcalls : ∀ k < n + 2, ∀ st, Computes c depth k st (calls 0 [.i32 (word k)] st)) :
    Computes c (depth + 1) (n + 2) st (returned 1 onward (leave 1 [] (execAll c calls descend
      ⟨[], #[.i32 (word (n + 2))], st.spend 5⟩))) := by
  have htwo : word n = word (n + 2) - 2 := UInt32.ofNat_sub (Nat.le_add_left 2 n)
  have hfirst := hcalls n (by omega) (st.spend 9).settle
  generalize hcall : calls 0 [.i32 (word n)] (st.spend 9).settle = r at hfirst
  rw [htwo, ← Store.spend_spend st 5 4] at hcall
  cases hfirst with
  | @runsOut l after hlimit hfuel =>
    rw [execAll_descend_of_first hfn hcall]
    have hlast : lastCheck (n + 2) = 13 + recursionCost n + lastCheck (n + 1) := rfl
    have hcost := lastCheck_lt n
    refine .runsOut hlimit (hfuel.trans ?_)
    show st.spent + 9 + lastCheck n ≤ _
    omega
  | @overflows after hdepth =>
    rw [execAll_descend_of_first hfn hcall]
    exact .overflows (by omega)
  | returns => exact computes_of_second hfn hcall (hcalls (n + 1) (by omega) _)

end Calls

/-- The induction is on the depth: the calls that a call makes have one less. -/
theorem computes_invoke (hfn : c.funcs[0]? = some recursive) (depth : Nat) {n : Nat}
    (h : n < 2 ^ 31) (st : Store) :
    Computes c depth n st (invoke c depth 0 [.i32 (word n)] st) := by
  induction depth generalizing n st with
  | zero => exact .overflows (Nat.zero_le n)
  | succ depth ih =>
    cases hin : c.exhausted (st.spend 1) with
    | true =>
      obtain ⟨l, hlimit, hl⟩ := Code.exhausted_iff.1 hin
      rw [invoke_succ, hin, if_pos rfl]
      exact .runsOut hlimit (hl.trans (Nat.add_le_add_left (lastCheck_pos n) st.spent))
    | false =>
      rw [invoke_recursive hfn hin, execAll_recursive, compare_word h, Store.spend_spend]
      by_cases hsmall : n ≤ 1
      · rw [decide_eq_true hsmall]
        exact computes_of_le hsmall (Code.not_exhausted_iff.1 hin)
      · obtain ⟨m, rfl⟩ : ∃ m, n = m + 2 := ⟨n - 2, by omega⟩
        rw [decide_eq_false hsmall]
        exact computes_of_calls hfn fun k hk st => ih (by omega) st

/-- A call from outside starts settled, and may go as deep as any. -/
theorem computes_call (hfn : c.funcs[0]? = some recursive) (h : n < 2 ^ 31) (st : Store) :
    Computes c depthBound n st.settle (call c 0 [.i32 (word n)] st) := by
  have hinvoke := computes_invoke hfn depthBound h st.settle
  rw [call, List.reverse_singleton]
  generalize invoke c depthBound 0 [.i32 (word n)] st.settle = r at hinvoke ⊢
  cases hinvoke with
  | returns hfuel => exact .returns hfuel
  | runsOut hlimit hfuel => exact .runsOut hlimit hfuel
  | overflows hdepth => exact .overflows hdepth

end Run

end WasmGuest.Scenario.Fibonacci
