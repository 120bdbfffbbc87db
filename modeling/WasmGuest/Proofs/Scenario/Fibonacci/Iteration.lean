import Mathlib.Data.Nat.Fib.Basic
import WasmGuest.Proofs.Scenario.Fibonacci.Code
import WasmGuest.Proofs.Scenario.Numbers

/-!
# The run of the iterative function

`fibiter` keeps two neighbouring Fibonacci numbers and moves on to the next two in
each turn.  Its counter starts at one and is compared as a signed integer; it
stops at the parameter, which no counter gets past, so the loop has a last turn
for every parameter.

* `execAll_turn`: one turn leaves the loop, or moves on.
* `counts_call`: what a call comes to.
-/

namespace WasmGuest.Scenario.Fibonacci

open Wasm
open Machine

/-! ## The loop -/

section Loop

variable {c : Code} {n : UInt32}

theorem execAll_turn (c : Code) (calls : Nat → List Val → Store → CallResult)
    (n a b t i : UInt32) (st : Store) :
    execAll c calls turn ⟨[], #[.i32 n, .i32 a, .i32 b, .i32 t, .i32 i], st⟩ =
      if n.toInt32 ≤ i.toInt32 then
        .branch 1 ⟨[], #[.i32 n, .i32 a, .i32 b, .i32 t, .i32 i], st.spend 4⟩
      else .branch 0 ⟨[], #[.i32 n, .i32 (a + b), .i32 a, .i32 a, .i32 (i + 1)], st.spend 17⟩ := by
  simp only [turn, execAll_localGet, execAll_localSet, execAll_const, execAll_binary,
    execAll_compare, execAll_brIf, execAll_br, Word32.binary, Word32.compare, Store.spend_spend,
    Nat.reduceAdd, decide_eq_true_eq, List.setIfInBounds_toArray, List.set_cons_succ,
    List.set_cons_zero, List.getElem?_toArray, List.getElem?_cons_zero, List.getElem?_cons_succ]

/-- The locals after `i` turns. -/
def turnLocals (n : UInt32) (i : Nat) : Array Val :=
  #[.i32 n, .i32 (UInt32.ofNat (Nat.fib (i + 1))), .i32 (UInt32.ofNat (Nat.fib i)),
    .i32 (UInt32.ofNat (Nat.fib i)), .i32 (UInt32.ofNat (i + 1))]

/-- The number of turns that move on. -/
def turnCount (n : UInt32) : Nat :=
  (n.toInt32.toInt - 1).toNat

/-- The counter reaches the parameter behind the last turn, or is above it from the start. -/
theorem le_counter_iff {i : Nat} (hi : i ≤ turnCount n) :
    n.toInt32 ≤ (UInt32.ofNat (i + 1)).toInt32 ↔ i = turnCount n := by
  have hbound := n.toInt32.toInt_lt
  rw [turnCount] at hi ⊢
  rw [Int32.le_iff_toInt_le, toInt_toInt32_ofNat (by omega)]
  omega

theorem advances_turn (n : UInt32) (calls : Nat → List Val → Store → CallResult) :
    Advances (execAll c calls turn) (turnLocals n) 17 (turnCount n) := by
  intro i hi st
  have hbelow : ¬ n.toInt32 ≤ (UInt32.ofNat (i + 1)).toInt32 := by
    rw [le_counter_iff (Nat.le_of_lt hi)]
    exact Nat.ne_of_lt hi
  have hsum : UInt32.ofNat (Nat.fib (i + 1)) + UInt32.ofNat (Nat.fib i) =
      UInt32.ofNat (Nat.fib (i + 2)) := by
    rw [← UInt32.ofNat_add, Nat.fib_add_two, Nat.add_comm]
  have hnext : UInt32.ofNat (i + 1) + 1 = UInt32.ofNat (i + 2) :=
    (UInt32.ofNat_add (i + 1) 1).symm
  rw [turnLocals, execAll_turn, if_neg hbelow, hsum, hnext, turnLocals]

theorem breaks_turn (n : UInt32) (calls : Nat → List Val → Store → CallResult) :
    Breaks (execAll c calls turn) (turnLocals n (turnCount n)) 4 := by
  intro st
  rw [turnLocals, execAll_turn, if_pos ((le_counter_iff (Nat.le_refl _)).2 rfl)]

end Loop

/-! ## The function -/

section Call

variable {c : Code}

theorem looping (hfn : c.funcs[1]? = some iterative) (n : UInt32) :
    Looping c 1 [.i32 n] turn 1 (turnLocals n 0) 4 iterative where
  func := hfn
  results := rfl
  prepares calls st := by
    simp only [iterative, execAll_const]
    rw [execAll_localSet, execAll_const, execAll_localSet]
    simp only [Store.spend_spend]
    rfl

/-- A call returns a Fibonacci number if there is fuel for every turn. -/
theorem counts_call (hfn : c.funcs[1]? = some iterative) (n : UInt32) (st : Store) :
    Counts c (.i32 (UInt32.ofNat (Nat.fib (turnCount n + 1)))) (5 + 17 * turnCount n)
      (5 + (17 * turnCount n + 4) + 1) st.settle (call c 1 [.i32 n] st) := by
  have hcount : turnCount n < turnBound := by
    have hbound := n.toInt32.toInt_lt
    simp only [turnCount, turnBound, UInt64.size]
    omega
  exact .of_invoke ((looping hfn n).counts_invoke (advances_turn n) (breaks_turn n) hcount rfl
    st.settle)

end Call

end WasmGuest.Scenario.Fibonacci
