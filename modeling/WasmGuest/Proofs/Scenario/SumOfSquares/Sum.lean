import Mathlib.Tactic.Ring
import WasmGuest.Proofs.Guest.Lists
import WasmGuest.Proofs.Instance.Accounting
import WasmGuest.Proofs.Scenario.Numbers
import WasmGuest.Proofs.Scenario.SumOfSquares.Code

/-!
# Summing squares

The loop adds up squares modulo `2 ^ 32` until its counter is above the parameter.
Division by six does not go through that modulus, so the sum is kept as a number
and reduced only where it meets the locals.  The counter is compared as a signed
integer: for the largest integer no counter is above it, and the loop has no last
turn.

* `Counts` and `Circles` of a call are `counts_call` and `circles_call`.
* `SumsSquares` is what the invocations on an instance give, and `sums_squares`
  proves it for every store of an instance.
-/

namespace WasmGuest

open Wasm
open Machine

namespace Scenario.SumOfSquares

/-- The sum of the squares up to a number. -/
def squares : Nat → Nat
  | 0 => 0
  | k + 1 => squares k + (k + 1) * (k + 1)

theorem six_mul_squares (k : Nat) : 6 * squares k = k * (k + 1) * (2 * k + 1) := by
  induction k with
  | zero => rfl
  | succ k ih =>
    rw [squares, Nat.mul_add, ih]
    ring

theorem squares_eq (k : Nat) : squares k = k * (k + 1) * (2 * k + 1) / 6 := by
  rw [← six_mul_squares, Nat.mul_div_cancel_left _ (by decide)]

/-! ## The loop -/

section Loop

variable {c : Code} {n : UInt32}

/-- One turn leaves the loop, or adds a square. -/
theorem execAll_turn (c : Code) (calls : Nat → List Val → Store → CallResult) (n sum i : UInt32)
    (st : Store) : execAll c calls turn ⟨[], #[.i32 n, .i32 sum, .i32 i], st⟩ =
      if n.toInt32 < i.toInt32 then .branch 1 ⟨[], #[.i32 n, .i32 sum, .i32 i], st.spend 4⟩
      else .branch 0 ⟨[], #[.i32 n, .i32 (sum + i * i), .i32 (i + 1)], st.spend 15⟩ := by
  simp only [turn, execAll_localGet, execAll_localSet, execAll_const, execAll_binary,
    execAll_compare, execAll_brIf, execAll_br, Word32.binary, Word32.compare, Store.spend_spend,
    Nat.reduceAdd, decide_eq_true_eq, List.setIfInBounds_toArray, List.set_cons_succ,
    List.set_cons_zero, List.getElem?_toArray, List.getElem?_cons_zero, List.getElem?_cons_succ]

/-- The locals when `i` squares were added. -/
def turnLocals (n : UInt32) (i : Nat) : Array Val :=
  #[.i32 n, .i32 (UInt32.ofNat (squares i)), .i32 (UInt32.ofNat (i + 1))]

/-- As long as the counter is not above the parameter, its square is added. -/
theorem execAll_turnLocals {calls : Nat → List Val → Store → CallResult} {i : Nat}
    (h : ¬ n.toInt32 < (UInt32.ofNat (i + 1)).toInt32) (st : Store) :
    execAll c calls turn ⟨[], turnLocals n i, st⟩ =
      .branch 0 ⟨[], turnLocals n (i + 1), st.spend 15⟩ := by
  have hsum : UInt32.ofNat (squares i) + UInt32.ofNat (i + 1) * UInt32.ofNat (i + 1) =
      UInt32.ofNat (squares (i + 1)) := by
    rw [← UInt32.ofNat_mul, ← UInt32.ofNat_add, squares]
  have hnext : UInt32.ofNat (i + 1) + 1 = UInt32.ofNat (i + 2) :=
    (UInt32.ofNat_add (i + 1) 1).symm
  rw [turnLocals, execAll_turn, if_neg h, hsum, hnext, turnLocals]

/-- The number of squares that are added. -/
def count (n : UInt32) : Nat :=
  n.toInt32.toInt.toNat

/-- Below the largest integer the counter is above the parameter behind the last square. -/
theorem lt_counter_iff (hn : n.toInt32.toInt < 2 ^ 31 - 1) {i : Nat} (hi : i ≤ count n) :
    n.toInt32 < (UInt32.ofNat (i + 1)).toInt32 ↔ i = count n := by
  rw [count] at hi ⊢
  rw [Int32.lt_iff_toInt_lt, toInt_toInt32_ofNat (by omega)]
  omega

theorem advances_turn (hn : n.toInt32.toInt < 2 ^ 31 - 1)
    (calls : Nat → List Val → Store → CallResult) :
    Advances (execAll c calls turn) (turnLocals n) 15 (count n) := by
  intro i hi st
  refine execAll_turnLocals (fun habove => ?_) st
  rw [lt_counter_iff hn (Nat.le_of_lt hi)] at habove
  omega

theorem breaks_turn (hn : n.toInt32.toInt < 2 ^ 31 - 1)
    (calls : Nat → List Val → Store → CallResult) :
    Breaks (execAll c calls turn) (turnLocals n (count n)) 4 := by
  intro st
  rw [turnLocals, execAll_turn, if_pos ((lt_counter_iff hn (Nat.le_refl _)).2 rfl)]

/-- No counter is above the largest integer. -/
theorem advances_turn_max (hn : n.toInt32.toInt = 2 ^ 31 - 1)
    (calls : Nat → List Val → Store → CallResult) (count : Nat) :
    Advances (execAll c calls turn) (turnLocals n) 15 count := by
  intro i _ st
  refine execAll_turnLocals (fun habove => ?_) st
  have hbound := (UInt32.ofNat (i + 1)).toInt32.toInt_lt
  rw [Int32.lt_iff_toInt_lt] at habove
  omega

end Loop

/-! ## The function -/

section Call

variable {c : Code} {n : UInt32}

theorem looping (hfn : c.funcs[0]? = some sumOfSquares) (n : UInt32) :
    Looping c 0 [.i32 n] turn 1 (turnLocals n 0) 2 sumOfSquares where
  func := hfn
  results := rfl
  prepares calls st := by
    simp only [sumOfSquares, execAll_const]
    rw [execAll_localSet, Store.spend_spend]
    rfl

/-- Below the largest integer a call returns the sum, if there is fuel for every turn. -/
theorem counts_call (hfn : c.funcs[0]? = some sumOfSquares)
    (hn : n.toInt32.toInt < 2 ^ 31 - 1) (st : Store) :
    Counts c (.i32 (UInt32.ofNat (squares (count n)))) (3 + 15 * count n)
      (3 + (15 * count n + 4) + 1) st.settle (call c 0 [.i32 n] st) := by
  have hcount : count n < turnBound := by
    simp only [count, turnBound, UInt64.size]
    omega
  exact .of_invoke ((looping hfn n).counts_invoke (advances_turn hn) (breaks_turn hn) hcount rfl
    st.settle)

/-- On the largest integer no call returns. -/
theorem circles_call (hfn : c.funcs[0]? = some sumOfSquares)
    (hn : n.toInt32.toInt = 2 ^ 31 - 1) (hbound : ∀ l, c.limit = some l → l < turnBound)
    (st : Store) : Circles c (call c 0 [.i32 n] st) :=
  .of_invoke ((looping hfn n).circles_invoke (advances_turn_max hn) (by decide) hbound st.settle)

end Call

end Scenario.SumOfSquares

/-! ## The invocations -/

namespace Scenario

open SumOfSquares

/-- What an invocation on an integer comes to under a configuration. -/
structure SumsSquares (config : Config) (n : Int32) (result : Except Error Outcome) : Prop where
  value_of_nonpos : n ≤ 0 → ∀ outcome, result = .ok outcome → outcome.value = some (.i32 0)
  value_of_pos : 1 ≤ n → ∀ outcome, result = .ok outcome → outcome.value =
    some (.i32 (Int32.ofInt (n.toInt * (n.toInt + 1) * (2 * n.toInt + 1) / 6)))
  /-- The largest integer is the only one whose sum is never given, and every other takes fuel for
  its turns. -/
  returns_iff : (∃ outcome, result = .ok outcome) ↔ n.toInt < 2 ^ 31 - 1 ∧
    ∀ limit, config.fuel = some limit → 3 + 15 * n.toInt.toNat < limit.toNat

section

variable {a : Instance} {config : Config}

theorem offers_sumOfSquares (h : a.prepared = ⟨config, sumOfSquaresModule⟩) :
    a.Offers "sum_of_squares" 0 := by
  rw [Instance.Offers, h]
  rfl

theorem funcs_sumOfSquares (h : a.prepared = ⟨config, sumOfSquaresModule⟩) :
    a.prepared.code.funcs[0]? = some sumOfSquares := by
  rw [h]
  rfl

theorem value_of_squares {n : Int32} (h : 1 ≤ n) :
    Int32.ofNat (squares (count n.toUInt32)) =
      Int32.ofInt (n.toInt * (n.toInt + 1) * (2 * n.toInt + 1) / 6) := by
  have hpos : 1 ≤ n.toInt := Int32.le_iff_toInt_le.1 h
  have hcount : (count n.toUInt32 : Int) = n.toInt := by
    rw [count, Int32.toInt32_toUInt32]
    omega
  rw [← hcount, ← Int32.ofInt_eq_ofNat, squares_eq]
  congr 1

/-- A number up to zero has no squares below it. -/
theorem squares_of_nonpos {n : Int32} (h : n ≤ 0) : squares (count n.toUInt32) = 0 := by
  have hneg : n.toInt ≤ 0 := Int32.le_iff_toInt_le.1 h
  have hcount : count n.toUInt32 = 0 := by
    rw [count, Int32.toInt32_toUInt32]
    omega
  rw [hcount, squares]

/-- On the largest integer the call has no last turn. -/
theorem circles_of_max (h : a.prepared = ⟨config, sumOfSquaresModule⟩) {n : Int32}
    (hmax : n.toInt = 2 ^ 31 - 1) : Circles a.prepared.code (Instance.Offers.call a 0 n) := by
  have hbelow : ∀ l, a.prepared.code.limit = some l → l < turnBound :=
    a.prepared.forall_limit_code_iff.2 fun limit _ => limit.toNat_lt
  exact circles_call (funcs_sumOfSquares h) (by rwa [Int32.toInt32_toUInt32]) hbelow
    a.store.refuel

theorem fails_of_max (h : a.prepared = ⟨config, sumOfSquaresModule⟩) {n : Int32}
    (hmax : n.toInt = 2 ^ 31 - 1) (label : Option String) (separator : Separator) :
    ∃ e, (a.invoke (numberCall "sum_of_squares" n label separator)).result = .error e := by
  have hcircles := circles_of_max h hmax
  obtain ⟨-, hhalt⟩ := (offers_sumOfSquares h).result_of_call n label separator
  generalize hcall : Instance.Offers.call a 0 n = r at hcircles
  cases hcircles with
  | runsOut => exact ⟨_, hhalt _ _ hcall⟩
  | endless => exact ⟨_, hhalt _ _ hcall⟩

/-- On every store the function gives the sum of the squares, unless it is called on the largest
integer or runs out of fuel. -/
theorem sumsSquares_invoke (h : a.prepared = ⟨config, sumOfSquaresModule⟩) (n : Int32)
    (label : Option String) (separator : Separator) :
    SumsSquares config n (a.invoke (numberCall "sum_of_squares" n label separator)).result := by
  by_cases hmax : n.toInt < 2 ^ 31 - 1
  · have hoffers := offers_sumOfSquares h
    have hcount : count n.toUInt32 = n.toInt.toNat := by rw [count, Int32.toInt32_toUInt32]
    have hcounts := counts_call (n := n.toUInt32) (funcs_sumOfSquares h)
      (by rwa [Int32.toInt32_toUInt32]) a.store.refuel
    constructor
    case value_of_nonpos =>
      intro hneg o ho
      rw [hoffers.value_of_counts hcounts ho, squares_of_nonpos hneg]
      rfl
    case value_of_pos =>
      intro hpos o ho
      rw [hoffers.value_of_counts hcounts ho, UInt32.toInt32_ofNat', value_of_squares hpos]
    case returns_iff =>
      rw [hoffers.returns_iff_of_counts hcounts label separator, hcount, h]
      exact (and_iff_right hmax).symm
  · have hmost : n.toInt = 2 ^ 31 - 1 := by
      have hbound := n.toInt_lt
      omega
    obtain ⟨e, hresult⟩ := fails_of_max h hmost label separator
    rw [hresult]
    refine ⟨fun _ _ => nofun, fun _ _ => nofun, ⟨fun ⟨_, hok⟩ => (nomatch hok), ?_⟩⟩
    exact fun hreturns => absurd hreturns.1 hmax

end

/-- The text of the module is prepared, and every instance of it, whatever its store, gives the
closed form modulo `2 ^ 32`. -/
theorem sums_squares (config : Config) :
    ∃ p, Prepared.ofImage config (.ofText sumOfSquaresText) = .ok p ∧
      (∃ fresh, p.instantiate = .ok fresh) ∧
      ∀ a : Instance, a.prepared = p → ∀ n label separator,
        SumsSquares config n (a.invoke (numberCall "sum_of_squares" n label separator)).result :=
  ⟨_, ofImage_sumOfSquaresText config, ⟨⟨_, default⟩, rfl⟩, fun _ h n label separator =>
    sumsSquares_invoke h n label separator⟩

/-- The partial sums of three thousand squares wrap around; no square is summed below zero. -/
theorem sums_squares_wrapped : ∃ p fresh,
    Prepared.ofImage {} (.ofText sumOfSquaresText) = .ok p ∧ p.instantiate = .ok fresh ∧
    (∃ o, (fresh.invoke (numberCall "sum_of_squares" 3000 none .eq)).result = .ok o ∧
      o.value = some (.i32 414565908)) ∧
    ∃ o, (fresh.invoke (numberCall "sum_of_squares" (-4) none .eq)).result = .ok o ∧
      o.value = some (.i32 0) := by
  obtain ⟨p, hp, ⟨fresh, hfresh⟩, hsums⟩ := sums_squares {}
  have hall := hsums fresh (Prepared.prepared_of_instantiate hfresh)
  have hthousands := hall 3000 none .eq
  have hnegative := hall (-4) none .eq
  refine ⟨p, fresh, hp, hfresh, ?_, ?_⟩
  · obtain ⟨o, ho⟩ := hthousands.returns_iff.2 ⟨by decide, nofun⟩
    exact ⟨o, ho, hthousands.value_of_pos (by decide) o ho⟩
  · obtain ⟨o, ho⟩ := hnegative.returns_iff.2 ⟨by decide, nofun⟩
    exact ⟨o, ho, hnegative.value_of_nonpos (by decide) o ho⟩

end Scenario

end WasmGuest
