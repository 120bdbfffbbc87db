import WasmGuest.Proofs.Instance.Session
import WasmGuest.Proofs.Scenario.Fibonacci.Iteration
import WasmGuest.Proofs.Scenario.Fibonacci.Recursion

/-!
# Invoking the Fibonacci functions

The two functions agree where both return, since each returns the Fibonacci number
modulo `2 ^ 32`.  They do so on every store, because neither looks at it.

* `counts_of_le_one`, `result_recursive`, `counts_iterative`: what the calls and
  invocations come to.
* `FibonacciAgrees` compares the two, and `fibonacci_agrees` proves it for every
  instance of the module.
-/

namespace WasmGuest.Scenario

open Machine (Counts)
open Fibonacci

section

variable {a : Instance} {config : Config}

theorem offers_recursive (h : a.prepared = ⟨config, fibonacciModule⟩) : a.Offers "fibrec" 0 := by
  rw [Instance.Offers, h]
  rfl

theorem offers_iterative (h : a.prepared = ⟨config, fibonacciModule⟩) : a.Offers "fibiter" 1 := by
  rw [Instance.Offers, h]
  rfl

theorem funcs_fibonacci (h : a.prepared = ⟨config, fibonacciModule⟩) :
    a.prepared.code.funcs = #[recursive, iterative] := by
  rw [h]
  rfl

/-! ## The recursive function -/

/-- An integer from one on as a number. -/
theorem exists_ofNat {n : Int32} (h : 1 ≤ n) : ∃ m < 2147483648, n = Int32.ofNat m := by
  have hpos : 1 ≤ n.toInt := Int32.le_iff_toInt_le.1 h
  have hbound := n.toInt_lt
  refine ⟨n.toInt.toNat, by omega, ?_⟩
  rw [← Int32.ofInt_eq_ofNat, Int.toNat_of_nonneg (by omega), Int32.ofInt_toInt]

/-- On an integer up to one the call enters a function once, and returns the integer. -/
theorem counts_of_le_one (h : a.prepared = ⟨config, fibonacciModule⟩) {n : Int32} (hn : n ≤ 1) :
    Counts a.prepared.code (.i32 n.toUInt32) 1 6 a.store.refuel.settle
      (Instance.Offers.call a 0 n) := by
  have hfn : a.prepared.code.funcs[0]? = some recursive := by rw [funcs_fibonacci h]; rfl
  have hsmall : Machine.Word32.compare (.le .signed) n.toUInt32 1 = true := by
    refine decide_eq_true ?_
    rw [Int32.toInt32_toUInt32]
    exact hn
  refine .of_invoke ?_
  generalize a.store.refuel.settle = st
  cases hin : a.prepared.code.exhausted (st.spend 1) with
  | true =>
    obtain ⟨l, hlimit, hl⟩ := Machine.Code.exhausted_iff.1 hin
    rw [Machine.depthBound, Machine.invoke_succ, hin, if_pos rfl]
    exact .runsOut hlimit hl
  | false =>
    rw [List.reverse_singleton, Machine.depthBound, invoke_recursive hfn hin, execAll_recursive,
      if_pos hsmall, Machine.Store.spend_spend, returned_parameter]
    exact .returns (Machine.Code.not_exhausted_iff.1 hin)

/-- What the call on a number comes to. -/
theorem computes_recursive (h : a.prepared = ⟨config, fibonacciModule⟩) {n : Nat}
    (hn : n < 2147483648) :
    Computes a.prepared.code Machine.depthBound n a.store.refuel.settle
      (Instance.Offers.call a 0 (Int32.ofNat n)) := by
  have hfn : a.prepared.code.funcs[0]? = some recursive := by rw [funcs_fibonacci h]; rfl
  exact computes_call hfn hn a.store.refuel

/-- From one on, the invocation gives the Fibonacci number, runs out of fuel, or makes too many
calls at once. -/
theorem result_recursive (h : a.prepared = ⟨config, fibonacciModule⟩) {n : Nat}
    (hn : n < 2147483648) (label : Option String) (separator : Separator) :
    let result := (a.invoke (numberCall "fibrec" (Int32.ofNat n) label separator)).result
    (∃ fuel, result = .ok ⟨some (.i32 (Int32.ofNat (Nat.fib n))), fuel⟩) ∨
      (∃ l, a.prepared.code.limit = some l ∧ l ≤ lastCheck n) ∧
        result = .error (.invocation "fibrec" .outOfFuel) ∨
      Machine.depthBound ≤ n ∧
        result = .error (.invocation "fibrec" (.trap (.trap .stackOverflow))) := by
  intro result
  obtain ⟨hvalues, hhalt⟩ := (offers_recursive h).result_of_call (Int32.ofNat n) label separator
  have hcomputes := computes_recursive h hn
  have hspent : a.store.refuel.settle.spent = 0 := rfl
  generalize hcall : Instance.Offers.call a 0 (Int32.ofNat n) = r at hcomputes
  cases hcomputes with
  | returns hfuel =>
    have hresult := hvalues _ _ hcall
    rw [Value.lift?, UInt32.toInt32_ofNat'] at hresult
    exact .inl ⟨_, hresult⟩
  | runsOut hlimit hfuel =>
    rw [hspent, Nat.zero_add] at hfuel
    exact .inr (.inl ⟨⟨_, hlimit, hfuel⟩, hhalt _ _ hcall⟩)
  | overflows hdepth => exact .inr (.inr ⟨hdepth, hhalt _ _ hcall⟩)

/-! ## The iterative function -/

/-- The call returns a Fibonacci number if there is fuel for every turn. -/
theorem counts_iterative (h : a.prepared = ⟨config, fibonacciModule⟩) (n : Int32) :
    Counts a.prepared.code (.i32 (UInt32.ofNat (Nat.fib ((n.toInt - 1).toNat + 1))))
      (5 + 17 * (n.toInt - 1).toNat) (5 + (17 * (n.toInt - 1).toNat + 4) + 1)
      a.store.refuel.settle (Instance.Offers.call a 1 n) := by
  have hfn : a.prepared.code.funcs[1]? = some iterative := by rw [funcs_fibonacci h]; rfl
  have hcounts := counts_call hfn n.toUInt32 a.store.refuel
  rwa [turnCount, Int32.toInt32_toUInt32] at hcounts

end

/-! ## Both functions -/

/-- What invocations of the two functions on the same integer come to under a configuration. -/
structure FibonacciAgrees (config : Config) (n : Int32)
    (byRecursion byLoop : Except Error Outcome) : Prop where
  loop_returns_iff : (∃ o, byLoop = .ok o) ↔
    ∀ limit, config.fuel = some limit → 5 + 17 * (n.toInt - 1).toNat < limit.toNat
  loop_value : 1 ≤ n → ∀ o, byLoop = .ok o →
    o.value = some (.i32 (Int32.ofNat (Nat.fib n.toInt.toNat)))
  recursion_value : 1 ≤ n → ∀ o, byRecursion = .ok o →
    o.value = some (.i32 (Int32.ofNat (Nat.fib n.toInt.toNat)))
  /-- The recursion returns unless the limit is reached or too many calls are active at once. -/
  recursion_returns : 1 ≤ n → n.toInt < Machine.depthBound →
    (∀ limit, config.fuel = some limit → lastCheck n.toInt.toNat < limit.toNat) →
    ∃ o, byRecursion = .ok o
  recursion_small : n ≤ 1 →
    (∀ o, byRecursion = .ok o → o.value = some (.i32 n)) ∧
    ((∃ o, byRecursion = .ok o) ↔ ∀ limit, config.fuel = some limit → 1 < limit.toNat)

section

variable {a : Instance} {config : Config} {n : Int32} {label : Option String}
  {separator : Separator}

theorem value_recursive (h : a.prepared = ⟨config, fibonacciModule⟩) (hpos : 1 ≤ n) {o : Outcome}
    (ho : (a.invoke (numberCall "fibrec" n label separator)).result = .ok o) :
    o.value = some (.i32 (Int32.ofNat (Nat.fib n.toInt.toNat))) := by
  obtain ⟨m, hm, rfl⟩ := exists_ofNat hpos
  rw [Int32.toInt_ofNat_of_lt hm, Int.toNat_natCast]
  rcases result_recursive h hm label separator with ⟨_, hresult⟩ | ⟨-, hresult⟩ | ⟨-, hresult⟩
  · cases hresult.symm.trans ho
    rfl
  · cases hresult.symm.trans ho
  · cases hresult.symm.trans ho

/-- With fuel for all entries and calls that are not nested too deep, the recursion returns. -/
theorem returns_recursive (h : a.prepared = ⟨config, fibonacciModule⟩) (hpos : 1 ≤ n)
    (hdepth : n.toInt < Machine.depthBound)
    (hfuel : ∀ limit, config.fuel = some limit → lastCheck n.toInt.toNat < limit.toNat) :
    ∃ o, (a.invoke (numberCall "fibrec" n label separator)).result = .ok o := by
  obtain ⟨m, hm, rfl⟩ := exists_ofNat hpos
  rw [Int32.toInt_ofNat_of_lt hm, Int.toNat_natCast] at hfuel
  rw [Int32.toInt_ofNat_of_lt hm] at hdepth
  have hbelow : ∀ l, a.prepared.code.limit = some l → lastCheck m < l := by
    rw [a.prepared.forall_limit_code_iff, h]
    exact hfuel
  rcases result_recursive h hm label separator with
    ⟨_, hresult⟩ | ⟨⟨l, hlimit, hl⟩, -⟩ | ⟨hdeep, -⟩
  · exact ⟨_, hresult⟩
  · exact absurd (hbelow l hlimit) (Nat.not_lt_of_le hl)
  · omega

end

/-- The text of the module is prepared, and on every two of its instances, whatever their stores,
the two functions agree: each that returns gives the Fibonacci number modulo `2 ^ 32`. -/
theorem fibonacci_agrees (config : Config) :
    ∃ p, Prepared.ofImage config (.ofText fibonacciText) = .ok p ∧
      (∃ fresh, p.instantiate = .ok fresh) ∧
      ∀ a b : Instance, a.prepared = p → b.prepared = p → ∀ n label separator,
        FibonacciAgrees config n (a.invoke (numberCall "fibrec" n label separator)).result
          (b.invoke (numberCall "fibiter" n label separator)).result := by
  refine ⟨_, ofImage_fibonacciText config, ⟨⟨_, default⟩, rfl⟩, ?_⟩
  intro a b ha hb n label separator
  constructor
  case loop_returns_iff =>
    rw [(offers_iterative hb).returns_iff_of_counts (counts_iterative hb n) label separator, hb]
  case loop_value =>
    intro hpos o ho
    have hone : 1 ≤ n.toInt := Int32.le_iff_toInt_le.1 hpos
    have hturns : (n.toInt - 1).toNat + 1 = n.toInt.toNat := by omega
    rw [(offers_iterative hb).value_of_counts (counts_iterative hb n) ho, hturns,
      UInt32.toInt32_ofNat']
  case recursion_value => exact fun hpos o ho => value_recursive ha hpos ho
  case recursion_returns => exact returns_recursive ha
  case recursion_small =>
    intro hsmall
    have hcounts := counts_of_le_one ha hsmall
    refine ⟨fun o ho => ?_, ?_⟩
    · rw [(offers_recursive ha).value_of_counts hcounts ho, Int32.toInt32_toUInt32]
    · rw [(offers_recursive ha).returns_iff_of_counts hcounts label separator, ha]

/-- The number behind the largest that is no more than a signed integer wraps around; the smallest
integer is given back. -/
theorem fibonacci_agrees_wrapped : ∃ p fresh,
    Prepared.ofImage {} (.ofText fibonacciText) = .ok p ∧ p.instantiate = .ok fresh ∧
    (∃ o, (fresh.invoke (numberCall "fibiter" 47 none .eq)).result = .ok o ∧
      o.value = some (.i32 (-1323752223))) ∧
    (∃ o, (fresh.invoke (numberCall "fibrec" 47 none .eq)).result = .ok o ∧
      o.value = some (.i32 (-1323752223))) ∧
    ∃ o, (fresh.invoke (numberCall "fibrec" (-2147483648) none .eq)).result = .ok o ∧
      o.value = some (.i32 (-2147483648)) := by
  obtain ⟨p, hp, ⟨fresh, hfresh⟩, hagrees⟩ := fibonacci_agrees {}
  have hprepared := Prepared.prepared_of_instantiate hfresh
  have hwrapped := hagrees fresh fresh hprepared hprepared 47 none .eq
  have hleast := hagrees fresh fresh hprepared hprepared (-2147483648) none .eq
  have hfib : Int32.ofNat (Nat.fib 47) = -1323752223 := by decide
  refine ⟨p, fresh, hp, hfresh, ?_, ?_, ?_⟩
  · obtain ⟨o, ho⟩ := hwrapped.loop_returns_iff.2 nofun
    exact ⟨o, ho, (hwrapped.loop_value (by decide) o ho).trans (by rw [← hfib]; rfl)⟩
  · obtain ⟨o, ho⟩ := hwrapped.recursion_returns (by decide) (by decide) nofun
    exact ⟨o, ho, (hwrapped.recursion_value (by decide) o ho).trans (by rw [← hfib]; rfl)⟩
  · obtain ⟨hvalue, hreturns⟩ := hleast.recursion_small (by decide)
    obtain ⟨o, ho⟩ := hreturns.2 nofun
    exact ⟨o, ho, hvalue o ho⟩

end WasmGuest.Scenario
