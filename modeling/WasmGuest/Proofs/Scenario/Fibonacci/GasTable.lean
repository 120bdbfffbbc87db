import WasmGuest.Proofs.Instance.Accounting
import WasmGuest.Proofs.Runner.Cut
import WasmGuest.Proofs.Scenario.Fibonacci.Invocation
import WasmGuest.Proofs.Scenario.Shipped

/-!
# The gas table

The gas table calls `fibrec` on one number after the other.  Every call starts
from the full limit, so a line depends on nothing but its number and the limit.
The cost grows from each number to the next, and a number enters a function
behind all that the one before it costs.  Therefore no more than the last line
tells a fuel that was cut at the limit, the table stops at the first number whose
last entry the limit does not cover, and a longer table begins as a shorter one.

* `result_gasCall_of_lt`, `result_gasCall_of_le`: what the call for one number comes to.
* `TellsGas`: what a table tells, where it stops, and how tables compare;
  `tells_gas` proves it for every limit and every last number.
-/

namespace WasmGuest

namespace Scenario

open Fibonacci

/-- The fuel that the table tells for a number: what the call spends, counted up to the limit. -/
def gasFuel (limit : UInt64) (n : Nat) : Nat :=
  min limit.toNat (recursionCost n)

/-- The outcome for a number. -/
def gasOutcome (limit : UInt64) (n : Nat) : Outcome :=
  ⟨some (.i32 (Int32.ofNat (Nat.fib n))), some (gasFuel limit n)⟩

/-- The line for a number. -/
def gasText (limit : UInt64) (n : Nat) : String :=
  "consumed " ++ toString (gasFuel limit n) ++ " to compute fib(" ++ toString n ++ ") = "
    ++ toString (Int32.ofNat (Nat.fib n)).toInt

/-! ## The instance -/

/-- The Fibonacci module under a limit. -/
def metered (limit : UInt64) : Prepared :=
  ⟨{ fuel := some limit }, fibonacciModule⟩

theorem instantiate_fibonacciModule (config : Config) :
    Prepared.instantiate ⟨config, fibonacciModule⟩ =
      .ok ⟨⟨config, fibonacciModule⟩, default⟩ := rfl

theorem fresh_fibonacci (limit : UInt64) :
    fresh { fuel := some limit } files fibonacci.file = .ok ⟨metered limit, default⟩ := by
  have hmem : ("fibonacci.wat", fibonacciText) ∈ texts := by
    simp only [texts, List.mem_cons, true_or, or_true]
  exact (fresh_of_mem_texts hmem (ofImage_fibonacciText _)).trans (instantiate_fibonacciModule _)

/-! ## One number -/

section Call

variable {limit : UInt64} {a : Instance} {n : Nat}

theorem fuel_of_metered (h : a.prepared = metered limit) :
    a.prepared.config.fuel = some limit := by
  rw [h]
  rfl

theorem gasCall_eq (n : Nat) : gasCall n = numberCall "fibrec" (Int32.ofNat n) none .eq := rfl

/-- If the limit lies behind the last entry of a call, the call returns its number. -/
theorem result_gasCall_of_lt (h : a.prepared = metered limit) (hfuel : lastCheck n < limit.toNat) :
    (a.invoke (gasCall n)).result = .ok (gasOutcome limit n) := by
  have hdepth := succ_lt_depthBound (hfuel.trans limit.toNat_lt)
  have hcomputes := computes_recursive h ((Nat.lt_of_succ_lt hdepth).trans (by decide))
  generalize hcall : Instance.Offers.call a 0 (Int32.ofNat n) = r at hcomputes
  obtain ⟨hvalues, -⟩ := (offers_recursive h).result_of_call (Int32.ofNat n) none .eq
  cases hcomputes with
  | returns =>
    rw [gasCall_eq, hvalues _ _ hcall, Prepared.fuelSpent_code (fuel_of_metered h), Value.lift?,
      UInt32.toInt32_ofNat']
    show Except.ok (Outcome.mk _ (some (min limit.toNat (0 + recursionCost n)))) = _
    rw [Nat.zero_add]
    rfl
  | runsOut hlimit hover =>
    cases hlimit.symm.trans (Prepared.limit_code (fuel_of_metered h))
    have : limit.toNat ≤ lastCheck n := hover.trans (Nat.le_of_eq (Nat.zero_add _))
    omega
  | overflows hdeep => omega

/-- If the limit does not, the call runs out of fuel. -/
theorem result_gasCall_of_le (h : a.prepared = metered limit) (hdepth : n < Machine.depthBound)
    (hfuel : limit.toNat ≤ lastCheck n) :
    (a.invoke (gasCall n)).result = .error (.invocation "fibrec" .outOfFuel) := by
  have hcomputes := computes_recursive h (hdepth.trans (by decide))
  generalize hcall : Instance.Offers.call a 0 (Int32.ofNat n) = r at hcomputes
  obtain ⟨-, hhalt⟩ := (offers_recursive h).result_of_call (Int32.ofNat n) none .eq
  cases hcomputes with
  | returns hbehind =>
    have : 0 + lastCheck n < limit.toNat := hbehind _ (Prepared.limit_code (fuel_of_metered h))
    omega
  | runsOut => exact hhalt _ _ hcall
  | overflows hdeep => omega

end Call

/-! ## A line -/

/-- An integer is written as the library writes it. -/
theorem ofList_intText (i : Int) : String.ofList (Text.intText i) = toString i := by
  cases i with
  | ofNat n => rfl
  | negSucc n =>
    show String.ofList (['-'] ++ Text.digits (n + 1)) = "-" ++ Nat.repr (n + 1)
    rw [String.ofList_append]
    rfl

theorem gasLine_gasOutcome {n : Nat} (h : n < 2 ^ 31) (limit : UInt64) :
    gasLine (gasCall n) (gasOutcome limit n) = gasText limit n := by
  have hn : (Int32.ofInt n).toInt = n := by
    rw [Int32.ofInt_eq_ofNat, Int32.toInt_ofNat_of_lt h]
  have hnumber : argumentText (gasCall n) = toString n := by
    show ", ".intercalate [String.ofList (Text.intText (Int32.ofInt n).toInt)] = _
    rw [String.intercalate_singleton, hn, ofList_intText]
    rfl
  rw [gasLine, hnumber]
  show _ ++ String.ofList (Text.intText (Int32.ofNat (Nat.fib n)).toInt) = _
  rw [ofList_intText]
  rfl

/-! ## The calls of a table -/

section Table

variable {limit : UInt64}

/-- The numbers of a table. -/
def gasNumbers (count : Nat) : List Nat :=
  List.range' 1 count

/-- The lines of a table. -/
def gasLines (limit : UInt64) (count : Nat) : List UInt8 :=
  (gasNumbers count).flatMap fun n => lineBytes (gasText limit n)

/-- The limit lies behind the last entry of every call of a table. -/
def Affords (limit : UInt64) (count : Nat) : Prop :=
  ∀ n ∈ gasNumbers count, lastCheck n < limit.toNat

instance (limit : UInt64) (count : Nat) : Decidable (Affords limit count) :=
  inferInstanceAs (Decidable (∀ n ∈ gasNumbers count, lastCheck n < limit.toNat))

theorem gasNumbers_succ (count : Nat) :
    gasNumbers (count + 1) = gasNumbers count ++ [count + 1] := by
  rw [gasNumbers, List.range'_1_concat, Nat.add_comm 1 count, gasNumbers]

theorem gasNumbers_append {k m : Nat} (h : k ≤ m) :
    gasNumbers m = gasNumbers k ++ List.range' (k + 1) (m - k) := by
  rw [gasNumbers, gasNumbers, Nat.add_comm k 1, List.range'_append_1, Nat.add_sub_cancel' h]

theorem mem_gasNumbers {n count : Nat} : n ∈ gasNumbers count ↔ 0 < n ∧ n ≤ count := by
  rw [gasNumbers, List.mem_range'_1]
  omega

theorem affords_succ_iff {count : Nat} :
    Affords limit (count + 1) ↔ Affords limit count ∧ lastCheck (count + 1) < limit.toNat := by
  rw [Affords, gasNumbers_succ, List.forall_mem_append, List.forall_mem_singleton]
  rfl

/-- A table that cannot be afforded stops at a first number. -/
theorem exists_stop {count : Nat} (h : ¬ Affords limit count) :
    ∃ k < count, Affords limit k ∧ limit.toNat ≤ lastCheck (k + 1) := by
  induction count with
  | zero => exact absurd (fun n hn => absurd (mem_gasNumbers.1 hn) (by omega)) h
  | succ count ih =>
    by_cases hcount : Affords limit count
    · refine ⟨count, Nat.lt_succ_self count, hcount, Nat.le_of_not_lt fun hlast => h ?_⟩
      exact affords_succ_iff.2 ⟨hcount, hlast⟩
    · obtain ⟨k, hk, hstop⟩ := ih hcount
      exact ⟨k, Nat.lt_succ_of_lt hk, hstop⟩

/-- Not even the number behind those that can be afforded reaches the bound on the depth. -/
theorem Affords.succ_lt_depthBound {k : Nat} (h : Affords limit k) :
    k + 1 < Machine.depthBound := by
  cases k with
  | zero => decide
  | succ k =>
    exact Fibonacci.succ_lt_depthBound ((affords_succ_iff.1 h).2.trans limit.toNat_lt)

/-- What a call costs is cut at the limit no earlier than in the last line. -/
theorem Affords.pairwise_gasFuel {count : Nat} (h : Affords limit count) :
    ((gasNumbers count).map (gasFuel limit)).Pairwise (· < ·) := by
  rw [List.pairwise_map]
  refine (List.pairwise_lt_range' (s := 1) (n := count)).imp_of_mem fun {m n} hm hn hlt => ?_
  have hcost := recursionCost_lt_lastCheck (mem_gasNumbers.1 hm).1 hlt
  have hlast := h n hn
  have := lastCheck_lt n
  rw [gasFuel, gasFuel]
  omega

theorem ends_gasCalls {a : Instance} (h : a.prepared = metered limit) {ns : List Nat}
    (hns : ∀ n ∈ ns, lastCheck n < limit.toNat) :
    Ends (a.session (ns.map gasCall)) (ns.map (gasOutcome limit)) none := by
  induction ns generalizing a with
  | nil => exact .nil
  | cons n ns ih =>
    obtain ⟨hn, hns⟩ := List.forall_mem_cons.1 hns
    exact .cons (result_gasCall_of_lt h hn) (ih ((a.prepared_after _).trans h) hns)

theorem lines_gasCalls {ns : List Nat} (hns : ∀ n ∈ ns, n < 2 ^ 31) :
    lines gasLine (ns.map gasCall) (ns.map (gasOutcome limit)) =
      ns.flatMap fun n => lineBytes (gasText limit n) := by
  induction ns with
  | nil => rfl
  | cons n ns ih =>
    obtain ⟨hn, hns⟩ := List.forall_mem_cons.1 hns
    rw [List.map_cons, List.map_cons, lines_cons, gasLine_gasOutcome hn, ih hns,
      List.flatMap_cons]

/-- The calls of a table on a new instance. -/
def performTable (limit : UInt64) (count : Nat) (output : Output) : Run (List Outcome) :=
  performAll gasLine ((gasNumbers count).map gasCall) ⟨metered limit, default⟩ output

theorem performTable_of_affords {count : Nat} (h : Affords limit count) {output : Output}
    (hroom : output.room = none) :
    (performTable limit count output).result = .ok ((gasNumbers count).map (gasOutcome limit)) ∧
      (performTable limit count output).output.written =
        output.written ++ gasLines limit count := by
  obtain ⟨written, room, whenFull⟩ := output
  cases hroom
  obtain ⟨os, failure, hends, hrun⟩ := exists_ends_performAll gasLine
    ((gasNumbers count).map gasCall) ⟨metered limit, default⟩ written whenFull
  obtain ⟨rfl, rfl⟩ := hends.unique (ends_gasCalls rfl h)
  have hsmall : ∀ n ∈ gasNumbers count, n < 2 ^ 31 := by
    intro n hn
    have hdepth := h.succ_lt_depthBound
    have hle := (mem_gasNumbers.1 hn).2
    simp only [Machine.depthBound] at hdepth
    omega
  rw [performTable, hrun, lines_gasCalls hsmall]
  exact ⟨rfl, rfl⟩

theorem goesOn_performTable {k m : Nat} (h : k ≤ m) (limit : UInt64) (output : Output) :
    GoesOn (performTable limit k output) (performTable limit m output) := by
  rw [performTable, performTable, gasNumbers_append h, List.map_append]
  exact goesOn_performAll gasLine _ _ _ output

/-- Behind a table that can be afforded, a number that cannot be afforded writes nothing. -/
theorem performTable_of_stop {k : Nat} (h : Affords limit k)
    (hstop : limit.toNat ≤ lastCheck (k + 1)) {output : Output} (hroom : output.room = none) :
    (performTable limit (k + 1) output).result = .error (.invocation "fibrec" .outOfFuel) ∧
      (performTable limit (k + 1) output).output = (performTable limit k output).output := by
  have hbefore := (performTable_of_affords h hroom).1
  have hresult := result_gasCall_of_le (Instance.prepared_afterAll ⟨metered limit, default⟩
    ((gasNumbers k).map gasCall)) h.succ_lt_depthBound hstop
  have hlast := fun output => @performAll_cons_of_error gasLine _ [] _ output _ hresult
  rw [performTable] at hbefore
  rw [performTable, gasNumbers_succ, List.map_append, performAll_append_of_ok hbefore]
  simp only [List.map_singleton, hlast]
  exact ⟨rfl, rfl⟩

end Table

/-! ## The gas table -/

/-- What a gas table tells, where it stops, and how it compares with longer ones. -/
structure TellsGas (limit : UInt64) (upto : Int32) (output : Output) : Prop where
  /-- The table is complete if the limit lies behind the last entry of every call. -/
  succeeds_iff : (∃ os, (gas limit upto output).result = .ok os) ↔ Affords limit upto.toInt.toNat
  /-- A complete table tells every number up to the last one, and no fuel above the limit; the fuel
  grows from line to line. -/
  complete : ∀ os, (gas limit upto output).result = .ok os →
    os = (gasNumbers upto.toInt.toNat).map (gasOutcome limit) ∧
      (gas limit upto output).output.written =
        output.written ++ gasLines limit upto.toInt.toNat ∧
      (∀ n ∈ gasNumbers upto.toInt.toNat, gasFuel limit n ≤ limit.toNat) ∧
      ((gasNumbers upto.toInt.toNat).map (gasFuel limit)).Pairwise (· < ·)
  /-- A table that fails is complete up to some number and tells nothing of the next, and neither
  does any table that goes further. -/
  stops : ∀ e, (gas limit upto output).result = .error e →
    e = .invocation "fibrec" .outOfFuel ∧ ∃ n < upto.toInt.toNat,
      (gas limit (Int32.ofNat n) output).result = .ok ((gasNumbers n).map (gasOutcome limit)) ∧
      (gas limit upto output).output.written = output.written ++ gasLines limit n ∧
      ∀ m : Int32, n < m.toInt → gas limit m output = gas limit upto output
  /-- A longer table begins with the same outcomes and the same lines. -/
  prefixes : ∀ m, upto ≤ m → ∀ os os', (gas limit upto output).result = .ok os →
    (gas limit m output).result = .ok os' → os <+: os' ∧
      (gas limit upto output).output.written <+: (gas limit m output).output.written

section Gas

variable {limit : UInt64} {upto : Int32} {output : Output}

theorem gas_eq_performTable (limit : UInt64) (upto : Int32) (output : Output) :
    gas limit upto output = (performTable limit upto.toInt.toNat output).after
      (start { fuel := some limit } files fibonacci.file).2 := by
  rw [gas_eq]
  exact onInstance_of_ok (fresh_fibonacci limit) output _

theorem goesOn_gas {m : Int32} (h : upto ≤ m) (limit : UInt64) (output : Output) :
    GoesOn (gas limit upto output) (gas limit m output) := by
  rw [gas_eq_performTable, gas_eq_performTable]
  exact (goesOn_performTable (Int.toNat_le_toNat (Int32.le_iff_toInt_le.1 h)) limit output).after _

theorem gas_of_affords (h : Affords limit upto.toInt.toNat) (hroom : output.room = none) :
    (gas limit upto output).result =
        .ok ((gasNumbers upto.toInt.toNat).map (gasOutcome limit)) ∧
      (gas limit upto output).output.written =
        output.written ++ gasLines limit upto.toInt.toNat := by
  rw [gas_eq_performTable]
  exact performTable_of_affords h hroom

/-- The table stops at the first number that cannot be afforded. -/
theorem gas_of_not_affords (h : ¬ Affords limit upto.toInt.toNat) (hroom : output.room = none) :
    (gas limit upto output).result = .error (.invocation "fibrec" .outOfFuel) ∧
      ∃ n < upto.toInt.toNat,
        (gas limit (Int32.ofNat n) output).result = .ok ((gasNumbers n).map (gasOutcome limit)) ∧
        (gas limit upto output).output.written = output.written ++ gasLines limit n ∧
        ∀ m : Int32, n < m.toInt → gas limit m output = gas limit upto output := by
  obtain ⟨k, hk, hafford, hstop⟩ := exists_stop h
  obtain ⟨hresult, houtput⟩ := performTable_of_stop hafford hstop hroom
  obtain ⟨hbefore, hwritten⟩ := performTable_of_affords hafford hroom
  have hsame : ∀ m : Int32, k < m.toInt → gas limit m output =
      (performTable limit (k + 1) output).after
        (start { fuel := some limit } files fibonacci.file).2 := by
    intro m hm
    have hbehind := goesOn_performTable (show k + 1 ≤ m.toInt.toNat by omega) limit output
    rw [gas_eq_performTable, hbehind.failed _ hresult]
  have hupto := hsame upto (by omega)
  refine ⟨(congrArg Run.result hupto).trans hresult, k, hk, ?_, ?_, fun m hm => ?_⟩
  · rw [gas_eq_performTable, toNat_ofNat_of_le (Nat.le_of_lt hk)]
    exact hbefore
  · rw [hupto, ← hwritten, ← houtput]
    rfl
  · rw [hsame m hm, hupto]

/-- On an output without a bound the gas table tells every number, the value modulo `2 ^ 32`, and a
fuel that grows and is no more than the limit; if it stops, it stops at the same number for every
last number behind it, and tables of one limit begin alike. -/
theorem tells_gas (limit : UInt64) (upto : Int32) {output : Output} (hroom : output.room = none) :
    TellsGas limit upto output where
  succeeds_iff := by
    refine ⟨fun ⟨os, hos⟩ => ?_, fun h => ⟨_, (gas_of_affords h hroom).1⟩⟩
    by_contra h
    rw [(gas_of_not_affords h hroom).1] at hos
    cases hos
  complete os hos := by
    by_cases h : Affords limit upto.toInt.toNat
    · obtain ⟨hresult, hwritten⟩ := gas_of_affords h hroom
      cases hos.symm.trans hresult
      exact ⟨rfl, hwritten, fun n _ => Nat.min_le_left _ _, h.pairwise_gasFuel⟩
    · rw [(gas_of_not_affords h hroom).1] at hos
      cases hos
  stops e he := by
    have h : ¬ Affords limit upto.toInt.toNat := by
      intro h
      rw [(gas_of_affords h hroom).1] at he
      cases he
    obtain ⟨hresult, hstops⟩ := gas_of_not_affords h hroom
    cases he.symm.trans hresult
    exact ⟨rfl, hstops⟩
  prefixes m hm os os' hos hos' := by
    obtain ⟨hwritten, hbegins⟩ := (goesOn_gas hm limit output).succeeded os hos
    exact ⟨hbegins os' hos', hwritten⟩

/-- The call for the fourth number costs 86; the line for it tells the limit. -/
theorem tells_gas_overrun : (gas 80 4 {}).result = .ok ((gasNumbers 4).map (gasOutcome 80)) ∧
    (gas 80 4 {}).output.written =
      ["consumed 6 to compute fib(1) = 1", "consumed 26 to compute fib(2) = 1",
        "consumed 46 to compute fib(3) = 2", "consumed 80 to compute fib(4) = 3"].flatMap
        lineBytes := by
  have htells := tells_gas 80 4 (show ({} : Output).room = none from rfl)
  obtain ⟨os, hos⟩ := htells.succeeds_iff.2 (by decide)
  obtain ⟨rfl, hwritten, -, -⟩ := htells.complete os hos
  refine ⟨hos, hwritten.trans ?_⟩
  decide +kernel

end Gas

end Scenario

end WasmGuest
