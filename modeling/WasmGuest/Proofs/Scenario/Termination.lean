import WasmGuest.Proofs.Instance.Ending
import WasmGuest.Proofs.Instance.MemoryLimit
import WasmGuest.Proofs.Scenario.Fibonacci.Invocation
import WasmGuest.Proofs.Scenario.Reverse.Heap
import WasmGuest.Proofs.Scenario.SumOfSquares.Sum

/-!
# Loops that end

Each loop of the shipped modules counts up to a parameter and compares with it as a
signed integer.  Two of them are left when the counter has reached the parameter,
which it does for every argument.  The loop that sums squares is left when the
counter is above it, and no counter is above the largest integer.

* `Instance.Offers.ends_of_counts`: a call that turns a counted loop ends if there
  is fuel for the last head.
* `Reverse.endsWithin_call`, `ends_reverse`: a call to `reverse` ends on every store
  with a heap pointer, and leaves fuel to release what it returned.
* `Terminates` says that some fuel suffices for a call on all instances of a module,
  and `LoopEnds` for which calls that is so; `loop_ends` proves it.
-/

namespace WasmGuest

open Wasm (Val)
open Machine (Code Store CallResult Counts Circles)

/-! ## Counted loops -/

namespace Machine

/-- A counted loop ends if the limit lies behind its last head. -/
theorem Counts.ends {c : Code} {v : Val} {lastCheck cost : Nat} {st : Store} {r : CallResult}
    (h : Counts c v lastCheck cost st r)
    (hfuel : ∀ l, c.limit = some l → st.spent + lastCheck < l) : r.Ends := by
  cases h with
  | returns => exact .returns _ _
  | runsOut hlimit hl => exact absurd (hfuel _ hlimit) (Nat.not_lt_of_le hl)

/-- A loop that has no last turn ends under no limit, and without one neither. -/
theorem Circles.not_ends {c : Code} {r : CallResult} (h : Circles c r) : ¬ r.Ends := by
  intro hends
  cases h with
  | runsOut =>
    cases hends with
    | traps ht => exact ht rfl
  | endless => cases hends

end Machine

namespace Instance.Offers

variable {a : Instance} {target : String} {f : Nat} {n : Int32} {i : Invocation}

/-- An invocation of an export from one integer to one ends if the call does. -/
theorem ends (h : a.Offers target f) (hcall : (call a f n).Ends) (htarget : i.target = target)
    (hargs : i.args = [.i32 n]) : a.Ends i := by
  have hfunction : Guest.function? a.prepared.module i.target = some (f, ⟨[.i32], [.i32]⟩) := by
    rw [htarget]
    exact h
  have hscalars : i.args.any Value.isList = false := by rw [hargs]; rfl
  refine ends_of_scalars hscalars hfunction (by rw [hargs]; exact hcall) ?_
  -- One integer is not read as a list, so nothing is released.
  intro g hexchanges
  exfalso
  obtain ⟨type, hfunction', hsuits⟩ := Reaches.suits (show a.Reaches i f (some g) from hexchanges)
  cases hfunction.symm.trans hfunction'
  have hmemory := hexchanges.usesMemory
  rw [Invocation.usesMemory, hscalars, Bool.or_false, beq_iff_eq] at hmemory
  have hresults := hsuits.results
  rw [hmemory] at hresults
  cases hresults

theorem ends_of_counts (h : a.Offers target f) {x : UInt32} {lastCheck cost : Nat}
    (hcounts : Counts a.prepared.code (.i32 x) lastCheck cost a.store.refuel.settle (call a f n))
    (hfuel : ∀ limit, a.prepared.config.fuel = some limit → lastCheck < limit.toNat)
    (htarget : i.target = target) (hargs : i.args = [.i32 n]) : a.Ends i := by
  refine h.ends (hcounts.ends fun l hl => ?_) htarget hargs
  have hspent : a.store.refuel.settle.spent = 0 := rfl
  rw [hspent, Nat.zero_add]
  exact a.prepared.forall_limit_code_iff.2 hfuel l hl

end Instance.Offers

/-! ## Reversing -/

namespace Scenario.Reverse

open Wasm
open Machine

section Call

variable {c : Code} {st : Store} {ptr n out : UInt32} {r : CallResult}

theorem Allocates.endsWithin {size : UInt32} (h : Allocates c size st r) (hst : Heaped st)
    (hfuel : ∀ l, c.limit = some l → st.spent + 1 < l) : r.EndsWithin (st.spent + 31) := by
  cases h with
  | outOfFuel hout =>
    obtain ⟨l, hlimit, hl⟩ := Code.exhausted_iff.1 hout
    exact absurd (hfuel l hlimit) (Nat.not_lt_of_le hl)
  | stuck _ hnone => exact absurd hst fun ⟨heap, hheap⟩ => hnone heap hheap
  | fits =>
    refine .returns ?_
    show st.spent + 18 ≤ st.spent + 31
    omega
  | grows =>
    refine .returns ?_
    exact Nat.le_refl (st.spent + 31)
  | full => exact .traps (by decide) _

/-- With fuel for every turn, the loop halts only at an address outside of the memory. -/
theorem Hindered.eq_outside {cause : Halt} (h : Hindered c ptr n out st cause)
    (hfuel : ∀ l, c.limit = some l → st.spent + 1 + 25 * turnCount n < l) :
    cause = .trap .memoryOutOfBounds := by
  cases h with
  | outOfFuel hlimit hl => exact absurd (hfuel _ hlimit) (Nat.not_lt_of_le hl)
  | outside => rfl

theorem Reverses.endsWithin (h : Reverses c 15999 ptr n st.settle r)
    (hc : c.funcs = #[alloc, free, reverse]) (hst : Heaped st)
    (hfuel : ∀ l, c.limit = some l → st.spent + 37 + 25 * turnCount n < l) :
    r.EndsWithin (st.spent + 43 + 25 * turnCount n) := by
  have hallocation : (innerAllocation c n st).EndsWithin (st.spent + 5 + 31) := by
    refine (allocates_inner hc n st).endsWithin hst fun l hl => ?_
    show st.spent + 5 + 1 < l
    have hl := hfuel l hl
    omega
  rw [innerAllocation] at hallocation
  cases h with
  | outOfFuel hout =>
    obtain ⟨l, hlimit, hl⟩ := Code.exhausted_iff.1 hout
    have hbelow := hfuel l hlimit
    change l ≤ st.spent + 1 at hl
    omega
  | unallocated halloc =>
    rw [halloc] at hallocation
    cases hallocation with
    | traps ht => exact .traps ht _
  | hindered halloc hhindered =>
    rw [halloc] at hallocation
    cases hallocation with
    | returns hspent =>
      obtain rfl := hhindered.eq_outside fun l hl => by
        have hbelow := hfuel l hl
        omega
      exact .traps (by decide) _
  | returns halloc _ _ hafter =>
    rw [halloc] at hallocation
    cases hallocation with
    | returns hspent => exact .returns (by omega)

theorem endsWithin_fromOutside {most : Nat} (h : r.EndsWithin most) :
    (fromOutside r).EndsWithin most := by
  cases h with
  | returns hspent => exact .returns hspent
  | traps ht => exact .traps ht _

theorem endsWithin_call (hc : c.funcs = #[alloc, free, reverse]) (hst : Heaped st)
    (hfuel : ∀ l, c.limit = some l → st.spent + 37 + 25 * turnCount n < l) :
    (call c 2 [.i32 ptr, .i32 n] st).EndsWithin (st.spent + 43 + 25 * turnCount n) := by
  obtain ⟨r, hreverses, hresult⟩ := reverses_call hc ptr n st
  rw [hresult]
  exact endsWithin_fromOutside (hreverses.endsWithin hc hst hfuel)

/-- Releasing takes one unit a block. -/
theorem not_ranOut_releaseAll (hc : c.funcs = #[alloc, free, reverse]) {g : Guest}
    (hfree : g.free = some 1) (bs : List Block) (st : Store)
    (hfuel : ∀ l, c.limit = some l → st.spent + bs.length < l) :
    ∀ x ∈ (g.releaseAll c bs st).calls, ¬ x.RanOut := by
  induction bs generalizing st with
  | nil => exact fun x hx => absurd hx List.not_mem_nil
  | cons b bs ih =>
    rw [List.length_cons] at hfuel
    have hin : c.exhausted (st.settle.spend 1) = false := by
      refine Code.not_exhausted_iff.2 fun l hl => ?_
      have hbelow := hfuel l hl
      show st.spent + 1 < l
      omega
    have hcall := call_free hc b.ptr.toUInt32 b.size.toUInt32 st
    rw [hin, if_neg Bool.false_ne_true] at hcall
    have hfirst : g.release c b st =
        ⟨.ok (), (st.settle.spend 1).settle, [.free b.ptr b.size (.ok ())]⟩ := by
      simp only [Guest.release, hfree, hcall]
    intro x hx
    rw [Guest.releaseAll, hfirst] at hx
    rcases List.mem_cons.1 hx with rfl | hrest
    · rintro ⟨⟩
    · refine ih _ (fun l hl => ?_) x hrest
      have hbelow := hfuel l hl
      show st.spent + 1 + bs.length < l
      omega

end Call

/-- A new instance has a heap pointer, if there is one at all. -/
theorem heaped_of_instantiate {config : Config} {fresh : Instance}
    (h : Prepared.instantiate ⟨config, reverseModule⟩ = .ok fresh) : Heaped fresh.store := by
  obtain ⟨-, rfl⟩ := eq_initial_of_instantiate h
  exact ⟨1024, rfl⟩

section Invocation

variable {a : Instance} {config : Config} {ptr len : Int32}

/-- From the full limit the call of `reverse` takes fuel for every turn, and leaves fuel to release
one block. -/
theorem endsWithin_refuelled (h : a.prepared = ⟨config, reverseModule⟩) (hst : Heaped a.store)
    (hfuel : ∀ l, a.prepared.code.limit = some l → 44 + 25 * turnCount len.toUInt32 < l) :
    (Machine.call a.prepared.code 2 [.i32 ptr.toUInt32, .i32 len.toUInt32]
      a.store.refuel).EndsWithin (43 + 25 * turnCount len.toUInt32) := by
  have hspent : a.store.refuel.spent = 0 := rfl
  have hcall := @endsWithin_call a.prepared.code a.store.refuel ptr.toUInt32 len.toUInt32
    (funcs_reverse h) hst fun l hl => by
      have hbelow := hfuel l hl
      omega
  rwa [hspent, Nat.zero_add] at hcall

/-- An invocation of `reverse` on two integers ends. -/
theorem ends_reverse (h : a.prepared = ⟨config, reverseModule⟩) (hst : Heaped a.store)
    (hfuel : ∀ limit, config.fuel = some limit → 44 + 25 * len.toInt.toNat < limit.toNat)
    {i : Invocation} (htarget : i.target = "reverse") (hargs : i.args = [.i32 ptr, .i32 len]) :
    a.Ends i := by
  have hfunction : Guest.function? a.prepared.module i.target =
      some (2, ⟨[.i32, .i32], [.i32, .i32]⟩) := by
    rw [htarget, h]
    rfl
  have hscalars : i.args.any Value.isList = false := by rw [hargs]; rfl
  have hparams : i.args.flatMap (·.lower?.toList) = [.i32 ptr.toUInt32, .i32 len.toUInt32] := by
    rw [hargs]
    rfl
  have hbelow : ∀ l, a.prepared.code.limit = some l → 44 + 25 * turnCount len.toUInt32 < l := by
    rw [turnCount, Int32.toInt32_toUInt32, a.prepared.forall_limit_code_iff, h]
    exact hfuel
  have hends := @endsWithin_refuelled a config ptr len h hst hbelow
  refine Instance.ends_of_scalars hscalars hfunction (by rw [hparams]; exact hends.ends) ?_
  intro g hexchanges results after value blocks hreturned hlift
  rw [hparams] at hreturned
  rw [hreturned] at hends
  have hfree : g.free = some 1 := by rw [guest_of_exchanges h hexchanges]
  have hfew : blocks.length ≤ 1 := by
    rcases blocks_liftResults hlift with ⟨rfl, -⟩ | ⟨b, _, rfl, -⟩
    · exact Nat.zero_le 1
    · exact Nat.le_refl 1
  cases hends with
  | returns hspent =>
    refine not_ranOut_releaseAll (funcs_reverse h) hfree blocks after fun l hl => ?_
    have hl := hbelow l hl
    omega

end Invocation

end Scenario.Reverse

/-! ## The shipped modules -/

namespace Scenario

open Reverse

/-- Some number of units suffices for the export of a module to end on these arguments, on every
instance under every limit from there on, and without one. -/
def Terminates (text target : String) (args : List Value) : Prop :=
  ∃ need : UInt64, ∀ config : Config, (∀ limit, config.fuel = some limit → need ≤ limit) →
    ∃ p, Prepared.ofImage config (.ofText text) = .ok p ∧
      ∀ fresh, p.instantiate = .ok fresh → ∀ earlier i, i.target = target → i.args = args →
        (fresh.afterAll earlier).Ends i

/-- A call of an export of the shipped modules that loops. -/
inductive LoopingCall where
  | fibiter (n : Int32)
  | reverse (ptr len : Int32)
  | sumOfSquares (n : Int32)

namespace LoopingCall

/-- The text of the module. -/
def text : LoopingCall → String
  | fibiter _ => fibonacciText
  | reverse _ _ => reverseText
  | sumOfSquares _ => sumOfSquaresText

def target : LoopingCall → String
  | fibiter _ => "fibiter"
  | reverse _ _ => "reverse"
  | sumOfSquares _ => "sum_of_squares"

def args : LoopingCall → List Value
  | fibiter n => [.i32 n]
  | reverse ptr len => [.i32 ptr, .i32 len]
  | sumOfSquares n => [.i32 n]

end LoopingCall

/-- When a call ends: always, except for the sum of the squares up to the largest integer. -/
structure LoopEnds (call : LoopingCall) : Prop where
  terminates_iff :
    Terminates call.text call.target call.args ↔ call ≠ .sumOfSquares 2147483647
  /-- That sum ends on no instance, with a limit or without one; under a limit it is told to have run
  out of fuel. -/
  endless : call = .sumOfSquares 2147483647 → ∀ config,
    ∃ p, Prepared.ofImage config (.ofText call.text) = .ok p ∧
      (∃ fresh, p.instantiate = .ok fresh) ∧ ∀ a : Instance, a.prepared = p → ∀ label separator,
        ¬ a.Ends (numberCall call.target 2147483647 label separator) ∧
          ∀ limit, config.fuel = some limit →
            (a.invoke (numberCall call.target 2147483647 label separator)).result =
              .error (.invocation call.target .outOfFuel)

/-- Enough that all instances of the module end the call from a number of units on. -/
theorem terminates_of_ends {text target : String} {args : List Value} {m : Wasm.Module}
    (hread : ∀ config, Prepared.ofImage config (.ofText text) = .ok ⟨config, m⟩) (last : Nat)
    (hlast : last + 1 < 2 ^ 64)
    (hends : ∀ config : Config, (∀ limit, config.fuel = some limit → last < limit.toNat) →
      ∀ fresh, Prepared.instantiate ⟨config, m⟩ = .ok fresh → ∀ earlier i, i.target = target →
        i.args = args → (fresh.afterAll earlier).Ends i) : Terminates text target args := by
  refine ⟨UInt64.ofNat (last + 1), fun config hfuel => ⟨_, hread config, hends config ?_⟩⟩
  intro limit hlimit
  have hle := UInt64.le_iff_toNat_le.1 (hfuel limit hlimit)
  rw [UInt64.toNat_ofNat_of_lt' hlast] at hle
  exact hle

/-- The instances that invocations lead to are prepared as the module was. -/
theorem prepared_afterAll_of_instantiate {p : Prepared} {fresh : Instance}
    (h : p.instantiate = .ok fresh) (earlier : List Invocation) :
    (fresh.afterAll earlier).prepared = p :=
  (fresh.prepared_afterAll earlier).trans (Prepared.prepared_of_instantiate h)

theorem terminates_fibiter (n : Int32) : Terminates fibonacciText "fibiter" [.i32 n] := by
  have hbound := n.toInt_lt
  refine terminates_of_ends ofImage_fibonacciText (5 + 17 * (n.toInt - 1).toNat)
    (by omega) ?_
  intro config hfuel fresh hfresh earlier i htarget hargs
  have hprepared := prepared_afterAll_of_instantiate hfresh earlier
  refine (offers_iterative hprepared).ends_of_counts (counts_iterative hprepared n) ?_ htarget hargs
  rw [hprepared]
  exact hfuel

theorem terminates_reverse (ptr len : Int32) :
    Terminates reverseText "reverse" [.i32 ptr, .i32 len] := by
  have hbound := len.toInt_lt
  refine terminates_of_ends ofImage_reverseText (44 + 25 * len.toInt.toNat) (by omega) ?_
  intro config hfuel fresh hfresh earlier i htarget hargs
  have hheaped := heaped_afterAll (Prepared.prepared_of_instantiate hfresh)
    (heaped_of_instantiate hfresh) earlier
  exact ends_reverse (prepared_afterAll_of_instantiate hfresh earlier) hheaped hfuel htarget hargs

theorem terminates_sumOfSquares {n : Int32} (hn : n.toInt < 2 ^ 31 - 1) :
    Terminates sumOfSquaresText "sum_of_squares" [.i32 n] := by
  have hcount : SumOfSquares.count n.toUInt32 = n.toInt.toNat := by
    rw [SumOfSquares.count, Int32.toInt32_toUInt32]
  refine terminates_of_ends ofImage_sumOfSquaresText (3 + 15 * n.toInt.toNat) (by omega) ?_
  intro config hfuel fresh hfresh earlier i htarget hargs
  have hprepared := prepared_afterAll_of_instantiate hfresh earlier
  have hcounts := SumOfSquares.counts_call (n := n.toUInt32) (funcs_sumOfSquares hprepared)
    (by rwa [Int32.toInt32_toUInt32]) (fresh.afterAll earlier).store.refuel
  refine (offers_sumOfSquares hprepared).ends_of_counts hcounts ?_ htarget hargs
  rw [hprepared, hcount]
  exact hfuel

section Largest

variable {a : Instance} {config : Config} {n : Int32}

theorem not_ends_of_max (h : a.prepared = ⟨config, sumOfSquaresModule⟩)
    (hmax : n.toInt = 2 ^ 31 - 1) (label : Option String) (separator : Separator) :
    ¬ a.Ends (numberCall "sum_of_squares" n label separator) := by
  intro hends
  have hbypasses := (offers_sumOfSquares h).bypasses n label separator
  have hentered := hends.call_ends none 0 _ _ (Instance.Reaches.enters hbypasses rfl)
  exact (circles_of_max h hmax).not_ends hentered

/-- A loop without a last turn takes all the fuel there is. -/
theorem outOfFuel_of_max (h : a.prepared = ⟨config, sumOfSquaresModule⟩)
    (hmax : n.toInt = 2 ^ 31 - 1) {limit : UInt64} (hlimit : config.fuel = some limit)
    (label : Option String) (separator : Separator) :
    (a.invoke (numberCall "sum_of_squares" n label separator)).result =
      .error (.invocation "sum_of_squares" .outOfFuel) := by
  have hcircles := circles_of_max h hmax
  obtain ⟨-, hhalt⟩ := (offers_sumOfSquares h).result_of_call n label separator
  generalize hcall : Instance.Offers.call a 0 n = r at hcircles
  cases hcircles with
  | runsOut => exact hhalt _ _ hcall
  | endless hunlimited =>
    rw [h] at hunlimited
    cases (Prepared.limit_code hlimit).symm.trans hunlimited

theorem not_terminates_of_max (hmax : n.toInt = 2 ^ 31 - 1) :
    ¬ Terminates sumOfSquaresText "sum_of_squares" [.i32 n] := by
  rintro ⟨need, hends⟩
  obtain ⟨p, hp, hends⟩ := hends { fuel := some need } fun limit hlimit => by
    cases hlimit
    exact UInt64.le_refl need
  cases hp.symm.trans (ofImage_sumOfSquaresText _)
  have hfresh := hends ⟨_, default⟩ rfl [] (numberCall "sum_of_squares" n none .eq) rfl rfl
  exact not_ends_of_max rfl hmax none .eq hfresh

end Largest

theorem terminates_sumOfSquares_iff (n : Int32) :
    Terminates sumOfSquaresText "sum_of_squares" [.i32 n] ↔ n ≠ 2147483647 := by
  have hbound := n.toInt_lt
  have hmost : n.toInt = 2 ^ 31 - 1 ↔ n = 2147483647 := by
    rw [← Int32.toInt_inj]
    rfl
  refine ⟨fun hends heq => not_terminates_of_max (hmost.2 heq) hends, fun hne => ?_⟩
  have hless : n.toInt ≠ 2 ^ 31 - 1 := fun heq => hne (hmost.1 heq)
  exact terminates_sumOfSquares (by omega)

/-- Reversing and the iterative Fibonacci function end on all arguments, and summing squares on all
but the largest integer. -/
theorem loop_ends (call : LoopingCall) : LoopEnds call where
  terminates_iff := by
    cases call with
    | fibiter n => exact iff_of_true (terminates_fibiter n) (by simp)
    | reverse ptr len => exact iff_of_true (terminates_reverse ptr len) (by simp)
    | sumOfSquares n =>
      rw [ne_eq, LoopingCall.sumOfSquares.injEq]
      exact terminates_sumOfSquares_iff n
  endless := by
    rintro rfl config
    refine ⟨_, ofImage_sumOfSquaresText config, ⟨⟨_, default⟩, rfl⟩, fun a h label separator => ?_⟩
    exact ⟨not_ends_of_max h rfl label separator, fun limit hlimit =>
      outOfFuel_of_max h rfl hlimit label separator⟩

/-- No number of units suffices to sum the squares up to the largest integer. -/
theorem largest_sum_not_ends :
    ¬ Terminates sumOfSquaresText "sum_of_squares" [.i32 2147483647] :=
  not_terminates_of_max rfl

end Scenario

end WasmGuest
