import WasmGuest.Proofs.Guest.Release
import WasmGuest.Proofs.Instance.Moments
import WasmGuest.Proofs.Instance.Typing

/-!
# The fuel account balances

Under a limit, what is left of the fuel and what was spent make up the limit at
every moment of every session, so taking one from the limit gives the other in 64
bits.  An invocation that succeeds is charged for the calls up to the end of its
export, and what is released afterwards is paid from what is left.

* `Charges`: what happens to the two counters of a store while code runs.
* `Machine.spent_of_call`: a call that returns has spent something, and its store
  is settled.
* `Balanced` is what holds at each moment, `Charged` what a successful invocation
  reports and leaves.
* `Prepared.FuelAccounted` lists what is promised, and `Prepared.fuel_accounted` is
  the result for every module under every configuration.
-/

namespace WasmGuest

open Wasm (Val)
open Machine (CallResult Code Keeps Lasts Ordered Spans Store)

/-! ## The counters while code runs -/

/-- What was settled is not taken back, and is never ahead of what was spent. -/
def Charges (st st' : Store) : Prop :=
  st.settled ≤ st.spent → st.settled ≤ st'.settled ∧ st'.settled ≤ st'.spent

theorem keeps_charges (c : Code) : Keeps c Charges where
  trans := by
    intro a b d hab hbd ha
    have hb := hab ha
    have hd := hbd hb.2
    exact ⟨Nat.le_trans hb.1 hd.1, hd.2⟩
  spend st n hst := ⟨Nat.le_refl _, Nat.le_trans hst (Nat.le_add_right st.spent n)⟩
  settle st hst := ⟨hst, Nat.le_refl _⟩
  afterHalt st h hst := by
    rcases st.afterHalt_cases h with hafter | hafter <;> rw [hafter]
    · exact ⟨hst, Nat.le_refl _⟩
    · exact ⟨Nat.le_refl _, Nat.le_refl _⟩
  touch _ hst := ⟨Nat.le_refl _, hst⟩

/-- Refuelling takes back what was settled, but keeps it from being ahead of what was spent. -/
theorem lasts_settled_le (c : Code) :
    Lasts c fun st st' => st.settled ≤ st.spent → st'.settled ≤ st'.spent where
  trans hab hbd ha := hbd (hab ha)
  spend st n hst := ((keeps_charges c).spend st n hst).2
  settle st hst := ((keeps_charges c).settle st hst).2
  afterHalt st h hst := ((keeps_charges c).afterHalt st h hst).2
  touch h hst := ((keeps_charges c).touch h hst).2
  refuel _ _ := Nat.le_refl 0

/-- On a way from a store that is not ahead, what is settled grows from moment to moment. -/
theorem pairwise_settled {a b : Store} {l : List Store} (h : Ordered Charges a l b)
    (ha : a.settled ≤ a.spent) : (a :: l).Pairwise fun st st' => st.settled ≤ st'.settled := by
  have hbehind (st : Store) (hst : st ∈ l) := h.behind st hst ha
  refine .cons (fun st hst => (hbehind st hst).1) ?_
  exact h.pairwise.imp_of_mem fun hst _ hcharges => (hcharges (hbehind _ hst).2).1

namespace Machine

theorem spans_spent (c : Code) : Spans c fun st st' => st.spent ≤ st'.spent where
  trans := Nat.le_trans
  spend st n := Nat.le_add_right st.spent n
  settle _ := Nat.le_refl _
  touch _ := Nat.le_refl _

/-- A function that is entered and returns, or a function in its place, is settled. -/
theorem settled_of_enter {c : Code} {calls : Nat → List Val → Store → CallResult}
    {turns f : Nat} {args vs : List Val} {st after : Store}
    (h : enter c calls turns f args st = .values vs after) : after.settled = after.spent := by
  induction turns generalizing f args st with
  | zero => cases h
  | succ turns ih =>
    rw [enter] at h
    simp only at h
    split at h
    · cases h
    · cases hfn : c.funcs[f]? with
      | none =>
        rw [hfn] at h
        cases h
      | some fn =>
        rw [hfn] at h
        simp only at h
        generalize execAll c calls fn.body _ = e at h
        cases e with
        | tail f args store => exact ih h
        | halt cause store => cases h
        | _ =>
          cases h
          rfl

/-- A call from within that returns has entered a function below the limit, and its store is
settled. -/
theorem spent_of_invoke {c : Code} {depth f : Nat} {args vs : List Val} {st after : Store}
    (h : invoke c depth f args st = .values vs after) :
    st.spent < after.spent ∧ after.settled = after.spent ∧
      ∀ limit, c.limit = some limit → st.spent + 1 < limit := by
  cases depth with
  | zero => cases h
  | succ depth =>
    have hway := ((spans_spent c).alongCalls.invokeTrace (depth + 1)).calls f args st
    have hentry : st.spend 1 ∈ momentsOf (invokeTrace c (depth + 1) f args st) := by
      rw [invokeTrace, ← turnBound_eq, enterTrace]
      exact List.mem_cons_self
    have hspent := hway.before _ hentry
    rw [h] at hspent
    refine ⟨hspent, ?_, fun limit hlimit => ?_⟩
    · rw [invoke] at h
      exact settled_of_enter h
    · rw [invoke_succ] at h
      split at h
      · cases h
      · next hbelow =>
        rw [Code.exhausted, hlimit, Option.any_some, decide_eq_true_eq] at hbelow
        exact Nat.lt_of_not_le hbelow

/-- A call that returns has spent something below the limit, and its store is settled. -/
theorem spent_of_call {c : Code} {f : Nat} {args vs : List Val} {st after : Store}
    (h : call c f args st = .values vs after) :
    st.spent < after.spent ∧ after.settled = after.spent ∧
      ∀ limit, c.limit = some limit → st.spent + 1 < limit := by
  rw [call] at h
  cases hinvoke : invoke c depthBound f args.reverse st.settle with
  | halt cause between =>
    rw [hinvoke] at h
    cases h
  | values results between =>
    rw [hinvoke] at h
    cases h
    have hspent := spent_of_invoke hinvoke
    rwa [Store.spent_settle] at hspent

end Machine

/-! ## Invocations that succeed -/

/-- If no block is handed back, releasing leaves the store as it is. -/
theorem Guest.store_releaseAll {c : Code} {g : Guest} {bs : List Block} {store : Store}
    (h : ∀ x ∈ (g.releaseAll c bs store).calls, x.freed? = none) :
    (g.releaseAll c bs store).store = store := by
  cases hfree : g.free with
  | none => rw [Guest.releaseAll_of_free_eq_none hfree]
  | some k =>
    cases bs with
    | nil => rfl
    | cons b bs =>
      have hfreed := Guest.freed?_releaseAll (c := c) hfree (b :: bs) store
      rw [List.map_congr_left h, List.map_cons, List.map_const'] at hfreed
      have hmem : some (b.ptr, b.size) ∈ List.replicate
          (g.releaseAll c (b :: bs) store).calls.length none := by
        rw [hfreed]
        exact List.mem_cons_self
      exact absurd (List.eq_of_mem_replicate hmem) (Option.some_ne_none _)

/-- Behind an invocation is what the call of its export left, or what releasing blocks made of
that. -/
inductive Leaves (c : Code) (done : Store) (r : Reply) : Prop where
  | directly (h : r.after.store = done)
  | released (g : Guest) (bs : List Block)
      (hstore : r.after.store = (g.releaseAll c bs done).store)
      (hcalls : ∀ x ∈ (g.releaseAll c bs done).calls, x ∈ r.calls)

/-- Releasing blocks only adds to what is settled. -/
theorem Leaves.charges {c : Code} {done : Store} {r : Reply} (h : Leaves c done r) :
    Charges done r.after.store := by
  cases h with
  | directly h =>
    rw [h]
    exact (keeps_charges c).refl done
  | released g bs hstore =>
    rw [hstore]
    exact ((keeps_charges c).ordered_releaseTrace bs done).ends

/-- If no block was handed back, the call of the export left what is behind the invocation. -/
theorem Leaves.store_eq {c : Code} {done : Store} {r : Reply} (h : Leaves c done r)
    (hfreed : ∀ x ∈ r.calls, x.freed? = none) : r.after.store = done := by
  cases h with
  | directly h => exact h
  | released g bs hstore hcalls =>
    rw [hstore, Guest.store_releaseAll fun x hx => hfreed x (hcalls x hx)]

/-- An exchange with an outcome is one whose export returned, and the fuel is counted there. -/
theorem exists_call_of_exchange {c : Code} {guest : Option Guest} {f : Nat} {i : Invocation}
    {o : Outcome} {store : Store} (h : (exchange c guest f i store).result = .ok o) :
    ∃ params st results, Machine.call c f params st =
        .values results (exchange c guest f i store).store ∧
      o.fuelConsumed = fuelSpent c (exchange c guest f i store).store := by
  have hexchanged := exchanged_exchange c guest f i store
  generalize exchange c guest f i store = done at hexchanged h ⊢
  cases hexchanged with
  | refused => cases h
  | halts => cases h
  | unreadable => cases h
  | returns _ hcall =>
    cases h
    exact ⟨_, _, _, hcall, rfl⟩

namespace Instance

variable {a : Instance} {i : Invocation} {o : Outcome}

/-- An invocation that succeeds refuels once; then its export returns, and the fuel is counted
there.  What runs keep holds from moment to moment. -/
theorem succeeds (h : (a.invoke i).result = .ok o) :
    (∃ f params st results done, Machine.call a.prepared.code f params st = .values results done ∧
      o.fuelConsumed = fuelSpent a.prepared.code done ∧
      Leaves a.prepared.code done (a.invoke i)) ∧
    ∃ l, a.moments i = a.store.refuel :: l ∧
      ∀ R, Keeps a.prepared.code R → Ordered R a.store.refuel l (a.invoke i).after.store := by
  rcases a.reaches_or_rejects i with ⟨f, guest, hreaches⟩ | ⟨⟨e, hrejected⟩, -, -⟩
  · cases guest with
    | none =>
      have hmoments := Bypasses.moments_eq hreaches
      obtain ⟨hresult, hafter, -⟩ := Bypasses.invoke_eq hreaches
      rw [hresult] at h
      obtain ⟨params, st, results, hcall, hfuel⟩ :=
        exists_call_of_exchange (eq_ok_of_mapError_eq_ok h)
      refine ⟨⟨f, params, st, results, _, hcall, hfuel, .directly ?_⟩, _, hmoments, ?_⟩
      · rw [hafter]
      · intro R hR
        rw [hafter]
        exact hR.ordered_exchangeTrace none f i a.store.refuel
    | some g =>
      have hmoments := Exchanges.moments_eq hreaches
      obtain ⟨hresult, hafter, hcalls⟩ := Exchanges.invoke_eq hreaches
      rw [hresult] at h
      have hdone := result_exchange_of_callWithMemory (eq_ok_of_mapError_eq_ok h)
      obtain ⟨params, st, results, hcall, hfuel⟩ := exists_call_of_exchange hdone
      refine ⟨⟨f, params, st, results, _, hcall, hfuel, .released g
        (exchange a.prepared.code (some g) f i a.store.refuel).blocks ?_ ?_⟩, _, hmoments, ?_⟩
      · rw [hafter]
        simp only [callWithMemory, hdone]
      · rw [hcalls]
        simp only [callWithMemory, hdone]
        exact fun x hx => List.mem_append_right _ hx
      · intro R hR
        rw [hafter]
        refine hR.ordered_memoryTrace f i a.store.refuel fun e he => ?_
        rw [hdone] at he
        cases he
  · rw [h] at hrejected
    cases hrejected

end Instance

/-! ## What holds at each moment -/

/-- What is left and what was spent are 64-bit numbers, of which each is the limit less the other;
what was settled is not ahead. -/
structure Balanced (c : Code) (fuel : UInt64) (st : Store) : Prop where
  balances : ∃ left : UInt64, left ≤ fuel ∧ fuelLeft c st = some left.toNat ∧
    fuelSpent c st = some (fuel - left).toNat
  settled : st.settled ≤ st.spent

/-- What a successful invocation under a limit has consumed and leaves. -/
structure Charged (fuel spent left : UInt64) (r : Reply) (o : Outcome) : Prop where
  consumed : o.fuelConsumed = some spent.toNat
  remaining : r.after.fuelRemaining = some left.toNat
  pos : 0 < spent
  le_limit : spent ≤ fuel
  total_le : spent.toNat + left.toNat ≤ fuel.toNat
  total_eq : (∀ x ∈ r.calls, x.freed? = none) → spent.toNat + left.toNat = fuel.toNat

/-- What is promised about the fuel of a module under a configuration. -/
structure Prepared.FuelAccounted (p : Prepared) : Prop where
  /-- At every moment of every session the account balances. -/
  balanced : ∀ fuel, p.config.fuel = some fuel → ∀ is, ∀ st ∈ p.moments is,
    Balanced p.code fuel st
  /-- What an instance shows between invocations is the account at such a moment. -/
  shown : ∀ fresh, p.instantiate = .ok fresh → ∀ is js,
    (fresh.afterAll is).store ∈ p.moments (is ++ js) ∧
      (fresh.afterAll is).fuelRemaining = fuelLeft p.code (fresh.afterAll is).store
  /-- An invocation that succeeds is charged at least one unit, and at most the limit. -/
  charged : ∀ fuel, p.config.fuel = some fuel → ∀ store i o,
    (Instance.invoke ⟨p, store⟩ i).result = .ok o →
      ∃ spent left, Charged fuel spent left (Instance.invoke ⟨p, store⟩ i) o
  /-- While it runs, nothing that was settled is given back. -/
  settles : ∀ store i o, (Instance.invoke ⟨p, store⟩ i).result = .ok o →
    (Instance.moments ⟨p, store⟩ i).Pairwise fun st st' => st.settled ≤ st'.settled
  /-- Fuel is reported exactly if there is a limit. -/
  metered : ∀ store,
    ((Instance.mk p store).fuelRemaining = none ↔ p.config.fuel = none) ∧
    ∀ i o, (Instance.invoke ⟨p, store⟩ i).result = .ok o →
      (o.fuelConsumed = none ↔ p.config.fuel = none)

/-! ## The result -/

/-- A number up to a 64-bit number is one. -/
theorem exists_toNat_eq {fuel : UInt64} {n : Nat} (h : n ≤ fuel.toNat) :
    ∃ m : UInt64, m ≤ fuel ∧ m.toNat = n := by
  have hlt : n < UInt64.size := Nat.lt_of_le_of_lt h fuel.toNat_lt_size
  refine ⟨UInt64.ofNat n, ?_, UInt64.toNat_ofNat_of_lt hlt⟩
  rw [UInt64.le_iff_toNat_le]
  exact Nat.le_trans (Nat.le_of_eq (UInt64.toNat_ofNat_of_lt hlt)) h

namespace Prepared

variable {p : Prepared} {fuel : UInt64}

theorem limit_code (h : p.config.fuel = some fuel) : p.code.limit = some fuel.toNat := by
  rw [code, Machine.Code.ofModule, Config.limit, h, Option.map_some]

theorem fuelLeft_code (h : p.config.fuel = some fuel) (st : Store) :
    fuelLeft p.code st = some (fuel.toNat - st.spent) := by
  rw [fuelLeft, limit_code h, Option.map_some]

theorem fuelSpent_code (h : p.config.fuel = some fuel) (st : Store) :
    fuelSpent p.code st = some (min fuel.toNat st.spent) := by
  rw [fuelSpent, limit_code h, Option.map_some]

theorem limit_code_eq_none_iff (p : Prepared) : p.code.limit = none ↔ p.config.fuel = none := by
  rw [code, Machine.Code.ofModule, Config.limit, Option.map_eq_none_iff]

/-- A store that is not ahead is balanced. -/
theorem balanced_of_settled_le (h : p.config.fuel = some fuel) {st : Store}
    (hst : st.settled ≤ st.spent) : Balanced p.code fuel st := by
  obtain ⟨left, hle, hleft⟩ := exists_toNat_eq (Nat.sub_le fuel.toNat st.spent)
  refine ⟨⟨left, hle, ?_, ?_⟩, hst⟩
  · rw [fuelLeft_code h, hleft]
  · rw [fuelSpent_code h, UInt64.toNat_sub_of_le _ _ hle, hleft, Nat.sub_sub_eq_min]

theorem settled_le_moments (p : Prepared) (is : List Invocation) :
    ∀ st ∈ p.moments is, st.settled ≤ st.spent := by
  intro st hst
  obtain ⟨first, hfirst, hsettled⟩ := (p.ordered_moments (lasts_settled_le p.code) is).2 st hst
  obtain ⟨hspent, hnone⟩ := (Machine.initialStore_eq_ok hfirst).1
  exact hsettled (by rw [hspent, hnone])

/-- What an invocation that succeeds is charged. -/
theorem exists_charged (h : p.config.fuel = some fuel) {store : Store} {i : Invocation}
    {o : Outcome} (hok : (Instance.invoke ⟨p, store⟩ i).result = .ok o) :
    ∃ spent left, Charged fuel spent left (Instance.invoke ⟨p, store⟩ i) o := by
  obtain ⟨⟨f, params, st, results, done, hcall, hconsumed, hleaves⟩, -⟩ := Instance.succeeds hok
  obtain ⟨hspent, hsettled, hbelow⟩ := Machine.spent_of_call hcall
  have hlimit := hbelow _ (limit_code h)
  have hafter := hleaves.charges (Nat.le_of_eq hsettled)
  obtain ⟨spent, hle, hspentEq⟩ := exists_toNat_eq (Nat.min_le_left fuel.toNat done.spent)
  obtain ⟨left, -, hleftEq⟩ := exists_toNat_eq
    (Nat.sub_le fuel.toNat (Instance.invoke ⟨p, store⟩ i).after.store.spent)
  refine ⟨spent, left, ?_, ?_, ?_, hle, ?_, ?_⟩
  · rw [hconsumed, fuelSpent_code h, hspentEq]
  · rw [Instance.fuelRemaining, Instance.prepared_after, fuelLeft_code h, hleftEq]
  · rw [UInt64.lt_iff_toNat_lt, hspentEq]
    show 0 < min fuel.toNat done.spent
    omega
  · rw [hspentEq, hleftEq]
    omega
  · intro hfreed
    rw [hspentEq, hleftEq, hleaves.store_eq hfreed]
    omega

/-- The account of every module balances, under every configuration and in every session. -/
theorem fuel_accounted (p : Prepared) : p.FuelAccounted where
  balanced _ h is st hst := balanced_of_settled_le h (p.settled_le_moments is st hst)
  shown fresh hfresh is js := by
    refine ⟨store_mem_moments hfresh is js, ?_⟩
    rw [Instance.fuelRemaining, Instance.prepared_afterAll, prepared_of_instantiate hfresh]
  charged _ h _ _ _ hok := exists_charged h hok
  settles store i o hok := by
    obtain ⟨-, l, hmoments, hordered⟩ := Instance.succeeds hok
    rw [hmoments]
    exact pairwise_settled (hordered _ (keeps_charges p.code)) (Nat.le_refl 0)
  metered store := by
    refine ⟨?_, fun i o hok => ?_⟩
    · rw [Instance.fuelRemaining, fuelLeft, Option.map_eq_none_iff, limit_code_eq_none_iff]
    · obtain ⟨⟨_, _, _, _, done, -, hconsumed, -⟩, -⟩ := Instance.succeeds hok
      rw [hconsumed, fuelSpent, Option.map_eq_none_iff, limit_code_eq_none_iff]

end Prepared

/-! ## A release that is paid for -/

/-- A module that lends blocks, takes them back, and echoes lists. -/
def lenderModule : Wasm.Module where
  funcs := [
    ⟨⟨[.i32], [.i32]⟩, [], [.globalGet 0, .globalGet 0, .localGet 0,
      .numeric (.intBinary .w32 .add), .globalSet 0]⟩,
    ⟨⟨[.i32, .i32], []⟩, [], []⟩,
    ⟨⟨[.i32, .i32], [.i32, .i32]⟩, [], [.localGet 0, .localGet 1]⟩]
  memories := [⟨⟨1, none⟩, .w32⟩]
  globals := [⟨⟨true, .i32⟩, [.const (.i32 8)]⟩]
  exports := [⟨"memory", .memory 0⟩, ⟨"alloc", .func 0⟩, ⟨"free", .func 1⟩, ⟨"echo", .func 2⟩]

def lender : Prepared := ⟨{ fuel := some 100 }, lenderModule⟩

/-- The charge is what is reported. -/
theorem Charged.eq_of_reported {fuel spent left spent' left' : UInt64} {r : Reply} {o : Outcome}
    (h : Charged fuel spent left r o) (hconsumed : o.fuelConsumed = some spent'.toNat)
    (hremaining : r.after.fuelRemaining = some left'.toNat) : Charged fuel spent' left' r o := by
  have hspent : spent = spent' :=
    UInt64.toNat_inj.1 (Option.some.inj (h.consumed.symm.trans hconsumed))
  have hleft : left = left' :=
    UInt64.toNat_inj.1 (Option.some.inj (h.remaining.symm.trans hremaining))
  rwa [hspent, hleft] at h

/-- A list that is echoed costs nine units, and releasing it twice costs two more; behind a block
that is only lent the rest is left. -/
theorem fuel_accounted_lender :
    let fresh : Instance := ⟨lender, ⟨⟨[.ofPages 1 none], #[.i32 8], [], [], []⟩, 0, 0⟩⟩
    lender.instantiate = .ok fresh ∧
      Charged 100 9 89 (fresh.invoke echoCall) ⟨some (.list [7, -1]), some 9⟩ ∧
      Charged 100 6 94 (fresh.invoke { target := "alloc", args := [.i32 4] })
        ⟨some (.i32 8), some 6⟩ := by
  intro fresh
  have hecho : (fresh.invoke echoCall).result = .ok ⟨some (.list [7, -1]), some 9⟩ := by rfl
  have hlend : (fresh.invoke { target := "alloc", args := [.i32 4] }).result =
      .ok ⟨some (.i32 8), some 6⟩ := by rfl
  obtain ⟨_, _, hechoed⟩ := lender.fuel_accounted.charged 100 rfl _ _ _ hecho
  obtain ⟨_, _, hlent⟩ := lender.fuel_accounted.charged 100 rfl _ _ _ hlend
  exact ⟨rfl, hechoed.eq_of_reported rfl rfl, hlent.eq_of_reported rfl rfl⟩

end WasmGuest
