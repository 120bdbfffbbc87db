import Mathlib.Data.Nat.Find
import WasmGuest.Proofs.Guest.Custody
import WasmGuest.Proofs.Instance.Accounting
import WasmGuest.Proofs.Instance.Metering
import WasmGuest.Proofs.Machine.Remainder

/-!
# What releasing blocks has to go on

Under a limit the blocks of an invocation are released one after the other, out
of one tank.  If the exchange failed the tank is filled up before.  If the exchange
has an outcome it is not: the releases run on what the outcome leaves of the limit,
and may run out although a full tank would do.

* `Guest.releaseFrom` releases blocks out of a tank, and `Guest.Suffices` says
  that no release runs out.
* `Guest.releaseAll_advance` carries over from calls that what was spent before
  counts as a lower limit, so that `Guest.releaseAll_eq_releaseFrom` reads the
  releases behind an outcome as releases out of what is left.
* `Guest.exists_need`: a tank suffices if it is as large as some bound.
* `Instance.Exchanges.releaseFuel` says from which tank an invocation releases,
  and how much an outcome has to leave so that it suffices.
-/

namespace WasmGuest

open Machine (Code Store Loosens)

/-- The code under a limit. -/
def Machine.Code.withLimit (c : Code) (limit : Nat) : Code :=
  { c with limit := some limit }

theorem Machine.Code.withLimit_limit {c : Code} {limit : Nat} (h : c.limit = some limit) :
    c.withLimit limit = c := by
  rw [withLimit, ← h]

theorem Machine.Code.lowered_eq_withLimit {c : Code} {limit : Nat} (h : c.limit = some limit)
    (k : Nat) : c.lowered k = c.withLimit (limit - k) := by
  rw [lowered, withLimit, h, Option.map_some]

theorem Machine.loosens_withLimit (c : Code) {limit limit' : Nat} (h : limit ≤ limit') :
    Loosens (c.withLimit limit) (c.withLimit limit') where
  funcs_eq := rfl
  maxMemory_eq := rfl
  limit_le l' hl' := by
    cases hl'
    exact ⟨limit, rfl, h⟩

namespace Guest

/-! ## Releasing out of a tank -/

/-- What came of a step if some fuel had been spent and settled before. -/
def Step.advance {α : Type} (k : Nat) (s : Step α) : Step α :=
  { s with store := s.store.advance k }

/-- Hand blocks back one after the other, out of a full tank. -/
def releaseFrom (c : Code) (g : Guest) (tank : Nat) (bs : List Block) (store : Store) : Step Unit :=
  g.releaseAll (c.withLimit tank) bs store.refuel

/-- No release out of the tank runs out of fuel. -/
def Suffices (c : Code) (g : Guest) (tank : Nat) (bs : List Block) (store : Store) : Prop :=
  ∀ x ∈ (g.releaseFrom c tank bs store).calls, ¬ x.RanOut

variable {c : Code} {g : Guest} {bs : List Block} {store : Store}

theorem release_advance (c : Code) (g : Guest) (k : Nat) (b : Block) (store : Store) :
    g.release c b (store.advance k) = (g.release (c.lowered k) b store).advance k := by
  cases hfree : g.free with
  | none =>
    simp only [release, hfree]
    rfl
  | some f =>
    have hcall := Machine.call_advance c k f [.i32 b.ptr.toUInt32, .i32 b.size.toUInt32] store
    simp only [release, hfree, hcall]
    cases Machine.call (c.lowered k) f [.i32 b.ptr.toUInt32, .i32 b.size.toUInt32] store <;> rfl

theorem releaseAll_advance (c : Code) (g : Guest) (k : Nat) (bs : List Block) (store : Store) :
    g.releaseAll c bs (store.advance k) = (g.releaseAll (c.lowered k) bs store).advance k := by
  induction bs generalizing store with
  | nil => rfl
  | cons b bs ih =>
    have hrest := ih (g.release (c.lowered k) b store).store
    have hstore : (g.release c b (store.advance k)).store =
        (g.release (c.lowered k) b store).store.advance k := by
      rw [release_advance]
      rfl
    rw [releaseAll, releaseAll, hstore, hrest, release_advance]
    rfl

/-- Where what was spent is settled, blocks are released out of what is left of the limit. -/
theorem releaseAll_eq_releaseFrom {limit : Nat} (hlimit : c.limit = some limit)
    (hsettled : store.settled = store.spent) (bs : List Block) :
    g.releaseAll c bs store =
      (g.releaseFrom c (limit - store.spent) bs store).advance store.spent := by
  have hadvanced := releaseAll_advance c g store.spent bs store.refuel
  rwa [← Store.eq_advance_refuel hsettled, Code.lowered_eq_withLimit hlimit] at hadvanced

theorem releaseAll_refuel {limit : Nat} (hlimit : c.limit = some limit) (bs : List Block)
    (store : Store) : g.releaseAll c bs store.refuel = g.releaseFrom c limit bs store := by
  rw [releaseFrom, Code.withLimit_limit hlimit]

/-- Out of a larger tank blocks are released in the same way. -/
theorem Suffices.releaseFrom_eq {tank tank' : Nat} (h : g.Suffices c tank bs store)
    (hle : tank ≤ tank') : g.releaseFrom c tank' bs store = g.releaseFrom c tank bs store :=
  releaseAll_of_loosens (Machine.loosens_withLimit c hle) bs store.refuel h

theorem Suffices.mono {tank tank' : Nat} (h : g.Suffices c tank bs store) (hle : tank ≤ tank') :
    g.Suffices c tank' bs store := by
  rw [Suffices, h.releaseFrom_eq hle]
  exact h

/-- If some tank suffices there is a least one, and every tank from there on suffices. -/
theorem exists_need {limit : Nat} (h : g.Suffices c limit bs store) :
    ∃ need ≤ limit, ∀ tank, g.Suffices c tank bs store ↔ need ≤ tank := by
  classical
  have hsome : ∃ tank, g.Suffices c tank bs store := ⟨limit, h⟩
  refine ⟨Nat.find hsome, Nat.find_min' hsome h, fun tank => ⟨Nat.find_min' hsome, ?_⟩⟩
  exact (Nat.find_spec hsome).mono

end Guest

/-! ## The releases of an invocation -/

namespace Instance

variable {a : Instance} {i : Invocation} {f : Nat} {g : Guest}

/-- No release of an invocation runs out of fuel. -/
def SparesReleases (a : Instance) (i : Invocation) : Prop :=
  ∀ x ∈ (a.invoke i).calls, x.freed?.isSome → ¬ x.RanOut

/-- What the releases of an invocation under a limit have to go on, behind its exchange. -/
structure ReleaseFuel (a : Instance) (i : Invocation) (g : Guest) (limit : Nat)
    (done : Exchange Outcome) : Prop where
  /-- If the exchange failed it is the limit. -/
  failed : ∀ e, done.result = .error e →
    let released := g.releaseFrom a.prepared.code limit done.blocks done.store
    (a.invoke i).calls = done.calls ++ released.calls ∧
      (a.invoke i).result = .error (.invocation i.target e)
  /-- If the exchange has an outcome it is what the outcome leaves of the limit. -/
  succeeded : ∀ o, done.result = .ok o → ∃ consumed ≤ limit, o.fuelConsumed = some consumed ∧
    let released := g.releaseFrom a.prepared.code (limit - consumed) done.blocks done.store
    (a.invoke i).calls = done.calls ++ released.calls ∧
      (a.invoke i).result = match released.result with
        | .ok () => .ok o
        | .error e => .error (.invocation i.target (.guest e))
  /-- Releases that complete out of a full tank need some part of it.  In the invocation they
  complete if and only if an outcome leaves as much. -/
  spares_iff : g.Suffices a.prepared.code limit done.blocks done.store → ∃ need ≤ limit,
    (∀ tank, g.Suffices a.prepared.code tank done.blocks done.store ↔ need ≤ tank) ∧
      (a.SparesReleases i ↔ ∀ o consumed, done.result = .ok o → o.fuelConsumed = some consumed →
        consumed + need ≤ limit)

section ReleaseFuel

variable {fuel : UInt64} {e : CallError} {o : Outcome}

/-- Behind a failed exchange blocks are released out of a full tank. -/
theorem Exchanges.releases_of_error (h : a.Exchanges i f g)
    (hfuel : a.prepared.config.fuel = some fuel) :
    let done := exchange a.prepared.code (some g) f i a.store.refuel
    done.result = .error e →
      (a.invoke i).calls = done.calls ++
          (g.releaseFrom a.prepared.code fuel.toNat done.blocks done.store).calls ∧
        (a.invoke i).result = .error (.invocation i.target e) := by
  intro done hdone
  have hlimit := Prepared.limit_code hfuel
  obtain ⟨hresult, -, hcalls⟩ := h.invoke_eq
  simp only [callWithMemory, hdone, done, Guest.releaseAll_refuel hlimit] at hresult hcalls
  exact ⟨hcalls, hresult⟩

/-- Behind an outcome they are released out of what it leaves of the limit. -/
theorem Exchanges.releases_of_ok (h : a.Exchanges i f g)
    (hfuel : a.prepared.config.fuel = some fuel) :
    let done := exchange a.prepared.code (some g) f i a.store.refuel
    done.result = .ok o → ∃ consumed ≤ fuel.toNat, o.fuelConsumed = some consumed ∧
      let released :=
        g.releaseFrom a.prepared.code (fuel.toNat - consumed) done.blocks done.store
      (a.invoke i).calls = done.calls ++ released.calls ∧
        (a.invoke i).result = match released.result with
          | .ok () => .ok o
          | .error e => .error (.invocation i.target (.guest e)) := by
  intro done hdone
  have hlimit := Prepared.limit_code hfuel
  obtain ⟨params, st, results, hcall, hconsumed⟩ := exists_call_of_exchange hdone
  obtain ⟨-, hsettled, -⟩ := Machine.spent_of_call hcall
  rw [Prepared.fuelSpent_code hfuel] at hconsumed
  have hleft : fuel.toNat - min fuel.toNat done.store.spent = fuel.toNat - done.store.spent := by
    omega
  have hreleased := Guest.releaseAll_eq_releaseFrom (g := g) hlimit hsettled done.blocks
  obtain ⟨hresult, -, hcalls⟩ := h.invoke_eq
  refine ⟨min fuel.toNat done.store.spent, Nat.min_le_left _ _, hconsumed, ?_⟩
  simp only [callWithMemory, hdone, done] at hresult hcalls hreleased hleft ⊢
  rw [hreleased, ← hleft] at hresult hcalls
  refine ⟨hcalls, ?_⟩
  rw [hresult]
  simp only [Guest.Step.advance]
  generalize Guest.Step.result _ = released
  cases released <;> rfl

/-- The calls behind the exchange are the releases. -/
theorem sparesReleases_iff {c c' : Code} {tank : Nat} {bs : List Block} {store store' : Store}
    (hcalls : (a.invoke i).calls =
      (exchange c (some g) f i store).calls ++ (g.releaseFrom c' tank bs store').calls) :
    a.SparesReleases i ↔ g.Suffices c' tank bs store' := by
  rw [SparesReleases, hcalls]
  constructor
  · intro hspared x hx
    obtain ⟨ptr, size, result, rfl⟩ := Guest.exists_of_mem_releaseAll hx
    exact hspared _ (List.mem_append_right _ hx) rfl
  · intro hspared x hx hfreed
    rcases List.mem_append.1 hx with hdone | hreleased
    · rw [freed?_of_mem_exchange hdone] at hfreed
      cases hfreed
    · exact hspared x hreleased

/-- An invocation releases its blocks out of a full tank if its exchange failed, and else out of
what the exchange has left, whether that is enough or not. -/
theorem Exchanges.releaseFuel (h : a.Exchanges i f g)
    (hfuel : a.prepared.config.fuel = some fuel) :
    a.ReleaseFuel i g fuel.toNat (exchange a.prepared.code (some g) f i a.store.refuel) where
  failed _ hdone := h.releases_of_error hfuel hdone
  succeeded _ hdone := h.releases_of_ok hfuel hdone
  spares_iff hfull := by
    obtain ⟨need, hle, hneed⟩ := Guest.exists_need hfull
    refine ⟨need, hle, hneed, ?_⟩
    cases hdone : (exchange a.prepared.code (some g) f i a.store.refuel).result with
    | error e =>
      have hspares := sparesReleases_iff (h.releases_of_error hfuel hdone).1
      simp [hspares, hfull]
    | ok o =>
      obtain ⟨consumed, hconsumed, hfuelConsumed, hcalls, -⟩ := h.releases_of_ok hfuel hdone
      rw [sparesReleases_iff hcalls, hneed]
      constructor
      · intro hleft o' consumed' ho hconsumed'
        cases ho
        rw [hfuelConsumed] at hconsumed'
        cases hconsumed'
        omega
      · intro hleaves
        have := hleaves o consumed rfl hfuelConsumed
        omega

end ReleaseFuel

end Instance

/-- The exchange of `lengthsCall`. -/
def lengthsExchange (fuel : Option UInt64) : Exchange Outcome :=
  exchange (clerk fuel).prepared.code (some ⟨0, 0, some 1⟩) 3 lengthsCall (clerk fuel).store.refuel

/-- The two blocks of `lengthsCall` need seven units to be released, whatever the memory holds. -/
theorem suffices_clerk_iff (fuel : Option UInt64) {store : Store}
    (hglobals : store.globals = #[.i32 20, .i32 0]) (tank : Nat) :
    Guest.Suffices (clerk fuel).prepared.code ⟨0, 0, some 1⟩ tank [⟨8, 1⟩, ⟨12, 2⟩] store ↔
      7 ≤ tank := by
  obtain ⟨⟨memories, globals, tables, datas, elems⟩, spent, settled⟩ := store
  simp only at hglobals
  subst hglobals
  constructor
  · intro hsuffices
    by_contra hless
    have hsix := hsuffices.mono (show tank ≤ 6 by omega)
    exact hsix (.free 12 8 (.error (.trap .outOfFuel))) (List.mem_cons_of_mem _ List.mem_cons_self)
      (.free 12 8)
  · have hseven : Guest.Suffices (clerk fuel).prepared.code ⟨0, 0, some 1⟩ 7 [⟨8, 1⟩, ⟨12, 2⟩]
        ⟨⟨memories, #[.i32 20, .i32 0], tables, datas, elems⟩, spent, settled⟩ := by
      have hcalls : (Guest.releaseFrom (clerk fuel).prepared.code ⟨0, 0, some 1⟩ 7 [⟨8, 1⟩, ⟨12, 2⟩]
          ⟨⟨memories, #[.i32 20, .i32 0], tables, datas, elems⟩, spent, settled⟩).calls =
            [.free 8 4 (.ok ()), .free 12 8 (.ok ())] := by rfl
      rw [Guest.Suffices, hcalls]
      rintro x hx ⟨⟩ <;> simp at hx
    exact hseven.mono

/-- Under a limit of twenty-three units the outcome of sixteen leaves the seven that releasing both
blocks needs. -/
theorem releaseFuel_clerk :
    (clerk (some 23)).Exchanges lengthsCall 3 ⟨0, 0, some 1⟩ ∧
      (clerk (some 23)).ReleaseFuel lengthsCall ⟨0, 0, some 1⟩ 23 (lengthsExchange (some 23)) ∧
      (∀ tank, Guest.Suffices (clerk (some 23)).prepared.code ⟨0, 0, some 1⟩ tank
        (lengthsExchange (some 23)).blocks (lengthsExchange (some 23)).store ↔ 7 ≤ tank) ∧
      ((clerk (some 23)).invoke lengthsCall).result = .ok ⟨some (.i32 3), some 16⟩ := by
  have hexchanges : (clerk (some 23)).Exchanges lengthsCall 3 ⟨0, 0, some 1⟩ :=
    ⟨⟨⟨[.i32, .i32, .i32, .i32], [.i32]⟩, rfl, rfl⟩, rfl, rfl⟩
  have hblocks : (lengthsExchange (some 23)).blocks = [⟨8, 1⟩, ⟨12, 2⟩] := by rfl
  have hglobals : (lengthsExchange (some 23)).store.globals = #[.i32 20, .i32 0] := by rfl
  refine ⟨hexchanges, hexchanges.releaseFuel rfl, ?_, by rfl⟩
  rw [hblocks]
  exact suffices_clerk_iff (some 23) hglobals

/-- Under a limit of seventeen it leaves one unit: a full tank would do, but neither block is
released, and the invocation fails although its export returned. -/
theorem starved_release_clerk :
    (clerk (some 17)).Reachable ∧
      (lengthsExchange (some 17)).result = .ok ⟨some (.i32 3), some 16⟩ ∧
      Guest.Suffices (clerk (some 17)).prepared.code ⟨0, 0, some 1⟩ 17
        (lengthsExchange (some 17)).blocks (lengthsExchange (some 17)).store ∧
      ¬ (clerk (some 17)).SparesReleases lengthsCall ∧
      ((clerk (some 17)).invoke lengthsCall).result =
        .error (.invocation "lengths" (.guest (.free 8 (.trap .outOfFuel)))) := by
  have hblocks : (lengthsExchange (some 17)).blocks = [⟨8, 1⟩, ⟨12, 2⟩] := by rfl
  have hglobals : (lengthsExchange (some 17)).store.globals = #[.i32 20, .i32 0] := by rfl
  have hcalls : ((clerk (some 17)).invoke lengthsCall).calls.getLast? =
      some (.free 12 8 (.error (.trap .outOfFuel))) := by rfl
  refine ⟨reachable_clerk (some 17) [], by rfl, ?_, ?_, by rfl⟩
  · rw [hblocks]
    exact (suffices_clerk_iff (some 17) hglobals 17).2 (by decide)
  · intro hspares
    exact hspares _ (List.mem_of_getLast? hcalls) rfl (.free 12 8)

end WasmGuest
