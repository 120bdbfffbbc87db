import Mathlib.Data.List.Forall2
import WasmGuest.Proofs.Instance.Session
import WasmGuest.Proofs.Machine.Limit

/-!
# Metering does not show

A session instantiates a module and invokes its exports one after the other.  If
no guest code in it runs out of fuel under some limit, then under a higher limit
and without metering the session goes the same way: every step gives the same
value or the same error and leaves the same memories, globals, tables and segments.
Only the fuel that is reported to have been spent is cut off at another limit.

* `HostCall.RanOut`, `Reply.RanOut`: guest code called by the host ran out of fuel.
* `passArgs_of_loosens`, `releaseAll_of_loosens`, `exchange_of_loosens`,
  `callWithMemory_of_loosens`: the steps of an invocation, in which refuelling is
  the same under every limit because fuel is counted upwards.
* `invoke_of_loosens` is one step of a session and `session_matches` the induction
  over its steps; `Prepared.metering_transparent` adds instantiation.
-/

namespace WasmGuest

open Wasm (Val)
open Machine (Code Store Halt CallResult Loosens)

/-- A recorded call ran out of fuel; for the export the result tells. -/
inductive HostCall.RanOut : HostCall → Prop where
  | alloc (size : Int32) : RanOut (.alloc size (.error (.trap .outOfFuel)))
  | free (ptr size : Int32) : RanOut (.free ptr size (.error (.trap .outOfFuel)))

/-- Some guest code that ran for the reply, in `alloc`, the export or `free`, ran out of fuel. -/
def Reply.RanOut (r : Reply) : Prop :=
  (∃ x ∈ r.calls, x.RanOut) ∨ ∃ target, r.result = .error (.invocation target .outOfFuel)

/-- One result under two limits: the same error, or the same value with the fuel that was spent
until the same moment. -/
inductive SameResult (c c' : Code) {ε : Type} : Except ε Outcome → Except ε Outcome → Prop where
  | error (e : ε) : SameResult c c' (.error e) (.error e)
  | ok (value : Option Value) (st : Store) :
      SameResult c c' (.ok ⟨value, fuelSpent c st⟩) (.ok ⟨value, fuelSpent c' st⟩)

section Invocation

variable {c c' : Code} {g : Guest}

/-! ## Passing arguments and releasing blocks -/

theorem writeList_of_loosens (h : Loosens c c') (xs : List Int32) (store : Store)
    (hcalls : ∀ x ∈ (g.writeList c xs store).calls, ¬ x.RanOut) :
    g.writeList c' xs store = g.writeList c xs store := by
  by_cases hlong : int32Max < (xs.length * itemSize : Nat)
  · simp only [Guest.writeList, if_pos hlong]
  · rcases Machine.call_of_loosens h g.alloc [.i32 (Guest.bytesAsked xs).toUInt32] store
      with ⟨st, hran⟩ | hsame
    · simp only [Guest.bytesAsked] at hran
      simp only [Guest.writeList, if_neg hlong, hran, List.mem_singleton, forall_eq] at hcalls
      exact absurd (.alloc _) hcalls
    · simp only [Guest.bytesAsked] at hsame
      simp only [Guest.writeList, hsame]

theorem passArgs_of_loosens (h : Loosens c c') (guest : Option Guest) (vs : List Value)
    (store : Store) (hcalls : ∀ x ∈ (passArgs c guest vs store).calls, ¬ x.RanOut) :
    passArgs c' guest vs store = passArgs c guest vs store := by
  cases guest with
  | none => rw [Guest.passArgs_none, Guest.passArgs_none]
  | some g =>
    induction vs generalizing store with
    | nil => rfl
    | cons v vs ih =>
      cases hv : v.isList with
      | false =>
        rw [Guest.passArgs_scalar _ hv] at hcalls ⊢
        rw [Guest.passArgs_scalar _ hv, ih store hcalls]
      | true =>
        obtain ⟨xs, rfl⟩ := Value.eq_list_of_isList hv
        cases hresult : (g.writeList c xs store).result with
        | error e =>
          rw [Guest.passArgs_list_error hresult] at hcalls ⊢
          have hcopy := writeList_of_loosens h xs store hcalls
          rw [Guest.passArgs_list_error (hcopy ▸ hresult), hcopy]
        | ok b =>
          rw [Guest.passArgs_list_ok hresult] at hcalls ⊢
          simp only [List.forall_mem_append] at hcalls
          have hcopy := writeList_of_loosens h xs store hcalls.1
          rw [Guest.passArgs_list_ok (hcopy ▸ hresult), hcopy]
          simp only [ih _ hcalls.2]

theorem release_of_loosens (h : Loosens c c') (b : Block) (store : Store)
    (hcalls : ∀ x ∈ (g.release c b store).calls, ¬ x.RanOut) :
    g.release c' b store = g.release c b store := by
  cases hfree : g.free with
  | none => simp only [Guest.release, hfree]
  | some k =>
    rcases Machine.call_of_loosens h k [.i32 b.ptr.toUInt32, .i32 b.size.toUInt32] store
      with ⟨st, hran⟩ | hsame
    · simp only [Guest.release, hfree, hran, List.mem_singleton, forall_eq] at hcalls
      exact absurd (.free _ _) hcalls
    · simp only [Guest.release, hfree, hsame]

theorem releaseAll_of_loosens (h : Loosens c c') (bs : List Block) (store : Store)
    (hcalls : ∀ x ∈ (g.releaseAll c bs store).calls, ¬ x.RanOut) :
    g.releaseAll c' bs store = g.releaseAll c bs store := by
  induction bs generalizing store with
  | nil => rfl
  | cons b bs ih =>
    rw [Guest.releaseAll] at hcalls ⊢
    simp only [List.forall_mem_append] at hcalls
    rw [Guest.releaseAll, release_of_loosens h b store hcalls.1, ih _ hcalls.2]

/-! ## The exchange and the call through guest memory -/

theorem exchange_of_loosens (h : Loosens c c') (guest : Option Guest) (f : Nat) (i : Invocation)
    (store : Store) (hcalls : ∀ x ∈ (exchange c guest f i store).calls, ¬ x.RanOut)
    (hresult : (exchange c guest f i store).result ≠ .error .outOfFuel) :
    let done := exchange c guest f i store
    let done' := exchange c' guest f i store
    SameResult c c' done.result done'.result ∧ done'.store = done.store ∧
      done'.calls = done.calls ∧ done'.blocks = done.blocks := by
  have hpassed : passArgs c' guest i.args store = passArgs c guest i.args store := by
    apply passArgs_of_loosens h
    intro x hx
    apply hcalls
    rw [calls_exchange]
    exact List.mem_append_left _ hx
  cases hparams : (passArgs c guest i.args store).result with
  | error e =>
    simp only [exchange, hpassed, hparams, and_self, and_true]
    exact .error e
  | ok params =>
    rcases Machine.call_of_loosens h f params (passArgs c guest i.args store).store
      with ⟨st, hran⟩ | hsame
    · simp only [exchange, hparams, hran] at hresult
      exact absurd rfl hresult
    · cases hcall : Machine.call c f params (passArgs c guest i.args store).store with
      | halt cause after =>
        simp only [exchange, hpassed, hparams, hsame, hcall, and_self, and_true]
        exact .error _
      | values results after =>
        cases hlift : liftResults guest i.returns after results with
        | error e =>
          simp only [exchange, hpassed, hparams, hsame, hcall, hlift, and_self, and_true]
          exact .error _
        | ok lifted =>
          simp only [exchange, hpassed, hparams, hsame, hcall, hlift, and_self, and_true]
          exact .ok lifted.1 after

theorem callWithMemory_of_loosens (h : Loosens c c') (f : Nat) (i : Invocation) (store : Store)
    (hcalls : ∀ x ∈ (callWithMemory c g f i store).2.2, ¬ x.RanOut)
    (hresult : (callWithMemory c g f i store).1 ≠ .error .outOfFuel) :
    SameResult c c' (callWithMemory c g f i store).1 (callWithMemory c' g f i store).1 ∧
      (callWithMemory c' g f i store).2 = (callWithMemory c g f i store).2 := by
  cases hdone : (exchange c (some g) f i store).result with
  | error e =>
    simp only [callWithMemory, hdone, List.forall_mem_append] at hcalls hresult
    obtain ⟨hsame, hstore, hcalls', hblocks⟩ := exchange_of_loosens h (some g) f i store hcalls.1
      (by rwa [hdone])
    rw [hdone] at hsame
    generalize hdone' : (exchange c' (some g) f i store).result = result' at hsame
    cases hsame
    have hreleased := releaseAll_of_loosens h _ _ hcalls.2
    simp only [callWithMemory, hdone, hdone', hstore, hblocks, hcalls', hreleased, and_true]
    exact .error e
  | ok outcome =>
    simp only [callWithMemory, hdone, List.forall_mem_append] at hcalls
    obtain ⟨hsame, hstore, hcalls', hblocks⟩ := exchange_of_loosens h (some g) f i store hcalls.1
      (by rw [hdone]; intro hran; cases hran)
    have hreleased := releaseAll_of_loosens h _ _ hcalls.2
    rw [hdone] at hsame
    generalize hdone' : (exchange c' (some g) f i store).result = result' at hsame
    cases hsame with
    | ok value st =>
      simp only [callWithMemory, hdone, hdone', hstore, hblocks, hcalls', hreleased, and_true]
      cases (g.releaseAll c (exchange c (some g) f i store).blocks
          (exchange c (some g) f i store).store).result with
      | error e => exact .error _
      | ok _ => exact .ok value st

end Invocation

/-! ## One step of a session -/

theorem SameResult.mapError {c c' : Code} {ε ε' : Type} {r r' : Except ε Outcome}
    (h : SameResult c c' r r') (f : ε → ε') : SameResult c c' (r.mapError f) (r'.mapError f) := by
  cases h with
  | error e => exact .error (f e)
  | ok value st => exact .ok value st

/-- An invocation in which nothing runs out of fuel is the same under a higher limit. -/
theorem invoke_of_loosens (a a' : Instance) (hmodule : a'.prepared.module = a.prepared.module)
    (h : Loosens a.prepared.code a'.prepared.code) (hstore : a'.store = a.store) (i : Invocation)
    (hran : ¬ (a.invoke i).RanOut) :
    SameResult a.prepared.code a'.prepared.code (a.invoke i).result (a'.invoke i).result ∧
      (a'.invoke i).after.store = (a.invoke i).after.store ∧
      (a'.invoke i).calls = (a.invoke i).calls := by
  obtain ⟨prepared, store⟩ := a
  obtain ⟨prepared', store'⟩ := a'
  simp only at hmodule h hstore
  subst hstore
  cases hfunction : Guest.function? prepared.module i.target with
  | none =>
    simp only [Instance.invoke, hmodule, hfunction, and_true]
    exact .error _
  | some found =>
    obtain ⟨f, type⟩ := found
    cases hcheck : Instance.check i type with
    | error e =>
      simp only [Instance.invoke, hmodule, hfunction, hcheck, and_true]
      exact .error _
    | ok _ =>
      cases hmemory : i.usesMemory with
      | false =>
        have hplain : Instance.Bypasses ⟨prepared, store'⟩ i f :=
          ⟨⟨type, hfunction, hcheck⟩, hmemory⟩
        have hplain' : Instance.Bypasses ⟨prepared', store'⟩ i f :=
          ⟨⟨type, hmodule ▸ hfunction, hcheck⟩, hmemory⟩
        obtain ⟨hresult, hafter, hcalls⟩ := hplain.invoke_eq
        obtain ⟨hresult', hafter', hcalls'⟩ := hplain'.invoke_eq
        rw [Reply.RanOut, hresult, hcalls, not_or] at hran
        obtain ⟨hsame, hsameStore, hsameCalls, -⟩ := exchange_of_loosens h none f i
          (Store.refuel store') (fun x hx hx' => hran.1 ⟨x, hx, hx'⟩)
          (fun hout => hran.2 ⟨i.target, by rw [hout]; rfl⟩)
        rw [hresult, hresult', hafter, hafter', hcalls, hcalls']
        exact ⟨hsame.mapError _, hsameStore, hsameCalls⟩
      | true =>
        cases hresolve : Guest.resolve prepared.module with
        | error e =>
          simp only [Instance.invoke, hmodule, hfunction, hcheck, Instance.call, hmemory, hresolve,
            if_true, and_true]
          exact .error _
        | ok guest =>
          have hlists : Instance.Exchanges ⟨prepared, store'⟩ i f guest :=
            ⟨⟨type, hfunction, hcheck⟩, hmemory, hresolve⟩
          have hlists' : Instance.Exchanges ⟨prepared', store'⟩ i f guest :=
            ⟨⟨type, hmodule ▸ hfunction, hcheck⟩, hmemory, hmodule ▸ hresolve⟩
          obtain ⟨hresult, hafter, hcalls⟩ := hlists.invoke_eq
          obtain ⟨hresult', hafter', hcalls'⟩ := hlists'.invoke_eq
          rw [Reply.RanOut, hresult, hcalls, not_or] at hran
          obtain ⟨hsame, hrest⟩ := callWithMemory_of_loosens h f i
            (Store.refuel store') (fun x hx hx' => hran.1 ⟨x, hx, hx'⟩)
            (fun hout => hran.2 ⟨i.target, by rw [hout]; rfl⟩)
          rw [hresult, hresult', hafter, hafter', hcalls, hcalls', hrest]
          exact ⟨hsame.mapError _, rfl, rfl⟩

/-! ## Sessions -/

namespace Prepared

/-- The same module under another fuel limit, or without one. -/
def withFuel (p : Prepared) (fuel : Option UInt64) : Prepared :=
  ⟨{ p.config with fuel := fuel }, p.module⟩

/-- Some guest code runs out of fuel in a session: the start function, or code that is called for an
invocation. -/
def RunsOut (p : Prepared) (is : List Invocation) : Prop :=
  p.instantiate = .error (.instantiation (.start (.halt (.trap .outOfFuel)))) ∨
    ∃ a, p.instantiate = .ok a ∧ ∃ r ∈ a.session is, r.RanOut

/-- Without imports instantiating is left to the machine. -/
theorem instantiate_withFuel {p : Prepared} (fuel : Option UInt64) (h : p.imports = []) :
    (p.withFuel fuel).instantiate =
      match Machine.instantiate p.module (p.withFuel fuel).config.limit
        p.config.maxMemory.toNat with
      | .ok store => .ok ⟨p.withFuel fuel, store⟩
      | .error e => .error (.instantiation (.start e)) := by
  have himports : (p.withFuel fuel).imports = [] := h
  rw [instantiate, himports]
  rfl

theorem instantiate_withFuel_of_imports {p : Prepared} (fuel : Option UInt64) {i : Import}
    {is : List Import} (h : p.imports = i :: is) :
    (p.withFuel fuel).instantiate = .error (.instantiation (.missingImports (i :: is))) := by
  have himports : (p.withFuel fuel).imports = i :: is := h
  rw [instantiate, himports]

theorem loosens_withFuel (p : Prepared) {limit : UInt64} {fuel : Option UInt64}
    (hle : ∀ l', fuel = some l' → limit ≤ l') :
    Loosens (p.withFuel (some limit)).code (p.withFuel fuel).code := by
  apply Machine.loosens_ofModule
  intro l' hl'
  obtain ⟨n, hn, rfl⟩ := Option.map_eq_some_iff.1 hl'
  exact ⟨limit.toNat, rfl, UInt64.le_iff_toNat_le.1 (hle n hn)⟩

/-- Instantiating does not run out of fuel under a higher limit if it does not under a lower one. -/
theorem machine_instantiate_withFuel (p : Prepared) {limit : UInt64} {fuel : Option UInt64}
    (hle : ∀ l', fuel = some l' → limit ≤ l') :
    Machine.instantiate p.module (p.withFuel (some limit)).config.limit p.config.maxMemory.toNat
        = .error (.halt (.trap .outOfFuel)) ∨
      Machine.instantiate p.module (p.withFuel fuel).config.limit p.config.maxMemory.toNat =
        Machine.instantiate p.module (p.withFuel (some limit)).config.limit
          p.config.maxMemory.toNat :=
  Machine.instantiate_of_loosens p.module p.config.maxMemory.toNat (p.loosens_withFuel hle).limit_le

end Prepared

/-- What one step of a session shows under a limit, and what it shows under another limit or without
one: the same but for the fuel spent, which is cut off at the limit. -/
structure Reply.Matches (limit : UInt64) (fuel : Option UInt64) (r r' : Reply) : Prop where
  /-- Memories, globals, tables and segments are the same, and so is the count of the fuel spent. -/
  store_eq : r'.after.store = r.after.store
  calls_eq : r'.calls = r.calls
  error_iff : ∀ e, r.result = .error e ↔ r'.result = .error e
  outcome : ∀ o, r.result = .ok o → ∃ o', r'.result = .ok o' ∧ o'.value = o.value ∧
    match fuel with
    | none => o'.fuelConsumed = none
    | some _ => ∃ n, o'.fuelConsumed = some n ∧ o.fuelConsumed = some (min limit.toNat n)

/-- The fuel spent is reported up to the limit. -/
theorem Reply.matches_of_sameResult {p : Prepared} {limit : UInt64} {fuel : Option UInt64}
    (hle : ∀ l', fuel = some l' → limit ≤ l') {r r' : Reply}
    (hsame : SameResult (p.withFuel (some limit)).code (p.withFuel fuel).code r.result r'.result)
    (hstore : r'.after.store = r.after.store) (hcalls : r'.calls = r.calls) :
    r.Matches limit fuel r' := by
  generalize hr : r.result = result at hsame
  generalize hr' : r'.result = result' at hsame
  refine ⟨hstore, hcalls, ?_, ?_⟩
  · intro e
    rw [hr, hr']
    cases hsame with
    | error e' => rfl
    | ok value st => exact ⟨nofun, nofun⟩
  · intro o ho
    rw [hr] at ho
    cases hsame with
    | error e => cases ho
    | ok value st =>
      cases ho
      refine ⟨_, hr', rfl, ?_⟩
      cases fuel with
      | none => rfl
      | some l' =>
        refine ⟨min l'.toNat st.spent, rfl, ?_⟩
        have hlimit := UInt64.le_iff_toNat_le.1 (hle l' rfl)
        show some (min limit.toNat st.spent) = some (min limit.toNat (min l'.toNat st.spent))
        congr 1
        omega

/-- The induction over the steps of a session. -/
theorem session_matches (p : Prepared) {limit : UInt64} {fuel : Option UInt64}
    (hle : ∀ l', fuel = some l' → limit ≤ l') (is : List Invocation) (store : Store)
    (hran : ∀ r ∈ Instance.session ⟨p.withFuel (some limit), store⟩ is, ¬ r.RanOut) :
    List.Forall₂ (Reply.Matches limit fuel) (Instance.session ⟨p.withFuel (some limit), store⟩ is)
      (Instance.session ⟨p.withFuel fuel, store⟩ is) := by
  induction is generalizing store with
  | nil => exact .nil
  | cons i is ih =>
    rw [Instance.session, List.forall_mem_cons] at hran
    obtain ⟨hsame, hstore, hcalls⟩ := invoke_of_loosens ⟨p.withFuel (some limit), store⟩
      ⟨p.withFuel fuel, store⟩ rfl (p.loosens_withFuel hle) rfl i hran.1
    refine .cons (Reply.matches_of_sameResult hle hsame hstore hcalls) ?_
    have hafter := Instance.prepared_after ⟨p.withFuel (some limit), store⟩ i
    have hafter' := Instance.prepared_after ⟨p.withFuel fuel, store⟩ i
    generalize (Instance.invoke ⟨p.withFuel (some limit), store⟩ i).after = next
      at hran hstore hafter ⊢
    generalize (Instance.invoke ⟨p.withFuel fuel, store⟩ i).after = next' at hstore hafter' ⊢
    obtain ⟨prepared, store₁⟩ := next
    obtain ⟨prepared', store₂⟩ := next'
    obtain rfl : prepared = p.withFuel (some limit) := hafter
    obtain rfl : prepared' = p.withFuel fuel := hafter'
    obtain rfl : store₂ = store₁ := hstore
    exact ih store₂ hran.2

/-- A session in which nothing runs out of fuel goes the same way under a higher limit and without
metering, step by step; only the fuel that is reported differs, and it is cut off at the limit. -/
theorem Prepared.metering_transparent (p : Prepared) (limit : UInt64) (fuel : Option UInt64)
    (hle : ∀ l', fuel = some l' → limit ≤ l') (is : List Invocation)
    (hran : ¬ (p.withFuel (some limit)).RunsOut is) :
    (∃ e, (p.withFuel (some limit)).instantiate = .error e ∧
      (p.withFuel fuel).instantiate = .error e) ∨
    ∃ a a', (p.withFuel (some limit)).instantiate = .ok a ∧ (p.withFuel fuel).instantiate = .ok a' ∧
      a'.store = a.store ∧
      List.Forall₂ (Reply.Matches limit fuel) (a.session is) (a'.session is) := by
  rw [Prepared.RunsOut, not_or] at hran
  obtain ⟨hstart, hreplies⟩ := hran
  cases himports : p.imports with
  | cons i is' =>
    left
    exact ⟨_, Prepared.instantiate_withFuel_of_imports _ himports,
      Prepared.instantiate_withFuel_of_imports _ himports⟩
  | nil =>
    have hmetered := Prepared.instantiate_withFuel (some limit) himports
    have hother := Prepared.instantiate_withFuel fuel himports
    rcases p.machine_instantiate_withFuel hle with hout | hsame
    · rw [hout] at hmetered
      exact absurd hmetered hstart
    · rw [hsame] at hother
      cases hstore : Machine.instantiate p.module (p.withFuel (some limit)).config.limit
          p.config.maxMemory.toNat with
      | error e =>
        rw [hstore] at hmetered hother
        exact .inl ⟨_, hmetered, hother⟩
      | ok store =>
        rw [hstore] at hmetered hother
        refine .inr ⟨_, _, hmetered, hother, rfl, session_matches p hle is store ?_⟩
        intro r hr hout
        exact hreplies ⟨_, hmetered, r, hr, hout⟩

/-! ## A call that overruns its limit -/

/-- A module whose export `six` costs more than it is checked for: no loop follows its entry. -/
def overrun : Prepared where
  config := {}
  module := {
    funcs := [
      ⟨⟨[], [.i32]⟩, [], [.const (.i32 1), .const (.i32 2), .numeric (.intBinary .w32 .add),
        .const (.i32 3), .numeric (.intBinary .w32 .add)]⟩,
      ⟨⟨[], []⟩, [], [.unreachable]⟩]
    exports := [⟨"six", .func 0⟩, ⟨"fail", .func 1⟩] }

/-- A call, one that fails, and the first again. -/
def overrunCalls : List Invocation :=
  [{ target := "six" }, { target := "fail" }, { target := "six" }]

/-- Nothing runs out of fuel although the limit is overrun; the fuel reported is cut off there. -/
theorem metering_transparent_overrun :
    (∃ a a', (overrun.withFuel (some 4)).instantiate = .ok a ∧
      (overrun.withFuel (some 100)).instantiate = .ok a' ∧
      List.Forall₂ (Reply.Matches 4 (some 100)) (a.session overrunCalls)
        (a'.session overrunCalls)) ∧
    (Instance.invoke ⟨overrun.withFuel (some 4), ⟨⟨[], #[], [], [], []⟩, 0, 0⟩⟩
        { target := "six" }).result
      = .ok ⟨some (.i32 6), some 4⟩ := by
  have hstarted : (overrun.withFuel (some 4)).instantiate =
      .ok ⟨overrun.withFuel (some 4), ⟨⟨[], #[], [], [], []⟩, 0, 0⟩⟩ := by rfl
  have hran : ¬ (overrun.withFuel (some 4)).RunsOut overrunCalls := by
    rintro (hout | ⟨a, ha, r, hr, hout⟩)
    · rw [hstarted] at hout
      cases hout
    · obtain rfl := Except.ok.inj (hstarted.symm.trans ha)
      have hcalls : (Instance.session ⟨overrun.withFuel (some 4), ⟨⟨[], #[], [], [], []⟩, 0, 0⟩⟩
          overrunCalls).map Reply.calls = [[.export []], [.export []], [.export []]] := by rfl
      have hresults : (Instance.session ⟨overrun.withFuel (some 4), ⟨⟨[], #[], [], [], []⟩, 0, 0⟩⟩
          overrunCalls).map Reply.result =
            [.ok ⟨some (.i32 6), some 4⟩, .error (.invocation "fail" (.trap (.trap .unreachable))),
              .ok ⟨some (.i32 6), some 4⟩] := by rfl
      have hcall := List.mem_map_of_mem (f := Reply.calls) hr
      have hresult := List.mem_map_of_mem (f := Reply.result) hr
      rw [hcalls] at hcall
      rw [hresults] at hresult
      have hexport : r.calls = [.export []] := by simpa using hcall
      rcases hout with ⟨x, hx, hout⟩ | ⟨target, hout⟩
      · rw [hexport, List.mem_singleton] at hx
        rw [hx] at hout
        cases hout
      · simp [hout] at hresult
  have hle : ∀ l', some (100 : UInt64) = some l' → 4 ≤ l' := by
    rintro _ ⟨⟩
    decide
  rcases overrun.metering_transparent 4 (some 100) hle overrunCalls hran
    with ⟨e, herror, -⟩ | ⟨a, a', ha, ha', -, hmatches⟩
  · rw [hstarted] at herror
    cases herror
  · exact ⟨⟨a, a', ha, ha', hmatches⟩, by rfl⟩

end WasmGuest
