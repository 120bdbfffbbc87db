import WasmGuest.Proofs.Instance.MemoryLimit
import WasmGuest.Proofs.Instance.Typing
import WasmGuest.Proofs.Scenario.Reverse.Invocation

/-!
# The heap pointer of an instance

The first global of the reversing module is its heap pointer.  Every function
leaves an integer there, whatever it is called on and however it ends, so the
instances that come about are never stuck for want of one.

* `heaped_call`: what one call leaves.
* `heaped_invoke`, `heaped_afterAll`: what one invocation leaves, and any number of
  them.
* `eq_initial_of_instantiate`: where all of them start.
-/

namespace WasmGuest

open Wasm (Val)
open Machine (Code Store CallResult)

/-- A function that is found under a name has the type that the module gives it. -/
theorem Guest.funcTypes_of_function? {m : Wasm.Module} {name : String} {f : Nat}
    {type : Wasm.FuncType} (h : Guest.function? m name = some (f, type)) :
    m.funcTypes[f]? = some type := by
  rw [Guest.function?] at h
  split at h
  · obtain ⟨t, ht, ⟨⟩⟩ := Option.map_eq_some_iff.1 h
    exact ht
  · cases h

namespace Scenario.Reverse

open Wasm
open Machine

/-- The first global is an integer. -/
def Heaped (st : Store) : Prop :=
  ∃ heap, st.globals[0]? = some (.i32 heap)

theorem Heaped.of_globals_eq {st st' : Store} (h : Heaped st) (heq : st'.globals = st.globals) :
    Heaped st' := by
  rw [Heaped, heq]
  exact h

theorem Heaped.write {st : Store} (h : Heaped st) (x i : Nat) (bs : List UInt8) :
    Heaped (st.write x i bs) :=
  h.of_globals_eq (Store.globals_write st x i bs)

theorem Heaped.afterHalt {st : Store} (h : Heaped st) (cause : Halt) :
    Heaped (st.afterHalt cause) :=
  h.of_globals_eq (by rw [st.toContents_afterHalt cause])

/-! ## Calls -/

section Calls

variable {c : Code} {st : Store}

theorem Allocates.heaped {size : UInt32} {r : CallResult} (h : Allocates c size st r)
    (hst : Heaped st) : Heaped r.store := by
  have hmoved (heap : UInt32) : Heaped (st.setGlobal 0 (.i32 heap)) := by
    obtain ⟨before, hbefore⟩ := hst
    exact ⟨heap, heap_setGlobal hbefore _⟩
  cases h with
  | outOfFuel => exact hst
  | stuck _ hnone => exact absurd hst fun ⟨heap, hheap⟩ => hnone heap hheap
  | fits => exact hmoved _
  | grows | full => exact (hmoved _).of_globals_eq (globals_growMemory _ _ _ _ _)

theorem Reverses.heaped (hc : c.funcs = #[alloc, free, reverse]) {ptr n : UInt32} {r : CallResult}
    (h : Reverses c 15999 ptr n st.settle r) (hst : Heaped st) : Heaped r.store := by
  have hallocates := (allocates_inner hc n st).heaped hst
  rw [innerAllocation] at hallocates
  cases h with
  | outOfFuel => exact hst
  | unallocated halloc =>
    rw [halloc] at hallocates
    exact hallocates
  | hindered halloc _ hglobals | returns halloc _ hglobals =>
    rw [halloc] at hallocates
    exact Heaped.of_globals_eq hallocates hglobals

theorem heaped_fromOutside {r : CallResult} (h : Heaped r.store) :
    Heaped (fromOutside r).store := by
  cases r with
  | values vs st => exact h
  | halt cause st => exact Heaped.afterHalt h cause

/-- Values whose first type is that of integers begin with an integer. -/
theorem exists_i32_cons {vs : List Val} {types : List ValType}
    (h : vs.map Val.type = .i32 :: types) :
    ∃ x ws, vs = .i32 x :: ws ∧ ws.map Val.type = types := by
  obtain ⟨v, ws, rfl, hv, hws⟩ := List.map_eq_cons_iff.1 h
  cases v with
  | i32 x => exact ⟨x, ws, rfl, hws⟩
  | _ => cases hv

theorem exists_i32_pair {vs : List Val} (h : vs.map Val.type = [.i32, .i32]) :
    ∃ x y, vs = [.i32 x, .i32 y] := by
  obtain ⟨x, ws, rfl, hws⟩ := exists_i32_cons h
  obtain ⟨y, us, rfl, hus⟩ := exists_i32_cons hws
  obtain rfl := List.map_eq_nil_iff.1 hus
  exact ⟨x, y, rfl⟩

/-- What a call leaves as the heap pointer is an integer, if it is on as many integers as the
function takes. -/
theorem heaped_call (hc : c.funcs = #[alloc, free, reverse]) (hst : Heaped st) {f : Nat}
    {type : FuncType} (hf : reverseModule.funcTypes[f]? = some type) {params : List Val}
    (htypes : params.map Val.type = type.params) : Heaped (call c f params st).store := by
  match f, hf with
  | 0, hf =>
    cases hf
    obtain ⟨size, ws, rfl, hws⟩ := exists_i32_cons htypes
    obtain rfl := List.map_eq_nil_iff.1 hws
    have hallocates := allocates_invoke hc 15999 size st.settle
    rw [call_eq]
    exact heaped_fromOutside (hallocates.heaped hst)
  | 1, hf =>
    cases hf
    obtain ⟨ptr, size, rfl⟩ := exists_i32_pair htypes
    rw [call_free hc]
    split <;> exact hst
  | 2, hf =>
    cases hf
    obtain ⟨ptr, n, rfl⟩ := exists_i32_pair htypes
    obtain ⟨r, hreverses, hresult⟩ := reverses_call hc ptr n st
    rw [hresult]
    exact heaped_fromOutside (hreverses.heaped hc hst)

end Calls

/-! ## Invocations -/

section Invocations

variable {c : Code} {g : Guest} {f : Nat}

/-- Between the calls of a record the host does not touch globals. -/
theorem heaped_transcript (hc : c.funcs = #[alloc, free, reverse]) (halloc : g.alloc = 0)
    (hfree : g.free = some 1) {type : FuncType} (hf : reverseModule.funcTypes[f]? = some type)
    {xs : List HostCall} {st st' : Store} (h : Transcript c g f xs st st')
    (htypes : ∀ params, .export params ∈ xs → params.map Val.type = type.params)
    (hst : Heaped st) : Heaped st' := by
  induction h with
  | nil => exact hst
  | fill i bytes _ ih => exact ih htypes (hst.write _ i bytes)
  | refuel _ ih => exact ih htypes hst
  | @cons x xs before between after hmade _ ih =>
    refine ih (fun params hx => htypes params (List.mem_cons_of_mem x hx)) ?_
    have hallocated {size : Int32} {r : CallResult}
        (h : call c g.alloc [.i32 size.toUInt32] before = r) : Heaped r.store := by
      rw [← h, halloc]
      exact heaped_call hc hst (f := 0) rfl rfl
    have hfreed {k : Nat} (hk : g.free = some k) {ptr size : Int32} {r : CallResult}
        (h : call c k [.i32 ptr.toUInt32, .i32 size.toUInt32] before = r) : Heaped r.store := by
      cases hk.symm.trans hfree
      rw [← h]
      exact heaped_call hc hst (f := 1) rfl rfl
    cases hmade with
    | alloc h | allocHalts h | allocIllTyped h => exact hallocated h
    | «export» => exact heaped_call hc hst hf (htypes _ List.mem_cons_self)
    | free hk h | freeHalts hk h => exact hfreed hk h

variable {a : Instance} {config : Config}

/-- The parameters of the export are of its types. -/
theorem types_of_enters (h : a.prepared = ⟨config, reverseModule⟩) {i : Invocation}
    {guest : Option Guest} {params : List Val} {st : Store}
    (henters : a.Enters i guest f params st) :
    ∃ type, reverseModule.funcTypes[f]? = some type ∧ params.map Val.type = type.params := by
  obtain ⟨type, hfunction, hsuits⟩ := henters.reaches.suits
  rw [h] at hfunction
  exact ⟨type, Guest.funcTypes_of_function? hfunction, henters.types_eq.trans hsuits.args⟩

theorem heaped_bypasses (h : a.prepared = ⟨config, reverseModule⟩) (hst : Heaped a.store)
    {i : Invocation} (hbypasses : a.Bypasses i f) : Heaped (a.invoke i).after.store := by
  rw [hbypasses.invoke_eq.2.1]
  have hpassed := Guest.passArgs_none a.prepared.code i.args a.store.refuel
  have henters : a.Enters i none f (i.args.flatMap (·.lower?.toList)) a.store.refuel :=
    ⟨hbypasses, by rw [hpassed], by rw [hpassed]⟩
  obtain ⟨type, hf, htypes⟩ := types_of_enters h henters
  have hcalled := heaped_call (funcs_reverse h) (show Heaped a.store.refuel from hst) hf htypes
  have hexchanged := exchanged_exchange a.prepared.code none f i a.store.refuel
  generalize exchange a.prepared.code none f i a.store.refuel = done at hexchanged ⊢
  cases hexchanged with
  | refused =>
    rw [hpassed]
    exact hst
  | halts hok hcall | unreadable hok hcall | returns hok hcall =>
    rw [hpassed] at hok hcall
    cases hok
    rw [hcall] at hcalled
    exact hcalled

theorem heaped_exchanges (h : a.prepared = ⟨config, reverseModule⟩) (hst : Heaped a.store)
    {i : Invocation} {guest : Guest} (hexchanges : a.Exchanges i f guest) :
    Heaped (a.invoke i).after.store := by
  have hguest := guest_of_exchanges h hexchanges
  obtain ⟨type, hfunction, hsuits⟩ := Instance.Reaches.suits
    (show a.Reaches i f (some guest) from hexchanges)
  rw [h] at hfunction
  have hf := Guest.funcTypes_of_function? hfunction
  refine heaped_transcript (funcs_reverse h) (by rw [hguest]) (by rw [hguest]) hf
    hexchanges.transcript (fun params hmem => ?_) hst
  obtain ⟨guest', f', st, henters⟩ := Instance.mem_calls_iff.1 hmem
  obtain ⟨type', hf', htypes⟩ := types_of_enters h henters
  obtain ⟨_, hfunction', -⟩ := henters.reaches.suits
  rw [h, hfunction] at hfunction'
  cases hfunction'
  cases hf.symm.trans hf'
  exact htypes

/-- An invocation leaves an integer as the heap pointer, whatever comes of it. -/
theorem heaped_invoke (h : a.prepared = ⟨config, reverseModule⟩) (hst : Heaped a.store)
    (i : Invocation) : Heaped (a.invoke i).after.store := by
  rcases a.reaches_or_rejects i with ⟨f, guest, hreaches⟩ | ⟨-, -, hafter | hafter⟩
  · cases guest with
    | none => exact heaped_bypasses h hst hreaches
    | some guest => exact heaped_exchanges h hst hreaches
  · rw [hafter]
    exact hst
  · rw [hafter]
    exact hst

theorem heaped_afterAll (h : a.prepared = ⟨config, reverseModule⟩) (hst : Heaped a.store)
    (is : List Invocation) : Heaped (a.afterAll is).store := by
  induction is generalizing a with
  | nil => exact hst
  | cons i is ih => exact ih ((a.prepared_after i).trans h) (heaped_invoke h hst i)

end Invocations

/-! ## A new instance -/

/-- A new instance has room for one page, and there is only one such instance. -/
theorem eq_initial_of_instantiate {config : Config} {fresh : Instance}
    (h : Prepared.instantiate ⟨config, reverseModule⟩ = .ok fresh) :
    pageSize ≤ config.maxMemory.toNat ∧ fresh = ⟨⟨config, reverseModule⟩, initial⟩ := by
  by_cases hpage : pageSize ≤ config.maxMemory.toNat
  · rw [instantiate_reverseModule hpage] at h
    cases h
    exact ⟨hpage, rfl⟩
  · have hinitial : Machine.initialStore reverseModule config.maxMemory.toNat =
        .error (.memoryLimit 1) := by
      have hlarge : config.maxMemory.toNat < 1 * pageSize := by
        rw [Nat.one_mul]
        exact Nat.lt_of_not_le hpage
      refine initialStore_of_find? (t := ⟨⟨1, none⟩, .w32⟩) (List.find?_cons_of_pos ?_)
      simpa using hlarge
    have hstore : Machine.instantiate reverseModule config.limit config.maxMemory.toNat =
        .error (.memoryLimit 1) := by
      simp only [Machine.instantiate, hinitial]
      rfl
    have himports : Prepared.imports ⟨config, reverseModule⟩ = [] := rfl
    simp only [Prepared.instantiate, himports, hstore] at h
    cases h

end Scenario.Reverse

end WasmGuest
