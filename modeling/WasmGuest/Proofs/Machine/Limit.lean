import WasmGuest.Machine.Instantiate
import WasmGuest.Proofs.Machine.Simulation

/-!
# Runs under a higher limit

The limit on fuel decides when a run stops, and nothing else.  A run that does
not run out of fuel under one limit is therefore the same run under every higher
limit, and without metering.

* `Loosens` relates a code to the same code under a higher limit or none.
* `call_of_loosens`, `instantiate_of_loosens`: a call or an instantiation that does
  not run out of fuel is the same.
-/

namespace WasmGuest.Machine

open Wasm

/-- The second code is the first under a limit that is not lower, or without one. -/
structure Loosens (c c' : Code) : Prop where
  funcs_eq : c'.funcs = c.funcs
  maxMemory_eq : c'.maxMemory = c.maxMemory
  limit_le : ∀ l', c'.limit = some l' → ∃ l, c.limit = some l ∧ l ≤ l'

/-- What is exhausted under the higher limit is exhausted under the lower one. -/
theorem Loosens.exhausted {c c' : Code} (h : Loosens c c') {st : Store}
    (hexhausted : c'.exhausted st = true) : c.exhausted st = true := by
  rw [Code.exhausted, Option.any_eq_true] at hexhausted ⊢
  obtain ⟨l', hl', hle⟩ := hexhausted
  obtain ⟨l, hl, hll'⟩ := h.limit_le l' hl'
  rw [decide_eq_true_eq] at hle
  exact ⟨l, hl, decide_eq_true (Nat.le_trans hll' hle)⟩

/-- On the same store the two codes go the same way until the lower limit is reached. -/
theorem Loosens.simulates {c c' : Code} (h : Loosens c c') : Simulates c c' True (· = ·) where
  funcs_eq := h.funcs_eq
  maxMemory_eq := h.maxMemory_eq
  contents_eq := by
    rintro st _ rfl
    rfl
  put := by
    rintro st _ k rfl
    rfl
  spend := by
    rintro st _ n rfl
    rfl
  settle := by
    rintro st _ rfl
    rfl
  afterHalt := by
    rintro st _ cause rfl
    rfl
  exhausted := by
    rintro st _ rfl
    cases hlower : c.exhausted st with
    | true => exact .inr ⟨trivial, rfl⟩
    | false =>
      refine .inl (Bool.eq_false_iff.2 fun hhigher => ?_)
      rw [h.exhausted hhigher] at hlower
      cases hlower

/-- A call from outside that does not run out of fuel is the same call under a higher limit. -/
theorem call_of_loosens {c c' : Code} (h : Loosens c c') (f : Nat) (args : List Val) (st : Store) :
    (call c f args st).RanOut ∨ call c' f args st = call c f args st := by
  have hfollows := h.simulates.call f args (rfl : st = st)
  generalize call c f args st = r, call c' f args st = r' at hfollows
  cases hfollows with
  | early => exact .inl ⟨_, rfl⟩
  | same hsame =>
    cases hsame with
    | values hstore => exact .inr (by rw [hstore])
    | halt hstore => exact .inr (by rw [hstore])

/-- The limits of a module's code may be compared instead of the code. -/
theorem loosens_ofModule (m : Module) {limit limit' : Option Nat} (maxMemory : Nat)
    (hle : ∀ l', limit' = some l' → ∃ l, limit = some l ∧ l ≤ l') :
    Loosens (.ofModule m limit maxMemory) (.ofModule m limit' maxMemory) :=
  ⟨rfl, rfl, hle⟩

/-- An instantiation whose start function does not run out of fuel is the same under a higher
limit. -/
theorem instantiate_of_loosens (m : Module) {limit limit' : Option Nat} (maxMemory : Nat)
    (hle : ∀ l', limit' = some l' → ∃ l, limit = some l ∧ l ≤ l') :
    instantiate m limit maxMemory = .error (.halt (.trap .outOfFuel)) ∨
      instantiate m limit' maxMemory = instantiate m limit maxMemory := by
  have hcall (f : Nat) (st : Store) :=
    call_of_loosens (loosens_ofModule m maxMemory hle) f [] st
  simp only [instantiate, bind, Except.bind]
  cases initialStore m maxMemory with
  | error e => exact .inr rfl
  | ok store =>
    simp only
    cases m.elems.foldlM (fun store e => copyElems e store) store with
    | error e => exact .inr rfl
    | ok store =>
      simp only
      cases m.datas.foldlM (fun store d => copyData d store) store with
      | error e => exact .inr rfl
      | ok store =>
        simp only
        cases m.start with
        | none => exact .inr rfl
        | some f =>
          simp only
          rcases hcall f store with ⟨st, hran⟩ | hsame
          · rw [hran]
            exact .inl rfl
          · rw [hsame]
            exact .inr rfl

end WasmGuest.Machine
