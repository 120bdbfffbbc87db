import WasmGuest.Proofs.Instance.Exhaustion
import WasmGuest.Proofs.Instance.Metering
import WasmGuest.Proofs.Instance.Typing

/-!
# Invocations that end

A call of the machine has come to an end of its own if it returned or trapped, and
not because fuel ran out or because a loop was still turning.  An invocation has
done so if its export has, and if what the host calls besides did not run out of
fuel.

* `CallResult.Ends`, `Instance.Ends`: the two notions.  `CallResult.EndsWithin`
  bounds what was spent as well.
* `Instance.ends_of_scalars`: without a list among the arguments the export is
  called on them as they are, and the other calls are releases.
-/

namespace WasmGuest

open Wasm (FuncType Val)
open Machine (CallResult Store Trap)

/-! ## Calls -/

namespace Machine.CallResult

/-- The call returned, or it trapped for another reason than fuel. -/
inductive Ends : CallResult → Prop where
  | returns (vs : List Val) (st : Store) : Ends (.values vs st)
  | traps {t : Trap} (ht : t ≠ .outOfFuel) (st : Store) : Ends (.halt (.trap t) st)

/-- The call ended, and if it returned no more was spent than this. -/
inductive EndsWithin (most : Nat) : CallResult → Prop where
  | returns {vs : List Val} {st : Store} (hspent : st.spent ≤ most) :
      EndsWithin most (.values vs st)
  | traps {t : Trap} (ht : t ≠ .outOfFuel) (st : Store) : EndsWithin most (.halt (.trap t) st)

variable {r : CallResult}

theorem EndsWithin.ends {most : Nat} (h : r.EndsWithin most) : r.Ends := by
  cases h with
  | returns => exact .returns _ _
  | traps ht => exact .traps ht _

theorem Ends.not_ranOut (h : r.Ends) : ¬ r.RanOut := by
  rintro ⟨st, rfl⟩
  cases h with
  | traps ht => exact ht rfl

end Machine.CallResult

/-! ## Invocations -/

namespace Instance

/-- Unless its checks turn it away the invocation calls its export, and that call ends.  It does not
run out of fuel, in the export or in what the host calls besides. -/
structure Ends (a : Instance) (i : Invocation) : Prop where
  enters : (∃ e, (a.invoke i).result = .error e ∧ e.isRejection = true) ∨
    ∃ guest f params st, a.Enters i guest f params st
  call_ends : ∀ guest f params st, a.Enters i guest f params st →
    (Machine.call a.prepared.code f params st).Ends
  result_ne : (a.invoke i).result ≠ .error (.invocation i.target .outOfFuel)
  not_ranOut : ∀ x ∈ (a.invoke i).calls, ¬ x.RanOut

variable {a : Instance} {i : Invocation} {f : Nat}

/-- Without guest memory the export is the only call. -/
theorem Bypasses.eq_export (h : a.Bypasses i f) {x : HostCall} (hx : x ∈ (a.invoke i).calls) :
    ∃ params, x = .export params := by
  rw [h.invoke_eq.2.2, calls_exchange, Guest.passArgs_none] at hx
  exact ⟨_, List.mem_singleton.1 hx⟩

/-- Without a list among the arguments the calls besides the export release what it returned. -/
theorem Exchanges.eq_export_or_releases {g : Guest} (h : a.Exchanges i f g)
    (hscalars : i.args.any Value.isList = false) {x : HostCall} (hx : x ∈ (a.invoke i).calls) :
    (∃ params, x = .export params) ∨ ∃ results after value blocks,
      Machine.call a.prepared.code f (i.args.flatMap (·.lower?.toList)) a.store.refuel =
        .values results after ∧
      liftResults (some g) i.returns after results = .ok (value, blocks) ∧
      x ∈ (g.releaseAll a.prepared.code blocks after).calls := by
  have hpassed := @Guest.passArgs_of_scalars a.prepared.code i.args a.store.refuel (some g) hscalars
  have hexchanged := exchanged_exchange a.prepared.code (some g) f i a.store.refuel
  rw [h.invoke_eq.2.2, callWithMemory] at hx
  generalize exchange a.prepared.code (some g) f i a.store.refuel = done at hexchanged hx
  cases hexchanged with
  | refused hrefused =>
    rw [hpassed] at hrefused
    cases hrefused
  | halts | unreadable =>
    rw [hpassed] at hx
    exact .inl ⟨_, List.mem_singleton.1 hx⟩
  | returns hok hcall hlift =>
    rw [hpassed] at hok hcall hx
    cases hok
    rcases List.mem_append.1 hx with hexport | hreleased
    · exact .inl ⟨_, List.mem_singleton.1 hexport⟩
    · exact .inr ⟨_, _, _, _, hcall, hlift, hreleased⟩

/-- Of what is called on scalars only the releases can run out of fuel besides the export. -/
theorem Reaches.not_ranOut {guest : Option Guest} (h : a.Reaches i f guest)
    (hscalars : i.args.any Value.isList = false)
    (hreleases : ∀ g, a.Exchanges i f g → ∀ results after value blocks,
      Machine.call a.prepared.code f (i.args.flatMap (·.lower?.toList)) a.store.refuel =
        .values results after →
      liftResults (some g) i.returns after results = .ok (value, blocks) →
      ∀ x ∈ (g.releaseAll a.prepared.code blocks after).calls, ¬ x.RanOut) :
    ∀ x ∈ (a.invoke i).calls, ¬ x.RanOut := by
  intro x hx
  cases guest with
  | none =>
    obtain ⟨params, rfl⟩ := Bypasses.eq_export h hx
    rintro ⟨⟩
  | some g =>
    rcases Exchanges.eq_export_or_releases h hscalars hx with
      ⟨params, rfl⟩ | ⟨_, _, _, _, hreturned, hlift, hreleased⟩
    · rintro ⟨⟩
    · exact hreleases g h _ _ _ _ hreturned hlift x hreleased

/-- Scalars are passed as they are, before anything is called. -/
theorem Reaches.enters {guest : Option Guest} (h : a.Reaches i f guest)
    (hscalars : i.args.any Value.isList = false) :
    a.Enters i guest f (i.args.flatMap (·.lower?.toList)) a.store.refuel := by
  have hpassed := @Guest.passArgs_of_scalars a.prepared.code i.args a.store.refuel guest hscalars
  exact ⟨h, by rw [hpassed], by rw [hpassed]⟩

theorem Enters.eq_of_scalars {guest : Option Guest} {params : List Val} {st : Store}
    (h : a.Enters i guest f params st) (hscalars : i.args.any Value.isList = false) :
    params = i.args.flatMap (·.lower?.toList) ∧ st = a.store.refuel := by
  obtain ⟨-, hpassed, rfl⟩ := h
  rw [Guest.passArgs_of_scalars guest hscalars] at hpassed ⊢
  cases hpassed
  exact ⟨rfl, rfl⟩

/-- Without a list among the arguments an invocation ends if its export does on them, and if then the
releases do not run out of fuel. -/
theorem ends_of_scalars {type : FuncType} (hscalars : i.args.any Value.isList = false)
    (hfunction : Guest.function? a.prepared.module i.target = some (f, type))
    (hcall : (Machine.call a.prepared.code f (i.args.flatMap (·.lower?.toList))
      a.store.refuel).Ends)
    (hreleases : ∀ g, a.Exchanges i f g → ∀ results after value blocks,
      Machine.call a.prepared.code f (i.args.flatMap (·.lower?.toList)) a.store.refuel =
        .values results after →
      liftResults (some g) i.returns after results = .ok (value, blocks) →
      ∀ x ∈ (g.releaseAll a.prepared.code blocks after).calls, ¬ x.RanOut) : a.Ends i := by
  have hfound {f' : Nat} {guest : Option Guest} (hreaches : a.Reaches i f' guest) : f' = f := by
    obtain ⟨_, hfunction', -⟩ := hreaches.checked
    cases hfunction.symm.trans hfunction'
    rfl
  have hends : ∀ guest f' params st, a.Enters i guest f' params st →
      (Machine.call a.prepared.code f' params st).Ends := by
    intro guest f' params st henters
    obtain rfl := hfound henters.reaches
    obtain ⟨rfl, rfl⟩ := henters.eq_of_scalars hscalars
    exact hcall
  constructor
  case enters =>
    by_cases hreaches : ∃ f guest, a.Reaches i f guest
    · obtain ⟨f', guest, hreaches⟩ := hreaches
      exact .inr ⟨guest, f', _, _, hreaches.enters hscalars⟩
    · exact .inl (isRejection_of_not_reaches fun f guest h => hreaches ⟨f, guest, h⟩)
  case call_ends => exact hends
  case result_ne =>
    intro hresult
    obtain ⟨guest, f', params, st, henters, hlooks⟩ := exportRunsOut_iff.2 hresult
    have hran := (Machine.call_ranOut_iff _ _ _ _).2 hlooks
    exact (hends guest f' params st henters).not_ranOut hran
  case not_ranOut =>
    rcases a.reaches_or_rejects i with ⟨f', guest, hreaches⟩ | ⟨-, hnone, -⟩
    · obtain rfl := hfound hreaches
      exact hreaches.not_ranOut hscalars hreleases
    · rw [hnone]
      exact fun x hx => absurd hx List.not_mem_nil

end Instance

end WasmGuest
