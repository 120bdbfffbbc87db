import WasmGuest.Proofs.Guest.Custody
import WasmGuest.Proofs.Instance.Preflight
import WasmGuest.Proofs.Instance.Trace
import WasmGuest.Proofs.Machine.Checks

/-!
# How it is told that fuel has run out

Before an invocation has a result guest code runs in two places: in `alloc`, once
for each list argument, and in the export.  Fuel may run out in both, anywhere
inside of what they call.  The host tells the two apart: the export that runs out is
reported as such, and an `alloc` that runs out as an allocation that failed.

* `Guest.Passing.looks` are the stores at which copying a list looks at the limit.
* `Guest.copy_outOfFuel_iff`, `exchange_outOfFuel_iff` and `exchange_alloc_iff`
  follow an end for want of fuel from the call of the machine to the exchange.
* `Instance.invoke_eq_error_iff` carries an error of the exchange to the
  invocation: nothing in between makes another error of it, or this one of another.
* `Instance.reports_exhaustion` is what this comes to.
-/

namespace WasmGuest

open Wasm (FuncType Module)
open Machine (Code Store Halt callTrace checksOf)
open Guest (Passing)

/-! ## From the machine to the exchange -/

namespace Guest

/-- The stores at which copying a list looks at the limit; a list that is too long is not copied. -/
def Passing.looks (c : Code) (g : Guest) (w : Passing) : List Store :=
  checksOf (g.copyTrace c w)

variable {c : Code} {g : Guest}

/-- The host does not look at the limit itself. -/
theorem Passing.looks_eq {w : Passing} (hshort : ¬ int32Max < (w.items.length * itemSize : Nat)) :
    w.looks c g = checksOf (callTrace c g.alloc [.i32 (bytesAsked w.items).toUInt32] w.before) := by
  rw [looks, copyTrace, if_neg hshort, Machine.checksOf_append]
  exact List.append_nil _

/-- Copying a list fails for want of fuel if and only if `alloc` runs out of it. -/
theorem copy_outOfFuel_iff {w : Passing} {size : Int32} :
    (w.copy c g).result = .error (.alloc size (.trap .outOfFuel)) ↔
      bytesAsked w.items = size ∧ ∃ st ∈ w.looks c g, c.exhausted st = true := by
  have hran := Machine.call_ranOut_iff c g.alloc [.i32 (bytesAsked w.items).toUInt32] w.before
  have hcopies := copies_writeList c g w.items w.before
  rw [Passing.copy]
  generalize g.writeList c w.items w.before = copy at hcopies ⊢
  cases hcopies with
  | tooLong hlong =>
    rw [Passing.looks, copyTrace, if_pos hlong, Machine.checksOf_nil]
    simp
  | halts hshort hcall =>
    rw [allocate] at hcall
    rw [hcall, Machine.CallResult.ranOut_halt_iff] at hran
    rw [Passing.looks_eq hshort, ← hran]
    simp
  | illTyped hshort hcall | negative hshort hcall | outside hshort hcall | fills hshort hcall =>
    rw [allocate] at hcall
    rw [hcall] at hran
    rw [Passing.looks_eq hshort, ← hran]
    simp [Machine.CallResult.RanOut]

end Guest

section Exchange

variable {c : Code} {guest : Option Guest} {f : Nat} {i : Invocation} {store : Store}

theorem ne_alloc_of_readList {g : Guest} {b : Block} {e : GuestError}
    (h : g.readList store b = .error e) (size : Int32) (cause : Halt) : e ≠ .alloc size cause := by
  revert h
  fun_cases Guest.readList g store b <;> rintro ⟨⟩ <;> simp

/-- Passing arguments fails only in guest memory. -/
theorem exists_guestError_of_passArgs {vs : List Value} {e : CallError}
    (h : (passArgs c guest vs store).result = .error e) : ∃ e', e = .guest e' := by
  cases guest with
  | none => simp [Guest.passArgs_none] at h
  | some g =>
    obtain ⟨w, -, e', -, he⟩ := Guest.passArgs_eq_error_iff.1 h
    exact ⟨e', he⟩

theorem ofHalt_eq_outOfFuel_iff {h : Halt} :
    CallError.ofHalt h = .outOfFuel ↔ h = .trap .outOfFuel := by
  fun_cases CallError.ofHalt h <;> simp_all

theorem ofHalt_ne_guest {h : Halt} {e : GuestError} : CallError.ofHalt h ≠ .guest e := by
  fun_cases CallError.ofHalt h <;> simp

/-- An exchange is out of fuel if and only if its export is called and runs out of it. -/
theorem exchange_outOfFuel_iff :
    (exchange c guest f i store).result = .error .outOfFuel ↔
      ∃ params, (passArgs c guest i.args store).result = .ok params ∧
        ∃ st ∈ checksOf (callTrace c f params (passArgs c guest i.args store).store),
          c.exhausted st = true := by
  have hexchanged := exchanged_exchange c guest f i store
  generalize exchange c guest f i store = done at hexchanged ⊢
  cases hexchanged with
  | refused hpassed =>
    obtain ⟨e', rfl⟩ := exists_guestError_of_passArgs hpassed
    simp [hpassed]
  | @halts params h after hpassed hcall =>
    have hran := Machine.call_ranOut_iff c f params (passArgs c guest i.args store).store
    rw [hcall, Machine.CallResult.ranOut_halt_iff] at hran
    simp [hpassed, ofHalt_eq_outOfFuel_iff, hran]
  | @unreadable params _ _ _ hpassed hcall | @returns params _ _ _ _ hpassed hcall =>
    have hran := Machine.call_ranOut_iff c f params (passArgs c guest i.args store).store
    rw [hcall] at hran
    simp [hpassed, ← hran, Machine.CallResult.RanOut]

/-- An allocation that fails in an exchange failed while the arguments were passed. -/
theorem exchange_alloc_iff {size : Int32} {cause : Halt} :
    (exchange c guest f i store).result = .error (.guest (.alloc size cause)) ↔
      (passArgs c guest i.args store).result = .error (.guest (.alloc size cause)) := by
  have hexchanged := exchanged_exchange c guest f i store
  generalize exchange c guest f i store = done at hexchanged ⊢
  cases hexchanged with
  | refused hpassed => simp [hpassed]
  | halts hpassed => simp [hpassed, ofHalt_ne_guest]
  | unreadable hpassed _ hlift =>
    obtain ⟨g, b, hread⟩ := exists_readList_eq_error hlift
    have hother := ne_alloc_of_readList hread size cause
    simpa [hpassed] using hother
  | returns hpassed => simp [hpassed]

end Exchange

/-! ## From the exchange to the invocation -/

namespace Instance

variable {a : Instance} {i : Invocation}

/-- What is reported if the arguments or the results do not suit a function is an error of the
checks. -/
theorem isRejection_of_check {type : FuncType} {e : CallError} (h : check i type = .error e) :
    e.isRejection = true := by
  have hcompared := compared_checkParams i.args type.params
  rw [check] at h
  generalize checkParams i.args type.params = compared at hcompared h
  cases hcompared with
  | arity | type =>
    cases h
    rfl
  | fits =>
    simp only [checkResults] at h
    split at h
    · cases h
    · cases h
      rfl

theorem isMissing_resolve {m : Module} {e : GuestError} (h : Guest.resolve m = .error e) :
    e.isMissing = true := by
  revert h
  fun_cases Guest.resolve m <;> rintro ⟨⟩ <;> rfl

/-- An invocation that is turned away fails with an error of the checks. -/
theorem isRejection_of_not_reaches (h : ∀ f guest, ¬ a.Reaches i f guest) :
    ∃ e, (a.invoke i).result = .error e ∧ e.isRejection = true := by
  have hstarts := a.starts i
  obtain ⟨prepared, store⟩ := a
  cases hstarts with
  | notFound hfunction => exact ⟨.exportNotFound i.target, by simp only [invoke, hfunction], rfl⟩
  | @unsuited _ _ e hfunction hcheck =>
    exact ⟨.invocation i.target e, by simp only [invoke, hfunction, hcheck],
      isRejection_of_check hcheck⟩
  | @lacking _ _ e hfunction hcheck hmemory hresolve =>
    refine ⟨.invocation i.target (.guest e), ?_, isMissing_resolve hresolve⟩
    simp only [invoke, hfunction, hcheck, call, hmemory, if_true, hresolve]
    rfl
  | reaches hreaches => exact absurd hreaches (h _ _)

/-- Behind the checks the error of an invocation is that of its exchange, or one of a release. -/
theorem Reaches.invoke_eq_error_iff {f : Nat} {guest : Option Guest} {e : CallError}
    (h : a.Reaches i f guest) (hfree : ∀ ptr cause, e ≠ .guest (.free ptr cause)) :
    (a.invoke i).result = .error (.invocation i.target e) ↔
      (exchange a.prepared.code guest f i a.store.refuel).result = .error e := by
  have hmapped (r : Except CallError Outcome) :
      r.mapError (Error.invocation i.target) = .error (.invocation i.target e) ↔ r = .error e := by
    cases r <;> simp [Except.mapError]
  cases guest with
  | none => rw [(Bypasses.invoke_eq h).1, hmapped]
  | some g =>
    rw [(Exchanges.invoke_eq h).1, hmapped]
    cases hdone : (exchange a.prepared.code (some g) f i a.store.refuel).result with
    | error e' => rw [callWithMemory_of_error hdone]
    | ok outcome =>
      rcases callWithMemory_of_ok hdone with hok | ⟨ptr, cause, hfailed⟩
      · simp [hok]
      · simp [hfailed, (hfree ptr cause).symm]

/-- An error that is neither one of the checks nor one of a release is that of the exchange. -/
theorem invoke_eq_error_iff {e : CallError} (hchecks : e.isRejection = false)
    (hfree : ∀ ptr cause, e ≠ .guest (.free ptr cause)) :
    (a.invoke i).result = .error (.invocation i.target e) ↔ ∃ f guest, a.Reaches i f guest ∧
      (exchange a.prepared.code guest f i a.store.refuel).result = .error e := by
  constructor
  · intro herror
    by_cases hreaches : ∃ f guest, a.Reaches i f guest
    · obtain ⟨f, guest, h⟩ := hreaches
      exact ⟨f, guest, h, (h.invoke_eq_error_iff hfree).1 herror⟩
    · have hnone (f : Nat) (guest : Option Guest) (h : a.Reaches i f guest) : False :=
        hreaches ⟨f, guest, h⟩
      obtain ⟨e', he', hrejection⟩ := isRejection_of_not_reaches hnone
      rw [herror] at he'
      cases he'
      rw [Error.isRejection, hchecks] at hrejection
      cases hrejection
  · rintro ⟨f, guest, h, hdone⟩
    exact (h.invoke_eq_error_iff hfree).2 hdone

/-! ## What is reported -/

/-- `alloc` runs out of fuel when it is called for a list argument. -/
def AllocRunsOut (a : Instance) (i : Invocation) (w : Passing) : Prop :=
  ∃ f g, a.Exchanges i f g ∧ w ∈ a.passings i g ∧
    ∃ st ∈ w.looks a.prepared.code g, a.prepared.code.exhausted st = true

/-- The export is called and runs out of fuel. -/
def ExportRunsOut (a : Instance) (i : Invocation) : Prop :=
  ∃ guest f params st, a.Enters i guest f params st ∧
    ∃ st' ∈ checksOf (callTrace a.prepared.code f params st),
      a.prepared.code.exhausted st' = true

/-- How an invocation tells that fuel has run out before there is a result. -/
structure ReportsExhaustion (a : Instance) (i : Invocation) : Prop where
  /-- The error `outOfFuel` says that the export ran out of it, and is always said then. -/
  inExport : a.ExportRunsOut i ↔ (a.invoke i).result = .error (.invocation i.target .outOfFuel)
  /-- An `alloc` that runs out is an allocation that failed, of as many bytes as were asked for. -/
  inAlloc : ∀ size, (∃ w, a.AllocRunsOut i w ∧ Guest.bytesAsked w.items = size) ↔
    (a.invoke i).result =
      .error (.invocation i.target (.guest (.alloc size (.trap .outOfFuel))))
  /-- So whatever runs out is reported as `outOfFuel` if and only if no `alloc` runs out. -/
  asSuch_iff : ((∃ w, a.AllocRunsOut i w) ∨ a.ExportRunsOut i →
      (a.invoke i).result = .error (.invocation i.target .outOfFuel)) ↔
    ∀ w, ¬ a.AllocRunsOut i w

theorem exportRunsOut_iff : a.ExportRunsOut i ↔
    (a.invoke i).result = .error (.invocation i.target .outOfFuel) := by
  rw [invoke_eq_error_iff rfl (by simp)]
  simp only [exchange_outOfFuel_iff]
  constructor
  · rintro ⟨guest, f, params, st, ⟨hreaches, hpassed, rfl⟩, hlooks⟩
    exact ⟨f, guest, hreaches, params, hpassed, hlooks⟩
  · rintro ⟨f, guest, hreaches, params, hpassed, hlooks⟩
    exact ⟨guest, f, params, _, ⟨hreaches, hpassed, rfl⟩, hlooks⟩

theorem allocRunsOut_iff (size : Int32) :
    (∃ w, a.AllocRunsOut i w ∧ Guest.bytesAsked w.items = size) ↔ (a.invoke i).result =
      .error (.invocation i.target (.guest (.alloc size (.trap .outOfFuel)))) := by
  rw [invoke_eq_error_iff rfl (by simp)]
  simp only [exchange_alloc_iff]
  constructor
  · rintro ⟨w, ⟨f, g, hexchanges, hw, hlooks⟩, hsize⟩
    have hcopy := Guest.copy_outOfFuel_iff.2 ⟨hsize, hlooks⟩
    exact ⟨f, some g, hexchanges, Guest.passArgs_eq_error_iff.2 ⟨w, hw, _, hcopy, rfl⟩⟩
  · rintro ⟨f, guest, hreaches, hpassed⟩
    cases guest with
    | none => simp [Guest.passArgs_none] at hpassed
    | some g =>
      obtain ⟨w, hw, e, hcopy, he⟩ := Guest.passArgs_eq_error_iff.1 hpassed
      cases he
      obtain ⟨hsize, hlooks⟩ := Guest.copy_outOfFuel_iff.1 hcopy
      exact ⟨w, ⟨f, g, hreaches, hw, hlooks⟩, hsize⟩

/-- Fuel that runs out in the export is reported as `outOfFuel`, and fuel that runs out in `alloc`
as an allocation that failed. -/
theorem reports_exhaustion (a : Instance) (i : Invocation) : a.ReportsExhaustion i where
  inExport := exportRunsOut_iff
  inAlloc := allocRunsOut_iff
  asSuch_iff := by
    constructor
    · intro hsuch w hw
      have hout := hsuch (.inl ⟨w, hw⟩)
      have halloc := (allocRunsOut_iff _).1 ⟨w, hw, rfl⟩
      rw [hout] at halloc
      cases halloc
    · rintro hnone (⟨w, hw⟩ | hexport)
      · exact absurd hw (hnone w)
      · exact exportRunsOut_iff.1 hexport

end Instance

/-- With seven units the second list finds no more fuel to be copied with, and the invocation says
that an allocation of eight bytes failed. -/
theorem spent_before_second_list_clerk :
    (clerk (some 7)).Reachable ∧ (∃ w, (clerk (some 7)).AllocRunsOut lengthsCall w) ∧
      ((clerk (some 7)).invoke lengthsCall).result =
        .error (.invocation "lengths" (.guest (.alloc 8 (.trap .outOfFuel)))) ∧
      ((clerk (some 7)).invoke lengthsCall).result ≠ .error (.invocation "lengths" .outOfFuel) := by
  have hresult : ((clerk (some 7)).invoke lengthsCall).result =
      .error (.invocation "lengths" (.guest (.alloc 8 (.trap .outOfFuel)))) := by rfl
  obtain ⟨w, hw, -⟩ := (Instance.allocRunsOut_iff 8).2 hresult
  refine ⟨reachable_clerk (some 7) [], ⟨w, hw⟩, hresult, ?_⟩
  simp [hresult]

end WasmGuest
