import WasmGuest.Proofs.Guest.Calls
import WasmGuest.Proofs.Machine.Contents
import WasmGuest.Proofs.Wasm.Exports

/-!
# Sessions

A session makes invocations on one instance, one after the other, whatever comes
of each.  Its instance stays prepared as it was; what one invocation leaves to the
next are the contents of the store.

* `Instance.session`, `Instance.afterAll`: the replies, and the instance behind them.
* `Instance.Reachable`: an instance that some session on a module leads to.
* `Instance.invoke_of_sameContents`: an invocation that gets past its checks
  starts by refuelling, so it is the same on stores of the same contents.
-/

namespace WasmGuest

open Machine (SameContents Store)

/-- The replies to invocations made one after the other on one instance. -/
def Instance.session (a : Instance) : List Invocation → List Reply
  | [] => []
  | i :: is => a.invoke i :: (a.invoke i).after.session is

/-- The instance after invocations, whatever came of them. -/
def Instance.afterAll (a : Instance) (is : List Invocation) : Instance :=
  is.foldl (fun a i => (a.invoke i).after) a

theorem Instance.afterAll_cons (a : Instance) (i : Invocation) (is : List Invocation) :
    a.afterAll (i :: is) = (a.invoke i).after.afterAll is := rfl

theorem Instance.prepared_afterAll (a : Instance) (is : List Invocation) :
    (a.afterAll is).prepared = a.prepared := by
  induction is generalizing a with
  | nil => rfl
  | cons i is ih => exact (ih (a.invoke i).after).trans (a.prepared_after i)

/-- An invocation leaves a store to the instance that it is on. -/
theorem Instance.after_invoke (p : Prepared) (st : Store) (i : Invocation) :
    (Instance.invoke ⟨p, st⟩ i).after = ⟨p, (Instance.invoke ⟨p, st⟩ i).after.store⟩ :=
  congrArg (Instance.mk · (Instance.invoke ⟨p, st⟩ i).after.store)
    (Instance.prepared_after ⟨p, st⟩ i)

/-! ## Instances of valid modules -/

/-- An instance is prepared as it was instantiated. -/
theorem Prepared.prepared_of_instantiate {p : Prepared} {a : Instance}
    (h : p.instantiate = .ok a) : a.prepared = p := by
  rw [instantiate] at h
  split at h
  · cases h
  · split at h
    · cases h
      rfl
    · cases h

/-- A module that is prepared from an image is valid. -/
theorem Prepared.validate_of_ofImage {config : Config} {image : Image} {p : Prepared}
    (h : ofImage config image = .ok p) : p.module.validate = .ok () := by
  rw [ofImage] at h
  split at h
  · next m hcompile =>
    cases h
    rw [Wasm.Module.compile] at hcompile
    obtain ⟨m', -, hcompile⟩ := Wasm.exists_of_bind_eq_ok hcompile
    obtain ⟨_, hvalid, hm⟩ := Wasm.exists_of_bind_eq_ok hcompile
    cases hm
    exact hvalid
  · cases h

/-- An instance that is come by: a module is prepared from an image and instantiated, and
invocations are made on the instance. -/
def Instance.Reachable (a : Instance) : Prop :=
  ∃ config image p fresh is, Prepared.ofImage config image = .ok p ∧
    p.instantiate = .ok fresh ∧ fresh.afterAll is = a

theorem Instance.Reachable.validate {a : Instance} (h : a.Reachable) :
    a.prepared.module.validate = .ok () := by
  obtain ⟨config, image, p, fresh, is, himage, hfresh, rfl⟩ := h
  rw [fresh.prepared_afterAll, Prepared.prepared_of_instantiate hfresh]
  exact Prepared.validate_of_ofImage himage

/-! ## Invocations on the same contents -/

/-- A reply as it is on another store of the same contents: no more than the fuel left differs. -/
structure Reply.SameButFuel (r r' : Reply) : Prop where
  result_eq : r'.result = r.result
  calls_eq : r'.calls = r.calls
  reports_eq : r'.reports = r.reports
  prepared_eq : r'.after.prepared = r.after.prepared
  contents : SameContents r.after.store r'.after.store

theorem Reply.SameButFuel.refl (r : Reply) : r.SameButFuel r :=
  ⟨rfl, rfl, rfl, rfl, .refl _⟩

/-- The checks do not look at the store, and everything behind them begins by refuelling it. -/
theorem Instance.invoke_of_sameContents (p : Prepared) {st st' : Store} (h : SameContents st st')
    (i : Invocation) :
    ((Instance.invoke ⟨p, st⟩ i).SameButFuel (Instance.invoke ⟨p, st'⟩ i)) ∧
      ((∃ f type, Guest.function? p.module i.target = some (f, type) ∧
        Instance.check i type = .ok ()) →
        Instance.invoke ⟨p, st'⟩ i = Instance.invoke ⟨p, st⟩ i) := by
  have hrefuel := Machine.sameContents_iff_refuel.1 h
  cases hfunction : Guest.function? p.module i.target with
  | none =>
    simp only [Instance.invoke, hfunction]
    refine ⟨⟨rfl, rfl, rfl, rfl, h⟩, ?_⟩
    rintro ⟨_, _, hfound, _⟩
    cases hfound
  | some found =>
    obtain ⟨f, type⟩ := found
    cases hcheck : Instance.check i type with
    | error e =>
      simp only [Instance.invoke, hfunction, hcheck]
      refine ⟨⟨rfl, rfl, rfl, rfl, h⟩, ?_⟩
      rintro ⟨_, _, ⟨⟩, hok⟩
      rw [hcheck] at hok
      cases hok
    | ok _ =>
      have hsame : Instance.invoke ⟨p, st'⟩ i = Instance.invoke ⟨p, st⟩ i := by
        simp only [Instance.invoke, hfunction, hcheck, Instance.call, hrefuel]
      exact ⟨hsame ▸ .refl _, fun _ => hsame⟩

end WasmGuest
