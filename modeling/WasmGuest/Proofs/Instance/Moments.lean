import WasmGuest.Proofs.Instance.Trace
import WasmGuest.Proofs.Machine.Moments

/-!
# The moments of a session

A session instantiates a module and makes invocations.  The stores that it passes
through are listed in order: those between the steps of the host, and those inside
the guest code that the host calls.

* `Instance.moments`, `Instance.momentsAfter`: those among the events of one invocation,
  whatever comes of it, and of any number.
* `Machine.instantiateMoments`, `Prepared.moments`: instantiation, and a whole
  session; `Prepared.store_mem_moments` says that the stores behind the invocations
  are among them.
* `Lasts`: a relation that everything keeps which changes a store in a session.
  `Lasts.ordered_moments` is one invocation, `Lasts.ordered_momentsAfter` the
  induction over the invocations, `Lasts.leads_instantiateMoments` instantiation as
  far as it gets; `Prepared.ordered_moments` puts them together.
-/

namespace WasmGuest

open Wasm (Val Module)
open Machine (Code Keeps Ordered Store StartFault callTrace momentsOf)

/-! ## Sessions -/

/-- The stores between the one before an invocation and the one behind it. -/
def Instance.moments (a : Instance) (i : Invocation) : List Store :=
  momentsOf (a.trace i)

theorem Instance.Bypasses.moments_eq {a : Instance} {i : Invocation} {f : Nat}
    (h : a.Bypasses i f) :
    a.moments i = a.store.refuel ::
      momentsOf (exchangeTrace a.prepared.code none f i a.store.refuel) := by
  rw [moments, h.trace_eq, Machine.momentsOf_passes]

theorem Instance.Exchanges.moments_eq {a : Instance} {i : Invocation} {f : Nat} {guest : Guest}
    (h : a.Exchanges i f guest) :
    a.moments i = a.store.refuel ::
      momentsOf (memoryTrace a.prepared.code guest f i a.store.refuel) := by
  rw [moments, h.trace_eq, Machine.momentsOf_passes]

/-- The stores behind the first in a session on an instance. -/
def Instance.momentsAfter (a : Instance) (is : List Invocation) : List Store :=
  momentsOf (a.traceAfter is)

theorem Instance.momentsAfter_cons (a : Instance) (i : Invocation) (is : List Invocation) :
    a.momentsAfter (i :: is) =
      a.moments i ++ (a.invoke i).after.store :: (a.invoke i).after.momentsAfter is := by
  rw [momentsAfter, traceAfter, Machine.momentsOf_append, Machine.momentsOf_passes, moments,
    momentsAfter]

namespace Machine

/-- The stores behind a step of instantiation, if it succeeds. -/
def onward (step : Except StartFault Store) (rest : Store → List Store) : List Store :=
  match step with
  | .error _ => []
  | .ok store => rest store

/-- The stores behind each segment that is copied. -/
def fillMoments {α : Type} (copy : Store → α → Except StartFault Store) :
    List α → Store → List Store
  | [], _ => []
  | x :: xs, store => onward (copy store x) fun store => store :: fillMoments copy xs store

/-- The stores while the start function runs. -/
def startMoments (c : Code) (start : Option Nat) (store : Store) : List Store :=
  match start with
  | none => []
  | some f => momentsOf (callTrace c f [] store) ++ [(call c f [] store).store]

/-- The stores of a module behind the one before its segments are copied. -/
def instantiateMoments (m : Module) (limit : Option Nat) (maxMemory : Nat) (store : Store) :
    List Store :=
  fillMoments (fun store e => copyElems e store) m.elems store ++
    onward (m.elems.foldlM (fun store e => copyElems e store) store) fun store =>
      fillMoments (fun store d => copyData d store) m.datas store ++
        onward (m.datas.foldlM (fun store d => copyData d store) store) fun store =>
          startMoments (.ofModule m limit maxMemory) m.start store

end Machine

/-- The stores of a session, from the one that memory is created with to the one behind the last
invocation. -/
def Prepared.moments (p : Prepared) (is : List Invocation) : List Store :=
  match p.imports with
  | _ :: _ => []
  | [] =>
    Machine.onward (Machine.initialStore p.module p.config.maxMemory.toNat) fun store =>
      store :: Machine.instantiateMoments p.module p.config.limit p.config.maxMemory.toNat store ++
        match p.instantiate with
        | .error _ => []
        | .ok a => a.momentsAfter is

/-! ## Relations that hold all through an invocation -/

namespace Machine

/-- A relation that holds across everything that changes the store in a session. -/
structure Lasts (c : Code) (R : Store → Store → Prop) : Prop extends Keeps c R where
  refuel : ∀ st, R st st.refuel

section Steps

variable {c : Code} {R : Store → Store → Prop} {g : Guest}

/-- Behind its call to `alloc` the host only writes inside the memory. -/
theorem store_writeList {xs : List Int32} (store : Store)
    (hshort : ¬ int32Max < (xs.length * itemSize : Nat)) :
    (g.writeList c xs store).store = (g.allocate c xs store).store ∨
      ∃ i bs, i + bs.length ≤ (g.allocate c xs store).store.memorySize g.memory ∧
        (g.writeList c xs store).store = (g.allocate c xs store).store.write g.memory i bs := by
  have hcopies := Guest.copies_writeList c g xs store
  generalize g.writeList c xs store = copy at hcopies ⊢
  cases hcopies with
  | tooLong hlong => exact absurd hlong hshort
  | halts _ hcall => rw [hcall]; exact .inl rfl
  | illTyped _ hcall => rw [hcall]; exact .inl rfl
  | negative _ hcall => rw [hcall]; exact .inl rfl
  | outside _ hcall => rw [hcall]; exact .inl rfl
  | fills _ hcall _ hin =>
    rw [hcall]
    exact .inr ⟨_, _, by rwa [Guest.length_encode], rfl⟩

namespace Keeps

theorem writeList (hR : Keeps c R) {xs : List Int32} (store : Store)
    (hshort : ¬ int32Max < (xs.length * itemSize : Nat)) :
    R (g.allocate c xs store).store (g.writeList c xs store).store := by
  rcases store_writeList (c := c) (g := g) store hshort with hsame | ⟨i, bs, hin, hwrites⟩
  · rw [hsame]
    exact hR.refl _
  · rw [hwrites]
    exact hR.touch (.write g.memory i bs hin)

theorem ordered_copyTrace (hR : Keeps c R) (w : Guest.Passing) :
    Ordered R w.before (momentsOf (g.copyTrace c w)) (w.copy c g).store := by
  rw [Guest.copyTrace, Guest.Passing.copy]
  by_cases hlong : int32Max < (w.items.length * itemSize : Nat)
  · rw [if_pos hlong]
    have hsame : (g.writeList c w.items w.before).store = w.before := by
      rw [Guest.writeList, if_pos hlong]
    rw [hsame]
    exact .nil (hR.refl w.before)
  · rw [if_neg hlong, momentsOf_append]
    have hcall := hR.ordered_callTrace g.alloc [.i32 (Guest.bytesAsked w.items).toUInt32] w.before
    exact hR.append hcall
      (hR.cons (hR.refl _) (.nil (hR.writeList w.before hlong)))

theorem ordered_passTrace (hR : Keeps c R) (guest : Option Guest) (vs : List Value)
    (store : Store) :
    Ordered R store (momentsOf (passTrace c guest vs store)) (passArgs c guest vs store).store := by
  cases guest with
  | none =>
    rw [Guest.passArgs_none]
    exact .nil (hR.refl store)
  | some g =>
    rw [passTrace]
    induction vs generalizing store with
    | nil => exact .nil (hR.refl store)
    | cons v vs ih =>
      cases hv : v.isList with
      | false =>
        rw [Guest.passings_scalar hv, Guest.passArgs_scalar _ hv]
        exact ih store
      | true =>
        obtain ⟨xs, rfl⟩ := Value.eq_list_of_isList hv
        have hcopy := hR.ordered_copyTrace (g := g) ⟨xs, store⟩
        have hcopied : Ordered R store
            (momentsOf (g.copyTrace c ⟨xs, store⟩ ++ [.passes (g.writeList c xs store).store]))
            (g.writeList c xs store).store := by
          rw [momentsOf_append]
          exact hR.append hcopy (hR.cons (hR.refl _) (.nil (hR.refl _)))
        cases h : (g.writeList c xs store).result with
        | ok b =>
          rw [Guest.passings_list_ok h, Guest.passArgs_list_ok h, List.flatMap_cons,
            momentsOf_append]
          exact hR.append hcopied (ih _)
        | error e =>
          rw [Guest.passings_list_error h, Guest.passArgs_list_error h, List.flatMap_singleton]
          exact hcopied

theorem ordered_exchangeTrace (hR : Keeps c R) (guest : Option Guest) (f : Nat) (i : Invocation)
    (store : Store) :
    Ordered R store (momentsOf (exchangeTrace c guest f i store))
      (exchange c guest f i store).store := by
  have hpass := hR.ordered_passTrace guest i.args store
  have hcall (params : List Val) := hR.cons (hR.refl _)
    (hR.ordered_callTrace f params (passArgs c guest i.args store).store)
  have hexchanged := exchanged_exchange c guest f i store
  rw [exchangeTrace, momentsOf_append]
  generalize exchange c guest f i store = done at hexchanged ⊢
  cases hexchanged with
  | refused hpassed =>
    simp only [hpassed, momentsOf_nil, List.append_nil]
    exact hpass
  | @halts params _ _ hpassed hreturned =>
    have hway := hcall params
    rw [hreturned] at hway
    simp only [hpassed, momentsOf_passes]
    exact hR.append hpass hway
  | @unreadable params _ _ _ hpassed hreturned =>
    have hway := hcall params
    rw [hreturned] at hway
    simp only [hpassed, momentsOf_passes]
    exact hR.append hpass hway
  | @returns params _ _ _ _ hpassed hreturned =>
    have hway := hcall params
    rw [hreturned] at hway
    simp only [hpassed, momentsOf_passes]
    exact hR.append hpass hway

theorem ordered_releaseTrace (hR : Keeps c R) (bs : List Block) (store : Store) :
    Ordered R store (momentsOf (g.releaseTrace c bs store)) (g.releaseAll c bs store).store := by
  induction bs generalizing store with
  | nil => exact .nil (hR.refl store)
  | cons b bs ih =>
    rw [Guest.releaseTrace, Guest.releaseAll, momentsOf_append, momentsOf_passes]
    refine hR.append ?_ (hR.cons (hR.refl _) (ih _))
    rcases Guest.release_cases c g b store with ⟨hfree, h⟩ | ⟨k, hfree, hcalled⟩
    · rw [hfree, h]
      exact .nil (hR.refl store)
    · have hway := hR.ordered_callTrace k [.i32 b.ptr.toUInt32, .i32 b.size.toUInt32] store
      rw [hfree]
      rcases hcalled with ⟨_, after, hcall, h⟩ | ⟨_, after, hcall, h⟩
      · rw [hcall] at hway
        rw [h]
        exact hway
      · rw [hcall] at hway
        rw [h]
        exact hway

/-- If the exchange fails, the relation has to hold across the refuelling as well. -/
theorem ordered_memoryTrace (hR : Keeps c R) (f : Nat) (i : Invocation) (store : Store)
    (hrefuel : ∀ e, (exchange c (some g) f i store).result = .error e →
      R (exchange c (some g) f i store).store (exchange c (some g) f i store).store.refuel) :
    Ordered R store (momentsOf (memoryTrace c g f i store))
      (callWithMemory c g f i store).2.1 := by
  have hexchange := hR.ordered_exchangeTrace (some g) f i store
  have hrelease (start : Store) := hR.ordered_releaseTrace (g := g)
    (exchange c (some g) f i store).blocks start
  simp only [memoryTrace, momentsOf_append, momentsOf_passes]
  refine hR.append hexchange (hR.cons (hR.refl _) ?_)
  cases hdone : (exchange c (some g) f i store).result with
  | error e =>
    simp only [callWithMemory, hdone]
    exact hR.cons (hrefuel e hdone) (hrelease _)
  | ok outcome =>
    simp only [callWithMemory, hdone]
    exact hR.cons (hR.refl _) (hrelease _)

end Keeps

end Steps

namespace Lasts

variable {R : Store → Store → Prop}

/-- One invocation, whatever comes of it. -/
theorem ordered_moments {a : Instance} (hR : Lasts a.prepared.code R) (i : Invocation) :
    Ordered R a.store (a.moments i) (a.invoke i).after.store := by
  by_cases hreaches : ∃ f guest, a.Reaches i f guest
  · obtain ⟨f, guest, hreaches⟩ := hreaches
    cases guest with
    | none =>
      rw [Instance.Bypasses.moments_eq hreaches, (Instance.Bypasses.invoke_eq hreaches).2.1]
      exact hR.cons (hR.refuel a.store) (hR.toKeeps.ordered_exchangeTrace none f i _)
    | some g =>
      rw [Instance.Exchanges.moments_eq hreaches, (Instance.Exchanges.invoke_eq hreaches).2.1]
      exact hR.cons (hR.refuel a.store)
        (hR.toKeeps.ordered_memoryTrace f i _ fun _ _ => hR.refuel _)
  · obtain ⟨-, -, hafter⟩ := (a.reaches_or_rejects i).resolve_left hreaches
    rw [Instance.moments, Instance.trace_eq_nil fun f guest h => hreaches ⟨f, guest, h⟩]
    rcases hafter with hafter | hafter
    · rw [hafter]
      exact .nil (hR.refl a.store)
    · rw [hafter]
      exact .nil (hR.refuel a.store)

/-- The induction over the invocations of a session. -/
theorem ordered_momentsAfter {a : Instance} (hR : Lasts a.prepared.code R) (is : List Invocation) :
    Ordered R a.store (a.momentsAfter is) (a.afterAll is).store := by
  induction is generalizing a with
  | nil => exact .nil (hR.refl _)
  | cons i is ih =>
    have hafter : Lasts (a.invoke i).after.prepared.code R := by
      rwa [Instance.prepared_after]
    rw [Instance.momentsAfter_cons]
    exact hR.append (hR.ordered_moments i) (hR.cons (hR.refl _) (ih hafter))

end Lasts

/-! ## Relations that hold all through an instantiation -/

/-- A step that succeeds on every item of a list succeeds on each of them. -/
theorem forall₂_of_mapM {ε α β : Type} {f : α → Except ε β} {xs : List α} {ys : List β}
    (h : xs.mapM f = .ok ys) : List.Forall₂ (fun x y => f x = .ok y) xs ys := by
  induction xs generalizing ys with
  | nil =>
    cases h
    exact .nil
  | cons x xs ih =>
    rw [List.mapM_cons] at h
    obtain ⟨y, hy, h⟩ := Wasm.exists_of_bind_eq_ok h
    obtain ⟨ys', hys, h⟩ := Wasm.exists_of_bind_eq_ok h
    cases h
    exact .cons hy (ih hys)

/-- A module begins with nothing spent, and with its memories. -/
theorem initialStore_eq_ok {m : Module} {maxMemory : Nat} {st : Store}
    (h : initialStore m maxMemory = .ok st) :
    (st.spent = 0 ∧ st.settled = 0) ∧
      List.Forall₂ (fun t memory => initialMemory maxMemory t.limits = .ok memory)
        m.memories st.memories := by
  obtain ⟨memories, hmemories, h⟩ := Wasm.exists_of_bind_eq_ok h
  cases h
  exact ⟨⟨rfl, rfl⟩, forall₂_of_mapM hmemories⟩

/-- The stores `l` are those on the way from `first` as far as it gets: to a last store, which is
that of `result` unless a step failed. -/
def Leads (R : Store → Store → Prop) (first : Store) (l : List Store)
    (result : Except StartFault Store) : Prop :=
  ∃ last, Ordered R first l last ∧ last ∈ first :: l ∧ ∀ st, result = .ok st → st = last

namespace Leads

variable {c : Code} {R : Store → Store → Prop} {first : Store} {l : List Store}
  {result : Except StartFault Store}

theorem stay (hR : Spans c R) (h : ∀ st, result = .ok st → st = first) :
    Leads R first [] result :=
  ⟨first, .nil (hR.refl first), List.mem_cons_self, h⟩

/-- A step, and what follows if it succeeds. -/
theorem bind (hR : Spans c R) (h : Leads R first l result) {rest : Store → List Store}
    {next : Store → Except StartFault Store}
    (hnext : ∀ st, result = .ok st → Leads R st (rest st) (next st)) :
    Leads R first (l ++ onward result rest) (result >>= next) := by
  obtain ⟨last, hway, hlast, hresult⟩ := h
  cases result with
  | error e =>
    rw [onward, List.append_nil]
    exact ⟨last, hway, hlast, nofun⟩
  | ok st =>
    obtain rfl := hresult st rfl
    obtain ⟨last', hway', hlast', hresult'⟩ := hnext st rfl
    refine ⟨last', hR.append hway hway', ?_, hresult'⟩
    rcases List.mem_cons.1 hlast' with rfl | hmem
    · exact List.mem_append_left _ hlast
    · exact List.mem_cons_of_mem _ (List.mem_append_right l hmem)

/-- A way that begins with one more store. -/
theorem cons (hR : Spans c R) {next : Store} (hnext : R first next) (h : Leads R next l result) :
    Leads R first (next :: l) result := by
  obtain ⟨last, hway, hlast, hresult⟩ := h
  exact ⟨last, hR.cons hnext hway, List.mem_cons_of_mem first hlast, hresult⟩

end Leads

/-- Copying segments in order. -/
theorem leads_fillMoments {c : Code} {R : Store → Store → Prop} (hR : Spans c R) {α : Type}
    (copy : Store → α → Except StartFault Store)
    (hcopy : ∀ {st x st'}, copy st x = .ok st' → R st st') (xs : List α) (store : Store) :
    Leads R store (fillMoments copy xs store) (xs.foldlM copy store) := by
  induction xs generalizing store with
  | nil =>
    refine .stay hR fun st hst => ?_
    cases hst
    rfl
  | cons x xs ih =>
    rw [fillMoments, List.foldlM_cons]
    cases h : copy store x with
    | error e => exact .stay hR nofun
    | ok st => exact (ih st).cons hR (hcopy h)

namespace Lasts

variable {c : Code} {R : Store → Store → Prop}

theorem copyElems (hR : Lasts c R) {e : Wasm.ElemSegment} {st st' : Store}
    (h : Machine.copyElems e st = .ok st') : R st st' := by
  revert h
  fun_cases Machine.copyElems e st with
  | case1 =>
    intro h
    cases h
    exact hR.touch (.tables _)
  | case2 =>
    intro h
    cases h
  | case3 =>
    intro h
    cases h
    exact hR.refl st

theorem copyData (hR : Lasts c R) {d : Wasm.DataSegment} {st st' : Store}
    (h : Machine.copyData d st = .ok st') : R st st' := by
  revert h
  fun_cases Machine.copyData d st with
  | case1 _ _ _ _ hin =>
    intro h
    cases h
    exact hR.touch (.write _ _ _ hin)
  | case2 =>
    intro h
    cases h
  | case3 =>
    intro h
    cases h
    exact hR.refl st

/-- The start function, as far as it gets. -/
theorem leads_startMoments (hR : Lasts c R) (start : Option Nat) (store : Store) :
    Leads R store (startMoments c start store)
      (match start with
        | none => .ok store
        | some f => match Machine.call c f [] store with
          | .values _ store => .ok store
          | .halt h _ => .error (.halt h)) := by
  cases start with
  | none =>
    refine .stay hR.toSpans fun st hst => ?_
    cases hst
    rfl
  | some f =>
    have hcall := hR.toKeeps.ordered_callTrace f [] store
    refine ⟨(Machine.call c f [] store).store,
      hR.append hcall (hR.cons (hR.refl _) (.nil (hR.refl _))),
      List.mem_cons_of_mem _ (List.mem_append_right _ List.mem_cons_self), ?_⟩
    intro st hst
    cases hresult : Machine.call c f [] store with
    | values vs after =>
      simp only [hresult] at hst
      cases hst
      rfl
    | halt h after =>
      simp only [hresult] at hst
      cases hst

/-- Instantiation from the store before the segments are copied. -/
theorem leads_instantiateMoments {m : Module} {limit : Option Nat} {maxMemory : Nat}
    (hR : Lasts (.ofModule m limit maxMemory) R) {first : Store}
    (hfirst : initialStore m maxMemory = .ok first) :
    Leads R first (instantiateMoments m limit maxMemory first) (instantiate m limit maxMemory) := by
  have helems := leads_fillMoments hR.toSpans (fun store e => Machine.copyElems e store)
    (fun h => hR.copyElems h) m.elems first
  have hdatas := leads_fillMoments hR.toSpans (fun store d => Machine.copyData d store)
    (fun h => hR.copyData h) m.datas
  have hstart := hR.leads_startMoments m.start
  have hwhole := helems.bind hR.toSpans fun st _ =>
    (hdatas st).bind hR.toSpans fun st' _ => hstart st'
  rw [instantiate, hfirst]
  exact hwhole

end Lasts

end Machine

/-! ## Relations that hold all through a session -/

namespace Prepared

/-- An instance is what the machine makes of a module without imports. -/
theorem instantiate_eq_ok {p : Prepared} {a : Instance} (h : p.instantiate = .ok a) :
    p.imports = [] ∧
      Machine.instantiate p.module p.config.limit p.config.maxMemory.toNat = .ok a.store := by
  rw [instantiate] at h
  cases himports : p.imports with
  | cons i is =>
    rw [himports] at h
    cases h
  | nil =>
    simp only [himports] at h
    cases hstore : Machine.instantiate p.module p.config.limit p.config.maxMemory.toNat with
    | error e =>
      rw [hstore] at h
      cases h
    | ok store =>
      rw [hstore] at h
      cases h
      exact ⟨rfl, rfl⟩

/-- The first moment of a session is the one that memory is created at, and what runs and refuelling
keep holds between any two moments. -/
theorem ordered_moments (p : Prepared) {R : Store → Store → Prop} (hR : Machine.Lasts p.code R)
    (is : List Invocation) :
    (p.moments is).Pairwise R ∧
      ∀ st ∈ p.moments is,
        ∃ first, Machine.initialStore p.module p.config.maxMemory.toNat = .ok first ∧
          R first st := by
  rw [moments]
  cases p.imports with
  | cons i is' => exact ⟨.nil, nofun⟩
  | nil =>
    cases hfirst : Machine.initialStore p.module p.config.maxMemory.toNat with
    | error e => exact ⟨.nil, nofun⟩
    | ok first =>
      have hall : ∃ last, Machine.Ordered R first (Machine.instantiateMoments p.module
          p.config.limit p.config.maxMemory.toNat first ++ match p.instantiate with
            | .error _ => []
            | .ok a => a.momentsAfter is) last := by
        obtain ⟨last, hway, -, hresult⟩ := hR.leads_instantiateMoments hfirst
        cases ha : p.instantiate with
        | error e =>
          simp only [List.append_nil]
          exact ⟨last, hway⟩
        | ok a =>
          obtain rfl := hresult a.store (instantiate_eq_ok ha).2
          have hcode : Machine.Lasts a.prepared.code R := by
            rwa [prepared_of_instantiate ha]
          exact ⟨_, hR.append hway (hcode.ordered_momentsAfter is)⟩
      obtain ⟨last, hway⟩ := hall
      have hwhole := hR.cons (hR.refl first) hway
      exact ⟨hwhole.pairwise, fun st hst => ⟨first, rfl, hwhole.behind st hst⟩⟩

end Prepared

/-- The store behind any number of invocations is a moment. -/
theorem Instance.store_mem_momentsAfter (a : Instance) {is : List Invocation} (hne : is ≠ [])
    (js : List Invocation) : (a.afterAll is).store ∈ a.momentsAfter (is ++ js) := by
  induction is generalizing a with
  | nil => exact absurd rfl hne
  | cons i is ih =>
    rw [List.cons_append, momentsAfter_cons]
    apply List.mem_append_right
    by_cases hlast : is = []
    · subst hlast
      exact List.mem_cons_self
    · exact List.mem_cons_of_mem _ (ih _ hlast)

/-- The store behind any number of invocations of a session is a moment of it. -/
theorem Prepared.store_mem_moments {p : Prepared} {fresh : Instance} (h : p.instantiate = .ok fresh)
    (is js : List Invocation) : (fresh.afterAll is).store ∈ p.moments (is ++ js) := by
  obtain ⟨himports, hstore⟩ := instantiate_eq_ok h
  simp only [moments, himports, h]
  cases hfirst : Machine.initialStore p.module p.config.maxMemory.toNat with
  | error e =>
    rw [Machine.instantiate, hfirst] at hstore
    cases hstore
  | ok first =>
    have hany : Machine.Lasts p.code fun _ _ => True :=
      { trans := fun _ _ => trivial, spend := fun _ _ => trivial, settle := fun _ => trivial,
        afterHalt := fun _ _ => trivial, touch := fun _ => trivial, refuel := fun _ => trivial }
    obtain ⟨last, -, hlast, hresult⟩ := hany.leads_instantiateMoments hfirst
    obtain rfl := hresult fresh.store hstore
    by_cases hne : is = []
    · subst hne
      exact List.mem_append_left _ hlast
    · exact List.mem_append_right _ (fresh.store_mem_momentsAfter hne js)

end WasmGuest
