import WasmGuest.Proofs.Guest.Marshalling
import WasmGuest.Proofs.Instance.Preflight

/-!
# Types across the border

The checks of an invocation compare types, and passing the arguments and reading
the results goes over the same arguments and results once more.  Both agree: what
was checked is what crosses the border.

* `Passed.types_eq`, `Enters.types_eq`: the parameters that an export is entered
  with have the types that the arguments take.
* `Lifts` says what results are read as, by their types alone, and
  `lifts_liftResults` that results of types that were admitted are read so.
* `Instance.WellTyped` puts this together for one invocation.  Without lists and
  without metering nothing else happens than a direct call of the export.
-/

namespace WasmGuest

open Wasm (FuncType Val ValType)
open Machine (CallResult Code SameContents Store)

/-! ## Parameters -/

/-- Passing arguments gives parameters of the types that they take. -/
theorem Guest.Passed.types_eq {c : Code} {g : Guest} {vs : List Value} {store st : Store}
    {params : List Val} (h : Passed c g vs store params st) :
    params.map Val.type = vs.flatMap Value.slots := by
  induction h with
  | nil => rfl
  | scalar hlower _ ih =>
    rw [List.map_cons, List.flatMap_cons, Value.slots_of_lower? hlower, ih, List.singleton_append]
  | list _ _ _ ih =>
    rw [List.map_cons, List.map_cons, List.flatMap_cons, ih]
    rfl

/-- Values without a list are the machine values that stand for them. -/
theorem exists_lowered {vs : List Value} (h : vs.any Value.isList = false) :
    ∃ params, vs.map Value.lower? = params.map some ∧
      vs.flatMap (·.lower?.toList) = params ∧ params.map Val.type = vs.flatMap Value.slots := by
  induction vs with
  | nil => exact ⟨[], rfl, rfl, rfl⟩
  | cons v vs ih =>
    rw [List.any_cons, Bool.or_eq_false_iff] at h
    obtain ⟨params, hlowered, hflat, htypes⟩ := ih h.2
    cases hlower : v.lower? with
    | none =>
      rw [Value.lower?_eq_none_iff, h.1] at hlower
      cases hlower
    | some w =>
      refine ⟨w :: params, ?_, ?_, ?_⟩
      · rw [List.map_cons, hlower, hlowered, List.map_cons]
      · rw [List.flatMap_cons, hlower, hflat]
        rfl
      · rw [List.map_cons, List.flatMap_cons, Value.slots_of_lower? hlower, htypes]
        rfl

section Enters

variable {a : Instance} {i : Invocation} {f : Nat}

theorem Instance.Reaches.suits {guest : Option Guest} (h : a.Reaches i f guest) :
    ∃ type, Guest.function? a.prepared.module i.target = some (f, type) ∧ Suits i type := by
  obtain ⟨type, hfunction, hcheck⟩ := h.checked
  exact ⟨type, hfunction, check_eq_ok_iff.1 hcheck⟩

theorem Instance.Bypasses.scalars (h : a.Bypasses i f) :
    i.returns ≠ .list ∧ i.args.any Value.isList = false := by
  have hmemory := h.usesMemory
  rw [Invocation.usesMemory, Bool.or_eq_false_iff, beq_eq_false_iff_ne] at hmemory
  exact hmemory

theorem Instance.Enters.types_eq {guest : Option Guest} {params : List Val} {st : Store}
    (h : a.Enters i guest f params st) : params.map Val.type = i.args.flatMap Value.slots := by
  obtain ⟨hreaches, hpassed, -⟩ := h
  cases guest with
  | none =>
    obtain ⟨lowered, -, hflat, htypes⟩ := exists_lowered (Instance.Bypasses.scalars hreaches).2
    rw [Guest.passArgs_none, hflat] at hpassed
    cases hpassed
    exact htypes
  | some g => exact (Guest.passed_of_result hpassed).types_eq

end Enters

/-! ## Results -/

/-- What results are read as, in the store that the export left: nothing, a number of their type, a
truth value, or a list that can be read or not. -/
inductive Lifts (guest : Option Guest) (st : Store) :
    Returns → List Val → Except GuestError (Option Value) → Prop where
  | nothing : Lifts guest st .value [] (.ok none)
  | i32 (n : UInt32) : Lifts guest st .value [.i32 n] (.ok (some (.i32 n.toInt32)))
  | i64 (n : UInt64) : Lifts guest st .value [.i64 n] (.ok (some (.i64 n.toInt64)))
  | f32 (bits : UInt32) : Lifts guest st .value [.f32 bits] (.ok (some (.f32 bits)))
  | f64 (bits : UInt64) : Lifts guest st .value [.f64 bits] (.ok (some (.f64 bits)))
  | truth (n : UInt32) : Lifts guest st .bool [.i32 n] (.ok (some (.bool (n != 0))))
  | list {g : Guest} {ptr len : UInt32} {xs : List Int32} (hguest : guest = some g)
      (h : g.readList st ⟨ptr.toInt32, len.toInt32⟩ = .ok xs) :
      Lifts guest st .list [.i32 ptr, .i32 len] (.ok (some (.list xs)))
  | unreadable {g : Guest} {ptr len : UInt32} {e : GuestError} (hguest : guest = some g)
      (h : g.readList st ⟨ptr.toInt32, len.toInt32⟩ = .error e) :
      Lifts guest st .list [.i32 ptr, .i32 len] (.error e)

/-- The kind of value that results of these types are read as, if they are read as any. -/
def Returns.kind? : Returns → List ValType → Option Kind
  | .value, [.i32] => some .i32
  | .value, [.i64] => some .i64
  | .value, [.f32] => some .f32
  | .value, [.f64] => some .f64
  | .value, _ => none
  | .bool, _ => some .bool
  | .list, _ => some .list

section Lifts

variable {guest : Option Guest} {st : Store} {returns : Returns} {results : List Val}

/-- There is a value unless there are no results. -/
theorem Lifts.eq_none_iff {value : Option Value} (h : Lifts guest st returns results (.ok value)) :
    value = none ↔ returns = .value ∧ results = [] := by
  cases h <;> simp

/-- The kind of the value is given by the types of the results. -/
theorem Lifts.kind_eq {value : Option Value} (h : Lifts guest st returns results (.ok value)) :
    value.map Value.kind = returns.kind? (results.map Val.type) := by
  cases h <;> rfl

/-- Only lists are read from the store. -/
theorem Lifts.of_ne_list {r : Except GuestError (Option Value)}
    (h : Lifts guest st returns results r)
    (hne : returns ≠ .list) (st' : Store) : Lifts guest st' returns results r := by
  cases h with
  | nothing => exact .nothing
  | i32 n => exact .i32 n
  | i64 n => exact .i64 n
  | f32 bits => exact .f32 bits
  | f64 bits => exact .f64 bits
  | truth n => exact .truth n
  | list => exact absurd rfl hne
  | unreadable => exact absurd rfl hne

/-- Results that are no list are always read, and leave no block to release. -/
theorem exists_liftResults (guest : Option Guest) (st : Store) (results : List Val)
    (hne : returns ≠ .list) :
    ∃ value, liftResults guest returns st results = .ok (value, []) := by
  fun_cases liftResults guest returns st results with
  | case3 => exact absurd rfl hne
  | case4 => exact absurd rfl hne
  | _ => exact ⟨_, rfl⟩

/-- Results of types that are admitted are read by their types. -/
theorem lifts_liftResults (guest : Option Guest) (st : Store) {types : List ValType}
    (hadmits : Admits returns types) (htypes : results.map Val.type = types)
    (hguest : returns = .list → guest.isSome) :
    Lifts guest st returns results ((liftResults guest returns st results).map Prod.fst) := by
  cases hadmits with
  | nothing =>
    obtain rfl := List.map_eq_nil_iff.1 htypes
    exact .nothing
  | number hscalar =>
    obtain ⟨w, rfl, rfl⟩ := List.map_eq_singleton_iff.1 htypes
    cases w with
    | i32 n => exact .i32 n
    | i64 n => exact .i64 n
    | f32 bits => exact .f32 bits
    | f64 bits => exact .f64 bits
    | _ => cases hscalar
  | truth =>
    obtain ⟨w, rfl, htype⟩ := List.map_eq_singleton_iff.1 htypes
    cases w with
    | i32 n => exact .truth n
    | _ => cases htype
  | list =>
    obtain ⟨v, _, rfl, hptr, hrest⟩ := List.map_eq_cons_iff.1 htypes
    obtain ⟨w, rfl, hlen⟩ := List.map_eq_singleton_iff.1 hrest
    cases v with
    | i32 ptr =>
      cases w with
      | i32 len =>
        obtain ⟨g, rfl⟩ := Option.isSome_iff_exists.1 (hguest rfl)
        cases hread : g.readList st ⟨ptr.toInt32, len.toInt32⟩ with
        | ok xs =>
          simp only [liftResults, hread]
          exact .list rfl hread
        | error e =>
          simp only [liftResults, hread]
          exact .unreadable rfl hread
      | _ => cases hlen
    | _ => cases hptr

end Lifts

/-! ## Invocations whose export returns -/

/-- What comes of an invocation whose export returned results and left a store: a value, or an error
if a list cannot be read or a block cannot be released. -/
inductive Returned (c : Code) (guest : Option Guest) (i : Invocation) (results : List Val)
    (after : Store) : Except Error Outcome → Prop where
  | value {value : Option Value} (h : Lifts guest after i.returns results (.ok value)) :
      Returned c guest i results after (.ok ⟨value, fuelSpent c after⟩)
  | unreadable {e : GuestError} (h : Lifts guest after i.returns results (.error e)) :
      Returned c guest i results after (.error (.invocation i.target (.guest e)))
  | unreleased {value : Option Value} {ptr : Int32} {cause : Machine.Halt}
      (h : Lifts guest after i.returns results (.ok value)) :
      Returned c guest i results after (.error (.invocation i.target (.guest (.free ptr cause))))

section Invocations

variable {c : Code} {guest : Option Guest} {f : Nat} {i : Invocation} {a : Instance}
  {params results : List Val} {store st after : Store}

/-- An exchange whose export returned has the value that the results are read as. -/
theorem result_exchange_of_values (hpassed : (passArgs c guest i.args store).result = .ok params)
    (hcall : Machine.call c f params (passArgs c guest i.args store).store
      = .values results after) :
    (exchange c guest f i store).result =
      match (liftResults guest i.returns after results).map Prod.fst with
      | .error e => .error (.guest e)
      | .ok value => .ok ⟨value, fuelSpent c after⟩ := by
  simp only [exchange, hpassed, hcall]
  cases liftResults guest i.returns after results with
  | error e => rfl
  | ok read => rfl

theorem Instance.Enters.returned (h : a.Enters i guest f params st)
    (hcall : Machine.call a.prepared.code f params st = .values results after)
    {type : FuncType} (hfunction : Guest.function? a.prepared.module i.target = some (f, type))
    (htypes : results.map Val.type = type.results) :
    Returned a.prepared.code guest i results after (a.invoke i).result := by
  obtain ⟨hreaches, hpassed, rfl⟩ := h
  obtain ⟨type', hfunction', hsuits⟩ := hreaches.suits
  obtain rfl : type = type' := by
    rw [hfunction] at hfunction'
    exact congrArg Prod.snd (Option.some.inj hfunction')
  have hdone := result_exchange_of_values hpassed hcall
  cases guest with
  | none =>
    have hne := (Instance.Bypasses.scalars hreaches).1
    have hlifts := lifts_liftResults none after hsuits.results htypes
      (fun hlist => absurd hlist hne)
    obtain ⟨value, hvalue⟩ := exists_liftResults none after results hne
    rw [hvalue] at hlifts hdone
    rw [(Instance.Bypasses.invoke_eq hreaches).1, hdone]
    exact .value hlifts
  | some g =>
    have hlifts := lifts_liftResults (some g) after hsuits.results htypes (fun _ => rfl)
    rw [(Instance.Exchanges.invoke_eq hreaches).1]
    generalize (liftResults (some g) i.returns after results).map Prod.fst = r at hlifts hdone
    cases r with
    | error e =>
      rw [callWithMemory_of_error hdone]
      exact .unreadable hlifts
    | ok value =>
      rcases callWithMemory_of_ok hdone with hok | ⟨ptr, cause, hfailed⟩
      · rw [hok]
        exact .value hlifts
      · rw [hfailed]
        exact .unreleased hlifts

/-- An invocation that succeeds is one whose export returned. -/
theorem Instance.exists_enters_of_ok {outcome : Outcome} (h : (a.invoke i).result = .ok outcome) :
    ∃ guest f params st results after, a.Enters i guest f params st ∧
      Machine.call a.prepared.code f params st = .values results after := by
  rcases a.reaches_or_rejects i with ⟨f, guest, hreaches⟩ | ⟨⟨e, hrejected⟩, -, -⟩
  · have hdone : (exchange a.prepared.code guest f i a.store.refuel).result = .ok outcome := by
      cases guest with
      | none =>
        rw [(Instance.Bypasses.invoke_eq hreaches).1] at h
        exact eq_ok_of_mapError_eq_ok h
      | some g =>
        rw [(Instance.Exchanges.invoke_eq hreaches).1] at h
        exact result_exchange_of_callWithMemory (eq_ok_of_mapError_eq_ok h)
    have hexchanged := exchanged_exchange a.prepared.code guest f i a.store.refuel
    generalize exchange a.prepared.code guest f i a.store.refuel = done at hexchanged hdone
    cases hexchanged with
    | refused => cases hdone
    | halts => cases hdone
    | unreadable => cases hdone
    | @returns params results after _ _ hpassed hcall =>
      exact ⟨guest, f, params, _, results, after, ⟨hreaches, hpassed, rfl⟩, hcall⟩
  · rw [h] at hrejected
    cases hrejected

end Invocations

/-! ## Direct calls -/

/-- An invocation comes to what a direct call of its export comes to, and leaves the same contents;
the value is what the results are read as if they have the declared types. -/
inductive AgreesWith (i : Invocation) (type : FuncType) : CallResult → Reply → Prop where
  | values {results : List Val} {after : Store} {reply : Reply} {value : Option Value}
      (hresult : reply.result = .ok ⟨value, none⟩)
      (hlifts : results.map Val.type = type.results →
        Lifts none after i.returns results (.ok value))
      (hcontents : SameContents after reply.after.store) :
      AgreesWith i type (.values results after) reply
  | halt {cause : Machine.Halt} {after : Store} {reply : Reply}
      (hresult : reply.result = .error (.invocation i.target (.trap cause)))
      (hcontents : SameContents after reply.after.store) :
      AgreesWith i type (.halt cause after) reply

/-- Without metering and without lists an invocation agrees with a direct call of its export, made on
any store of the same contents; nothing else is called. -/
theorem Instance.Bypasses.agreesWith {a : Instance} {i : Invocation} {f : Nat} {type : FuncType}
    (h : a.Bypasses i f) (hfuel : a.prepared.config.fuel = none)
    (hadmits : Admits i.returns type.results) :
    ∃ params, i.args.map Value.lower? = params.map some ∧
      (a.invoke i).calls = [.export params] ∧
      ∀ st, SameContents a.store st →
        AgreesWith i type (Machine.call a.prepared.code f params st) (a.invoke i) := by
  obtain ⟨hne, hscalars⟩ := h.scalars
  obtain ⟨params, hlowered, hflat, -⟩ := exists_lowered hscalars
  obtain ⟨hresult, hafter, hcalls⟩ := h.invoke_eq
  have hpassed : passArgs a.prepared.code none i.args a.store.refuel
      = ⟨.ok params, a.store.refuel, [], []⟩ := by
    rw [Guest.passArgs_none, hflat]
  have hlimit : a.prepared.code.limit = none := by
    show a.prepared.config.fuel.map UInt64.toNat = none
    rw [hfuel]
    rfl
  have hspent (st : Store) : fuelSpent a.prepared.code st = none := by
    rw [fuelSpent, hlimit]
    rfl
  refine ⟨params, hlowered, ?_, fun st hst => ?_⟩
  · rw [hcalls, calls_exchange, hpassed]
    rfl
  -- The invocation refuels first and the direct call does not, which no run can tell without a limit.
  have hend := Machine.sameEnd_call hlimit f params (hst.symm.trans (.refuel a.store))
  generalize Machine.call a.prepared.code f params st = direct at hend ⊢
  generalize hcall : Machine.call a.prepared.code f params a.store.refuel = within at hend
  cases hend with
  | @halt cause after after' hcontents =>
    have hdone : exchange a.prepared.code none f i a.store.refuel =
        ⟨.error (.ofHalt cause), after', [.export params], []⟩ := by
      simp only [exchange, hpassed, hcall, List.nil_append]
    rw [hdone] at hresult hafter
    have hran := Machine.not_ranOut_call hlimit f params a.store.refuel
    rw [hcall, Machine.CallResult.ranOut_halt_iff] at hran
    refine .halt ?_ (hafter ▸ hcontents)
    rw [hresult, CallError.ofHalt]
    · rfl
    · exact hran
  | @values results after after' hcontents =>
    obtain ⟨value, hvalue⟩ := exists_liftResults none after' results hne
    have hdone : exchange a.prepared.code none f i a.store.refuel =
        ⟨.ok ⟨value, none⟩, after', [.export params], []⟩ := by
      simp only [exchange, hpassed, hcall, hvalue, hspent, List.append_nil, List.nil_append]
    rw [hdone] at hresult hafter
    refine .values hresult (fun htypes => ?_) (hafter ▸ hcontents)
    have hlifts := lifts_liftResults none after' hadmits htypes
      (fun hlist => absurd hlist hne)
    rw [hvalue] at hlifts
    exact hlifts.of_ne_list hne after

/-! ## One invocation -/

/-- The types of an invocation hold from its arguments to its outcome. -/
structure Instance.WellTyped (a : Instance) (i : Invocation) : Prop where
  /-- What goes without guest memory passes no list, so no argument is left out. -/
  complete : ∀ f xs, a.Reaches i f none → .list xs ∉ i.args
  entered : ∀ guest f params st, a.Enters i guest f params st →
    ∃ type, Guest.function? a.prepared.module i.target = some (f, type) ∧
      params.map Val.type = type.params
  /-- If the export returns results of its types, they are what the outcome is read from. -/
  returned : ∀ guest f type params st results after, a.Enters i guest f params st →
    Guest.function? a.prepared.module i.target = some (f, type) →
    Machine.call a.prepared.code f params st = .values results after →
    results.map Val.type = type.results →
    Returned a.prepared.code guest i results after (a.invoke i).result
  /-- An outcome is read from results; if they have the types of the export, it has the kind that
  they give, and it is without a value only if there are none. -/
  outcome : ∀ outcome, (a.invoke i).result = .ok outcome →
    ∃ guest f type params st results after, a.Enters i guest f params st ∧
      Guest.function? a.prepared.module i.target = some (f, type) ∧
      Machine.call a.prepared.code f params st = .values results after ∧
      (results.map Val.type = type.results →
        Lifts guest after i.returns results (.ok outcome.value) ∧
        outcome.value.map Value.kind = i.returns.kind? type.results ∧
        (outcome.value = none ↔ i.returns = .value ∧ type.results = []))
  /-- Without metering and without lists nothing is called but the export, on the machine values that
  stand for the arguments, and the invocation agrees with a call of it on the same contents. -/
  direct : ∀ f type, a.prepared.config.fuel = none → ¬ i.UsesLists →
    Guest.function? a.prepared.module i.target = some (f, type) →
    Instance.check i type = .ok () →
    ∃ params, i.args.map Value.lower? = params.map some ∧
      (a.invoke i).calls = [.export params] ∧
      ∀ st, SameContents a.store st →
        AgreesWith i type (Machine.call a.prepared.code f params st) (a.invoke i)

/-- What is checked of the types of an invocation is what holds of everything behind the checks. -/
theorem Instance.well_typed :
    (∀ args params, checkParamsWithin args params = some (checkParams args params) ∧
      (checkParams args params = .ok () ↔ args.flatMap Value.slots = params)) ∧
    ∀ (a : Instance) (i : Invocation), a.WellTyped i := by
  refine ⟨fun args params => ⟨checkParamsWithin_eq args params, checkParams_eq_ok_iff⟩,
    fun a i => ?_⟩
  constructor
  case complete =>
    intro f xs hbypasses hmem
    have hscalars := List.any_eq_false.1 (Instance.Bypasses.scalars hbypasses).2 _ hmem
    exact hscalars rfl
  case entered =>
    intro guest f params st henters
    obtain ⟨type, hfunction, hsuits⟩ := henters.reaches.suits
    exact ⟨type, hfunction, henters.types_eq.trans hsuits.args⟩
  case returned =>
    intro guest f type params st results after henters hfunction hcall htypes
    exact henters.returned hcall hfunction htypes
  case outcome =>
    intro outcome hok
    obtain ⟨guest, f, params, st, results, after, henters, hcall⟩ :=
      Instance.exists_enters_of_ok hok
    obtain ⟨type, hfunction, -⟩ := henters.reaches.suits
    refine ⟨guest, f, type, params, st, results, after, henters, hfunction, hcall, ?_⟩
    intro htypes
    have hreturned := henters.returned hcall hfunction htypes
    rw [hok] at hreturned
    cases hreturned with
    | value hlifts =>
      refine ⟨hlifts, htypes ▸ hlifts.kind_eq, ?_⟩
      rw [← htypes, List.map_eq_nil_iff]
      exact hlifts.eq_none_iff
  case direct =>
    intro f type hfuel hlists hfunction hcheck
    have hbypasses : a.Bypasses i f := by
      refine ⟨⟨type, hfunction, hcheck⟩, ?_⟩
      rw [← Bool.not_eq_true, Invocation.usesMemory_iff]
      exact hlists
    exact hbypasses.agreesWith hfuel (check_eq_ok_iff.1 hcheck).results

/-- Two lists with numbers in between are passed as six parameters; and a tally without metering
agrees with a call of its export on a store with fuel spent. -/
theorem well_typed_ledger_and_tally :
    let a : Instance := ⟨⟨{}, tallyModule⟩, tally.store⟩
    (∃ params st, ledger.Enters lastCall (some ⟨0, 0, none⟩) 1 params st ∧
      params.map Val.type = [.i32, .i32, .i32, .f64, .i32, .i32]) ∧
    AgreesWith (tallyCall 5) ⟨[.i32, .i64], [.i64]⟩
      (Machine.call a.prepared.code 0 [.i32 1, .i64 5] (tally.store.spend 7))
      (a.invoke (tallyCall 5)) ∧
    (a.invoke (tallyCall 5)).result = .ok ⟨some (.i64 5), none⟩ := by
  intro a
  obtain ⟨hchecked, hwellTyped⟩ := Instance.well_typed
  refine ⟨?_, ?_, by rfl⟩
  · have hexchanges : ledger.Exchanges lastCall 1 ⟨0, 0, none⟩ :=
      ⟨⟨⟨[.i32, .i32, .i32, .f64, .i32, .i32], [.i32, .i32]⟩, rfl, by rfl⟩, rfl, rfl⟩
    have henters : ledger.Enters lastCall (some ⟨0, 0, none⟩) 1 [.i32 1, .i32 8, .i32 2,
        .f64 0x7ff8000000000001, .i32 16, .i32 1] _ := ⟨hexchanges, by rfl, rfl⟩
    obtain ⟨type, hfunction, htypes⟩ := (hwellTyped ledger lastCall).entered _ _ _ _ henters
    cases hfunction
    exact ⟨_, _, henters, htypes⟩
  · have hargs := (hchecked (tallyCall 5).args [.i32, .i64]).2.2 rfl
    have hcheck : Instance.check (tallyCall 5) ⟨[.i32, .i64], [.i64]⟩ = .ok () := by
      rw [Instance.check, hargs]
      rfl
    have hlists : ¬ (tallyCall 5).UsesLists := by
      rw [← Invocation.usesMemory_iff]
      decide
    obtain ⟨params, hlowered, -, hagrees⟩ :=
      (hwellTyped a (tallyCall 5)).direct 0 _ rfl hlists rfl hcheck
    obtain rfl : [.i32 1, .i64 5] = params :=
      (List.map_inj_right fun _ _ => Option.some.inj).1 hlowered
    exact hagrees _ rfl

end WasmGuest
