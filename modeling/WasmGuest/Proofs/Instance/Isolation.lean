import WasmGuest.Proofs.Guest.Custody
import WasmGuest.Proofs.Instance.Session

/-!
# Instances of one module

A host may make any number of instances of one prepared module and invoke exports
on them in any order.  The instances share the module, which every action reads
and puts back, and nothing else; so what a host sees of one instance is what it
would see if there were no other.

* `Host.act` and `Host.run` are the actions of a host, one and several.
* `Host.prepared_act`: no action changes the module.
* `Host.act_of_ne`: an action on another instance does not show.
* `Host.view_run` is the induction over the actions behind the making of an
  instance, and `Host.view_run_of_unmade` the one over those before it.
* `Prepared.isolated` is about whole sessions.
-/

namespace WasmGuest

open Machine (Store)

/-- What a host does: make an instance, or invoke an export on one of its instances, which it knows
by the number of instances that were made before. -/
inductive Action where
  | create
  | invoke (k : Nat) (i : Invocation)

/-- What a host is told of one of its instances: what came of making it, with the fuel left, and
the replies to invocations. -/
inductive Notice where
  | created (result : Except Error (Option Nat))
  | replied (reply : Reply)

/-- A host has one prepared module, and what came of each instance that it made: its store, unless
it could not be made. -/
structure Host where
  prepared : Prepared
  stores : List (Except Error Store)

namespace Host

/-- Act, and tell which instance was acted on and what came of it.  There is no acting on an instance
that does not exist. -/
def act (h : Host) : Action → Option (Nat × Notice) × Host
  | .create =>
    match h.prepared.instantiate with
    | .ok a => (some (h.stores.length, .created (.ok a.fuelRemaining)),
        ⟨a.prepared, h.stores ++ [.ok a.store]⟩)
    | .error e => (some (h.stores.length, .created (.error e)),
        ⟨h.prepared, h.stores ++ [.error e]⟩)
  | .invoke k i =>
    match h.stores[k]? with
    | some (.ok store) =>
      let r := Instance.invoke ⟨h.prepared, store⟩ i
      (some (k, .replied r), ⟨r.after.prepared, h.stores.set k (.ok r.after.store)⟩)
    | _ => (none, h)

/-- Act several times, whatever comes of it. -/
def run (h : Host) : List Action → List (Nat × Notice) × Host
  | [] => ([], h)
  | x :: xs =>
    let (notice, next) := h.act x
    let (notices, last) := next.run xs
    (notice.toList ++ notices, last)

/-- The instance that was made as number `k`, or why it could not be made. -/
def instance? (h : Host) (k : Nat) : Option (Except Error Instance) :=
  (h.stores[k]?).map fun store => store.map (Instance.mk h.prepared)

end Host

/-- What is told of instance `k`. -/
def noticesOf (k : Nat) (notices : List (Nat × Notice)) : List Notice :=
  notices.filterMap fun x => if x.1 = k then some x.2 else none

/-- What a session shows of an instance: what is told of it in between, and how it is in the end. -/
structure View where
  notices : List Notice
  last : Option (Except Error Instance)

/-- What actions show of instance `k`. -/
def Host.view (h : Host) (k : Nat) (xs : List Action) : View :=
  ⟨noticesOf k (h.run xs).1, (h.run xs).2.instance? k⟩

/-- How many instances are made. -/
def madeBy : List Action → Nat
  | [] => 0
  | .create :: xs => madeBy xs + 1
  | .invoke _ _ :: xs => madeBy xs

/-- The invocations on instance `k`, if `made` instances exist already. -/
def invocationsOn (k : Nat) : (made : Nat) → List Action → List Invocation
  | _, [] => []
  | made, .create :: xs => invocationsOn k (made + 1) xs
  | made, .invoke j i :: xs =>
    if j = k ∧ k < made then i :: invocationsOn k made xs else invocationsOn k made xs

/-- What invocations show of an instance, if it could be made. -/
def View.ofInvocations (is : List Invocation) : Except Error Instance → View
  | .ok a => ⟨(a.session is).map .replied, some (.ok (a.afterAll is))⟩
  | .error e => ⟨[], some (.error e)⟩

/-- One notice more, in front. -/
def View.after (notices : List Notice) (v : View) : View :=
  ⟨notices ++ v.notices, v.last⟩

/-- What is shown of the one instance in a session that makes no other. -/
def Prepared.alone (p : Prepared) (is : List Invocation) : View :=
  (View.ofInvocations is p.instantiate).after
    [.created (p.instantiate.map Instance.fuelRemaining)]

theorem noticesOf_self (k : Nat) (n : Notice) : noticesOf k [(k, n)] = [n] := by
  simp [noticesOf]

theorem View.ofInvocations_cons (a : Instance) (i : Invocation) (is : List Invocation) :
    ofInvocations (i :: is) (.ok a) =
      (ofInvocations is (.ok (a.invoke i).after)).after [.replied (a.invoke i)] := rfl

/-- An instance is its store and the module it was made of. -/
theorem Prepared.map_store_instantiate (p : Prepared) :
    (p.instantiate.map Instance.store).map (Instance.mk p) = p.instantiate := by
  cases hmade : p.instantiate with
  | error e => rfl
  | ok a =>
    obtain rfl := prepared_of_instantiate hmade
    rfl

namespace Host

variable {h : Host} {k : Nat}

/-! ## One action -/

/-- The module that all instances share stays as it is. -/
theorem prepared_act (h : Host) (x : Action) : (h.act x).2.prepared = h.prepared := by
  fun_cases act h x with
  | case1 a hmade => exact Prepared.prepared_of_instantiate hmade
  | case2 e hmade => rfl
  | case3 k i store hstore r => exact Instance.prepared_after _ i
  | case4 k i hnone => rfl

theorem act_create (h : Host) : h.act .create =
    (some (h.stores.length, .created (h.prepared.instantiate.map Instance.fuelRemaining)),
      ⟨h.prepared, h.stores ++ [h.prepared.instantiate.map Instance.store]⟩) := by
  rw [act]
  split
  · next a hmade =>
    rw [Prepared.prepared_of_instantiate hmade, hmade]
    rfl
  · next e hmade =>
    rw [hmade]
    rfl

theorem act_invoke {store : Store} (hstore : h.stores[k]? = some (.ok store)) (i : Invocation) :
    h.act (.invoke k i) =
      (some (k, .replied (Instance.invoke ⟨h.prepared, store⟩ i)),
        ⟨h.prepared, h.stores.set k (.ok (Instance.invoke ⟨h.prepared, store⟩ i).after.store)⟩) := by
  simp only [act, hstore]
  rw [Instance.prepared_after]

/-- Without a store there is nothing to invoke an export on. -/
theorem act_invoke_of_none (hnone : ∀ store, h.stores[k]? ≠ some (.ok store)) (i : Invocation) :
    h.act (.invoke k i) = (none, h) := by
  rw [act]
  split
  · next store hstore => exact absurd hstore (hnone store)
  · rfl

theorem length_act_create (h : Host) : (h.act .create).2.stores.length = h.stores.length + 1 := by
  rw [act_create, List.length_append]
  rfl

theorem length_act_invoke (h : Host) (k : Nat) (i : Invocation) :
    (h.act (.invoke k i)).2.stores.length = h.stores.length := by
  rw [act]
  split
  · exact List.length_set
  · rfl

/-- The number of the instance that an action is on. -/
def subject (h : Host) : Action → Nat
  | .create => h.stores.length
  | .invoke k _ => k

/-- An action on one instance does not show of another, and leaves it as it is. -/
theorem act_of_ne {x : Action} (hne : h.subject x ≠ k) :
    noticesOf k (h.act x).1.toList = [] ∧ (h.act x).2.stores[k]? = h.stores[k]? := by
  cases x with
  | create =>
    rw [act_create]
    refine ⟨List.filterMap_eq_nil_iff.2 fun y hy => ?_, ?_⟩
    · cases List.mem_singleton.1 hy
      exact if_neg hne
    · rcases Nat.lt_or_gt_of_ne hne with hlt | hgt
      · rw [List.getElem?_eq_none (Nat.le_of_lt hlt), List.getElem?_eq_none]
        rw [List.length_append]
        exact hlt
      · exact List.getElem?_append_left hgt
  | invoke j i =>
    by_cases hstore : ∃ store, h.stores[j]? = some (.ok store)
    · obtain ⟨store, hstore⟩ := hstore
      rw [act_invoke hstore]
      refine ⟨List.filterMap_eq_nil_iff.2 fun y hy => ?_, List.getElem?_set_ne hne⟩
      cases List.mem_singleton.1 hy
      exact if_neg hne
    · rw [act_invoke_of_none (not_exists.1 hstore)]
      exact ⟨rfl, rfl⟩

/-! ## Several actions -/

theorem invocationsOn_of_ne {x : Action} (hne : h.subject x ≠ k) (xs : List Action) :
    invocationsOn k h.stores.length (x :: xs) =
      invocationsOn k (h.act x).2.stores.length xs := by
  cases x with
  | create =>
    rw [length_act_create, invocationsOn]
  | invoke j i => rw [length_act_invoke, invocationsOn, if_neg (fun h => hne h.1)]

theorem view_cons (h : Host) (k : Nat) (x : Action) (xs : List Action) :
    h.view k (x :: xs) = ((h.act x).2.view k xs).after (noticesOf k (h.act x).1.toList) := by
  rw [view, run, noticesOf, List.filterMap_append]
  rfl

/-- Behind an action on another instance the view is the same. -/
theorem view_cons_of_ne {x : Action} (hne : h.subject x ≠ k) (xs : List Action) :
    h.view k (x :: xs) = (h.act x).2.view k xs := by
  rw [view_cons, (act_of_ne hne).1]
  rfl

/-- The induction behind the making of an instance: of all actions those on it show, and they show
what they would without the others. -/
theorem view_run {made : Except Error Store} (hmade : h.stores[k]? = some made) (xs : List Action) :
    h.view k xs = .ofInvocations (invocationsOn k h.stores.length xs)
      (made.map (Instance.mk h.prepared)) := by
  induction xs generalizing h made with
  | nil =>
    rw [view, run, instance?, hmade]
    cases made <;> rfl
  | cons x xs ih =>
    have hk : k < h.stores.length := (List.getElem?_eq_some_iff.1 hmade).1
    by_cases hne : h.subject x ≠ k
    · rw [view_cons_of_ne hne, ih ((act_of_ne hne).2.trans hmade), prepared_act,
        invocationsOn_of_ne hne]
    · cases x with
      | create => exact absurd (Nat.ne_of_gt hk) hne
      | invoke j i =>
        obtain rfl : j = k := not_not.1 hne
        rw [view_cons, invocationsOn, if_pos ⟨rfl, hk⟩]
        cases made with
        | ok store =>
          rw [act_invoke hmade, ih (List.getElem?_set_self hk), List.length_set, Option.toList,
            noticesOf_self]
          show _ = View.ofInvocations _ (.ok ⟨h.prepared, store⟩)
          rw [View.ofInvocations_cons, Instance.after_invoke]
          rfl
        | error e =>
          have hnone : ∀ store, h.stores[j]? ≠ some (.ok store) := by
            simp [hmade]
          rw [act_invoke_of_none hnone, ih hmade]
          rfl

/-- The induction before the making of an instance: nothing shows of it until then. -/
theorem view_run_of_unmade (hk : h.stores.length ≤ k) {xs : List Action}
    (hmade : k < h.stores.length + madeBy xs) :
    h.view k xs = h.prepared.alone (invocationsOn k h.stores.length xs) := by
  induction xs generalizing h with
  | nil => exact absurd hmade (Nat.not_lt.2 hk)
  | cons x xs ih =>
    by_cases hne : h.subject x ≠ k
    · rw [view_cons_of_ne hne, invocationsOn_of_ne hne]
      cases x with
      | create =>
        have hlt : h.stores.length < k := Nat.lt_of_le_of_ne hk hne
        rw [madeBy] at hmade
        rw [ih (by rw [length_act_create]; omega) (by rw [length_act_create]; omega), prepared_act]
      | invoke j i =>
        rw [ih (by rwa [length_act_invoke]) (by rwa [length_act_invoke]), prepared_act]
    · cases x with
      | create =>
        obtain rfl : h.stores.length = k := not_not.1 hne
        have hlast : (h.act .create).2.stores[h.stores.length]? =
            some (h.prepared.instantiate.map Instance.store) := by
          rw [act_create, List.getElem?_concat_length]
        rw [view_cons, view_run hlast, prepared_act, length_act_create, invocationsOn, act_create,
          Option.toList, noticesOf_self, Prepared.map_store_instantiate, Prepared.alone]
      | invoke j i =>
        obtain rfl : j = k := not_not.1 hne
        have hnone : ∀ store, h.stores[j]? ≠ some (.ok store) := by
          simp [List.getElem?_eq_none hk]
        rw [view_cons, act_invoke_of_none hnone, invocationsOn, if_neg (by omega), ih hk hmade]
        rfl

end Host

/-! ## Whole sessions -/

/-- What a session on a module shows of instance `k`. -/
def Prepared.view (p : Prepared) (k : Nat) (xs : List Action) : View :=
  Host.view ⟨p, []⟩ k xs

theorem invocationsOn_map {k made : Nat} (hk : k < made) (is : List Invocation) :
    invocationsOn k made (is.map (.invoke k)) = is := by
  induction is with
  | nil => rfl
  | cons i is ih => rw [List.map_cons, invocationsOn, if_pos ⟨rfl, hk⟩, ih]

/-- What a session shows of an instance does not depend on other instances. -/
structure Prepared.Isolates (p : Prepared) : Prop where
  /-- Of every instance that is made, a session shows what a session would show that makes one
  instance and makes the same invocations on it in the same order. -/
  one : ∀ xs, ∀ k < madeBy xs,
    p.view k xs = p.view 0 (.create :: (invocationsOn k 0 xs).map (.invoke 0))
  /-- That is the replies to these invocations, and the instance behind them. -/
  alone : ∀ is, p.view 0 (.create :: is.map (.invoke 0)) = p.alone is
  /-- If two sessions make the same invocations on an instance in the same order, between whatever
  else, they show the same of it. -/
  orders : ∀ xs ys, ∀ k < madeBy xs, ∀ l < madeBy ys,
    invocationsOn k 0 xs = invocationsOn l 0 ys → p.view k xs = p.view l ys

/-- Instances of one module are isolated from each other. -/
theorem Prepared.isolated (p : Prepared) : p.Isolates := by
  have hview (xs : List Action) (k : Nat) (hk : k < madeBy xs) :
      p.view k xs = p.alone (invocationsOn k 0 xs) :=
    Host.view_run_of_unmade (Nat.zero_le k) (by rwa [List.length_nil, Nat.zero_add])
  have halone (is : List Invocation) :
      p.view 0 (.create :: is.map (.invoke 0)) = p.alone is := by
    have hmade : 0 < madeBy (.create :: is.map (.invoke 0)) := Nat.succ_pos _
    rw [hview _ 0 hmade, invocationsOn, invocationsOn_map Nat.one_pos]
  constructor
  case one =>
    intro xs k hk
    rw [hview xs k hk, halone]
  case alone => exact halone
  case orders =>
    intro xs ys k hk l hl hsame
    rw [hview xs k hk, hview ys l hl, hsame]

/-- The result of an invocation, with the fuel left behind it. -/
def Notice.result? : Notice → Option (Except Error Outcome × Option Nat)
  | .created _ => none
  | .replied r => some (r.result, r.after.fuelRemaining)

theorem Prepared.results_alone {p : Prepared} {a : Instance} (h : p.instantiate = .ok a)
    (is : List Invocation) : (p.alone is).notices.filterMap Notice.result? =
      (a.session is).map fun r => (r.result, r.after.fuelRemaining) := by
  rw [alone, h, View.after, View.ofInvocations, List.filterMap_append, List.filterMap_map,
    ← List.filterMap_eq_map]
  rfl

/-- On one of two instances a block is lent that leaves no room for another, and the next list does
not fit; on the other one fuel runs out, and a block is handed back.  In another order, with the
two instances exchanged, all is the same. -/
theorem isolated_clerk :
    let p := (clerk (some 7)).prepared
    let xs := [.create, .invoke 0 (lendCall 65536), .create, .invoke 1 lengthsCall,
      .invoke 0 { echoCall with args := [.list [7]] }, .invoke 1 freedCall, .invoke 0 freedCall]
    let ys := [.create, .create, .invoke 0 lengthsCall, .invoke 0 freedCall,
      .invoke 1 (lendCall 65536), .invoke 1 { echoCall with args := [.list [7]] },
      .invoke 1 freedCall]
    p.view 0 xs = p.view 1 ys ∧ p.view 1 xs = p.view 0 ys ∧
      (p.view 0 xs).notices.filterMap Notice.result? = [(.ok ⟨some (.i32 8), some 6⟩, some 1),
        (.error (.invocation "echo" (.guest (.outOfBounds 65544 4))), some 7),
        (.ok ⟨some (.i32 0), some 2⟩, some 5)] ∧
      (p.view 1 xs).notices.filterMap Notice.result? =
        [(.error (.invocation "lengths" (.guest (.alloc 8 (.trap .outOfFuel)))), some 2),
        (.ok ⟨some (.i32 1), some 2⟩, some 5)] := by
  intro p xs ys
  have hisolates := p.isolated
  have hmade : p.instantiate = .ok (clerk (some 7)) := rfl
  have hxs : madeBy xs = 2 := rfl
  have hys : madeBy ys = 2 := rfl
  have hfirst : p.view 0 xs =
      p.alone [lendCall 65536, { echoCall with args := [.list [7]] }, freedCall] :=
    (hisolates.one xs 0 (by omega)).trans (hisolates.alone _)
  have hsecond : p.view 1 xs = p.alone [lengthsCall, freedCall] :=
    (hisolates.one xs 1 (by omega)).trans (hisolates.alone _)
  refine ⟨hisolates.orders xs ys 0 (by omega) 1 (by omega) rfl,
    hisolates.orders xs ys 1 (by omega) 0 (by omega) rfl, ?_, ?_⟩
  · rw [hfirst, Prepared.results_alone hmade]
    rfl
  · rw [hsecond, Prepared.results_alone hmade]
    rfl

end WasmGuest
