import WasmGuest.Proofs.Guest.Lists
import WasmGuest.Proofs.Instance.Session
import WasmGuest.Proofs.Machine.Answers

/-!
# The events of a session

An invocation may call guest code several times: `alloc` for every list, the export,
and `free` for every block.  Its events are those of all these calls, and the stores
that the host has in its hands between them, in the order in which they happen.

* `Guest.copyTrace`, `passTrace`, `exchangeTrace`, `Guest.releaseTrace`, `memoryTrace`:
  the events of the steps of an invocation, whatever comes of it.
* `Instance.trace`, `Instance.traceAfter`: those of one invocation and of any number.
* `Instance.answersAfter`: what the calls among them returned.
-/

namespace WasmGuest

open Machine (Answer Code Event Store answersOf callTrace)

/-! ## The steps of an invocation -/

namespace Guest

/-- The events while a list is copied, down to the store that is filled. -/
def copyTrace (c : Code) (g : Guest) (w : Passing) : List Event :=
  if int32Max < (w.items.length * itemSize : Nat) then []
  else callTrace c g.alloc [.i32 (bytesAsked w.items).toUInt32] w.before ++
    [.passes (g.allocate c w.items w.before).store]

/-- The events while blocks are handed back, with the store behind each. -/
def releaseTrace (c : Code) (g : Guest) : List Block → Store → List Event
  | [], _ => []
  | b :: bs, store =>
    (match g.free with
      | none => []
      | some k => callTrace c k [.i32 b.ptr.toUInt32, .i32 b.size.toUInt32] store) ++
    .passes (g.release c b store).store :: releaseTrace c g bs (g.release c b store).store

end Guest

/-- The events while arguments are passed, with the store behind each list. -/
def passTrace (c : Code) (guest : Option Guest) (vs : List Value) (store : Store) : List Event :=
  match guest with
  | none => []
  | some g =>
    (g.passings c vs store).flatMap fun w => g.copyTrace c w ++ [.passes (w.copy c g).store]

/-- The events while arguments are passed and the function is called. -/
def exchangeTrace (c : Code) (guest : Option Guest) (f : Nat) (i : Invocation) (store : Store) :
    List Event :=
  let passed := passArgs c guest i.args store
  passTrace c guest i.args store ++
    match passed.result with
    | .error _ => []
    | .ok params => .passes passed.store :: callTrace c f params passed.store

/-- The events while a function is called through guest memory. -/
def memoryTrace (c : Code) (guest : Guest) (f : Nat) (i : Invocation) (store : Store) :
    List Event :=
  let done := exchange c (some guest) f i store
  let start := match done.result with
    | .error _ => done.store.refuel
    | .ok _ => done.store
  exchangeTrace c (some guest) f i store ++ .passes done.store :: .passes start ::
    guest.releaseTrace c done.blocks start

/-! ## Invocations -/

namespace Instance

/-- The events between the store before an invocation and the one behind it. -/
def trace (a : Instance) (i : Invocation) : List Event :=
  match Guest.function? a.prepared.module i.target with
  | none => []
  | some (f, type) =>
    match check i type with
    | .error _ => []
    | .ok () =>
      let c := a.prepared.code
      let store := a.store.refuel
      if i.usesMemory then
        match Guest.resolve a.prepared.module with
        | .error _ => []
        | .ok guest => .passes store :: memoryTrace c guest f i store
      else .passes store :: exchangeTrace c none f i store

/-- The events of invocations one after the other, with the store behind each. -/
def traceAfter (a : Instance) : List Invocation → List Event
  | [] => []
  | i :: is => a.trace i ++ .passes (a.invoke i).after.store :: (a.invoke i).after.traceAfter is

variable {a : Instance} {i : Invocation} {f : Nat}

/-- An invocation that needs no guest memory refuels and is then an exchange without a guest. -/
theorem Bypasses.trace_eq (h : a.Bypasses i f) :
    a.trace i =
      .passes a.store.refuel :: exchangeTrace a.prepared.code none f i a.store.refuel := by
  obtain ⟨⟨type, hfunction, hcheck⟩, hmemory⟩ := h
  simp only [trace, hfunction, hcheck, hmemory, Bool.false_eq_true, if_false]

/-- An invocation through guest memory refuels and then calls through it. -/
theorem Exchanges.trace_eq {guest : Guest} (h : a.Exchanges i f guest) :
    a.trace i =
      .passes a.store.refuel :: memoryTrace a.prepared.code guest f i a.store.refuel := by
  obtain ⟨⟨type, hfunction, hcheck⟩, hmemory, hresolve⟩ := h
  simp only [trace, hfunction, hcheck, hmemory, hresolve, if_true]

/-- An invocation that does not get as far as passing its arguments is without events. -/
theorem trace_eq_nil (h : ∀ f guest, ¬ a.Reaches i f guest) : a.trace i = [] := by
  cases a.starts i with
  | notFound hfunction => simp only [trace, hfunction]
  | unsuited hfunction hcheck => simp only [trace, hfunction, hcheck]
  | lacking hfunction hcheck hmemory hresolve =>
    simp only [trace, hfunction, hcheck, hmemory, if_true, hresolve]
  | reaches hreaches => exact absurd hreaches (h _ _)

/-! ## What the calls returned -/

/-- What guest calls returned in invocations one after the other. -/
def answersAfter (a : Instance) (is : List Invocation) : List Answer :=
  answersOf (a.traceAfter is)

theorem answersAfter_cons (a : Instance) (i : Invocation) (is : List Invocation) :
    a.answersAfter (i :: is) =
      answersOf (a.trace i) ++ (a.invoke i).after.answersAfter is := by
  rw [answersAfter, traceAfter, Machine.answersOf_append, Machine.answersOf_passes, answersAfter]

theorem answersAfter_append (a : Instance) (is js : List Invocation) :
    a.answersAfter (is ++ js) = a.answersAfter is ++ (a.afterAll is).answersAfter js := by
  induction is generalizing a with
  | nil => rfl
  | cons i is ih =>
    rw [List.cons_append, answersAfter_cons, ih, answersAfter_cons, List.append_assoc,
      afterAll_cons]

end Instance

end WasmGuest
