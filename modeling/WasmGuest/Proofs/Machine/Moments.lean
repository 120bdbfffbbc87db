import WasmGuest.Proofs.Machine.Trace

/-!
# The moments of a run

What is to hold at every moment of a run, and not only when the run is over, is said
of the stores that it passes through.

* `momentsOf`: the stores that events pass through.
* `Ordered`: stores on the way from one to another, each related to every later one.
* `Spans`: a relation that holds across each of the ways a store changes while
  code runs; `Keeps` asks for halts as well.
* `Spans.alongCalls`: such a relation is a property of stretches, and
  `Keeps.ordered_callTrace` is what that comes to for a call from outside.
* `memorySize_le_call`: a call never makes a memory smaller.
-/

namespace WasmGuest.Machine

/-! ## Stores on the way -/

/-- The store that an event passes through. -/
def Event.moment? : Event → Option Store
  | passes st => some st
  | looks _ | answers _ => none

/-- The stores that events pass through. -/
def momentsOf (events : List Event) : List Store :=
  events.filterMap Event.moment?

@[simp] theorem momentsOf_nil : momentsOf [] = [] := rfl

@[simp] theorem momentsOf_append (l l' : List Event) :
    momentsOf (l ++ l') = momentsOf l ++ momentsOf l' :=
  List.filterMap_append

@[simp] theorem momentsOf_passes (st : Store) (l : List Event) :
    momentsOf (.passes st :: l) = st :: momentsOf l := rfl

/-- The stores `l` lie between `a` and `b` in this order, each related to every later one. -/
structure Ordered (R : Store → Store → Prop) (a : Store) (l : List Store) (b : Store) : Prop where
  behind : ∀ st ∈ l, R a st
  pairwise : l.Pairwise R
  before : ∀ st ∈ l, R st b
  ends : R a b

theorem Ordered.nil {R : Store → Store → Prop} {a b : Store} (h : R a b) : Ordered R a [] b where
  behind _ hst := absurd hst List.not_mem_nil
  pairwise := .nil
  before _ hst := absurd hst List.not_mem_nil
  ends := h

/-! ## Relations that hold on the way -/

/-- A relation between the store before and the store after that holds across each of the ways in
which a store changes while code runs. -/
structure Spans (c : Code) (R : Store → Store → Prop) : Prop where
  trans : ∀ {a b d}, R a b → R b d → R a d
  spend : ∀ st n, R st (st.spend n)
  settle : ∀ st, R st st.settle
  touch : ∀ {st k}, Touches c.maxMemory st.toContents k → R st { st with toContents := k }

namespace Spans

variable {c : Code} {R : Store → Store → Prop}

theorem refl (hR : Spans c R) (st : Store) : R st st :=
  hR.touch .nothing

/-- Two ways, of which the second begins where the first one ends. -/
theorem append (hR : Spans c R) {a b d : Store} {l l' : List Store} (h : Ordered R a l b)
    (h' : Ordered R b l' d) : Ordered R a (l ++ l') d where
  behind st hst := by
    rcases List.mem_append.1 hst with hst | hst
    · exact h.behind st hst
    · exact hR.trans h.ends (h'.behind st hst)
  pairwise := List.pairwise_append.2 ⟨h.pairwise, h'.pairwise,
    fun st hst st' hst' => hR.trans (h.before st hst) (h'.behind st' hst')⟩
  before st hst := by
    rcases List.mem_append.1 hst with hst | hst
    · exact hR.trans (h.before st hst) h'.ends
    · exact h'.before st hst
  ends := hR.trans h.ends h'.ends

/-- A way that begins with one more store. -/
theorem cons (hR : Spans c R) {a b d : Store} {l : List Store} (hab : R a b)
    (h : Ordered R b l d) : Ordered R a (b :: l) d where
  behind := List.forall_mem_cons.2 ⟨hab, fun st hst => hR.trans hab (h.behind st hst)⟩
  pairwise := .cons h.behind h.pairwise
  before := List.forall_mem_cons.2 ⟨h.ends, h.before⟩
  ends := hR.trans hab h.ends

/-- The relation holds from moment to moment of every stretch. -/
theorem alongCalls (hR : Spans c R) :
    AlongCalls c fun a l _ b => Ordered R a (momentsOf l) b where
  append h h' := by
    rw [momentsOf_append]
    exact hR.append h h'
  touch h := .nil (hR.touch h)
  halt st _ _ := .nil (hR.refl st)
  spend st n := hR.cons (hR.spend st n) (.nil (hR.refl _))
  settle st := hR.cons (hR.settle st) (.nil (hR.refl _))
  passes h := by
    rw [momentsOf_append]
    exact hR.append h (hR.cons (hR.refl _) (.nil (hR.refl _)))
  goesOn st _ := .nil (hR.refl st)
  runsOut st _ := .nil (hR.refl st)
  leaves st := hR.cons (hR.settle st) (.nil (hR.refl _))
  onward h := h
  answers _ _ _ h := by
    rw [momentsOf_append]
    exact hR.append h (.nil (hR.refl _))

end Spans

/-- The relation holds across a halt that a call from outside comes back with, too. -/
structure Keeps (c : Code) (R : Store → Store → Prop) : Prop extends Spans c R where
  afterHalt : ∀ st h, R st (st.afterHalt h)

namespace Keeps

variable {c : Code} {R : Store → Store → Prop}

/-- A relation that runs keep, halts included, holds all through a call from outside. -/
theorem ordered_callTrace (hR : Keeps c R) (f : Nat) (args : List Wasm.Val) (st : Store) :
    Ordered R st (momentsOf (callTrace c f args st)) (call c f args st).store := by
  have hway := hR.alongCalls.callTrace f args st
  rw [← List.append_nil (momentsOf (callTrace c f args st))]
  refine hR.append hway (.nil ?_)
  rw [call]
  cases invoke c depthBound f args.reverse st.settle with
  | values vs after => exact hR.refl after
  | halt h after => exact hR.afterHalt after h

/-- A call from outside keeps the relation. -/
theorem call (hR : Keeps c R) (f : Nat) (args : List Wasm.Val) (st : Store) :
    R st (Machine.call c f args st).store :=
  (hR.ordered_callTrace f args st).ends

end Keeps

/-! ## The size of the memories -/

theorem keeps_memorySize (c : Code) (x : Nat) :
    Keeps c fun st st' => st.memorySize x ≤ st'.memorySize x where
  trans := Nat.le_trans
  spend _ _ := Nat.le_refl _
  settle _ := Nat.le_refl _
  touch h := h.memorySize_le x
  afterHalt st h := Nat.le_of_eq (by rw [st.toContents_afterHalt h])

/-- A call never makes a memory smaller. -/
theorem memorySize_le_call (c : Code) (f : Nat) (args : List Wasm.Val) (st : Store) (x : Nat) :
    st.memorySize x ≤ (call c f args st).store.memorySize x :=
  (keeps_memorySize c x).call f args st

end WasmGuest.Machine
