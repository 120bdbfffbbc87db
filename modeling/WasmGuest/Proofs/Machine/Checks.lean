import WasmGuest.Proofs.Machine.Trace

/-!
# Where the limit is looked at

Fuel is spent by every instruction, but the limit is looked at in two places
only: behind the entry of a function, and whenever control reaches the head of a
loop.  A run may therefore spend past its limit unnoticed.  It ends for want of fuel
if and only if the limit has been reached when it was looked at; nothing on the
way takes such an end for another one.

* `checksOf`: the stores at which the limit is looked at among events.
* `Tells`: a stretch ends for want of fuel exactly if one of its looks says so;
  `alongCalls_tells` shows this of every stretch.
* `call_ranOut_iff` is what it comes to for a call from outside.
-/

namespace WasmGuest.Machine

/-- The store at which an event looks at the limit. -/
def Event.check? : Event → Option Store
  | looks st => some st
  | passes _ | answers _ => none

/-- The stores at which the limit is looked at among events. -/
def checksOf (events : List Event) : List Store :=
  events.filterMap Event.check?

@[simp] theorem checksOf_nil : checksOf [] = [] := rfl

@[simp] theorem checksOf_append (l l' : List Event) :
    checksOf (l ++ l') = checksOf l ++ checksOf l' :=
  List.filterMap_append

@[simp] theorem checksOf_looks (st : Store) (l : List Event) :
    checksOf (.looks st :: l) = st :: checksOf l := rfl

theorem checksOf_of_check?_eq_none {x : Event} (hx : x.check? = none) :
    checksOf [x] = [] :=
  List.filterMap_cons_none hx

/-- A call ends because fuel has run out. -/
def CallResult.RanOut (r : CallResult) : Prop :=
  ∃ st, r = .halt (.trap .outOfFuel) st

/-- Only a halt for want of fuel is one. -/
theorem CallResult.ranOut_halt_iff {h : Halt} {st : Store} :
    (CallResult.halt h st).RanOut ↔ h = .trap .outOfFuel := by
  simp [CallResult.RanOut]

theorem CallResult.ranOut_iff_ending {r : CallResult} :
    r.RanOut ↔ r.ending = .halts (.trap .outOfFuel) := by
  cases r <;> simp [CallResult.RanOut, CallResult.ending]

/-- A stretch ends for want of fuel if and only if the limit has been reached when it was looked
at. -/
def Tells (c : Code) (events : List Event) (e : Ending) : Prop :=
  e = .halts (.trap .outOfFuel) ↔ (checksOf events).any c.exhausted = true

theorem tells_nil {c : Code} {e : Ending} (h : e ≠ .halts (.trap .outOfFuel)) : Tells c [] e := by
  simpa [Tells] using h

/-- Where a stretch goes on, the limit was not reached. -/
theorem Tells.any_eq_false {c : Code} {events : List Event} (h : Tells c events .goesOn) :
    (checksOf events).any c.exhausted = false := by
  rw [Tells] at h
  rw [← Bool.not_eq_true, ← h]
  simp

/-- An event that does not look at the limit does not matter. -/
theorem Tells.concat {c : Code} {events : List Event} {e : Ending} (h : Tells c events e)
    {x : Event} (hx : x.check? = none) : Tells c (events ++ [x]) e := by
  rw [Tells, checksOf_append, checksOf_of_check?_eq_none hx, List.append_nil]
  exact h

theorem alongCalls_tells (c : Code) : AlongCalls c fun _ l e _ => Tells c l e where
  append h h' := by
    rw [Tells, checksOf_append, List.any_append, h.any_eq_false, Bool.false_or]
    exact h'
  touch _ := tells_nil (by simp)
  halt _ _ h := tells_nil (by simpa using h)
  spend _ _ := (tells_nil (by simp)).concat rfl
  settle _ := (tells_nil (by simp)).concat rfl
  passes h := h.concat rfl
  goesOn st h := by simp [Tells, h]
  runsOut st h := by simp [Tells, h]
  leaves _ := (tells_nil (by simp)).concat rfl
  onward h := by simpa [Tells] using h
  answers _ _ _ h := h.concat rfl

/-- A call from outside runs out of fuel if and only if the limit has been reached when it was
looked at. -/
theorem call_ranOut_iff (c : Code) (f : Nat) (args : List Wasm.Val) (st : Store) :
    (call c f args st).RanOut ↔ ∃ s ∈ checksOf (callTrace c f args st), c.exhausted s = true := by
  have htold := (alongCalls_tells c).callTrace f args st
  rw [Tells, ← CallResult.ranOut_iff_ending, List.any_eq_true] at htold
  rw [← htold, call]
  cases invoke c depthBound f args.reverse st.settle with
  | values vs after => simp [CallResult.RanOut]
  | halt h after => simp [CallResult.RanOut]

/-- Without a limit no call runs out of fuel. -/
theorem not_ranOut_call {c : Code} (hc : c.limit = none) (f : Nat) (args : List Wasm.Val)
    (st : Store) : ¬ (call c f args st).RanOut := by
  rw [call_ranOut_iff]
  simp [Code.exhausted, hc]

end WasmGuest.Machine
