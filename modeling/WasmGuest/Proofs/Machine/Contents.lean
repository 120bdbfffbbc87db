import WasmGuest.Proofs.Machine.Simulation

/-!
# The contents of a store

A store holds its contents, and beside them two counts of fuel.  The counts matter to a
limit only: without one, a run on two stores of the same contents goes the same way,
and it never runs out of fuel.

* `SameContents`: the stores differ in their counts at most.
* `sameEnd_call`: a call from outside without a limit.
-/

namespace WasmGuest.Machine

/-- Two stores with the same memories, globals, tables and segments. -/
def SameContents (st st' : Store) : Prop :=
  st'.toContents = st.toContents

/-- Refuelling leaves the contents and nothing else. -/
theorem sameContents_iff_refuel {st st' : Store} :
    SameContents st st' ↔ st'.refuel = st.refuel := by
  simp [SameContents, Store.refuel]

namespace SameContents

variable {st st' : Store}

@[refl] theorem refl (st : Store) : SameContents st st :=
  rfl

@[symm] theorem symm (h : SameContents st st') : SameContents st' st :=
  Eq.symm h

theorem trans {st'' : Store} (h : SameContents st st') (h' : SameContents st' st'') :
    SameContents st st'' :=
  Eq.trans h' h

theorem refuel (st : Store) : SameContents st st.refuel :=
  rfl

theorem afterHalt (st : Store) (cause : Halt) : SameContents st (st.afterHalt cause) :=
  st.toContents_afterHalt cause

theorem globals_eq (h : SameContents st st') : st'.globals = st.globals :=
  congrArg Contents.globals h

theorem memorySize_eq (h : SameContents st st') (x : Nat) : st'.memorySize x = st.memorySize x :=
  congrArg (Contents.memorySize · x) h

end SameContents

/-- Without a limit the counts do not matter. -/
theorem simulates_sameContents {c : Code} (hc : c.limit = none) :
    Simulates c c False SameContents where
  funcs_eq := rfl
  maxMemory_eq := rfl
  contents_eq h := h
  put _ _ := rfl
  spend _ h := h
  settle h := h
  afterHalt cause h := ((SameContents.afterHalt _ cause).symm.trans h).trans (.afterHalt _ cause)
  exhausted h := .inl (by simp [Code.exhausted, hc])

/-- Without a limit a call from outside ends in the same way on stores of the same contents. -/
theorem sameEnd_call {c : Code} (hc : c.limit = none) (f : Nat) (args : List Wasm.Val)
    {st st' : Store} (h : SameContents st st') :
    SameEnd SameContents (call c f args st) (call c f args st') := by
  have hfollows := (simulates_sameContents hc).call f args h
  generalize call c f args st = r, call c f args st' = r' at hfollows
  cases hfollows with
  | early hslack => exact hslack.elim
  | same h => exact h

end WasmGuest.Machine
