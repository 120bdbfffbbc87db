import WasmGuest.Proofs.Machine.Simulation

/-!
# What is left of a limit

A limit counts from the last refuelling.  What was spent since then matters in one
way only: code that starts with some fuel spent runs as it would from a full tank
under a limit that is lower by as much.  Nothing that code can do depends on how
the limit divides into what is spent and what is left.

* `Store.advance`, `CallResult.advance`: the store as it is if some fuel had been spent
  and settled before.
* `Code.lowered`: the code under a lower limit.
* `call_advance`: a call from outside.
-/

namespace WasmGuest.Machine

/-- The store with more fuel spent, and settled, before. -/
def Store.advance (k : Nat) (st : Store) : Store :=
  match st with
  | ⟨contents, spent, settled⟩ => ⟨contents, spent + k, settled + k⟩

def CallResult.advance (k : Nat) : CallResult → CallResult
  | values vs st => values vs (st.advance k)
  | halt h st => halt h (st.advance k)

/-- The code under a limit that is lower by some units, and no limit below none. -/
def Code.lowered (c : Code) (k : Nat) : Code :=
  { c with limit := c.limit.map (· - k) }

theorem Store.afterHalt_advance (k : Nat) (st : Store) (h : Halt) :
    (st.advance k).afterHalt h = (st.afterHalt h).advance k := by
  rcases h with t | _ | _
  · cases t <;> rfl
  · rfl
  · rfl

/-- A store whose fuel is settled is a full tank from which that fuel was spent before. -/
theorem Store.eq_advance_refuel {st : Store} (h : st.settled = st.spent) :
    st = st.refuel.advance st.spent := by
  obtain ⟨contents, spent, settled⟩ := st
  simp only at h
  simp [advance, refuel, h]

/-- The limit is reached with fuel spent before as it is if it were lower by as much. -/
theorem exhausted_advance (c : Code) (k : Nat) (st : Store) :
    c.exhausted (st.advance k) = (c.lowered k).exhausted st := by
  obtain ⟨funcs, limit, maxMemory⟩ := c
  cases limit with
  | none => rfl
  | some limit => exact decide_eq_decide.2 Nat.sub_le_iff_le_add.symm

/-- From a full tank under the lower limit, and with fuel spent before, code goes the same way. -/
theorem simulates_advance (c : Code) (k : Nat) :
    Simulates (c.lowered k) c False fun st st' => st' = st.advance k where
  funcs_eq := rfl
  maxMemory_eq := rfl
  contents_eq := by
    rintro st _ rfl
    rfl
  put := by
    rintro st _ contents rfl
    rfl
  spend := by
    rintro st _ n rfl
    simp only [Store.advance, Store.spend, Nat.add_right_comm]
  settle := by
    rintro st _ rfl
    rfl
  afterHalt := by
    rintro st _ cause rfl
    exact st.afterHalt_advance k cause
  exhausted := by
    rintro st _ rfl
    exact .inl (exhausted_advance c k st)

/-- A call from outside with fuel spent before goes as it would from a full tank under the lower
limit. -/
theorem call_advance (c : Code) (k f : Nat) (args : List Wasm.Val) (st : Store) :
    call c f args (st.advance k) = (call (c.lowered k) f args st).advance k := by
  have hfollows := (simulates_advance c k).call f args (rfl : st.advance k = st.advance k)
  generalize call (c.lowered k) f args st = r, call c f args (st.advance k) = r' at hfollows
  cases hfollows with
  | early hslack => exact hslack.elim
  | same hsame =>
    cases hsame with
    | values hstore => rw [hstore, CallResult.advance]
    | halt hstore => rw [hstore, CallResult.advance]

end WasmGuest.Machine
