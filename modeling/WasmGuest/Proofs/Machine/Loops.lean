import WasmGuest.Proofs.Machine.Steps

/-!
# Counted loops

A loop that counts up has locals that depend on nothing but the number of turns
made.  If every turn below a count goes from the locals of its number to those of
the next, and the turn at the count leaves, then the loop ends there, unless the
fuel runs out at the head of some turn before.

* `iterate_leaves`, `iterate_runsOut`, `iterate_endless`: the run of such a loop.
* `Counts` is what a call of a function comes to that turns such a loop and then
  returns one of its locals, and `counts_invoke` proves it; `Circles` and
  `circles_invoke` are the same for a loop that is never left.
-/

namespace WasmGuest.Machine

open Wasm

/-- The turns below a count go from the locals of one number to those of the next. -/
def Advances (body : State → Exit) (locals : Nat → Array Val) (cost count : Nat) : Prop :=
  ∀ i < count, ∀ st, body ⟨[], locals i, st⟩ = .branch 0 ⟨[], locals (i + 1), st.spend cost⟩

/-- From these locals a turn breaks out of the block around the loop. -/
def Breaks (body : State → Exit) (locals : Array Val) (cost : Nat) : Prop :=
  ∀ st, body ⟨[], locals, st⟩ = .branch 1 ⟨[], locals, st.spend cost⟩

namespace Advances

variable {body : State → Exit} {locals : Nat → Array Val} {cost count : Nat}

/-- The turns behind the first. -/
theorem tail (h : Advances body locals cost (count + 1)) :
    Advances body (fun i => locals (i + 1)) cost count :=
  fun i hi => h (i + 1) (Nat.succ_lt_succ hi)

theorem head (h : Advances body locals cost (count + 1)) (st : Store) :
    body ⟨[], locals 0, st⟩ = .branch 0 ⟨[], locals 1, st.spend cost⟩ :=
  h 0 (Nat.succ_pos count) st

end Advances

/-! ## The turns of a loop -/

section Iterate

variable {c : Code} {body : State → Exit} {locals : Nat → Array Val} {st : Store}
  {cost exitCost count turns : Nat}

theorem iterate_head (hin : c.exhausted st = false) {next : Array Val} {after : Store}
    {now : Array Val} (hbody : body ⟨[], now, st⟩ = .branch 0 ⟨[], next, after⟩) :
    iterate c body 0 (turns + 1) ⟨[], now, st⟩ = iterate c body 0 turns ⟨[], next, after⟩ := by
  rw [iterate]
  simp only [hin, Bool.false_eq_true, if_false, hbody, List.take_nil]

/-- With fuel at the head of every turn, the loop is left at its count. -/
theorem iterate_leaves (hturn : Advances body locals cost count)
    (hexit : Breaks body (locals count) exitCost) (hturns : count < turns)
    (hfuel : ∀ l, c.limit = some l → st.spent + cost * count < l) :
    iterate c body 0 turns ⟨[], locals 0, st⟩ =
      .branch 1 ⟨[], locals count, st.spend (cost * count + exitCost)⟩ := by
  obtain ⟨turns, rfl⟩ := Nat.exists_eq_add_one_of_ne_zero (Nat.ne_zero_of_lt hturns)
  have hin : c.exhausted st = false :=
    Code.not_exhausted_iff.2 fun l hl => Nat.lt_of_le_of_lt (Nat.le_add_right _ _) (hfuel l hl)
  induction count generalizing locals st turns with
  | zero =>
    rw [iterate]
    simp only [hin, Bool.false_eq_true, if_false, hexit st, Nat.mul_zero, Nat.zero_add]
  | succ count ih =>
    obtain ⟨turns, rfl⟩ := Nat.exists_eq_add_one_of_ne_zero (show turns ≠ 0 by omega)
    have hrest : ∀ l, c.limit = some l → (st.spend cost).spent + cost * count < l := by
      intro l hl
      have := hfuel l hl
      rw [Nat.mul_succ] at this
      show st.spent + cost + cost * count < l
      omega
    have hnext : c.exhausted (st.spend cost) = false :=
      Code.not_exhausted_iff.2 fun l hl => Nat.lt_of_le_of_lt (Nat.le_add_right _ _) (hrest l hl)
    rw [iterate_head hin (hturn.head st), ih hturn.tail hexit hrest turns (by omega) hnext,
      Store.spend_spend]
    exact congrArg (fun k => Exit.branch 1 ⟨[], locals (count + 1), st.spend k⟩)
      (by rw [Nat.mul_succ]; omega)

/-- If the limit is reached at the head of some turn up to the count, the fuel runs out. -/
theorem iterate_runsOut (hturn : Advances body locals cost count) (hturns : count < turns)
    {l : Nat} (hlimit : c.limit = some l) (hfuel : l ≤ st.spent + cost * count) :
    ∃ after, iterate c body 0 turns ⟨[], locals 0, st⟩ = .halt (.trap .outOfFuel) after := by
  obtain ⟨turns, rfl⟩ := Nat.exists_eq_add_one_of_ne_zero (Nat.ne_zero_of_lt hturns)
  induction count generalizing locals st turns with
  | zero =>
    refine ⟨st, ?_⟩
    rw [iterate, if_pos (Code.exhausted_iff.2 ⟨l, hlimit, hfuel⟩)]
  | succ count ih =>
    obtain ⟨turns, rfl⟩ := Nat.exists_eq_add_one_of_ne_zero (show turns ≠ 0 by omega)
    cases hin : c.exhausted st with
    | true =>
      refine ⟨st, ?_⟩
      rw [iterate, if_pos hin]
    | false =>
      rw [iterate_head hin (hturn.head st)]
      refine ih hturn.tail ?_ turns (by omega)
      rw [Nat.mul_succ] at hfuel
      show l ≤ st.spent + cost + cost * count
      omega

/-- Without a limit, a loop that has no last turn does not end. -/
theorem iterate_endless (hturn : ∀ count, Advances body locals cost count)
    (hlimit : c.limit = none) (turns : Nat) (st : Store) :
    ∃ after, iterate c body 0 turns ⟨[], locals 0, st⟩ = .halt .endless after := by
  induction turns generalizing locals st with
  | zero => exact ⟨st, rfl⟩
  | succ turns ih =>
    have hin : c.exhausted st = false :=
      Code.not_exhausted_iff.2 fun l hl => absurd (hlimit.symm.trans hl) nofun
    rw [iterate_head hin ((hturn 1).head st)]
    exact ih (fun count => (hturn (count + 1)).tail) (st.spend cost)

end Iterate

/-! ## A function that loops -/

/-- What a call of a function comes to that turns a counted loop: it returns, or the fuel runs out
at the entry or at the head of a turn.  `lastCheck` is what is spent at the last head. -/
inductive Counts (c : Code) (v : Val) (lastCheck cost : Nat) (st : Store) : CallResult → Prop where
  | returns (hfuel : ∀ l, c.limit = some l → st.spent + lastCheck < l) :
      Counts c v lastCheck cost st (.values [v] (st.spend cost).settle)
  | runsOut {l : Nat} {after : Store} (hlimit : c.limit = some l)
      (hfuel : l ≤ st.spent + lastCheck) :
      Counts c v lastCheck cost st (.halt (.trap .outOfFuel) after)

/-- What a call of a function comes to whose loop has no last turn: with a limit the fuel runs out,
and without one the call does not end. -/
inductive Circles (c : Code) : CallResult → Prop where
  | runsOut {l : Nat} {after : Store} (hlimit : c.limit = some l) :
      Circles c (.halt (.trap .outOfFuel) after)
  | endless {after : Store} (hlimit : c.limit = none) : Circles c (.halt .endless after)

/-- A call from outside starts settled. -/
theorem Counts.of_invoke {c : Code} {f : Nat} {args : List Val} {v : Val} {lastCheck cost : Nat}
    {st : Store} (h : Counts c v lastCheck cost st.settle
      (invoke c depthBound f args.reverse st.settle)) :
    Counts c v lastCheck cost st.settle (call c f args st) := by
  rw [call]
  generalize invoke c depthBound f args.reverse st.settle = r at h ⊢
  cases h with
  | returns hfuel => exact .returns hfuel
  | runsOut hlimit hfuel => exact .runsOut hlimit hfuel

theorem Circles.of_invoke {c : Code} {f : Nat} {args : List Val} {st : Store}
    (h : Circles c (invoke c depthBound f args.reverse st.settle)) :
    Circles c (call c f args st) := by
  rw [call]
  generalize invoke c depthBound f args.reverse st.settle = r at h ⊢
  cases h with
  | runsOut hlimit => exact .runsOut hlimit
  | endless hlimit => exact .endless hlimit

section Function

variable {c : Code} {calls : Nat → List Val → Store → CallResult} {turn is : List Instr}
  {locals : Nat → Array Val} {now : Array Val} {st : Store} {cost exitCost count : Nat}

theorem execAll_counted (hloop : iterate c (execAll c calls turn) 0 turnBound ⟨[], now, st⟩ =
      .branch 1 ⟨[], locals count, st.spend cost⟩) :
    execAll c calls (.block ⟨[], []⟩ [.loop ⟨[], []⟩ turn] :: is) ⟨[], now, st⟩ =
      execAll c calls is ⟨[], locals count, st.spend cost⟩ := by
  rw [execAll_block, execAll_loop]
  simp only [List.length_nil, List.take_nil, List.drop_nil, hloop, leave, andThen, List.append_nil]

theorem execAll_counted_of_halt {h : Halt} {after : Store}
    (hloop : iterate c (execAll c calls turn) 0 turnBound ⟨[], now, st⟩ = .halt h after) :
    execAll c calls (.block ⟨[], []⟩ [.loop ⟨[], []⟩ turn] :: is) ⟨[], now, st⟩ =
      .halt h after := by
  rw [execAll_block, execAll_loop]
  simp only [List.length_nil, List.take_nil, hloop, leave, andThen]

end Function

/-- The function at an index prepares locals for some fuel, turns a loop and returns a local. -/
structure Looping (c : Code) (f : Nat) (args : List Val) (turn : List Instr) (result : Nat)
    (start : Array Val) (cost : Nat) (fn : Func) : Prop where
  func : c.funcs[f]? = some fn
  results : fn.type.results.length = 1
  prepares : ∀ calls st, execAll c calls fn.body
      ⟨[], args.reverse.toArray ++ (fn.locals.map Val.zero).toArray, st⟩ =
    execAll c calls [.block ⟨[], []⟩ [.loop ⟨[], []⟩ turn], .localGet result]
      ⟨[], start, st.spend cost⟩

namespace Looping

variable {c : Code} {f : Nat} {args : List Val} {turn : List Instr} {result depth : Nat}
  {locals : Nat → Array Val} {fn : Func} {st : Store} {startCost cost exitCost count : Nat}

theorem invoke_eq (h : Looping c f args turn result (locals 0) startCost fn)
    (hin : c.exhausted (st.spend 1) = false) :
    invoke c (depth + 1) f args st =
      returned 1 (enter c (invoke c depth) (turnBound - 1)) (execAll c (invoke c depth)
        [.block ⟨[], []⟩ [.loop ⟨[], []⟩ turn], .localGet result]
        ⟨[], locals 0, st.spend (1 + startCost)⟩) := by
  rw [invoke_succ]
  simp only [hin, Bool.false_eq_true, if_false, h.func, h.results, h.prepares, Store.spend_spend]

/-- The call returns what the local is at the count, unless the fuel runs out before. -/
theorem counts_invoke (h : Looping c f args turn result (locals 0) startCost fn)
    (hturn : ∀ calls, Advances (execAll c calls turn) locals cost count)
    (hexit : ∀ calls, Breaks (execAll c calls turn) (locals count) exitCost)
    (hcount : count < turnBound) {v : Val} (hresult : (locals count)[result]? = some v)
    (st : Store) :
    Counts c v (1 + startCost + cost * count) (1 + startCost + (cost * count + exitCost) + 1) st
      (invoke c (depth + 1) f args st) := by
  cases hin : c.exhausted (st.spend 1) with
  | true =>
    obtain ⟨l, hlimit, hl⟩ := Code.exhausted_iff.1 hin
    rw [invoke_succ]
    simp only [hin, if_true]
    refine .runsOut hlimit (Nat.le_trans hl ?_)
    show st.spent + 1 ≤ _
    omega
  | false =>
    rw [h.invoke_eq hin]
    have hspent : (st.spend (1 + startCost)).spent + cost * count =
        st.spent + (1 + startCost + cost * count) := Nat.add_assoc _ _ _
    by_cases hover : ∃ l, c.limit = some l ∧ l ≤ (st.spend (1 + startCost)).spent + cost * count
    · obtain ⟨l, hlimit, hl⟩ := hover
      obtain ⟨after, hloop⟩ := iterate_runsOut (hturn _) hcount hlimit hl
      rw [execAll_counted_of_halt hloop]
      exact .runsOut hlimit (hspent ▸ hl)
    · have hfuel : ∀ l, c.limit = some l → (st.spend (1 + startCost)).spent + cost * count < l :=
        fun l hl => Nat.lt_of_not_le fun hle => hover ⟨l, hl, hle⟩
      rw [execAll_counted (iterate_leaves (hturn _) (hexit _) hcount hfuel), execAll_localGet,
        hresult]
      simp only [Store.spend_spend]
      rw [execAll]
      exact .returns fun l hl => hspent ▸ hfuel l hl

/-- The call does not return if the loop has no last turn. -/
theorem circles_invoke (h : Looping c f args turn result (locals 0) startCost fn)
    (hturn : ∀ calls count, Advances (execAll c calls turn) locals cost count) (hcost : 0 < cost)
    (hbound : ∀ l, c.limit = some l → l < turnBound) (st : Store) :
    Circles c (invoke c (depth + 1) f args st) := by
  cases hin : c.exhausted (st.spend 1) with
  | true =>
    obtain ⟨l, hlimit, hl⟩ := Code.exhausted_iff.1 hin
    rw [invoke_succ]
    simp only [hin, if_true]
    exact .runsOut hlimit
  | false =>
    rw [h.invoke_eq hin]
    cases hlimit : c.limit with
    | none =>
      obtain ⟨after, hloop⟩ := iterate_endless (hturn _) hlimit turnBound
        (st.spend (1 + startCost))
      rw [execAll_counted_of_halt hloop]
      exact .endless hlimit
    | some l =>
      -- As many turns as there is fuel spend it.
      have hl : l ≤ (st.spend (1 + startCost)).spent + cost * l :=
        Nat.le_trans (Nat.le_mul_of_pos_left l hcost) (Nat.le_add_left _ _)
      obtain ⟨after, hloop⟩ := iterate_runsOut (hturn _ l) (hbound l hlimit) hlimit hl
      rw [execAll_counted_of_halt hloop]
      exact .runsOut hlimit

end Looping

end WasmGuest.Machine
