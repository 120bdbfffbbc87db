import WasmGuest.Proofs.Machine.Checks

/-!
# Two runs side by side

Two codes with the same functions run on two stores with the same contents.  What
code does depends on the contents, and on the fuel only where the limit is looked
at.  So if both codes find the limit reached at the same time, or if the first one
may find it reached earlier, the runs go the same way for as long as both go.

* `Simulates`: a relation between the stores of two codes that whatever code does
  keeps; `slack` says that the first code may run out of fuel earlier.
* `SameExit`, `SameEnd`: code is left, or a call ends, in the same way on related
  stores.  `Follows` allows the first run to have ended for want of fuel.
* `Simulates.exec` is the induction over the code, `Simulates.invoke` the one over the
  calls that may still become active, and `Simulates.call` a call from outside.
-/

namespace WasmGuest.Machine

open Wasm

/-! ## Related stores -/

/-- A relation between the stores of two codes with the same functions and bound on memory. -/
structure Simulates (c c' : Code) (slack : Prop) (R : Store → Store → Prop) : Prop where
  funcs_eq : c'.funcs = c.funcs
  maxMemory_eq : c'.maxMemory = c.maxMemory
  contents_eq : ∀ {st st'}, R st st' → st'.toContents = st.toContents
  put : ∀ {st st'} k, R st st' → R { st with toContents := k } { st' with toContents := k }
  spend : ∀ {st st'} n, R st st' → R (st.spend n) (st'.spend n)
  settle : ∀ {st st'}, R st st' → R st.settle st'.settle
  afterHalt : ∀ {st st'} h, R st st' → R (st.afterHalt h) (st'.afterHalt h)
  exhausted : ∀ {st st'}, R st st' →
    c'.exhausted st' = c.exhausted st ∨ slack ∧ c.exhausted st = true

/-! ## Leaving code in the same way -/

/-- Two pieces of code are left in the same way on related stores. -/
inductive SameExit (R : Store → Store → Prop) : Exit → Exit → Prop where
  | next {stack : List Val} {locals : Array Val} {st st' : Store} (h : R st st') :
      SameExit R (.next ⟨stack, locals, st⟩) (.next ⟨stack, locals, st'⟩)
  | branch {l : Nat} {stack : List Val} {locals : Array Val} {st st' : Store} (h : R st st') :
      SameExit R (.branch l ⟨stack, locals, st⟩) (.branch l ⟨stack, locals, st'⟩)
  | ret {stack : List Val} {locals : Array Val} {st st' : Store} (h : R st st') :
      SameExit R (.ret ⟨stack, locals, st⟩) (.ret ⟨stack, locals, st'⟩)
  | tail {f : Nat} {args : List Val} {st st' : Store} (h : R st st') :
      SameExit R (.tail f args st) (.tail f args st')
  | halt {cause : Halt} {st st' : Store} (h : R st st') :
      SameExit R (.halt cause st) (.halt cause st')

/-- Two calls end in the same way on related stores. -/
inductive SameEnd (R : Store → Store → Prop) : CallResult → CallResult → Prop where
  | values {vs : List Val} {st st' : Store} (h : R st st') :
      SameEnd R (.values vs st) (.values vs st')
  | halt {cause : Halt} {st st' : Store} (h : R st st') :
      SameEnd R (.halt cause st) (.halt cause st')

/-- The first of two pieces of code has run out of fuel early, or both are left in the same way. -/
inductive Follows (slack : Prop) (R : Store → Store → Prop) : Exit → Exit → Prop where
  | early {st : Store} {e' : Exit} (hslack : slack) :
      Follows slack R (.halt (.trap .outOfFuel) st) e'
  | same {e e' : Exit} (h : SameExit R e e') : Follows slack R e e'

/-- The first of two calls has run out of fuel early, or both end in the same way. -/
inductive FollowsCall (slack : Prop) (R : Store → Store → Prop) :
    CallResult → CallResult → Prop where
  | early {st : Store} {r' : CallResult} (hslack : slack) :
      FollowsCall slack R (.halt (.trap .outOfFuel) st) r'
  | same {r r' : CallResult} (h : SameEnd R r r') : FollowsCall slack R r r'

/-- From the same operands and locals on related stores, the second run follows the first. -/
def RunFollows (slack : Prop) (R : Store → Store → Prop) (run run' : State → Exit) : Prop :=
  ∀ stack locals {st st'}, R st st' →
    Follows slack R (run ⟨stack, locals, st⟩) (run' ⟨stack, locals, st'⟩)

/-- On the same arguments and related stores, the second call follows the first. -/
def CallsFollow (slack : Prop) (R : Store → Store → Prop)
    (calls calls' : Nat → List Val → Store → CallResult) : Prop :=
  ∀ f args {st st'}, R st st' → FollowsCall slack R (calls f args st) (calls' f args st')

section Follows

variable {slack : Prop} {R : Store → Store → Prop} {e e' : Exit}

theorem Follows.leave (h : Follows slack R e e') (arity : Nat) (outer : List Val) :
    Follows slack R (leave arity outer e) (leave arity outer e') := by
  cases h with
  | early hslack => exact .early hslack
  | same h =>
    cases h with
    | next h => exact .same (.next h)
    | @branch l _ _ _ _ h =>
      cases l with
      | zero => exact .same (.next h)
      | succ l => exact .same (.branch h)
    | ret h => exact .same (.ret h)
    | tail h => exact .same (.tail h)
    | halt h => exact .same (.halt h)

end Follows

/-! ## Code and calls -/

namespace Simulates

variable {c c' : Code} {slack : Prop} {R : Store → Store → Prop}
  {calls calls' : Nat → List Val → Store → CallResult}

/-- A single instruction does not see the fuel. -/
theorem step (hR : Simulates c c' slack R) (i : Instr) :
    RunFollows slack R (step c i) (step c' i) := by
  intro stack locals st st' h
  obtain ⟨contents, spent, settled⟩ := st
  obtain ⟨contents', spent', settled'⟩ := st'
  obtain rfl : contents' = contents := hR.contents_eq h
  rw [Machine.step, Machine.step, hR.maxMemory_eq]
  cases effect c.maxMemory i stack locals contents' with
  | next stack locals k => exact .same (.next (hR.put k h))
  | branch l stack locals k => exact .same (.branch (hR.put k h))
  | ret stack locals k => exact .same (.ret (hR.put k h))
  | halt cause k => exact .same (.halt (hR.put k h))

theorem iterate (hR : Simulates c c' slack R) {body body' : State → Exit}
    (hbody : RunFollows slack R body body') (arity turns : Nat) :
    RunFollows slack R (iterate c body arity turns) (iterate c' body' arity turns) := by
  induction turns with
  | zero =>
    intro stack locals st st' h
    exact .same (.halt h)
  | succ turns ih =>
    intro stack locals st st' h
    rw [Machine.iterate, Machine.iterate]
    rcases hR.exhausted h with hsame | ⟨hslack, hexhausted⟩
    · rw [hsame]
      split
      · exact .same (.halt h)
      · have hturn := hbody stack locals h
        generalize body ⟨stack, locals, st⟩ = e, body' ⟨stack, locals, st'⟩ = e' at hturn
        cases hturn with
        | early hslack => exact .early hslack
        | same hturn =>
          cases hturn with
          | next h => exact .same (.next h)
          | @branch l stack locals _ _ h =>
            cases l with
            | zero => exact ih (stack.take arity) locals h
            | succ l => exact .same (.branch h)
          | ret h => exact .same (.ret h)
          | tail h => exact .same (.tail h)
          | halt h => exact .same (.halt h)
    · rw [if_pos hexhausted]
      exact .early hslack

theorem callWith (hR : Simulates c c' slack R) (hcalls : CallsFollow slack R calls calls')
    (f : Nat) : RunFollows slack R (callWith c calls f) (callWith c' calls' f) := by
  intro stack locals st st' h
  rw [Machine.callWith, Machine.callWith, hR.funcs_eq]
  cases c.funcs[f]? with
  | none => exact .same (.halt h)
  | some fn =>
    have hcall := hcalls f (stack.take fn.type.params.length) (hR.settle h)
    simp only
    generalize calls f (stack.take fn.type.params.length) st.settle = r,
      calls' f (stack.take fn.type.params.length) st'.settle = r' at hcall
    cases hcall with
    | early hslack => exact .early hslack
    | same hcall =>
      cases hcall with
      | values h => exact .same (.next h)
      | halt h => exact .same (.halt h)

theorem tailWith (hR : Simulates c c' slack R) (f : Nat) :
    RunFollows slack R (tailWith c f) (tailWith c' f) := by
  intro stack locals st st' h
  rw [Machine.tailWith, Machine.tailWith, hR.funcs_eq]
  cases c.funcs[f]? with
  | none => exact .same (.halt h)
  | some fn => exact .same (.tail (hR.settle h))

/-- Both runs find the same function in a table. -/
theorem withCallee (hR : Simulates c c' slack R) (x : Nat) (type : FuncType)
    {go go' : Nat → State → Exit} (hgo : ∀ f, RunFollows slack R (go f) (go' f)) :
    RunFollows slack R (withCallee c x type .halt go) (withCallee c' x type .halt go') := by
  intro stack locals st st' h
  cases stack with
  | nil => exact .same (.halt h)
  | cons v stack =>
    have hcallee (i : Nat) :
        callee c' x type i st'.toContents = callee c x type i st.toContents := by
      rw [callee, callee, hR.funcs_eq, hR.contents_eq h]
    simp only [Machine.withCallee, hcallee]
    cases address? v with
    | none => exact .same (.halt h)
    | some i =>
      simp only
      cases callee c x type i st.toContents with
      | ok f => exact hgo f stack locals h
      | error cause => exact .same (.halt (hR.settle h))

theorem execAll_of_forall (hR : Simulates c c' slack R) {is : List Instr}
    (his : ∀ i ∈ is, RunFollows slack R (exec c calls i) (exec c' calls' i)) :
    RunFollows slack R (execAll c calls is) (execAll c' calls' is) := by
  induction is with
  | nil =>
    intro stack locals st st' h
    exact .same (.next h)
  | cons i is ih =>
    intro stack locals st st' h
    have hfirst := his i List.mem_cons_self stack locals (hR.spend (cost i) h)
    have hrest := ih fun j hj => his j (List.mem_cons_of_mem i hj)
    rw [execAll, execAll]
    generalize exec c calls i ⟨stack, locals, st.spend (cost i)⟩ = e,
      exec c' calls' i ⟨stack, locals, st'.spend (cost i)⟩ = e' at hfirst
    cases hfirst with
    | early hslack => exact .early hslack
    | same hfirst =>
      cases hfirst with
      | next h => exact hrest _ _ h
      | branch h => exact .same (.branch h)
      | ret h => exact .same (.ret h)
      | tail h => exact .same (.tail h)
      | halt h => exact .same (.halt h)

/-- The induction over the code. -/
theorem exec (hR : Simulates c c' slack R) (hcalls : CallsFollow slack R calls calls')
    (i : Instr) : RunFollows slack R (exec c calls i) (exec c' calls' i) := by
  induction i using Instr.induct with
  | block type body ih =>
    intro stack locals st st' h
    rw [Machine.exec, Machine.exec]
    exact (hR.execAll_of_forall ih _ _ h).leave _ _
  | loop type body ih =>
    intro stack locals st st' h
    rw [Machine.exec, Machine.exec]
    exact (hR.iterate (hR.execAll_of_forall ih) _ _ _ _ h).leave _ _
  | ifElse type onTrue onFalse ihTrue ihFalse =>
    intro stack locals st st' h
    rw [Machine.exec, Machine.exec]
    cases condition? stack with
    | none => exact .same (.halt h)
    | some operand =>
      obtain ⟨b, stack⟩ := operand
      cases b with
      | true => exact (hR.execAll_of_forall ihTrue _ _ h).leave _ _
      | false => exact (hR.execAll_of_forall ihFalse _ _ h).leave _ _
  | call f =>
    intro stack locals st st' h
    rw [Machine.exec, Machine.exec]
    exact hR.callWith hcalls f stack locals h
  | callIndirect x type =>
    intro stack locals st st' h
    rw [Machine.exec, Machine.exec]
    exact hR.withCallee x type (hR.callWith hcalls) stack locals h
  | returnCall f =>
    intro stack locals st st' h
    rw [Machine.exec, Machine.exec]
    exact hR.tailWith f stack locals h
  | returnCallIndirect x type =>
    intro stack locals st st' h
    rw [Machine.exec, Machine.exec]
    exact hR.withCallee x type hR.tailWith stack locals h
  | single i hi =>
    intro stack locals st st' h
    rw [exec_eq_step hi, exec_eq_step hi]
    exact hR.step i stack locals h

theorem execAll (hR : Simulates c c' slack R) (hcalls : CallsFollow slack R calls calls')
    (is : List Instr) : RunFollows slack R (execAll c calls is) (execAll c' calls' is) :=
  hR.execAll_of_forall fun i _ => hR.exec hcalls i

theorem enter (hR : Simulates c c' slack R) (hcalls : CallsFollow slack R calls calls')
    (turns : Nat) : CallsFollow slack R (enter c calls turns) (enter c' calls' turns) := by
  induction turns with
  | zero =>
    intro f args st st' h
    exact .same (.halt h)
  | succ turns ih =>
    intro f args st st' h
    have hentered := hR.spend 1 h
    rw [Machine.enter, Machine.enter, hR.funcs_eq]
    simp only
    rcases hR.exhausted hentered with hsame | ⟨hslack, hexhausted⟩
    · rw [hsame]
      split
      · exact .same (.halt hentered)
      · cases c.funcs[f]? with
        | none => exact .same (.halt hentered)
        | some fn =>
          have hbody := hR.execAll hcalls fn.body []
            (args.reverse.toArray ++ (fn.locals.map Val.zero).toArray) hentered
          simp only
          generalize Machine.execAll c calls fn.body _ = e,
            Machine.execAll c' calls' fn.body _ = e' at hbody
          cases hbody with
          | early hslack => exact .early hslack
          | same hbody =>
            cases hbody with
            | next h => exact .same (.values (hR.settle h))
            | branch h => exact .same (.values (hR.settle h))
            | ret h => exact .same (.values (hR.settle h))
            | tail h => exact ih _ _ h
            | halt h => exact .same (.halt h)
    · rw [if_pos hexhausted]
      exact .early hslack

/-- The induction over the calls that may still become active. -/
theorem invoke (hR : Simulates c c' slack R) (depth : Nat) :
    CallsFollow slack R (invoke c depth) (invoke c' depth) := by
  induction depth with
  | zero =>
    intro f args st st' h
    exact .same (.halt h)
  | succ depth ih =>
    intro f args st st' h
    rw [Machine.invoke, Machine.invoke]
    exact hR.enter ih turnBound f args h

/-- A call from outside. -/
theorem call (hR : Simulates c c' slack R) (f : Nat) (args : List Val) {st st' : Store}
    (h : R st st') : FollowsCall slack R (call c f args st) (call c' f args st') := by
  have hinvoked := hR.invoke depthBound f args.reverse (hR.settle h)
  rw [Machine.call, Machine.call]
  generalize Machine.invoke c depthBound f args.reverse st.settle = r,
    Machine.invoke c' depthBound f args.reverse st'.settle = r' at hinvoked
  cases hinvoked with
  | early hslack => exact .early hslack
  | same hinvoked =>
    cases hinvoked with
    | values h => exact .same (.values h)
    | halt h => exact .same (.halt (hR.afterHalt _ h))

end Simulates

end WasmGuest.Machine
