import WasmGuest.Proofs.Machine.Frame

/-!
# What happens on the way

A run leads from one store to another through others.  On the way the limit on fuel is
looked at, and calls return.  All of this is listed here in the order in which it
happens, clause for clause as the code runs; what is wanted of it is projected from
the one list.

* `Event`; `trace`, `allTrace`, `loopTrace` list the events of code, `enterTrace` and
  `invokeTrace` those of a call from within, `callTrace` those of a call from outside.
* `Along`: a property of stretches of a run that each way of going on keeps.
* `Along.trace` is the induction over the code, `AlongCalls.invokeTrace` the one over
  the calls that may still become active.
-/

namespace WasmGuest.Machine

open Wasm

/-- A call that returned: the function, its arguments and results in order, and the store behind
it. -/
structure Answer where
  func : Nat
  args : List Val
  results : List Val
  after : Store

inductive Event where
  /-- The run passes through a store. -/
  | passes (st : Store)
  /-- The limit is looked at. -/
  | looks (st : Store)
  /-- A call returns. -/
  | answers (a : Answer)

/-- The answer of a function on arguments, the last one first, if it returns. -/
def answered (f : Nat) (args : List Val) : CallResult → List Answer
  | .values vs after => [⟨f, args.reverse, vs.reverse, after⟩]
  | .halt _ _ => []

/-! ## The events of code -/

/-- The events of a loop; `within` are those of its body. -/
def loopTrace (c : Code) (body : State → Exit) (within : State → List Event) (arity : Nat) :
    (turns : Nat) → State → List Event
  | 0, _ => []
  | turns + 1, s =>
    .looks s.store ::
      if c.exhausted s.store then []
      else within s ++ match body s with
        | .branch 0 ⟨stack, locals, store⟩ =>
          .passes store :: loopTrace c body within arity turns ⟨stack.take arity, locals, store⟩
        | _ => []

/-- The events of a call with operands from the stack. -/
def operandTrace (c : Code) (within : Nat → List Val → Store → List Event) (f : Nat) :
    State → List Event
  | ⟨stack, _, store⟩ =>
    match c.funcs[f]? with
    | none => []
    | some fn =>
      .passes store.settle :: within f (stack.take fn.type.params.length) store.settle

/-- The events of leaving a function for another one. -/
def tailTrace (c : Code) (f : Nat) : State → List Event
  | ⟨_, _, store⟩ =>
    match c.funcs[f]? with
    | none => []
    | some _ => [.passes store.settle]

mutual

/-- The events of an instruction; `calls` makes calls and `within` are the events of a call. -/
def trace (c : Code) (calls : Nat → List Val → Store → CallResult)
    (within : Nat → List Val → Store → List Event) : Instr → State → List Event
  | .block type body, ⟨stack, locals, store⟩ =>
    allTrace c calls within body ⟨stack.take type.params.length, locals, store⟩
  | .loop type body, ⟨stack, locals, store⟩ =>
    let n := type.params.length
    loopTrace c (execAll c calls body) (allTrace c calls within body) n turnBound
      ⟨stack.take n, locals, store⟩
  | .ifElse type onTrue onFalse, ⟨stack, locals, store⟩ =>
    match condition? stack with
    | some (b, stack) =>
      let n := type.params.length
      if b then allTrace c calls within onTrue ⟨stack.take n, locals, store⟩
      else allTrace c calls within onFalse ⟨stack.take n, locals, store⟩
    | none => []
  | .call f, s => operandTrace c within f s
  | .callIndirect x type, s =>
    withCallee c x type (fun _ st => [.passes st]) (operandTrace c within) s
  | .returnCall f, s => tailTrace c f s
  | .returnCallIndirect x type, s =>
    withCallee c x type (fun _ st => [.passes st]) (tailTrace c) s
  | _, _ => []

/-- The events of a sequence: each instruction is paid for before it and passes through the store
behind it. -/
def allTrace (c : Code) (calls : Nat → List Val → Store → CallResult)
    (within : Nat → List Val → Store → List Event) : List Instr → State → List Event
  | [], _ => []
  | i :: is, ⟨stack, locals, store⟩ =>
    let s : State := ⟨stack, locals, store.spend (cost i)⟩
    .passes s.store :: trace c calls within i s ++ .passes (exec c calls i s).store ::
      match exec c calls i s with
      | .next s => allTrace c calls within is s
      | _ => []

end

theorem trace_eq_nil {c : Code} {calls : Nat → List Val → Store → CallResult}
    {within : Nat → List Val → Store → List Event} {i : Instr} (h : isControl i = false)
    (s : State) : trace c calls within i s = [] := by
  cases i <;> first | simp only [trace]; done | cases h

/-! ## The events of calls -/

/-- The events behind the body of a function; `onward` are those of the function that takes its
place. -/
def returnedTrace (onward : Nat → List Val → Store → List Event) : Exit → List Event
  | .next s | .branch _ s | .ret s => [.passes s.store.settle]
  | .tail f args store => onward f args store
  | .halt _ _ => []

/-- The events of entering a function, and of those that take its place, its answer last. -/
def enterTrace (c : Code) (calls : Nat → List Val → Store → CallResult)
    (within : Nat → List Val → Store → List Event) :
    (turns : Nat) → Nat → List Val → Store → List Event
  | 0, _, _, _ => []
  | turns + 1, f, args, store =>
    .passes (store.spend 1) :: .looks (store.spend 1) ::
      (if c.exhausted (store.spend 1) then []
      else match c.funcs[f]? with
        | none => []
        | some fn =>
          let locals := args.reverse.toArray ++ (fn.locals.map Val.zero).toArray
          let s : State := ⟨[], locals, store.spend 1⟩
          allTrace c calls within fn.body s ++
            returnedTrace (enterTrace c calls within turns) (execAll c calls fn.body s)) ++
      (answered f args (enter c calls (turns + 1) f args store)).map .answers

/-- The events of a call from within. -/
def invokeTrace (c : Code) : (depth : Nat) → Nat → List Val → Store → List Event
  | 0, _, _, _ => []
  | depth + 1, f, args, store =>
    enterTrace c (invoke c depth) (invokeTrace c depth) turnBound f args store

/-- The events of a call from outside, up to where it comes back. -/
def callTrace (c : Code) (f : Nat) (args : List Val) (store : Store) : List Event :=
  .passes store.settle :: invokeTrace c depthBound f args.reverse store.settle ++
    [.passes (invoke c depthBound f args.reverse store.settle).store]

/-! ## Code without calls -/

mutual

/-- An instruction makes no call. -/
def callFree : Instr → Bool
  | .block _ body | .loop _ body => allCallFree body
  | .ifElse _ onTrue onFalse => allCallFree onTrue && allCallFree onFalse
  | .call .. | .callIndirect .. | .returnCall .. | .returnCallIndirect .. => false
  | _ => true

/-- A sequence makes no call. -/
def allCallFree : List Instr → Bool
  | [] => true
  | i :: is => callFree i && allCallFree is

end

theorem allCallFree_eq_false {is : List Instr} {i : Instr} (hi : i ∈ is)
    (h : callFree i = false) : allCallFree is = false := by
  induction is with
  | nil => cases hi
  | cons j js ih =>
    rw [allCallFree, Bool.and_eq_false_iff]
    rcases List.mem_cons.1 hi with rfl | hi
    · exact .inl h
    · exact .inr (ih hi)

/-! ## How a stretch ends -/

/-- How a stretch of a run ends: the run goes on, or leaves its function for another one, or
halts. -/
inductive Ending where
  | goesOn
  | leaves
  | halts (h : Halt)

def Exit.ending : Exit → Ending
  | next _ | branch .. | ret _ => .goesOn
  | tail .. => .leaves
  | halt h _ => .halts h

def CallResult.ending : CallResult → Ending
  | values .. => .goesOn
  | halt h _ => .halts h

@[simp] theorem store_leave (arity : Nat) (outer : List Val) (e : Exit) :
    (leave arity outer e).store = e.store := by
  fun_cases leave arity outer e <;> rfl

@[simp] theorem ending_leave (arity : Nat) (outer : List Val) (e : Exit) :
    (leave arity outer e).ending = e.ending := by
  fun_cases leave arity outer e <;> rfl

/-! ## Properties of stretches -/

/-- A property of stretches of a run, from a store through events to a store, with their ending.
Each way in which code without calls goes on keeps it. -/
structure Along (c : Code) (P : Store → List Event → Ending → Store → Prop) : Prop where
  append : ∀ {a b d l l' e}, P a l .goesOn b → P b l' e d → P a (l ++ l') e d
  touch : ∀ {st k}, Touches c.maxMemory st.toContents k →
    P st [] .goesOn { st with toContents := k }
  halt : ∀ st h, h ≠ .trap .outOfFuel → P st [] (.halts h) st
  spend : ∀ st n, P st [.passes (st.spend n)] .goesOn (st.spend n)
  settle : ∀ st, P st [.passes st.settle] .goesOn st.settle
  passes : ∀ {a l e b}, P a l e b → P a (l ++ [.passes b]) e b
  goesOn : ∀ st, c.exhausted st = false → P st [.looks st] .goesOn st
  runsOut : ∀ st, c.exhausted st = true → P st [.looks st] (.halts (.trap .outOfFuel)) st

/-- What calls do keeps the property as well. -/
structure AlongCalls (c : Code) (P : Store → List Event → Ending → Store → Prop) : Prop
    extends Along c P where
  leaves : ∀ st, P st [.passes st.settle] .leaves st.settle
  onward : ∀ {a l b}, P a l .leaves b → P a l .goesOn b
  answers : ∀ {a l b} f args vs, P a l .goesOn b → P a (l ++ [.answers ⟨f, args, vs, b⟩]) .goesOn b

/-- What a piece of code does is a stretch with the property. -/
def RunKeeps (P : Store → List Event → Ending → Store → Prop) (run : State → Exit)
    (events : State → List Event) : Prop :=
  ∀ s, P s.store (events s) (run s).ending (run s).store

/-- What a call does is a stretch with the property, and so is leaving a function for another. -/
structure CallsKeep (P : Store → List Event → Ending → Store → Prop)
    (calls : Nat → List Val → Store → CallResult)
    (within : Nat → List Val → Store → List Event) : Prop where
  calls : ∀ f args st, P st (within f args st) (calls f args st).ending (calls f args st).store
  leaves : ∀ st, P st [.passes st.settle] .leaves st.settle

namespace Along

variable {c : Code} {P : Store → List Event → Ending → Store → Prop}
  {calls : Nat → List Val → Store → CallResult} {within : Nat → List Val → Store → List Event}

theorem nothing (hP : Along c P) (st : Store) : P st [] .goesOn st :=
  hP.touch .nothing

/-- A stretch that may end with a halt is one if nothing follows. -/
theorem append_nil {a b : Store} {l : List Event} {e : Ending} (hl : P a l e b) :
    P a (l ++ []) e b := by
  rwa [List.append_nil]

theorem step (hP : Along c P) (i : Instr) : RunKeeps P (step c i) fun _ => [] := by
  intro s
  have hstepped := stepped_step c i s
  generalize Machine.step c i s = e at hstepped ⊢
  cases hstepped with
  | next htouch => exact hP.touch htouch
  | branch => exact hP.nothing s.store
  | ret => exact hP.nothing s.store
  | halt hcause => exact hP.halt s.store _ hcause

theorem loopTrace (hP : Along c P) {body : State → Exit} {events : State → List Event}
    (hbody : RunKeeps P body events) (arity turns : Nat) :
    RunKeeps P (iterate c body arity turns) (loopTrace c body events arity turns) := by
  intro s
  induction turns generalizing s with
  | zero => exact hP.halt s.store .endless (by decide)
  | succ turns ih =>
    have hturn := hbody s
    rw [Machine.loopTrace, iterate]
    cases hexhausted : c.exhausted s.store with
    | true => exact hP.runsOut s.store hexhausted
    | false =>
      refine hP.append (hP.goesOn s.store hexhausted) ?_
      simp only [Bool.false_eq_true, if_false]
      cases hexit : body s with
      | branch l next =>
        rw [hexit] at hturn
        cases l with
        | zero =>
          have hrest := hP.append (hP.passes (hP.nothing next.store))
            (ih ⟨next.stack.take arity, next.locals, next.store⟩)
          exact hP.append hturn hrest
        | succ l => exact append_nil hturn
      | _ =>
        rw [hexit] at hturn
        exact append_nil hturn

/-- A call from within is settled and then goes the way of the callee. -/
theorem operandTrace (hP : Along c P) (hcalls : CallsKeep P calls within) (f : Nat) :
    RunKeeps P (callWith c calls f) (operandTrace c within f) := by
  rintro ⟨stack, locals, store⟩
  rw [Machine.operandTrace, callWith]
  cases c.funcs[f]? with
  | none => exact hP.halt store .stuck (by decide)
  | some fn =>
    have hcall := hP.append (hP.settle store)
      (hcalls.calls f (stack.take fn.type.params.length) store.settle)
    simp only
    cases hresult : calls f (stack.take fn.type.params.length) store.settle with
    | values vs after =>
      rw [hresult] at hcall
      exact hcall
    | halt h after =>
      rw [hresult] at hcall
      exact hcall

theorem tailTrace (hP : Along c P) (hleaves : ∀ st, P st [.passes st.settle] .leaves st.settle)
    (f : Nat) : RunKeeps P (tailWith c f) (tailTrace c f) := by
  rintro ⟨stack, locals, store⟩
  rw [Machine.tailTrace, tailWith]
  cases c.funcs[f]? with
  | none => exact hP.halt store .stuck (by decide)
  | some fn => exact hleaves store

/-- A call through a table goes the way of the function found there, or it halts. -/
theorem withCallee (hP : Along c P) (x : Nat) (type : FuncType) {go : Nat → State → Exit}
    {events : Nat → State → List Event} (hgo : ∀ f, RunKeeps P (go f) (events f)) :
    RunKeeps P (withCallee c x type .halt go)
      (withCallee c x type (fun _ st => [.passes st]) events) := by
  intro s
  rcases withCallee_cases c x type s with ⟨f, stack, hgoes⟩ | ⟨cause, st, hcause, hst, hhalts⟩
  · rw [hgoes, hgoes]
    exact hgo f ⟨stack, s.locals, s.store⟩
  · rw [hhalts, hhalts]
    rcases hst with rfl | rfl
    · exact hP.passes (hP.halt s.store cause hcause)
    · exact hP.append (hP.settle s.store) (hP.halt s.store.settle cause hcause)

/-- A sequence keeps the property if its instructions do. -/
theorem allTrace_of_forall (hP : Along c P) {is : List Instr}
    (his : ∀ i ∈ is, RunKeeps P (exec c calls i) (trace c calls within i)) :
    RunKeeps P (execAll c calls is) (allTrace c calls within is) := by
  intro s
  induction is generalizing s with
  | nil => exact hP.nothing s.store
  | cons i is ih =>
    obtain ⟨stack, locals, store⟩ := s
    have hpaid := hP.append (hP.spend store (cost i))
      (his i List.mem_cons_self ⟨stack, locals, store.spend (cost i)⟩)
    rw [allTrace, execAll]
    cases hexit : exec c calls i ⟨stack, locals, store.spend (cost i)⟩ with
    | next s =>
      rw [hexit] at hpaid
      have hrest := ih (fun j hj => his j (List.mem_cons_of_mem i hj)) s
      have hwhole := hP.append (hP.passes hpaid) hrest
      rwa [List.append_assoc] at hwhole
    | _ =>
      rw [hexit] at hpaid
      exact hP.passes hpaid

/-- The induction over the code; what calls do matters only if there are some. -/
theorem trace (hP : Along c P) (i : Instr)
    (hcalls : callFree i = false → CallsKeep P calls within) :
    RunKeeps P (exec c calls i) (trace c calls within i) := by
  induction i using Instr.induct with
  | block type body ih =>
    have hbody := hP.allTrace_of_forall fun j hj => ih j hj fun h =>
      hcalls (by rw [callFree]; exact allCallFree_eq_false hj h)
    rintro ⟨stack, locals, store⟩
    rw [Machine.trace, exec, store_leave, ending_leave]
    exact hbody ⟨stack.take type.params.length, locals, store⟩
  | loop type body ih =>
    have hbody := hP.allTrace_of_forall fun j hj => ih j hj fun h =>
      hcalls (by rw [callFree]; exact allCallFree_eq_false hj h)
    rintro ⟨stack, locals, store⟩
    rw [Machine.trace, exec, store_leave, ending_leave]
    exact hP.loopTrace hbody _ _ ⟨stack.take type.params.length, locals, store⟩
  | ifElse type onTrue onFalse ihTrue ihFalse =>
    have hTrue := hP.allTrace_of_forall fun j hj => ihTrue j hj fun h =>
      hcalls (by rw [callFree, allCallFree_eq_false hj h, Bool.false_and])
    have hFalse := hP.allTrace_of_forall fun j hj => ihFalse j hj fun h =>
      hcalls (by rw [callFree, allCallFree_eq_false hj h, Bool.and_false])
    rintro ⟨stack, locals, store⟩
    rw [Machine.trace, exec]
    cases condition? stack with
    | none => exact hP.halt store .stuck (by decide)
    | some operand =>
      obtain ⟨b, stack⟩ := operand
      simp only [store_leave, ending_leave]
      cases b with
      | true => exact hTrue ⟨stack.take type.params.length, locals, store⟩
      | false => exact hFalse ⟨stack.take type.params.length, locals, store⟩
  | call f =>
    intro s
    rw [Machine.trace, exec]
    exact hP.operandTrace (hcalls rfl) f s
  | callIndirect x type =>
    intro s
    rw [Machine.trace, exec]
    exact hP.withCallee x type (hP.operandTrace (hcalls rfl)) s
  | returnCall f =>
    intro s
    rw [Machine.trace, exec]
    exact hP.tailTrace (hcalls rfl).leaves f s
  | returnCallIndirect x type =>
    intro s
    rw [Machine.trace, exec]
    exact hP.withCallee x type (hP.tailTrace (hcalls rfl).leaves) s
  | single i hi =>
    intro s
    rw [exec_eq_step hi, trace_eq_nil hi]
    exact hP.step i s

theorem allTrace (hP : Along c P) (is : List Instr)
    (hcalls : allCallFree is = false → CallsKeep P calls within) :
    RunKeeps P (execAll c calls is) (allTrace c calls within is) :=
  hP.allTrace_of_forall fun i hi => hP.trace i fun h => hcalls (allCallFree_eq_false hi h)

end Along

/-! ## Calls -/

namespace AlongCalls

variable {c : Code} {P : Store → List Event → Ending → Store → Prop}
  {calls : Nat → List Val → Store → CallResult} {within : Nat → List Val → Store → List Event}

/-- What a call does becomes its whole stretch with its answer behind it. -/
theorem answered (hP : AlongCalls c P) (f : Nat) (args : List Val) {st : Store} {l : List Event}
    {r : CallResult} (h : P st l r.ending r.store) :
    P st (l ++ (answered f args r).map .answers) r.ending r.store := by
  cases r with
  | values vs after => exact hP.answers f args.reverse vs.reverse h
  | halt cause after => exact Along.append_nil h

theorem enterTrace (hP : AlongCalls c P) (hcalls : CallsKeep P calls within) (turns : Nat) :
    CallsKeep P (enter c calls turns) (enterTrace c calls within turns) := by
  refine ⟨?_, hP.leaves⟩
  induction turns with
  | zero =>
    intro f args st
    exact hP.halt st .endless (by decide)
  | succ turns ih =>
    intro f args st
    rw [Machine.enterTrace]
    refine hP.answered f args ?_
    rw [enter]
    simp only
    cases hexhausted : c.exhausted (st.spend 1) with
    | true => exact hP.append (hP.spend st 1) (hP.runsOut (st.spend 1) hexhausted)
    | false =>
      refine hP.append (hP.spend st 1) (hP.append (hP.goesOn (st.spend 1) hexhausted) ?_)
      simp only [Bool.false_eq_true, if_false]
      cases c.funcs[f]? with
      | none => exact hP.halt (st.spend 1) .stuck (by decide)
      | some fn =>
        have hbody := hP.allTrace fn.body (fun _ => hcalls)
          ⟨[], args.reverse.toArray ++ (fn.locals.map Val.zero).toArray, st.spend 1⟩
        simp only
        generalize execAll c calls fn.body
          ⟨[], args.reverse.toArray ++ (fn.locals.map Val.zero).toArray, st.spend 1⟩ = e at hbody ⊢
        cases e with
        | next s => exact hP.append hbody (hP.settle s.store)
        | branch l s => exact hP.append hbody (hP.settle s.store)
        | ret s => exact hP.append hbody (hP.settle s.store)
        | tail g args store => exact hP.append (hP.onward hbody) (ih g args store)
        | halt cause store => exact Along.append_nil hbody

/-- The induction over the calls that may still become active. -/
theorem invokeTrace (hP : AlongCalls c P) (depth : Nat) :
    CallsKeep P (invoke c depth) (invokeTrace c depth) := by
  refine ⟨?_, hP.leaves⟩
  induction depth with
  | zero =>
    intro f args st
    exact hP.halt st (.trap .stackOverflow) (by decide)
  | succ depth ih =>
    intro f args st
    rw [invoke, Machine.invokeTrace]
    exact (hP.enterTrace ⟨ih, hP.leaves⟩ turnBound).calls f args st

/-- A call from outside is settled, goes the way of a call from within and comes back. -/
theorem callTrace (hP : AlongCalls c P) (f : Nat) (args : List Val) (st : Store) :
    P st (callTrace c f args st) (invoke c depthBound f args.reverse st.settle).ending
      (invoke c depthBound f args.reverse st.settle).store :=
  hP.passes (hP.append (hP.settle st) ((hP.invokeTrace depthBound).calls f args.reverse st.settle))

end AlongCalls

end WasmGuest.Machine
