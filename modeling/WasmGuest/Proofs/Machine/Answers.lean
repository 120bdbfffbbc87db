import WasmGuest.Proofs.Machine.Trace

/-!
# The answers of calls

A run calls functions, which call functions in turn.  What each of them returned,
and on what store, is taken from the events of the run, in the order in which they
return: a call that halts gives no answer, and neither does anything behind it.

* `answersOf`: the answers among events; `invokeAnswers`: those of a call from within, and
  `answersOf_callTrace` says that a call from outside has the same.
* `allTrace_of_callFree`: code without calls has none, so what counts in a body are its
  calls; `answersOf_call_cons` is a call in front of such code.
* `invokeAnswers_of_callFree`: a function without calls has its own answer only.
-/

namespace WasmGuest.Machine

open Wasm

/-- The answer that an event gives. -/
def Event.answer? : Event → Option Answer
  | answers a => some a
  | passes _ | looks _ => none

/-- The answers that events give. -/
def answersOf (events : List Event) : List Answer :=
  events.filterMap Event.answer?

/-- The answers of a call from within, its own one last. -/
def invokeAnswers (c : Code) (depth f : Nat) (args : List Val) (store : Store) : List Answer :=
  answersOf (invokeTrace c depth f args store)

@[simp] theorem answersOf_nil : answersOf [] = [] := rfl

@[simp] theorem answersOf_append (l l' : List Event) :
    answersOf (l ++ l') = answersOf l ++ answersOf l' :=
  List.filterMap_append

@[simp] theorem answersOf_passes (st : Store) (l : List Event) :
    answersOf (.passes st :: l) = answersOf l := rfl

@[simp] theorem answersOf_looks (st : Store) (l : List Event) :
    answersOf (.looks st :: l) = answersOf l := rfl

@[simp] theorem answersOf_map_answers (l : List Answer) : answersOf (l.map .answers) = l := by
  induction l with
  | nil => rfl
  | cons a l ih => exact congrArg (a :: ·) ih

/-- The host adds no answer of its own to those of the function that it calls. -/
theorem answersOf_callTrace (c : Code) (f : Nat) (args : List Val) (st : Store) :
    answersOf (callTrace c f args st) = invokeAnswers c depthBound f args.reverse st.settle := by
  rw [callTrace, answersOf_append]
  exact List.append_nil _

/-! ## Code without calls -/

section CallFree

variable {c : Code} {calls : Nat → List Val → Store → CallResult}
  {within : Nat → List Val → Store → List Event}

/-- Code without calls gets no answer and does not leave its function. -/
def Unanswered (events : List Event) (e : Ending) : Prop :=
  answersOf events = [] ∧ e ≠ .leaves

theorem along_unanswered (c : Code) : Along c fun _ l e _ => Unanswered l e where
  append h h' := ⟨by rw [answersOf_append, h.1, h'.1, List.append_nil], h'.2⟩
  touch _ := ⟨rfl, by simp⟩
  halt _ _ _ := ⟨rfl, by simp⟩
  spend _ _ := ⟨rfl, by simp⟩
  settle _ := ⟨rfl, by simp⟩
  passes h := ⟨by rw [answersOf_append, h.1, answersOf_passes, answersOf, List.filterMap_nil,
    List.append_nil], h.2⟩
  goesOn _ _ := ⟨rfl, by simp⟩
  runsOut _ _ := ⟨rfl, by simp⟩

theorem allTrace_of_callFree {is : List Instr} (h : allCallFree is = true) (s : State) :
    Unanswered (allTrace c calls within is s) (execAll c calls is s).ending :=
  (along_unanswered c).allTrace is (fun hnot => by rw [h] at hnot; cases hnot) s

/-- A call with code without calls behind it gets the answers of the call, and does not leave its
function. -/
theorem answersOf_call_cons (f : Nat) {is : List Instr} (h : allCallFree is = true)
    (stack : List Val) (locals : Array Val) (st : Store) :
    answersOf (allTrace c calls within (.call f :: is) ⟨stack, locals, st⟩) =
        answersOf (operandTrace c within f ⟨stack, locals, st.spend (cost (.call f))⟩) ∧
      (execAll c calls (.call f :: is) ⟨stack, locals, st⟩).ending ≠ .leaves := by
  have hexit (s : State) : (∃ next, callWith c calls f s = .next next) ∨
      ∃ cause after, callWith c calls f s = .halt cause after := by
    rw [callWith]
    split
    · exact .inr ⟨_, _, rfl⟩
    · simp only
      split
      · exact .inl ⟨_, rfl⟩
      · exact .inr ⟨_, _, rfl⟩
  rw [allTrace, execAll, trace, exec]
  simp only [answersOf_append, answersOf_passes]
  rcases hexit ⟨stack, locals, st.spend (cost (.call f))⟩ with ⟨next, hnext⟩ | ⟨cause, after, hhalt⟩
  · have hrest : Unanswered (allTrace c calls within is next) _ := allTrace_of_callFree h next
    simp only [hnext, hrest.1, List.append_nil, true_and]
    exact hrest.2
  · simp [hhalt, answersOf, Exit.ending]

end CallFree

/-- The answers of a call from within: those of its body, and then its own one. -/
theorem invokeAnswers_succ (c : Code) (depth f : Nat) (args : List Val) (st : Store) :
    invokeAnswers c (depth + 1) f args st =
      (if c.exhausted (st.spend 1) then []
      else match c.funcs[f]? with
        | none => []
        | some fn =>
          let locals := args.reverse.toArray ++ (fn.locals.map Val.zero).toArray
          let s : State := ⟨[], locals, st.spend 1⟩
          answersOf (allTrace c (invoke c depth) (invokeTrace c depth) fn.body s) ++
            answersOf (returnedTrace
              (enterTrace c (invoke c depth) (invokeTrace c depth) (turnBound - 1))
              (execAll c (invoke c depth) fn.body s))) ++
      answered f args (invoke c (depth + 1) f args st) := by
  have hentered : invoke c (depth + 1) f args st =
      enter c (invoke c depth) (turnBound - 1 + 1) f args st := by rw [invoke, turnBound_eq]
  rw [invokeAnswers, invokeTrace, ← turnBound_eq, enterTrace, answersOf_append,
    answersOf_map_answers, ← hentered]
  simp only [turnBound_eq, answersOf_passes, answersOf_looks]
  split
  · rfl
  · cases c.funcs[f]? with
    | none => rfl
    | some fn => exact answersOf_append _ _ ▸ rfl

/-- Code that does not leave its function for another one gets no answer behind its body. -/
theorem answersOf_returnedTrace {onward : Nat → List Val → Store → List Event} {e : Exit}
    (h : e.ending ≠ .leaves) : answersOf (returnedTrace onward e) = [] := by
  cases e with
  | tail => exact absurd rfl h
  | _ => rfl

/-- A function without calls has its own answer only. -/
theorem invokeAnswers_of_callFree {c : Code} {f : Nat} {fn : Func} (hfn : c.funcs[f]? = some fn)
    (hfree : allCallFree fn.body = true) (depth : Nat) (args : List Val) (st : Store) :
    invokeAnswers c (depth + 1) f args st = answered f args (invoke c (depth + 1) f args st) := by
  have hbody : Unanswered (allTrace c (invoke c depth) (invokeTrace c depth) fn.body _) _ :=
    allTrace_of_callFree hfree
      ⟨[], args.reverse.toArray ++ (fn.locals.map Val.zero).toArray, st.spend 1⟩
  obtain ⟨hanswers, hends⟩ := hbody
  rw [invokeAnswers_succ, hfn]
  simp only [hanswers, answersOf_returnedTrace hends, List.append_nil, ite_self, List.nil_append]

end WasmGuest.Machine
