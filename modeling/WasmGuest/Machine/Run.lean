import WasmGuest.Machine.Step

/-!
# Running code

Execution is defined by recursion on the code.  A body runs on a stack of its
own, which starts with the operands of its parameters; a branch leaves bodies
one by one until it reaches its label.  A tail call leaves its function for another
one, which takes its place.  Calls are bounded by `depthBound`, and the turns of one
loop, or the functions that take each other's place, by `turnBound`, which no metered
run can reach: every turn behind the first costs fuel, and a limit is below the bound.

Fuel is spent by every function entry and by every instruction at its `cost`.
The limit is looked at on function entry and whenever control reaches the head
of a loop, and nowhere else.  What was spent is settled before and after every
call, and a call from outside that halts leaves what `Store.afterHalt` says.
-/

namespace WasmGuest.Machine

open Wasm

/-- The most calls that may be active at once. -/
def depthBound : Nat := 16000

/-- The most turns of one loop, and the most functions in one place. -/
def turnBound : Nat := UInt64.size

/-- Leave a body: its results go on top of the operands outside it. -/
def leave (arity : Nat) (outer : List Val) : Exit → Exit
  | .next ⟨stack, locals, store⟩ => .next ⟨stack ++ outer, locals, store⟩
  | .branch 0 ⟨stack, locals, store⟩ => .next ⟨stack.take arity ++ outer, locals, store⟩
  | .branch (l + 1) s => .branch l s
  | e => e

/-- Turn a loop for as long as its body branches back to its head. -/
def iterate (c : Code) (body : State → Exit) (arity : Nat) : (turns : Nat) → State → Exit
  | 0, s => .halt .endless s.store
  | turns + 1, s =>
    if c.exhausted s.store then .halt (.trap .outOfFuel) s.store
    else match body s with
      | .branch 0 ⟨stack, locals, store⟩ =>
        iterate c body arity turns ⟨stack.take arity, locals, store⟩
      | e => e

/-! ## Calls -/

/-- The function that the entry of a table under an index refers to, if it is of a type. -/
def callee (c : Code) (x : Nat) (type : FuncType) (i : Nat) (k : Contents) : Except Halt Nat :=
  match k.entries? x i 1 with
  | some (.funcref (some f) :: _) =>
    match c.funcs[f]? with
    | some fn => if fn.type = type then .ok f else .error (.trap .badSignature)
    | none => .error .stuck
  | some (.funcref none :: _) => .error (.trap .nullCall)
  | some _ => .error .stuck
  | none => .error (.trap .tableOutOfBounds)

/-- Go on with the function in a table whose index is on top of the stack. -/
def withCallee {α : Type} (c : Code) (x : Nat) (type : FuncType) (halted : Halt → Store → α)
    (go : Nat → State → α) : State → α
  | ⟨i :: stack, locals, store⟩ =>
    match address? i with
    | some i =>
      match callee c x type i store.toContents with
      | .ok f => go f ⟨stack, locals, store⟩
      | .error h => halted h store.settle
    | none => halted .stuck store
  | s => halted .stuck s.store

/-- Call a function with operands from the stack. -/
def callWith (c : Code) (invoke : Nat → List Val → Store → CallResult) (f : Nat) : State → Exit
  | ⟨stack, locals, store⟩ =>
    match c.funcs[f]? with
    | none => .halt .stuck store
    | some fn =>
      let n := fn.type.params.length
      match invoke f (stack.take n) store.settle with
      | .values vs store => .next ⟨vs ++ stack.drop n, locals, store⟩
      | .halt h store => .halt h store

/-- Leave a function for another one with operands from the stack. -/
def tailWith (c : Code) (f : Nat) : State → Exit
  | ⟨stack, _, store⟩ =>
    match c.funcs[f]? with
    | none => .halt .stuck store
    | some fn => .tail f (stack.take fn.type.params.length) store.settle

/-! ## Instructions and sequences -/

/-- The truth value on top of a stack, and the rest of the stack. -/
def condition? : List Val → Option (Bool × List Val)
  | .i32 b :: stack => some (b != 0, stack)
  | _ => none

mutual

/-- Execute an instruction whose cost has been counted; `invoke` makes calls. -/
def exec (c : Code) (invoke : Nat → List Val → Store → CallResult) : Instr → State → Exit
  | .block type body, ⟨stack, locals, store⟩ =>
    let n := type.params.length
    leave type.results.length (stack.drop n)
      (execAll c invoke body ⟨stack.take n, locals, store⟩)
  | .loop type body, ⟨stack, locals, store⟩ =>
    let n := type.params.length
    leave type.results.length (stack.drop n)
      (iterate c (execAll c invoke body) n turnBound ⟨stack.take n, locals, store⟩)
  | .ifElse type onTrue onFalse, ⟨stack, locals, store⟩ =>
    match condition? stack with
    | some (b, stack) =>
      let n := type.params.length
      leave type.results.length (stack.drop n)
        (if b then execAll c invoke onTrue ⟨stack.take n, locals, store⟩
        else execAll c invoke onFalse ⟨stack.take n, locals, store⟩)
    | none => .halt .stuck store
  | .call f, s => callWith c invoke f s
  | .callIndirect x type, s => withCallee c x type .halt (callWith c invoke) s
  | .returnCall f, s => tailWith c f s
  | .returnCallIndirect x type, s => withCallee c x type .halt (tailWith c) s
  | i, s => step c i s

/-- Execute a sequence. -/
def execAll (c : Code) (invoke : Nat → List Val → Store → CallResult) :
    List Instr → State → Exit
  | [], s => .next s
  | i :: is, ⟨stack, locals, store⟩ =>
    match exec c invoke i ⟨stack, locals, store.spend (cost i)⟩ with
    | .next s => execAll c invoke is s
    | e => e

end

/-! ## Functions -/

/-- What leaving the body of a function comes to; `onward` enters the function that takes its
place. -/
@[inline] def returned (arity : Nat) (onward : Nat → List Val → Store → CallResult) :
    Exit → CallResult
  | .next s | .branch _ s | .ret s => .values (s.stack.take arity) s.store.settle
  | .tail f args store => onward f args store
  | .halt h store => .halt h store

/-- Enter a function, and after it those that take its place; `invoke` makes calls. -/
def enter (c : Code) (invoke : Nat → List Val → Store → CallResult) :
    (turns : Nat) → Nat → List Val → Store → CallResult
  | 0, _, _, store => .halt .endless store
  | turns + 1, f, args, store =>
    let store := store.spend 1
    if c.exhausted store then .halt (.trap .outOfFuel) store
    else match c.funcs[f]? with
      | none => .halt .stuck store
      | some fn =>
        let locals := args.reverse.toArray ++ (fn.locals.map Val.zero).toArray
        returned fn.type.results.length (enter c invoke turns)
          (execAll c invoke fn.body ⟨[], locals, store⟩)

/-- Call a function on arguments, the last one first; `depth` more calls may become active. -/
def invoke (c : Code) : (depth : Nat) → Nat → List Val → Store → CallResult
  | 0, _, _, store => .halt (.trap .stackOverflow) store
  | depth + 1, f, args, store => enter c (invoke c depth) turnBound f args store

/-- Call a function from outside on arguments in order, and give its results in order. -/
def call (c : Code) (f : Nat) (args : List Val) (store : Store) : CallResult :=
  match invoke c depthBound f args.reverse store.settle with
  | .values vs store => .values vs.reverse store
  | .halt h store => .halt h (store.afterHalt h)

end WasmGuest.Machine
