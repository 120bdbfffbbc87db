import WasmGuest.Proofs.Machine.Frame

/-!
# Running a sequence step by step

One equation for each kind of instruction says how a sequence goes on behind it,
so that a fixed sequence is run by rewriting.  The fuel that was counted is kept
outside of everything else that happens to the store: `setGlobal`, `write` and
growing a memory pass under `spend`.
-/

namespace WasmGuest.Machine

open Wasm

/-! ## Fuel and the rest of the store -/

/-- Grow a memory and tell the old number of pages, unless that breaks a bound. -/
def Code.growMemory (c : Code) (st : Store) (x : Nat) (w : Width) (n : Nat) : Store × Option Nat :=
  ({ st with toContents := (st.toContents.growMemory c.maxMemory x w n).1 },
    (st.toContents.growMemory c.maxMemory x w n).2)

namespace Store

/-- Set a global. -/
def setGlobal (st : Store) (x : Nat) (v : Val) : Store :=
  { st with globals := st.globals.setIfInBounds x v }

@[simp] theorem spend_spend (st : Store) (m n : Nat) :
    (st.spend m).spend n = st.spend (m + n) := by
  simp only [spend, Nat.add_assoc]

/-- Settling in between does not matter to what is settled behind. -/
@[simp] theorem settle_spend_settle (st : Store) (n : Nat) :
    (st.settle.spend n).settle = (st.spend n).settle := rfl

@[simp] theorem setGlobal_spend (st : Store) (n x : Nat) (v : Val) :
    (st.spend n).setGlobal x v = (st.setGlobal x v).spend n := rfl

@[simp] theorem write_spend (st : Store) (n x i : Nat) (bs : List UInt8) :
    (st.spend n).write x i bs = (st.write x i bs).spend n := rfl

@[simp] theorem globals_write (st : Store) (x i : Nat) (bs : List UInt8) :
    (st.write x i bs).globals = st.globals := rfl

@[simp] theorem spent_write (st : Store) (x i : Nat) (bs : List UInt8) :
    (st.write x i bs).spent = st.spent := rfl

theorem growMemory_spend (c : Code) (st : Store) (m x : Nat) (w : Width) (n : Nat) :
    c.growMemory (st.spend m) x w n =
      ((c.growMemory st x w n).1.spend m, (c.growMemory st x w n).2) := rfl

end Store

theorem Code.exhausted_iff {c : Code} {st : Store} :
    c.exhausted st = true ↔ ∃ l, c.limit = some l ∧ l ≤ st.spent := by
  simp only [exhausted, Option.any_eq_true, decide_eq_true_eq]

theorem Code.not_exhausted_iff {c : Code} {st : Store} :
    c.exhausted st = false ↔ ∀ l, c.limit = some l → st.spent < l := by
  simp only [exhausted, Option.any_eq_false, decide_eq_false_iff_not, Nat.not_le]

/-! ## One instruction and the rest -/

section Steps

variable {c : Code} {calls : Nat → List Val → Store → CallResult} {is : List Instr}
  {stack : List Val} {locals : Array Val} {st : Store}

/-- How a sequence goes on behind an instruction. -/
def andThen (c : Code) (calls : Nat → List Val → Store → CallResult) (is : List Instr) :
    Exit → Exit
  | .next s => execAll c calls is s
  | e => e

theorem andThen_nil (e : Exit) : andThen c calls [] e = e := by
  cases e <;> rfl

theorem execAll_cons (i : Instr) (s : State) : execAll c calls (i :: is) s =
    andThen c calls is (exec c calls i ⟨s.stack, s.locals, s.store.spend (cost i)⟩) := by
  obtain ⟨stack, locals, store⟩ := s
  rw [execAll]
  cases exec c calls i ⟨stack, locals, store.spend (cost i)⟩ <;> rfl

theorem execAll_const (v : Val) : execAll c calls (.const v :: is) ⟨stack, locals, st⟩ =
    execAll c calls is ⟨v :: stack, locals, st.spend 1⟩ := by
  rw [execAll_cons, exec_eq_step rfl]
  rfl

theorem execAll_localGet (x : Nat) : execAll c calls (.localGet x :: is) ⟨stack, locals, st⟩ =
    match locals[x]? with
    | some v => execAll c calls is ⟨v :: stack, locals, st.spend 1⟩
    | none => .halt .stuck (st.spend 1) := by
  rw [execAll_cons, exec_eq_step rfl]
  cases h : locals[x]? <;> simp only [step, effect, Store.spend, h, andThen, cost]

theorem execAll_localSet (x : Nat) (v : Val) :
    execAll c calls (.localSet x :: is) ⟨v :: stack, locals, st⟩ =
      execAll c calls is ⟨stack, locals.setIfInBounds x v, st.spend 1⟩ := by
  rw [execAll_cons, exec_eq_step rfl]
  rfl

theorem execAll_globalGet (x : Nat) : execAll c calls (.globalGet x :: is) ⟨stack, locals, st⟩ =
    match st.globals[x]? with
    | some v => execAll c calls is ⟨v :: stack, locals, st.spend 1⟩
    | none => .halt .stuck (st.spend 1) := by
  rw [execAll_cons, exec_eq_step rfl]
  cases h : st.globals[x]? <;> simp only [step, effect, Store.spend, h, andThen, cost]

theorem execAll_globalSet (x : Nat) (v : Val) :
    execAll c calls (.globalSet x :: is) ⟨v :: stack, locals, st⟩ =
      execAll c calls is ⟨stack, locals, (st.setGlobal x v).spend 1⟩ := by
  rw [execAll_cons, exec_eq_step rfl]
  rfl

theorem execAll_binary (op : IntBinary) (a b : UInt32) :
    execAll c calls (.numeric (.intBinary .w32 op) :: is) ⟨.i32 b :: .i32 a :: stack, locals, st⟩ =
      match Word32.binary op a b with
      | .ok r => execAll c calls is ⟨.i32 r :: stack, locals, st.spend 1⟩
      | .error t => .halt (.trap t) (st.spend 1) := by
  rw [execAll_cons, exec_eq_step rfl]
  cases h : Word32.binary op a b <;>
    simp only [step, effect, numeric, h, pushResult, andThen, cost, Store.spend]

theorem execAll_compare (op : IntCompare) (a b : UInt32) :
    execAll c calls (.numeric (.intCompare .w32 op) :: is)
        ⟨.i32 b :: .i32 a :: stack, locals, st⟩ =
      execAll c calls is ⟨boolVal (Word32.compare op a b) :: stack, locals, st.spend 1⟩ := by
  rw [execAll_cons, exec_eq_step rfl]
  rfl

theorem execAll_memorySize (x : Nat) (w : Width) :
    execAll c calls (.memorySize x w :: is) ⟨stack, locals, st⟩ =
      execAll c calls is
        ⟨sizeVal w (some (st.memorySize x / pageSize)) :: stack, locals, st.spend 1⟩ := by
  rw [execAll_cons, exec_eq_step rfl]
  rfl

theorem execAll_memoryGrow (x : Nat) (w : Width) (n : UInt32) :
    execAll c calls (.memoryGrow x w :: is) ⟨.i32 n :: stack, locals, st⟩ =
      execAll c calls is ⟨sizeVal w (c.growMemory st x w n.toNat).2 :: stack, locals,
        (c.growMemory st x w n.toNat).1.spend 1⟩ := by
  rw [execAll_cons, exec_eq_step rfl]
  rfl

theorem execAll_load (a : Access) (arg : MemArg) (base : UInt32) :
    execAll c calls (.load a arg :: is) ⟨.i32 base :: stack, locals, st⟩ =
      match st.load? arg.memory (base.toNat + arg.offset) a.bytes with
      | some n => execAll c calls is ⟨loaded a n :: stack, locals, st.spend 1⟩
      | none => .halt (.trap .memoryOutOfBounds) (st.spend 1) := by
  rw [execAll_cons, exec_eq_step rfl]
  cases h : st.load? arg.memory (base.toNat + arg.offset) a.bytes <;>
    simp only [step, effect, address?, Store.spend, h, andThen, cost]

theorem execAll_store (a : Access) (arg : MemArg) (w base : UInt32) :
    execAll c calls (.store a arg :: is) ⟨.i32 w :: .i32 base :: stack, locals, st⟩ =
      if base.toNat + arg.offset + a.bytes ≤ st.memorySize arg.memory then
        execAll c calls is ⟨stack, locals,
          (st.write arg.memory (base.toNat + arg.offset) (bytesOf a.bytes w.toNat)).spend 1⟩
      else .halt (.trap .memoryOutOfBounds) (st.spend 1) := by
  rw [execAll_cons, exec_eq_step rfl]
  by_cases h : base.toNat + arg.offset + a.bytes ≤ st.memorySize arg.memory
  · simp only [step, effect, address?, stored?, putBytes, Store.spend, length_bytesOf, if_pos h,
      andThen, cost]
    rfl
  · simp only [step, effect, address?, stored?, putBytes, Store.spend, length_bytesOf, if_neg h,
      andThen, cost]

theorem execAll_unreachable (s : State) :
    execAll c calls (.unreachable :: is) s = .halt (.trap .unreachable) s.store := by
  rw [execAll_cons, exec_eq_step rfl]
  rfl

/-- An operator on a value of another type is stuck. -/
theorem execAll_binary_stuck (op : IntBinary) (b : UInt32) {v : Val} (h : ∀ a, v ≠ .i32 a) :
    execAll c calls (.numeric (.intBinary .w32 op) :: is) ⟨.i32 b :: v :: stack, locals, st⟩ =
      .halt .stuck (st.spend 1) := by
  rw [execAll_cons, exec_eq_step rfl]
  cases v with
  | i32 a => exact absurd rfl (h a)
  | _ => rfl

theorem execAll_br (l : Nat) : execAll c calls (.br l :: is) ⟨stack, locals, st⟩ =
    .branch l ⟨stack, locals, st.spend 1⟩ := by
  rw [execAll_cons, exec_eq_step rfl]
  rfl

/-- A conditional branch on a truth value. -/
theorem execAll_brIf (l : Nat) (b : Bool) :
    execAll c calls (.brIf l :: is) ⟨boolVal b :: stack, locals, st⟩ =
      if b then .branch l ⟨stack, locals, st.spend 1⟩
      else execAll c calls is ⟨stack, locals, st.spend 1⟩ := by
  rw [execAll_cons, exec_eq_step rfl]
  cases b <;> rfl

/-- A conditional on a truth value. -/
theorem execAll_ifElse (type : FuncType) (onTrue onFalse : List Instr) (b : Bool) :
    execAll c calls (.ifElse type onTrue onFalse :: is) ⟨boolVal b :: stack, locals, st⟩ =
      andThen c calls is (leave type.results.length (stack.drop type.params.length)
        (execAll c calls (if b then onTrue else onFalse)
          ⟨stack.take type.params.length, locals, st.spend 1⟩)) := by
  rw [execAll_cons, boolVal, exec]
  cases b <;> rfl

theorem execAll_block (type : FuncType) (body : List Instr) :
    execAll c calls (.block type body :: is) ⟨stack, locals, st⟩ =
      andThen c calls is (leave type.results.length (stack.drop type.params.length)
        (execAll c calls body ⟨stack.take type.params.length, locals, st⟩)) := by
  rw [execAll_cons, exec]
  rfl

theorem execAll_loop (type : FuncType) (body : List Instr) :
    execAll c calls (.loop type body :: is) ⟨stack, locals, st⟩ =
      andThen c calls is (leave type.results.length (stack.drop type.params.length)
        (iterate c (execAll c calls body) type.params.length turnBound
          ⟨stack.take type.params.length, locals, st⟩)) := by
  rw [execAll_cons, exec]
  rfl

theorem execAll_call {f : Nat} {fn : Func} (h : c.funcs[f]? = some fn) :
    execAll c calls (.call f :: is) ⟨stack, locals, st⟩ =
      match calls f (stack.take fn.type.params.length) (st.spend 1).settle with
      | .values vs st' =>
        execAll c calls is ⟨vs ++ stack.drop fn.type.params.length, locals, st'⟩
      | .halt h st' => .halt h st' := by
  rw [execAll_cons, exec]
  simp only [callWith, h, cost]
  cases calls f (stack.take fn.type.params.length) (st.spend 1).settle <;> rfl

end Steps

end WasmGuest.Machine
