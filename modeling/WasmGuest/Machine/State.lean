import WasmGuest.Machine.Memory
import WasmGuest.Machine.Trap
import WasmGuest.Wasm.Module

/-!
# The state of the machine

A `Store` outlives calls.  Its `Contents` are memories, globals, tables and what is
left of the segments of the module; beside them stands the fuel spent since the
last refuelling.  Fuel is counted upwards and independently of any limit; the limit
belongs to the `Code` that is run, and what remains is the difference.  Spending is
settled where control crosses the boundary of a function; a trap in between goes
back to what was settled.  A `State` adds what belongs to the running function.
-/

namespace WasmGuest.Machine

open Wasm

/-- A table: its entries, and the most it may have. -/
structure Table where
  entries : Array Val
  max : Option Nat

namespace Table

def size (t : Table) : Nat :=
  t.entries.size

/-- Put entries one after the other; outside the table this does nothing. -/
def write (t : Table) (i : Nat) : List Val → Table
  | [] => t
  | v :: vs =>
    match t with
    | ⟨entries, max⟩ => write ⟨entries.setIfInBounds i v, max⟩ (i + 1) vs

/-- The `n` entries from an index on. -/
def read (t : Table) (i n : Nat) : List Val :=
  (t.entries.extract i (i + n)).toList

/-- Add `n` entries. -/
def grow (t : Table) (n : Nat) (v : Val) : Table :=
  match t with
  | ⟨entries, max⟩ => ⟨entries ++ Array.replicate n v, max⟩

end Table

/-- What guest code works on. -/
structure Contents where
  memories : List Memory
  globals : Array Val
  tables : List Table
  /-- The bytes of the data segments; one that was dropped has none left. -/
  datas : List (List UInt8)
  /-- The entries of the element segments; one that was dropped has none left. -/
  elems : List (List Val)

structure Store extends Contents where
  spent : Nat
  /-- The fuel spent when control last crossed the boundary of a function. -/
  settled : Nat

instance : Inhabited Store := ⟨⟨⟨[], #[], [], [], []⟩, 0, 0⟩⟩

/-- The functions of an instance and the bounds that its code runs under. -/
structure Code where
  funcs : Array Func
  /-- The fuel that a call may spend, if fuel is metered. -/
  limit : Option Nat
  /-- The bytes that a memory may grow to. -/
  maxMemory : Nat

namespace Contents

/-- The size of a memory in bytes. -/
def memorySize (k : Contents) (x : Nat) : Nat :=
  match k.memories[x]? with
  | some m => m.size
  | none => 0

/-- Put bytes into a memory. -/
def write (k : Contents) (x i : Nat) (bs : List UInt8) : Contents :=
  match k with
  | ⟨memories, globals, tables, datas, elems⟩ =>
    ⟨memories.modify x (·.write i bs), globals, tables, datas, elems⟩

end Contents

namespace Store

/-- Count fuel as spent. -/
def spend (st : Store) (n : Nat) : Store :=
  match st with
  | ⟨contents, spent, settled⟩ => ⟨contents, spent + n, settled⟩

/-- Nothing is spent. -/
def refuel (st : Store) : Store :=
  { st with spent := 0, settled := 0 }

/-- What was spent is settled. -/
def settle (st : Store) : Store :=
  match st with
  | ⟨contents, spent, _⟩ => ⟨contents, spent, spent⟩

/-- What a halt leaves of the fuel.  Running out of it and `unreachable` settle what was spent; any
other halt forgets what was spent since the last settling. -/
def afterHalt (st : Store) : Halt → Store
  | .trap .outOfFuel | .trap .unreachable => st.settle
  | _ => { st with spent := st.settled }

/-- A halt settles what was spent, or forgets what was not settled. -/
theorem afterHalt_cases (st : Store) (h : Halt) :
    st.afterHalt h = st.settle ∨ st.afterHalt h = { st with spent := st.settled } := by
  fun_cases afterHalt st h
  · exact .inl rfl
  · exact .inl rfl
  · exact .inr rfl

@[simp] theorem toContents_afterHalt (st : Store) (h : Halt) :
    (st.afterHalt h).toContents = st.toContents := by
  rcases st.afterHalt_cases h with hafter | hafter <;> rw [hafter] <;> rfl

/-- Put bytes into a memory. -/
def write (st : Store) (x i : Nat) (bs : List UInt8) : Store :=
  match st with
  | ⟨contents, spent, settled⟩ => ⟨contents.write x i bs, spent, settled⟩

@[simp] theorem toContents_spend (st : Store) (n : Nat) :
    (st.spend n).toContents = st.toContents := rfl
@[simp] theorem toContents_write (st : Store) (x i : Nat) (bs : List UInt8) :
    (st.write x i bs).toContents = st.toContents.write x i bs := rfl
@[simp] theorem spent_spend (st : Store) (n : Nat) : (st.spend n).spent = st.spent + n := rfl
@[simp] theorem spent_settle (st : Store) : st.settle.spent = st.spent := rfl

end Store

/-- Whether the fuel spent has reached the limit. -/
def Code.exhausted (c : Code) (st : Store) : Bool :=
  c.limit.any (· ≤ st.spent)

/-- The operand stack, the top first, and the locals of the running function over a store. -/
structure State where
  stack : List Val
  locals : Array Val
  store : Store

/-- How a piece of code is left. -/
inductive Exit where
  | next (s : State)
  /-- By a branch to the enclosing block at this distance. -/
  | branch (label : Nat) (s : State)
  | ret (s : State)
  /-- By a call that takes the place of the function, with the last argument first. -/
  | tail (f : Nat) (args : List Val) (store : Store)
  | halt (h : Halt) (store : Store)

/-- How a call ends; the last result is first. -/
inductive CallResult where
  | values (vs : List Val) (store : Store)
  | halt (h : Halt) (store : Store)

/-- The store that a call leaves behind. -/
def CallResult.store : CallResult → Store
  | values _ st => st
  | halt _ st => st

end WasmGuest.Machine
