import WasmGuest.Machine.Numeric
import WasmGuest.Machine.State

/-!
# Single instructions

`effect` executes an instruction that has no body and makes no call on the contents
of a store.  It does not see the fuel, which `step` carries along.
-/

namespace WasmGuest.Machine

open Wasm

/-- The fuel that an instruction costs. -/
def cost : Instr → Nat
  | .nop | .drop | .block .. | .loop .. | .unreachable | .ret => 0
  | _ => 1

/-- What a single instruction comes to. -/
inductive Effect where
  | next (stack : List Val) (locals : Array Val) (contents : Contents)
  | branch (label : Nat) (stack : List Val) (locals : Array Val) (contents : Contents)
  | ret (stack : List Val) (locals : Array Val) (contents : Contents)
  | halt (h : Halt) (contents : Contents)

/-! ## Numbers and values -/

/-- The number in `bytes` bytes read under a sign, as an integer. -/
def widen (sign : Sign) (bytes : Nat) (n : Nat) : Int :=
  match sign with
  | .unsigned => n
  | .signed => if n < 1 <<< (8 * bytes - 1) then n else n - (1 <<< (8 * bytes) : Nat)

/-- The value that a load makes of the number in memory. -/
def loaded (a : Access) (n : Nat) : Val :=
  match a.type with
  | .i32 => .i32 (UInt32.ofInt (widen a.sign a.bytes n))
  | .i64 => .i64 (UInt64.ofInt (widen a.sign a.bytes n))
  | .f32 => .f32 (UInt32.ofNat n)
  | _ => .f64 (UInt64.ofNat n)

/-- The number that a store takes from a value. -/
def stored? : Val → Option Nat
  | .i32 n => some n.toNat
  | .i64 n => some n.toNat
  | .f32 bits => some bits.toNat
  | .f64 bits => some bits.toNat
  | _ => none

/-- The address, index or count that a value of either width stands for. -/
def address? : Val → Option Nat
  | .i32 n => some n.toNat
  | .i64 n => some n.toNat
  | _ => none

/-- A size as a value of a width, and -1 where there is none. -/
def sizeVal : Width → Option Nat → Val
  | .w32, some n => .i32 (UInt32.ofNat n)
  | .w64, some n => .i64 (UInt64.ofNat n)
  | .w32, none => .i32 0xffffffff
  | .w64, none => .i64 0xffffffffffffffff

/-- The target, the source and the count of an instruction that copies, and the rest of the
stack. -/
def copyOperands? : List Val → Option (Nat × Nat × Nat × List Val)
  | n :: s :: d :: stack =>
    match address? n, address? s, address? d with
    | some n, some s, some d => some (d, s, n, stack)
    | _, _, _ => none
  | _ => none

/-- The `n` items from a place on, if they lie inside a segment. -/
def slice? {α : Type} (xs : List α) (i n : Nat) : Option (List α) :=
  if i + n ≤ xs.length then some ((xs.drop i).take n) else none

/-! ## Memories -/

namespace Contents

/-- The `n` bytes from an address on, if they lie inside a memory. -/
def read? (k : Contents) (x i n : Nat) : Option (List UInt8) :=
  match k.memories[x]? with
  | some m => if i + n ≤ m.size then some (m.read i n) else none
  | none => none

/-- The number in `n` bytes of a memory, if they lie inside it. -/
def load? (k : Contents) (x i n : Nat) : Option Nat :=
  (k.read? x i n).map ofBytes

/-- Grow a memory by pages and tell the old number of pages, unless that breaks a bound. -/
def growMemory (k : Contents) (maxMemory x : Nat) (w : Width) (n : Nat) : Contents × Option Nat :=
  match k.memories[x]? with
  | some m =>
    let old := m.pages.size
    let pages := old + n
    if pages * pageSize ≤ maxMemory ∧ pages ≤ w.mostPages ∧ m.max.all (pages ≤ ·) then
      match k with
      | ⟨memories, globals, tables, datas, elems⟩ =>
        (⟨memories.modify x (·.grow n), globals, tables, datas, elems⟩, some old)
    else (k, none)
  | none => (k, none)

end Contents

/-- Put bytes into a memory; it traps if there are none to put, or if they do not fit. -/
def putBytes (x i : Nat) (bytes : Option (List UInt8)) (stack : List Val) (locals : Array Val)
    (k : Contents) : Effect :=
  match bytes with
  | some bs =>
    if i + bs.length ≤ k.memorySize x then .next stack locals (k.write x i bs)
    else .halt (.trap .memoryOutOfBounds) k
  | none => .halt (.trap .memoryOutOfBounds) k

/-! ## Tables -/

namespace Contents

/-- The number of entries of a table. -/
def tableSize (k : Contents) (x : Nat) : Nat :=
  match k.tables[x]? with
  | some t => t.size
  | none => 0

/-- The `n` entries from an index on, if they lie inside a table. -/
def entries? (k : Contents) (x i n : Nat) : Option (List Val) :=
  match k.tables[x]? with
  | some t => if i + n ≤ t.size then some (t.read i n) else none
  | none => none

/-- Put entries into a table. -/
def setEntries (k : Contents) (x i : Nat) (vs : List Val) : Contents :=
  match k with
  | ⟨memories, globals, tables, datas, elems⟩ =>
    ⟨memories, globals, tables.modify x (·.write i vs), datas, elems⟩

/-- Grow a table by entries and tell the old number of entries, unless that breaks a bound. -/
def growTable (k : Contents) (x : Nat) (w : Width) (n : Nat) (v : Val) : Contents × Option Nat :=
  match k.tables[x]? with
  | some t =>
    let old := t.size
    if old + n < w.bound ∧ t.max.all (old + n ≤ ·) then
      match k with
      | ⟨memories, globals, tables, datas, elems⟩ =>
        (⟨memories, globals, tables.modify x (·.grow n v), datas, elems⟩, some old)
    else (k, none)
  | none => (k, none)

end Contents

/-- Put entries into a table; it traps if there are none to put, or if they do not fit. -/
def putEntries (x i : Nat) (entries : Option (List Val)) (stack : List Val) (locals : Array Val)
    (k : Contents) : Effect :=
  match entries with
  | some vs =>
    if i + vs.length ≤ k.tableSize x then .next stack locals (k.setEntries x i vs)
    else .halt (.trap .tableOutOfBounds) k
  | none => .halt (.trap .tableOutOfBounds) k

/-! ## One instruction -/

/-- Execute an instruction that has no body and makes no call. -/
def effect (maxMemory : Nat) (i : Instr) (stack : List Val) (locals : Array Val) (k : Contents) :
    Effect :=
  match i, stack with
  | .nop, stack => .next stack locals k
  | .const v, stack => .next (v :: stack) locals k
  | .localGet x, stack =>
    match locals[x]? with
    | some v => .next (v :: stack) locals k
    | none => .halt .stuck k
  | .localSet x, v :: stack => .next stack (locals.setIfInBounds x v) k
  | .localTee x, v :: stack => .next (v :: stack) (locals.setIfInBounds x v) k
  | .numeric op, stack =>
    match numeric op stack with
    | .ok stack => .next stack locals k
    | .error h => .halt h k
  | .drop, _ :: stack => .next stack locals k
  | .select _, .i32 n :: w :: v :: stack => .next ((if n = 0 then w else v) :: stack) locals k
  | .globalGet x, stack =>
    match k.globals[x]? with
    | some v => .next (v :: stack) locals k
    | none => .halt .stuck k
  | .globalSet x, v :: stack =>
    match k with
    | ⟨memories, globals, tables, datas, elems⟩ =>
      .next stack locals ⟨memories, globals.setIfInBounds x v, tables, datas, elems⟩
  | .load a arg, base :: stack =>
    match address? base with
    | some base =>
      match k.load? arg.memory (base + arg.offset) a.bytes with
      | some n => .next (loaded a n :: stack) locals k
      | none => .halt (.trap .memoryOutOfBounds) k
    | none => .halt .stuck k
  | .store a arg, v :: base :: stack =>
    match address? base, stored? v with
    | some base, some n =>
      putBytes arg.memory (base + arg.offset) (some (bytesOf a.bytes n)) stack locals k
    | _, _ => .halt .stuck k
  | .memorySize x w, stack =>
    .next (sizeVal w (some (k.memorySize x / pageSize)) :: stack) locals k
  | .memoryGrow x w, n :: stack =>
    match address? n with
    | some n =>
      match k.growMemory maxMemory x w n with
      | (k, old) => .next (sizeVal w old :: stack) locals k
    | none => .halt .stuck k
  | .memoryFill x, n :: .i32 b :: d :: stack =>
    match address? n, address? d with
    | some n, some d =>
      -- The bytes are made only if they fit.
      let bytes := if d + n ≤ k.memorySize x then some (List.replicate n b.toUInt8) else none
      putBytes x d bytes stack locals k
    | _, _ => .halt .stuck k
  | .memoryCopy x y, stack =>
    match copyOperands? stack with
    | some (d, s, n, stack) => putBytes x d (k.read? y s n) stack locals k
    | none => .halt .stuck k
  | .memoryInit x g, stack =>
    match copyOperands? stack with
    | some (d, s, n, stack) => putBytes x d (slice? (k.datas.getD g []) s n) stack locals k
    | none => .halt .stuck k
  | .dataDrop g, stack =>
    match k with
    | ⟨memories, globals, tables, datas, elems⟩ =>
      .next stack locals ⟨memories, globals, tables, datas.set g [], elems⟩
  | .tableGet x, i :: stack =>
    match address? i with
    | some i =>
      match k.entries? x i 1 with
      | some (v :: _) => .next (v :: stack) locals k
      | _ => .halt (.trap .tableOutOfBounds) k
    | none => .halt .stuck k
  | .tableSet x, v :: i :: stack =>
    match address? i with
    | some i => putEntries x i (some [v]) stack locals k
    | none => .halt .stuck k
  | .tableSize x w, stack => .next (sizeVal w (some (k.tableSize x)) :: stack) locals k
  | .tableGrow x w, n :: v :: stack =>
    match address? n with
    | some n =>
      match k.growTable x w n v with
      | (k, old) => .next (sizeVal w old :: stack) locals k
    | none => .halt .stuck k
  | .tableFill x, n :: v :: i :: stack =>
    match address? n, address? i with
    | some n, some i =>
      let entries := if i + n ≤ k.tableSize x then some (List.replicate n v) else none
      putEntries x i entries stack locals k
    | _, _ => .halt .stuck k
  | .tableCopy x y, stack =>
    match copyOperands? stack with
    | some (d, s, n, stack) => putEntries x d (k.entries? y s n) stack locals k
    | none => .halt .stuck k
  | .tableInit x g, stack =>
    match copyOperands? stack with
    | some (d, s, n, stack) => putEntries x d (slice? (k.elems.getD g []) s n) stack locals k
    | none => .halt .stuck k
  | .elemDrop g, stack =>
    match k with
    | ⟨memories, globals, tables, datas, elems⟩ =>
      .next stack locals ⟨memories, globals, tables, datas, elems.set g []⟩
  | .refFunc f, stack => .next (.funcref (some f) :: stack) locals k
  | .refIsNull, .funcref f :: stack => .next (boolVal f.isNone :: stack) locals k
  | .refIsNull, .externref :: stack => .next (boolVal true :: stack) locals k
  | .unreachable, _ => .halt (.trap .unreachable) k
  | .br l, stack => .branch l stack locals k
  | .brIf l, .i32 b :: stack => if b = 0 then .next stack locals k else .branch l stack locals k
  | .brTable ls l, .i32 i :: stack => .branch (ls.getD i.toNat l) stack locals k
  | .ret, stack => .ret stack locals k
  | _, _ => .halt .stuck k

/-- Execute an instruction that has no body and makes no call on a state; the fuel stays as it
is. -/
def step (c : Code) (i : Instr) (s : State) : Exit :=
  match s with
  | ⟨stack, locals, ⟨contents, spent, settled⟩⟩ =>
    match effect c.maxMemory i stack locals contents with
    | .next stack locals contents => .next ⟨stack, locals, ⟨contents, spent, settled⟩⟩
    | .branch l stack locals contents => .branch l ⟨stack, locals, ⟨contents, spent, settled⟩⟩
    | .ret stack locals contents => .ret ⟨stack, locals, ⟨contents, spent, settled⟩⟩
    | .halt h contents => .halt h ⟨contents, spent, settled⟩

end WasmGuest.Machine
