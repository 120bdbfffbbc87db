import WasmGuest.Wasm.Fault
import WasmGuest.Wasm.Types

/-!
# Reading the binary format

A reader takes bytes from the front of a list.  Integers are written in groups
of seven bits, the lowest group first; the last group may not hold bits beyond
the width.  A vector is its length followed by its items.
-/

namespace WasmGuest.Wasm.Binary

/-- A reader of the bytes that are left. -/
abbrev Reader := StateT (List UInt8) (Except Fault)

def fail {α : Type} (f : Fault) : Reader α :=
  fun _ => .error f

def byte : Reader Nat := fun
  | [] => .error .unexpectedEnd
  | b :: bs => .ok (b.toNat, bs)

/-- The next byte, left in place. -/
def peek : Reader Nat := fun
  | [] => .error .unexpectedEnd
  | b :: bs => .ok (b.toNat, b :: bs)

/-- Exactly `n` bytes. -/
def bytes (n : Nat) : Reader (List UInt8) := fun bs =>
  if n ≤ bs.length then .ok (bs.take n, bs.drop n) else .error .unexpectedEnd

/-- An unsigned integer of `bits` bits in at most `groups` groups. -/
def unsignedGroups : (groups : Nat) → (bits : Nat) → Reader Nat
  | 0, _ => fail (.outOfRange "integer")
  | groups + 1, bits => do
    let b ← byte
    if b < 128 then
      if b < 1 <<< bits then pure b else fail (.outOfRange "integer")
    else if bits ≤ 7 then fail (.outOfRange "integer")
    else pure ((b - 128) + 128 * (← unsignedGroups groups (bits - 7)))

/-- A signed integer of `bits` bits in at most `groups` groups. -/
def signedGroups : (groups : Nat) → (bits : Nat) → Reader Int
  | 0, _ => fail (.outOfRange "integer")
  | groups + 1, bits => do
    let b ← byte
    if b < 128 then
      let n : Int := if b < 64 then b else b - 128
      let bound : Int := (1 <<< (bits - 1) : Nat)
      if -bound ≤ n ∧ n < bound then pure n
      else fail (.outOfRange "integer")
    else if bits ≤ 7 then fail (.outOfRange "integer")
    else pure ((b - 128 : Int) + 128 * (← signedGroups groups (bits - 7)))

def u32 : Reader Nat :=
  unsignedGroups 5 32

def u64 : Reader Nat :=
  unsignedGroups 10 64

def s32 : Reader Int :=
  signedGroups 5 32

def s33 : Reader Int :=
  signedGroups 5 33

def s64 : Reader Int :=
  signedGroups 10 64

/-- A number of `n` bytes, the lowest first. -/
def littleEndian (n : Nat) : Reader Nat := do
  let bs ← bytes n
  pure (bs.foldr (fun b value => b.toNat + 256 * value) 0)

/-- The same reader `n` times. -/
def times {α : Type} (item : Reader α) : Nat → Reader (List α)
  | 0 => pure []
  | n + 1 => do
    let a ← item
    pure (a :: (← times item n))

/-- A vector of items, each of which takes a byte or more. -/
def vector {α : Type} (item : Reader α) : Reader (List α) := do
  let n ← u32
  if (← get).length < n then fail .unexpectedEnd else times item n

/-- A vector of bytes. -/
def byteVector : Reader (List UInt8) := do
  bytes (← u32)

/-- A name: a byte vector in UTF-8. -/
def name : Reader String := do
  match String.fromUTF8? ⟨(← byteVector).toArray⟩ with
  | some s => pure s
  | none => fail .notText

/-- Run a reader on bytes that it has to use up. -/
def whole {α : Type} (item : Reader α) (leftover : Fault) (bs : List UInt8) : Reader α := do
  match item bs with
  | .ok (a, []) => pure a
  | .ok _ => fail leftover
  | .error e => fail e

/-! ## Types -/

def valType? : Nat → Option ValType
  | 0x7f => some .i32
  | 0x7e => some .i64
  | 0x7d => some .f32
  | 0x7c => some .f64
  | 0x7b => some .v128
  | 0x70 => some .funcref
  | 0x6f => some .externref
  | _ => none

def valType : Reader ValType := do
  match valType? (← byte) with
  | some t => pure t
  | none => fail (.expected "value type")

def refType : Reader ValType := do
  let t ← valType
  if t.isReference then pure t else fail (.expected "reference type")

def funcType : Reader FuncType := do
  if (← byte) ≠ 0x60 then fail (.expected "function type")
  else
    let params ← vector valType
    pure ⟨params, ← vector valType⟩

/-- What the byte in front of limits says. -/
structure LimitFlags where
  bounded : Bool
  width : Width

def limitFlags : Reader LimitFlags := do
  match ← byte with
  | 0 => pure ⟨false, .w32⟩
  | 1 => pure ⟨true, .w32⟩
  | 4 => pure ⟨false, .w64⟩
  | 5 => pure ⟨true, .w64⟩
  | _ => fail (.expected "limits")

def limits (flags : LimitFlags) : Reader Limits := do
  let number : Reader Nat := match flags.width with
    | .w32 => u32
    | .w64 => u64
  let min ← number
  if flags.bounded then pure ⟨min, some (← number)⟩ else pure ⟨min, none⟩

def memoryType : Reader MemoryType := do
  let flags ← limitFlags
  pure ⟨← limits flags, flags.width⟩

def tableType : Reader TableType := do
  let entry ← refType
  let flags ← limitFlags
  pure ⟨← limits flags, flags.width, entry⟩

def globalType : Reader GlobalType := do
  let type ← valType
  match ← byte with
  | 0 => pure ⟨false, type⟩
  | 1 => pure ⟨true, type⟩
  | _ => fail (.expected "mutability")

end WasmGuest.Wasm.Binary
