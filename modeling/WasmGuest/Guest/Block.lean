import WasmGuest.Error
import WasmGuest.Machine.Run

/-!
# Lists in guest memory

A list argument is copied into a block that the guest's `alloc` hands out, and
passed as the place and the number of its items.  A list result is read from the
place and number that the export returns.  Blocks are handed back through the
guest's `free`, if it has one.

Every call that the host makes into the guest is recorded as a `HostCall`.
-/

namespace WasmGuest

open Wasm (Val FuncType)
open Machine (Code Store Halt CallResult Memory)

/-- A place in guest memory that holds `len` items. -/
structure Block where
  ptr : Int32
  len : Int32
  deriving DecidableEq, Repr

/-- An item takes four bytes. -/
def itemSize : Nat := 4

/-- The greatest 32-bit integer. -/
def int32Max : Int := 2147483647

/-- The bytes of a block, clamped to the range of a 32-bit integer. -/
def Block.size (b : Block) : Int32 :=
  Int32.ofInt (max (-2147483648) (min int32Max (b.len.toInt * itemSize)))

/-- A call from the host into the guest, with what came of it where the host looks at it. -/
inductive HostCall where
  | alloc (size : Int32) (result : Except Halt Int32)
  | export (params : List Val)
  | free (ptr size : Int32) (result : Except Halt Unit)

/-- The memory and the functions of an instance that lists need, by index. -/
structure Guest where
  memory : Nat
  alloc : Nat
  free : Option Nat
  deriving DecidableEq, Repr

namespace Guest

def allocType : FuncType := ⟨[.i32], [.i32]⟩

def freeType : FuncType := ⟨[.i32, .i32], []⟩

/-- The exported function under a name, and its type. -/
def function? (m : Wasm.Module) (name : String) : Option (Nat × FuncType) :=
  match m.export? name with
  | some (.func i) => (m.funcTypes[i]?).map (i, ·)
  | _ => none

/-- The exported memory under a name. -/
def memory? (m : Wasm.Module) (name : String) : Option Nat :=
  match m.export? name with
  | some (.memory x) => some x
  | _ => none

/-- What lists need, or what is missing first. -/
def resolve (m : Wasm.Module) : Except GuestError Guest :=
  match memory? m "memory" with
  | none => .error .missingMemory
  | some x =>
    match function? m "alloc" with
    | none => .error (.missingAllocator (.noFunction "alloc"))
    | some (i, type) =>
      if type = allocType then
        .ok ⟨x, i,
          (function? m "free").bind fun (k, type) => if type = freeType then some k else none⟩
      else .error (.missingAllocator (.functionType "alloc" type))

/-- What is wrong with a `free` that is exported under another type. -/
def unusableFree (m : Wasm.Module) : Option EngineFault :=
  match function? m "free" with
  | some (_, type) => if type = freeType then none else some (.functionType "free" type)
  | none => none

/-! ## Copying lists -/

/-- The bytes of a list, each item with the lowest byte first. -/
def encode (xs : List Int32) : List UInt8 :=
  xs.flatMap fun x => Machine.bytesOf itemSize x.toUInt32.toNat

/-- The item at an address. -/
def itemAt (m : Memory) (i : Nat) : Int32 :=
  (UInt32.ofNat (Machine.ofBytes (m.read i itemSize))).toInt32

/-- What came of a step that calls into the guest. -/
structure Step (α : Type) where
  result : Except GuestError α
  store : Store
  calls : List HostCall

/-- Copy a list into a block of its own. -/
def writeList (c : Code) (g : Guest) (xs : List Int32) (store : Store) : Step Block :=
  let bytes := xs.length * itemSize
  if int32Max < bytes then ⟨.error (.tooLong xs.length), store, []⟩
  else
    let size := Int32.ofNat bytes
    match Machine.call c g.alloc [.i32 size.toUInt32] store with
    | .halt h store => ⟨.error (.alloc size h), store, [.alloc size (.error h)]⟩
    | .values vs store =>
      match vs with
      | [.i32 p] =>
        let block : Block := ⟨p.toInt32, Int32.ofNat xs.length⟩
        let calls := [.alloc size (.ok block.ptr)]
        if block.ptr < 0 then ⟨.error (.invalidBlock block.ptr block.len), store, calls⟩
        else if p.toNat + bytes ≤ store.memorySize g.memory then
          ⟨.ok block, store.write g.memory p.toNat (encode xs), calls⟩
        else ⟨.error (.outOfBounds block.ptr bytes), store, calls⟩
      | _ => ⟨.error (.alloc size .stuck), store, [.alloc size (.error .stuck)]⟩

/-- The list in a block. -/
def readList (g : Guest) (store : Store) (b : Block) : Except GuestError (List Int32) :=
  if b.ptr < 0 ∨ b.len < 0 then .error (.invalidBlock b.ptr b.len)
  else
    let start := b.ptr.toInt.toNat
    let bytes := b.len.toInt.toNat * itemSize
    match store.memories[g.memory]? with
    | some m =>
      if start + bytes ≤ m.size then
        .ok ((List.range b.len.toInt.toNat).map fun k => itemAt m (start + k * itemSize))
      else .error (.outOfBounds b.ptr bytes)
    | none => .error (.outOfBounds b.ptr bytes)

/-! ## Releasing blocks -/

/-- Hand a block back; without a `free` this does nothing. -/
def release (c : Code) (g : Guest) (b : Block) (store : Store) : Step Unit :=
  match g.free with
  | none => ⟨.ok (), store, []⟩
  | some f =>
    match Machine.call c f [.i32 b.ptr.toUInt32, .i32 b.size.toUInt32] store with
    | .values _ store => ⟨.ok (), store, [.free b.ptr b.size (.ok ())]⟩
    | .halt h store => ⟨.error (.free b.ptr h), store, [.free b.ptr b.size (.error h)]⟩

/-- Hand blocks back one after the other, whatever comes of each; the first failure counts. -/
def releaseAll (c : Code) (g : Guest) : List Block → Store → Step Unit
  | [], store => ⟨.ok (), store, []⟩
  | b :: bs, store =>
    let first := g.release c b store
    let rest := releaseAll c g bs first.store
    let result := match first.result with
      | .ok () => rest.result
      | .error e => .error e
    ⟨result, rest.store, first.calls ++ rest.calls⟩

end Guest

end WasmGuest
