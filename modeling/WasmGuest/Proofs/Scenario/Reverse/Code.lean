import WasmGuest.Proofs.Scenario.Reading
import WasmGuest.Scenario.Modules

/-!
# The code of the reversing module

The module that the text `reverseText` is read as: an allocator that moves a
pointer up and grows the memory, a `free` that does nothing, and a function that
copies a block back to front into a new one.

* `ofImage_reverseText`: the text is read as `reverseModule`, which is valid.
-/

namespace WasmGuest.Scenario

open Wasm

namespace Reverse

/-! ## Instructions by name -/

def num (n : UInt32) : Instr := .const (.i32 n)
def add : Instr := .numeric (.intBinary .w32 .add)
def sub : Instr := .numeric (.intBinary .w32 .sub)
def mul : Instr := .numeric (.intBinary .w32 .mul)
def and : Instr := .numeric (.intBinary .w32 .and)
def shl : Instr := .numeric (.intBinary .w32 .shl)
def shr : Instr := .numeric (.intBinary .w32 (.shr .unsigned))

/-- Read a word. -/
def load : Instr := .load ⟨.i32, 4, .unsigned⟩ ⟨0, 2, 0⟩

/-- Write a word. -/
def store : Instr := .store ⟨.i32, 4, .unsigned⟩ ⟨0, 2, 0⟩

/-! ## The functions -/

/-- Leave the block if the heap ends inside the memory, or else if the memory can be grown up to the
end of the heap. -/
def grow : List Instr :=
  [.globalGet 0, .memorySize 0 .w32, num 16, shl, .numeric (.intCompare .w32 (.le .unsigned)),
    .brIf 0, .globalGet 0, .memorySize 0 .w32, num 16, shl, sub, num 65535, add, num 16, shr,
    .memoryGrow 0 .w32, num 0xffffffff, .numeric (.intCompare .w32 .ne), .brIf 0, .unreachable]

/-- The old end of the heap is the block; the new one is the size further up, in whole words. -/
def alloc : Func where
  type := ⟨[.i32], [.i32]⟩
  locals := [.i32]
  body :=
    [.globalGet 0, .localSet 1, .globalGet 0, .localGet 0, num 3, add, num 0xfffffffc, and, add,
      .globalSet 0, .block ⟨[], []⟩ grow, .localGet 1]

def free : Func := ⟨⟨[.i32, .i32], []⟩, [], []⟩

/-- Copy item `i` of the block at the first parameter to its place from the end of the new block. -/
def turn : List Instr :=
  [.localGet 3, .localGet 1, .numeric (.intCompare .w32 (.ge .signed)), .brIf 1,
    .localGet 2, .localGet 1, num 1, sub, .localGet 3, sub, num 4, mul, add,
    .localGet 0, .localGet 3, num 4, mul, add, load, store,
    .localGet 3, num 1, add, .localSet 3, .br 0]

def reverse : Func where
  type := ⟨[.i32, .i32], [.i32, .i32]⟩
  locals := [.i32, .i32]
  body :=
    [.localGet 1, num 4, mul, .call 0, .localSet 2,
      .block ⟨[], []⟩ [.loop ⟨[], []⟩ turn], .localGet 2, .localGet 1]

end Reverse

open Reverse in
def reverseModule : Wasm.Module where
  funcs := [alloc, free, reverse]
  memories := [⟨⟨1, none⟩, .w32⟩]
  globals := [⟨⟨true, .i32⟩, [num 1024]⟩]
  exports := [⟨"memory", .memory 0⟩, ⟨"alloc", .func 0⟩, ⟨"free", .func 1⟩, ⟨"reverse", .func 2⟩]

/-! ## The text -/

theorem validate_reverseModule : reverseModule.validate = .ok () := by
  have hok : reverseModule.validate.isOk = true := by decide +kernel
  cases hvalid : reverseModule.validate with
  | ok _ => rfl
  | error e =>
    rw [hvalid] at hok
    cases hok

set_option maxRecDepth 20000 in
/-- The characters of the text are parsed as the module. -/
theorem parse_reverseText : ∃ cs, reverseText = String.ofList ('(' :: cs) ∧
    Wasm.Module.ofText ('(' :: cs) = .ok reverseModule := by
  refine ⟨_, by unfold reverseText; rfl, ?_⟩
  rfl

/-- The text is prepared as the module. -/
theorem ofImage_reverseText (config : Config) :
    Prepared.ofImage config (.ofText reverseText) = .ok ⟨config, reverseModule⟩ := by
  obtain ⟨cs, htext, hread⟩ := parse_reverseText
  exact Prepared.ofImage_ofText config htext hread validate_reverseModule

end WasmGuest.Scenario
