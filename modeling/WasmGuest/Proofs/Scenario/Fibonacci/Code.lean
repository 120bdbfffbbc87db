import WasmGuest.Proofs.Scenario.Reading
import WasmGuest.Scenario.Modules

/-!
# The code of the Fibonacci module

The module that the text `fibonacciText` is read as: Fibonacci numbers by
recursion, and by a loop.

* `ofImage_fibonacciText`: the text is read as `fibonacciModule`, which is valid.
-/

namespace WasmGuest.Scenario

open Wasm

namespace Fibonacci

/-- The numbers one and two before, added up. -/
def descend : List Instr :=
  [.localGet 0, .const (.i32 2), .numeric (.intBinary .w32 .sub), .call 0,
    .localGet 0, .const (.i32 1), .numeric (.intBinary .w32 .sub), .call 0,
    .numeric (.intBinary .w32 .add)]

/-- A number up to one is itself. -/
def recursive : Func where
  type := ⟨[.i32], [.i32]⟩
  locals := []
  body := [.localGet 0, .const (.i32 1), .numeric (.intCompare .w32 (.le .signed)),
    .ifElse ⟨[], [.i32]⟩ [.localGet 0] descend]

/-- From two neighbouring numbers to the next two. -/
def turn : List Instr :=
  [.localGet 4, .localGet 0, .numeric (.intCompare .w32 (.ge .signed)), .brIf 1,
    .localGet 1, .localSet 3, .localGet 1, .localGet 2, .numeric (.intBinary .w32 .add),
    .localSet 1, .localGet 3, .localSet 2, .localGet 4, .const (.i32 1),
    .numeric (.intBinary .w32 .add), .localSet 4, .br 0]

def iterative : Func where
  type := ⟨[.i32], [.i32]⟩
  locals := [.i32, .i32, .i32, .i32]
  body := [.const (.i32 1), .localSet 1, .const (.i32 1), .localSet 4,
    .block ⟨[], []⟩ [.loop ⟨[], []⟩ turn], .localGet 1]

end Fibonacci

open Fibonacci in
def fibonacciModule : Wasm.Module where
  funcs := [recursive, iterative]
  exports := [⟨"fibrec", .func 0⟩, ⟨"fibiter", .func 1⟩]

/-! ## The text -/

theorem validate_fibonacciModule : fibonacciModule.validate = .ok () := by
  rfl

set_option maxRecDepth 20000 in
/-- The characters of the text are parsed as the module. -/
theorem parse_fibonacciText : ∃ cs, fibonacciText = String.ofList ('(' :: cs) ∧
    Wasm.Module.ofText ('(' :: cs) = .ok fibonacciModule := by
  refine ⟨_, by unfold fibonacciText; rfl, ?_⟩
  rfl

/-- The text is prepared as the module. -/
theorem ofImage_fibonacciText (config : Config) :
    Prepared.ofImage config (.ofText fibonacciText) = .ok ⟨config, fibonacciModule⟩ := by
  obtain ⟨cs, htext, hread⟩ := parse_fibonacciText
  exact Prepared.ofImage_ofText config htext hread validate_fibonacciModule

end WasmGuest.Scenario
