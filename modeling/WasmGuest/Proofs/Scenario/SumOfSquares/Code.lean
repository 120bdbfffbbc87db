import WasmGuest.Proofs.Scenario.Reading
import WasmGuest.Scenario.Modules

/-!
# The code of the sum-of-squares module

The module that the text `sumOfSquaresText` is read as: one function, which adds
up squares in a loop.

* `ofImage_sumOfSquaresText`: the text is read as `sumOfSquaresModule`, which is valid.
-/

namespace WasmGuest.Scenario

open Wasm

namespace SumOfSquares

/-- Add the square of the counter, unless the counter is above the parameter. -/
def turn : List Instr :=
  [.localGet 2, .localGet 0, .numeric (.intCompare .w32 (.gt .signed)), .brIf 1,
    .localGet 1, .localGet 2, .localGet 2, .numeric (.intBinary .w32 .mul),
    .numeric (.intBinary .w32 .add), .localSet 1, .localGet 2, .const (.i32 1),
    .numeric (.intBinary .w32 .add), .localSet 2, .br 0]

def sumOfSquares : Func where
  type := ⟨[.i32], [.i32]⟩
  locals := [.i32, .i32]
  body := [.const (.i32 1), .localSet 2, .block ⟨[], []⟩ [.loop ⟨[], []⟩ turn], .localGet 1]

end SumOfSquares

open SumOfSquares in
def sumOfSquaresModule : Wasm.Module where
  funcs := [sumOfSquares]
  exports := [⟨"sum_of_squares", .func 0⟩]

/-! ## The text -/

theorem validate_sumOfSquaresModule : sumOfSquaresModule.validate = .ok () := by
  rfl

set_option maxRecDepth 20000 in
/-- The characters of the text are parsed as the module. -/
theorem parse_sumOfSquaresText : ∃ cs, sumOfSquaresText = String.ofList ('(' :: cs) ∧
    Wasm.Module.ofText ('(' :: cs) = .ok sumOfSquaresModule := by
  refine ⟨_, by unfold sumOfSquaresText; rfl, ?_⟩
  rfl

/-- The text is prepared as the module. -/
theorem ofImage_sumOfSquaresText (config : Config) :
    Prepared.ofImage config (.ofText sumOfSquaresText) = .ok ⟨config, sumOfSquaresModule⟩ := by
  obtain ⟨cs, htext, hread⟩ := parse_sumOfSquaresText
  exact Prepared.ofImage_ofText config htext hread validate_sumOfSquaresModule

end WasmGuest.Scenario
