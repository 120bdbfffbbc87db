import WasmGuest.Runner
import WasmGuest.Scenario.Modules

/-!
# Scenarios

A scenario runs one of the shipped modules with fixed invocations, under the
default configuration.  The gas table measures what the recursive Fibonacci
function costs.
-/

namespace WasmGuest

structure Scenario where
  name : String
  /-- The file name of the module among the shipped ones. -/
  file : String
  invocations : List Invocation
  deriving Repr

namespace Scenario

/-- A 32-bit argument. -/
def int (n : Int) : Value := .i32 (Int32.ofInt n)

def add : Scenario where
  name := "add"
  file := "add.wat"
  invocations :=
    [⟨"add", [int 42, int 19], .value, some "42 + 19", .eqEq⟩,
     ⟨"add", [int 1, int 2], .value, some "1 + 2", .eq⟩]

/-- The question whether three sides make a right triangle. -/
def sides (a b c : Nat) : Invocation :=
  ⟨"is_pythag", [int a, int b, int c], .bool,
    some ("isPythag(" ++ toString a ++ ", " ++ toString b ++ ", " ++ toString c ++ ")"), .eqEq⟩

def pythag : Scenario where
  name := "pythag"
  file := "pythag.wat"
  invocations := [sides 1 2 3, sides 3 4 5]

def square : Scenario where
  name := "square"
  file := "square.wat"
  invocations := [⟨"square", [int 4], .value, none, .eq⟩]

def fibonacci : Scenario where
  name := "fibonacci"
  file := "fibonacci.wat"
  invocations :=
    [⟨"fibrec", [int 10], .value, none, .eq⟩, ⟨"fibiter", [int 10], .value, none, .eq⟩]

def reverse : Scenario where
  name := "reverse"
  file := "reverse.wat"
  invocations :=
    [⟨"reverse", [.list [3, 1, 4, 1, 5, 9, 2, 6]], .list, none, .eqEq⟩]

def sumOfSquares : Scenario where
  name := "sum-of-squares"
  file := "sum_of_squares.wat"
  invocations := [⟨"sum_of_squares", [int 100], .value, none, .eq⟩]

/-- All scenarios, in the order they are listed. -/
def all : List Scenario :=
  [add, pythag, square, fibonacci, reverse, sumOfSquares]

/-- The shipped modules by file name. -/
def texts : List (String × String) :=
  [("add.wat", addText), ("fibonacci.wat", fibonacciText), ("pythag.wat", pythagText),
   ("reverse.wat", reverseText), ("square.wat", squareText),
   ("sum_of_squares.wat", sumOfSquaresText)]

/-- The shipped modules as files. -/
def files : FileSystem :=
  (texts.foldl (fun fs (name, text) => fs.addFile name text.toUTF8) ({} : Files)).resolve

/-- Run a scenario. -/
def run (s : Scenario) (output : Output) : Run (List Outcome) :=
  (WasmGuest.run {} files s.file s.invocations output).after [.scenario s.name]

/-! ## The gas table -/

/-- The fuel limit of the gas table. -/
def gasLimit : UInt64 := 1000000

/-- The last number of the gas table. -/
def gasUpto : Int32 := 20

/-- The call that computes the `n`-th Fibonacci number. -/
def gasCall (n : Nat) : Invocation :=
  ⟨"fibrec", [int n], .value, none, .eq⟩

/-- The argument of a call as text. -/
def argumentText (i : Invocation) : String :=
  ", ".intercalate (i.args.map Value.text)

/-- A line of the gas table. -/
def gasLine (i : Invocation) (o : Outcome) : String :=
  "consumed " ++ toString (o.fuelConsumed.getD 0) ++ " to compute fib(" ++ argumentText i
    ++ ") = " ++ resultText o.value

/-- Compute the Fibonacci numbers from the first up to one, and tell the fuel each one took. -/
def gas (limit : UInt64) (upto : Int32) (output : Output) : Run (List Outcome) :=
  onInstance { fuel := some limit } files fibonacci.file output
    (performEach gasLine gasCall upto.toInt.toNat 1)

end Scenario

end WasmGuest
