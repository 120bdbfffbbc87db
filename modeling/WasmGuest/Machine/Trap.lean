/-!
# Traps

Why guest code stops before its end.
-/

namespace WasmGuest.Machine

inductive Trap where
  | unreachable
  | memoryOutOfBounds
  | tableOutOfBounds
  | nullCall
  | badSignature
  | integerOverflow
  | divisionByZero
  | badConversion
  | stackOverflow
  | outOfFuel
  deriving DecidableEq, Repr

/-- The trap in words. -/
def Trap.message : Trap → String
  | unreachable => "unreachable instruction executed"
  | memoryOutOfBounds => "out of bounds memory access"
  | tableOutOfBounds => "undefined element: out of bounds table access"
  | nullCall => "uninitialized element"
  | badSignature => "indirect call type mismatch"
  | integerOverflow => "integer overflow"
  | divisionByZero => "integer divide by zero"
  | badConversion => "invalid conversion to integer"
  | stackOverflow => "call stack exhausted"
  | outOfFuel => "all fuel consumed"

/-- Why a run ends without results. -/
inductive Halt where
  | trap (t : Trap)
  /-- A loop, or functions that take each other's place, were still turning after `turnBound` turns,
  so the run has no answer. -/
  | endless
  /-- Operands were missing or of another type, which the code of a valid module never meets. -/
  | stuck
  deriving DecidableEq, Repr

/-- The trap, if it is one. -/
def Halt.trap? : Halt → Option Trap
  | trap t => some t
  | endless | stuck => none

def Halt.message : Halt → String
  | trap t => t.message
  | endless => "loop does not end"
  | stuck => "malformed code"

end WasmGuest.Machine
