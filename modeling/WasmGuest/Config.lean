/-!
# Configuration

The bounds that guest code runs under.
-/

namespace WasmGuest

structure Config where
  /-- The fuel that every call starts with; fuel is metered only if this is given. -/
  fuel : Option UInt64 := none
  /-- The bytes that a linear memory may have. -/
  maxMemory : UInt64 := 67108864
  deriving DecidableEq, Repr, Inhabited

namespace Config

/-- The fuel limit as a number. -/
def limit (c : Config) : Option Nat :=
  c.fuel.map UInt64.toNat

/-- All settings on one line. -/
def text (c : Config) : String :=
  let fuel := match c.fuel with
    | some n => "Some(" ++ toString n.toNat ++ ")"
    | none => "None"
  "Config \x7b fuel: " ++ fuel ++ ", max_memory: " ++ toString c.maxMemory.toNat ++ " \x7d"

end Config

end WasmGuest
