import WasmGuest.Image
import WasmGuest.Invocation
import WasmGuest.Machine.Instantiate
import WasmGuest.Output
import WasmGuest.Signature

/-!
# Errors

Everything that can go wrong between a path and a line of output, by cause.  The
message of an error quotes the engine where the engine is the cause; how an
`EngineFault` is worded is a parameter of every message, so that a caller may
put its own words there.
-/

namespace WasmGuest

open Wasm (FuncType)
open Machine (Halt StartFault)

/-- What the engine reports. -/
inductive EngineFault where
  /-- The bytes are no valid module. -/
  | module (cause : Wasm.Fault)
  /-- The resources of an instance could not be set up. -/
  | setup
  | start (cause : StartFault)
  | halt (cause : Halt)
  /-- No function is exported under the name. -/
  | noFunction (name : String)
  /-- The function under the name has another type. -/
  | functionType (name : String) (found : FuncType)
  deriving DecidableEq, Repr

def EngineFault.message : EngineFault → String
  | module cause => cause.message
  | setup => "resources unavailable"
  | start cause => cause.message
  | halt cause => cause.message
  | noFunction name => "no function named '" ++ name ++ "'"
  | functionType name found =>
    "function '" ++ name ++ "' has signature " ++ (Signature.ofType found).text

/-- What goes wrong when a list passes through guest memory. -/
inductive GuestError where
  | missingMemory
  | missingAllocator (cause : EngineFault)
  | alloc (size : Int32) (cause : Halt)
  | free (ptr : Int32) (cause : Halt)
  | outOfBounds (ptr : Int32) (bytes : Nat)
  | invalidBlock (ptr len : Int32)
  | tooLong (items : Nat)
  deriving DecidableEq, Repr

/-- An address as an unsigned hexadecimal number. -/
def hexAddress (ptr : Int32) : String :=
  "0x" ++ String.ofList (Nat.toDigits 16 ptr.toUInt32.toNat)

/-- The decimal text of a 32-bit integer. -/
def int32Text (n : Int32) : String :=
  String.ofList (Text.intText n.toInt)

def GuestError.message (words : EngineFault → String) : GuestError → String
  | missingMemory => "module does not export a linear memory named 'memory'"
  | missingAllocator cause => "module does not export 'alloc(i32) -> i32': " ++ words cause
  | alloc size cause =>
    "guest allocation of " ++ int32Text size ++ " bytes failed: " ++ words (.halt cause)
  | free ptr cause =>
    "guest release of block " ++ hexAddress ptr ++ " failed: " ++ words (.halt cause)
  | outOfBounds ptr bytes =>
    "guest memory access out of bounds: " ++ toString bytes ++ " bytes at " ++ hexAddress ptr
  | invalidBlock ptr len =>
    "invalid block returned by guest: ptr=" ++ int32Text ptr ++ ", len=" ++ int32Text len
  | tooLong items =>
    "list with " ++ toString items ++ " items does not fit into guest memory"

/-- Why the call of an export gave no outcome. -/
inductive CallError where
  | arityMismatch (expected got : Nat)
  | typeMismatch (index : Nat) (expected : String) (got : Kind)
  | resultMismatch (returns : Returns) (signature : Signature)
  | outOfFuel
  | trap (cause : Halt)
  | guest (cause : GuestError)
  deriving DecidableEq, Repr

def CallError.message (words : EngineFault → String) : CallError → String
  | arityMismatch expected got =>
    "expected " ++ toString expected ++ " parameters but got " ++ toString got
  | typeMismatch index expected got =>
    "argument " ++ toString index ++ ": expected " ++ expected ++ " but got " ++ got.name
  | resultMismatch returns signature =>
    "signature " ++ signature.text ++ " cannot be read as " ++ returns.name
  | outOfFuel => "out of fuel"
  | trap cause => words (.halt cause)
  | guest cause => cause.message words

/-- Why a module has no instance. -/
inductive InstantiationError where
  | missingImports (imports : List Import)
  | setup
  | start (cause : StartFault)
  deriving DecidableEq, Repr

def InstantiationError.message (words : EngineFault → String) : InstantiationError → String
  | missingImports imports => "unresolved imports: " ++ Import.listText imports
  | setup => "store setup failed: " ++ words .setup
  | start cause => words (.start cause)

inductive Error where
  | load (cause : LoadError)
  | compilation (cause : Wasm.Fault)
  | instantiation (cause : InstantiationError)
  | exportNotFound (name : String)
  | invocation (target : String) (cause : CallError)
  | emit (cause : WriteFault)
  deriving DecidableEq, Repr

namespace Error

def message (words : EngineFault → String) : Error → String
  | load cause => "unable to load module: " ++ cause.message
  | compilation cause => "unable to compile module: " ++ words (.module cause)
  | instantiation cause => "unable to instantiate module: " ++ cause.message words
  | exportNotFound name => "export not found: '" ++ name ++ "'"
  | invocation target cause => "invocation of '" ++ target ++ "' failed: " ++ cause.message words
  | emit cause => "unable to write output: " ++ cause.message

/-- The messages of what lies behind an error, from the outside in. -/
def causes (words : EngineFault → String) : Error → List String
  | load (.notAFile path) => [(LoadError.notAFile path).message]
  | load (.unreadable path cause) => [(LoadError.unreadable path cause).message, cause.message]
  | instantiation cause => [cause.message words]
  | emit cause => [cause.message]
  | compilation _ | exportNotFound _ | invocation .. => []

end Error

end WasmGuest
