import WasmGuest.Error

/-!
# Reports

What a run tells about its progress, in the order it happens.  Each report has a
level, a target (the part of the library it comes from) and a text.
-/

namespace WasmGuest

open Text
open Wasm (Val)

/-- The progress of a run. -/
inductive Stage where
  | unloaded
  | compiled
  | instantiated
  | invoked
  deriving DecidableEq, Repr

namespace Stage

def name : Stage → String
  | unloaded => "Unloaded"
  | compiled => "Compiled"
  | instantiated => "Instantiated"
  | invoked => "Invoked"

/-- The place of a stage in a run. -/
def rank : Stage → Nat
  | unloaded => 0
  | compiled => 1
  | instantiated => 2
  | invoked => 3

instance : Ord Stage := ⟨fun a b => compare a.rank b.rank⟩

end Stage

inductive Level where
  | debug
  | info
  | warn
  deriving DecidableEq, Repr

def Level.name : Level → String
  | debug => "DEBUG"
  | info => "INFO"
  | warn => "WARN"

inductive Report where
  /-- A run of the named scenario begins. -/
  | scenario (name : String)
  | loaded (bytes : Nat) (format : ImageFormat) (origin : Option String)
  /-- The run has reached a stage before its invocations. -/
  | reached (stage : Stage)
  | invoked (target : String) (value : Option Value)
  | calling (target : String) (params : List Val)
  /-- The module exports a `free` that cannot be used. -/
  | freeIgnored (cause : EngineFault)
  | releaseFailed (cause : GuestError)
  deriving DecidableEq, Repr

namespace Report

/-- The stage that a report announces. -/
def stage? : Report → Option Stage
  | reached stage => some stage
  | invoked .. => some .invoked
  | _ => none

def level : Report → Level
  | scenario _ => .info
  | freeIgnored _ | releaseFailed _ => .warn
  | _ => .debug

/-- The part of the library that a report comes from. -/
def target : Report → String
  | scenario _ => "scenarios"
  | loaded .. | reached _ | invoked .. => "runner"
  | calling .. | releaseFailed _ => "instance"
  | freeIgnored _ => "guest"

/-- An optional text or value in full. -/
def optional (absent : String) : Option String → String
  | some s => "Some(" ++ s ++ ")"
  | none => absent

/-- A machine value, integers signed and floating-point numbers as their bits. -/
def valText : Val → String
  | .i32 n => "I32(" ++ toString n.toInt32.toInt ++ ")"
  | .i64 n => "I64(" ++ toString n.toInt64.toInt ++ ")"
  | .f32 bits => "F32(" ++ toString bits.toNat ++ ")"
  | .f64 bits => "F64(" ++ toString bits.toNat ++ ")"
  | .v128 bits => "V128(" ++ toString bits.toNat ++ ")"
  | .funcref none => "FuncRef(None)"
  | .funcref (some f) => "FuncRef(" ++ toString f ++ ")"
  | .externref => "ExternRef(None)"

def text (words : EngineFault → String) : Report → String
  | scenario name => "running scenario '" ++ name ++ "'"
  | loaded bytes format origin =>
    "loaded " ++ toString bytes ++ " bytes (" ++ format.name ++ ") from "
      ++ optional "None" (origin.map quoted)
  | reached stage => "stage -> " ++ stage.name
  | invoked target value =>
    "stage -> " ++ Stage.invoked.name ++ ": " ++ target ++ " returned "
      ++ optional "None" (value.map Value.tagged)
  | calling target params =>
    "calling '" ++ target ++ "' with [" ++ ", ".intercalate (params.map valText) ++ "]"
  | freeIgnored cause => "ignoring 'free' export with unexpected signature: " ++ words cause
  | releaseFailed cause => cause.message words

/-- A report on one line. -/
def line (words : EngineFault → String) (r : Report) : String :=
  r.level.name ++ " " ++ r.target ++ ": " ++ r.text words

end Report

end WasmGuest
