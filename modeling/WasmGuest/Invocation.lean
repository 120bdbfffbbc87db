import WasmGuest.Text.Quoted
import WasmGuest.Value.Text

/-!
# Invocations and their outcomes

An invocation names an export and gives its arguments, how the results are to be
read, and how the line that reports the outcome begins.
-/

namespace WasmGuest

open Text

/-- How the results of an export are read. -/
inductive Returns where
  /-- At most one number. -/
  | value
  /-- One 32-bit integer as a truth value. -/
  | bool
  /-- A list, by its place in guest memory and its length. -/
  | list
  deriving DecidableEq, Repr, Inhabited

def Returns.name : Returns → String
  | value => "Value"
  | bool => "Bool"
  | list => "List"

/-- What stands between label and value. -/
inductive Separator where
  | eq
  | eqEq
  deriving DecidableEq, Repr, Inhabited

namespace Separator

def text : Separator → String
  | eq => "="
  | eqEq => "=="

def name : Separator → String
  | eq => "Eq"
  | eqEq => "EqEq"

end Separator

structure Invocation where
  target : String
  args : List Value := []
  returns : Returns := .value
  label : Option String := none
  separator : Separator := .eq
  deriving DecidableEq, Repr

namespace Invocation

/-- The label, which unless given is the call as it would be written. -/
def displayLabel (i : Invocation) : String :=
  match i.label with
  | some label => label
  | none => i.target ++ "(" ++ ", ".intercalate (i.args.map Value.text) ++ ")"

/-- All parts of an invocation on one line. -/
def text (i : Invocation) : String :=
  let label := match i.label with
    | some label => "Some(" ++ quoted label ++ ")"
    | none => "None"
  "Invocation \x7b export: " ++ quoted i.target
    ++ ", args: [" ++ ", ".intercalate (i.args.map Value.tagged)
    ++ "], returns: " ++ i.returns.name
    ++ ", label: " ++ label
    ++ ", separator: " ++ i.separator.name ++ " \x7d"

/-- Whether guest memory takes part: a list is passed or asked for. -/
def usesMemory (i : Invocation) : Bool :=
  i.returns == .list || i.args.any Value.isList

end Invocation

structure Outcome where
  value : Option Value
  /-- The fuel that the call spent, if fuel is metered. -/
  fuelConsumed : Option Nat
  deriving DecidableEq, Repr

/-- The text of an optional value as a result; without a value it is `()`. -/
def resultText : Option Value → String
  | some v => v.text
  | none => "()"

/-- The line that reports the outcome of an invocation. -/
def Outcome.line (o : Outcome) (i : Invocation) : String :=
  i.displayLabel ++ " " ++ i.separator.text ++ " " ++ resultText o.value

end WasmGuest
