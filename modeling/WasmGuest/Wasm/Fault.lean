/-!
# Faults of a module

Why bytes are no valid module: what a reader of either format stumbled over, or
which rule of validity is broken.
-/

namespace WasmGuest.Wasm

inductive Fault where
  /-- The bytes are neither the binary format nor UTF-8 text. -/
  | notText
  /-- A character stands where none of its kind may. -/
  | badCharacter (c : Char)
  /-- A string, comment or parenthesis is left open. -/
  | unfinished (what : String)
  /-- Something else stands where this was expected. -/
  | expected (what : String)
  | unknownOperator (name : String)
  | unknownName (space : String) (name : String)
  | duplicateName (space : String) (name : String)
  /-- A number does not fit its type. -/
  | outOfRange (what : String)
  | unexpectedEnd
  | badVersion
  | misplacedSection (id : Nat)
  | sectionSize (id : Nat)
  | countMismatch (what : String)
  /-- An index lies outside its index space. -/
  | noSuch (space : String) (index : Nat)
  | typeMismatch (what : String)
  | invalid (what : String)
  deriving DecidableEq, Repr

/-- The fault in words. -/
def Fault.message : Fault → String
  | notText => "input is not valid UTF-8 text"
  | badCharacter c => s!"unexpected character {repr c}"
  | unfinished what => s!"unfinished {what}"
  | expected what => s!"expected {what}"
  | unknownOperator name => s!"unknown operator {name}"
  | unknownName space name => s!"unknown {space} {name}"
  | duplicateName space name => s!"duplicate {space} {name}"
  | outOfRange what => s!"{what} out of range"
  | unexpectedEnd => "unexpected end of input"
  | badVersion => "unknown binary version"
  | misplacedSection id => s!"section {id} out of place"
  | sectionSize id => s!"size of section {id} does not match its content"
  | countMismatch what => s!"{what} do not match in number"
  | noSuch space index => s!"unknown {space} {index}"
  | typeMismatch what => s!"type mismatch: {what}"
  | invalid what => s!"invalid module: {what}"

end WasmGuest.Wasm
