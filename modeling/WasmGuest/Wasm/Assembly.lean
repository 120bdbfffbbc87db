import WasmGuest.Wasm.Instr

/-!
# Nesting a linear sequence of instructions

Both formats write blocks linearly, as an opening, perhaps an `else`, and an
`end`.  An `Assembly` collects instructions in reading order and closes blocks
as their ends are met.
-/

namespace WasmGuest.Wasm

/-- What kind of block is open; the second branch of an `if` keeps the first. -/
inductive Opening where
  | block
  | loop
  | onTrue
  | onFalse (onTrue : List Instr)

/-- An open block: its label and type, and the instructions before it, the last one first. -/
structure OpenBlock where
  opening : Opening
  label : Option String
  type : FuncType
  before : List Instr

/-- The open blocks, innermost first, and the instructions of the innermost one, last first. -/
structure Assembly where
  blocks : List OpenBlock := []
  current : List Instr := []

namespace Assembly

def push (a : Assembly) (i : Instr) : Assembly :=
  { a with current := i :: a.current }

/-- Begin a block. -/
def enter (a : Assembly) (opening : Opening) (label : Option String) (type : FuncType) :
    Assembly :=
  ⟨⟨opening, label, type, a.current⟩ :: a.blocks, []⟩

/-- The label of the innermost open block. -/
def label? (a : Assembly) : Option (Option String) :=
  a.blocks.head?.map (·.label)

/-- Go on to the second branch of the innermost block, which has to be the first of an `if`. -/
def turn (a : Assembly) : Option Assembly :=
  match a.blocks with
  | ⟨.onTrue, label, type, before⟩ :: blocks =>
    some ⟨⟨.onFalse a.current.reverse, label, type, before⟩ :: blocks, []⟩
  | _ => none

/-- Close the innermost block. -/
def leave (a : Assembly) : Option Assembly :=
  match a.blocks with
  | [] => none
  | b :: blocks =>
    let body := a.current.reverse
    let done := match b.opening with
      | .block => .block b.type body
      | .loop => .loop b.type body
      | .onTrue => .ifElse b.type body []
      | .onFalse first => .ifElse b.type first body
    some ⟨blocks, done :: b.before⟩

/-- The finished sequence, if no block is open. -/
def finish (a : Assembly) : Option (List Instr) :=
  if a.blocks.isEmpty then some a.current.reverse else none

end Assembly

end WasmGuest.Wasm
