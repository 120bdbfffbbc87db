import WasmGuest.Wasm.Textual.Token

/-!
# Trees of the text format

Parentheses group the tokens of a text into trees: words, strings and lists.
-/

namespace WasmGuest.Wasm.Textual

inductive Tree where
  | word (text : String)
  | string (bytes : List UInt8)
  | list (items : List Tree)
  deriving Repr

namespace Tree

/-- Group tokens.  `outer` holds the lists still open, innermost first; `items` are the trees of
the innermost one, last first. -/
def group : List Token → (outer : List (List Tree)) → (items : List Tree) →
    Except Fault (List Tree)
  | [], [], items => .ok items.reverse
  | [], _ :: _, _ => .error (.unfinished "parenthesis")
  | .openParen :: ts, outer, items => group ts (items :: outer) []
  | .closeParen :: _, [], _ => .error (.badCharacter ')')
  | .closeParen :: ts, before :: outer, items => group ts outer (.list items.reverse :: before)
  | .word w :: ts, outer, items => group ts outer (.word w :: items)
  | .string b :: ts, outer, items => group ts outer (.string b :: items)

/-- The trees of a token list. -/
def ofTokens (ts : List Token) : Except Fault (List Tree) :=
  group ts [] []

/-- Whether a tree is a list headed by one of the words. -/
def headedBy (words : List String) : Tree → Bool
  | .list (.word w :: _) => words.contains w
  | _ => false

end Tree

end WasmGuest.Wasm.Textual
