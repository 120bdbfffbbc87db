import WasmGuest.Text.CodePoints

/-!
# Quoted text

Text between double quotes: the quote and the backslash are escaped, line feed,
return, tab and the null character have letters of their own, and any other
character that would not show is written by its number in lower-case
hexadecimal.
-/

namespace WasmGuest.Text

/-- One character inside quotes. -/
def quotedChar (c : Char) : List Char :=
  match c with
  | '"' => ['\\', '"']
  | '\\' => ['\\', '\\']
  | '\n' => ['\\', 'n']
  | '\r' => ['\\', 'r']
  | '\t' => ['\\', 't']
  | '\x00' => ['\\', '0']
  | c =>
    if c.toNat < 32 ∨ (127 ≤ c.toNat ∧ inRanges unprintable c) then
      ['\\', 'u', '\x7b'] ++ Nat.toDigits 16 c.toNat ++ ['\x7d']
    else [c]

/-- The text between quotes. -/
def quoted (s : String) : String :=
  String.ofList ('"' :: s.toList.flatMap quotedChar ++ ['"'])

end WasmGuest.Text
