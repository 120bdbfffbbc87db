import WasmGuest.Wasm.Fault

/-!
# Tokens of the text format

The text format consists of parentheses, words and strings, separated by
blanks, line comments `;; …` and block comments `(; … ;)`, which nest.  The
scanner is an automaton over characters: `Scan.step` takes one character, and
`tokens` runs it from the start of the text to its end.
-/

namespace WasmGuest.Wasm.Textual

inductive Token where
  | openParen
  | closeParen
  | word (text : String)
  | string (bytes : List UInt8)
  deriving DecidableEq, Repr

/-- The characters that make up words. -/
def isWordChar (c : Char) : Bool :=
  33 ≤ c.toNat && c.toNat ≤ 126 && !(['"', '(', ')', ',', ';', '[', ']', '\x7b', '\x7d'].contains c)

def isBlank (c : Char) : Bool :=
  c == ' ' || c == '\t' || c == '\n' || c == '\r'

/-- The value of a hexadecimal digit. -/
def hexDigit? (c : Char) : Option Nat :=
  if c.isDigit then some (c.toNat - '0'.toNat)
  else if 'a' ≤ c ∧ c ≤ 'f' then some (c.toNat - 'a'.toNat + 10)
  else if 'A' ≤ c ∧ c ≤ 'F' then some (c.toNat - 'A'.toNat + 10)
  else none

/-- Where the scanner stands; collected characters and bytes are kept last first. -/
inductive Scan where
  | between
  | word (chars : List Char)
  /-- After a string, which no word or string may follow directly. -/
  | afterString
  | semicolon
  | lineComment
  | paren
  | blockComment (depth : Nat)
  | blockSemicolon (depth : Nat)
  | blockParen (depth : Nat)
  | string (bytes : List UInt8)
  | escape (bytes : List UInt8)
  | hexEscape (bytes : List UInt8) (high : Nat)
  | codePoint (bytes : List UInt8)
  | codePointDigits (bytes : List UInt8) (value : Option Nat) (afterUnderscore : Bool)

namespace Scan

/-- One character outside strings and comments, given whether a word or string may begin. -/
def fresh (c : Char) (mayBegin : Bool) (done : List Token) : Except Fault (Scan × List Token) :=
  if isBlank c then .ok (between, done)
  else if c = '(' then .ok (paren, done)
  else if c = ')' then .ok (between, .closeParen :: done)
  else if c = ';' then .ok (semicolon, done)
  else if c = '"' ∧ mayBegin then .ok (string [], done)
  else if isWordChar c ∧ mayBegin then .ok (word [c], done)
  else .error (.badCharacter c)

/-- The bytes of a character put before bytes kept last first. -/
def consUtf8 (c : Char) (bytes : List UInt8) : List UInt8 :=
  (String.utf8EncodeChar c).reverse ++ bytes

/-- The single-letter escapes. -/
def escaped? : Char → Option UInt8
  | 't' => some 9
  | 'n' => some 10
  | 'r' => some 13
  | '"' => some 34
  | '\'' => some 39
  | '\\' => some 92
  | _ => none

/-- The token of a word whose characters are kept last first.  The mark of a name is no word by
itself. -/
def wordToken (chars : List Char) : Except Fault Token :=
  if chars = ['$'] then .error (.badCharacter '$') else .ok (.word (String.ofList chars.reverse))

/-- The scanner after one more character; tokens are kept last first. -/
def step (c : Char) (done : List Token) : Scan → Except Fault (Scan × List Token)
  | between => fresh c true done
  | afterString => fresh c false done
  | word chars =>
    if isWordChar c then .ok (word (c :: chars), done)
    else do fresh c false ((← wordToken chars) :: done)
  | semicolon => if c = ';' then .ok (lineComment, done) else .error (.badCharacter ';')
  | lineComment => .ok (if c = '\n' ∨ c = '\r' then between else lineComment, done)
  | paren =>
    if c = ';' then .ok (blockComment 0, done) else fresh c true (.openParen :: done)
  | blockComment depth =>
    .ok (if c = ';' then blockSemicolon depth
      else if c = '(' then blockParen depth else blockComment depth, done)
  | blockSemicolon depth =>
    .ok (if c = ')' then (if depth = 0 then between else blockComment (depth - 1))
      else if c = ';' then blockSemicolon depth
      else if c = '(' then blockParen depth else blockComment depth, done)
  | blockParen depth =>
    .ok (if c = ';' then blockComment (depth + 1)
      else if c = '(' then blockParen depth else blockComment depth, done)
  | string bytes =>
    if c = '"' then .ok (afterString, .string bytes.reverse :: done)
    else if c = '\\' then .ok (escape bytes, done)
    else if c.toNat < 32 ∨ c.toNat = 127 then .error (.badCharacter c)
    else .ok (string (consUtf8 c bytes), done)
  | escape bytes =>
    if c = 'u' then .ok (codePoint bytes, done)
    else match escaped? c, hexDigit? c with
      | some b, _ => .ok (string (b :: bytes), done)
      | none, some high => .ok (hexEscape bytes high, done)
      | none, none => .error (.badCharacter c)
  | hexEscape bytes high =>
    match hexDigit? c with
    | some low => .ok (string (UInt8.ofNat (16 * high + low) :: bytes), done)
    | none => .error (.badCharacter c)
  | codePoint bytes =>
    if c = '\x7b' then .ok (codePointDigits bytes none true, done) else .error (.badCharacter c)
  | codePointDigits bytes value afterUnderscore =>
    match hexDigit? c, value with
    | some d, value =>
      let n := 16 * value.getD 0 + d
      if n < 0x110000 then .ok (codePointDigits bytes (some n) false, done)
      else .error (.outOfRange "code point")
    | none, some n =>
      if c = '_' ∧ !afterUnderscore then .ok (codePointDigits bytes (some n) true, done)
      else if c = '\x7d' ∧ !afterUnderscore ∧ n.isValidChar then
        .ok (string (consUtf8 (Char.ofNat n) bytes), done)
      else .error (.badCharacter c)
    | none, none => .error (.badCharacter c)

/-- The tokens at the end of the text. -/
def finish (done : List Token) : Scan → Except Fault (List Token)
  | between | afterString | lineComment => .ok done.reverse
  | word chars => do .ok ((← wordToken chars) :: done).reverse
  | paren => .ok (.openParen :: done).reverse
  | semicolon => .error (.badCharacter ';')
  | blockComment _ | blockSemicolon _ | blockParen _ => .error (.unfinished "comment")
  | string _ | escape _ | hexEscape .. | codePoint _ | codePointDigits .. =>
    .error (.unfinished "string")

/-- Run the scanner over the rest of a text. -/
def run : List Char → Scan → List Token → Except Fault (List Token)
  | [], s, done => s.finish done
  | c :: cs, s, done =>
    match s.step c done with
    | .ok (s, done) => run cs s done
    | .error e => .error e

end Scan

/-- The tokens of a text. -/
def tokens (text : List Char) : Except Fault (List Token) :=
  Scan.run text .between []

end WasmGuest.Wasm.Textual
