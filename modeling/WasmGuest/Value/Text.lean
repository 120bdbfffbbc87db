import WasmGuest.Floating.Notation
import WasmGuest.Value

/-!
# Text of host values

`text` is the plain text of a value, and `tagged` puts it under the name of its
kind, with floating-point numbers in marked notation.
-/

namespace WasmGuest

open Text
open Floating (Format Notation)

/-- Texts with a comma and a blank between them. -/
def commaSeparated (ts : List (List Char)) : List Char :=
  [',', ' '].intercalate ts

/-- The text of a list of integers. -/
def itemsText (xs : List Int32) : List Char :=
  '[' :: commaSeparated (xs.map fun x => intText x.toInt) ++ [']']

def boolText (b : Bool) : List Char :=
  if b then ['t', 'r', 'u', 'e'] else ['f', 'a', 'l', 's', 'e']

namespace Value

/-- The text of a value as characters. -/
def chars (style : Notation) : Value → List Char
  | i32 n => intText n.toInt
  | i64 n => intText n.toInt
  | f32 bits => style.text .single bits.toNat
  | f64 bits => style.text .double bits.toNat
  | bool b => boolText b
  | list xs => itemsText xs

/-- The text of a value. -/
def text (v : Value) : String :=
  String.ofList (v.chars .plain)

/-- The name that a value is tagged with. -/
def tag : Value → String
  | i32 _ => "I32"
  | i64 _ => "I64"
  | f32 _ => "F32"
  | f64 _ => "F64"
  | bool _ => "Bool"
  | list _ => "List"

/-- The text of a value under the name of its kind. -/
def tagged (v : Value) : String :=
  v.tag ++ "(" ++ String.ofList (v.chars .marked) ++ ")"

end Value

end WasmGuest
