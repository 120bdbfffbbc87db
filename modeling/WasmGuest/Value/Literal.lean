import WasmGuest.Floating.Literal
import WasmGuest.Text.Blank
import WasmGuest.Text.Integer
import WasmGuest.Value

/-!
# Reading host values

A literal is read after the blanks at its ends are taken off.  Brackets make a
list of 32-bit integers, `true` and `false` are truth values, and a number may
name its type by a suffix; without one, a point or an exponent makes it a 64-bit
floating-point number and anything else a 32-bit integer.
-/

namespace WasmGuest

open Text
open Floating (Format)

/-- What a literal was read as when it turned out to be none. -/
inductive LiteralKind where
  | number (k : Kind)
  | item
  deriving DecidableEq, Repr

def LiteralKind.name : LiteralKind → String
  | number k => k.name
  | item => "list item"

/-- Why a text is no value. -/
inductive LiteralError where
  | empty
  | invalid (kind : LiteralKind) (literal : String)
  | unterminatedList (literal : String)
  deriving DecidableEq, Repr

def LiteralError.message : LiteralError → String
  | empty => "empty value"
  | invalid kind literal => "invalid " ++ kind.name ++ " literal: '" ++ literal ++ "'"
  | unterminatedList literal => "unterminated list: '" ++ literal ++ "'"

/-- The pieces between the commas of a text. -/
def splitCommas : List Char → List (List Char)
  | [] => [[]]
  | c :: s =>
    if c = ',' then [] :: splitCommas s
    else match splitCommas s with
      | [] => [[c]]
      | piece :: pieces => (c :: piece) :: pieces

/-- The text before a suffix. -/
def dropSuffix? (suffix s : List Char) : Option (List Char) :=
  if suffix.isSuffixOf s then some (s.take (s.length - suffix.length)) else none

/-- A 32-bit integer. -/
def readInt32 (s : List Char) : Option Int32 :=
  (readIntIn (-2147483648) 2147483647 s).map Int32.ofInt

/-- A 64-bit integer. -/
def readInt64 (s : List Char) : Option Int64 :=
  (readIntIn (-9223372036854775808) 9223372036854775807 s).map Int64.ofInt

/-- The items of a list, each with blanks around it. -/
def readItems : List (List Char) → Except LiteralError (List Int32)
  | [] => .ok []
  | piece :: pieces =>
    match readInt32 (trim piece) with
    | none => .error (.invalid .item (String.ofList (trim piece)))
    | some x => do .ok (x :: (← readItems pieces))

namespace Value

/-- A number of a kind. -/
def number? (kind : Kind) (s : List Char) : Option Value :=
  match kind with
  | .i32 => (readInt32 s).map i32
  | .i64 => (readInt64 s).map i64
  | .f32 => (Format.single.read s).map fun bits => f32 (UInt32.ofNat bits)
  | .f64 => (Format.double.read s).map fun bits => f64 (UInt64.ofNat bits)
  | .bool | .list => none

/-- The suffixes that name the type of a number, in the order they are looked for. -/
def suffixes : List (List Char × Kind) :=
  [(['i', '3', '2'], .i32), (['i', '6', '4'], .i64), (['f', '3', '2'], .f32),
   (['f', '6', '4'], .f64)]

/-- The kind that a number literal names or implies, and the number without its suffix. -/
def numberKind (s : List Char) : List (List Char × Kind) → Kind × List Char
  | [] => (if s.any (fun c => c = '.' ∨ c = 'e' ∨ c = 'E') then .f64 else .i32, s)
  | (suffix, kind) :: rest =>
    match dropSuffix? suffix s with
    | some n => (kind, n)
    | none => numberKind s rest

/-- A literal without blanks at its ends. -/
def ofTrimmed : List Char → Except LiteralError Value
  | [] => .error .empty
  | '[' :: rest =>
    match dropSuffix? [']'] rest with
    | none => .error (.unterminatedList (String.ofList ('[' :: rest)))
    | some inner =>
      if (trim inner).isEmpty then .ok (list [])
      else (readItems (splitCommas inner)).map list
  | s =>
    if s = ['t', 'r', 'u', 'e'] then .ok (bool true)
    else if s = ['f', 'a', 'l', 's', 'e'] then .ok (bool false)
    else
      let (kind, n) := numberKind s suffixes
      match number? kind n with
      | some v => .ok v
      | none => .error (.invalid (.number kind) (String.ofList s))

/-- The value that a text stands for. -/
def parse (s : String) : Except LiteralError Value :=
  ofTrimmed (trim s.toList)

end Value

end WasmGuest
