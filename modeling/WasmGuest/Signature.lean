import WasmGuest.Wasm.Module

/-!
# Descriptions of exports and imports

What a module offers and expects, by name and kind, and by signature for a
function.  A signature lists types by their names.
-/

namespace WasmGuest

open Wasm (FuncType ExternType)

structure Signature where
  params : List String
  results : List String
  deriving DecidableEq, Repr

namespace Signature

/-- The signature of a function type. -/
def ofType (t : FuncType) : Signature :=
  ⟨t.params.map (·.name), t.results.map (·.name)⟩

/-- The text of a signature: one result stands alone, several stand in parentheses. -/
def text (s : Signature) : String :=
  "(" ++ ", ".intercalate s.params ++ ")" ++
    match s.results with
    | [] => ""
    | [r] => " -> " ++ r
    | rs => " -> (" ++ ", ".intercalate rs ++ ")"

end Signature

/-- The kinds of items, in the order of listings. -/
inductive ItemKind where
  | func | global | table | memory | tag
  deriving DecidableEq, Repr

namespace ItemKind

def name : ItemKind → String
  | func => "func"
  | global => "global"
  | table => "table"
  | memory => "memory"
  | tag => "tag"

/-- The place of a kind in listings. -/
def rank : ItemKind → Nat
  | func => 0
  | global => 1
  | table => 2
  | memory => 3
  | tag => 4

end ItemKind

/-- The kind of an item and, for a function, its signature. -/
def describe : ExternType → ItemKind × Option Signature
  | .func t => (.func, some (.ofType t))
  | .global _ => (.global, none)
  | .table _ => (.table, none)
  | .memory _ => (.memory, none)

structure Export where
  name : String
  kind : ItemKind
  signature : Option Signature
  deriving DecidableEq, Repr

namespace Export

def text (e : Export) : String :=
  match e.signature with
  | some s => e.name ++ s.text
  | none => e.kind.name ++ " " ++ e.name

/-- The order of listings: by kind, and by name within a kind. -/
def le (a b : Export) : Bool :=
  a.kind.rank < b.kind.rank || (a.kind.rank == b.kind.rank && decide (a.name ≤ b.name))

/-- Exports in the order of listings; exports of one kind and name keep their order. -/
def sorted (es : List Export) : List Export :=
  es.mergeSort le

end Export

structure Import where
  space : String
  name : String
  kind : ItemKind
  signature : Option Signature
  deriving DecidableEq, Repr

namespace Import

def text (i : Import) : String :=
  i.space ++ "::" ++ i.name ++
    match i.signature with
    | some s => s.text
    | none => " (" ++ i.kind.name ++ ")"

/-- Several imports on one line. -/
def listText (is : List Import) : String :=
  ", ".intercalate (is.map text)

end Import

/-- The exports of a module in the order of listings. -/
def exportsOf (m : Wasm.Module) : List Export :=
  Export.sorted <| m.exports.filterMap fun e =>
    (m.externType? e.item).map fun t =>
      let (kind, signature) := describe t
      ⟨e.name, kind, signature⟩

/-- The imports of a module in the order they are declared. -/
def importsOf (m : Wasm.Module) : List Import :=
  m.imports.map fun i =>
    let (kind, signature) := describe i.type
    ⟨i.space, i.name, kind, signature⟩

end WasmGuest
