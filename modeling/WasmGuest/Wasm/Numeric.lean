import WasmGuest.Wasm.Types

/-!
# Numeric operators

The operators that compute a number from numbers on the operand stack, grouped
by what they compute, with the width as a parameter.  `Numeric.table` lists all
of them by name in the order of their one-byte codes, and the eight saturating
truncations, which have codes of their own, follow in `Numeric.saturating`.
-/

namespace WasmGuest.Wasm

/-- How the bits of an integer are read. -/
inductive Sign where
  | signed | unsigned
  deriving DecidableEq, Repr

inductive IntUnary where
  | clz | ctz | popcnt | extend8 | extend16 | extend32
  deriving DecidableEq, Repr

inductive IntBinary where
  | add | sub | mul | div (sign : Sign) | rem (sign : Sign)
  | and | or | xor | shl | shr (sign : Sign) | rotl | rotr
  deriving DecidableEq, Repr

inductive IntCompare where
  | eq | ne | lt (sign : Sign) | gt (sign : Sign) | le (sign : Sign) | ge (sign : Sign)
  deriving DecidableEq, Repr

inductive FloatUnary where
  | abs | neg | ceil | floor | trunc | nearest | sqrt
  deriving DecidableEq, Repr

inductive FloatBinary where
  | add | sub | mul | div | min | max | copysign
  deriving DecidableEq, Repr

inductive FloatCompare where
  | eq | ne | lt | gt | le | ge
  deriving DecidableEq, Repr

inductive Conversion where
  /-- The low half of a 64-bit integer. -/
  | wrap
  /-- A 32-bit integer as a 64-bit one. -/
  | extend (sign : Sign)
  /-- The whole part of a number; out of range it traps or, if saturating, is clamped. -/
  | truncate (target : Width) (source : Width) (sign : Sign) (saturating : Bool)
  /-- The number nearest to an integer. -/
  | ofInt (target : Width) (source : Width) (sign : Sign)
  | demote
  | promote
  /-- The bit pattern of a number as an integer. -/
  | bitsOf (width : Width)
  /-- The number with a given bit pattern. -/
  | ofBits (width : Width)
  deriving DecidableEq, Repr

inductive Numeric where
  | isZero (width : Width)
  | intUnary (width : Width) (op : IntUnary)
  | intBinary (width : Width) (op : IntBinary)
  | intCompare (width : Width) (op : IntCompare)
  | floatUnary (width : Width) (op : FloatUnary)
  | floatBinary (width : Width) (op : FloatBinary)
  | floatCompare (width : Width) (op : FloatCompare)
  | convert (op : Conversion)
  deriving DecidableEq, Repr

namespace Conversion

def operand : Conversion → ValType
  | wrap => .i64
  | extend _ => .i32
  | truncate _ source _ _ => source.floatType
  | ofInt _ source _ => source.intType
  | demote => .f64
  | promote => .f32
  | bitsOf w => w.floatType
  | ofBits w => w.intType

def result : Conversion → ValType
  | wrap => .i32
  | extend _ => .i64
  | truncate target _ _ _ => target.intType
  | ofInt target _ _ => target.floatType
  | demote => .f32
  | promote => .f64
  | bitsOf w => w.intType
  | ofBits w => w.floatType

end Conversion

namespace Numeric

/-- The operand types, in the order they were pushed, and the type of the result. -/
def type : Numeric → List ValType × ValType
  | isZero w => ([w.intType], .i32)
  | intUnary w _ => ([w.intType], w.intType)
  | intBinary w _ => ([w.intType, w.intType], w.intType)
  | intCompare w _ => ([w.intType, w.intType], .i32)
  | floatUnary w _ => ([w.floatType], w.floatType)
  | floatBinary w _ => ([w.floatType, w.floatType], w.floatType)
  | floatCompare w _ => ([w.floatType, w.floatType], .i32)
  | convert c => ([c.operand], c.result)

def intCompares : List (String × IntCompare) :=
  [("eq", .eq), ("ne", .ne), ("lt_s", .lt .signed), ("lt_u", .lt .unsigned),
   ("gt_s", .gt .signed), ("gt_u", .gt .unsigned), ("le_s", .le .signed),
   ("le_u", .le .unsigned), ("ge_s", .ge .signed), ("ge_u", .ge .unsigned)]

def floatCompares : List (String × FloatCompare) :=
  [("eq", .eq), ("ne", .ne), ("lt", .lt), ("gt", .gt), ("le", .le), ("ge", .ge)]

def intUnaries : List (String × IntUnary) :=
  [("clz", .clz), ("ctz", .ctz), ("popcnt", .popcnt)]

def intBinaries : List (String × IntBinary) :=
  [("add", .add), ("sub", .sub), ("mul", .mul), ("div_s", .div .signed),
   ("div_u", .div .unsigned), ("rem_s", .rem .signed), ("rem_u", .rem .unsigned),
   ("and", .and), ("or", .or), ("xor", .xor), ("shl", .shl), ("shr_s", .shr .signed),
   ("shr_u", .shr .unsigned), ("rotl", .rotl), ("rotr", .rotr)]

def floatUnaries : List (String × FloatUnary) :=
  [("abs", .abs), ("neg", .neg), ("ceil", .ceil), ("floor", .floor), ("trunc", .trunc),
   ("nearest", .nearest), ("sqrt", .sqrt)]

def floatBinaries : List (String × FloatBinary) :=
  [("add", .add), ("sub", .sub), ("mul", .mul), ("div", .div), ("min", .min), ("max", .max),
   ("copysign", .copysign)]

/-- The names of a group under the name of its type. -/
def named {α : Type} (type : String) (group : List (String × α)) (op : α → Numeric) :
    List (String × Numeric) :=
  group.map fun (name, a) => (type ++ "." ++ name, op a)

def truncations (target : Width) (saturating : Bool) : List Numeric :=
  [.convert (.truncate target .w32 .signed saturating),
   .convert (.truncate target .w32 .unsigned saturating),
   .convert (.truncate target .w64 .signed saturating),
   .convert (.truncate target .w64 .unsigned saturating)]

def ofInts (target : Width) : List Numeric :=
  [.convert (.ofInt target .w32 .signed), .convert (.ofInt target .w32 .unsigned),
   .convert (.ofInt target .w64 .signed), .convert (.ofInt target .w64 .unsigned)]

/-- The conversions, in the order of their codes. -/
def conversions : List (String × Numeric) :=
  [("i32.wrap_i64", .convert .wrap)]
  ++ ["i32.trunc_f32_s", "i32.trunc_f32_u", "i32.trunc_f64_s", "i32.trunc_f64_u"].zip
      (truncations .w32 false)
  ++ [("i64.extend_i32_s", .convert (.extend .signed)),
      ("i64.extend_i32_u", .convert (.extend .unsigned))]
  ++ ["i64.trunc_f32_s", "i64.trunc_f32_u", "i64.trunc_f64_s", "i64.trunc_f64_u"].zip
      (truncations .w64 false)
  ++ ["f32.convert_i32_s", "f32.convert_i32_u", "f32.convert_i64_s", "f32.convert_i64_u"].zip
      (ofInts .w32)
  ++ [("f32.demote_f64", .convert .demote)]
  ++ ["f64.convert_i32_s", "f64.convert_i32_u", "f64.convert_i64_s", "f64.convert_i64_u"].zip
      (ofInts .w64)
  ++ [("f64.promote_f32", .convert .promote),
      ("i32.reinterpret_f32", .convert (.bitsOf .w32)),
      ("i64.reinterpret_f64", .convert (.bitsOf .w64)),
      ("f32.reinterpret_i32", .convert (.ofBits .w32)),
      ("f64.reinterpret_i64", .convert (.ofBits .w64)),
      ("i32.extend8_s", .intUnary .w32 .extend8), ("i32.extend16_s", .intUnary .w32 .extend16),
      ("i64.extend8_s", .intUnary .w64 .extend8), ("i64.extend16_s", .intUnary .w64 .extend16),
      ("i64.extend32_s", .intUnary .w64 .extend32)]

/-- All operators with one-byte codes, in the order of the codes from `firstCode` on. -/
def table : List (String × Numeric) :=
  ("i32.eqz", .isZero .w32) :: named "i32" intCompares (.intCompare .w32)
  ++ ("i64.eqz", .isZero .w64) :: named "i64" intCompares (.intCompare .w64)
  ++ named "f32" floatCompares (.floatCompare .w32)
  ++ named "f64" floatCompares (.floatCompare .w64)
  ++ named "i32" intUnaries (.intUnary .w32) ++ named "i32" intBinaries (.intBinary .w32)
  ++ named "i64" intUnaries (.intUnary .w64) ++ named "i64" intBinaries (.intBinary .w64)
  ++ named "f32" floatUnaries (.floatUnary .w32) ++ named "f32" floatBinaries (.floatBinary .w32)
  ++ named "f64" floatUnaries (.floatUnary .w64) ++ named "f64" floatBinaries (.floatBinary .w64)
  ++ conversions

/-- The code of the first operator of `table`. -/
def firstCode : Nat := 0x45

/-- The saturating truncations, in the order of their codes from zero on. -/
def saturating : List (String × Numeric) :=
  ["i32.trunc_sat_f32_s", "i32.trunc_sat_f32_u", "i32.trunc_sat_f64_s", "i32.trunc_sat_f64_u"].zip
    (truncations .w32 true)
  ++ ["i64.trunc_sat_f32_s", "i64.trunc_sat_f32_u", "i64.trunc_sat_f64_s",
      "i64.trunc_sat_f64_u"].zip (truncations .w64 true)

def ofName? (name : String) : Option Numeric :=
  (table ++ saturating).lookup name

def ofCode? (code : Nat) : Option Numeric :=
  if code < firstCode then none else (table[code - firstCode]?).map Prod.snd

def ofSaturatingCode? (code : Nat) : Option Numeric :=
  (saturating[code]?).map Prod.snd

end Numeric

end WasmGuest.Wasm
