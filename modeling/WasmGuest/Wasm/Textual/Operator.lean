import WasmGuest.Wasm.Assembly
import WasmGuest.Wasm.Module
import WasmGuest.Wasm.Textual.Literal
import WasmGuest.Wasm.Textual.Tree

/-!
# Instructions of the text format

Instructions are written flat, as an operator followed by its immediates, or
folded, as a list that also holds the operands.  `flatten` unfolds lists, so that
a sequence becomes operators in the order of their execution, blocks with their
ends; `assemble` turns these into instructions and resolves names to indices.
-/

namespace WasmGuest.Wasm.Textual

/-- The names in scope, by index. -/
structure Names where
  types : List (Option String × FuncType) := []
  funcs : List (Option String) := []
  /-- The tables, with the width of their indices. -/
  tables : List (Option String × Width) := []
  /-- The memories, with the width of their addresses. -/
  memories : List (Option String × Width) := []
  globals : List (Option String) := []
  elems : List (Option String) := []
  datas : List (Option String) := []
  locals : List (Option String) := []
  /-- The labels of the enclosing blocks, innermost first. -/
  labels : List (Option String) := []

/-- Whether a word begins with some characters. -/
def begins (start w : String) : Bool :=
  start.toList.isPrefixOf w.toList

/-- An unsigned number of 32 bits. -/
def word32 (w : String) : Except Fault Nat :=
  match natural w.toList with
  | some n => if n < UInt32.size then .ok n else .error (.outOfRange w)
  | none => .error (.expected "number")

/-- An index given by number or by name. -/
def resolve (space : String) (names : List (Option String)) : Tree → Except Fault Nat
  | .word w =>
    if begins "$" w then
      match names.findIdx? (· == some w) with
      | some i => .ok i
      | none => .error (.unknownName space w)
    else word32 w
  | _ => .error (.expected space)

/-! ## Types -/

def valType : Tree → Except Fault ValType
  | .word "i32" => .ok .i32
  | .word "i64" => .ok .i64
  | .word "f32" => .ok .f32
  | .word "f64" => .ok .f64
  | .word "v128" => .ok .v128
  | .word "funcref" => .ok .funcref
  | .word "externref" => .ok .externref
  | .list [.word "ref", .word "null", .word "func"] => .ok .funcref
  | .list [.word "ref", .word "null", .word "extern"] => .ok .externref
  | _ => .error (.expected "value type")

/-- The types in a `param` or `local` list, each with its name. -/
def namedTypes : List Tree → Except Fault (List (Option String × ValType))
  | [.word w, t] =>
    if begins "$" w then do .ok [(some w, ← valType t)]
    else do .ok [(none, ← valType (.word w)), (none, ← valType t)]
  | ts => ts.mapM fun t => do .ok (none, ← valType t)

/-- The lists headed by `keyword` at the front of a sequence, without the keyword, and the rest. -/
def leading (keyword : String) : List Tree → List (List Tree) × List Tree
  | .list (.word w :: items) :: ts =>
    if w = keyword then
      let (found, rest) := leading keyword ts
      (items :: found, rest)
    else ([], .list (.word w :: items) :: ts)
  | ts => ([], ts)

/-- Parameters and then results, behind those read so far: the parameter names, the type, and the
rest. -/
def signatureFrom (params : List (Option String × ValType)) (results : List ValType) :
    List Tree → Except Fault (List (Option String) × FuncType × List Tree)
  | .list (.word "param" :: items) :: ts => do
    if !results.isEmpty then .error (.expected "parameters before results")
    else signatureFrom (params ++ (← namedTypes items)) results ts
  | .list (.word "result" :: items) :: ts => do
    signatureFrom params (results ++ (← items.mapM valType)) ts
  | ts => .ok (params.map Prod.fst, ⟨params.map Prod.snd, results⟩, ts)

/-- The parameters and results at the front of a sequence. -/
def signature (ts : List Tree) : Except Fault (List (Option String) × FuncType × List Tree) :=
  signatureFrom [] [] ts

/-- A function type by reference, written out, or both, which then have to agree. -/
def typeUse (names : Names) (ts : List Tree) :
    Except Fault (List (Option String) × FuncType × List Tree) := do
  match ts with
  | .list [.word "type", x] :: ts =>
    let i ← resolve "type" (names.types.map Prod.fst) x
    let some (_, type) := names.types[i]? | .error (.noSuch "type" i)
    let (paramNames, written, rest) ← signature ts
    if !ts.head?.any (Tree.headedBy ["param", "result"]) then
      .ok (type.params.map fun _ => none, type, rest)
    else if written = type then .ok (paramNames, type, rest)
    else .error (.typeMismatch "inline function type")
  | ts => signature ts

/-- A function type that names no parameters, with nothing behind it. -/
def unnamedType (names : Names) (what : String) (ts : List Tree) : Except Fault FuncType := do
  let (paramNames, type, rest) ← typeUse names ts
  if paramNames.any Option.isSome then .error (.expected "type without names")
  else if rest.isEmpty then .ok type
  else .error (.expected what)

/-- The type that is written out where no type is referred to. -/
def writtenType? (ts : List Tree) : Option FuncType :=
  if ts.head?.any (Tree.headedBy ["type"]) then none
  else match signature ts with
    | .ok (_, type, _) => some type
    | .error _ => none

/-! ## Operators -/

/-- Whether a tree belongs to the operator before it. -/
def isImmediate : Tree → Bool
  | .word w =>
    match w.toList with
    | c :: _ =>
      c == '$' || c == '+' || c == '-' || c.isDigit || w == "inf" || begins "nan" w
        || begins "offset=" w || begins "align=" w
        || ["func", "extern", "funcref", "externref"].contains w
    | [] => false
  | .string _ => false
  | t => t.headedBy ["type", "param", "result"]

/-- An integer literal of the given width. -/
def intLiteral (bits : Nat) (w : String) : Except Fault Nat :=
  match integer bits w.toList with
  | some n => .ok n
  | none => .error (.outOfRange w)

/-- A floating-point literal as a bit pattern. -/
def floatLiteral (f : Floating.Format) (w : String) : Except Fault Nat :=
  match float f w.toList with
  | some n => .ok n
  | none => .error (.outOfRange w)

/-- The number behind a key such as `offset=`. -/
def keyed (key : String) (w : String) : Except Fault Nat :=
  match natural (w.toList.drop key.length) with
  | some n => .ok n
  | none => .error (.expected "number")

/-- Whether a tree can be an index. -/
def isIndex : Tree → Bool
  | .word w => (w.toList.head?).any fun c => c == '$' || c.isDigit
  | _ => false

/-- The index of a memory or table that may be named in front of other immediates; they remain. -/
def spaceUse (space : String) (names : List (Option String × Width)) :
    List Tree → Except Fault (Nat × List Tree)
  | t :: ts =>
    if isIndex t then do .ok (← resolve space (names.map Prod.fst) t, ts) else .ok (0, t :: ts)
  | [] => .ok (0, [])

/-- A memory or table that may be named, and nothing else. -/
def onlySpace (space : String) (names : List (Option String × Width)) (ts : List Tree) :
    Except Fault Nat := do
  match ← spaceUse space names ts with
  | (x, []) => .ok x
  | _ => .error (.expected "operator")

/-- The width of a memory or table; validation finds out if there is none. -/
def widthOf (names : List (Option String × Width)) (x : Nat) : Width :=
  match names[x]? with
  | some (_, w) => w
  | none => .w32

/-- A target and a source, which are named both or not at all. -/
def targetAndSource (space : String) (names : List (Option String × Width)) :
    List Tree → Except Fault (Nat × Nat)
  | [] => .ok (0, 0)
  | [x, y] => do
    let spaces := names.map Prod.fst
    .ok (← resolve space spaces x, ← resolve space spaces y)
  | _ => .error (.expected "operator")

/-- A segment, in front of which a memory or table may be named. -/
def targetAndSegment (space : String) (names : List (Option String × Width)) (what : String)
    (segments : List (Option String)) : List Tree → Except Fault (Nat × Nat)
  | [y] => do .ok (0, ← resolve what segments y)
  | [x, y] => do .ok (← resolve space (names.map Prod.fst) x, ← resolve what segments y)
  | _ => .error (.expected "operator")

/-- The immediates of a memory access of `bytes` bytes. -/
def memArg (names : Names) (bytes : Nat) (immediates : List Tree) : Except Fault MemArg := do
  let (memory, immediates) ← spaceUse "memory" names.memories immediates
  let (offset, immediates) ← match immediates with
    | .word w :: ts =>
      if begins "offset=" w then do .ok (← keyed "offset=" w, ts)
      else .ok (0, immediates)
    | ts => .ok (0, ts)
  let (align, immediates) ← match immediates with
    | .word w :: ts =>
      if begins "align=" w then do .ok (← keyed "align=" w, ts)
      else .ok (bytes, immediates)
    | ts => .ok (bytes, ts)
  if !immediates.isEmpty then .error (.expected "operator")
  else if UInt64.size ≤ offset then .error (.outOfRange "offset")
  else if 1 <<< align.log2 ≠ align then .error (.invalid "alignment is no power of two")
  else .ok ⟨memory, align.log2, offset⟩

/-- A label by number or name. -/
def label (names : Names) (t : Tree) : Except Fault Nat :=
  resolve "label" names.labels t

/-- An operator whose single immediate is an index. -/
def indexed? : String → Option ((Names → List (Option String)) × String × (Nat → Instr))
  | "br" => some (Names.labels, "label", .br)
  | "br_if" => some (Names.labels, "label", .brIf)
  | "call" => some (Names.funcs, "function", .call)
  | "return_call" => some (Names.funcs, "function", .returnCall)
  | "ref.func" => some (Names.funcs, "function", .refFunc)
  | "local.get" => some (Names.locals, "local", .localGet)
  | "local.set" => some (Names.locals, "local", .localSet)
  | "local.tee" => some (Names.locals, "local", .localTee)
  | "global.get" => some (Names.globals, "global", .globalGet)
  | "global.set" => some (Names.globals, "global", .globalSet)
  | "data.drop" => some (Names.datas, "data segment", .dataDrop)
  | "elem.drop" => some (Names.elems, "element segment", .elemDrop)
  | _ => none

/-- An operator on a table that may be named. -/
def onTable? : String → Option (Nat → Instr)
  | "table.get" => some .tableGet
  | "table.set" => some .tableSet
  | "table.fill" => some .tableFill
  | _ => none

/-- The table, which may be named, and the type of a call through it. -/
def indirect (names : Names) (ts : List Tree) : Except Fault (Nat × FuncType) := do
  let (x, ts) ← spaceUse "table" names.tables ts
  .ok (x, ← unnamedType names "function type" ts)

/-- An operator without immediates. -/
def bare? : String → Option Instr
  | "unreachable" => some .unreachable
  | "nop" => some .nop
  | "drop" => some .drop
  | "return" => some .ret
  | "select" => some (.select none)
  | "ref.is_null" => some .refIsNull
  | op => (Numeric.ofName? op).map .numeric

/-- An operator that is no block, with its immediates. -/
def plain (names : Names) (op : String) (immediates : List Tree) : Except Fault Instr := do
  match indexed? op, immediates with
  | some (space, what, instr), [x] => .ok (instr (← resolve what (space names) x))
  | _, _ =>
  match onTable? op with
  | some instr => .ok (instr (← onlySpace "table" names.tables immediates))
  | none =>
  match op, immediates with
  | "br_table", l :: ls =>
    let labels ← (l :: ls).mapM (label names)
    .ok (.brTable labels.dropLast (labels.getLastD 0))
  | "select", t :: ts =>
    let (results, rest) := leading "result" (t :: ts)
    if rest.isEmpty then .ok (.select (some (← results.flatten.mapM valType)))
    else .error (.expected "result type")
  | "call_indirect", ts =>
    let (x, type) ← indirect names ts
    .ok (.callIndirect x type)
  | "return_call_indirect", ts =>
    let (x, type) ← indirect names ts
    .ok (.returnCallIndirect x type)
  | "memory.size", ts =>
    let x ← onlySpace "memory" names.memories ts
    .ok (.memorySize x (widthOf names.memories x))
  | "memory.grow", ts =>
    let x ← onlySpace "memory" names.memories ts
    .ok (.memoryGrow x (widthOf names.memories x))
  | "memory.fill", ts => .ok (.memoryFill (← onlySpace "memory" names.memories ts))
  | "memory.copy", ts =>
    let (x, y) ← targetAndSource "memory" names.memories ts
    .ok (.memoryCopy x y)
  | "memory.init", ts =>
    let (x, d) ← targetAndSegment "memory" names.memories "data segment" names.datas ts
    .ok (.memoryInit x d)
  | "table.size", ts =>
    let x ← onlySpace "table" names.tables ts
    .ok (.tableSize x (widthOf names.tables x))
  | "table.grow", ts =>
    let x ← onlySpace "table" names.tables ts
    .ok (.tableGrow x (widthOf names.tables x))
  | "table.copy", ts =>
    let (x, y) ← targetAndSource "table" names.tables ts
    .ok (.tableCopy x y)
  | "table.init", ts =>
    let (x, e) ← targetAndSegment "table" names.tables "element segment" names.elems ts
    .ok (.tableInit x e)
  | "ref.null", [.word "func"] => .ok (.const (.funcref none))
  | "ref.null", [.word "extern"] => .ok (.const .externref)
  | "i32.const", [.word w] => .ok (.const (.i32 (UInt32.ofNat (← intLiteral 32 w))))
  | "i64.const", [.word w] => .ok (.const (.i64 (UInt64.ofNat (← intLiteral 64 w))))
  | "f32.const", [.word w] =>
    .ok (.const (.f32 (UInt32.ofNat (← floatLiteral .single w))))
  | "f64.const", [.word w] =>
    .ok (.const (.f64 (UInt64.ofNat (← floatLiteral .double w))))
  | op, immediates =>
  match Access.loads.lookup op, Access.stores.lookup op with
  | some access, _ => .ok (.load access (← memArg names access.bytes immediates))
  | none, some access => .ok (.store access (← memArg names access.bytes immediates))
  | none, none =>
  match bare? op with
  | some i => if immediates.isEmpty then .ok i else .error (.expected "operator")
  | none => .error (.unknownOperator op)

/-! ## Sequences -/

/-- An operator with its immediates. -/
structure Op where
  name : String
  immediates : List Tree := []

/-- A piece of an instruction sequence; `stray` holds immediates that follow a list. -/
inductive Clause where
  | op (op : Op)
  | fold (items : List Tree) (stray : List Tree)
  | string

/-- The immediates at the front of a sequence, and its clauses. -/
def clauses : List Tree → List Tree × List Clause
  | [] => ([], [])
  | t :: ts =>
    let (immediates, cs) := clauses ts
    if isImmediate t then (t :: immediates, cs)
    else match t with
      | .word w => ([], .op ⟨w, immediates⟩ :: cs)
      | .list items => ([], .fold items immediates :: cs)
      | .string _ => ([], .string :: cs)

/-- The operators of a sequence in order; `unfold` gives those of a list. -/
def flattenWith (unfold : List Tree → Except Fault (List Op)) (ts : List Tree) :
    Except Fault (List Op) := do
  match clauses ts with
  | (_ :: _, _) => .error (.expected "operator")
  | ([], cs) =>
    let parts ← cs.mapM fun
      | .op o => .ok [o]
      | .fold items [] => unfold items
      | .fold _ (_ :: _) | .string => .error (.expected "instruction")
    .ok parts.flatten

/-- The operators of a folded instruction: operands come first, a block gets its end, and the
condition of an `if` stands in front of it.  `depth` bounds the nesting of lists. -/
def unfold : (depth : Nat) → List Tree → Except Fault (List Op)
  | 0, _ => .error (.unfinished "nesting")
  | depth + 1, .word name :: ts => do
    let head : Op := ⟨name, ts.takeWhile isImmediate⟩
    let rest := ts.dropWhile isImmediate
    match name with
    | "block" | "loop" => .ok (head :: (← flattenWith (unfold depth) rest) ++ [⟨"end", []⟩])
    | "if" =>
      let isThen := Tree.headedBy ["then"]
      let condition ← (rest.takeWhile (!isThen ·)).mapM fun
        | .list items => unfold depth items
        | _ => .error (.expected "folded instruction")
      let arms ← match rest.dropWhile (!isThen ·) with
        | [.list (_ :: onTrue)] => flattenWith (unfold depth) onTrue
        | [.list (_ :: onTrue), .list (.word "else" :: onFalse)] => do
          .ok ((← flattenWith (unfold depth) onTrue) ++
            ⟨"else", []⟩ :: (← flattenWith (unfold depth) onFalse))
        | _ => .error (.expected "then")
      .ok (condition.flatten ++ head :: arms ++ [⟨"end", []⟩])
    | _ => .ok ((← flattenWith (unfold depth) rest) ++ [head])
  | _, _ => .error (.expected "operator")

/-- The operators of a sequence in the order of their execution. -/
def flatten (depth : Nat) (ts : List Tree) : Except Fault (List Op) :=
  flattenWith (unfold depth) ts

/-! ## Blocks -/

/-- The label in front of a block's type. -/
def blockLabel : List Tree → Option String × List Tree
  | .word w :: ts => (some w, ts)
  | ts => (none, ts)

/-- The label and the type of a block. -/
def blockHeader (names : Names) (immediates : List Tree) :
    Except Fault (Option String × FuncType) := do
  let (label, ts) := blockLabel immediates
  if label.any (!begins "$" ·) then .error (.expected "label")
  .ok (label, ← unnamedType names "block type" ts)

/-- The type that an operator writes out, if it is one that has to be in the list of types: that of
a call through a table, or of a block with parameters or with several results. -/
def Op.writtenType? (o : Op) : Option FuncType :=
  if ["block", "loop", "if"].contains o.name then
    (Textual.writtenType? (blockLabel o.immediates).2).filter fun type =>
      !type.params.isEmpty || 1 < type.results.length
  else if ["call_indirect", "return_call_indirect"].contains o.name then
    Textual.writtenType? (o.immediates.dropWhile isIndex)
  else none

/-- The label repeated after `else` or `end` has to be that of the block. -/
def checkLabel (a : Assembly) : List Tree → Except Fault Unit
  | [] => .ok ()
  | [.word w] => if a.label? = some (some w) then .ok () else .error (.unknownName "label" w)
  | _ => .error (.expected "operator")

/-- The names inside the blocks that an assembly has open. -/
def Names.inside (names : Names) (a : Assembly) : Names :=
  { names with labels := a.blocks.map (·.label) ++ names.labels }

/-- Add an operator to an assembly. -/
def Op.place (o : Op) (names : Names) (a : Assembly) : Except Fault Assembly := do
  let inner := names.inside a
  match o.name with
  | "block" =>
    let (label, type) ← blockHeader inner o.immediates
    .ok (a.enter .block label type)
  | "loop" =>
    let (label, type) ← blockHeader inner o.immediates
    .ok (a.enter .loop label type)
  | "if" =>
    let (label, type) ← blockHeader inner o.immediates
    .ok (a.enter .onTrue label type)
  | "else" =>
    checkLabel a o.immediates
    match a.turn with
    | some a => .ok a
    | none => .error (.expected "if")
  | "end" =>
    checkLabel a o.immediates
    match a.leave with
    | some a => .ok a
    | none => .error (.expected "block")
  | name => .ok (a.push (← plain inner name o.immediates))

/-- Put operators together. -/
def assemble (names : Names) (ops : List Op) : Except Fault (List Instr) := do
  match (← ops.foldlM (fun a o => o.place names a) {}).finish with
  | some is => .ok is
  | none => .error (.unfinished "block")

/-- The instructions of a sequence. -/
def instructions (depth : Nat) (names : Names) (ts : List Tree) : Except Fault (List Instr) := do
  assemble names (← flatten depth ts)

end WasmGuest.Wasm.Textual
