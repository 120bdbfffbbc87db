import WasmGuest.Options
import WasmGuest.Scenario.Table
import WasmGuest.Text.BoxTable
import WasmGuest.Value.Literal

/-!
# Commands

The commands of the command line as functions from arguments, environment and
files to what they print and how they exit.

* `call` invokes one export of a module.
* `inspect` lists what a module exports and imports.
* A scenario, or the gas table, takes no arguments.
-/

namespace WasmGuest

inductive Command where
  | call
  | inspect
  | scenario (s : Scenario)
  | gas

/-- How a command ended. -/
inductive Ending where
  | success
  | failure (e : Error)
  /-- The arguments do not follow the grammar. -/
  | usage

def Ending.exitCode : Ending → Nat
  | success => 0
  | failure _ => 1
  | usage => 2

/-- What a command printed, how it ended, and the reports that it shows. -/
structure Completion where
  output : Output := {}
  ending : Ending
  reports : List Report := []

/-- What is said about an error: its message, and the messages of what lies behind it, numbered if
there are several.  Further lines of a message are indented like its first. -/
def Error.report (words : EngineFault → String) (e : Error) : String :=
  let indented (lead rest : String) (s : String) : String :=
    lead ++ ("\n" ++ rest).intercalate (s.splitOn "\n") ++ "\n"
  let causes := match e.causes words with
    | [] => ""
    | [c] => "\nCaused by:\n" ++ indented "    " "    " c
    | cs => "\nCaused by:\n" ++ String.join (cs.zipIdx.map fun (c, k) =>
        indented ("    " ++ toString k ++ ": ") "       " c)
  "Error: " ++ e.message words ++ "\n" ++ causes

namespace Command

/-- The environment, by name. -/
abbrev Environment := String → Option String

/-- Whether a flag is set, on the line or else by a variable that has to be a truth value. -/
def flag? (a : Arguments) (letter : Char) (fallback : Option String) : Option Bool :=
  match a.value? letter, fallback with
  | some _, _ => some true
  | none, none => some false
  | none, some "true" => some true
  | none, some "false" => some false
  | none, some _ => none

/-- The value of an option, on the line or else of a variable. -/
def option? (a : Arguments) (letter : Char) (fallback : Option String) : Option String :=
  match a.value? letter with
  | some v => some v
  | none => fallback

/-- The reports that are shown: all of them for debugging, else those above that level. -/
def shown (debug : Bool) (reports : List Report) : List Report :=
  reports.filter fun r => debug || r.level != .debug

/-! ## Calling an export -/

def callGrammar : Grammar where
  options := [⟨'r', "returns", true⟩, ⟨'f', "fuel", true⟩, ⟨'d', "debug", false⟩]
  leading := 2
  more := true

/-- What `call` is asked to do. -/
structure Call where
  path : String
  invocation : Invocation
  fuel : Option UInt64
  debug : Bool

def returns? : String → Option Returns
  | "value" => some .value
  | "bool" => some .bool
  | "list" => some .list
  | _ => none

def fuel? (s : String) : Option UInt64 :=
  (Text.readNatBelow UInt64.size s.toList).map UInt64.ofNat

/-- The arguments of `call`. -/
def Call.ofArguments (env : Environment) (args : List String) : Option Call := do
  let a ← callGrammar.parse args
  let debug ← flag? a 'd' (env "DEBUG")
  let fuel ← match option? a 'f' (env "FUEL") with
    | some s => (fuel? s).map some
    | none => some none
  let returns ← returns? ((a.value? 'r').getD "value")
  match a.words with
  | path :: target :: values => do
    if path.isEmpty then none
    else
      let values ← values.mapM fun s => (Value.parse s).toOption
      some ⟨path, { target, args := values, returns }, fuel, debug⟩
  | _ => none

/-- Print a line for every outcome that has a count of fuel. -/
def printFuel (outcomes : List Outcome) (output : Output) : Except WriteFault Unit × Output :=
  (outcomes.filterMap (·.fuelConsumed)).foldl (fun (result, output) fuel =>
    match result with
    | .ok () => output.writeLine ("fuel consumed: " ++ toString fuel)
    | .error e => (.error e, output)) (.ok (), output)

def Call.execute (c : Call) (files : FileSystem) : Completion :=
  let done := run { fuel := c.fuel } files c.path [c.invocation] {}
  let reports := shown c.debug done.reports
  match done.result with
  | .error e => ⟨done.output, .failure e, reports⟩
  | .ok outcomes =>
    match printFuel outcomes done.output with
    | (.ok (), output) => ⟨output, .success, reports⟩
    | (.error e, output) => ⟨output, .failure (.emit e), reports⟩

/-! ## Inspecting a module -/

def inspectGrammar : Grammar where
  options := [⟨'f', "file", true⟩, ⟨'d', "debug", false⟩]
  leading := 0
  more := false

/-- What `inspect` is asked to do. -/
structure Inspect where
  path : String
  debug : Bool

def Inspect.ofArguments (env : Environment) (args : List String) : Option Inspect := do
  let a ← inspectGrammar.parse args
  let debug ← flag? a 'd' (env "DEBUG")
  let path ← option? a 'f' (env "FILE")
  some ⟨path, debug⟩

/-- The cells for the parameters and the results of an item. -/
def signatureCells : Option Signature → List String
  | none => ["-", "-"]
  | some s =>
    [", ".intercalate s.params, if s.results.isEmpty then "()" else ", ".intercalate s.results]

/-- The row of an export. -/
def exportRow (e : Export) : List String :=
  e.kind.name :: e.name :: signatureCells e.signature

/-- The row of an import. -/
def importRow (i : Import) : List String :=
  i.kind.name :: (i.space ++ "::" ++ i.name) :: signatureCells i.signature

def headings : List String := ["kind", "name", "params", "results"]

/-- The tables of exports and imports. -/
def listing (exports : List Export) (imports : List Import) : String :=
  Text.boxTableText "Exports" (headings :: exports.map exportRow) ++ "\n\n" ++
    if imports.isEmpty then "no imports"
    else Text.boxTableText "Imports" (headings :: imports.map importRow)

def Inspect.execute (i : Inspect) (files : FileSystem) : Completion :=
  match Image.load files i.path with
  | .error e => ⟨{}, .failure (.load e), []⟩
  | .ok image =>
    let loaded := [.loaded image.bytes.size image.format image.origin]
    match Prepared.ofImage {} image with
    | .error e => ⟨{}, .failure e, shown i.debug loaded⟩
    | .ok p =>
      let reports := shown i.debug (loaded ++ [.reached .compiled])
      match ({} : Output).writeLine (listing p.exports p.imports) with
      | (.ok (), output) => ⟨output, .success, reports⟩
      | (.error e, output) => ⟨output, .failure (.emit e), reports⟩

/-! ## All commands -/

/-- The completion of a run that shows no reports. -/
def ofRun (r : Run (List Outcome)) : Completion :=
  match r.result with
  | .ok _ => ⟨r.output, .success, []⟩
  | .error e => ⟨r.output, .failure e, []⟩

/-- Execute a command. -/
def execute (c : Command) (files : FileSystem) (env : Environment) (args : List String) :
    Completion :=
  match c with
  | call =>
    match Call.ofArguments env args with
    | some c => c.execute files
    | none => { ending := .usage }
  | inspect =>
    match Inspect.ofArguments env args with
    | some i => i.execute files
    | none => { ending := .usage }
  | scenario s => ofRun (s.run {})
  | gas => ofRun (Scenario.gas Scenario.gasLimit Scenario.gasUpto {})

/-- The command of a name: `call`, `inspect`, `gas`, or a scenario. -/
def ofName? : String → Option Command
  | "call" => some call
  | "inspect" => some inspect
  | "gas" => some gas
  | name => (Scenario.all.find? (·.name == name)).map scenario

end Command

end WasmGuest
