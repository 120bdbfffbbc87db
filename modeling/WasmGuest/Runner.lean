import WasmGuest.Instance

/-!
# Runs

A run loads an image, prepares and instantiates it, and performs invocations in
order on the one instance, writing a line for each.  It stops at the first
failure; what was written stays written.
-/

namespace WasmGuest

/-- What came of a run, or of a part of one. -/
structure Run (α : Type) where
  result : Except Error α
  output : Output
  reports : List Report

namespace Run

/-- Put the reports of what went before in front. -/
def after {α : Type} (before : List Report) (r : Run α) : Run α :=
  { r with reports := before ++ r.reports }

end Run

/-- What came of one invocation of a run. -/
structure Performed where
  result : Except Error Outcome
  after : Instance
  output : Output
  reports : List Report

/-- How the line for an outcome is made. -/
abbrev LineFormat := Invocation → Outcome → String

/-- Perform an invocation and write its line. -/
def performOne (line : LineFormat) (i : Invocation) (a : Instance) (output : Output) :
    Performed :=
  let reply := a.invoke i
  match reply.result with
  | .error e => ⟨.error e, reply.after, output, reply.reports⟩
  | .ok outcome =>
    let reports := reply.reports ++ [.invoked i.target outcome.value]
    match output.writeLine (line i outcome) with
    | (.error e, output) => ⟨.error (.emit e), reply.after, output, reports⟩
    | (.ok (), output) => ⟨.ok outcome, reply.after, output, reports⟩

/-- Go on after an invocation, unless it failed. -/
def Performed.andThen (p : Performed) (rest : Instance → Output → Run (List Outcome)) :
    Run (List Outcome) :=
  match p.result with
  | .error e => ⟨.error e, p.output, p.reports⟩
  | .ok outcome =>
    let r := rest p.after p.output
    ⟨r.result.map (outcome :: ·), r.output, p.reports ++ r.reports⟩

/-- Perform invocations in order. -/
def performAll (line : LineFormat) : List Invocation → Instance → Output → Run (List Outcome)
  | [], _, output => ⟨.ok [], output, []⟩
  | i :: is, a, output => (performOne line i a output).andThen (performAll line is)

/-- Perform `count` invocations, numbered from `first` on, each made when its turn comes. -/
def performEach (line : LineFormat) (make : Nat → Invocation) :
    (count : Nat) → (first : Nat) → Instance → Output → Run (List Outcome)
  | 0, _, _, output => ⟨.ok [], output, []⟩
  | count + 1, first, a, output =>
    (performOne line (make first) a output).andThen (performEach line make count (first + 1))

/-- Load, prepare and instantiate the module at a path. -/
def start (config : Config) (files : FileSystem) (path : String) :
    Except Error Instance × List Report :=
  match Image.load files path with
  | .error e => (.error (.load e), [])
  | .ok image =>
    let loaded := [.loaded image.bytes.size image.format image.origin]
    match Prepared.ofImage config image with
    | .error e => (.error e, loaded)
    | .ok prepared =>
      let compiled := loaded ++ [.reached .compiled]
      match prepared.instantiate with
      | .error e => (.error e, compiled)
      | .ok a => (.ok a, compiled ++ [.reached .instantiated])

/-- Begin with a new instance of the module at a path. -/
def onInstance (config : Config) (files : FileSystem) (path : String) (output : Output)
    (body : Instance → Output → Run (List Outcome)) : Run (List Outcome) :=
  match start config files path with
  | (.error e, reports) => ⟨.error e, output, reports⟩
  | (.ok a, reports) => (body a output).after reports

/-- Run the module at a path. -/
def run (config : Config) (files : FileSystem) (path : String) (is : List Invocation)
    (output : Output) : Run (List Outcome) :=
  (onInstance config files path output (performAll (fun i o => o.line i) is)).after
    [.reached .unloaded]

end WasmGuest
