import WasmGuest.Command

/-!
# The command line

The first argument names a command, and the rest are its arguments.  Only the
file that the command asks for is read.
-/

namespace WasmGuest.CommandLine

/-- What a path leads to on disk. -/
def lookUp (path : String) : IO (Except PathFault FileNode) := do
  if path.any (· == '\x00') then return .error .nullCharacter
  match ← (IO.FS.readBinFile path).toBaseIO with
  | .ok bytes => return .ok (.file bytes)
  | .error (.noFileOrDirectory ..) => return .error .notFound
  | .error (.inappropriateType ..) => return .ok .directory
  | .error (.invalidArgument ..) => return .error .nameTooLong
  | .error _ => return .error .notADirectory

/-- The paths that a command reads. -/
def paths (c : Command) (env : Command.Environment) (args : List String) : List String :=
  match c with
  | .call => ((Command.Call.ofArguments env args).map (·.path)).toList
  | .inspect => ((Command.Inspect.ofArguments env args).map (·.path)).toList
  | _ => []

/-- Print what a command printed, show its reports and its error, and give its exit code. -/
def finish (c : Completion) : IO UInt32 := do
  (← IO.getStdout).write ⟨c.output.written.toArray⟩
  for r in c.reports do
    IO.eprintln (r.line EngineFault.message)
  match c.ending with
  | .failure e => IO.eprint (e.report EngineFault.message)
  | .usage => IO.eprintln "error: arguments not understood"
  | .success => pure ()
  return UInt32.ofNat c.ending.exitCode

def names : List String := ["MODULE", "FUEL", "DEBUG", "FILE"]

/-- Execute the command that the arguments name. -/
def execute (args : List String) : IO UInt32 := do
  match args with
  | [] => finish { ending := .usage }
  | name :: args =>
    match Command.ofName? name with
    | none => finish { ending := .usage }
    | some c =>
      let settings ← names.mapM fun n => do return (n, ← IO.getEnv n)
      let env : Command.Environment := fun n => (settings.lookup n).join
      let found ← (paths c env args).mapM fun p => do return (p, ← lookUp p)
      let files : FileSystem := fun p => (found.lookup p).getD (.error .notFound)
      finish (c.execute files env args)

end WasmGuest.CommandLine

def main (args : List String) : IO UInt32 :=
  WasmGuest.CommandLine.execute args
