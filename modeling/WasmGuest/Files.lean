/-!
# Files

A tree of files under a current directory, which is all of the file system that
a path can reach; what lies above is known to exist only as directories.  A path
is resolved name by name: whatever is followed by another name or by a slash has
to be a directory.
-/

namespace WasmGuest

/-- What a path leads to. -/
inductive FileNode where
  | file (bytes : ByteArray)
  | directory

/-- Why a path leads nowhere. -/
inductive PathFault where
  | notFound
  | notADirectory
  | nameTooLong
  | nullCharacter
  deriving DecidableEq, Repr

def PathFault.message : PathFault → String
  | notFound => "No such file or directory (os error 2)"
  | notADirectory => "Not a directory (os error 20)"
  | nameTooLong => "File name too long (os error 36)"
  | nullCharacter => "file name contained an unexpected NUL byte"

/-- What every path leads to. -/
abbrev FileSystem := String → Except PathFault FileNode

/-- The files below the current directory by their names from there on; a later entry replaces an
earlier one. -/
structure Files where
  entries : List (List String × FileNode) := []

namespace Files

/-- The longest name, and the longest path, in bytes. -/
def maxName : Nat := 255
def maxPath : Nat := 4095

/-- What stands between the slashes of a path. -/
def parts (path : String) : List String :=
  (path.split '/').toList.map (·.copy)

/-- Names of a path, without the empty ones. -/
def names (path : String) : List String :=
  (parts path).filter (· ≠ "")

/-- Add a file; the directories above it come into being with it. -/
def addFile (fs : Files) (path : String) (bytes : ByteArray) : Files :=
  ⟨(names path, .file bytes) :: fs.entries⟩

/-- Add a directory and those above it. -/
def addDirectory (fs : Files) (path : String) : Files :=
  ⟨fs.entries ++ [(names path, .directory)]⟩

/-- What stands under a list of names. -/
def lookup (fs : Files) (place : List String) : Option FileNode :=
  match fs.entries.find? (fun e => e.1 == place) with
  | some e => some e.2
  | none =>
    if place.isEmpty || fs.entries.any (fun e => place.isPrefixOf e.1) then some .directory
    else none

/-- Where the resolution of a path stands; names are innermost first. -/
inductive Location where
  | inside (names : List String)
  | above

/-- One more name from a location, which has to be a directory. -/
def enter (fs : Files) (here : Location) (name : String) : Except PathFault Location :=
  match here with
  | .above =>
    if name = "" ∨ name = "." ∨ name = ".." then .ok .above
    else if maxName < name.utf8ByteSize then .error .nameTooLong
    else .error .notFound
  | .inside names =>
    match fs.lookup names.reverse with
    | some (.file _) => .error .notADirectory
    | _ =>
      if name = "" ∨ name = "." then .ok here
      else if name = ".." then
        match names with
        | [] => .ok .above
        | _ :: outer => .ok (.inside outer)
      else if maxName < name.utf8ByteSize then .error .nameTooLong
      else match fs.lookup (name :: names).reverse with
        | some _ => .ok (.inside (name :: names))
        | none => .error .notFound

/-- What a path leads to. -/
def resolve (fs : Files) : FileSystem := fun path =>
  if path.any (· == '\x00') then .error .nullCharacter
  else if path.isEmpty then .error .notFound
  else if maxPath < path.utf8ByteSize then .error .nameTooLong
  else do
    let start := if path.startsWith "/" then Location.above else .inside []
    match ← (parts path).foldlM (fs.enter) start with
    | .above => .ok .directory
    | .inside names => .ok ((fs.lookup names.reverse).getD .directory)

end Files

end WasmGuest
