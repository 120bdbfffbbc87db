import WasmGuest.Files
import WasmGuest.Wasm.Read

/-!
# Module images

The bytes of a module before it is read, from a file or from memory.
-/

namespace WasmGuest

/-- The two formats that a module is written in. -/
inductive ImageFormat where
  | text
  | binary
  deriving DecidableEq, Repr

def ImageFormat.name : ImageFormat → String
  | text => "text"
  | binary => "binary"

structure Image where
  bytes : ByteArray
  /-- The path of the file it was loaded from. -/
  origin : Option String := none

/-- Why no image could be loaded from a path. -/
inductive LoadError where
  | notAFile (path : String)
  | unreadable (path : String) (cause : PathFault)
  deriving DecidableEq, Repr

def LoadError.message : LoadError → String
  | notAFile path => "path is not a file: " ++ path
  | unreadable path cause => "unable to read " ++ path ++ ": " ++ cause.message

namespace Image

/-- The image of a module in text. -/
def ofText (s : String) : Image := ⟨s.toUTF8, none⟩

/-- An image is binary if it begins with the binary header. -/
def format (i : Image) : ImageFormat :=
  if i.bytes.data.toList.take 4 = Wasm.Binary.magic then .binary else .text

/-- Load an image from a file. -/
def load (files : FileSystem) (path : String) : Except LoadError Image :=
  match files path with
  | .error cause => .error (.unreadable path cause)
  | .ok .directory => .error (.notAFile path)
  | .ok (.file bytes) => .ok ⟨bytes, some path⟩

end Image

end WasmGuest
