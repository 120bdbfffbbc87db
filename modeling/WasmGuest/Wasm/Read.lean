import WasmGuest.Wasm.Binary.Sections
import WasmGuest.Wasm.Textual.Fields

/-!
# Reading and validating modules

Bytes that begin with the binary header are read as the binary format, all
others as UTF-8 text.
-/

namespace WasmGuest.Wasm.Module

/-- A module from text. -/
def ofText (text : List Char) : Except Fault Module := do
  let tokens ← Textual.tokens text
  match ← Textual.script (← Textual.Tree.ofTokens tokens) with
  | .fields ts => Textual.ofFields tokens.length ts
  | .binary bytes => Binary.ofBytes bytes

/-- A module from bytes in either format. -/
def ofBytes (bytes : ByteArray) : Except Fault Module :=
  if bytes.data.toList.take 4 = Binary.magic then Binary.ofBytes bytes.data.toList
  else match String.fromUTF8? bytes with
    | some s => ofText s.toList
    | none => .error .notText

/-- A valid module from bytes in either format. -/
def compile (bytes : ByteArray) : Except Fault Module := do
  let m ← ofBytes bytes
  m.validate
  .ok m

end WasmGuest.Wasm.Module
