/-!
# Output

A byte sink that may have room for only so many bytes.  Writing puts in what
fits and fails if anything is left over, so the bytes of a cut output are a
prefix of the bytes of the whole one: `written_write`.
-/

namespace WasmGuest

/-- How a full sink refuses bytes. -/
inductive WriteFault where
  | brokenPipe
  | writeZero
  deriving DecidableEq, Repr

def WriteFault.message : WriteFault → String
  | brokenPipe => "broken pipe"
  | writeZero => "failed to write whole buffer"

structure Output where
  written : List UInt8 := []
  /-- The bytes that still fit; without a number, all do. -/
  room : Option Nat := none
  whenFull : WriteFault := .brokenPipe

namespace Output

/-- Write bytes as far as they fit. -/
def write (o : Output) (bs : List UInt8) : Except WriteFault Unit × Output :=
  match o.room with
  | none => (.ok (), { o with written := o.written ++ bs })
  | some room =>
    if bs.length ≤ room then
      (.ok (), { o with written := o.written ++ bs, room := some (room - bs.length) })
    else
      (.error o.whenFull, { o with written := o.written ++ bs.take room, room := some 0 })

/-- Write a line of text. -/
def writeLine (o : Output) (s : String) : Except WriteFault Unit × Output :=
  o.write (s ++ "\n").toUTF8.data.toList

/-- The longest beginning of the bytes that is UTF-8, if at most `cut` bytes are left over. -/
def wholeText (bs : List UInt8) : (cut : Nat) → Option (String × Bool)
  | 0 => (String.fromUTF8? ⟨bs.toArray⟩).map (·, true)
  | cut + 1 =>
    match String.fromUTF8? ⟨bs.toArray⟩ with
    | some s => some (s, true)
    | none => (wholeText bs.dropLast cut).map fun (s, _) => (s, false)

/-- The text written; a character that was cut shows as a replacement character. -/
def text (o : Output) : String :=
  match wholeText o.written 3 with
  | some (s, true) => s
  | some (s, false) => s ++ "\ufffd"
  | none => ""

/-- Writing adds what fits. -/
theorem written_write (o : Output) (bs : List UInt8) :
    (o.write bs).2.written = o.written ++ bs.take (o.room.getD bs.length) := by
  unfold write
  cases h : o.room with
  | none => simp
  | some room =>
    by_cases hr : bs.length ≤ room
    · simp [hr, List.take_of_length_le hr]
    · simp [hr]

end Output

end WasmGuest
