/-!
# Command-line arguments

Arguments are options and positional words.  An option has a long name behind
two hyphens and a letter behind one; letters without values may be joined, and a
value follows as the next word, behind `=`, or directly behind the letter.  Two
hyphens alone end the options.

A grammar takes a fixed number of words, behind which it may take any number of
further ones.  Where the first of these is due, a word with hyphens that is no
known option is taken as a word; behind it, every word is.
-/

namespace WasmGuest

structure OptionSpec where
  letter : Char
  long : String
  takesValue : Bool

structure Grammar where
  options : List OptionSpec
  /-- The number of words in front. -/
  leading : Nat
  /-- Whether further words may follow. -/
  more : Bool

/-- The options given, by letter, and the words, both in order; a flag has an empty value. -/
structure Arguments where
  options : List (Char × String) := []
  words : List String := []

namespace Arguments

/-- The value of an option. -/
def value? (a : Arguments) (letter : Char) : Option String :=
  a.options.lookup letter

/-- Whether every option is given at most once. -/
def distinct (a : Arguments) : Bool :=
  (a.options.map Prod.fst).Nodup

end Arguments

namespace Grammar

def byLetter? (g : Grammar) (c : Char) : Option OptionSpec :=
  g.options.find? (·.letter == c)

def byName? (g : Grammar) (name : List Char) : Option OptionSpec :=
  g.options.find? (·.long.toList == name)

/-- How far the arguments have been read. -/
structure State where
  read : Arguments := {}
  /-- The option that waits for its value. -/
  pending : Option Char := none
  /-- Whether options have ended. -/
  ended : Bool := false

namespace State

def addOption (s : State) (letter : Char) (value : String) : State :=
  { s with read := { s.read with options := s.read.options ++ [(letter, value)] }, pending := none }

end State

/-- Take a word, as the value that is waited for or as a positional one. -/
def takeWord (g : Grammar) (s : State) (w : String) : Option State :=
  match s.pending with
  | some letter => some (s.addOption letter w)
  | none =>
    if s.read.words.length < g.leading ∨ g.more then
      some { s with read := { s.read with words := s.read.words ++ [w] } }
    else none

/-- Letters behind one hyphen. -/
def takeLetters (g : Grammar) (s : State) : List Char → Option State
  | [] => some s
  | c :: rest =>
    match g.byLetter? c with
    | none => none
    | some spec =>
      if spec.takesValue then
        match rest with
        | [] => some { s with pending := some c }
        | '=' :: value => some (s.addOption c (String.ofList value))
        | value => some (s.addOption c (String.ofList value))
      else takeLetters g (s.addOption c "") rest

/-- A long name, perhaps with a value behind `=`. -/
def takeLong (g : Grammar) (s : State) (name : List Char) (value : Option String) :
    Option State :=
  match g.byName? name with
  | none => none
  | some spec =>
    match spec.takesValue, value with
    | true, some v => some (s.addOption spec.letter v)
    | true, none => some { s with pending := some spec.letter }
    | false, none => some (s.addOption spec.letter "")
    | false, some _ => none

/-- Whether the next word is the first of the further ones. -/
def atOpen (g : Grammar) (s : State) : Bool :=
  g.more && s.read.words.length == g.leading

/-- The name of a long option and the value behind `=`. -/
def splitLong (s : List Char) : List Char × Option String :=
  match s.dropWhile (· != '=') with
  | _ :: value => (s.takeWhile (· != '='), some (String.ofList value))
  | [] => (s, none)

/-- Take one argument. -/
def take (g : Grammar) (s : State) (w : String) : Option State :=
  if s.ended ∨ (g.more ∧ g.leading < s.read.words.length) then g.takeWord s w
  else match w.toList with
    | ['-', '-'] => if s.pending.isSome then none else some { s with ended := true }
    | '-' :: '-' :: rest =>
      let (name, value) := splitLong rest
      if (g.byName? name).isNone ∧ g.atOpen s then g.takeWord s w
      else if s.pending.isSome then none
      else g.takeLong s name value
    | '-' :: c :: rest =>
      if g.atOpen s ∧ (c :: rest).any (fun c => (g.byLetter? c).isNone) then g.takeWord s w
      else if s.pending.isSome then none
      else g.takeLetters s (c :: rest)
    | _ => g.takeWord s w

/-- Read arguments; `none` if they do not follow the grammar. -/
def parse (g : Grammar) (args : List String) : Option Arguments := do
  let s ← args.foldlM g.take {}
  if s.pending.isSome ∨ ¬ s.read.distinct ∨ s.read.words.length < g.leading then none
  else some s.read

end Grammar

end WasmGuest
