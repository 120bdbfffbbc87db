import WasmGuest.Text.Emoji

/-!
# Display width

The number of columns that a text takes on a terminal.  Most characters take
columns of their own, but some sequences are drawn as one: an emoji with what
modifies it or is joined to it, and the ligatures of several scripts.  A text is
therefore read from its end, and `before` gives the columns of a character in
the `Context` of what stands to its right.
-/

namespace WasmGuest.Text

/-! ## What stands to the right -/

/-- An emoji tied by a joiner to what stands in front of the joiner. -/
inductive Tied where
  /-- The joiner and the emoji, and nothing in front of them yet. -/
  | bare
  | keycap
  /-- One flag letter. -/
  | letter
  /-- More flag letters, as to whether their number is even. -/
  | letters (even : Bool)
  /-- The end of a tag sequence, with so many tag letters in front of it. -/
  | tags (letters : Nat)
  /-- A tag sequence that ends in so many tag digits. -/
  | tagDigits (digits : Nat)
  deriving DecidableEq, Repr

/-- The right part of a ligature.  The name is that of the letters it may be drawn with. -/
inductive Ligature where
  | arabicAlef
  | hebrewLamed
  | bugineseYa
  | bugineseIYa
  | tifinaghConsonant
  | tifinaghJoined
  | lisuTone
  | turkicI
  | khmerLetter
  | kiratE
  | kiratAi
  deriving DecidableEq, Repr

/-- What stands to the right of a character, as far as the width of the two may differ from the sum
of their widths. -/
inductive Right where
  | plain
  | lineFeed
  | skinTone
  /-- Flag letters: one, or several. -/
  | flag (several : Bool)
  | emoji
  | tied (t : Tied)
  | ligature (l : Ligature)
  deriving DecidableEq, Repr

/-- What a variation selector asks of the character in front of it. -/
inductive Selector where
  | picture
  | text
  | wide
  deriving DecidableEq, Repr

/-- The surroundings of a character on its right. -/
structure Context where
  right : Right := .plain
  /-- Whether a joiner stands between the character and the right part of a ligature. -/
  joined : Bool := false
  selector : Option Selector := none
  deriving DecidableEq, Repr

namespace Context

/-- The context in which a selector stands between a character and `x`. -/
def select (x : Context) (s : Selector) : Context :=
  match x.right, s with
  | .ligature _, _ | .tied .bare, .picture | .tied .keycap, .picture =>
    { x with selector := some s }
  | _, _ => { selector := some s }

/-- The context behind a selector that has no meaning for the character in front of it. -/
def unselect (x : Context) : Context :=
  match x.selector, x.right with
  | none, _ => x
  | some _, .ligature _ => { x with selector := none }
  | some _, _ => {}

end Context

/-! ## Characters -/

/-- Whether a code point lies between two others. -/
def between (lo hi : Nat) (c : Char) : Bool :=
  lo ≤ c.toNat && c.toNat ≤ hi

/-- Marks that are ignorable by default; they do not part a ligature. -/
def isIgnorableMark (c : Char) : Bool :=
  c == '\u034f' || between 0x17B4 0x17B5 c || between 0x180B 0x180D c || c == '\u180f'
    || between 0xFE00 0xFE0F c || between 0xE0100 0xE01EF c

/-- Arabic letters of the shape of alef. -/
def isAlef (c : Char) : Bool :=
  between 0x622 0x623 c || c == '\u0625' || c == '\u0627' || between 0x671 0x673 c
    || c == '\u0675' || between 0x773 0x774 c || between 0x870 0x882 c

/-- Arabic letters of the shape of lam. -/
def isLam (c : Char) : Bool :=
  c == '\u0644' || between 0x6B5 0x6B8 c || c == '\u076a' || c == '\u08a6' || c == '\u08c7'

/-- Marks that Arabic letters join across. -/
def isArabicTransparent (c : Char) : Bool :=
  inRanges zeroWidth c && !inRanges nonJoining c

def isTifinaghConsonant (c : Char) : Bool :=
  between 0x2D31 0x2D65 c || c == '\u2d6f'

/-- Khmer letters whose subscript form stays below the letter before it. -/
def isKhmerSubscript (c : Char) : Bool :=
  between 0x1780 0x1782 c || between 0x1784 0x1787 c || between 0x1789 0x178C c
    || between 0x178E 0x1793 c || between 0x1795 0x1798 c || between 0x179B 0x179D c
    || c == '\u17a0' || c == '\u17a2' || c == '\u17a7' || between 0x17AB 0x17AC c || c == '\u17af'

def isFlagLetter (c : Char) : Bool :=
  between 0x1F1E6 0x1F1FF c

def isSkinTone (c : Char) : Bool :=
  between 0x1F3FB 0x1F3FF c

def isTagLetter (c : Char) : Bool :=
  between 0xE0061 0xE007A c

def isTagDigit (c : Char) : Bool :=
  between 0xE0030 0xE0039 c

/-- Quotation marks that a selector can make wide. -/
def isQuotationMark (c : Char) : Bool :=
  between 0x2018 0x2019 c || between 0x201C 0x201D c

/-- Pictures that a selector can turn into narrow text. -/
def isTextual (c : Char) : Bool :=
  inRanges emojiPictures c && inRanges emojiBases c && !between 0x1F200 0x1F2FF c

/-- The columns of a character that nothing to its right changes. -/
def ownWidth (c : Char) : Nat :=
  if inRanges zeroWidth c then 0
  else if c == '\u17d8' then 3
  else if inRanges doubleWidth c then 2
  else 1

/-- What a character is to the one in front of it. -/
def asRight (c : Char) : Right :=
  if c == '\u05dc' then .ligature .hebrewLamed
  else if isAlef c then .ligature .arabicAlef
  else if isKhmerSubscript c then .ligature .khmerLetter
  else if c == '\u1a10' then .ligature .bugineseYa
  else if isTifinaghConsonant c then .ligature .tifinaghConsonant
  else if between 0xA4FC 0xA4FD c then .ligature .lisuTone
  else if between 0x10C03 0x10C03 c then .ligature .turkicI
  else if between 0x16D67 0x16D67 c then .ligature .kiratE
  else if between 0x16D68 0x16D68 c then .ligature .kiratAi
  else if isFlagLetter c then .flag false
  else if isSkinTone c then .skinTone
  else if inRanges emojiPictures c then .emoji
  else .plain

/-! ## Sequences -/

/-- The columns that a character adds to the right part of a ligature, if the two belong together,
and the context that they make. -/
def inLigature (c : Char) (x : Context) : Ligature → Option (Int × Context)
  | .arabicAlef =>
    if isLam c then some (0, {})
    else if isArabicTransparent c then some (0, x)
    else none
  | .hebrewLamed => if x.joined && c == '\u05d0' then some (0, {}) else none
  | .khmerLetter => if c == '\u17d2' then some (-1, {}) else none
  | .bugineseYa =>
    if x.joined && c == '\u1a17' then some (0, { right := .ligature .bugineseIYa }) else none
  | .bugineseIYa => if c == '\u1a15' then some (0, {}) else none
  | .tifinaghConsonant =>
    if c == '\u2d7f' then some (1, { right := .ligature .tifinaghJoined })
    else if x.joined && isTifinaghConsonant c then some (0, {})
    else none
  | .tifinaghJoined => if isTifinaghConsonant c then some (-1, {}) else none
  | .lisuTone => if between 0xA4F8 0xA4FB c then some (0, {}) else none
  | .turkicI => if x.joined && between 0x10C32 0x10C32 c then some (0, {}) else none
  | .kiratE =>
    if between 0x16D63 0x16D63 c || between 0x16D69 0x16D69 c then some (0, {})
    else if between 0x16D67 0x16D67 c then some (0, { right := .ligature .kiratAi })
    else if between 0x16D68 0x16D68 c then some (1, { right := .ligature .kiratE })
    else none
  | .kiratAi => if between 0x16D63 0x16D63 c then some (0, {}) else none

/-- The columns that a character adds to an emoji that is tied to it. -/
def tiedTo (c : Char) : Tied → Option (Int × Right)
  | .bare =>
    if c == '\u20e3' then some (0, .tied .keycap)
    else if isFlagLetter c then some (1, .tied .letter)
    else if isSkinTone c then some (0, .skinTone)
    else if between 0xE007F 0xE007F c then some (0, .tied (.tags 0))
    else if inRanges emojiPictures c then some (0, .emoji)
    else none
  | .letter => if isFlagLetter c then some (-1, .tied (.letters true)) else none
  | .letters false =>
    if isFlagLetter c then some (-1, .tied (.letters true))
    else if c == '\u200d' then some (0, .tied .bare)
    else none
  | .letters true =>
    if isFlagLetter c then some (3, .tied (.letters false))
    else if c == '\u200d' then some (0, .tied .bare)
    else none
  | .tags n =>
    if isTagLetter c && n < 6 then some (0, .tied (.tags (n + 1)))
    else if isTagDigit c && n < 5 then some (0, .tied (.tagDigits 1))
    else if between 0x1F3F4 0x1F3F4 c && 3 ≤ n then some (0, .emoji)
    else none
  | .tagDigits n =>
    if isTagDigit c && n < 3 then some (0, .tied (.tagDigits (n + 1)))
    else if between 0x1F3F4 0x1F3F4 c && n == 3 then some (0, .emoji)
    else none
  | .keycap => none

/-- The columns that a character adds to what stands to its right, if the two belong together, and
the context that they make. -/
def withRight (c : Char) (x : Context) : Option (Int × Context) :=
  match x.right with
  | .ligature l =>
    if l ≠ .arabicAlef && c == '\u200d' then some (0, { x with joined := true })
    else if l ≠ .arabicAlef && isIgnorableMark c then some (0, x)
    else inLigature c x l
  | .skinTone =>
    if inRanges emojiModifierBases c then some (0, { right := .emoji })
    else if c == '\u200d' then some (0, { right := .tied .bare })
    else none
  | .flag several =>
    if isFlagLetter c then some (1, { right := .flag true })
    else if several && c == '\u200d' then some (0, { right := .tied .bare })
    else none
  | .emoji => if c == '\u200d' then some (0, { right := .tied .bare }) else none
  | .tied t => (tiedTo c t).map fun (n, right) => (n, { right })
  | .plain | .lineFeed => none

/-- The columns of a character that is selected in a form of its own. -/
def selected (c : Char) (x : Context) : Option (Int × Context) :=
  match x.selector with
  | some .picture =>
    if inRanges emojiBases c then
      match x.right with
      | .tied _ => some (0, { right := .emoji })
      | _ => some (2, { right := .emoji })
    else none
  | some .text => if isTextual c then some (1, {}) else none
  | some .wide => if isQuotationMark c then some (2, {}) else none
  | none => none

/-- What a character asks of the one in front of it, if it is a variation selector. -/
def selector? (c : Char) : Option Selector :=
  if c == '\ufe0f' then some .picture
  else if c == '\ufe0e' then some .text
  else if c == '\ufe01' then some .wide
  else none

/-- The columns that a character adds in front of what stands to its right, and the context that it
makes for the character before it.  A carriage return in front of a line feed adds none. -/
def before (c : Char) (x : Context) : Int × Context :=
  match selected c x with
  | some found => found
  | none =>
    let x := x.unselect
    if c.toNat ≤ 0xA0 then
      if c == '\n' then (1, { right := .lineFeed })
      else if c == '\r' && x.right == .lineFeed then (0, {})
      else (1, {})
    else match selector? c with
      | some s => (0, x.select s)
      | none => (withRight c x).getD (ownWidth c, { right := asRight c })

/-! ## Texts -/

/-- The columns of a text, and the context that it makes for a character in front of it; `start` is
what stands behind it. -/
def columnsFrom (start : Int × Context) (s : List Char) : Int × Context :=
  s.foldr (fun c (sum, right) =>
    let (n, context) := before c right
    (sum + n, context)) start

/-- The columns of a text on its own. -/
def columns (s : List Char) : Int :=
  (columnsFrom (0, {}) s).1

/-- The columns of a text as a number of places. -/
def width (s : List Char) : Nat :=
  (columns s).toNat

end WasmGuest.Text
