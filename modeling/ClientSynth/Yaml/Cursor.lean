import ClientSynth.Calendar

/-!
# Reading position in a YAML text

A `Cursor` is what is left of a text, with the line and column reached. Lines end at line feeds,
carriage returns, and the next-line, line separator and paragraph separator characters.
-/

namespace ClientSynth.Yaml

/-- Why a text is no YAML document that can be read. -/
inductive Fault where
  /-- The text, or the nodes it describes, break a rule of the format. -/
  | malformed
  | calendar (fault : CalendarFault)
  | badInteger (base : Nat) (text : String)
  | tooManyDigits (digits : Nat)
  | badFloat (text : String)
  | emptyNumber
  | badBool (word : String)
  | badTimestamp
  | badCharacter (code : Nat)
  /-- A number in parts of sixty with too many parts for a double. -/
  | tooManyParts
  /-- A mapping under the tag of timestamps, although it stands for a text. -/
  | mappedTimestamp
  /-- A mapping that stands for a text which it is itself to give. -/
  | endlessText
  /-- A collection that is within itself; whether the whole document is a mapping. -/
  | endless (isMapping : Bool)
  deriving DecidableEq

/-- What is left of a text, and where it starts. -/
structure Cursor where
  rest : List Char
  index : Nat
  line : Nat
  column : Nat

/-- A character that ends a line. -/
def isBreak (c : Char) : Bool :=
  c == '\r' || c == '\n' || c == '\x85' || c == '\u2028' || c == '\u2029'

/-- Whether what is next ends a line, or is the end of the text. -/
def isBreakOrEnd (c : Option Char) : Bool :=
  c.all isBreak

/-- Whether what is next is a space, ends a line, or is the end of the text. -/
def isSpaceOrEnd (c : Option Char) : Bool :=
  c.all fun c => c == ' ' || isBreak c

/-- Whether what is next is a space or tab, ends a line, or is the end of the text. -/
def isGapOrEnd (c : Option Char) : Bool :=
  c.all fun c => c == ' ' || c == '\t' || isBreak c

/-- A character of the name of an anchor, a directive or a tag handle. -/
def isNameChar (c : Char) : Bool :=
  c.isAlphanum || c == '-' || c == '_'

namespace Cursor

/-- The start of a text. -/
def start (text : List Char) : Cursor :=
  ⟨text, 0, 0, 0⟩

/-- The next character. -/
def peek (c : Cursor) : Option Char :=
  c.rest.head?

/-- The character after some others. -/
def peekAt (c : Cursor) (n : Nat) : Option Char :=
  c.rest[n]?

/-- The cursor after the next character. A carriage return before a line feed does not end the line
yet, and a byte order mark has no width. -/
def next (c : Cursor) : Cursor :=
  match c.rest with
  | [] => c
  | ch :: rest =>
    if isBreak ch && !(ch == '\r' && rest.head? == some '\n') then
      ⟨rest, c.index + 1, c.line + 1, 0⟩
    else ⟨rest, c.index + 1, c.line, if ch == '\uFEFF' then c.column else c.column + 1⟩

/-- The cursor after some characters. -/
def skip (c : Cursor) : Nat → Cursor
  | 0 => c
  | n + 1 => c.next.skip n

/-- The characters with `p` that are next, and the cursor after them. -/
def span (p : Char → Bool) (c : Cursor) : List Char × Cursor :=
  let taken := c.rest.takeWhile p
  (taken, c.skip taken.length)

/-- The cursor after the characters with `p` that are next. -/
def skipWhile (p : Char → Bool) (c : Cursor) : Cursor :=
  (c.span p).2

/-- The cursor after the spaces that are next. -/
def skipSpaces (c : Cursor) : Cursor :=
  c.skipWhile (· == ' ')

/-- The cursor at the end of the line, if a comment is next. -/
def skipComment (c : Cursor) : Cursor :=
  if c.peek = some '#' then c.skipWhile fun ch => !isBreak ch else c

/-- The line end that is next, as the character that stands for it, and the cursor after it. -/
def lineBreak? (c : Cursor) : Option (Char × Cursor) :=
  match c.rest with
  | '\r' :: '\n' :: _ => some ('\n', c.skip 2)
  | ch :: _ =>
    if ch == '\u2028' || ch == '\u2029' then some (ch, c.next)
    else if isBreak ch then some ('\n', c.next)
    else none
  | [] => none

/-- The cursor after the line end that is next, if one is. -/
def skipBreak (c : Cursor) : Cursor :=
  (c.lineBreak?.map Prod.snd).getD c

/-- Whether three marks of one kind, and then a gap, are next. -/
def isMarker (c : Cursor) (mark : Char) : Bool :=
  c.rest.take 3 == [mark, mark, mark] && isGapOrEnd (c.peekAt 3)

/-- Whether the start or the end of a document is next. -/
def isSeparator (c : Cursor) : Bool :=
  c.isMarker '-' || c.isMarker '.'

end Cursor

end ClientSynth.Yaml
