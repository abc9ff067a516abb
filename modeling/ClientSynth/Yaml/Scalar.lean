import ClientSynth.Json.Reader
import ClientSynth.Yaml.Cursor

/-!
# Scalars in a YAML text

Plain scalars, scalars between quotes, and the literal and folded scalars of block form: how far
they reach and what text they are. A scalar may go over several lines. One line end between its
lines becomes a space, and of several all but the first stay.
-/

namespace ClientSynth.Yaml

/-- A line end between two lines of a folded text, and the empty lines after it, as text. -/
def foldedBreak (first : Char) (later : List Char) : List Char :=
  if first != '\n' then first :: later else if later.isEmpty then [' '] else later

/-! ## Plain scalars -/

/-- A character that ends a plain scalar inside brackets. -/
def endsFlowScalar (c : Char) : Bool :=
  c == ',' || c == '?' || c == '[' || c == ']' || c == '{' || c == '}'

/-- Whether a colon with this after it ends a plain scalar. -/
def endsAfterColon (flow : Bool) (next : Option Char) : Bool :=
  isGapOrEnd next ||
    (flow && next.any fun c => c == ',' || c == '[' || c == ']' || c == '{' || c == '}')

/-- The part of a plain scalar up to the next gap or its end. -/
def plainPart (flow : Bool) : List Char → List Char
  | [] => []
  | c :: rest =>
    if isGapOrEnd (some c) || (c == ':' && endsAfterColon flow rest.head?) ||
        (flow && endsFlowScalar c) then []
    else c :: plainPart flow rest

/-- Skips spaces and line ends, at most so many, and gives the line ends. It stops, and says so,
where a document starts or ends. -/
def plainBreaks (c : Cursor) : Nat → List Char × Bool × Cursor
  | 0 => ([], false, c)
  | n + 1 =>
    if c.peek = some ' ' then plainBreaks c.next n
    else match c.lineBreak? with
      | none => ([], false, c)
      | some (b, after) =>
        if after.isSeparator then ([b], true, after)
        else
          let (later, stopped, last) := plainBreaks after n
          (b :: later, stopped, last)

/-- A gap in a plain scalar: the text for it, whether it has a line end, and what follows. -/
structure PlainGap where
  text : List Char
  crossed : Bool
  after : Cursor

/-- The gap that is next in a plain scalar. Before the start or the end of a document it has no
text. -/
def plainGap (c : Cursor) : PlainGap :=
  let (blanks, c) := c.span (· == ' ')
  match c.lineBreak? with
  | none => ⟨blanks, false, c⟩
  | some (first, after) =>
    if after.isSeparator then ⟨[], true, after⟩
    else
      let (breaks, stopped, after) := plainBreaks after after.rest.length
      if stopped then ⟨[], true, after⟩ else ⟨foldedBreak first breaks, true, after⟩

/-- A scalar that was read: its text, whether a line end came last, and what follows. -/
structure Scanned where
  text : List Char
  crossed : Bool
  after : Cursor

/-- The rest of a plain scalar of at most so many parts. `gap` is the text since the last part, and
`crossed` tells whether it has a line end. -/
def plainFrom (flow : Bool) (indent : Int) (gap : List Char) (crossed : Bool) (c : Cursor) :
    Nat → Scanned
  | 0 => ⟨[], crossed, c⟩
  | n + 1 =>
    let part := if c.peek = some '#' then [] else plainPart flow c.rest
    if part.isEmpty then ⟨[], crossed, c⟩
    else
      let g := plainGap (c.skip part.length)
      if g.text.isEmpty || g.after.peek = some '#' || (!flow && g.after.column < indent) then
        ⟨gap ++ part, g.crossed, g.after⟩
      else
        let later := plainFrom flow indent g.text g.crossed g.after n
        { later with text := gap ++ part ++ later.text }

/-- The plain scalar that is next. -/
def plain (flow : Bool) (indent : Int) (c : Cursor) : Scanned :=
  plainFrom flow indent [] false c c.rest.length

/-! ## Scalars between quotes -/

/-- The character of an escape of one letter. -/
def escape? : Char → Option Char
  | '0' => some '\x00'
  | 'a' => some '\x07'
  | 'b' => some '\x08'
  | 't' => some '\t'
  | '\t' => some '\t'
  | 'n' => some '\n'
  | 'v' => some '\x0b'
  | 'f' => some '\x0c'
  | 'r' => some '\r'
  | 'e' => some '\x1b'
  | ' ' => some ' '
  | '"' => some '"'
  | '\\' => some '\\'
  | '/' => some '/'
  | 'N' => some '\x85'
  | '_' => some '\xa0'
  | 'L' => some '\u2028'
  | 'P' => some '\u2029'
  | _ => none

/-- The number of hexadecimal digits of a code escape. -/
def codeLength? : Char → Option Nat
  | 'x' => some 2
  | 'u' => some 4
  | 'U' => some 8
  | _ => none

/-- The number that hexadecimal digits spell. -/
def hexNumber? (digits : List Char) : Option Nat :=
  digits.foldl (fun n c => do pure ((← n) * 16 + (← Json.hexDigit? c))) (some 0)

/-- Whether a text starts with the escape for half a surrogate pair. -/
def startsHalf : List Char → Bool
  | '\\' :: 'u' :: a :: b :: c :: d :: _ => (Json.hexCode? a b c d).any Json.isHalf
  | '\\' :: 'U' :: '0' :: '0' :: '0' :: '0' :: a :: b :: c :: d :: _ =>
    (Json.hexCode? a b c d).any Json.isHalf
  | _ => false

/-- Whether a text has what would be an escape for half a surrogate pair between double quotes. Such
a half is one even where the other half is next to it. -/
def spellsHalf : List Char → Bool
  | [] => false
  | c :: rest => startsHalf (c :: rest) || spellsHalf rest

/-- The character that a code escape is for. -/
def codeChar (code : Nat) : Except Fault Char :=
  if 0x10FFFF < code then .error (.badCharacter code) else .ok (Json.unitChar code)

/-- Skips blanks and line ends, at most so many lines, and gives the line ends. No document may
start or end there. -/
def quotedBreaks (c : Cursor) : Nat → Except Fault (List Char × Cursor)
  | 0 => .ok ([], c)
  | n + 1 =>
    if c.isSeparator then .error .malformed
    else
      let c := c.skipWhile fun ch => ch == ' ' || ch == '\t'
      match c.lineBreak? with
      | none => .ok ([], c)
      | some (b, after) => (quotedBreaks after n).map fun (later, last) => (b :: later, last)

/-- The gap that is next in a quoted scalar, as text. -/
def quotedGap (c : Cursor) : Except Fault (List Char × Cursor) :=
  let (blanks, c) := c.span fun ch => ch == ' ' || ch == '\t'
  match c.lineBreak? with
  | none => if c.rest.isEmpty then .error .malformed else .ok (blanks, c)
  | some (first, after) =>
    (quotedBreaks after after.rest.length.succ).map fun (breaks, last) =>
      (foldedBreak first breaks, last)

/-- The number of a code escape after its backslash. -/
def codeEscape? (c : Cursor) : Option (Nat × Cursor) := do
  let length ← codeLength? (← c.peek)
  let digits := (c.rest.drop 1).take length
  if digits.length < length then none
  else pure (← hexNumber? digits, c.skip (length + 1))

/-- The text of the escape after a backslash. Two code escapes for the halves of a surrogate pair
stand for one character. -/
def quotedEscape (c : Cursor) : Except Fault (List Char × Cursor) :=
  match c.peek.bind escape?, codeEscape? c with
  | some e, _ => .ok ([e], c.next)
  | none, some (code, after) =>
    match if after.peek = some '\\' then codeEscape? after.next else none with
    | some (low, last) =>
      if Json.isHighSurrogate code && Json.isLowSurrogate low then
        .ok ([Json.pairChar code low], last)
      else (codeChar code).map fun e => ([e], after)
    | none => (codeChar code).map fun e => ([e], after)
  | none, none =>
    match c.lineBreak? with
    | none => .error .malformed
    | some (_, after) => quotedBreaks after after.rest.length.succ

/-- The rest of a scalar between quotes, up to its closing quote, in at most so many steps. -/
def quotedFrom (double : Bool) (c : Cursor) : Nat → Except Fault (List Char × Cursor)
  | 0 => .error .malformed
  | n + 1 =>
    let continued := fun (part : List Char) (c : Cursor) =>
      (quotedFrom double c n).map fun (later, last) => (part ++ later, last)
    match c.rest with
    | [] => .error .malformed
    | ch :: rest =>
      if isGapOrEnd (some ch) then do
        let (part, after) ← quotedGap c
        continued part after
      else if double && ch == '\\' then do
        let (part, after) ← quotedEscape c.next
        continued part after
      else if double && ch == '"' then .ok ([], c.next)
      else if !double && ch == '\'' then
        if rest.head? == some '\'' then continued ['\''] (c.skip 2) else .ok ([], c.next)
      else continued [ch] c.next

/-- The scalar after an opening quote. -/
def quoted (double : Bool) (c : Cursor) : Except Fault (List Char × Cursor) :=
  quotedFrom double c c.rest.length.succ

/-! ## Scalars of block form -/

/-- What becomes of the line ends after a block scalar. -/
inductive Chomping where
  | strip
  | clip
  | keep
  deriving DecidableEq

/-- The chomping mark that is next. -/
def chomping? (c : Cursor) : Option (Chomping × Cursor) :=
  match c.peek with
  | some '+' => some (.keep, c.next)
  | some '-' => some (.strip, c.next)
  | _ => none

/-- The indentation mark that is next: a digit, which is not zero. -/
def indentation? (c : Cursor) : Except Fault (Option (Nat × Cursor)) :=
  match c.peek with
  | some ch =>
    if ch.isDigit then
      if ch == '0' then .error .malformed
      else .ok (some (ch.toNat - '0'.toNat, c.next))
    else .ok none
  | none => .ok none

/-- The marks of a block scalar: chomping and indentation, in either order. -/
def blockMarks (c : Cursor) : Except Fault (Chomping × Option Nat × Cursor) := do
  match chomping? c with
  | some (chomping, c) =>
    match ← indentation? c with
    | some (n, c) => .ok (chomping, some n, c)
    | none => .ok (chomping, none, c)
  | none =>
    match ← indentation? c with
    | some (n, c) =>
      match chomping? c with
      | some (chomping, c) => .ok (chomping, some n, c)
      | none => .ok (.clip, some n, c)
    | none => .ok (.clip, none, c)

/-- Skips the rest of a line that may hold a comment only. -/
def skipIgnoredLine (c : Cursor) : Except Fault Cursor :=
  let c := c.skipSpaces.skipComment
  if isBreakOrEnd c.peek then .ok c.skipBreak else .error .malformed

/-- Skips spaces and line ends, at most so many, and gives the line ends and the greatest column
reached. -/
def blockLead (deepest : Nat) (c : Cursor) : Nat → List Char × Nat × Cursor
  | 0 => ([], deepest, c)
  | n + 1 =>
    if c.peek = some ' ' then blockLead (max deepest c.next.column) c.next n
    else match c.lineBreak? with
      | none => ([], deepest, c)
      | some (b, after) =>
        let (later, deepest, last) := blockLead deepest after n
        (b :: later, deepest, last)

/-- Skips spaces up to a column. -/
def skipIndent (indent : Nat) (c : Cursor) : Cursor :=
  c.skip (c.rest.takeWhile (· == ' ') |>.take (indent - c.column)).length

/-- Skips empty lines, at most so many, and the indentation of the line after them, and gives the
line ends. -/
def blockBreaks (indent : Nat) (c : Cursor) : Nat → List Char × Cursor
  | 0 => ([], skipIndent indent c)
  | n + 1 =>
    let c := skipIndent indent c
    match c.lineBreak? with
    | none => ([], c)
    | some (b, after) =>
      let (later, last) := blockBreaks indent after n
      (b :: later, last)

/-- Whether a line of a block scalar starts at the cursor. -/
def isBlockLine (indent : Nat) (c : Cursor) : Bool :=
  c.column == indent && !c.rest.isEmpty

/-- Whether a blank is next. -/
def isBlankNext (c : Cursor) : Bool :=
  c.peek == some ' ' || c.peek == some '\t'

/-- The text between two lines of a block scalar: the line end after the first one and the empty
lines after that. Lines that start with a blank are not folded. -/
def blockJoint (folded firstIsText : Bool) (lineEnd : List Char) (breaks : List Char)
    (next : Cursor) : List Char :=
  if folded && lineEnd == ['\n'] && firstIsText && !isBlankNext next then
    (if breaks.isEmpty then [' '] else []) ++ breaks
  else lineEnd ++ breaks

/-- The lines of a block scalar from one of them on, at most so many. -/
def blockLines (folded : Bool) (chomping : Chomping) (indent : Nat) (c : Cursor) :
    Nat → List Char × Cursor
  | 0 => ([], c)
  | n + 1 =>
    let (line, atEnd) := c.span fun ch => !isBreak ch
    let lineEnd := (atEnd.lineBreak?.map fun b => [b.1]).getD []
    let (breaks, after) := blockBreaks indent atEnd.skipBreak atEnd.rest.length
    if isBlockLine indent after then
      let joint := blockJoint folded (!isBlankNext c) lineEnd breaks after
      let (later, last) := blockLines folded chomping indent after n
      (line ++ joint ++ later, last)
    else
      let tail := match chomping with
        | .strip => []
        | .clip => lineEnd
        | .keep => lineEnd ++ breaks
      (line ++ tail, after)

/-- The scalar of block form after its first mark; `level` is the indentation around it. -/
def block (folded : Bool) (level : Int) (c : Cursor) : Except Fault (List Char × Cursor) := do
  let (chomping, increment, c) ← blockMarks c
  if !isSpaceOrEnd c.peek then throw .malformed
  let c ← skipIgnoredLine c
  let least := max (level + 1) 1
  let (indent, breaks, c) := match increment with
    | none =>
      let (breaks, deepest, c) := blockLead 0 c c.rest.length
      ((max least deepest).toNat, breaks, c)
    | some n =>
      let indent := (least + n - 1).toNat
      let (breaks, c) := blockBreaks indent c c.rest.length
      (indent, breaks, c)
  if isBlockLine indent c then
    let (lines, c) := blockLines folded chomping indent c c.rest.length
    .ok (breaks ++ lines, c)
  else .ok (if chomping = .keep then breaks else [], c)

end ClientSynth.Yaml
