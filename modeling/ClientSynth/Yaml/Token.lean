import ClientSynth.Record.Scalars
import ClientSynth.Yaml.Scalar

/-!
# Tokens of a YAML text

`tokens` cuts a text into tokens. Indentation opens and closes block collections, and a key of one
line is recognised only at the colon after it: its marks are then put in front of it. Tokens are
kept latest first while the text is read. A text that breaks a rule gives the fault, and the tokens
before the place of it that nothing more could be put in front of.
-/

namespace ClientSynth.Yaml

/-- A token. -/
inductive Token where
  | version (major : Nat)
  | tagHandle (handle start : String)
  | otherDirective
  | documentStart
  | documentEnd
  | blockSequenceStart
  | blockMappingStart
  | blockEnd
  | flowSequenceStart
  | flowSequenceEnd
  | flowMappingStart
  | flowMappingEnd
  | blockEntry
  | flowEntry
  | key
  | value
  | alias (name : String)
  | anchor (name : String)
  /-- A tag: its handle, unless it is written in full, and what follows. -/
  | tag (handle : Option String) (suffix : String)
  /-- A scalar, and whether it is plain. -/
  | scalar (text : String) (isPlain : Bool)
  | streamEnd
  deriving DecidableEq

/-- A place where a key of one line may have started. -/
structure KeyPlace where
  /-- The number of tokens before it. -/
  before : Nat
  /-- Whether something other than a key is a fault there. -/
  required : Bool
  index : Nat
  line : Nat
  column : Nat

/-- The state of reading. -/
structure Reading where
  cursor : Cursor
  /-- The number of brackets and braces that are open. -/
  depth : Nat
  /-- The column of the innermost block collection, or `-1` outside of all. -/
  indent : Int
  /-- The columns of the block collections around it. -/
  outer : List Int
  /-- Whether a key of one line may start here. -/
  keyAllowed : Bool
  /-- The places where such keys may have started, by depth. -/
  keyPlaces : List (Nat × KeyPlace)
  /-- The tokens, latest first. -/
  tokens : List Token
  count : Nat

/-- Puts an item behind the first so many items. -/
def insertBehind (item : α) : Nat → List α → List α
  | 0, rest => item :: rest
  | _ + 1, [] => [item]
  | n + 1, x :: rest => x :: insertBehind item n rest

namespace Reading

/-- The start of a text. -/
def start (text : List Char) : Reading :=
  ⟨.start text, 0, -1, [], true, [], [], 0⟩

/-- Adds a token, and goes on from a cursor. -/
def push (r : Reading) (t : Token) (c : Cursor) : Reading :=
  { r with cursor := c, tokens := t :: r.tokens, count := r.count + 1 }

/-- Adds a token without going on. -/
def mark (r : Reading) (t : Token) : Reading :=
  r.push t r.cursor

/-- Puts a token in front of the ones from a number on. -/
def markAt (r : Reading) (before : Nat) (t : Token) : Reading :=
  { r with tokens := insertBehind t (r.count - before) r.tokens, count := r.count + 1 }

/-- Whether brackets or braces are open. -/
def isFlow (r : Reading) : Bool :=
  r.depth != 0

/-- Closes the block collections that a column is to the left of. -/
def unwind (column : Int) (r : Reading) : List Int → Reading
  | [] => r
  | outer :: rest =>
    if column < r.indent then
      unwind column { r.mark .blockEnd with indent := outer, outer := rest } rest
    else r

/-- Closes block collections, which brackets keep open. -/
def unwindTo (r : Reading) (column : Int) : Reading :=
  if r.isFlow then r else unwind column r r.outer

/-- Opens a block collection at a column to the right of the innermost one; `none` when it is not
there. -/
def open? (r : Reading) (column : Nat) : Option Reading :=
  if r.indent < column then some { r with indent := column, outer := r.indent :: r.outer } else none

/-- Opens a block collection with a token, if the next column starts one. -/
def openHere (r : Reading) (t : Token) : Reading :=
  match r.open? r.cursor.column with
  | some r => r.mark t
  | none => r

/-- Whether the place of a key is on another line or too far back. -/
def isStale (r : Reading) (k : KeyPlace) : Bool :=
  k.line != r.cursor.line || 1024 < r.cursor.index - k.index

/-- Forgets the places of keys that are on another line or too far back. -/
def dropStale (r : Reading) : Except Fault Reading :=
  if r.keyPlaces.any fun k => r.isStale k.2 && k.2.required then .error .malformed
  else .ok { r with keyPlaces := r.keyPlaces.filter fun k => !r.isStale k.2 }

/-- The tokens that nothing more is put in front of: those before all places of keys. -/
def settled (r : Reading) : List Token :=
  let counts := (r.keyPlaces.filter fun k => !r.isStale k.2).map fun k => k.2.before
  r.tokens.reverse.take (counts.foldl min r.count)

/-- Forgets the place of a key at the present depth. -/
def dropPlace (r : Reading) : Except Fault Reading :=
  if r.keyPlaces.any fun k => k.1 == r.depth && k.2.required then .error .malformed
  else .ok { r with keyPlaces := r.keyPlaces.filter fun k => k.1 != r.depth }

/-- Remembers that a key may start here. -/
def savePlace (r : Reading) : Except Fault Reading :=
  if r.keyAllowed then do
    let required := !r.isFlow && r.indent == (r.cursor.column : Int)
    let r ← r.dropPlace
    let place : KeyPlace :=
      ⟨r.count, required, r.cursor.index, r.cursor.line, r.cursor.column⟩
    .ok { r with keyPlaces := (r.depth, place) :: r.keyPlaces }
  else .ok r

/-- Skips to the next token, in at most so many steps. A line end allows keys again, unless brackets
are open. -/
def skipGap (r : Reading) : Nat → Reading
  | 0 => r
  | n + 1 =>
    let c := r.cursor.skipSpaces.skipComment
    match c.lineBreak? with
    | none => { r with cursor := c }
    | some (_, after) =>
      skipGap { r with cursor := after, keyAllowed := r.keyAllowed || !r.isFlow } n

end Reading

/-! ## Directives, anchors and tags -/

/-- The number that is next. -/
def directiveNumber (c : Cursor) : Except Fault (Nat × Cursor) :=
  let (digits, c) := c.span Char.isDigit
  if digits.isEmpty then .error .malformed
  else if Text.maxDigits < digits.length then .error (.tooManyDigits digits.length)
  else .ok (Text.natOfDigits digits, c)

/-- The bytes of the percent escapes that are next, at most so many. -/
def percentBytes (c : Cursor) : Nat → Except Fault (List UInt8 × Cursor)
  | 0 => .ok ([], c)
  | n + 1 =>
    match c.rest with
    | '%' :: rest =>
      match rest with
      | a :: b :: _ =>
        match hexNumber? [a, b] with
        | some byte => (percentBytes (c.skip 3) n).map fun (later, last) =>
          (UInt8.ofNat byte :: later, last)
        | none => .error .malformed
      | _ => .error .malformed
    | _ => .ok ([], c)

/-- A character of a tag. -/
def isTagChar (c : Char) : Bool :=
  c.isAlphanum || "-;/?:@&=+$,_.!~*'()[]%".toList.contains c

/-- The rest of a tag, of at most so many parts. -/
def tagPartsFrom (c : Cursor) : Nat → Except Fault (List Char × Cursor)
  | 0 => .ok ([], c)
  | n + 1 => do
    let (part, c) := c.span fun ch => isTagChar ch && ch != '%'
    if c.peek = some '%' then
      let (bytes, c) ← percentBytes c c.rest.length
      match Scalar.ofUtf8? bytes with
      | none => .error .malformed
      | some s =>
        let (later, last) ← tagPartsFrom c n
        .ok (part ++ s.toList ++ later, last)
    else .ok (part, c)

/-- The part of a tag that is next, which is not empty. -/
def tagPart (c : Cursor) : Except Fault (String × Cursor) := do
  let (text, after) ← tagPartsFrom c c.rest.length
  if after.index = c.index then .error .malformed else .ok (String.ofList text, after)

/-- The handle of tags that is next: a name between exclamation marks, or one of these alone before
a space. -/
def tagHandle (c : Cursor) : Except Fault (String × Cursor) :=
  if c.peek != some '!' then .error .malformed
  else if c.peekAt 1 = some ' ' then .ok ("!", c.next)
  else
    let (name, after) := c.next.span isNameChar
    if after.peek = some '!' then .ok (String.ofList ('!' :: name ++ ['!']), after.next)
    else .error .malformed

/-- The directive that is next. -/
def directive (c : Cursor) : Except Fault (Token × Cursor) := do
  let (name, c) := c.next.span isNameChar
  if name.isEmpty || !isSpaceOrEnd c.peek then throw .malformed
  let (token, c) ←
    if name = "YAML".toList then do
      let (major, c) ← directiveNumber c.skipSpaces
      if c.peek != some '.' then throw .malformed
      let (_, c) ← directiveNumber c.next
      if !isSpaceOrEnd c.peek then throw .malformed
      pure (Token.version major, c)
    else if name = "TAG".toList then do
      let (handle, c) ← tagHandle c.skipSpaces
      if c.peek != some ' ' then throw .malformed
      let (start, c) ← tagPart c.skipSpaces
      if !isSpaceOrEnd c.peek then throw .malformed
      pure (Token.tagHandle handle start, c)
    else pure (Token.otherDirective, c.skipWhile fun ch => !isBreak ch)
  let c ← skipIgnoredLine c
  .ok (token, c)

/-- The name of the anchor that is next. -/
def anchorName (c : Cursor) : Except Fault (String × Cursor) :=
  let (name, after) := c.next.span isNameChar
  let ends := isGapOrEnd after.peek || after.peek.any fun ch => "?:,]\x7d%@\x60".toList.contains ch
  if name.isEmpty || !ends then .error .malformed else .ok (String.ofList name, after)

/-- Whether a handle stands at the front of the tag after its first mark. -/
def hasHandle (rest : List Char) : Bool :=
  (rest.takeWhile fun ch => !isSpaceOrEnd (some ch)).contains '!'

/-- The tag that is next. -/
def tag (c : Cursor) : Except Fault (Token × Cursor) := do
  let (token, c) ←
    if c.peekAt 1 = some '<' then do
      let (suffix, c) ← tagPart (c.skip 2)
      if c.peek != some '>' then throw .malformed
      pure (Token.tag none suffix, c.next)
    else if isGapOrEnd (c.peekAt 1) then pure (Token.tag none "!", c.next)
    else do
      let (handle, c) ← if hasHandle (c.rest.drop 1) then tagHandle c else pure ("!", c.next)
      let (suffix, c) ← tagPart c
      pure (Token.tag (some handle) suffix, c)
  if isSpaceOrEnd c.peek then .ok (token, c) else .error .malformed

/-! ## The next token -/

namespace Reading

/-- Adds a token that closes all block collections and starts on a line of its own. -/
def fetchSeparate (r : Reading) (read : Cursor → Except Fault (Token × Cursor)) :
    Except Fault Reading := do
  let r ← (r.unwindTo (-1)).dropPlace
  let (t, c) ← read r.cursor
  .ok ({ r with keyAllowed := false }.push t c)

/-- Opens brackets or braces. -/
def fetchOpening (r : Reading) (t : Token) : Except Fault Reading := do
  let r ← r.savePlace
  .ok ({ r with depth := r.depth + 1, keyAllowed := true }.push t r.cursor.next)

/-- Closes brackets or braces. -/
def fetchClosing (r : Reading) (t : Token) : Except Fault Reading := do
  let r ← r.dropPlace
  if r.depth = 0 then .error .malformed
  else .ok ({ r with depth := r.depth - 1, keyAllowed := false }.push t r.cursor.next)

/-- Adds the mark of an entry in brackets. -/
def fetchFlowEntry (r : Reading) : Except Fault Reading := do
  let r ← r.dropPlace
  .ok ({ r with keyAllowed := true }.push .flowEntry r.cursor.next)

/-- Adds the mark of an entry of a block sequence. -/
def fetchBlockEntry (r : Reading) : Except Fault Reading := do
  if !r.isFlow && !r.keyAllowed then throw .malformed
  let r := if r.isFlow then r else r.openHere .blockSequenceStart
  let r ← { r with keyAllowed := true }.dropPlace
  .ok (r.push .blockEntry r.cursor.next)

/-- Adds the mark of a key. -/
def fetchKey (r : Reading) : Except Fault Reading := do
  if !r.isFlow && !r.keyAllowed then throw .malformed
  let r := if r.isFlow then r else r.openHere .blockMappingStart
  let r ← { r with keyAllowed := !r.isFlow }.dropPlace
  .ok (r.push .key r.cursor.next)

/-- Adds the mark of a value. If a key of one line is before it, the mark of that key is put in
front of the key. -/
def fetchValue (r : Reading) : Except Fault Reading :=
  match r.keyPlaces.lookup r.depth with
  | some place =>
    let r := { r with keyPlaces := r.keyPlaces.filter (fun k => k.1 != r.depth) }
    let r := r.markAt place.before .key
    let opened := if r.isFlow then none else r.open? place.column
    let r := match opened with
      | some r => r.markAt place.before .blockMappingStart
      | none => r
    .ok ({ r with keyAllowed := false }.push .value r.cursor.next)
  | none => do
    if !r.isFlow && !r.keyAllowed then throw .malformed
    let r := if r.isFlow then r else r.openHere .blockMappingStart
    let r ← { r with keyAllowed := !r.isFlow }.dropPlace
    .ok (r.push .value r.cursor.next)

/-- Adds a token that a key of one line may be or start with. -/
def fetchStart (r : Reading) (read : Cursor → Except Fault (Token × Cursor)) :
    Except Fault Reading := do
  let r ← r.savePlace
  let (t, c) ← read r.cursor
  .ok ({ r with keyAllowed := false }.push t c)

/-- Adds a literal or folded scalar. -/
def fetchBlockScalar (r : Reading) (folded : Bool) : Except Fault Reading := do
  let r ← { r with keyAllowed := true }.dropPlace
  let (text, c) ← block folded r.indent r.cursor.next
  .ok (r.push (.scalar (String.ofList text) false) c)

/-- Adds a plain scalar. -/
def fetchPlain (r : Reading) : Except Fault Reading := do
  let r ← r.savePlace
  let s := plain r.isFlow (r.indent + 1) r.cursor
  .ok ({ r with keyAllowed := s.crossed }.push (.scalar (String.ofList s.text) true) s.after)

/-- Whether the mark that is next stands for itself: always in brackets, and before a gap outside.
-/
def isMark (r : Reading) : Bool :=
  r.isFlow || isGapOrEnd (r.cursor.peekAt 1)

/-- A character that no plain scalar starts with. -/
def isIndicator (c : Char) : Bool :=
  "-?:,[]\x7b\x7d#&*!|>\x27\x22%@\x60".toList.contains c

/-- Whether a plain scalar is next. -/
def isPlainNext (r : Reading) (c : Char) : Bool :=
  (!isGapOrEnd (some c) && !isIndicator c) ||
    (!isGapOrEnd (r.cursor.peekAt 1) &&
      (c == '-' || (!r.isFlow && (c == '?' || c == ':'))))

/-- Adds the next token, which starts with a character. -/
def fetch (r : Reading) (c : Char) : Except Fault Reading :=
  let cursor := r.cursor
  if c == '%' && cursor.column == 0 then r.fetchSeparate directive
  else if cursor.column == 0 && cursor.isMarker '-' then
    r.fetchSeparate fun c => .ok (.documentStart, c.skip 3)
  else if cursor.column == 0 && cursor.isMarker '.' then
    r.fetchSeparate fun c => .ok (.documentEnd, c.skip 3)
  else if c == '[' then r.fetchOpening .flowSequenceStart
  else if c == '{' then r.fetchOpening .flowMappingStart
  else if c == ']' then r.fetchClosing .flowSequenceEnd
  else if c == '}' then r.fetchClosing .flowMappingEnd
  else if c == ',' then r.fetchFlowEntry
  else if c == '-' && isGapOrEnd (cursor.peekAt 1) then r.fetchBlockEntry
  else if c == '?' && r.isMark then r.fetchKey
  else if c == ':' && r.isMark then r.fetchValue
  else if c == '*' then
    r.fetchStart fun c => (anchorName c).map fun (name, after) => (.alias name, after)
  else if c == '&' then
    r.fetchStart fun c => (anchorName c).map fun (name, after) => (.anchor name, after)
  else if c == '!' then r.fetchStart tag
  else if c == '|' && !r.isFlow then r.fetchBlockScalar false
  else if c == '>' && !r.isFlow then r.fetchBlockScalar true
  else if c == '\'' || c == '"' then
    r.fetchStart fun cursor => (quoted (c == '"') cursor.next).map fun (text, after) =>
      (.scalar (String.ofList text) false, after)
  else if r.isPlainNext c then r.fetchPlain
  else .error .malformed

/-- Reads the next token and those that it closes, or the end of the text; the flag says whether
there is more. -/
def step (r : Reading) : Except Fault (Reading × Bool) := do
  let r ← (r.skipGap r.cursor.rest.length.succ).dropStale
  let r := r.unwindTo r.cursor.column
  match r.cursor.peek with
  | none =>
    let r ← (r.unwindTo (-1)).dropPlace
    .ok (r.mark .streamEnd, false)
  | some c => (r.fetch c).map fun r => (r, true)

/-- Reads the rest of a text, in at most so many steps. -/
def finish (r : Reading) : Nat → List Token × Option Fault
  | 0 => (r.settled, some .malformed)
  | n + 1 =>
    match r.step with
    | .error fault => (r.settled, some fault)
    | .ok (r, true) => r.finish n
    | .ok (r, false) => (r.tokens.reverse, none)

end Reading

/-- Whether a character may stand in a text. -/
def isAllowed (c : Char) : Bool :=
  let n := c.toNat
  n == 0x09 || n == 0x0A || n == 0x0D || (0x20 ≤ n && n ≤ 0x7E) || n == 0x85 ||
    (0xA0 ≤ n && n ≤ 0xD7FF) || (0xE000 ≤ n && n ≤ 0xFFFD) || 0x10000 ≤ n

/-- The tokens of a text, and the fault that they end at, if they do not reach its end. -/
def tokens (text : List Char) : List Token × Option Fault :=
  if text.all isAllowed then
    let r := Reading.start text
    let r := if text.head? = some '\uFEFF' then { r with cursor := r.cursor.next } else r
    r.finish text.length.succ
  else ([], some .malformed)

end ClientSynth.Yaml
