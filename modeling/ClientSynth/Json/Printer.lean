import ClientSynth.Json.Reader
import ClientSynth.Binary64.Shortest

/-!
# Writing JSON

`Json.render` writes a value, on one line or with each item on a line of its own, and with all
characters as they are or the ones outside ASCII as code escapes. Values that JSON has no form for
are written as texts.
-/

namespace ClientSynth.Json

/-- How values are written: with items on lines indented by two spaces a level, or on one line; and
with characters outside ASCII escaped, or as they are. -/
structure Style where
  indented : Bool
  ascii : Bool

/-- Four hexadecimal digits of a code unit. -/
def hexUnit (n : Nat) : List Char :=
  let digits := Nat.toDigits 16 n
  List.replicate (4 - digits.length) '0' ++ digits

/-- The code escape of a code unit. -/
def unitEscape (n : Nat) : List Char :=
  '\\' :: 'u' :: hexUnit n

/-- The code escapes of a character: two for one beyond the first plane. -/
def codeEscape (c : Char) : List Char :=
  let n := c.toNat
  if n < 0x10000 then unitEscape n
  else unitEscape (0xD800 + (n - 0x10000) / 0x400) ++ unitEscape (0xDC00 + (n - 0x10000) % 0x400)

/-- A character inside a quoted text. -/
def quotedChar (ascii : Bool) (c : Char) : List Char :=
  if c = '"' then ['\\', '"']
  else if c = '\\' then ['\\', '\\']
  else if c = '\n' then ['\\', 'n']
  else if c = '\r' then ['\\', 'r']
  else if c = '\t' then ['\\', 't']
  else if c = '\x08' then ['\\', 'b']
  else if c = '\x0c' then ['\\', 'f']
  else if c.toNat < 0x20 || (ascii && 0x7E < c.toNat) then codeEscape c
  else [c]

/-- A quoted text. -/
def quote (ascii : Bool) (s : String) : String :=
  String.ofList ('"' :: s.toList.flatMap (quotedChar ascii) ++ ['"'])

/-- A double as a JSON number or one of the words for those that have none. -/
def number (x : Binary64) : String :=
  if x.isNaN then "NaN"
  else if !x.isFinite then (if x.isNegative then "-Infinity" else "Infinity")
  else x.text

/-- The text that stands for a scalar which is a key. -/
def keyText : Scalar → String
  | .null => "null"
  | .bool b => if b then "true" else "false"
  | .int n => Text.ofInt n
  | .float x => number x
  | .text s => s
  | .date d => d.text
  | .moment m => m.text " "
  | .bytes bs => String.ofList (bs.map fun b => Char.ofNat b.toNat)

/-- A scalar. -/
def scalar (ascii : Bool) : Scalar → String
  | .null => "null"
  | .bool b => if b then "true" else "false"
  | .int n => Text.ofInt n
  | .float x => number x
  | s => quote ascii (keyText s)

/-- The break before an item at a depth. -/
def lineBreak (style : Style) (depth : Nat) : String :=
  if style.indented then "\n" ++ String.ofList (List.replicate (2 * depth) ' ') else ""

/-- The mark between two items. -/
def comma (style : Style) : String :=
  if style.indented then "," else ", "

/-- Items between brackets, each after a break. -/
def bracket (style : Style) (depth : Nat) (opening closing : String) (items : List String) :
    String :=
  if items.isEmpty then opening ++ closing
  else
    opening ++ lineBreak style (depth + 1) ++
      (comma style ++ lineBreak style (depth + 1)).intercalate items ++
      lineBreak style depth ++ closing

mutual

/-- A value at a depth of nested brackets. -/
def renderAt (style : Style) (depth : Nat) : Value → String
  | .scalar s => scalar style.ascii s
  | .list items => bracket style depth "[" "]" (renderItems style (depth + 1) items)
  | .map entries => bracket style depth "\x7b" "\x7d" (renderEntries style (depth + 1) entries)
  | .set members => bracket style depth "[" "]" (members.map (scalar style.ascii))
  | .pair a b =>
    bracket style depth "[" "]" [renderAt style (depth + 1) a, renderAt style (depth + 1) b]

/-- The items of a list. -/
def renderItems (style : Style) (depth : Nat) : List Value → List String
  | [] => []
  | v :: rest => renderAt style depth v :: renderItems style depth rest

/-- The entries of a mapping. -/
def renderEntries (style : Style) (depth : Nat) : List (Scalar × Value) → List String
  | [] => []
  | (k, v) :: rest =>
    (quote style.ascii (keyText k) ++ ": " ++ renderAt style depth v) ::
      renderEntries style depth rest

end

/-- A value as JSON text. -/
def render (style : Style) (v : Value) : String :=
  renderAt style 0 v

/-- One line, in ASCII. -/
def compactAscii : Style := ⟨false, true⟩

/-- Indented, all characters as they are. -/
def indented : Style := ⟨true, false⟩

/-- Indented, in ASCII. -/
def indentedAscii : Style := ⟨true, true⟩

end ClientSynth.Json
