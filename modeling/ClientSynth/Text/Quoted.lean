import ClientSynth.Text.Basic
import ClientSynth.Text.Class
import ClientSynth.Value
import ClientSynth.Binary64.Shortest

/-!
# Values shown in messages

`Text.quoted` puts a text between quotes, with escapes for quotes, backslashes and characters that
do not print. `Value.shown` shows any value that way, and `Value.clipped` shortens what is too long
to show.
-/

namespace ClientSynth

namespace Text

/-- A number in hexadecimal, padded with zeros to a width. -/
def hex (width n : Nat) : List Char :=
  let digits := Nat.toDigits 16 n
  List.replicate (width - digits.length) '0' ++ digits

/-- A character of a quoted text. -/
def shownChar (quote c : Char) : List Char :=
  if c = quote || c = '\\' then ['\\', c]
  else if c = '\n' then ['\\', 'n']
  else if c = '\r' then ['\\', 'r']
  else if c = '\t' then ['\\', 't']
  else if isPrintable c then [c]
  else if c.toNat < 0x100 then '\\' :: 'x' :: hex 2 c.toNat
  else if c.toNat < 0x10000 then '\\' :: 'u' :: hex 4 c.toNat
  else '\\' :: 'U' :: hex 8 c.toNat

/-- A text between single quotes, or between double ones when it holds single quotes only. -/
def quoted (s : String) : String :=
  let text := s.toList
  let quote := if text.contains '\'' && !text.contains '"' then '"' else '\''
  String.ofList (quote :: text.flatMap (shownChar quote) ++ [quote])

/-- Bytes between quotes, the ones that are no printing ASCII as escapes. -/
def quotedBytes (bytes : List UInt8) : String :=
  let text := bytes.map fun b => Char.ofNat b.toNat
  let quote := if text.contains '\'' && !text.contains '"' then '"' else '\''
  let shown := fun (c : Char) =>
    if 0x7F ≤ c.toNat then '\\' :: 'x' :: hex 2 c.toNat else shownChar quote c
  "b" ++ String.ofList (quote :: text.flatMap shown ++ [quote])

end Text

namespace Scalar

/-- A scalar as a message shows it. -/
def shown : Scalar → String
  | .null => "None"
  | .bool b => if b then "True" else "False"
  | .int n => Text.ofInt n
  | .float x => x.text
  | .text s => Text.quoted s
  | .date d =>
    "datetime.date(" ++ ", ".intercalate ([d.year, d.month, d.day].map Text.ofNat) ++ ")"
  | .moment m =>
    let numbers := [m.date.year, m.date.month, m.date.day, m.hour, m.minute] ++
      (if m.second = 0 ∧ m.microsecond = 0 then [] else [m.second]) ++
      (if m.microsecond = 0 then [] else [m.microsecond])
    let zone := match m.offset with
      | none => ""
      | some 0 => ", tzinfo=datetime.timezone.utc"
      | some s => ", tzinfo=datetime.timezone(" ++ CalendarFault.spanText s ++ ")"
    "datetime.datetime(" ++ ", ".intercalate (numbers.map Text.ofNat) ++ zone ++ ")"
  | .bytes bs => Text.quotedBytes bs

/-- The name of a scalar's kind. -/
def kindName : Scalar → String
  | .null => "NoneType"
  | .bool _ => "bool"
  | .int _ => "int"
  | .float _ => "float"
  | .text _ => "str"
  | .date _ => "date"
  | .moment _ => "datetime"
  | .bytes _ => "bytes"

end Scalar

namespace Value

mutual

/-- A value as a message shows it. -/
def shown : Value → String
  | .scalar s => s.shown
  | .list items => "[" ++ ", ".intercalate (shownItems items) ++ "]"
  | .map entries => "\x7b" ++ ", ".intercalate (shownEntries entries) ++ "\x7d"
  | .set members =>
    if members.isEmpty then "set()"
    else "\x7b" ++ ", ".intercalate (members.map Scalar.shown) ++ "\x7d"
  | .pair a b => "(" ++ shown a ++ ", " ++ shown b ++ ")"

/-- The items of a list. -/
def shownItems : List Value → List String
  | [] => []
  | v :: rest => shown v :: shownItems rest

/-- The entries of a mapping. -/
def shownEntries : List (Scalar × Value) → List String
  | [] => []
  | (k, v) :: rest => (k.shown ++ ": " ++ shown v) :: shownEntries rest

end

/-- The name of a value's kind. -/
def kindName : Value → String
  | .scalar s => s.kindName
  | .list _ => "list"
  | .map _ => "dict"
  | .set _ => "set"
  | .pair _ _ => "tuple"

/-- The front of a text, of at most so many bytes. -/
def frontBytes (budget : Nat) : List Char → List Char
  | [] => []
  | c :: rest => if c.utf8Size ≤ budget then c :: frontBytes (budget - c.utf8Size) rest else []

/-- A text of more than 50 bytes without its middle: at most 25 bytes from the front and 24 from the
back stay. -/
def clipped (s : String) : String :=
  if s.utf8ByteSize ≤ 50 then s
  else
    String.ofList (frontBytes 25 s.toList) ++ "..." ++
      String.ofList (frontBytes 24 s.toList.reverse).reverse

end Value

end ClientSynth
