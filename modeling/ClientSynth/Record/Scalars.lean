import ClientSynth.Record.Rejection
import ClientSynth.Binary64.Reader
import ClientSynth.Text.Class

/-!
# Scalars of a kind

How a scalar becomes a text, an integer, a number or a flag. Numbers and flags are also read from
texts: `integerText?` and `numberText?` say which texts are numbers, around which white space may
stand.
-/

namespace ClientSynth.Scalar

/-- The text of UTF-8 bytes. -/
def ofUtf8? (bytes : List UInt8) : Option String :=
  String.fromUTF8? ⟨bytes.toArray⟩

/-- A scalar as a text. -/
def toText : Scalar → Except Cause String
  | .text s => .ok s
  | .bytes bs => match ofUtf8? bs with
    | some s => .ok s
    | none => .error .brokenText
  | _ => .error .notText

/-- The integer that a text spells in the shortest way: a minus sign if it is negative, and digits
of which the first is not zero unless it is the only one. -/
def shortInteger? (text : List Char) : Option Int :=
  let (isNegative, digits) := match text with
    | '-' :: rest => (true, rest)
    | text => (false, text)
  if !Text.isNumeral digits || (digits.head? == some '0' && digits.length != 1) then none
  else
    let size : Int := Text.natOfDigits digits
    some (if isNegative then -size else size)

/-- Whether a text starts with too many digits, to which a minus sign counts. Digits after a zero do
not count. -/
def isOversized (text : List Char) : Bool :=
  let (sign, size) := match text with
    | '-' :: rest => (1, rest)
    | rest => (0, rest)
  let digits := size.takeWhile Char.isDigit
  digits.head? != some '0' && Text.maxDigits < sign + digits.length

/-- A text without a point and the zeros after it. -/
def withoutZeroFraction (text : List Char) : List Char :=
  match text.dropWhile (· != '.') with
  | '.' :: zeros =>
    if !zeros.isEmpty && zeros.all (· == '0') then text.takeWhile (· != '.') else text
  | _ => text

/-- A size without the zeros at its front, which may be grouped by underscores in any way. What
follows them is a digit or a sign of its own. -/
def withoutZeros? (size : List Char) : Option (List Char) :=
  if !size.head?.any Char.isDigit then none
  else match size.head?, size.dropWhile fun c => c == '0' || c == '_' with
    | some '0', [] => if size.getLast? = some '0' then some ['0'] else none
    | some '0', c :: rest => if c == '-' || c.isDigit then some (c :: rest) else none
    | _, _ => some size

/-- The integer that a text spells in another way than the shortest: with white space around it, a
plus sign, zeros at the front, underscores between its characters, or a fraction of zeros. -/
def looseInteger? (text : List Char) : Option Int := do
  let text := Text.trim Text.isWhiteSpace text
  let (sign, size) := match text with
    | '+' :: rest => ([], rest)
    | '-' :: rest => (['-'], rest)
    | text => ([], text)
  let digits ← Text.ungrouped? (← withoutZeros? (withoutZeroFraction size))
  if isOversized (sign ++ digits) then none else shortInteger? (sign ++ digits)

/-- The integer that a text writes. Only digits at its very front may be too many for their size;
any other text that is no integer breaks the form. -/
def integerText? (text : List Char) : Except Cause Int :=
  if isOversized text then .error .integerSize
  else match shortInteger? text, looseInteger? text with
    | some n, _ => .ok n
    | none, some n => .ok n
    | none, none => .error .integerText

/-- The number that a text writes. White space may stand around it, or underscores between its
characters, but not both. -/
def numberText? (text : List Char) : Except Cause Binary64 :=
  match Binary64.ofText? (Text.trim Text.isWhiteSpace text) with
  | some x => .ok x
  | none => match (Text.ungrouped? text).bind Binary64.ofText? with
    | some x => .ok x
    | none => .error .numberText

/-- A double as an integer: it has no fraction, and is below `2 ^ 63` in size. -/
def integerOfDouble (x : Binary64) : Except Cause Int :=
  if !x.isFinite then .error .notFinite
  else match x.toInt? with
    | none => .error .fractional
    | some n => if n.natAbs < 0x8000000000000000 then .ok n else .error .integerSize

/-- A scalar as an integer. -/
def toInteger : Scalar → Except Cause Int
  | .int n => .ok n
  | .bool b => .ok b.toInt
  | .float x => integerOfDouble x
  | .text s => integerText? s.toList
  | .bytes bs => match ofUtf8? bs with
    | some s => integerText? s.toList
    | none => .error .integerText
  | _ => .error .notInteger

/-- A scalar as a number. An integer beyond the range of doubles is none. -/
def toNumber : Scalar → Except Cause Binary64
  | .float x => .ok x
  | .int n =>
    let x := Binary64.ofInt n
    if x.isFinite then .ok x else .error .notNumber
  | .bool b => .ok (Binary64.ofInt b.toInt)
  | .text s => numberText? s.toList
  | .bytes bs => match ofUtf8? bs with
    | some s => numberText? s.toList
    | none => .error .numberText
  | _ => .error .notNumber

/-- The words for a flag that is set. -/
def trueWords : List String := ["1", "on", "t", "true", "y", "yes"]

/-- The words for a flag that is not set. -/
def falseWords : List String := ["0", "off", "f", "false", "n", "no"]

/-- The flag that a word stands for, in upper or lower case. -/
def flagWord? (s : String) : Except Cause Bool :=
  let word := String.ofList (s.toList.map Char.toLower)
  if trueWords.contains word then .ok true
  else if falseWords.contains word then .ok false
  else .error .flagWord

/-- The flag that an integer stands for. -/
def flagOfInt (n : Int) : Except Cause Bool :=
  if n = 0 then .ok false
  else if n = 1 then .ok true
  else if isWord n then .error .flagWord
  else .error .notFlag

/-- A scalar as a flag. -/
def toFlag : Scalar → Except Cause Bool
  | .bool b => .ok b
  | .int n => flagOfInt n
  | .float x => match integerOfDouble x with
    | .ok n => flagOfInt n
    | .error _ => .error .notFlag
  | .text s => flagWord? s
  | .bytes bs => match ofUtf8? bs with
    | some s => flagWord? s
    | none => .error .flagWord
  | _ => .error .notFlag

end ClientSynth.Scalar
