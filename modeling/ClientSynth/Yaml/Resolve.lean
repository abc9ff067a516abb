import ClientSynth.Text.Basic
import ClientSynth.Url.Address

/-!
# Tags

The tags that have a meaning, and the tag that a plain scalar has by its form: a truth value, a
number, a timestamp, nothing, or else a text.
-/

namespace ClientSynth.Yaml

/-- A tag. -/
inductive Tag where
  | null
  | bool
  | int
  | float
  | binary
  | timestamp
  | orderedMap
  | pairs
  | set
  | text
  | sequence
  | mapping
  | merge
  | value
  | unknown
  deriving DecidableEq, Inhabited

/-- What tags of the format start with. -/
def tagStart : String := "tag:yaml.org,2002:"

/-- The tags by what follows their start. -/
def tagNames : List (String × Tag) :=
  [("null", .null), ("bool", .bool), ("int", .int), ("float", .float), ("binary", .binary),
   ("timestamp", .timestamp), ("omap", .orderedMap), ("pairs", .pairs), ("set", .set),
   ("str", .text), ("seq", .sequence), ("map", .mapping), ("merge", .merge), ("value", .value)]

/-- The tag that is written in full. -/
def Tag.ofText (s : String) : Tag :=
  ((tagNames.find? fun t => tagStart ++ t.1 == s).map Prod.snd).getD .unknown

/-- Whether scalars have the tag. -/
def Tag.isScalar : Tag → Bool
  | .null | .bool | .int | .float | .binary | .timestamp | .text => true
  | _ => false

/-- The words for truth values. -/
def boolWords : List String :=
  ["yes", "Yes", "YES", "no", "No", "NO", "true", "True", "TRUE", "false", "False", "FALSE", "on",
   "On", "ON", "off", "Off", "OFF"]

/-- The words for nothing. -/
def nullWords : List String := ["~", "null", "Null", "NULL", ""]

/-- Whether a character is a digit or an underscore. -/
def isDigitOrLine (c : Char) : Bool :=
  c.isDigit || c == '_'

/-- Whether a text is a digit and then digits and underscores. -/
def isDigits : List Char → Bool
  | [] => false
  | c :: rest => c.isDigit && rest.all isDigitOrLine

/-- Whether a text is nothing, or an exponent with a sign. -/
def isExponent : List Char → Bool
  | [] => true
  | mark :: sign :: digits =>
    (mark == 'e' || mark == 'E') && (sign == '-' || sign == '+') && !digits.isEmpty &&
      digits.all Char.isDigit
  | _ => false

/-- Whether a text is a number from 0 to 59 in one or two digits. -/
def isSixtieth : List Char → Bool
  | [c] => c.isDigit
  | [a, b] => '0' ≤ a && a ≤ '5' && b.isDigit
  | _ => false

/-- Whether a text is a number in sixtieths: a number, and one or more sixtieths after colons. -/
def isSexagesimal (isFirst : List Char → Bool) (text : List Char) : Bool :=
  match Text.splitAt ':' text with
  | first :: second :: rest => isFirst first && (second :: rest).all isSixtieth
  | _ => false

/-- Whether a text is a number with a point. -/
def isFloatText (text : List Char) : Bool :=
  let size := (Text.signed text).2
  let whole := size.takeWhile (· != '.')
  match size.dropWhile (· != '.') with
  | [] => false
  | _ :: fraction =>
    let exponent := fraction.dropWhile isDigitOrLine
    (isDigits whole && isExponent exponent) ||
      (text.head? == some '.' && isDigits (fraction.takeWhile isDigitOrLine) &&
        isExponent exponent) ||
      (isSexagesimal isDigits whole && exponent.isEmpty) ||
      (whole.isEmpty && ["inf".toList, "Inf".toList, "INF".toList].contains fraction) ||
      (text.head? == some '.' && ["nan".toList, "NaN".toList, "NAN".toList].contains fraction)

/-- Whether a text is a number without a zero at its front. -/
def isDecimal (text : List Char) : Bool :=
  isDigits text && text.head? != some '0'

/-- Whether a text is an integer: binary, octal, decimal, hexadecimal or in sixtieths. -/
def isIntText (text : List Char) : Bool :=
  let size := (Text.signed text).2
  let isAll := fun (p : Char → Bool) (digits : List Char) => !digits.isEmpty && digits.all p
  size == ['0'] || isDecimal size || isSexagesimal isDecimal size ||
    match size with
    | '0' :: 'b' :: digits => isAll (fun c => c == '0' || c == '1' || c == '_') digits
    | '0' :: 'x' :: digits => isAll (fun c => Url.isHexDigit c || c == '_') digits
    | '0' :: digits => isAll (fun c => ('0' ≤ c && c ≤ '7') || c == '_') digits
    | _ => false

/-- A timestamp as it is written. -/
structure TimestampText where
  year : Nat
  month : Nat
  day : Nat
  /-- Whether month and day have two digits. -/
  isFull : Bool
  time : Option (Nat × Nat × Nat × Nat)
  /-- The seconds east of universal time. -/
  offset : Option Int

/-- The number of at least and at most so many digits at the front of a text, how many there are,
and what follows. -/
def digitsAt? (least most : Nat) (text : List Char) : Option (Nat × Nat × List Char) :=
  let digits := (text.take most).takeWhile Char.isDigit
  if digits.length < least then none
  else some (Text.natOfDigits digits, digits.length, text.drop digits.length)

/-- What follows a character at the front of a text. -/
def after? (c : Char) : List Char → Option (List Char)
  | [] => none
  | d :: rest => if d = c then some rest else none

/-- The microseconds of a fraction of a second. -/
def microseconds (digits : List Char) : Nat :=
  let digits := digits.take 6
  Text.natOfDigits (digits ++ List.replicate (6 - digits.length) '0')

/-- The offset that a whole text writes after a time: nothing, `Z`, or a sign, hours and minutes. -/
def offsetText? (text : List Char) : Option (Option Int) :=
  match text.dropWhile fun c => c == ' ' || c == '\t' with
  | [] => if text.isEmpty then some none else none
  | ['Z'] => some (some 0)
  | sign :: rest => do
    if sign != '-' && sign != '+' then none
    let (hours, _, rest) ← digitsAt? 1 2 rest
    let minutes ← match rest with
      | [] => some 0
      | ':' :: rest => (digitsAt? 2 2 rest).bind fun (m, _, rest) =>
        if rest.isEmpty then some m else none
      | _ => none
    let seconds : Int := (hours * 60 + minutes) * 60
    some (some (if sign == '-' then -seconds else seconds))

/-- The time of day and offset that a whole text writes. -/
def timeText? (text : List Char) : Option ((Nat × Nat × Nat × Nat) × Option Int) := do
  let (hour, _, text) ← digitsAt? 1 2 text
  let (minute, _, text) ← digitsAt? 2 2 (← after? ':' text)
  let (second, _, text) ← digitsAt? 2 2 (← after? ':' text)
  match text with
  | '.' :: rest =>
    let digits := rest.takeWhile Char.isDigit
    let offset ← offsetText? (rest.dropWhile Char.isDigit)
    some ((hour, minute, second, microseconds digits), offset)
  | text =>
    let offset ← offsetText? text
    some ((hour, minute, second, 0), offset)

/-- The time of day that a whole text writes after a date, with the gap before it. -/
def gapTimeText? : List Char → Option ((Nat × Nat × Nat × Nat) × Option Int)
  | 'T' :: rest => timeText? rest
  | 't' :: rest => timeText? rest
  | c :: rest =>
    if c == ' ' || c == '\t' then timeText? (rest.dropWhile fun c => c == ' ' || c == '\t')
    else none
  | [] => none

/-- The timestamp that a whole text writes. -/
def timestampText? (text : List Char) : Option TimestampText := do
  let (year, _, text) ← digitsAt? 4 4 text
  let (month, monthWidth, text) ← digitsAt? 1 2 (← after? '-' text)
  let (day, dayWidth, text) ← digitsAt? 1 2 (← after? '-' text)
  let isFull := monthWidth == 2 && dayWidth == 2
  if text.isEmpty then some ⟨year, month, day, isFull, none, none⟩
  else
    let (time, offset) ← gapTimeText? text
    some ⟨year, month, day, isFull, some time, offset⟩

/-- Whether a text is a timestamp by its form: a date alone has two digits for month and day. -/
def isTimestampText (text : List Char) : Bool :=
  (timestampText? text).any fun t => t.isFull || t.time.isSome

/-- The tag of a plain scalar. A mark of tags, anchors or aliases alone has one without meaning. -/
def Tag.ofPlain (s : String) : Tag :=
  if s.isEmpty then .null
  else if s = "\n" then .text
  else
    let text := Text.withoutFinalBreak s.toList
    let word := String.ofList text
    if boolWords.contains word then .bool
    else if isFloatText text then .float
    else if isIntText text then .int
    else if word = "<<" then .merge
    else if nullWords.contains word then .null
    else if isTimestampText text then .timestamp
    else if word = "=" then .value
    else if ["!", "&", "*"].contains word then .unknown
    else .text

end ClientSynth.Yaml
