import ClientSynth.Binary64.Reader
import ClientSynth.Json.Reader
import ClientSynth.Text.Base64
import ClientSynth.Text.Case
import ClientSynth.Yaml.Resolve
import ClientSynth.Yaml.Cursor

/-!
# Scalars of a tag

What a scalar stands for under its tag. Numbers may have underscores anywhere. An integer has base
2, 8 or 16 by its front, and colons in a number divide parts of sixty.
-/

namespace ClientSynth.Yaml

/-- The digit of a character in a base up to 16. -/
def digitIn? (base : Nat) (c : Char) : Option Nat :=
  (Json.hexDigit? c).filter (· < base)

/-- Digits without a mark of their base at the front. -/
def withoutBaseMark (base : Nat) (text : List Char) : List Char :=
  match text with
  | '0' :: mark :: rest =>
    if (base = 2 ∧ mark.toLower = 'b') ∨ (base = 8 ∧ mark.toLower = 'o') ∨
        (base = 16 ∧ mark.toLower = 'x') then rest
    else text
  | _ => text

/-- The integer that a text writes in a base: blanks around it, a sign and digits. -/
def integerIn (base : Nat) (text : List Char) : Except Fault Int :=
  let (negative, size) := Text.signed (Text.trim Text.isWhiteSpace (text.map Text.asciiDigit))
  let digits := withoutBaseMark base size
  let front := digits.takeWhile fun c => (digitIn? base c).isSome
  if base = 10 ∧ Text.maxDigits < front.length then .error (.tooManyDigits front.length)
  else if digits.isEmpty ∨ front.length < digits.length then
    .error (.badInteger base (String.ofList text))
  else
    let n : Int := digits.foldl (fun n c => n * base + (digitIn? base c).getD 0) 0
    .ok (if negative then -n else n)

/-- The integer that a text without a sign writes. -/
def integerSize (text : List Char) : Except Fault Int :=
  match text with
  | [] => .error .emptyNumber
  | ['0'] => .ok 0
  | '0' :: 'b' :: digits => integerIn 2 digits
  | '0' :: 'x' :: digits => integerIn 16 digits
  | '0' :: _ => integerIn 8 text
  | _ =>
    ((Text.splitAt ':' text).mapM (integerIn 10)).map fun parts =>
      parts.foldl (fun n part => n * 60 + part) 0

/-- The integer that a text writes. -/
def integer (text : List Char) : Except Fault Int :=
  let (negative, size) := Text.signed (text.filter (· != '_'))
  (integerSize size).map fun n => if negative then -n else n

/-- The double that a text writes: blanks around it, a sign and a size. -/
def double (text : List Char) : Except Fault Binary64 :=
  match Binary64.ofText? (Text.trim Text.isWhiteSpace (text.map Text.asciiDigit)) with
  | some x => .ok x
  | none => .error (.badFloat (String.ofList text))

/-- The value of each place of a number with so many parts of sixty, from the last one on. -/
def placeValues (parts : Nat) : List Binary64 :=
  (List.range parts).map fun place => Binary64.ofInt (Int.pow 60 place)

/-- The sum of parts of sixty, from the last one on. All places have to be in the range of doubles.
-/
def sixties (parts : List Binary64) : Except Fault Binary64 :=
  let values := placeValues parts.length
  if values.all Binary64.isFinite then
    .ok (((parts.reverse.zip values).map fun (part, value) => part.mul value).foldl
      Binary64.add (Binary64.ofInt 0))
  else .error .tooManyParts

/-- The double that a text in lower case without a sign writes. What is not a number is told apart
by the number of its node, unless it is written by its word. -/
def numberSize (node : Nat) (text : List Char) : Except Fault Binary64 :=
  let known := fun (x : Binary64) => if x.isNaN then Binary64.nanOf node else x
  if text = ".inf".toList then .ok (Binary64.infinity false)
  else if text = ".nan".toList then .ok Binary64.nan
  else match Text.splitAt ':' text with
    | [whole] => (double whole).map known
    | parts => do
      let x ← sixties (← parts.mapM double)
      .ok (known x)

/-- The double that the text of a node writes. -/
def number (node : Nat) (text : List Char) : Except Fault Binary64 :=
  match Text.lower (text.filter (· != '_')) with
  | [] => .error .emptyNumber
  | text =>
    let (negative, size) := Text.signed text
    (numberSize node size).map fun x => if negative && !x.isNaN then x.neg else x

/-- The truth value of a word. -/
def truth (text : List Char) : Except Fault Bool :=
  let word := String.ofList (Text.lower text)
  if ["yes", "true", "on"].contains word then .ok true
  else if ["no", "false", "off"].contains word then .ok false
  else .error (.badBool word)

/-- The date or moment that a text writes. -/
def timestampScalar (text : List Char) : Except Fault Scalar :=
  match timestampText? (Text.withoutFinalBreak text) with
  | none => .error .badTimestamp
  | some t =>
    match t.time with
    | none => ((Date.make? t.year t.month t.day).mapError .calendar).map .date
    | some (hour, minute, second, microsecond) =>
      ((Moment.make? t.year t.month t.day hour minute second microsecond t.offset).mapError
        .calendar).map .moment

/-- What the text of a node stands for. -/
def Tag.scalar (tag : Tag) (node : Nat) (text : String) : Except Fault Scalar :=
  match tag with
  | .null => .ok .null
  | .bool => (truth text.toList).map .bool
  | .int => (integer text.toList).map .int
  | .float => (number node text.toList).map .float
  | .binary =>
    match if text.toList.all (·.toNat < 128) then Text.base64? text.toList else none with
    | some bytes => .ok (.bytes bytes)
    | none => .error .malformed
  | .timestamp => timestampScalar text.toList
  | .text => .ok (.text text)
  | _ => .error .malformed

end ClientSynth.Yaml
