import ClientSynth.Value
import ClientSynth.Text.Class

/-!
# Reading JSON

`Json.parse` reads a text that holds one JSON value, and `Json.Fault` is what stops it: a problem
and the place of it. The words `NaN`, `Infinity` and `-Infinity` are numbers. Every reading step
returns what it leaves, which is shorter than what it was given.
-/

namespace ClientSynth.Json

/-- What is wrong at a place of a JSON text. -/
inductive Problem where
  | valueExpected
  | nameExpected
  | colonExpected
  | commaExpected
  | extraData
  | unterminatedText
  | controlCharacter
  | badEscape
  | badCodeEscape
  | byteOrderMark
  deriving DecidableEq

/-- The text of a problem. -/
def Problem.message : Problem → String
  | .valueExpected => "Expecting value"
  | .nameExpected => "Expecting property name enclosed in double quotes"
  | .colonExpected => "Expecting ':' delimiter"
  | .commaExpected => "Expecting ',' delimiter"
  | .extraData => "Extra data"
  | .unterminatedText => "Unterminated string starting at"
  | .controlCharacter => "Invalid control character at"
  | .badEscape => "Invalid \\escape"
  | .badCodeEscape => "Invalid \\uXXXX escape"
  | .byteOrderMark => "Unexpected UTF-8 BOM (decode using utf-8-sig)"

/-- A stop of the reader: at a problem, with the number of characters from it to the end, or at an
integer with more digits than are read. -/
inductive Stop where
  | problem (problem : Problem) (remaining : Nat)
  | tooManyDigits (digits : Nat)
  deriving DecidableEq

/-- What is left of a text of which a part was read. -/
abbrev Rest (text : List Char) : Type :=
  { rest : List Char // rest.length < text.length }

/-- What is left of a part of a text is left of the text. -/
def Rest.within {part text : List Char} (rest : Rest part) (shorter : part.length < text.length) :
    Rest text :=
  ⟨rest.1, Nat.lt_trans rest.2 shorter⟩

/-- What is left of a text is left of it with characters in front. -/
def Rest.behind {text : List Char} (rest : Rest text) (front : List Char) : Rest (front ++ text) :=
  ⟨rest.1, by have := rest.2; rw [List.length_append]; omega⟩

/-- White space between the tokens. -/
def isGap (c : Char) : Bool :=
  c == ' ' || c == '\t' || c == '\n' || c == '\r'

/-- Drops the white space at the front. -/
def skipGap (text : List Char) : List Char :=
  text.dropWhile isGap

theorem skipGap_length_le (text : List Char) : (skipGap text).length ≤ text.length :=
  (List.dropWhile_suffix _).length_le

/-- The value of a hexadecimal digit. -/
def hexDigit? (c : Char) : Option Nat :=
  if '0' ≤ c ∧ c ≤ '9' then some (c.toNat - '0'.toNat)
  else if 'a' ≤ c ∧ c ≤ 'f' then some (c.toNat - 'a'.toNat + 10)
  else if 'A' ≤ c ∧ c ≤ 'F' then some (c.toNat - 'A'.toNat + 10)
  else none

/-- The number that four hexadecimal digits spell. -/
def hexCode? (a b c d : Char) : Option Nat := do
  let a ← hexDigit? a
  let b ← hexDigit? b
  let c ← hexDigit? c
  let d ← hexDigit? d
  pure (((a * 16 + b) * 16 + c) * 16 + d)

/-- The character of a one-letter escape. -/
def escape? : Char → Option Char
  | '"' => some '"'
  | '\\' => some '\\'
  | '/' => some '/'
  | 'b' => some '\x08'
  | 'f' => some '\x0c'
  | 'n' => some '\n'
  | 'r' => some '\r'
  | 't' => some '\t'
  | _ => none

/-- Whether a code unit is the first half of a surrogate pair. -/
def isHighSurrogate (n : Nat) : Bool :=
  0xD800 ≤ n && n ≤ 0xDBFF

/-- Whether a code unit is the second half of a surrogate pair. -/
def isLowSurrogate (n : Nat) : Bool :=
  0xDC00 ≤ n && n ≤ 0xDFFF

/-- Whether a code unit is half a surrogate pair. -/
def isHalf (n : Nat) : Bool :=
  isHighSurrogate n || isLowSurrogate n

/-- The character of a code unit. No text here can hold half a surrogate pair, which is read as the
replacement character; `spellsHalf` tells of the texts where that happens. -/
def unitChar (n : Nat) : Char :=
  if 0xD800 ≤ n && n ≤ 0xDFFF then '\uFFFD' else Char.ofNat n

/-- Whether a text has an escape for half a surrogate pair, and none for the other half next to it.
-/
def spellsHalf : List Char → Bool
  | [] => false
  | '\\' :: 'u' :: a :: b :: c :: d :: '\\' :: 'u' :: e :: f :: g :: h :: rest =>
    if (hexCode? a b c d).any isHighSurrogate && (hexCode? e f g h).any isLowSurrogate then
      spellsHalf rest
    else (hexCode? a b c d).any isHalf || spellsHalf ('\\' :: 'u' :: e :: f :: g :: h :: rest)
  | '\\' :: 'u' :: a :: b :: c :: d :: rest => (hexCode? a b c d).any isHalf || spellsHalf rest
  | '\\' :: _ :: rest => spellsHalf rest
  | _ :: rest => spellsHalf rest

/-- The character of a surrogate pair. -/
def pairChar (high low : Nat) : Char :=
  Char.ofNat (0x10000 + (high - 0xD800) * 0x400 + (low - 0xDC00))

/-- The characters of a quoted text after its opening quote, and what follows its closing quote. A
code escape is read only when a character follows it. -/
def textBody : (text : List Char) → Except Stop (List Char × Rest text)
  | [] => .error (.problem .unterminatedText 0)
  | '"' :: rest => .ok ([], ⟨rest, Nat.lt_succ_self _⟩)
  | ['\\'] => .error (.problem .unterminatedText 0)
  | '\\' :: 'u' :: a :: b :: c :: d :: rest =>
    if rest.isEmpty then .error (.problem .badCodeEscape 5)
    else match hexCode? a b c d with
      | none => .error (.problem .badCodeEscape (rest.length + 5))
      | some unit =>
        match rest with
        | '\\' :: 'u' :: e :: f :: g :: h :: later =>
          if isHighSurrogate unit && !later.isEmpty then
            match hexCode? e f g h with
            | none => .error (.problem .badCodeEscape (later.length + 5))
            | some low =>
              if isLowSurrogate low then
                (textBody later).map fun (body, r) =>
                  (pairChar unit low :: body,
                    r.behind ['\\', 'u', a, b, c, d, '\\', 'u', e, f, g, h])
              else
                (textBody ('\\' :: 'u' :: e :: f :: g :: h :: later)).map fun (body, r) =>
                  (unitChar unit :: body, r.behind ['\\', 'u', a, b, c, d])
          else
            (textBody ('\\' :: 'u' :: e :: f :: g :: h :: later)).map fun (body, r) =>
              (unitChar unit :: body, r.behind ['\\', 'u', a, b, c, d])
        | rest =>
          (textBody rest).map fun (body, r) =>
            (unitChar unit :: body, r.behind ['\\', 'u', a, b, c, d])
  | '\\' :: 'u' :: rest => .error (.problem .badCodeEscape (rest.length + 1))
  | '\\' :: letter :: rest =>
    match escape? letter with
    | none => .error (.problem .badEscape (rest.length + 2))
    | some c =>
      (textBody rest).map fun (body, r) => (c :: body, r.behind ['\\', letter])
  | c :: rest =>
    if c.toNat ≤ 0x1F then .error (.problem .controlCharacter (rest.length + 1))
    else (textBody rest).map fun (body, r) => (c :: body, r.behind [c])
termination_by text => text.length
decreasing_by all_goals simp only [List.length_cons]; omega

/-- A quoted text after its opening quote; one without an end is a problem of the opening quote. -/
def quoted (text : List Char) : Except Stop (String × Rest text) :=
  match textBody text with
  | .error (.problem .unterminatedText _) => .error (.problem .unterminatedText (text.length + 1))
  | .error stop => .error stop
  | .ok (body, rest) => .ok (String.ofList body, rest)

/-- A number as it is written: its sign, whole digits, fraction and exponent. -/
structure Numeral where
  negative : Bool
  whole : List Char
  fraction : Option (List Char)
  exponent : Option (Bool × List Char)

/-- The fraction at the front of a text: a point and at least one digit. -/
def fraction? : List Char → Option (List Char)
  | '.' :: rest =>
    let digits := rest.takeWhile Char.isDigit
    if digits.isEmpty then none else some digits
  | _ => none

/-- The exponent at the front of a text, negative or not, and the length of its mark and sign. -/
def exponent? : List Char → Option (Bool × List Char × Nat)
  | c :: rest =>
    if c == 'e' || c == 'E' then
      let (negative, digits, width) := match rest with
        | '-' :: rest => (true, rest.takeWhile Char.isDigit, 2)
        | '+' :: rest => (false, rest.takeWhile Char.isDigit, 2)
        | rest => (false, rest.takeWhile Char.isDigit, 1)
      if digits.isEmpty then none else some (negative, digits, width)
    else none
  | [] => none

/-- The numeral at the front of a text, and its length. A whole part of several digits does not
start with a zero: the zero alone is the numeral. -/
def numeral? (text : List Char) : Option (Numeral × Nat) :=
  let negative := text.head? == some '-'
  let sign := if negative then 1 else 0
  let text := text.drop sign
  let digits := text.takeWhile Char.isDigit
  let whole := if digits.head? == some '0' then ['0'] else digits
  if whole.isEmpty then none
  else
    let text := text.drop whole.length
    let fraction := fraction? text
    let fractionWidth := (fraction.map fun f => f.length + 1).getD 0
    let text := text.drop fractionWidth
    let exponent := exponent? text
    let exponentWidth := (exponent.map fun e => e.2.1.length + e.2.2).getD 0
    some (⟨negative, whole, fraction, exponent.map fun e => (e.1, e.2.1)⟩,
      sign + whole.length + fractionWidth + exponentWidth)

/-- The value of a numeral: an integer when it has neither fraction nor exponent. -/
def Numeral.value (n : Numeral) : Except Stop Value :=
  match n.fraction, n.exponent with
  | none, none =>
    if Text.maxDigits < n.whole.length then .error (.tooManyDigits n.whole.length)
    else
      let size : Int := Text.natOfDigits n.whole
      .ok (.int (if n.negative then -size else size))
  | fraction, exponent =>
    let fraction := fraction.getD []
    let power : Int := match exponent with
      | none => 0
      | some (true, digits) => -Text.natOfDigits digits
      | some (false, digits) => Text.natOfDigits digits
    .ok (.float (Binary64.ofDecimal n.negative (Text.natOfDigits (n.whole ++ fraction))
      (power - fraction.length)))

/-- The words that are values. -/
def words : List (String × Value) :=
  [("null", .null), ("true", .bool true), ("false", .bool false), ("NaN", .float Binary64.nan),
   ("Infinity", .float (Binary64.infinity false)),
   ("-Infinity", .float (Binary64.infinity true))]

/-- The word at the front of a text. -/
def word? (text : List Char) : Option (Value × Nat) :=
  words.findSome? fun w =>
    if w.1.toList.isPrefixOf text then some (w.2, w.1.length) else none

/-- A value without parts at the front of a text that is neither a text nor a collection. -/
def plain (text : List Char) : Except Stop (Value × Rest text) :=
  match word? text, numeral? text with
  | some (value, width), _ =>
    if h : (text.drop width).length < text.length then .ok (value, ⟨text.drop width, h⟩)
    else .error (.problem .valueExpected text.length)
  | none, some (numeral, width) =>
    if h : (text.drop width).length < text.length then
      numeral.value.map fun value => (value, ⟨text.drop width, h⟩)
    else .error (.problem .valueExpected text.length)
  | none, none => .error (.problem .valueExpected text.length)

mutual

/-- The value at the front of a text. -/
def value (text : List Char) : Except Stop (Value × Rest text) :=
  match text with
  | '"' :: rest =>
    match quoted rest with
    | .error stop => .error stop
    | .ok (s, after) => .ok (.text s, after.within (by simp only [List.length_cons]; omega))
  | '{' :: rest =>
    have := skipGap_length_le rest
    if h : (skipGap rest).head? = some '}' then
      .ok (.map [], ⟨(skipGap rest).tail, by simp; omega⟩)
    else
      match members (skipGap rest) with
      | .error stop => .error stop
      | .ok (entries, after) =>
        .ok (.map (distinctEntries entries), after.within (by simp only [List.length_cons]; omega))
  | '[' :: rest =>
    have := skipGap_length_le rest
    if h : (skipGap rest).head? = some ']' then
      .ok (.list [], ⟨(skipGap rest).tail, by simp; omega⟩)
    else
      match items (skipGap rest) with
      | .error stop => .error stop
      | .ok (values, after) =>
        .ok (.list values, after.within (by simp only [List.length_cons]; omega))
  | text => plain text
termination_by (text.length, 0)

/-- The items of a list from one of them on, up to the closing bracket. -/
def items (text : List Char) : Except Stop (List Value × Rest text) :=
  match value text with
  | .error stop => .error stop
  | .ok (first, after) =>
    have := after.2
    have := skipGap_length_le after.1
    match h : skipGap after.1 with
    | ']' :: rest => .ok ([first], ⟨rest, by rw [h] at this; simp at this; omega⟩)
    | ',' :: rest =>
      have := skipGap_length_le rest
      have : (skipGap rest).length < text.length := by simp_all; omega
      match items (skipGap rest) with
      | .error stop => .error stop
      | .ok (later, last) => .ok (first :: later, last.within this)
    | rest => .error (.problem .commaExpected rest.length)
termination_by (text.length, 1)

/-- The members of an object from one of them on, up to the closing brace. -/
def members (text : List Char) : Except Stop (List (Scalar × Value) × Rest text) :=
  match text with
  | '"' :: rest =>
    match quoted rest with
    | .error stop => .error stop
    | .ok (name, afterName) =>
      have := afterName.2
      have := skipGap_length_le afterName.1
      match hc : skipGap afterName.1 with
      | ':' :: afterColon =>
        have := skipGap_length_le afterColon
        have : (skipGap afterColon).length < rest.length := by simp_all; omega
        match value (skipGap afterColon) with
        | .error stop => .error stop
        | .ok (first, after) =>
          have := after.2
          have := skipGap_length_le after.1
          match h : skipGap after.1 with
          | '}' :: last => .ok ([(.text name, first)], ⟨last, by simp_all; omega⟩)
          | ',' :: next =>
            have := skipGap_length_le next
            have : (skipGap next).length < rest.length := by simp_all; omega
            match members (skipGap next) with
            | .error stop => .error stop
            | .ok (later, last) =>
              .ok ((.text name, first) :: later,
                last.within (by simp only [List.length_cons]; omega))
          | last => .error (.problem .commaExpected last.length)
      | last => .error (.problem .colonExpected last.length)
  | text => .error (.problem .nameExpected text.length)
termination_by (text.length, 1)

end

/-- A place of a text: its line and column, counted from one, and its index. -/
structure Place where
  line : Nat
  column : Nat
  index : Nat
  deriving DecidableEq

/-- The place after the first `index` characters. -/
def placeAt (text : List Char) (index : Nat) : Place :=
  let before := text.take index
  ⟨before.count '\n' + 1, (before.reverse.takeWhile (· != '\n')).length + 1, index⟩

/-- Why a text is no JSON value. -/
inductive Fault where
  | problem (problem : Problem) (place : Place)
  | tooManyDigits (digits : Nat)
  deriving DecidableEq

/-- The text of a fault. -/
def Fault.message : Fault → String
  | .problem p place =>
    p.message ++ ": line " ++ Text.ofNat place.line ++ " column " ++ Text.ofNat place.column ++
      " (char " ++ Text.ofNat place.index ++ ")"
  | .tooManyDigits n => Text.digitsMessage (": value has " ++ Text.ofNat n ++ " digits")

/-- Reads a text that holds one value, and white space around it. -/
def parseChars (text : List Char) : Except Stop Value :=
  if text.head? = some '\uFEFF' then .error (.problem .byteOrderMark text.length)
  else match value (skipGap text) with
    | .error stop => .error stop
    | .ok (v, after) =>
      let rest := skipGap after.1
      if rest.isEmpty then .ok v else .error (.problem .extraData rest.length)

/-- The JSON value that a text holds. -/
def parse (text : String) : Except Fault Value :=
  match parseChars text.toList with
  | .ok v => .ok v
  | .error (.tooManyDigits n) => .error (.tooManyDigits n)
  | .error (.problem p remaining) =>
    .error (.problem p (placeAt text.toList (text.length - remaining)))

end ClientSynth.Json
