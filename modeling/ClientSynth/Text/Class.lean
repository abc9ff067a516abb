import ClientSynth.Text.ClassTable

/-!
# Character classes

Every rule that looks at kinds of characters takes its class from here. Two kinds of blank are
distinguished: `isSpace`, which words and blank texts go by, and `isWhiteSpace`, the Unicode
property, which numbers in texts go by. They differ in the four information separators.
-/

namespace ClientSynth.Text

/-- Whether a code point lies in one of the inclusive ranges. -/
def inRanges (ranges : List (Nat × Nat)) (n : Nat) : Bool :=
  ranges.any fun r => r.1 ≤ n && n ≤ r.2

/-- The property `White_Space`. -/
def isWhiteSpace (c : Char) : Bool :=
  let n := c.toNat
  (0x09 ≤ n && n ≤ 0x0D) || n == 0x20 || n == 0x85 || n == 0xA0 || n == 0x1680 ||
    (0x2000 ≤ n && n ≤ 0x200A) || n == 0x2028 || n == 0x2029 || n == 0x202F || n == 0x205F ||
    n == 0x3000

/-- White space, or one of the four information separators. -/
def isSpace (c : Char) : Bool :=
  isWhiteSpace c || (0x1C ≤ c.toNat && c.toNat ≤ 0x1F)

/-- Whether a text has no character but spaces. -/
def isBlank (text : List Char) : Bool :=
  text.all isSpace

/-- A decimal digit of any script. -/
def isDecimalDigit (c : Char) : Bool :=
  if c.toNat < 128 then c.isDigit else inRanges decimalDigitRanges c.toNat

/-- The ASCII digit for a decimal digit of any script, and any other character itself. The digits of
a script follow each other from zero to nine. -/
def asciiDigit (c : Char) : Char :=
  match decimalDigitRanges.find? fun r => r.1 ≤ c.toNat && c.toNat ≤ r.2 with
  | some r => Char.ofNat ('0'.toNat + (c.toNat - r.1) % 10)
  | none => c

/-- A letter, a number of any kind, or an underscore. -/
def isWordChar (c : Char) : Bool :=
  if c.toNat < 128 then c.isAlphanum || c == '_' else inRanges wordRanges c.toNat

/-- A cased character that is not case-ignorable. -/
def isCased (c : Char) : Bool :=
  inRanges casedRanges c.toNat

/-- A character that the context of a letter skips. -/
def isCaseIgnorable (c : Char) : Bool :=
  inRanges caseIgnorableRanges c.toNat

/-- Whether a quoted text shows the character as it is. -/
def isPrintable (c : Char) : Bool :=
  !inRanges unprintableRanges c.toNat

/-- Whether the compatibility form of a character other than `/`, `?`, `#`, `@` and `:` contains
one of these. -/
def isDisguisedDelimiter (c : Char) : Bool :=
  inRanges disguisedDelimiterRanges c.toNat

/-- Whether the character is an ASCII letter or digit. -/
def isAlnum (c : Char) : Bool :=
  c.isAlphanum

/-- Whether the word `word` occurs in the text with no word character next to it. -/
def hasWord (word : List Char) (text : List Char) : Bool :=
  go false text
where
  /-- Searches a rest of the text; `joined` tells whether a word character stands before it. -/
  go (joined : Bool) : List Char → Bool
    | [] => false
    | c :: rest =>
      (!joined && word.isPrefixOf (c :: rest) &&
        !(((c :: rest).drop word.length).head?.any isWordChar)) ||
      go (isWordChar c) rest

end ClientSynth.Text
