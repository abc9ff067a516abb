/-!
# Words, lines and occurrences in a text

Texts are lists of characters. `runs` cuts a text into its maximal runs of wanted characters, `trim`
drops unwanted characters at both ends, `replacing` puts a text for each character, and `occursIn`
searches for a text.
-/

namespace ClientSynth.Text

/-- The run at the front of a text, and the later non-empty maximal runs, of characters with `p`. -/
def frontRun (p : Char → Bool) : List Char → List Char × List (List Char)
  | [] => ([], [])
  | c :: rest =>
    let (front, later) := frontRun p rest
    if p c then (c :: front, later)
    else ([], if front.isEmpty then later else front :: later)

/-- The non-empty maximal runs of characters with `p`, in order. -/
def runs (p : Char → Bool) (text : List Char) : List (List Char) :=
  let (front, later) := frontRun p text
  if front.isEmpty then later else front :: later

/-- Drops the characters with `p` at the end. -/
def trimRight (p : Char → Bool) (text : List Char) : List Char :=
  (text.reverse.dropWhile p).reverse

/-- Drops the characters with `p` at both ends. -/
def trim (p : Char → Bool) (text : List Char) : List Char :=
  trimRight p (text.dropWhile p)

/-- Puts `image c` for each character `c`. -/
def replacing (image : Char → List Char) (text : List Char) : List Char :=
  text.flatMap image

/-- Whether `part` occurs in the text. -/
def occursIn (part : List Char) : List Char → Bool
  | [] => part.isEmpty
  | c :: rest => part.isPrefixOf (c :: rest) || occursIn part rest

/-- Cuts a text at every occurrence of one character. -/
def splitAt (mark : Char) : List Char → List (List Char)
  | [] => [[]]
  | c :: rest =>
    if c = mark then [] :: splitAt mark rest
    else match splitAt mark rest with
      | [] => [[c]]
      | first :: later => (c :: first) :: later

/-- Joins texts with a separator between neighbours. -/
def join (separator : List Char) : List (List Char) → List Char
  | [] => []
  | [text] => text
  | text :: rest => text ++ separator ++ join separator rest

/-- Whether a character ends a line on a terminal, a page or in a record. -/
def isLineEnd (c : Char) : Bool :=
  let n := c.toNat
  (0x0A ≤ n && n ≤ 0x0D) || (0x1C ≤ n && n ≤ 0x1E) || n == 0x85 || n == 0x2028 || n == 0x2029

/-- The lines of a text without their ends; a carriage return and the line feed after it are one
end, and a text that ends with a line end has no further line. -/
def lines : List Char → List (List Char)
  | [] => []
  | '\r' :: '\n' :: rest => [] :: lines rest
  | c :: rest =>
    if isLineEnd c then [] :: lines rest
    else match rest with
      | [] => [[c]]
      | d :: _ =>
        if isLineEnd d then [c] :: (lines rest).tail
        else match lines rest with
          | [] => [[c]]
          | first :: later => (c :: first) :: later

/-- A text without one line feed at its end. -/
def withoutFinalBreak (text : List Char) : List Char :=
  if text.getLast? = some '\n' then text.dropLast else text

/-- Each line followed by a line feed. -/
def unlines (texts : List String) : String :=
  texts.foldr (fun text rest => text ++ "\n" ++ rest) ""

/-- A text whose carriage returns, alone or before a line feed, are line feeds. -/
def lineFeeds : List Char → List Char
  | [] => []
  | '\r' :: '\n' :: rest => '\n' :: lineFeeds rest
  | c :: rest => (if c = '\r' then '\n' else c) :: lineFeeds rest

/-- Decimal digits of a number. -/
def ofNat (n : Nat) : String :=
  String.ofList (Nat.toDigits 10 n)

/-- Decimal digits of an integer, after a minus sign when it is negative. -/
def ofInt : Int → String
  | .ofNat n => ofNat n
  | .negSucc n => "-" ++ ofNat (n + 1)

/-- The number that a list of decimal digits spells. -/
def natOfDigits (digits : List Char) : Nat :=
  digits.foldl (fun n c => 10 * n + (c.toNat - '0'.toNat)) 0

/-- Whether a text is one or more decimal digits. -/
def isNumeral (text : List Char) : Bool :=
  !text.isEmpty && text.all Char.isDigit

/-- A text without its underscores, none of which may stand at an end or beside another. -/
def ungrouped? (text : List Char) : Option (List Char) :=
  let groups := splitAt '_' text
  if groups.all fun g => !g.isEmpty then some groups.flatten else none

/-- The greatest number of digits that are converted between integers and texts. -/
def maxDigits : Nat := 4300

/-- What is said where an integer has more digits; `value` may tell how many. -/
def digitsMessage (value : String) : String :=
  "Exceeds the limit (" ++ ofNat maxDigits ++ " digits) for integer string conversion" ++ value ++
    "; use sys.set_int_max_str_digits() to increase the limit"

/-- Whether an integer has more digits. -/
def isOversized (n : Int) : Bool :=
  maxDigits < (Nat.toDigits 10 n.natAbs).length

/-- Whether a minus is at the front of a text, and the text without one sign at its front. -/
def signed : List Char → Bool × List Char
  | '-' :: rest => (true, rest)
  | '+' :: rest => (false, rest)
  | text => (false, text)

/-- The decimal digits of a number, padded with zeros to a width. -/
def padded (width n : Nat) : String :=
  let digits := Nat.toDigits 10 n
  String.ofList (List.replicate (width - digits.length) '0' ++ digits)

end ClientSynth.Text
