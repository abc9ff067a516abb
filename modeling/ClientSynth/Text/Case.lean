import ClientSynth.Text.CaseTable
import ClientSynth.Text.Class

/-!
# Full case mapping

`upper` and `lower` map a text to upper and lower case. A character may become several, and a
capital sigma at the end of a word becomes the final small sigma.
-/

namespace ClientSynth.Text

/-- The image of a code point under runs of one-to-one mappings. -/
def CaseRun.image (runs : List CaseRun) (n : Nat) : Nat :=
  match runs.find? fun r => r.first ≤ n && n ≤ r.last && (n - r.first) % r.stride == 0 with
  | some r => ((n : Int) + r.shift).toNat
  | none => n

/-- The upper-case image of one character. -/
def upperChar (c : Char) : List Char :=
  if c.toNat < 128 then [c.toUpper]
  else match upperSpecials.lookup c.toNat with
    | some image => image.map Char.ofNat
    | none => [Char.ofNat (CaseRun.image upperRuns c.toNat)]

/-- The lower-case image of one character away from any context. -/
def lowerChar (c : Char) : List Char :=
  if c.toNat < 128 then [c.toLower]
  else match lowerSpecials.lookup c.toNat with
    | some image => image.map Char.ofNat
    | none => [Char.ofNat (CaseRun.image lowerRuns c.toNat)]

/-- A text in upper case. -/
def upper (text : List Char) : List Char :=
  text.flatMap upperChar

/-- Whether the nearest character that is not case-ignorable is cased. -/
def nextIsCased (text : List Char) : Bool :=
  (text.dropWhile isCaseIgnorable).head?.any isCased

/-- A rest of a text in lower case; `before` holds the characters before it, nearest first. -/
def lowerAfter (before : List Char) : List Char → List Char
  | [] => []
  | c :: rest =>
    (if c = 'Σ' then [if nextIsCased before && !nextIsCased rest then 'ς' else 'σ']
      else lowerChar c) ++ lowerAfter (c :: before) rest

/-- A text in lower case. -/
def lower (text : List Char) : List Char :=
  lowerAfter [] text

/-- A string in upper case. -/
def upperString (text : String) : String :=
  String.ofList (upper text.toList)

/-- A string in lower case. -/
def lowerString (text : String) : String :=
  String.ofList (lower text.toList)

end ClientSynth.Text
