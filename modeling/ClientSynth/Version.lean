import ClientSynth.Text.Basic
import ClientSynth.Text.Class

/-!
# Version numbers

`Version.isVersion` tells whether a text is a version: three numbers with points between them, and
possibly a label after a hyphen. Digits may be of any script, and a line feed may end the text.
-/

namespace ClientSynth.Version

/-- A character of a label. -/
def isLabelChar (c : Char) : Bool :=
  c.isAlphanum || c == '-'

/-- What follows a number at the front of a text. -/
def afterNumber? (text : List Char) : Option (List Char) :=
  if (text.takeWhile Text.isDecimalDigit).isEmpty then none
  else some (text.dropWhile Text.isDecimalDigit)

/-- What follows a number and a point at the front of a text. -/
def afterNumberPoint? (text : List Char) : Option (List Char) :=
  match afterNumber? text with
  | some ('.' :: rest) => some rest
  | _ => none

/-- Whether a text may follow the three numbers. -/
def isLabel : List Char → Bool
  | [] => true
  | '-' :: rest => !rest.isEmpty && rest.all isLabelChar
  | _ => false

/-- Whether a text is a version. -/
def isVersion (text : List Char) : Bool :=
  match (afterNumberPoint? (Text.withoutFinalBreak text)).bind afterNumberPoint? |>.bind
    afterNumber? with
  | some rest => isLabel rest
  | none => false

end ClientSynth.Version
