import ClientSynth.Text.Basic
import ClientSynth.Text.Class

/-!
# Documentation comments

Free text inside a documentation comment stands on one line, with single spaces between its words,
and cannot end the comment.
-/

namespace ClientSynth.TypeScript

/-- A text with a backslash inside every mark that would end a comment. -/
def withoutClose : List Char → List Char
  | [] => []
  | '*' :: '/' :: rest => '*' :: '\\' :: '/' :: withoutClose rest
  | c :: rest => c :: withoutClose rest

/-- The words of a text with single spaces between them. -/
def spaced (text : List Char) : List Char :=
  Text.join [' '] (Text.runs (fun c => !Text.isSpace c) text)

/-- A text as it stands inside a comment. -/
def commentLine (s : String) : String :=
  String.ofList (withoutClose (spaced s.toList))

/-- A comment of one line. -/
def lineComment (s : String) : String :=
  "/** " ++ commentLine s ++ " */"

/-- A comment with a line for each of some texts. -/
def blockComment (lines : List String) : List String :=
  ["/**"] ++ lines.map (fun line => " * " ++ line) ++ [" */"]

end ClientSynth.TypeScript
