import ClientSynth.Text.Basic
import ClientSynth.Text.Class

/-!
# Identifiers and literals

What may stand as a name in TypeScript source, and how a text stands as a string literal or as the
key of a member. `isIdentifierLine` is the test that the printer goes by: it looks at one line, so a
single line feed may follow the identifier.
-/

namespace ClientSynth.TypeScript

/-- A character that an identifier may start with. -/
def isIdentifierStart (c : Char) : Bool :=
  c.isAlpha || c == '_' || c == '$'

/-- A character that an identifier may go on with. -/
def isIdentifierPart (c : Char) : Bool :=
  c.isAlphanum || c == '_' || c == '$'

/-- Whether a whole text is an identifier. -/
def isIdentifier : List Char → Bool
  | [] => false
  | c :: rest => isIdentifierStart c && rest.all isIdentifierPart

/-- Whether a text, without one line feed at its end, is an identifier. -/
def isIdentifierLine (text : List Char) : Bool :=
  isIdentifier (Text.withoutFinalBreak text)

/-- Words that cannot name a parameter. -/
def reservedWords : List String :=
  ["break", "case", "catch", "class", "const", "continue", "debugger", "default", "delete", "do",
   "else", "enum", "export", "extends", "false", "finally", "for", "function", "if", "import", "in",
   "instanceof", "new", "null", "return", "super", "switch", "this", "throw", "true", "try",
   "typeof", "var", "void", "while", "with"]

/-- A character inside a literal between single quotes. -/
def literalChar (c : Char) : List Char :=
  if c = '\\' then ['\\', '\\']
  else if c = '\'' then ['\\', '\'']
  else if c = '\n' then ['\\', 'n']
  else if c = '\r' then ['\\', 'r']
  else [c]

/-- The characters of a literal between single quotes. -/
def literalChars (text : List Char) : List Char :=
  '\'' :: text.flatMap literalChar ++ ['\'']

/-- A text as a literal between single quotes. -/
def literal (s : String) : String :=
  String.ofList (literalChars s.toList)

/-- A text as the key of a member: itself when it is an identifier, and a literal otherwise. -/
def memberKey (name : String) : String :=
  if isIdentifierLine name.toList then name else literal name

end ClientSynth.TypeScript
