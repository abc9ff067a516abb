import ClientSynth.Document.Basic
import ClientSynth.Text.Basic
import ClientSynth.Text.Case
import ClientSynth.TypeScript.Identifier

/-!
# Names made from free text

Every generated symbol is named here, from an endpoint's name and method. A name is cut into its
ASCII words; `pascal` capitalises all of them, `camel` all but the first. Nothing is done about two
names that come out the same.
-/

namespace ClientSynth.Naming

/-- The ASCII words of a text: its runs of letters and digits. -/
def words (text : List Char) : List (List Char) :=
  Text.runs Text.isAlnum text

/-- A word with its first letter in upper case and the others in lower case. -/
def capitalised : List Char → List Char
  | [] => []
  | c :: rest => c.toUpper :: rest.map Char.toLower

/-- The words of a text, each capitalised, without anything between them. -/
def pascalChars (text : List Char) : List Char :=
  (words text).flatMap capitalised

/-- The words of a text without anything between them: the first in lower case, the others
capitalised. -/
def camelChars (text : List Char) : List Char :=
  match words text with
  | [] => []
  | first :: rest => first.map Char.toLower ++ rest.flatMap capitalised

/-- A text in PascalCase. -/
def pascal (s : String) : String :=
  String.ofList (pascalChars s.toList)

/-- A text in camelCase. -/
def camel (s : String) : String :=
  String.ofList (camelChars s.toList)

/-- The verbs of the methods that have one of their own. -/
def methodVerbs : List (String × String) :=
  [("GET", "get"), ("POST", "create"), ("PUT", "update"), ("PATCH", "patch"), ("DELETE", "delete")]

/-- The verb that the function of a method starts with: the method in lower case, unless it has a
verb of its own. -/
def verb (method : String) : String :=
  let upper := Text.upperString method
  (methodVerbs.lookup upper).getD (Text.lowerString upper)

/-- The first form of a parameter's name: as it is written when that is an identifier, and in
camelCase otherwise. -/
def parameterStem (name : String) : String :=
  if TypeScript.isIdentifierLine name.toList then name else camel name

/-- A stem that is not empty and does not start with a digit. -/
def startSafe (stem : String) : String :=
  match stem.toList with
  | [] => "param"
  | c :: _ => if c.isDigit then "_" ++ stem else stem

/-- A name that is no reserved word. -/
def unreserved (name : String) : String :=
  if TypeScript.reservedWords.contains name then name ++ "_" else name

/-- The identifier of a parameter. -/
def identifier (name : String) : String :=
  unreserved (startSafe (parameterStem name))

/-- The endpoint's name in PascalCase. -/
def base (e : Endpoint) : String :=
  pascal (e.name.getD "")

/-- The name of the service function. -/
def function (e : Endpoint) : String :=
  verb (e.method.getD "") ++ base e

/-- The name of the type of the parameters. -/
def paramsType (e : Endpoint) : String :=
  base e ++ "Params"

/-- The name of the type of the request body. -/
def requestType (e : Endpoint) : String :=
  base e ++ "Request"

/-- The name of the type of the response. -/
def responseType (e : Endpoint) : String :=
  base e ++ "Response"

/-- The name of the type of the response's items. -/
def itemType (e : Endpoint) : String :=
  base e ++ "Item"

/-- The name of the hook of a query. -/
def queryHook (e : Endpoint) : String :=
  "use" ++ base e

/-- The name of the hook of a mutation. -/
def mutationHook (e : Endpoint) : String :=
  "use" ++ base e ++ "Mutation"

/-- Whether a character stays in the key of a query. -/
def isKeyChar (c : Char) : Bool :=
  c.isLower || c.isDigit

/-- The key that a query is cached under: the name in lower case, with a hyphen for each character
other than an ASCII letter or digit. -/
def queryKey (e : Endpoint) : String :=
  let lower := Text.lower (e.name.getD "").toList
  String.ofList (lower.map fun c => if isKeyChar c then c else '-')

end ClientSynth.Naming
