import ClientSynth.Client.Artifacts

/-!
# Audit of generated code

Remarks about artifacts, found by looking at their text again: at each service function, at names
and routes that several endpoints have, and at the file of types.
-/

namespace ClientSynth.Audit

/-- The name of the interface that a line opens. -/
def interfaceName? (line : List Char) : Option String :=
  let opening := "export interface ".toList
  if opening.isPrefixOf line then
    let name := (line.drop opening.length).takeWhile Text.isWordChar
    if name.isEmpty then none else some (String.ofList name)
  else none

/-- The names of the interfaces that a text declares, in order. -/
def interfaceNames (text : List Char) : List String :=
  (Text.splitAt '\n' text).filterMap interfaceName?

/-- The texts that stood before in a list, each once, in the order in which they come again. -/
def comeAgain (seen again : List String) : List String → List String
  | [] => again
  | x :: rest =>
    comeAgain (x :: seen)
      (if seen.contains x && !again.contains x then again ++ [x] else again) rest

/-- Whether a text occurs in another one. -/
def has (part : String) (text : List Char) : Bool :=
  Text.occursIn part.toList text

/-- A remark, if there is reason for it. -/
def remarkIf (reason : Bool) (r : Remark) : List Remark :=
  if reason then [r] else []

/-- The remarks about the text of a file of types. -/
def typesRemarks (text : String) : List Remark :=
  let chars := text.toList
  let again := comeAgain [] [] (interfaceNames chars)
  remarkIf (!has "export interface" chars && !has "export type" chars) .noTypes ++
    remarkIf (!again.isEmpty) (.repeatedInterfaces again) ++
    remarkIf (has "interface \x7b" chars) .unnamedInterface ++
    remarkIf (has ": ;" chars) .untypedMember

/-- The first line of a text that exports something. -/
def exportLine? (code : List Char) : Option (List Char) :=
  (Text.lines code).find? fun line => "export ".toList.isPrefixOf line

/-- The remarks about the line that opens a function. -/
def signatureRemarks (name : String) : Option (List Char) → List Remark
  | none => [.notExported name]
  | some line =>
    remarkIf (!has "Promise<" line) (.noPromise name) ++
      remarkIf (Text.hasWord "any".toList line) (.anyInSignature name)

/-- The remarks about a service. -/
def serviceRemarks (s : Service) : List Remark :=
  let code := s.code.toList
  let name := s.functionName
  remarkIf (!TypeScript.isIdentifierLine name.toList) (.badFunctionName name) ++
    signatureRemarks name (exportLine? code) ++
    remarkIf (!has "try \x7b" code || !has "catch" code) (.noErrorHandling name) ++
    remarkIf (!has "/**" code) (.noComment name) ++
    remarkIf s.endpoint.deprecated (.deprecated s.endpoint.name)

/-- The method in upper case and the path of an endpoint. -/
def routeText (e : Endpoint) : String :=
  e.upperMethod ++ ":" ++ e.path.getD "None"

/-- The remarks about methods and paths that several endpoints have. -/
def routeRemarks (endpoints : List Endpoint) : List (Located Remark) :=
  (repeatedTexts (endpoints.map routeText)).map fun (route, places) =>
    ⟨secondPlace places, .sharedRoute route places⟩

/-- The remarks about services from an index on. -/
def servicesRemarks (i : Nat) : List Service → List (Located Remark)
  | [] => []
  | s :: rest =>
    (serviceRemarks s).map (⟨Location.index [.key "endpoints"] i, ·⟩) ++
      servicesRemarks (i + 1) rest

/-- The remarks about artifacts. -/
def remarks (a : Artifacts) : List (Located Remark) :=
  let endpoints := a.services.map Service.endpoint
  servicesRemarks 0 a.services ++ functionNameRemarks endpoints ++ routeRemarks endpoints ++
    (if a.types.isEmpty then [] else (typesRemarks a.types).map (⟨[.key "types"], ·⟩))

end ClientSynth.Audit
