import ClientSynth.Client.Settings
import ClientSynth.Client.Types
import ClientSynth.PathTemplate

/-!
# Service functions

One asynchronous function for each endpoint. Its signature takes the path parameters one by one,
then the query parameters, the request body and the request's configuration; its body makes one call
of the client and throws what the call throws.
-/

namespace ClientSynth

open TypeScript (TypeExpr)

/-- A parameter of a function. -/
structure Binding where
  name : String
  isOptional : Bool
  type : String
  deriving DecidableEq

/-- The text of a parameter of a function. -/
def Binding.text (b : Binding) : String :=
  b.name ++ (if b.isOptional then "?" else "") ++ ": " ++ b.type

/-- A piece of a template literal: characters of its text, or the name of a binding. -/
inductive UrlPiece where
  | text (chars : List Char)
  | slot (name : String)
  deriving DecidableEq

/-- The characters of a piece. -/
def UrlPiece.chars : UrlPiece → List Char
  | .text chars => chars
  | .slot name => '$' :: '{' :: name.toList ++ ['}']

/-- A character inside a template literal. -/
def templateChar (c : Char) : List Char :=
  if c = '\\' then ['\\', '\\'] else if c = '`' then ['\\', '`'] else [c]

/-- A call of the client. The arguments tell whether the query parameters and the body are passed.
-/
inductive ClientCall where
  | get (params : Bool)
  | send (method : String) (data : Bool)
  | delete
  | request (method : String) (params data : Bool)
  deriving DecidableEq

namespace Endpoint

/-- Whether there are query parameters. -/
def hasQuery (e : Endpoint) : Bool :=
  !e.queryParameters.isEmpty

/-- Whether there is a request body. -/
def hasBody (e : Endpoint) : Bool :=
  e.requestBody.isSome

/-- The identifier of a parameter. -/
def bindingName (p : Parameter) : String :=
  Naming.identifier (p.name.getD "")

/-- The parameters of the service function. The query parameters are optional, except before a
request body, which is not. -/
def signature (e : Endpoint) : List Binding :=
  e.pathParameters.map (fun p => ⟨bindingName p, false, (TypeExpr.ofParameter p).text⟩) ++
    (if e.hasQuery then
      if e.hasBody then [⟨"params", false, Naming.paramsType e ++ " | undefined"⟩]
      else [⟨"params", true, Naming.paramsType e⟩]
    else []) ++
    (if e.hasBody then [⟨"data", false, Naming.requestType e⟩] else []) ++
    [⟨"config", true, "RequestConfig"⟩]

/-- The names of the types that the service function mentions. -/
def referencedTypes (e : Endpoint) : List String :=
  ["APIResponse"] ++
    (if e.hasQuery then [Naming.paramsType e] else []) ++
    (if e.hasBody then [Naming.requestType e] else []) ++
    [Naming.responseType e]

/-- A text that is there and not empty, or another one. -/
def orElse (s : Option String) (other : String) : String :=
  match s with
  | some s => if s.isEmpty then other else s
  | none => other

/-- The text that an endpoint is introduced with: its summary, or description, or name. -/
def introduction (e : Endpoint) : String :=
  orElse e.summary (orElse e.description (e.name.getD ""))

/-- The text about a path parameter. -/
def parameterLine (p : Parameter) : String :=
  "@param " ++ bindingName p ++ " " ++ orElse p.description (p.name.getD "None")

/-- The lines of the service function's comment, as free text. -/
def documentation (e : Endpoint) : List String :=
  [e.introduction] ++
    (match e.description with
      | some d => if d.isEmpty || d == e.introduction then [] else [d]
      | none => []) ++
    e.pathParameters.map parameterLine ++
    (if e.hasQuery then ["@param params Query parameters"] else []) ++
    (if e.hasBody then ["@param data Request body"] else []) ++
    ["@param config Request configuration",
     "@returns Promise<APIResponse<" ++ Naming.responseType e ++ ">>"] ++
    (if e.deprecated then ["@deprecated This endpoint is deprecated"] else [])

/-- The piece of the URL for a piece of the escaped path: a token is a slot when a path parameter
has just its name. -/
def urlPiece (declared : List String) : PathTemplate.Piece → UrlPiece
  | .plain c => .text [c]
  | .token name =>
    if declared.contains (String.ofList name) then .slot (Naming.identifier (String.ofList name))
    else .text ('{' :: name ++ ['}'])

/-- The pieces of the URL. The path is escaped first, and its tokens are found then. -/
def urlPieces (e : Endpoint) : List UrlPiece :=
  (PathTemplate.pieces ((e.path.getD "").toList.flatMap templateChar)).map
    (urlPiece (e.pathParameters.filterMap Parameter.name))

/-- The template literal of the URL. -/
def urlLiteral (e : Endpoint) : String :=
  String.ofList ('`' :: e.urlPieces.flatMap UrlPiece.chars ++ ['`'])

/-- The method in upper case. -/
def upperMethod (e : Endpoint) : String :=
  Text.upperString (e.method.getD "")

/-- The call that fits the method. Only readers pass query parameters. -/
def clientCall (e : Endpoint) : ClientCall :=
  let method := e.upperMethod
  if method = "GET" then .get e.hasQuery
  else if method = "POST" ∨ method = "PUT" ∨ method = "PATCH" then .send method e.hasBody
  else if method = "DELETE" then .delete
  else .request method (method == "HEAD" && e.hasQuery) e.hasBody

end Endpoint

/-- An argument that is passed, or the word for none. -/
def argument (isPassed : Bool) (name : String) : String :=
  if isPassed then name else "undefined"

/-- The text of a call, with the type of its response and the literal of its URL. -/
def ClientCall.text (client type url : String) : ClientCall → String
  | .get params =>
    client ++ ".get<" ++ type ++ ">(" ++ url ++ ", " ++ argument params "params" ++ ", config)"
  | .send method data =>
    client ++ "." ++ Text.lowerString method ++ "<" ++ type ++ ">(" ++ url ++ ", " ++
      argument data "data" ++ ", config)"
  | .delete => client ++ ".delete<" ++ type ++ ">(" ++ url ++ ", config)"
  | .request method params data =>
    let options := ["method: '" ++ method ++ "'", "url: " ++ url] ++
      (if params then ["params"] else []) ++ (if data then ["data"] else []) ++ ["...config"]
    client ++ ".request<" ++ type ++ ">(\x7b " ++ ", ".intercalate options ++ " \x7d)"

/-- What is generated for one endpoint. -/
structure Service where
  name : String
  functionName : String
  code : String
  types : List String
  imports : List String
  endpoint : Endpoint

/-- The lines that import the client, and the types with some names. Without a file of types the
type of all responses comes from the client. -/
def importLines (typeNames : List String) (s : Settings) : List String :=
  let client :=
    "import \x7b " ++ s.clientName ++ " \x7d from '" ++ s.clientFactoryImport ++ "';"
  if s.includeTypes then
    ["import type \x7b RequestConfig \x7d from '" ++ s.clientImport ++ "';", client,
     "import type \x7b " ++ ", ".intercalate typeNames ++ " \x7d from './types';"]
  else
    ["import type \x7b APIResponse, RequestConfig \x7d from '" ++ s.clientImport ++ "';", client]

namespace Endpoint

/-- The line that opens the service function. -/
def functionHead (e : Endpoint) : String :=
  "export const " ++ Naming.function e ++ " = async (" ++
    ", ".intercalate (e.signature.map Binding.text) ++ "): Promise<APIResponse<" ++
    Naming.responseType e ++ ">> => \x7b"

/-- The lines of the service function. -/
def functionLines (e : Endpoint) (s : Settings) : List String :=
  TypeScript.blockComment (e.documentation.map TypeScript.commentLine) ++
    [e.functionHead,
     "  try \x7b",
     "    const response = await " ++
       e.clientCall.text s.clientName (Naming.responseType e) e.urlLiteral ++ ";",
     "    return response;",
     "  \x7d catch (error) \x7b",
     "    throw error;",
     "  \x7d",
     "\x7d;"]

/-- The service of an endpoint. -/
def service (e : Endpoint) (s : Settings) : Service where
  name := e.name.getD ""
  functionName := Naming.function e
  code := "\n".intercalate (e.functionLines s)
  types := e.declarations.map TypeScript.Declaration.text
  imports := importLines e.referencedTypes s
  endpoint := e

end Endpoint

namespace Service

/-- The service that a record is. -/
def read (v : Value) : Service where
  name := (v.field "name").text?.getD ""
  functionName := (v.field "functionName").text?.getD ""
  code := (v.field "code").text?.getD ""
  types := (v.field "types").textItems
  imports := (v.field "imports").textItems
  endpoint := Endpoint.read (v.field "endpoint")

/-- The names of the types that some services mention, each once, by first mention. -/
def importedTypes (services : List Service) : List String :=
  (services.flatMap fun s => s.endpoint.referencedTypes).eraseDups

end Service

/-- The text of the file of services. Without a file of types it holds their declarations. -/
def servicesFile (d : Document) (services : List Service) (s : Settings) : String :=
  let names := Service.importedTypes services
  let declarations := if s.includeTypes then [] else services.flatMap Service.types
  Text.unlines (d.fileHead "API service functions" ++ [""] ++
    importLines (if names.isEmpty then ["APIResponse"] else names) s ++
    (if declarations.isEmpty then []
      else ["", "// Types"] ++ Document.spacedOut declarations) ++
    Document.spacedOut (services.map Service.code))

end ClientSynth
