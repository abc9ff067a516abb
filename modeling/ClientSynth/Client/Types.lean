import ClientSynth.Naming
import ClientSynth.TypeScript.Declaration

/-!
# The file of types

Declarations for the parameters, request body and response of each endpoint and for each model, and
the file that holds them after the types that all clients share.
-/

namespace ClientSynth

open TypeScript (Declaration Member TypeExpr)

/-- Declarations that every file of types starts with, by the name that each declares. -/
def commonTypes : List (String × String) :=
  [("APIResponse",
    "export interface APIResponse<T = any> \x7b\n" ++
    "  /** Response payload */\n" ++
    "  data: T;\n" ++
    "  /** HTTP status code */\n" ++
    "  status: number;\n" ++
    "  /** Optional server message */\n" ++
    "  message?: string;\n" ++
    "  /** Response headers */\n" ++
    "  headers?: Record<string, string>;\n" ++
    "\x7d"),
   ("PaginatedResponse",
    "export interface PaginatedResponse<T> \x7b\n" ++
    "  /** Items on this page */\n" ++
    "  data: T[];\n" ++
    "  /** Total number of items */\n" ++
    "  total: number;\n" ++
    "  /** Current page, starting at 1 */\n" ++
    "  page: number;\n" ++
    "  /** Items per page */\n" ++
    "  pageSize: number;\n" ++
    "  /** Total number of pages */\n" ++
    "  totalPages: number;\n" ++
    "\x7d")]

/-- The properties of a schema, if there are any. -/
def Schema.someProperties? (s : Schema) : Option (List (String × Schema)) :=
  s.properties.filter fun ps => !ps.isEmpty

/-- The interface for properties of which some are required. -/
def interfaceOf (name : String) (properties : List (String × Schema))
    (required : Option (List String)) : Declaration :=
  .interface none name (Member.ofProperties properties required)

namespace Parameter

/-- Whether a parameter is part of the path or follows it. -/
def isInUrl (p : Parameter) : Bool :=
  p.location == some "query" || p.location == some "path"

/-- The member of the type of parameters for one of them. -/
def member (p : Parameter) : Member :=
  ⟨p.name.getD "", !p.required, TypeExpr.ofParameter p, p.description⟩

end Parameter

namespace Endpoint

/-- The declaration of the type of the parameters, if there are any in the URL. -/
def paramsDeclaration (e : Endpoint) : Option Declaration :=
  match (e.parameters.getD []).filter Parameter.isInUrl with
  | [] => none
  | ps => some (.interface none (Naming.paramsType e) (ps.map Parameter.member))

/-- The declaration of the type of the request body, if there is one. -/
def requestDeclaration (e : Endpoint) : Option Declaration :=
  e.requestBody.map fun body =>
    match body.schema, body.schema.bind Schema.someProperties? with
    | some s, some properties => interfaceOf (Naming.requestType e) properties s.required
    | s, _ => .alias (Naming.requestType e) (.type (TypeExpr.ofSchema? s))

/-- The schema of the items of a list of objects with properties. -/
def itemObject? (s : Schema) : Option (Schema × List (String × Schema)) :=
  if s.type = some "array" then
    (s.items.filter fun i => i.type == some "object").bind fun i =>
      i.someProperties?.map fun properties => (i, properties)
  else none

/-- The declarations of the type of the response with a schema. A list of objects gets a type of its
own for the objects. -/
def responseDeclarationsOf (e : Endpoint) (s : Schema) : List Declaration :=
  match (if s.type = some "object" then s.someProperties? else none), itemObject? s with
  | some properties, _ => [interfaceOf (Naming.responseType e) properties s.required]
  | none, some (item, properties) =>
    [interfaceOf (Naming.itemType e) properties item.required,
     .alias (Naming.responseType e) (.listOf (Naming.itemType e))]
  | none, none => [.alias (Naming.responseType e) (.type (TypeExpr.ofSchema s))]

/-- The declarations of the type of the response: that of the first success with a schema. -/
def responseDeclarations (e : Endpoint) : List Declaration :=
  match e.success? with
  | none => [.alias (Naming.responseType e) .unknown]
  | some (_, s) => e.responseDeclarationsOf s

/-- All declarations for an endpoint, in order. -/
def declarations (e : Endpoint) : List Declaration :=
  e.paramsDeclaration.toList ++ e.requestDeclaration.toList ++ e.responseDeclarations

/-- The schemas in the declaration of the type of the request body. -/
def requestSchemas (e : Endpoint) : List Schema :=
  match e.requestBody.bind RequestBody.schema with
  | none => []
  | some s => match s.someProperties? with
    | some properties => properties.map Prod.snd
    | none => [s]

/-- The schemas in the declarations of the type of the response. -/
def responseSchemas (e : Endpoint) : List Schema :=
  match e.success? with
  | none => []
  | some (_, s) =>
    match (if s.type = some "object" then s.someProperties? else none), itemObject? s with
    | some properties, _ => properties.map Prod.snd
    | none, some (_, properties) => properties.map Prod.snd
    | none, none => [s]

/-- The schemas in all declarations for an endpoint, in order. -/
def declaredSchemas (e : Endpoint) : List Schema :=
  ((e.parameters.getD []).filter Parameter.isInUrl).map TypeExpr.parameterSchema ++
    e.requestSchemas ++ e.responseSchemas

end Endpoint

/-- The declaration of a named model. -/
def Model.declaration (name : String) (m : Model) : Declaration :=
  .interface (m.description.filter fun d => !d.isEmpty) (Naming.pascal name)
    (Member.ofProperties (m.properties.getD []) m.required)

namespace Document

/-- The title in the head of a file. -/
def titleText (d : Document) : String :=
  match d.title with
  | some t => if t.isEmpty then "API" else t
  | none => "API"

/-- The head of a file, with its subject. -/
def fileHead (d : Document) (subject : String) : List String :=
  ["/**",
   " * " ++ subject,
   " * Generated from " ++ d.titleText ++ " v" ++ d.version.getD "" ++ ". Do not edit by hand.",
   " */"]

/-- Texts, each after an empty line. -/
def spacedOut (texts : List String) : List String :=
  texts.flatMap fun t => ["", t]

/-- Texts with an empty line between neighbours. -/
def separated (texts : List String) : List String :=
  texts.intersperse ""

/-- The line that names the endpoint whose declarations follow. -/
def endpointLabel (e : Endpoint) : String :=
  "// " ++ e.method.getD "None" ++ " " ++ e.path.getD "None"

/-- The declarations of the models, in order. -/
def modelDeclarations (d : Document) : List Declaration :=
  (d.models.getD []).map fun m => m.2.declaration m.1

/-- The schemas in all declarations of the file of types, in order. -/
def declaredSchemas (d : Document) : List Schema :=
  (d.models.getD []).flatMap (fun m => (m.2.properties.getD []).map Prod.snd) ++
    d.endpoints.flatMap Endpoint.declaredSchemas

/-- The text of the file of types. -/
def typesFile (d : Document) : String :=
  let models := d.modelDeclarations.map Declaration.text
  Text.unlines (d.fileHead "API type definitions" ++
    spacedOut (commonTypes.map Prod.snd) ++
    (if models.isEmpty then [] else ["", "// Models"] ++ spacedOut models) ++
    d.endpoints.flatMap fun e =>
      ["", endpointLabel e] ++ separated (e.declarations.map Declaration.text))

end Document

end ClientSynth
