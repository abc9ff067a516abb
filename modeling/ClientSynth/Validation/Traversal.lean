import ClientSynth.PathTemplate
import ClientSynth.Text.Class
import ClientSynth.Url.Basic
import ClientSynth.Validation.Diagnostic
import ClientSynth.Version

/-!
# Traversal of a document

`Document.findings` looks at a document from top to bottom and says everything there is to say: its
own fields, authentication, each endpoint with its parameters, request body and responses, and the
models. Endpoints are looked at in order, with the identifiers and routes of the ones before.
-/

namespace ClientSynth

/-- Whether a text is missing or has no character but spaces. -/
def isBlank? (s : Option String) : Bool :=
  match s with
  | none => true
  | some s => Text.isBlank s.toList

/-- A text that is there and not empty. -/
def nonEmpty? (s : Option String) : Option String :=
  s.filter fun s => !s.isEmpty

/-- Whether a text is one of some words. -/
def isOneOf (words : List String) (s : Option String) : Bool :=
  s.any fun s => words.contains s

/-- A finding, if there is reason for it. -/
def findingIf (reason : Bool) (finding : Finding) : List Finding :=
  if reason then [finding] else []

namespace Schema

mutual

/-- The findings about a schema. -/
def findings (place : Location) : Schema → List Finding
  | ⟨type, _, _, _, _, items, properties, _⟩ =>
    if isBlank? type then [.fault (place.key "type") .noSchemaType]
    else
      findingIf (!isOneOf schemaTypes type) (.fault (place.key "type") .badSchemaType) ++
        (if type = some "object" then tableFindings place properties else []) ++
        (if type = some "array" then itemsFindings place items else [])

/-- The findings about the schema of items. -/
def itemsFindings (place : Location) : Option Schema → List Finding
  | none => []
  | some s => findings (place.key "items") s

/-- The findings about the schemas of members, if there is a table of them. -/
def tableFindings (place : Location) : Option (List (String × Schema)) → List Finding
  | none => []
  | some members => memberFindings place members

/-- The findings about the schemas of members. -/
def memberFindings (place : Location) : List (String × Schema) → List Finding
  | [] => []
  | (name, s) :: rest =>
    findings ((place.key "properties").key name) s ++ memberFindings place rest

end

end Schema

/-- The findings about a document's own fields. -/
def Document.fieldFindings (d : Document) : List Finding :=
  findingIf (isBlank? d.title) (.fault [.key "title"] .noTitle) ++
    (if isBlank? d.version then [.fault [.key "version"] .noVersion]
      else findingIf (!d.version.any fun v => Version.isVersion v.toList)
        (.fault [.key "version"] .badVersion)) ++
    (if isBlank? d.baseUrl then [.fault [.key "baseURL"] .noBaseUrl]
      else findingIf (!d.baseUrl.any fun u => Url.isAbsolute u.toList)
        (.fault [.key "baseURL"] .badBaseUrl)) ++
    findingIf (isBlank? d.description) (.remark [.key "description"] .noDescription) ++
    findingIf d.endpoints.isEmpty (.fault [.key "endpoints"] .noEndpoints)

/-- The findings about authentication. -/
def Authentication.findings? : Option Authentication → List Finding
  | none => [.remark [.key "authentication"] .noAuthentication]
  | some a =>
    let place : Location := [.key "authentication"]
    findingIf (!isOneOf authenticationTypes a.type)
        (.fault (place.key "type") .badAuthenticationType) ++
      findingIf (a.type == some "apiKey" && isBlank? a.headerName)
        (.fault (place.key "headerName") .noHeaderName) ++
      findingIf
        (a.type == some "bearer" && (nonEmpty? a.tokenPrefix).any fun p => p != "Bearer")
        (.remark (place.key "tokenPrefix") .unusualTokenPrefix)

/-- Whether both bounds are there and the lower one is greater. -/
def exceeds? (greater : α → α → Bool) (low high : Option α) : Bool :=
  match low, high with
  | some low, some high => greater low high
  | _, _ => false

/-- The findings about a parameter. -/
def Parameter.findings (place : Location) (p : Parameter) : List Finding :=
  findingIf (isBlank? p.name) (.fault (place.key "name") .noParameterName) ++
    findingIf (!isOneOf parameterLocations p.location)
      (.fault (place.key "in") .badParameterLocation) ++
    findingIf (!isOneOf schemaTypes p.type) (.fault (place.key "type") .badParameterType) ++
    findingIf (isBlank? p.description)
      (.remark (place.key "description") .noParameterDescription) ++
    findingIf (p.type == some "number" && exceeds? Binary64.isGreater p.minimum p.maximum)
      (.fault place .badNumberRange) ++
    findingIf
      (p.type == some "string" && exceeds? (fun a b => decide (b < a)) p.minLength p.maxLength)
      (.fault place .badLengthRange)

/-- The findings about a request body. -/
def RequestBody.findings? (place : Location) : Option RequestBody → List Finding
  | none => []
  | some b =>
    findingIf (!isOneOf bodyTypes b.contentType) (.fault (place.key "contentType") .badBodyType) ++
      match b.schema with
      | none => [.fault (place.key "schema") .noBodySchema]
      | some s => s.findings (place.key "schema")

namespace Response

/-- The status code of a response, unless it is missing or zero. -/
def status? (r : Response) : Option Int :=
  r.statusCode.filter (· != 0)

/-- Whether a response reports success. -/
def isSuccess (r : Response) : Bool :=
  r.status?.any fun code => 200 ≤ code && code < 300

/-- The findings about a response; `earlier` holds the status codes before it. -/
def findings (earlier : List Int) (place : Location) (r : Response) : List Finding :=
  (match r.status? with
    | none => [.fault (place.key "statusCode") .noStatus]
    | some code =>
      findingIf (earlier.contains code) (.fault (place.key "statusCode") (.repeatedStatus code)) ++
        findingIf (!(100 ≤ code && code ≤ 599))
          (.fault (place.key "statusCode") (.badStatus code))) ++
    findingIf (isBlank? r.description)
      (.remark (place.key "description") .noResponseDescription) ++
    match r.schema with
    | none => []
    | some s => s.findings (place.key "schema")

/-- The findings about responses from an index on. -/
def findingsFrom (earlier : List Int) (place : Location) (i : Nat) : List Response → List Finding
  | [] => []
  | r :: rest =>
    r.findings earlier (place.index i) ++
      findingsFrom (r.status?.toList ++ earlier) place (i + 1) rest

/-- The findings about all responses of an endpoint. -/
def allFindings (place : Location) (responses : List Response) : List Finding :=
  if responses.isEmpty then [.fault place .noResponses]
  else
    findingsFrom [] place 0 responses ++
      findingIf (!responses.any isSuccess) (.remark place .noSuccessResponse)

end Response

namespace Endpoint

/-- The names of the parameters that fill the path. -/
def declaredTokens (e : Endpoint) : List String :=
  e.pathParameters.filterMap Parameter.name

/-- The findings about an endpoint's own fields, and about tokens of its path that no parameter
fills. -/
def fieldFindings (place : Location) (e : Endpoint) : List Finding :=
  findingIf (isBlank? e.id) (.fault (place.key "id") .noEndpointId) ++
    findingIf (isBlank? e.name) (.fault (place.key "name") .noEndpointName) ++
    findingIf (!isOneOf (Method.all.map Method.word) e.method)
      (.fault (place.key "method") .badMethod) ++
    (if isBlank? e.path then [.fault (place.key "path") .noPath]
      else findingIf (!e.path.any fun p => p.toList.head? == some '/')
        (.fault (place.key "path") .badPath)) ++
    findingIf (isBlank? e.summary) (.remark (place.key "summary") .noEndpointSummary) ++
    findingIf (isBlank? e.description)
      (.remark (place.key "description") .noEndpointDescription) ++
    ((PathTemplate.tokens (e.path.getD "")).filter fun t => !e.declaredTokens.contains t).map
      fun t => .fault (place.key "parameters") (.undeclaredToken t)

/-- The identifier of an endpoint, unless it is empty. -/
def id? (e : Endpoint) : Option String :=
  nonEmpty? e.id

/-- The method and path of an endpoint, unless one of them is empty. -/
def route? (e : Endpoint) : Option (String × String) :=
  match nonEmpty? e.method, nonEmpty? e.path with
  | some method, some path => some (method, path)
  | _, _ => none

/-- The findings about parameters from an index on. -/
def parameterFindings (place : Location) (i : Nat) : List Parameter → List Finding
  | [] => []
  | p :: rest => p.findings (place.index i) ++ parameterFindings place (i + 1) rest

/-- The findings about an endpoint; `ids` and `routes` hold those of the endpoints before it. -/
def findings (ids : List String) (routes : List (String × String)) (place : Location)
    (e : Endpoint) : List Finding :=
  e.fieldFindings place ++
    (match e.id? with
      | some id => findingIf (ids.contains id) (.fault (place.key "id") (.repeatedId id))
      | none => []) ++
    (match e.route? with
      | some (method, path) =>
        findingIf (routes.contains (method, path)) (.fault place (.repeatedRoute method path))
      | none => []) ++
    parameterFindings (place.key "parameters") 0 (e.parameters.getD []) ++
    RequestBody.findings? (place.key "requestBody") e.requestBody ++
    Response.allFindings (place.key "responses") e.responses

/-- The findings about endpoints from an index on. -/
def findingsFrom (ids : List String) (routes : List (String × String)) (i : Nat) :
    List Endpoint → List Finding
  | [] => []
  | e :: rest =>
    e.findings ids routes (Location.index [.key "endpoints"] i) ++
      findingsFrom (e.id?.toList ++ ids) (e.route?.toList ++ routes) (i + 1) rest

end Endpoint

/-- The findings about a named model. -/
def Model.findings (name : String) (m : Model) : List Finding :=
  let place : Location := [.key "models", .key name]
  findingIf (m.type != some "object") (.fault (place.key "type") .badModelType) ++
    match m.properties with
    | none => [.fault (place.key "properties") .noModelProperties]
    | some members => Schema.memberFindings place members

/-- The findings about a document, in order. -/
def Document.findings (d : Document) : List Finding :=
  d.fieldFindings ++ Authentication.findings? d.authentication ++
    Endpoint.findingsFrom [] [] 0 d.endpoints ++
    (d.models.getD []).flatMap fun m => m.2.findings m.1

end ClientSynth
