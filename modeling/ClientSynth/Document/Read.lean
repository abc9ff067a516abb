import ClientSynth.Document.Basic
import ClientSynth.Record.Conform

/-!
# Reading documents

`Document.ofValue` reads a value as a document, by the layouts of its records: it fails with all
rejections, or gives the document. The readers below view a record in written form; of what a value
in written form cannot hold they take no notice.
-/

namespace ClientSynth

namespace Value

/-- The text that a value is. -/
def text? : Value → Option String
  | .text s => some s
  | _ => none

/-- The integer that a value is. -/
def int? : Value → Option Int
  | .int n => some n
  | _ => none

/-- The double that a value is. -/
def float? : Value → Option Binary64
  | .float x => some x
  | _ => none

/-- Whether a value is a flag that is set. -/
def isTrue : Value → Bool
  | .bool b => b
  | _ => false

/-- The items of a list. -/
def items : Value → List Value
  | .list items => items
  | _ => []

/-- The texts in a list. -/
def textItems (v : Value) : List String :=
  v.items.filterMap text?

/-- The entries of a mapping whose keys are texts. -/
def textEntries : Value → List (String × Value)
  | .map entries => entries.filterMap fun e =>
    match e.1 with
    | .text s => some (s, e.2)
    | _ => none
  | _ => []

/-- The value of a field. -/
def field (v : Value) (key : String) : Value :=
  match v with
  | .map entries => (lookupText key entries).getD .null
  | _ => .null

/-- What a value is read as, unless it is absent. -/
def present? (read : Value → α) : Value → Option α
  | .null => none
  | v => some (read v)

end Value

namespace Schema

mutual

/-- The schema that a record is. -/
def read : Value → Schema
  | .map entries =>
    let v := Value.map entries
    { type := (v.field "type").text?
      description := (v.field "description").text?
      example_ := v.field "example"
      enum := (v.field "enum").present? Value.textItems
      format := (v.field "format").text?
      items := readItems entries
      properties := readProperties entries
      required := (v.field "required").present? Value.textItems }
  | _ => ⟨none, none, .null, none, none, none, none, none⟩

/-- The schema in the field `items` among entries. -/
def readItems : List (Scalar × Value) → Option Schema
  | [] => none
  | (key, v) :: rest =>
    if key.isSameKey (.text "items") then
      match v with
      | .null => none
      | v => some (read v)
    else readItems rest

/-- The schemas in the field `properties` among entries. -/
def readProperties : List (Scalar × Value) → Option (List (String × Schema))
  | [] => none
  | (key, v) :: rest =>
    if key.isSameKey (.text "properties") then
      match v with
      | .map members => some (readMembers members)
      | _ => none
    else readProperties rest

/-- The schemas of members. -/
def readMembers : List (Scalar × Value) → List (String × Schema)
  | [] => []
  | (.text name, v) :: rest => (name, read v) :: readMembers rest
  | _ :: rest => readMembers rest

end

/-- The schemas of members in a field that may be absent. -/
def readTable (v : Value) : Option (List (String × Schema)) :=
  match v with
  | .map members => some (readMembers members)
  | _ => none

mutual

/-- A schema as a record in written form. -/
def write : Schema → Value
  | ⟨type, description, example_, enum, format, items, properties, required⟩ =>
    .object
      [("type", .ofText? type),
       ("description", .ofText? description),
       ("example", example_),
       ("enum", (enum.map Value.texts).getD .null),
       ("format", .ofText? format),
       ("items", writeItems items),
       ("properties", writeTable properties),
       ("required", (required.map Value.texts).getD .null)]

/-- The schema of items, if there is one. -/
def writeItems : Option Schema → Value
  | none => .null
  | some s => write s

/-- The schemas of members, if there is a table of them. -/
def writeTable : Option (List (String × Schema)) → Value
  | none => .null
  | some members => .object (writeMembers members)

/-- The schemas of members. -/
def writeMembers : List (String × Schema) → List (String × Value)
  | [] => []
  | (name, s) :: rest => (name, write s) :: writeMembers rest

end

end Schema

/-- The authentication that a record is. -/
def Authentication.read (v : Value) : Authentication where
  type := (v.field "type").text?
  headerName := (v.field "headerName").text?
  tokenPrefix := (v.field "tokenPrefix").text?
  description := (v.field "description").text?

/-- The parameter that a record is. -/
def Parameter.read (v : Value) : Parameter where
  name := (v.field "name").text?
  location := (v.field "in").text?
  required := (v.field "required").isTrue
  type := (v.field "type").text?
  description := (v.field "description").text?
  example_ := v.field "example"
  enum := (v.field "enum").present? Value.textItems
  format := (v.field "format").text?
  pattern := (v.field "pattern").text?
  minimum := (v.field "minimum").float?
  maximum := (v.field "maximum").float?
  minLength := (v.field "minLength").int?
  maxLength := (v.field "maxLength").int?

/-- The request body that a record is. -/
def RequestBody.read (v : Value) : RequestBody where
  contentType := (v.field "contentType").text?
  schema := (v.field "schema").present? Schema.read
  example_ := v.field "example"

/-- The response that a record is. -/
def Response.read (v : Value) : Response where
  statusCode := (v.field "statusCode").int?
  description := (v.field "description").text?
  contentType := (v.field "contentType").text?
  schema := (v.field "schema").present? Schema.read
  example_ := v.field "example"

/-- The endpoint that a record is. -/
def Endpoint.read (v : Value) : Endpoint where
  id := (v.field "id").text?
  name := (v.field "name").text?
  method := (v.field "method").text?
  path := (v.field "path").text?
  summary := (v.field "summary").text?
  description := (v.field "description").text?
  tags := (v.field "tags").textItems
  parameters := (v.field "parameters").present? fun ps => ps.items.map Parameter.read
  requestBody := (v.field "requestBody").present? RequestBody.read
  responses := (v.field "responses").items.map Response.read
  deprecated := (v.field "deprecated").isTrue

/-- The model that a record is. -/
def Model.read (v : Value) : Model where
  name := (v.field "name").text?
  description := (v.field "description").text?
  type := (v.field "type").text?
  properties := Schema.readTable (v.field "properties")
  required := (v.field "required").present? Value.textItems
  example_ := v.field "example"

/-- The environment that a record is. -/
def Environment.read (v : Value) : Environment where
  name := (v.field "name").text?.getD ""
  baseUrl := (v.field "baseURL").text?.getD ""
  description := (v.field "description").text?

/-- The document that a record is. -/
def Document.read (v : Value) : Document where
  title := (v.field "title").text?
  version := (v.field "version").text?
  description := (v.field "description").text?
  baseUrl := (v.field "baseURL").text?
  authentication := (v.field "authentication").present? Authentication.read
  globalHeaders := (v.field "globalHeaders").present? fun t =>
    t.textEntries.filterMap fun e => e.2.text?.map fun s => (e.1, s)
  timeout := (v.field "timeout").int?
  endpoints := (v.field "endpoints").items.map Endpoint.read
  models := (v.field "models").present? fun t => t.textEntries.map fun e => (e.1, Model.read e.2)
  environments := (v.field "environments").present? fun es => es.items.map Environment.read
  metadata := (v.field "metadata").present? Value.textEntries

/-- The document that a value is, or all rejections in it. -/
def Document.ofValue (v : Value) : Except (List Rejection) Document :=
  (v.conform (.record .document)).map Document.read

/-- The endpoint that a value is, or all rejections in it. -/
def Endpoint.ofValue (v : Value) : Except (List Rejection) Endpoint :=
  (v.conform (.record .endpoint)).map Endpoint.read

end ClientSynth
