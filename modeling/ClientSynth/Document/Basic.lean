import ClientSynth.Value

/-!
# Documents

A `Document` describes a REST API: its endpoints with their parameters, request bodies and
responses, and named models. Nearly everything in it may be missing, and words that come from a
closed set are plain texts: a document says what was written, and validation says what is wrong with
it.
-/

namespace ClientSynth

/-- The shape of a value. -/
structure Schema where
  type : Option String
  description : Option String
  example_ : Value
  enum : Option (List String)
  format : Option String
  items : Option Schema
  properties : Option (List (String × Schema))
  required : Option (List String)

/-- How clients prove who they are. -/
structure Authentication where
  type : Option String
  headerName : Option String
  tokenPrefix : Option String
  description : Option String

/-- A parameter of an endpoint. -/
structure Parameter where
  name : Option String
  location : Option String
  required : Bool
  type : Option String
  description : Option String
  example_ : Value
  enum : Option (List String)
  format : Option String
  pattern : Option String
  minimum : Option Binary64
  maximum : Option Binary64
  minLength : Option Int
  maxLength : Option Int

/-- The body that a request carries. -/
structure RequestBody where
  contentType : Option String
  schema : Option Schema
  example_ : Value

/-- A response of an endpoint. -/
structure Response where
  statusCode : Option Int
  description : Option String
  contentType : Option String
  schema : Option Schema
  example_ : Value

/-- One method on one path. -/
structure Endpoint where
  id : Option String
  name : Option String
  method : Option String
  path : Option String
  summary : Option String
  description : Option String
  tags : List String
  parameters : Option (List Parameter)
  requestBody : Option RequestBody
  responses : List Response
  deprecated : Bool

/-- A named shape of objects. -/
structure Model where
  name : Option String
  description : Option String
  type : Option String
  properties : Option (List (String × Schema))
  required : Option (List String)
  example_ : Value

/-- A place where the API is served. -/
structure Environment where
  name : String
  baseUrl : String
  description : Option String

/-- The description of a REST API. -/
structure Document where
  title : Option String
  version : Option String
  description : Option String
  baseUrl : Option String
  authentication : Option Authentication
  globalHeaders : Option (List (String × String))
  timeout : Option Int
  endpoints : List Endpoint
  models : Option (List (String × Model))
  environments : Option (List Environment)
  metadata : Option (List (String × Value))

/-- The methods that an endpoint may have. -/
inductive Method where
  | get
  | post
  | put
  | delete
  | patch
  | head
  | options
  deriving DecidableEq

/-- The word for a method. -/
def Method.word : Method → String
  | .get => "GET"
  | .post => "POST"
  | .put => "PUT"
  | .delete => "DELETE"
  | .patch => "PATCH"
  | .head => "HEAD"
  | .options => "OPTIONS"

/-- All methods. -/
def Method.all : List Method :=
  [.get, .post, .put, .delete, .patch, .head, .options]

/-- The method that a word stands for. -/
def Method.ofWord? (word : String) : Option Method :=
  Method.all.find? fun m => m.word == word

/-- The places that a parameter may be in. -/
def parameterLocations : List String := ["query", "path", "header", "body"]

/-- The types that a parameter or a schema may have. -/
def schemaTypes : List String := ["string", "number", "boolean", "array", "object"]

/-- The types of authentication. -/
def authenticationTypes : List String := ["bearer", "apiKey", "basic", "oauth2"]

/-- The media types that a request body may have. -/
def bodyTypes : List String :=
  ["application/json", "application/x-www-form-urlencoded", "multipart/form-data"]

namespace Endpoint

/-- The parameters in a place, in order. -/
def parametersIn (e : Endpoint) (place : String) : List Parameter :=
  (e.parameters.getD []).filter fun p => p.location == some place

/-- The parameters that fill the path. -/
def pathParameters (e : Endpoint) : List Parameter :=
  e.parametersIn "path"

/-- The parameters that follow the path. -/
def queryParameters (e : Endpoint) : List Parameter :=
  e.parametersIn "query"

/-- The index and the schema of the first response that reports success and has a schema. -/
def success? (e : Endpoint) : Option (Nat × Schema) :=
  go 0 e.responses
where
  /-- Searches the responses from an index on. -/
  go (i : Nat) : List Response → Option (Nat × Schema)
    | [] => none
    | r :: rest =>
      let code := r.statusCode.getD 0
      match decide (200 ≤ code ∧ code < 300), r.schema with
      | true, some schema => some (i, schema)
      | _, _ => go (i + 1) rest

end Endpoint

end ClientSynth
