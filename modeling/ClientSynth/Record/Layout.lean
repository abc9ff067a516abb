import ClientSynth.Value

/-!
# Layouts of records

A document is made of records. `RecordName.fields` lists the fields of each: the key that a field is
spelled with, the other key that is accepted for it, the kind of its value, and what stands for it
when it is missing. Layouts are data: `ClientSynth.Record.Conform` reads values by them.
-/

namespace ClientSynth

/-- The kinds of record. -/
inductive RecordName where
  | authentication
  | parameter
  | schema
  | requestBody
  | response
  | endpoint
  | model
  | environment
  | document
  | fault
  | remark
  | report
  | service
  | artifacts
  | settings
  | userSettings
  deriving DecidableEq, Inhabited

/-- What a value has to be. -/
inductive Kind where
  | any
  | text
  | integer
  | number
  | flag
  /-- One of the codes of faults. -/
  | faultCode
  /-- The word `error`. -/
  | severity
  | list (item : Kind)
  /-- A mapping from texts. -/
  | table (item : Kind)
  | record (name : RecordName)
  deriving DecidableEq, Inhabited

/-- One field of a record. -/
structure Field where
  /-- The key that is looked for first, and that a record is written with. -/
  key : String
  /-- The key that is looked for next. -/
  otherKey : String
  kind : Kind
  /-- Whether the absent value is accepted. -/
  nullable : Bool
  /-- What stands for a missing field; nothing does for a required one. -/
  default : Option Value

namespace Field

/-- A field that may be absent. -/
def optional (key otherKey : String) (kind : Kind) : Field :=
  ⟨key, otherKey, kind, true, some .null⟩

/-- A field that may be missing, with what stands for it. -/
def withDefault (key otherKey : String) (kind : Kind) (default : Value) : Field :=
  ⟨key, otherKey, kind, false, some default⟩

/-- A field that has to be there. -/
def required (key otherKey : String) (kind : Kind) : Field :=
  ⟨key, otherKey, kind, false, none⟩

end Field

/-- The codes of faults. -/
def faultCodes : List String :=
  ["REQUIRED_FIELD", "INVALID_FORMAT", "INVALID_URL", "DUPLICATE_ID", "DUPLICATE_ENDPOINT",
   "MISSING_PATH_PARAM", "INVALID_VALUE", "INVALID_RANGE", "DUPLICATE_STATUS",
   "INVALID_STATUS_CODE"]

namespace RecordName

/-- The name that messages give to a kind of record. -/
def label : RecordName → String
  | .authentication => "AuthConfig"
  | .parameter => "Parameter"
  | .schema => "PropertySchema"
  | .requestBody => "RequestBodySchema"
  | .response => "ResponseSchema"
  | .endpoint => "Endpoint"
  | .model => "ModelSchema"
  | .environment => "Environment"
  | .document => "APIDocumentation"
  | .fault => "ValidationError"
  | .remark => "ValidationWarning"
  | .report => "ValidationResult"
  | .service => "GeneratedService"
  | .artifacts => "ServiceGenerationResult"
  | .settings => "GeneratorConfig"
  | .userSettings => "GlobalConfig"

/-- The settings of a generator that nothing sets. -/
def settingsFields : List Field :=
  [.withDefault "client_name" "client_name" .text (.text "apiClient"),
   .withDefault "client_import" "client_import" .text (.text "@/lib/api-client"),
   .withDefault "client_factory_import" "client_factory_import" .text
     (.text "@/lib/api-client-factory"),
   .withDefault "query_library" "query_library" .text (.text "@tanstack/react-query"),
   .withDefault "include_types" "include_types" .flag (.bool true),
   .withDefault "include_hooks" "include_hooks" .flag (.bool true)]

/-- A record with the default of every field. -/
def defaults (fields : List Field) : Value :=
  .object (fields.map fun f => (f.key, f.default.getD .null))

/-- The fields of a record, in order. -/
def fields : RecordName → List Field
  | .authentication =>
    [.optional "type" "type" .text,
     .optional "headerName" "header_name" .text,
     .optional "tokenPrefix" "token_prefix" .text,
     .optional "description" "description" .text]
  | .parameter =>
    [.optional "name" "name" .text,
     .optional "in" "location" .text,
     .withDefault "required" "required" .flag (.bool false),
     .optional "type" "type" .text,
     .optional "description" "description" .text,
     .optional "example" "example" .any,
     .optional "enum" "enum" (.list .text),
     .optional "format" "format" .text,
     .optional "pattern" "pattern" .text,
     .optional "minimum" "minimum" .number,
     .optional "maximum" "maximum" .number,
     .optional "minLength" "min_length" .integer,
     .optional "maxLength" "max_length" .integer]
  | .schema =>
    [.optional "type" "type" .text,
     .optional "description" "description" .text,
     .optional "example" "example" .any,
     .optional "enum" "enum" (.list .text),
     .optional "format" "format" .text,
     .optional "items" "items" (.record .schema),
     .optional "properties" "properties" (.table (.record .schema)),
     .optional "required" "required" (.list .text)]
  | .requestBody =>
    [.optional "contentType" "content_type" .text,
     .optional "schema" "schema_" (.record .schema),
     .optional "example" "example" .any]
  | .response =>
    [.optional "statusCode" "status_code" .integer,
     .optional "description" "description" .text,
     .optional "contentType" "content_type" .text,
     .optional "schema" "schema_" (.record .schema),
     .optional "example" "example" .any]
  | .endpoint =>
    [.optional "id" "id" .text,
     .optional "name" "name" .text,
     .optional "method" "method" .text,
     .optional "path" "path" .text,
     .optional "summary" "summary" .text,
     .optional "description" "description" .text,
     .withDefault "tags" "tags" (.list .text) (.list []),
     .optional "parameters" "parameters" (.list (.record .parameter)),
     .optional "requestBody" "request_body" (.record .requestBody),
     .withDefault "responses" "responses" (.list (.record .response)) (.list []),
     .withDefault "deprecated" "deprecated" .flag (.bool false)]
  | .model =>
    [.optional "name" "name" .text,
     .optional "description" "description" .text,
     .optional "type" "type" .text,
     .optional "properties" "properties" (.table (.record .schema)),
     .optional "required" "required" (.list .text),
     .optional "example" "example" .any]
  | .environment =>
    [.required "name" "name" .text,
     .required "baseURL" "base_url" .text,
     .optional "description" "description" .text]
  | .document =>
    [.optional "title" "title" .text,
     .optional "version" "version" .text,
     .optional "description" "description" .text,
     .optional "baseURL" "base_url" .text,
     .optional "authentication" "authentication" (.record .authentication),
     .optional "globalHeaders" "global_headers" (.table .text),
     .optional "timeout" "timeout" .integer,
     .withDefault "endpoints" "endpoints" (.list (.record .endpoint)) (.list []),
     .optional "models" "models" (.table (.record .model)),
     .optional "environments" "environments" (.list (.record .environment)),
     .optional "metadata" "metadata" (.table .any)]
  | .fault =>
    [.required "field" "field" .text,
     .required "message" "message" .text,
     .required "code" "code" .faultCode,
     .withDefault "severity" "severity" .severity (.text "error"),
     .optional "suggestion" "suggestion" .text]
  | .remark =>
    [.required "field" "field" .text,
     .required "message" "message" .text,
     .optional "suggestion" "suggestion" .text]
  | .report =>
    [.withDefault "errors" "errors" (.list (.record .fault)) (.list []),
     .withDefault "warnings" "warnings" (.list (.record .remark)) (.list [])]
  | .service =>
    [.required "name" "name" .text,
     .required "functionName" "function_name" .text,
     .required "code" "code" .text,
     .withDefault "types" "types" (.list .text) (.list []),
     .withDefault "imports" "imports" (.list .text) (.list []),
     .required "endpoint" "endpoint" (.record .endpoint)]
  | .artifacts =>
    [.withDefault "services" "services" (.list (.record .service)) (.list []),
     .withDefault "types" "types" .text (.text ""),
     .withDefault "servicesCode" "services_code" .text (.text ""),
     .withDefault "hooks" "hooks" .text (.text ""),
     .withDefault "index" "index" .text (.text ""),
     .withDefault "totalFunctions" "total_functions" .integer (.int 0)]
  | .settings => settingsFields
  | .userSettings =>
    [.withDefault "generator" "generator" (.record .settings) (defaults settingsFields)]

/-- Whether keys of no field are kept: they are in records of a document. -/
def keepsExtras : RecordName → Bool
  | .authentication | .parameter | .schema | .requestBody | .response | .endpoint | .model
  | .environment | .document => true
  | .fault | .remark | .report | .service | .artifacts | .settings | .userSettings => false

end RecordName

end ClientSynth
