import ClientSynth.Document.Basic
import ClientSynth.Record.Rejection

/-!
# Faults and remarks

What validation has to say about a place of a document. A `Fault` makes a document invalid and has a
code; a `Remark` does not. Both are causes, and their texts are functions of the cause.
-/

namespace ClientSynth

/-- The code of a fault. -/
inductive FaultCode where
  | requiredField
  | invalidFormat
  | invalidUrl
  | duplicateId
  | duplicateEndpoint
  | missingPathParam
  | invalidValue
  | invalidRange
  | duplicateStatus
  | invalidStatusCode
  deriving DecidableEq

namespace FaultCode

/-- The word for a code. -/
def word : FaultCode → String
  | .requiredField => "REQUIRED_FIELD"
  | .invalidFormat => "INVALID_FORMAT"
  | .invalidUrl => "INVALID_URL"
  | .duplicateId => "DUPLICATE_ID"
  | .duplicateEndpoint => "DUPLICATE_ENDPOINT"
  | .missingPathParam => "MISSING_PATH_PARAM"
  | .invalidValue => "INVALID_VALUE"
  | .invalidRange => "INVALID_RANGE"
  | .duplicateStatus => "DUPLICATE_STATUS"
  | .invalidStatusCode => "INVALID_STATUS_CODE"

/-- What to do about a fault of a code. -/
def suggestion : FaultCode → String
  | .requiredField => "Fill in every required field"
  | .invalidFormat => "Check that the value uses the expected format"
  | .invalidUrl => "Check the URL format and include the scheme (http:// or https://)"
  | .duplicateId => "Make sure every endpoint id is unique"
  | .duplicateEndpoint => "Make sure every method and path combination is unique"
  | .missingPathParam => "Declare every path parameter in the parameter list"
  | .invalidValue => "Use one of the allowed values"
  | .invalidRange => "Make sure the lower bound does not exceed the upper bound"
  | .duplicateStatus => "Give each response of an endpoint a distinct status code"
  | .invalidStatusCode => "Use a valid HTTP status code (100-599)"

end FaultCode

/-- What makes a document invalid. -/
inductive Fault where
  | rejected (cause : Cause)
  | notAnObject
  | noTitle
  | noVersion
  | badVersion
  | noBaseUrl
  | badBaseUrl
  | noEndpoints
  | badAuthenticationType
  | noHeaderName
  | noEndpointId
  | noEndpointName
  | badMethod
  | noPath
  | badPath
  | undeclaredToken (name : String)
  | repeatedId (id : String)
  | repeatedRoute (method path : String)
  | noParameterName
  | badParameterLocation
  | badParameterType
  | badNumberRange
  | badLengthRange
  | badBodyType
  | noBodySchema
  | noResponses
  | noStatus
  | repeatedStatus (code : Int)
  | badStatus (code : Int)
  | noSchemaType
  | badSchemaType
  | badModelType
  | noModelProperties
  deriving DecidableEq

namespace Fault

/-- The code of a fault. -/
def code : Fault → FaultCode
  | .rejected cause => if cause = .missing then .requiredField else .invalidValue
  | .notAnObject | .badAuthenticationType | .badMethod | .badParameterLocation
  | .badParameterType | .badBodyType | .badSchemaType | .badModelType => .invalidValue
  | .noTitle | .noVersion | .noBaseUrl | .noEndpoints | .noHeaderName | .noEndpointId
  | .noEndpointName | .noPath | .noParameterName | .noBodySchema | .noResponses | .noStatus
  | .noSchemaType | .noModelProperties => .requiredField
  | .badVersion | .badPath => .invalidFormat
  | .badBaseUrl => .invalidUrl
  | .undeclaredToken _ => .missingPathParam
  | .repeatedId _ => .duplicateId
  | .repeatedRoute _ _ => .duplicateEndpoint
  | .badNumberRange | .badLengthRange => .invalidRange
  | .repeatedStatus _ => .duplicateStatus
  | .badStatus _ => .invalidStatusCode

/-- Words with commas between them. -/
def listed (words : List String) : String :=
  ", ".intercalate words

/-- The message of a fault. -/
def message : Fault → String
  | .rejected cause => cause.message
  | .notAnObject => "Documentation must be an object"
  | .noTitle => "Title is required"
  | .noVersion => "Version is required"
  | .badVersion => "Version must look like \"1.0.0\""
  | .noBaseUrl => "Base URL is required"
  | .badBaseUrl => "Base URL is not a valid absolute URL"
  | .noEndpoints => "Documentation must contain at least one endpoint"
  | .badAuthenticationType =>
    "Authentication type must be one of: " ++ listed authenticationTypes
  | .noHeaderName => "API key authentication must name its header"
  | .noEndpointId => "Endpoint id is required"
  | .noEndpointName => "Endpoint name is required"
  | .badMethod => "HTTP method must be one of: " ++ listed (Method.all.map Method.word)
  | .noPath => "Endpoint path is required"
  | .badPath => "Endpoint path must start with \"/\""
  | .undeclaredToken name =>
    "Path parameter \"\x7b" ++ name ++ "\x7d\" is not declared in the parameter list"
  | .repeatedId id => "Endpoint id \"" ++ id ++ "\" is duplicated"
  | .repeatedRoute method path =>
    "Method and path \"" ++ method ++ ":" ++ path ++ "\" are duplicated"
  | .noParameterName => "Parameter name is required"
  | .badParameterLocation => "Parameter location must be one of: " ++ listed parameterLocations
  | .badParameterType => "Parameter type must be one of: " ++ listed schemaTypes
  | .badNumberRange => "minimum must not exceed maximum"
  | .badLengthRange => "minLength must not exceed maxLength"
  | .badBodyType => "Content type must be one of: " ++ listed bodyTypes
  | .noBodySchema => "Request body must define a schema"
  | .noResponses => "Endpoint must define at least one response"
  | .noStatus => "Response status code is required"
  | .repeatedStatus code => "Status code " ++ Text.ofInt code ++ " is duplicated"
  | .badStatus code => Text.ofInt code ++ " is not a valid HTTP status code"
  | .noSchemaType => "Schema type is required"
  | .badSchemaType => "Schema type must be one of: " ++ listed schemaTypes
  | .badModelType => "Model type must be \"object\""
  | .noModelProperties => "Model must define properties"

end Fault

/-- What could be better about a document or the code made from it. -/
inductive Remark where
  | noDescription
  | noAuthentication
  | unusualTokenPrefix
  | noEndpointSummary
  | noEndpointDescription
  | noParameterDescription
  | noResponseDescription
  | noSuccessResponse
  /-- Several endpoints, by their indexes, have one function name. -/
  | sharedFunction (name : String) (endpoints : List Nat)
  /-- Several endpoints, by their indexes, have one method and path. -/
  | sharedRoute (route : String) (endpoints : List Nat)
  | badFunctionName (name : String)
  | notExported (name : String)
  | noPromise (name : String)
  | anyInSignature (name : String)
  | noErrorHandling (name : String)
  | noComment (name : String)
  | deprecated (endpoint : Option String)
  | noTypes
  | repeatedInterfaces (names : List String)
  | unnamedInterface
  | untypedMember
  deriving DecidableEq

namespace Remark

/-- Endpoints by their indexes. -/
def endpointsText (indexes : List Nat) : String :=
  ", ".intercalate (indexes.map fun i => "endpoints[" ++ Text.ofNat i ++ "]")

/-- The message of a remark. -/
def message : Remark → String
  | .noDescription => "Consider adding a description of the API"
  | .noAuthentication =>
    "Consider configuring authentication so clients know how the API is secured"
  | .unusualTokenPrefix => "Bearer tokens are normally prefixed with \"Bearer\""
  | .noEndpointSummary => "Consider adding a short summary"
  | .noEndpointDescription => "Consider adding a description"
  | .noParameterDescription => "Consider describing this parameter"
  | .noResponseDescription => "Consider describing this response"
  | .noSuccessResponse => "Consider defining at least one successful (2xx) response"
  | .sharedFunction name endpoints =>
    "Function name \"" ++ name ++ "\" is generated for " ++ endpointsText endpoints
  | .sharedRoute route endpoints =>
    "Route \"" ++ route ++ "\" is generated for " ++ endpointsText endpoints
  | .badFunctionName name => "\"" ++ name ++ "\" is not a valid function name"
  | .notExported name => name ++ " is not exported"
  | .noPromise name => name ++ " does not declare a Promise return type"
  | .anyInSignature name => name ++ " uses \"any\" in its signature"
  | .noErrorHandling name => name ++ " has no error handling"
  | .noComment name => name ++ " has no JSDoc comment"
  | .deprecated endpoint => "Endpoint \"" ++ endpoint.getD "None" ++ "\" is deprecated"
  | .noTypes => "No exported type declarations found"
  | .repeatedInterfaces names => "Duplicate interface names: " ++ ", ".intercalate names
  | .unnamedInterface => "Interface declaration without a name"
  | .untypedMember => "Member declaration without a type"

/-- What to do about a remark. -/
def suggestion : Remark → Option String
  | .noDescription | .noAuthentication | .unusualTokenPrefix | .noEndpointSummary
  | .noEndpointDescription | .noParameterDescription | .noResponseDescription
  | .noSuccessResponse => none
  | .sharedFunction _ _ => some "Rename one of the endpoints"
  | .sharedRoute _ _ => some "Give each endpoint a unique method and path"
  | .badFunctionName _ => some "Give the endpoint a name that contains letters"
  | .notExported _ => some "Export the service function"
  | .noPromise _ => some "Return a typed Promise"
  | .anyInSignature _ => some "Give every path parameter a known type"
  | .noErrorHandling _ => some "Wrap the client call in try/catch"
  | .noComment _ => some "Add a summary to the endpoint"
  | .deprecated _ => some "Plan a migration away from this endpoint"
  | .noTypes | .repeatedInterfaces _ | .unnamedInterface | .untypedMember =>
    some "Check the schemas behind the generated types"

end Remark

/-- Something said about a place of a document. -/
structure Located (α : Type) where
  location : Location
  what : α

/-- A fault or a remark about a place of a document. -/
inductive Finding where
  | fault (location : Location) (fault : Fault)
  | remark (location : Location) (remark : Remark)

namespace Finding

/-- The place that a finding is about. -/
def location : Finding → Location
  | .fault location _ => location
  | .remark location _ => location

/-- The fault that a finding is. -/
def fault? : Finding → Option (Located Fault)
  | .fault location f => some ⟨location, f⟩
  | .remark _ _ => none

/-- The remark that a finding is. -/
def remark? : Finding → Option (Located Remark)
  | .fault _ _ => none
  | .remark location r => some ⟨location, r⟩

end Finding

/-- The outcome of validation: faults and remarks, each in order. -/
structure Report where
  errors : List (Located Fault)
  warnings : List (Located Remark)

namespace Report

/-- The report of findings. -/
def ofFindings (findings : List Finding) : Report where
  errors := findings.filterMap Finding.fault?
  warnings := findings.filterMap Finding.remark?

/-- Whether there are no faults. -/
def isValid (r : Report) : Bool :=
  r.errors.isEmpty

/-- A fault as a record. -/
def faultValue (f : Located Fault) : Value :=
  .object
    [("field", .text f.location.text), ("message", .text f.what.message),
     ("code", .text f.what.code.word), ("severity", .text "error"),
     ("suggestion", .text f.what.code.suggestion)]

/-- A remark as a record, without a suggestion when it has none. -/
def remarkValue (r : Located Remark) : Value :=
  .object
    ([("field", .text r.location.text), ("message", .text r.what.message)] ++
      (r.what.suggestion.map fun s => ("suggestion", .text s)).toList)

/-- A report as a record. -/
def value (r : Report) : Value :=
  .object
    [("errors", .list (r.errors.map faultValue)),
     ("warnings", .list (r.warnings.map remarkValue)),
     ("isValid", .bool r.isValid)]

end Report

end ClientSynth
