import ClientSynth.Location
import ClientSynth.Record.Layout
import ClientSynth.Text.Quoted

/-!
# Rejections

Why a value is refused where a record asks for another kind of value, and where. A cause has a short
label for programs and a message for people.
-/

namespace ClientSynth

/-- Why a value is refused. -/
inductive Cause where
  | missing
  | notText
  | brokenText
  | notInteger
  | integerText
  | fractional
  | notFinite
  | integerSize
  | notNumber
  | numberText
  | notFlag
  | flagWord
  | notList
  | notTable
  | notRecord (name : RecordName)
  | keyNotText
  | notFaultCode
  | notSeverity
  deriving DecidableEq

namespace Cause

/-- Words in quotes, with commas between them and `or` before the last one. -/
def alternatives : List String → String
  | [] => ""
  | [word] => "'" ++ word ++ "'"
  | [word, last] => "'" ++ word ++ "' or '" ++ last ++ "'"
  | word :: rest => "'" ++ word ++ "', " ++ alternatives rest

/-- The short label of a cause. -/
def label : Cause → String
  | .missing => "missing"
  | .notText => "string_type"
  | .brokenText => "string_unicode"
  | .notInteger => "int_type"
  | .integerText => "int_parsing"
  | .fractional => "int_from_float"
  | .notFinite => "finite_number"
  | .integerSize => "int_parsing_size"
  | .notNumber => "float_type"
  | .numberText => "float_parsing"
  | .notFlag => "bool_type"
  | .flagWord => "bool_parsing"
  | .notList => "list_type"
  | .notTable => "dict_type"
  | .notRecord _ => "model_type"
  | .keyNotText => "invalid_key"
  | .notFaultCode => "enum"
  | .notSeverity => "literal_error"

/-- The message of a cause. -/
def message : Cause → String
  | .missing => "Field required"
  | .notText => "Input should be a valid string"
  | .brokenText => "Input should be a valid string, unable to parse raw data as a unicode string"
  | .notInteger => "Input should be a valid integer"
  | .integerText => "Input should be a valid integer, unable to parse string as an integer"
  | .fractional => "Input should be a valid integer, got a number with a fractional part"
  | .notFinite => "Input should be a finite number"
  | .integerSize => "Unable to parse input string as an integer, exceeded maximum size"
  | .notNumber => "Input should be a valid number"
  | .numberText => "Input should be a valid number, unable to parse string as a number"
  | .notFlag => "Input should be a valid boolean"
  | .flagWord => "Input should be a valid boolean, unable to interpret input"
  | .notList => "Input should be a valid list"
  | .notTable => "Input should be a valid dictionary"
  | .notRecord name => "Input should be a valid dictionary or instance of " ++ name.label
  | .keyNotText => "Keys should be strings"
  | .notFaultCode => "Input should be " ++ alternatives faultCodes
  | .notSeverity => "Input should be 'error'"

end Cause

/-- A refused value: where it stands, why it is refused, and the value. -/
structure Rejection where
  location : Location
  cause : Cause
  found : Value

/-- The rejection as seen from a collection one step above. -/
def Rejection.below (step : Step) (r : Rejection) : Rejection :=
  { r with location := step :: r.location }

namespace Rejection

/-- The steps of a location with dots between them. -/
def dottedText (location : Location) : String :=
  ".".intercalate (location.map fun
    | .key name => name
    | .index i => Text.ofInt i)

/-- The text of one rejection in a list: its location, unless it is the root, on one line, and its
cause with the value on the next. -/
def itemText (r : Rejection) : String :=
  (if r.location.isEmpty then "" else "\n" ++ dottedText r.location) ++
    "\n  " ++ r.cause.message ++ " [type=" ++ r.cause.label ++
    ", input_value=" ++ Value.clipped r.found.shown ++ ", input_type=" ++ r.found.kindName ++ "]"

/-- The text of the rejections in a value that is to be a record: their number, and each of them. -/
def listText (record : RecordName) (rs : List Rejection) : String :=
  Text.ofNat rs.length ++ " validation error" ++ (if rs.length = 1 then "" else "s") ++ " for " ++
    record.label ++ String.join (rs.map itemText)

end Rejection

end ClientSynth
