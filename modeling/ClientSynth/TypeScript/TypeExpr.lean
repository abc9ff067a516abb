import ClientSynth.Document.Basic
import ClientSynth.Text.Basic
import ClientSynth.TypeScript.Identifier

/-!
# Type expressions

`TypeExpr` is the shape that a schema has in TypeScript, and `TypeExpr.text` writes it.
`TypeExpr.ofSchema` maps a schema of any depth to its shape: a schema of no known type may be
anything, and a member of an object is optional unless the schema requires it. `unknownTypes` lists
the types that are not known.
-/

namespace ClientSynth.TypeScript

/-- A type expression. -/
inductive TypeExpr where
  | any
  | number
  | boolean
  | string
  /-- One of some texts, of which there is at least one. -/
  | literals (first : String) (rest : List String)
  | array (item : TypeExpr)
  /-- An object of which no member is known. -/
  | record
  /-- An object with these members: key, whether it is optional, and type. -/
  | object (members : List (String × Bool × TypeExpr))
  deriving Inhabited

namespace TypeExpr

/-- The text of a member. -/
def memberText (key : String) (isOptional : Bool) (type : String) : String :=
  memberKey key ++ (if isOptional then "?" else "") ++ ": " ++ type

/-- The type of a list of things of a type: what holds an alternative stands in parentheses. -/
def arrayText (item : String) : String :=
  if Text.occursIn " | ".toList item.toList then "(" ++ item ++ ")[]" else item ++ "[]"

mutual

/-- The text of a type. -/
def text : TypeExpr → String
  | .any => "any"
  | .number => "number"
  | .boolean => "boolean"
  | .string => "string"
  | .literals first rest => " | ".intercalate ((first :: rest).map literal)
  | .array item => arrayText item.text
  | .record => "Record<string, any>"
  | .object members => "\x7b " ++ "; ".intercalate (memberTexts members) ++ " \x7d"

/-- The texts of members. -/
def memberTexts : List (String × Bool × TypeExpr) → List String
  | [] => []
  | (key, isOptional, type) :: rest => memberText key isOptional type.text :: memberTexts rest

end

mutual

/-- The shape of a schema. -/
def ofSchema : Schema → TypeExpr
  | ⟨type, _, _, enum, _, items, properties, required⟩ =>
    match type with
    | some "string" => match enum with
      | some (first :: rest) => .literals first rest
      | _ => .string
    | some "number" => .number
    | some "boolean" => .boolean
    | some "array" => .array (ofSchema? items)
    | some "object" => ofProperties (required.getD []) properties
    | _ => .any

/-- The shape of a schema that may be missing. -/
def ofSchema? : Option Schema → TypeExpr
  | none => .any
  | some s => ofSchema s

/-- The shape of an object with properties that may be missing. -/
def ofProperties (required : List String) : Option (List (String × Schema)) → TypeExpr
  | none => .record
  | some properties => .object (ofMembers required properties)

/-- The members of an object with properties. -/
def ofMembers (required : List String) : List (String × Schema) → List (String × Bool × TypeExpr)
  | [] => []
  | (key, s) :: rest => (key, !required.contains key, ofSchema s) :: ofMembers required rest

end

mutual

/-- The types in a schema that are none of the known ones, in order. A missing type is one of them.
-/
def unknownTypes : Schema → List (Option String)
  | ⟨type, _, _, _, _, items, properties, _⟩ =>
    match type with
    | some "string" | some "number" | some "boolean" => []
    | some "array" => unknownTypes? items
    | some "object" => propertiesUnknownTypes properties
    | type => [type]

/-- The unknown types in a schema that may be missing. -/
def unknownTypes? : Option Schema → List (Option String)
  | none => []
  | some s => unknownTypes s

/-- The unknown types in properties that may be missing. -/
def propertiesUnknownTypes : Option (List (String × Schema)) → List (Option String)
  | none => []
  | some properties => membersUnknownTypes properties

/-- The unknown types in properties. -/
def membersUnknownTypes : List (String × Schema) → List (Option String)
  | [] => []
  | (_, s) :: rest => unknownTypes s ++ membersUnknownTypes rest

end

/-- The schema of a parameter's values. -/
def parameterSchema (p : Parameter) : Schema where
  type := p.type
  description := p.description
  example_ := p.example_
  enum := p.enum
  format := p.format
  items := none
  properties := none
  required := none

/-- The shape of a parameter's values. -/
def ofParameter (p : Parameter) : TypeExpr :=
  ofSchema (parameterSchema p)

end TypeExpr

end ClientSynth.TypeScript
