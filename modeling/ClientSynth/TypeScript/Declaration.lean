import ClientSynth.TypeScript.Comment
import ClientSynth.TypeScript.TypeExpr

/-!
# Type declarations

An exported interface or type alias, and its text. An interface lists its members, each on a line of
its own, after a comment if the member has a description.
-/

namespace ClientSynth.TypeScript

/-- A member of an interface. -/
structure Member where
  key : String
  isOptional : Bool
  type : TypeExpr
  description : Option String

namespace Member

/-- The line of a member, after the line of its comment. -/
def text (m : Member) : String :=
  let line := "  " ++ TypeExpr.memberText m.key m.isOptional m.type.text ++ ";"
  match m.description.filter fun d => !d.isEmpty with
  | none => line
  | some d => "  " ++ lineComment d ++ "\n" ++ line

/-- The members for properties of which some are required. -/
def ofProperties (properties : List (String × Schema)) (required : Option (List String)) :
    List Member :=
  properties.map fun (key, s) =>
    ⟨key, !(required.getD []).contains key, TypeExpr.ofSchema s, s.description⟩

end Member

/-- What an alias stands for. -/
inductive AliasBody where
  | type (type : TypeExpr)
  /-- A list of things of a declared type. -/
  | listOf (name : String)
  | unknown

/-- The text of what an alias stands for. -/
def AliasBody.text : AliasBody → String
  | .type t => t.text
  | .listOf name => name ++ "[]"
  | .unknown => "unknown"

/-- An exported declaration of a type. -/
inductive Declaration where
  | interface (comment : Option String) (name : String) (members : List Member)
  | alias (name : String) (body : AliasBody)

namespace Declaration

/-- The name that a declaration declares. -/
def name : Declaration → String
  | .interface _ name _ => name
  | .alias name _ => name

/-- The text of an interface. -/
def interfaceText (name : String) (members : List Member) : String :=
  "export interface " ++ name ++ " \x7b\n" ++ "\n".intercalate (members.map Member.text) ++ "\n\x7d"

/-- The text of a declaration. -/
def text : Declaration → String
  | .interface none name members => interfaceText name members
  | .interface (some comment) name members =>
    lineComment comment ++ "\n" ++ interfaceText name members
  | .alias name body => "export type " ++ name ++ " = " ++ body.text ++ ";"

end Declaration

end ClientSynth.TypeScript
