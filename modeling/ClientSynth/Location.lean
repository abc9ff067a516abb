import ClientSynth.Text.Basic

/-!
# Locations in a document

A `Location` is the way from the root of a document to a value in it, by keys and indexes.
`Location.text` writes it with dots and brackets, as in `endpoints[0].parameters[1].name`, and
`FieldPath.covers` tells by these texts whether one place is at or below another.
-/

namespace ClientSynth

/-- One step from a collection to a value in it. -/
inductive Step where
  | key (name : String)
  | index (i : Int)
  deriving DecidableEq, Inhabited

/-- The steps from the root of a document to a value, the first one first. -/
abbrev Location := List Step

namespace Location

/-- The text of a location after the text of the steps before it. -/
def textAfter (before : String) : Location → String
  | [] => before
  | .index i :: rest => textAfter (before ++ "[" ++ Text.ofInt i ++ "]") rest
  | .key name :: rest =>
    textAfter (if before.isEmpty then name else before ++ "." ++ name) rest

/-- A location with dots before keys and indexes in brackets. -/
def text (location : Location) : String :=
  textAfter "" location

/-- The location of a member. -/
def key (location : Location) (name : String) : Location :=
  location ++ [.key name]

/-- The location of an item. -/
def index (location : Location) (i : Nat) : Location :=
  location ++ [.index i]

/-- The location itself and the ones above it, up to the first step. -/
def selfAndAbove (location : Location) : List Location :=
  ((List.range location.length).map fun i => location.take (i + 1)).reverse

end Location

namespace FieldPath

/-- Whether a written location is another one, or goes on from it with a dot or a bracket. -/
def covers (above path : String) : Bool :=
  path == above || (above ++ ".").toList.isPrefixOf path.toList ||
    (above ++ "[").toList.isPrefixOf path.toList

end FieldPath

end ClientSynth
