import ClientSynth.Document.Read
import ClientSynth.Validation.Diagnostic

/-!
# Salvaging a document

A value of the wrong kind is reported and taken out, until what is left is a document: a member of a
mapping is removed, an item of a list is emptied first, and where nothing can be taken out the value
around it goes. `Value.salvage` gives what is left with all that was taken out.
-/

namespace ClientSynth

namespace Value

mutual

/-- The value with a list for each pair. -/
def plain : Value → Value
  | .scalar s => .scalar s
  | .list items => .list (plainItems items)
  | .map entries => .map (plainEntries entries)
  | .set members => .set members
  | .pair a b => .list [plain a, plain b]

/-- Items with a list for each pair. -/
def plainItems : List Value → List Value
  | [] => []
  | v :: rest => plain v :: plainItems rest

/-- Entries with a list for each pair. -/
def plainEntries : List (Scalar × Value) → List (Scalar × Value)
  | [] => []
  | (k, v) :: rest => (k, plain v) :: plainEntries rest

end

/-- Whether a value is a mapping without entries. -/
def isEmptyMap : Value → Bool
  | .map [] => true
  | _ => false

end Value

/-- The key that a step goes by. -/
def Step.scalar : Step → Scalar
  | .key name => .text name
  | .index i => .int i

/-- The place in a list that a step goes to. -/
def Step.position? (length : Nat) : Step → Option Nat
  | .key _ => none
  | .index i => if 0 ≤ i ∧ i < length then some i.toNat else none

namespace Value

/-- Takes the value at a location out, unless there is nothing to take out there. -/
def discard (location : Location) (v : Value) : Option Value :=
  match location, v with
  | [step], .map entries =>
    (lookupEntry step.scalar entries).map fun _ => .map (eraseEntry step.scalar entries)
  | [step], .list items => do
    let i ← step.position? items.length
    let item ← items[i]?
    if item.isEmptyMap then none else some (.list (items.set i (.map [])))
  | step :: rest, .map entries => do
    let child ← lookupEntry step.scalar entries
    let child ← child.discard rest
    some (.map (insertEntry step.scalar child entries))
  | step :: rest, .list items => do
    let i ← step.position? items.length
    let item ← items[i]?
    let item ← item.discard rest
    some (.list (items.set i item))
  | _, _ => none

/-- Takes out the value at the first of some locations where there is one, and gives the locations
that were tried. -/
def discardFirst (v : Value) : List Location → Value × List Location
  | [] => (v, [])
  | location :: rest =>
    match v.discard location with
    | some v => (v, [location])
    | none =>
      let (v, tried) := v.discardFirst rest
      (v, location :: tried)

/-- Takes out rejected values one after the other, each at its location or the nearest one above. -/
def discardAll (v : Value) : List Rejection → Value × List Location
  | [] => (v, [])
  | r :: rest =>
    let (v, tried) := v.discardFirst r.location.selfAndAbove
    let (v, later) := v.discardAll rest
    (v, tried ++ later)

end Value

/-- Whether a place is at or below one of the rejected locations, as their texts tell. -/
def isSuppressed (rejected : List Location) (place : Location) : Bool :=
  rejected.any fun r => FieldPath.covers r.text place.text

/-- What is left of a value, the rejections that were reported on the way and the locations that
were taken out. -/
structure Salvage where
  /-- The document, unless values could not be taken out. -/
  document : Option Document
  reported : List Rejection
  rejected : List Location

/-- The number of times that values are taken out before giving up. -/
def maxPasses : Nat := 50

/-- Takes rejected values out until a document is left, at most so many times. A rejection at or
below a location that was taken out earlier is not reported. -/
def Value.salvageFrom (v : Value) (rejected : List Location) : Nat → Salvage
  | 0 => ⟨none, [], rejected⟩
  | passes + 1 =>
    match Document.ofValue v with
    | .ok d => ⟨some d, [], rejected⟩
    | .error rs =>
      let reported := rs.filter fun r => !isSuppressed rejected r.location
      let (left, tried) := v.discardAll rs
      let later := left.salvageFrom (rejected ++ tried) passes
      { later with reported := reported ++ later.reported }

/-- Takes rejected values out until a document is left. -/
def Value.salvage (v : Value) : Salvage :=
  v.plain.salvageFrom [] maxPasses

end ClientSynth
