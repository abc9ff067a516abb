import ClientSynth.Proofs.TypeTexts
import ClientSynth.Proofs.WellFormed

/-!
# Shapes of schemas

`Schema.HasShape` says what of a schema its type is meant to tell. Every schema has one shape, and
the type of a schema can be read, so that types are written alike for the same shape only
(`TypeExpr.text_ofSchema?_eq_iff`).

Existence and uniqueness of the shape are both inductions over schemas, along the recursion of the
printer; that the type of a schema can be read back then makes equal texts equal types, and equal
types are equal shapes (`TypeExpr.hasShape_iff`).
-/

namespace ClientSynth

open TypeScript

/-- The shape of a schema that may be missing: all that its type is meant to tell. -/
inductive Schema.HasShape : Option Schema → TypeExpr → Prop where
  | missing : HasShape none .any
  | unknown {s} : ¬IsWord schemaTypes s.type → HasShape (some s) .any
  | number {s} : s.type = some "number" → HasShape (some s) .number
  | boolean {s} : s.type = some "boolean" → HasShape (some s) .boolean
  | string {s} : s.type = some "string" → (∀ first rest, s.enum ≠ some (first :: rest)) →
    HasShape (some s) .string
  | literals {s first rest} : s.type = some "string" → s.enum = some (first :: rest) →
    HasShape (some s) (.literals first rest)
  | array {s item} : s.type = some "array" → HasShape s.items item → HasShape (some s) (.array item)
  | record {s} : s.type = some "object" → s.properties = none → HasShape (some s) .record
  | object {s properties members} : s.type = some "object" → s.properties = some properties →
    members.map Prod.fst = properties.map Prod.fst →
    (∀ m ∈ members, m.2.1 = true ↔ m.1 ∉ s.required.getD []) →
    (∀ (i : Nat) p m, properties[i]? = some p → members[i]? = some m →
      HasShape (some p.2) m.2.2) → HasShape (some s) (.object members)

namespace TypeScript.TypeExpr

/-- The members of an object's type, one for each property. -/
lemma ofMembers_eq (required : List String) (properties : List (String × Schema)) :
    ofMembers required properties =
      properties.map fun p => (p.1, !required.contains p.1, ofSchema p.2) := by
  induction properties with
  | nil => rfl
  | cons p rest ih =>
    obtain ⟨key, s⟩ := p
    rw [ofMembers, ih]
    rfl

/-- A schema of no known type has any type. -/
lemma ofSchema_unknown {s : Schema} (unknown : ¬IsWord schemaTypes s.type) : ofSchema s = .any := by
  obtain ⟨type, _, _, _, _, _, _, _⟩ := s
  unfold ofSchema
  split
  case h_6 => rfl
  all_goals exact absurd ⟨_, by decide, rfl⟩ unknown

mutual

/-- The type of a schema has its shape, by induction over its parts. -/
theorem hasShape_ofSchema : (s : Schema) → Schema.HasShape (some s) (ofSchema s)
  | ⟨type, description, example_, enum, format, items, properties, required⟩ => by
    have ofItems := hasShape_ofSchema? items
    have ofTable := hasShape_ofProperties properties
    unfold ofSchema
    split
    case h_1 =>
      split
      case h_1 => exact .literals rfl rfl
      case h_2 none => exact .string rfl none
    case h_2 => exact .number rfl
    case h_3 => exact .boolean rfl
    case h_4 => exact .array rfl ofItems
    case h_5 =>
      cases properties with
      | none => exact .record rfl rfl
      | some properties =>
        change Schema.HasShape _ (.object (ofMembers _ properties))
        rw [ofMembers_eq]
        refine .object rfl rfl (by simp) ?_ ?_
        · intro m mem
          obtain ⟨p, _, rfl⟩ := List.mem_map.mp mem
          simp
        · intro i p m here there
          rw [List.getElem?_map, here] at there
          obtain rfl := Option.some.inj there
          exact ofTable _ rfl p (List.mem_of_getElem? here)
    case h_6 string number boolean array object =>
      exact .unknown (not_isWord_schemaTypes string number boolean array object)

/-- The type of a schema that may be absent has its shape. -/
theorem hasShape_ofSchema? : (s : Option Schema) → Schema.HasShape s (ofSchema? s)
  | none => .missing
  | some s => hasShape_ofSchema s

/-- The types of the properties in a table have their shapes. -/
theorem hasShape_ofProperties : (table : Option (List (String × Schema))) →
    ∀ properties ∈ table, ∀ p ∈ properties, Schema.HasShape (some p.2) (ofSchema p.2)
  | none, _, mem => nomatch mem
  | some properties, _, mem => by
    have := hasShape_ofMembers properties
    rwa [← Option.mem_some_iff.mp mem]

/-- The types of a list of properties have their shapes. -/
theorem hasShape_ofMembers : (properties : List (String × Schema)) →
    ∀ p ∈ properties, Schema.HasShape (some p.2) (ofSchema p.2)
  | [], _, mem => nomatch mem
  | (_, s) :: rest, p, mem => by
    have here := hasShape_ofSchema s
    have later := hasShape_ofMembers rest
    rcases List.mem_cons.mp mem with rfl | mem
    · exact here
    · exact later p mem

end

/-- Members are those of a table if they have its keys in order, each with its mark and type. -/
lemma ofMembers_eq_of_forall {required : List String} {properties : List (String × Schema)}
    {members : List (String × Bool × TypeExpr)}
    (keys : members.map Prod.fst = properties.map Prod.fst)
    (optional : ∀ m ∈ members, m.2.1 = true ↔ m.1 ∉ required)
    (types : ∀ (i : Nat) p m, properties[i]? = some p → members[i]? = some m →
      ofSchema p.2 = m.2.2) : ofMembers required properties = members := by
  refine List.ext_getElem? fun i => ?_
  have key := congrArg (·[i]?) keys
  simp only [List.getElem?_map] at key
  rw [ofMembers_eq, List.getElem?_map]
  cases here : properties[i]? with
  | none =>
    rw [here] at key
    exact (Option.map_eq_none_iff.mp key).symm
  | some p =>
    rw [here] at key
    obtain ⟨m, there, same⟩ := Option.map_eq_some_iff.mp key
    have mark : (!required.contains p.1) = m.2.1 := by
      rw [Bool.eq_iff_iff, optional m (List.mem_of_getElem? there), same]
      simp
    rw [there, Option.map_some, mark, types i p m here there, ← same]

/-- A schema has no other shape than the one it is mapped to. -/
lemma ofSchema?_of_hasShape {s : Option Schema} {x : TypeExpr} (h : Schema.HasShape s x) :
    ofSchema? s = x := by
  induction h with
  | missing => rfl
  | unknown other => exact ofSchema_unknown other
  -- The type of a schema is computed once the schema is taken apart.
  | @number s type | @boolean s type =>
    obtain ⟨_, _, _, _, _, _, _, _⟩ := s
    cases type
    rfl
  | @string s type none =>
    obtain ⟨_, _, _, _, _, _, _, _⟩ := s
    cases type
    rw [ofSchema?, ofSchema]
    exact none
  | @literals s first rest type enum =>
    obtain ⟨_, _, _, _, _, _, _, _⟩ := s
    cases type
    cases enum
    rfl
  | @array s item type _ ih =>
    obtain ⟨_, _, _, _, _, _, _, _⟩ := s
    cases type
    exact congrArg TypeExpr.array ih
  | @record s type properties =>
    obtain ⟨_, _, _, _, _, _, _, _⟩ := s
    cases type
    cases properties
    rfl
  | @object s properties members type some keys optional _ ih =>
    obtain ⟨_, _, _, _, _, _, _, _⟩ := s
    cases type
    cases some
    exact congrArg TypeExpr.object (ofMembers_eq_of_forall keys optional ih)

/-- A type has the shape of a schema exactly if it is the type of the schema. -/
lemma hasShape_iff {s : Option Schema} {x : TypeExpr} :
    Schema.HasShape s x ↔ ofSchema? s = x :=
  ⟨ofSchema?_of_hasShape, fun same => same ▸ hasShape_ofSchema? s⟩

/-- Types lose nothing but what they are meant to lose: every schema has one shape, which is read
back from the text of its type, with each suffix behind the whole type of the items; and so two
schemas of any depth are written alike exactly when they have the same shape. -/
theorem text_ofSchema?_eq_iff (s t : Option Schema) :
    (∃! x, Schema.HasShape s x) ∧
      (∀ x, Schema.HasShape s x ↔ read? (ofSchema? s).text = some x) ∧
      ((ofSchema? s).text = (ofSchema? t).text ↔
        ∀ x, Schema.HasShape s x ↔ Schema.HasShape t x) := by
  refine ⟨⟨_, hasShape_ofSchema? s, fun x shape => (ofSchema?_of_hasShape shape).symm⟩, ?_, ?_⟩
  · intro x
    rw [read?_text, hasShape_iff, Option.some.injEq]
  · simp only [hasShape_iff]
    constructor
    · intro same x
      rw [text_injective same]
    · intro same
      rw [(same _).mpr rfl]

end TypeScript.TypeExpr

end ClientSynth
