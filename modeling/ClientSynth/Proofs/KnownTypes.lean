import ClientSynth.Proofs.DeclaredTypes

/-!
# Schemas of known types

The generator follows a schema by its type: into the items of an array and into the members of an
object (`Schema.Reaches`). Validation follows it in the same way, so a well-formed schema reaches
known types only. But for a request body the generator lists the members of a schema of any type,
and the members of a schema that is no object are not validated: `Document.knownTypes_iff` says that
this is the only way to a type that is not known.

What the generator reaches is collected by `TypeExpr.unknownTypes`, by the recursion that makes the
type, so that the two are compared by one mutual induction over schemas. The declarations of a
document are then followed one by one: for each of them the schemas that its types are made of are
listed, and all but that of a request body are validated as the generator follows them.
-/

namespace ClientSynth

open TypeScript (Declaration Member TypeExpr AliasBody)

/-! ## Within a schema -/

/-- The schemas that the shape of a schema is made from: itself, and what the items of an array and
the members of an object reach. -/
inductive Schema.Reaches : Schema → Schema → Prop where
  | here (s : Schema) : Reaches s s
  | item {s items t : Schema} : s.type = some "array" → s.items = some items →
    Reaches items t → Reaches s t
  | member {s t : Schema} {members} {m : String × Schema} : s.type = some "object" →
    s.properties = some members → m ∈ members → Reaches m.2 t → Reaches s t

/-- A schema that reaches known types only. -/
def Schema.AllKnown (s : Schema) : Prop :=
  ∀ t, s.Reaches t → IsWord schemaTypes t.type

namespace Schema

variable {s t : Schema}

/-- What a well-formed schema reaches is well-formed. -/
lemma WellFormed.of_reaches (h : s.WellFormed) (reaches : s.Reaches t) : t.WellFormed := by
  induction reaches with
  | here s => exact h
  | item array eq _ ih => exact ih ((wellFormed_iff.mp h).2.2 array _ eq)
  | member object eq mem _ ih => exact ih ((wellFormed_iff.mp h).2.1 object _ eq _ mem)

/-- A well-formed schema reaches known types only. -/
lemma WellFormed.allKnown (h : s.WellFormed) : s.AllKnown :=
  fun _ reaches => (wellFormed_iff.mp (h.of_reaches reaches)).1

/-- A type that is not known is the type of a schema that is reached. -/
def HasUnknown (s : Schema) (type : Option String) : Prop :=
  ∃ t, s.Reaches t ∧ t.type = type ∧ ¬IsWord schemaTypes type

/-- All types are known exactly if none is unknown. -/
lemma allKnown_iff : s.AllKnown ↔ ∀ type, ¬s.HasUnknown type := by
  constructor
  · rintro known _ ⟨t, reaches, rfl, unknown⟩
    exact unknown (known t reaches)
  · intro none t reaches
    by_contra unknown
    exact none t.type ⟨t, reaches, rfl, unknown⟩

/-- An unknown type is that of the schema, or one in the items of an array or in the members of an
object. -/
lemma hasUnknown_iff {type : Option String} :
    s.HasUnknown type ↔
      (s.type = type ∧ ¬IsWord schemaTypes type) ∨
      (s.type = some "array" ∧ ∃ items, s.items = some items ∧ items.HasUnknown type) ∨
      (s.type = some "object" ∧
        ∃ members, s.properties = some members ∧ ∃ m ∈ members, m.2.HasUnknown type) := by
  constructor
  · rintro ⟨t, reaches, found⟩
    cases reaches with
    | here => exact .inl found
    | item array eq reaches => exact .inr (.inl ⟨array, _, eq, t, reaches, found⟩)
    | member object eq mem reaches => exact .inr (.inr ⟨object, _, eq, _, mem, t, reaches, found⟩)
  · rintro (found | ⟨array, items, eq, t, reaches, found⟩ |
      ⟨object, members, eq, m, mem, t, reaches, found⟩)
    · exact ⟨s, .here s, found⟩
    · exact ⟨t, .item array eq reaches, found⟩
    · exact ⟨t, .member object eq mem reaches, found⟩

end Schema

namespace TypeScript.TypeExpr

mutual

/-- The types that nothing is known for in a schema are those of the schemas that it reaches. -/
theorem mem_unknownTypes_iff (type : Option String) :
    (s : Schema) → (type ∈ unknownTypes s ↔ s.HasUnknown type)
  | ⟨own, _, _, _, _, items, properties, _⟩ => by
    have ofItems := mem_unknownTypes?_iff type items
    have ofTable := mem_propertiesUnknownTypes_iff type properties
    have known (word : String) (mem : word ∈ schemaTypes) :
        ¬(some word = type ∧ ¬IsWord schemaTypes type) :=
      fun ⟨eq, unknown⟩ => unknown ⟨word, mem, eq.symm⟩
    rw [Schema.hasUnknown_iff]
    unfold unknownTypes
    split
    case h_1 => simp [known "string" (by decide)]
    case h_2 => simp [known "number" (by decide)]
    case h_3 => simp [known "boolean" (by decide)]
    case h_4 => simp [known "array" (by decide), ofItems]
    case h_5 =>
      rw [ofTable]
      simp [known "object" (by decide)]
    case h_6 string number boolean array object =>
      -- A type that is none of the words is unknown itself, and nothing inside it is mapped.
      have unknown : ¬IsWord schemaTypes own :=
        not_isWord_schemaTypes string number boolean array object
      constructor
      · intro mem
        cases List.mem_singleton.mp mem
        exact .inl ⟨rfl, unknown⟩
      · rintro (⟨rfl, _⟩ | ⟨eq, _⟩ | ⟨eq, _⟩)
        · exact List.mem_singleton_self _
        · exact absurd eq array
        · exact absurd eq object

/-- The unknown types of the items are those that they reach. -/
theorem mem_unknownTypes?_iff (type : Option String) :
    (items : Option Schema) →
      (type ∈ unknownTypes? items ↔ ∃ s, items = some s ∧ s.HasUnknown type)
  | none => by simp [unknownTypes?]
  | some s => by simp [unknownTypes?, mem_unknownTypes_iff type s]

/-- The unknown types of a table of members are those that some member reaches. -/
theorem mem_propertiesUnknownTypes_iff (type : Option String) :
    (table : Option (List (String × Schema))) → (type ∈ propertiesUnknownTypes table ↔
      ∃ members, table = some members ∧ ∃ m ∈ members, m.2.HasUnknown type)
  | none => by simp [propertiesUnknownTypes]
  | some members => by
    rw [propertiesUnknownTypes, mem_membersUnknownTypes_iff type members]
    simp only [Option.some.injEq, exists_eq_left']

/-- The unknown types of a list of members are those that some member reaches. -/
theorem mem_membersUnknownTypes_iff (type : Option String) :
    (members : List (String × Schema)) →
      (type ∈ membersUnknownTypes members ↔ ∃ m ∈ members, m.2.HasUnknown type)
  | [] => by simp [membersUnknownTypes]
  | (name, s) :: rest => by
    rw [membersUnknownTypes, List.mem_append, mem_unknownTypes_iff type s,
      mem_membersUnknownTypes_iff type rest]
    simp only [List.mem_cons, exists_eq_or_imp]

end

end TypeScript.TypeExpr

/-! ## In declarations -/

/-- The types that are written in a declaration, in order. -/
def TypeScript.Declaration.types : Declaration → List TypeExpr
  | .interface _ _ members => members.map Member.type
  | .alias _ (.type type) => [type]
  | .alias _ _ => []

/-- The types in an interface are those of its members. -/
lemma types_interfaceOf (name : String) (properties : List (String × Schema))
    (required : Option (List String)) :
    (interfaceOf name properties required).types =
      (properties.map Prod.snd).map TypeExpr.ofSchema := by
  rw [interfaceOf, Declaration.types, Member.ofProperties, List.map_map, List.map_map]
  rfl

namespace Endpoint

variable {e : Endpoint}

/-- The types in the declaration of parameters are those of the parameters in the URL. -/
lemma types_paramsDeclaration (e : Endpoint) :
    e.paramsDeclaration.toList.flatMap Declaration.types =
      (((e.parameters.getD []).filter Parameter.isInUrl).map TypeExpr.parameterSchema).map
        TypeExpr.ofSchema := by
  unfold paramsDeclaration
  split
  case h_1 none => simp [none]
  case h_2 =>
    simp only [Option.toList_some, List.flatMap_singleton, Declaration.types, List.map_map]
    rfl

/-- A request body with a schema is declared with the types of its members or with its own. -/
lemma types_requestDeclaration (schema : ∀ b ∈ e.requestBody, ∃ s, b.schema = some s) :
    e.requestDeclaration.toList.flatMap Declaration.types =
      e.requestSchemas.map TypeExpr.ofSchema := by
  unfold requestDeclaration requestSchemas
  cases body : e.requestBody with
  | none => rfl
  | some b =>
    obtain ⟨s, eq⟩ := schema b body
    simp only [Option.map_some, Option.bind_some, eq, Option.toList_some, List.flatMap_singleton]
    cases s.someProperties? with
    | none => rfl
    | some properties => exact types_interfaceOf _ _ _

/-- The types in the declarations of a response are those of its schemas. -/
lemma types_responseDeclarations (e : Endpoint) :
    e.responseDeclarations.flatMap Declaration.types = e.responseSchemas.map TypeExpr.ofSchema := by
  unfold responseDeclarations responseSchemas
  cases e.success? with
  | none => rfl
  | some success =>
    obtain ⟨_, s⟩ := success
    dsimp only
    unfold responseDeclarationsOf
    split
    · rw [List.flatMap_singleton, types_interfaceOf]
    · rw [List.flatMap_cons, types_interfaceOf]
      simp [Declaration.types]
    · rfl

end Endpoint

namespace Document

variable {d : Document}

/-- The declarations of a well-formed document are written with the shapes of its declared
schemas. -/
lemma types_declarations (wellFormed : d.WellFormed) :
    (d.modelDeclarations ++ d.endpoints.flatMap Endpoint.declarations).flatMap Declaration.types =
      d.declaredSchemas.map TypeExpr.ofSchema := by
  rw [declaredSchemas, List.flatMap_append, List.map_append, modelDeclarations, List.flatMap_map,
    List.flatMap_assoc, List.map_flatMap, List.map_flatMap]
  congr 1
  · refine List.flatMap_congr fun m _ => ?_
    rw [← types_interfaceOf "" _ m.2.required]
    rfl
  · refine List.flatMap_congr fun e mem => ?_
    have schema : ∀ b ∈ e.requestBody, ∃ s, b.schema = some s := fun b isBody => by
      obtain ⟨s, eq, _⟩ := ((wellFormed.endpoints e mem).requestBody b isBody).schema
      exact ⟨s, eq⟩
    rw [Endpoint.declarations, Endpoint.declaredSchemas, List.flatMap_append, List.flatMap_append,
      Endpoint.types_paramsDeclaration, Endpoint.types_requestDeclaration schema,
      Endpoint.types_responseDeclarations, List.map_append, List.map_append]

end Document

/-! ## Reached from a document -/

/-- The type of a parameter is all there is to its schema. -/
lemma Parameter.WellFormed.schema {p : Parameter} (h : p.WellFormed) :
    (TypeExpr.parameterSchema p).WellFormed :=
  .mk h.type (fun _ => nofun) (fun _ => nofun)

/-- The members that the generator lists are the properties. -/
lemma Schema.properties_of_someProperties? {s : Schema} {properties : List (String × Schema)}
    (h : s.someProperties? = some properties) : s.properties = some properties :=
  (Option.filter_eq_some_iff.mp h).1

/-- A schema with a member is one whose members the generator lists. -/
lemma Schema.someProperties?_of_mem {s : Schema} {properties : List (String × Schema)}
    (h : s.properties = some properties) {m : String × Schema} (mem : m ∈ properties) :
    s.someProperties? = some properties := by
  refine Option.filter_eq_some_iff.mpr ⟨h, ?_⟩
  rw [Bool.not_eq_true', List.isEmpty_eq_false_iff]
  exact List.ne_nil_of_mem mem

namespace Endpoint

variable {e : Endpoint} {s : Schema}

/-- The schema of a success is that of a response. -/
lemma exists_response_of_success? {i : Nat} (h : e.success? = some (i, s)) :
    ∃ r ∈ e.responses, r.schema = some s := by
  have go : ∀ (responses : List Response) (j : Nat), success?.go j responses = some (i, s) →
      ∃ r ∈ responses, r.schema = some s := by
    intro responses
    induction responses with
    | nil => exact fun _ => nofun
    | cons r rest ih =>
      intro j found
      rw [success?.go] at found
      split at found
      case h_1 schema _ eq =>
        cases found
        exact ⟨r, List.mem_cons_self, eq⟩
      case h_2 =>
        obtain ⟨r', mem, eq⟩ := ih _ found
        exact ⟨r', List.mem_cons_of_mem _ mem, eq⟩
  exact go e.responses 0 h

/-- What is declared for the items of a list is about an object with properties. -/
lemma of_itemObject? {item : Schema} {properties : List (String × Schema)}
    (h : itemObject? s = some (item, properties)) :
    s.type = some "array" ∧ s.items = some item ∧ item.type = some "object" ∧
      item.properties = some properties := by
  unfold itemObject? at h
  split at h
  case isTrue array =>
    obtain ⟨own, isItem, found⟩ := Option.bind_eq_some_iff.mp h
    obtain ⟨isItem, object⟩ := Option.filter_eq_some_iff.mp isItem
    obtain ⟨_, members, eq⟩ := Option.map_eq_some_iff.mp found
    cases eq
    exact ⟨array, isItem, by simpa using object, Schema.properties_of_someProperties? members⟩
  case isFalse => cases h

/-- What is declared for a response is validated with it. -/
lemma wellFormed_of_mem_responseSchemas (wellFormed : e.WellFormed) (mem : s ∈ e.responseSchemas) :
    s.WellFormed := by
  unfold responseSchemas at mem
  cases success : e.success? with
  | none =>
    rw [success] at mem
    cases mem
  | some found =>
    obtain ⟨i, t⟩ := found
    obtain ⟨r, isResponse, eq⟩ := exists_response_of_success? success
    have whole := Schema.wellFormed_iff.mp ((wellFormed.responses r isResponse).schema t eq)
    rw [success] at mem
    dsimp only at mem
    split at mem
    case h_1 properties members =>
      split at members
      case isTrue object =>
        obtain ⟨m, isMember, rfl⟩ := List.mem_map.mp mem
        exact whole.2.1 object _ (Schema.properties_of_someProperties? members) m isMember
      case isFalse => cases members
    case h_2 item properties _ items =>
      obtain ⟨array, isItem, object, members⟩ := of_itemObject? items
      obtain ⟨m, isMember, rfl⟩ := List.mem_map.mp mem
      exact (Schema.wellFormed_iff.mp (whole.2.2 array item isItem)).2.1 object _ members m isMember
    case h_3 =>
      cases List.mem_singleton.mp mem
      exact Schema.wellFormed_iff.mpr whole

/-- What is declared for a request body is validated with it, but for the members of a schema that
is no object. -/
lemma allKnown_requestSchemas_iff (wellFormed : e.WellFormed) :
    (∀ s ∈ e.requestSchemas, s.AllKnown) ↔
      ∀ b ∈ e.requestBody, ∀ s ∈ b.schema, s.type ≠ some "object" →
        ∀ members ∈ s.properties, ∀ m ∈ members, m.2.AllKnown := by
  unfold requestSchemas
  cases body : e.requestBody with
  | none => simp
  | some b =>
    obtain ⟨s, eq, whole⟩ := (wellFormed.requestBody b body).schema
    simp only [Option.bind_some, eq, Option.mem_some_iff, forall_eq']
    cases some : s.someProperties? with
    | none =>
      refine iff_of_true (by simpa using whole.allKnown) fun _ members isTable m mem => ?_
      rw [Schema.someProperties?_of_mem isTable mem] at some
      cases some
    | some properties =>
      have table := Schema.properties_of_someProperties? some
      constructor
      · intro known _ members isTable m mem
        cases table.symm.trans isTable
        exact known _ (List.mem_map_of_mem mem)
      · intro fit t mem
        obtain ⟨m, isMember, rfl⟩ := List.mem_map.mp mem
        by_cases object : s.type = Option.some "object"
        · exact ((Schema.wellFormed_iff.mp whole).2.1 object _ table m isMember).allKnown
        · exact fit object _ table m isMember

/-- In a well-formed endpoint unknown types are reached only in a request body that is no object. -/
lemma allKnown_declaredSchemas_iff (wellFormed : e.WellFormed) :
    (∀ s ∈ e.declaredSchemas, s.AllKnown) ↔
      ∀ b ∈ e.requestBody, ∀ s ∈ b.schema, s.type ≠ some "object" →
        ∀ members ∈ s.properties, ∀ m ∈ members, m.2.AllKnown := by
  rw [← allKnown_requestSchemas_iff wellFormed, declaredSchemas, List.forall_mem_append,
    List.forall_mem_append]
  constructor
  · rintro ⟨⟨_, request⟩, _⟩
    exact request
  · refine fun request => ⟨⟨fun s mem => ?_, request⟩, fun s mem => ?_⟩
    · obtain ⟨p, isParameter, rfl⟩ := List.mem_map.mp mem
      exact (wellFormed.parameters p (List.mem_filter.mp isParameter).1).schema.allKnown
    · exact (wellFormed_of_mem_responseSchemas wellFormed mem).allKnown

end Endpoint

namespace Document

variable {d : Document}

/-- A schema is mapped to a type for a document. -/
def Maps (d : Document) (t : Schema) : Prop :=
  ∃ s ∈ d.declaredSchemas, s.Reaches t

/-- What a document maps is known exactly if all that it declares is. -/
lemma maps_known_iff :
    (∀ t, d.Maps t → IsWord schemaTypes t.type) ↔ ∀ s ∈ d.declaredSchemas, s.AllKnown := by
  constructor
  · exact fun known s mem t reaches => known t ⟨s, mem, reaches⟩
  · rintro known t ⟨s, mem, reaches⟩
    exact known s mem t reaches

/-- No unknown type is collected exactly if all that is declared is known. -/
lemma unknownTypes_eq_nil_iff :
    d.declaredSchemas.flatMap TypeExpr.unknownTypes = [] ↔
      ∀ s ∈ d.declaredSchemas, s.AllKnown := by
  rw [List.flatMap_eq_nil_iff]
  refine forall₂_congr fun s _ => ?_
  rw [Schema.allKnown_iff, List.eq_nil_iff_forall_not_mem]
  exact forall_congr' fun type => not_congr (TypeExpr.mem_unknownTypes_iff type s)

/-- The members of models are validated with them. -/
lemma allKnown_models (wellFormed : d.WellFormed) :
    ∀ m ∈ d.models.getD [], ∀ member ∈ m.2.properties.getD [], member.2.AllKnown := by
  intro m isModel member mem
  obtain ⟨members, eq, all⟩ := (wellFormed.models m isModel).properties
  rw [eq, Option.getD_some] at mem
  exact (all member mem).allKnown

/-- The file of types of a valid document is written with the shapes of its declared schemas, and
none of them has an unknown type in it exactly when every schema that is mapped to a type is of a
known type. That is so exactly if the members of no request body's schema that is no object, which
validation passes over, reach an unknown one. -/
theorem knownTypes_iff (valid : d.report.isValid = true) :
    (d.modelDeclarations ++ d.endpoints.flatMap Endpoint.declarations).flatMap Declaration.types =
        d.declaredSchemas.map TypeExpr.ofSchema ∧
      (d.declaredSchemas.flatMap TypeExpr.unknownTypes = [] ↔
        ∀ t, d.Maps t → IsWord schemaTypes t.type) ∧
      ((∀ t, d.Maps t → IsWord schemaTypes t.type) ↔
        ∀ e ∈ d.endpoints, ∀ b ∈ e.requestBody, ∀ s ∈ b.schema, s.type ≠ some "object" →
          ∀ members ∈ s.properties, ∀ m ∈ members, m.2.AllKnown) := by
  have wellFormed : d.WellFormed :=
    faultFree_findings_iff.mp (Report.ofFindings_isValid.mp valid)
  refine ⟨types_declarations wellFormed, ?_, ?_⟩
  · rw [unknownTypes_eq_nil_iff, maps_known_iff]
  · rw [maps_known_iff, declaredSchemas, List.forall_mem_append]
    simp only [List.forall_mem_flatMap, List.forall_mem_map]
    rw [and_iff_right (allKnown_models wellFormed)]
    exact forall₂_congr fun e mem =>
      Endpoint.allKnown_declaredSchemas_iff (wellFormed.endpoints e mem)

/-- A document with an endpoint whose request body has a schema of a type, with one member of a type
that is not known. -/
def withBody (type : String) : Document :=
  let member : Schema := ⟨some "bogus", none, .null, none, none, none, none, none⟩
  let schema : Schema :=
    ⟨some type, none, .null, none, none, none, some [("a", member)], none⟩
  let endpoint : Endpoint :=
    { id := some "item", name := some "item", method := some "POST", path := some "/item"
      summary := none, description := none, tags := [], parameters := none
      requestBody := some ⟨some "application/json", some schema, .null⟩
      responses := [⟨some 200, none, none, none, .null⟩], deprecated := false }
  { title := some "Items", version := some "1.0.0", description := none
    baseUrl := some "https://api.example.com", authentication := none, globalHeaders := none
    timeout := none, endpoints := [endpoint], models := none, environments := none
    metadata := none }

/-- The member of an object is validated, that of a text is not, and yet it is declared. -/
theorem knownTypes_iff_string :
    (withBody "object").report.isValid = false ∧ (withBody "string").report.isValid = true ∧
      ¬∀ t, (withBody "string").Maps t → IsWord schemaTypes t.type := by
  have valid : (withBody "string").report.isValid = true := by decide +kernel
  refine ⟨by decide +kernel, valid, fun known => ?_⟩
  have none := (knownTypes_iff valid).2.1.mpr known
  revert none
  decide +kernel

end Document

end ClientSynth
