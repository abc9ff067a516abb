import Mathlib.Data.List.Pairwise
import ClientSynth.Proofs.Patterns
import ClientSynth.Validation.Report

/-!
# Well-formed documents

`Document.WellFormed` says what a document has to be like: which texts are filled, which words are
known, what goes together in an endpoint, and what may not occur twice. It does not follow the order
in which validation looks at a document, and it knows nothing of findings. The main statement is
`Document.report_isValid_iff`: validation reports no fault exactly when the document is well-formed.
It is put together from one equivalence for each part of a document, in which `FaultFree` stands for
findings that are all remarks.

The searches for what occurs twice carry lists of what was seen before, so the equivalences for
lists of endpoints and responses are stated for any such lists and go by induction; with nothing
seen they become statements about the whole list. A schema is the other recursion, where the
equivalence is shown for a schema, its items and its properties together.
-/

namespace ClientSynth

/-! ## The predicate -/

/-- A text that is there and has a character other than a space. -/
def IsFilled (s : Option String) : Prop :=
  ∃ text, s = some text ∧ ∃ c ∈ text.toList, Text.isSpace c = false

/-- A text that is there and is one of some words. -/
def IsWord (words : List String) (s : Option String) : Prop :=
  ∃ word ∈ words, s = some word

/-- A schema of a known type, in which the members of an object and the items of an array are
well-formed in turn. -/
inductive Schema.WellFormed : Schema → Prop where
  | mk {s : Schema} :
    IsWord schemaTypes s.type →
    (s.type = some "object" → ∀ members, s.properties = some members →
      ∀ member ∈ members, WellFormed member.2) →
    (s.type = some "array" → ∀ items, s.items = some items → WellFormed items) →
    WellFormed s

/-- Authentication of a known type, with a header to put a key in. -/
structure Authentication.WellFormed (a : Authentication) : Prop where
  type : IsWord authenticationTypes a.type
  header : a.type = some "apiKey" → IsFilled a.headerName

/-- A parameter with a name, a known place and a known type, and bounds that leave something
between them. -/
structure Parameter.WellFormed (p : Parameter) : Prop where
  name : IsFilled p.name
  location : IsWord parameterLocations p.location
  type : IsWord schemaTypes p.type
  size : p.type = some "number" →
    ∀ low ∈ p.minimum, ∀ high ∈ p.maximum, low.isGreater high = false
  length : p.type = some "string" → ∀ low ∈ p.minLength, ∀ high ∈ p.maxLength, low ≤ high

/-- A request body of a known media type with a well-formed schema. -/
structure RequestBody.WellFormed (b : RequestBody) : Prop where
  contentType : IsWord bodyTypes b.contentType
  schema : ∃ s, b.schema = some s ∧ s.WellFormed

/-- A response with a status code in range, and a well-formed schema if it has one. -/
structure Response.WellFormed (r : Response) : Prop where
  status : ∃ code, r.statusCode = some code ∧ 100 ≤ code ∧ code ≤ 599
  schema : ∀ s ∈ r.schema, s.WellFormed

/-- An endpoint that can be told from others, called, and answered. -/
structure Endpoint.WellFormed (e : Endpoint) : Prop where
  id : IsFilled e.id
  name : IsFilled e.name
  method : IsWord (Method.all.map Method.word) e.method
  path : IsFilled e.path
  rooted : ∃ path, e.path = some path ∧ path.toList.head? = some '/'
  /-- Each token of the path is the name of a parameter that fills the path. -/
  tokens : ∀ path ∈ e.path, ∀ token : String, PathTemplate.HasToken path.toList token.toList →
    ∃ p ∈ e.parameters.getD [], p.name = some token ∧ p.location = some "path"
  parameters : ∀ p ∈ e.parameters.getD [], p.WellFormed
  requestBody : ∀ b ∈ e.requestBody, b.WellFormed
  answered : e.responses ≠ []
  responses : ∀ r ∈ e.responses, r.WellFormed
  statuses : e.responses.Pairwise fun a b => a.statusCode ≠ b.statusCode

/-- A model of objects with well-formed members. -/
structure Model.WellFormed (m : Model) : Prop where
  type : m.type = some "object"
  properties : ∃ members, m.properties = some members ∧ ∀ member ∈ members, member.2.WellFormed

/-- A document that a client can be made from. -/
structure Document.WellFormed (d : Document) : Prop where
  title : IsFilled d.title
  version : IsFilled d.version
  numbered : ∃ version, d.version = some version ∧ Version.Matches version.toList
  baseUrl : IsFilled d.baseUrl
  absolute : ∃ url, d.baseUrl = some url ∧ Url.HasSchemeAndAuthority url.toList
  authentication : ∀ a ∈ d.authentication, a.WellFormed
  nonempty : d.endpoints ≠ []
  endpoints : ∀ e ∈ d.endpoints, e.WellFormed
  ids : d.endpoints.Pairwise fun a b => a.id ≠ b.id
  routes : d.endpoints.Pairwise fun a b => (a.method, a.path) ≠ (b.method, b.path)
  models : ∀ m ∈ d.models.getD [], m.2.WellFormed

/-! ## Findings without faults -/

/-- Findings that are all remarks. -/
def FaultFree (findings : List Finding) : Prop :=
  ∀ f ∈ findings, f.fault? = none

section FaultFree

variable {place : Location} {fault : Fault} {remark : Remark} {xs ys : List Finding} {b : Bool}

@[simp]
lemma faultFree_nil : FaultFree [] :=
  nofun

@[simp]
lemma faultFree_fault : ¬FaultFree [.fault place fault] :=
  fun h => nomatch h _ (List.mem_singleton_self _)

@[simp]
lemma faultFree_remark : FaultFree [.remark place remark] := by
  intro f mem
  cases List.mem_singleton.mp mem
  rfl

@[simp]
lemma faultFree_append : FaultFree (xs ++ ys) ↔ FaultFree xs ∧ FaultFree ys :=
  List.forall_mem_append

/-- A fault under a condition is none if the condition does not hold. -/
@[simp]
lemma faultFree_findingIf_fault : FaultFree (findingIf b (.fault place fault)) ↔ b = false := by
  cases b <;> simp [findingIf]

/-- A remark under a condition is free of faults. -/
@[simp]
lemma faultFree_findingIf_remark : FaultFree (findingIf b (.remark place remark)) := by
  cases b <;> simp [findingIf]

/-- A fault for each of some things leaves no findings only if there are no such things. -/
lemma faultFree_map_fault {α : Type} {faultOf : α → Fault} {items : List α} :
    FaultFree (items.map fun a => .fault place (faultOf a)) ↔ items = [] := by
  cases items with
  | nil => simp
  | cons a rest =>
    refine ⟨fun h => ?_, nofun⟩
    exact nomatch h _ List.mem_cons_self

/-- Findings about each of some things are without faults if those about every one are. -/
lemma faultFree_flatMap {α : Type} {findings : α → List Finding} {items : List α} :
    FaultFree (items.flatMap findings) ↔ ∀ a ∈ items, FaultFree (findings a) := by
  simp only [FaultFree, List.mem_flatMap]
  exact ⟨fun h a mem f found => h f ⟨a, mem, found⟩, fun h f ⟨a, mem, found⟩ => h a mem f found⟩

/-- A report is valid exactly if what was found is free of faults. -/
lemma Report.ofFindings_isValid : (Report.ofFindings xs).isValid = true ↔ FaultFree xs := by
  simp only [Report.isValid, Report.ofFindings, List.isEmpty_iff, List.filterMap_eq_nil_iff]
  rfl

end FaultFree

/-- Where all items have a key, each key is new after one more when it is not the one and was new
before. -/
lemma forall_new_append_iff {α β : Type} {key : α → Option β} {items : List α} {one : Option β}
    {seen : List β} (keyed : ∀ a ∈ items, (key a).isSome = true) :
    (∀ a ∈ items, ∀ k ∈ key a, k ∉ one.toList ++ seen) ↔
      (∀ a ∈ items, one ≠ key a) ∧ ∀ a ∈ items, ∀ k ∈ key a, k ∉ seen := by
  rw [← forall₂_and]
  refine forall₂_congr fun a mem => ?_
  obtain ⟨k, eq⟩ := Option.isSome_iff_exists.mp (keyed a mem)
  simp [eq]

/-! ## Texts and words -/

section Texts

variable {s : Option String} {words : List String}

/-- A text is not blank exactly if it is filled. -/
lemma isBlank?_eq_false_iff : isBlank? s = false ↔ IsFilled s := by
  cases s with
  | none => simp [isBlank?, IsFilled]
  | some text => simp [isBlank?, IsFilled, Text.isBlank, List.all_eq_false]

/-- A text passes the test for words exactly if it is one of them. -/
lemma isOneOf_iff : isOneOf words s = true ↔ IsWord words s := by
  cases s with
  | none => simp [isOneOf, IsWord]
  | some word => simp [isOneOf, IsWord]

/-- A type that is none of the five words is not known. -/
lemma not_isWord_schemaTypes (string : s ≠ some "string") (number : s ≠ some "number")
    (boolean : s ≠ some "boolean") (array : s ≠ some "array") (object : s ≠ some "object") :
    ¬IsWord schemaTypes s := by
  rintro ⟨word, mem, rfl⟩
  simp only [schemaTypes, List.mem_cons, List.not_mem_nil, or_false] at mem
  rcases mem with rfl | rfl | rfl | rfl | rfl
  · exact string rfl
  · exact number rfl
  · exact boolean rfl
  · exact array rfl
  · exact object rfl

/-- A text that has to be filled and to pass a test is without faults exactly when it does. -/
lemma faultFree_tested_iff {test : String → Bool} {place : Location} {missing wrong : Fault} :
    FaultFree (if isBlank? s then [.fault place missing]
      else findingIf (!s.any test) (.fault place wrong)) ↔
      IsFilled s ∧ ∃ text, s = some text ∧ test text = true := by
  rw [← isBlank?_eq_false_iff]
  split
  case isTrue blank => simp [blank]
  case isFalse filled => simp [filled, Option.any_eq_true]

/-- A filled text is not the empty one. -/
lemma IsFilled.nonEmpty? (h : IsFilled s) : nonEmpty? s = s := by
  obtain ⟨text, rfl, c, mem, _⟩ := h
  have : text ≠ "" := by
    rintro rfl
    simp at mem
  simp [ClientSynth.nonEmpty?, Option.filter, this]

/-- A known method is not the empty text. -/
lemma nonEmpty?_method (h : IsWord (Method.all.map Method.word) s) : nonEmpty? s = s := by
  obtain ⟨word, mem, rfl⟩ := h
  obtain ⟨method, _, rfl⟩ := List.mem_map.mp mem
  cases method <;> rfl

end Texts

/-! ## Schemas -/

namespace Schema

/-- What a well-formed schema is, part by part. -/
lemma wellFormed_iff {s : Schema} :
    s.WellFormed ↔
      IsWord schemaTypes s.type ∧
      (s.type = some "object" → ∀ members, s.properties = some members →
        ∀ member ∈ members, member.2.WellFormed) ∧
      (s.type = some "array" → ∀ items, s.items = some items → items.WellFormed) :=
  ⟨fun h => by cases h with | mk type members items => exact ⟨type, members, items⟩,
    fun ⟨type, members, items⟩ => .mk type members items⟩

/-- A known type is not blank. -/
lemma isBlank?_of_isWord {s : Option String} (h : IsWord schemaTypes s) : isBlank? s = false := by
  obtain ⟨word, mem, rfl⟩ := h
  revert word
  decide

mutual

/-- A schema is without faults exactly when it is well-formed. -/
theorem faultFree_findings_iff (place : Location) :
    (s : Schema) → (FaultFree (findings place s) ↔ s.WellFormed)
  | ⟨type, _, _, _, _, items, properties, _⟩ => by
    -- Items and members are looked at for an array and for an object only.
    have ofItems := faultFree_itemsFindings_iff place items
    have ofTable := faultFree_tableFindings_iff place properties
    rw [findings, wellFormed_iff]
    by_cases blank : isBlank? type = true
    · have unknown : ¬IsWord schemaTypes type := fun h => by
        rw [isBlank?_of_isWord h] at blank
        cases blank
      simp [blank, unknown]
    · rw [if_neg blank, faultFree_append, faultFree_append, faultFree_findingIf_fault,
        Bool.not_eq_false', isOneOf_iff, and_assoc]
      refine and_congr_right fun _ => and_congr ?_ ?_
      · split
        case isTrue object => simp [ofTable, object]
        case isFalse other => simp [other]
      · split
        case isTrue array => simp [ofItems, array]
        case isFalse other => simp [other]

/-- The items of a schema have no faults exactly if they are well-formed. -/
theorem faultFree_itemsFindings_iff (place : Location) :
    (items : Option Schema) →
      (FaultFree (itemsFindings place items) ↔ ∀ s, items = some s → s.WellFormed)
  | none => by simp [itemsFindings]
  | some s => by simp [itemsFindings, faultFree_findings_iff (place.key "items") s]

/-- The properties of a schema have no faults exactly if they are well-formed. -/
theorem faultFree_tableFindings_iff (place : Location) :
    (table : Option (List (String × Schema))) →
      (FaultFree (tableFindings place table) ↔
        ∀ members, table = some members → ∀ member ∈ members, member.2.WellFormed)
  | none => by simp [tableFindings]
  | some members => by
    rw [tableFindings, faultFree_memberFindings_iff place members]
    simp

/-- A list of properties has no faults exactly if each of them is well-formed. -/
theorem faultFree_memberFindings_iff (place : Location) :
    (members : List (String × Schema)) →
      (FaultFree (memberFindings place members) ↔ ∀ member ∈ members, member.2.WellFormed)
  | [] => by simp [memberFindings]
  | (name, s) :: rest => by
    rw [memberFindings, faultFree_append, faultFree_findings_iff _ s,
      faultFree_memberFindings_iff place rest, List.forall_mem_cons]

end

end Schema

/-! ## Parts of an endpoint -/

/-- A bound is not exceeded exactly if the comparison fails where both are there. -/
lemma exceeds?_eq_false_iff {α : Type} {greater : α → α → Bool} {low high : Option α} :
    exceeds? greater low high = false ↔ ∀ a ∈ low, ∀ b ∈ high, greater a b = false := by
  cases low with
  | none => simp [exceeds?]
  | some a =>
    cases high with
    | none => simp [exceeds?]
    | some b => simp [exceeds?]

/-- A parameter has no faults exactly if it is well-formed. -/
lemma Parameter.faultFree_findings_iff {place : Location} {p : Parameter} :
    FaultFree (p.findings place) ↔ p.WellFormed := by
  have size : (p.type == some "number" && exceeds? Binary64.isGreater p.minimum p.maximum) = false ↔
      (p.type = some "number" →
        ∀ low ∈ p.minimum, ∀ high ∈ p.maximum, low.isGreater high = false) := by
    rw [Bool.and_eq_false_imp, beq_iff_eq, exceeds?_eq_false_iff]
  have length : (p.type == some "string" &&
        exceeds? (fun a b => decide (b < a)) p.minLength p.maxLength) = false ↔
      (p.type = some "string" → ∀ low ∈ p.minLength, ∀ high ∈ p.maxLength, low ≤ high) := by
    rw [Bool.and_eq_false_imp, beq_iff_eq, exceeds?_eq_false_iff]
    simp only [decide_eq_false_iff_not, Int.not_lt]
  rw [Parameter.findings]
  simp only [faultFree_append, faultFree_findingIf_fault, faultFree_findingIf_remark, and_true,
    Bool.not_eq_false', isBlank?_eq_false_iff, isOneOf_iff, size, length]
  exact ⟨fun ⟨⟨⟨⟨name, location⟩, type⟩, size⟩, length⟩ => ⟨name, location, type, size, length⟩,
    fun h => ⟨⟨⟨⟨h.name, h.location⟩, h.type⟩, h.size⟩, h.length⟩⟩

/-- A request body is without faults exactly when there is none or it is well-formed. -/
lemma RequestBody.faultFree_findings?_iff {place : Location} {b : Option RequestBody} :
    FaultFree (RequestBody.findings? place b) ↔ ∀ body ∈ b, body.WellFormed := by
  cases b with
  | none => simp [RequestBody.findings?]
  | some b =>
    simp only [RequestBody.findings?, faultFree_append, faultFree_findingIf_fault,
      Bool.not_eq_false', isOneOf_iff, Option.mem_some_iff, forall_eq']
    constructor
    · rintro ⟨contentType, schema⟩
      refine ⟨contentType, ?_⟩
      split at schema
      case h_1 => exact absurd schema faultFree_fault
      case h_2 s eq => exact ⟨s, eq, (Schema.faultFree_findings_iff _ s).mp schema⟩
    · rintro ⟨contentType, s, eq, schema⟩
      refine ⟨contentType, ?_⟩
      rw [eq]
      exact (Schema.faultFree_findings_iff _ s).mpr schema

namespace Response

/-- A response is without faults exactly when it is well-formed and its status code is new. -/
lemma faultFree_findings_iff {earlier : List Int} {place : Location} {r : Response} :
    FaultFree (r.findings earlier place) ↔
      r.WellFormed ∧ ∀ code ∈ r.statusCode, code ∉ earlier := by
  rw [Response.findings, faultFree_append, faultFree_append]
  refine (and_congr_right' (c := ∀ s ∈ r.schema, s.WellFormed) ?schema).trans ?_
  case schema =>
    cases r.schema with
    | none => simp
    | some s => simp [Schema.faultFree_findings_iff]
  simp only [faultFree_findingIf_remark, and_true]
  cases eq : r.statusCode with
  | none =>
    simp only [status?, eq, Option.filter_none, faultFree_fault, false_and, false_iff]
    rintro ⟨⟨⟨code, some, _⟩, _⟩, _⟩
    rw [eq] at some
    cases some
  | some code =>
    by_cases zero : code = 0
    · simp only [status?, eq, zero, Option.filter_some, bne_self_eq_false, Bool.false_eq_true,
        if_false, faultFree_fault, false_and, false_iff]
      rintro ⟨⟨⟨code', some, low, _⟩, _⟩, _⟩
      rw [eq] at some
      cases some
      omega
    · have some? : r.status? = some code := by simp [status?, eq, Option.filter_some, zero]
      simp only [some?, faultFree_append, faultFree_findingIf_fault, List.contains_eq_mem,
        decide_eq_false_iff_not, Bool.not_eq_false', Bool.and_eq_true, decide_eq_true_eq,
        Option.mem_some_iff, forall_eq']
      constructor
      · rintro ⟨⟨fresh, range⟩, schema⟩
        exact ⟨⟨⟨code, eq, range⟩, schema⟩, fresh⟩
      · rintro ⟨⟨⟨code', some, range⟩, schema⟩, fresh⟩
        cases eq.symm.trans some
        exact ⟨⟨fresh, range⟩, schema⟩

/-- The status code of a well-formed response is looked at as it is. -/
lemma WellFormed.status? {r : Response} (h : r.WellFormed) : r.status? = r.statusCode := by
  obtain ⟨code, eq, low, _⟩ := h.status
  have : code ≠ 0 := by omega
  simp [Response.status?, eq, Option.filter_some, this]

/-- Responses from one on are without faults exactly when each is well-formed and their status codes
differ from each other and from those before. -/
lemma faultFree_findingsFrom_iff {earlier : List Int} {place : Location} {i : Nat}
    {responses : List Response} :
    FaultFree (findingsFrom earlier place i responses) ↔
      (∀ r ∈ responses, r.WellFormed) ∧
      (responses.Pairwise fun a b => a.statusCode ≠ b.statusCode) ∧
      ∀ r ∈ responses, ∀ code ∈ r.statusCode, code ∉ earlier := by
  induction responses generalizing earlier i with
  | nil => simp [findingsFrom]
  | cons r rest ih =>
    rw [findingsFrom, faultFree_append, faultFree_findings_iff, ih, List.pairwise_cons,
      List.forall_mem_cons, List.forall_mem_cons]
    -- Well-formed responses have a status code.
    have keyed : (∀ b ∈ rest, b.WellFormed) → ∀ b ∈ rest, b.statusCode.isSome = true := by
      intro all b mem
      obtain ⟨code, eq, _⟩ := (all b mem).status
      rw [eq]
      rfl
    constructor
    · rintro ⟨⟨wf, new⟩, all, distinct, apart⟩
      rw [wf.status?, forall_new_append_iff (keyed all)] at apart
      exact ⟨⟨wf, all⟩, ⟨apart.1, distinct⟩, new, apart.2⟩
    · rintro ⟨⟨wf, all⟩, ⟨differs, distinct⟩, new, apart⟩
      refine ⟨⟨wf, new⟩, all, distinct, ?_⟩
      rw [wf.status?, forall_new_append_iff (keyed all)]
      exact ⟨differs, apart⟩

/-- The responses of an endpoint are without faults exactly when there are some, each is
well-formed, and their status codes differ. -/
lemma faultFree_allFindings_iff {place : Location} {responses : List Response} :
    FaultFree (allFindings place responses) ↔
      responses ≠ [] ∧ (∀ r ∈ responses, r.WellFormed) ∧
      responses.Pairwise fun a b => a.statusCode ≠ b.statusCode := by
  unfold allFindings
  cases responses with
  | nil => simp
  | cons r rest =>
    rw [if_neg (by simp), faultFree_append, faultFree_findingsFrom_iff]
    simp

end Response

/-! ## Endpoints -/

namespace Endpoint

/-- A name is declared when a parameter that fills the path has it. -/
lemma mem_declaredTokens {e : Endpoint} {token : String} :
    token ∈ e.declaredTokens ↔
      ∃ p ∈ e.parameters.getD [], p.name = some token ∧ p.location = some "path" := by
  unfold declaredTokens pathParameters parametersIn
  simp only [List.mem_filterMap, List.mem_filter, beq_iff_eq]
  exact ⟨fun ⟨p, ⟨mem, place⟩, name⟩ => ⟨p, mem, name, place⟩,
    fun ⟨p, mem, name, place⟩ => ⟨p, ⟨mem, place⟩, name⟩⟩

/-- No token is reported exactly when every token of the path is declared. -/
lemma faultFree_tokens_iff {e : Endpoint} {place : Location} :
    FaultFree (((PathTemplate.tokens (e.path.getD "")).filter
        fun t => !e.declaredTokens.contains t).map fun t => .fault place (.undeclaredToken t)) ↔
      ∀ path ∈ e.path, ∀ token : String, PathTemplate.HasToken path.toList token.toList →
        ∃ p ∈ e.parameters.getD [], p.name = some token ∧ p.location = some "path" := by
  rw [faultFree_map_fault, List.filter_eq_nil_iff]
  simp only [List.contains_eq_mem, Bool.not_eq_true', decide_eq_false_iff_not, not_not,
    mem_declaredTokens]
  cases e.path with
  | none => simp [PathTemplate.tokens, PathTemplate.pieces, PathTemplate.piecesFrom]
  | some path => simp [PathTemplate.mem_tokens_iff]

/-- Parameters have no faults exactly if each of them is well-formed. -/
lemma faultFree_parameterFindings_iff {place : Location} {i : Nat} {ps : List Parameter} :
    FaultFree (parameterFindings place i ps) ↔ ∀ p ∈ ps, p.WellFormed := by
  induction ps generalizing i with
  | nil => simp [parameterFindings]
  | cons p rest ih =>
    rw [parameterFindings, faultFree_append, Parameter.faultFree_findings_iff, ih,
      List.forall_mem_cons]

/-- The identifier of a well-formed endpoint is looked at as it is. -/
lemma WellFormed.id? {e : Endpoint} (h : e.WellFormed) : e.id? = e.id :=
  h.id.nonEmpty?

/-- The route of a well-formed endpoint has its method and its path. -/
lemma WellFormed.route? {e : Endpoint} (h : e.WellFormed) :
    ∃ method path,
      e.method = some method ∧ e.path = some path ∧ e.route? = some (method, path) := by
  have isMethod := nonEmpty?_method h.method
  have isPath := h.path.nonEmpty?
  obtain ⟨method, _, eqMethod⟩ := h.method
  obtain ⟨path, eqPath, _⟩ := h.path
  refine ⟨method, path, eqMethod, eqPath, ?_⟩
  rw [eqMethod] at isMethod
  rw [eqPath] at isPath
  simp only [Endpoint.route?, eqMethod, eqPath, isMethod, isPath]

/-- A well-formed endpoint has an identifier. -/
lemma WellFormed.isSome_id? {e : Endpoint} (h : e.WellFormed) : e.id?.isSome = true := by
  obtain ⟨id, eq, _⟩ := h.id
  rw [h.id?, eq]
  rfl

/-- A well-formed endpoint has a route. -/
lemma WellFormed.isSome_route? {e : Endpoint} (h : e.WellFormed) : e.route?.isSome = true := by
  obtain ⟨method, path, _, _, eq⟩ := h.route?
  rw [eq]
  rfl

/-- Well-formed endpoints have one route when they have the same method and the same path. -/
lemma WellFormed.route?_eq_iff {a b : Endpoint} (ha : a.WellFormed) (hb : b.WellFormed) :
    a.route? = b.route? ↔ (a.method, a.path) = (b.method, b.path) := by
  obtain ⟨method, path, eqMethod, eqPath, eqRoute⟩ := ha.route?
  obtain ⟨method', path', eqMethod', eqPath', eqRoute'⟩ := hb.route?
  rw [eqRoute, eqRoute', eqMethod, eqMethod', eqPath, eqPath']
  simp

/-- An endpoint is without faults exactly when it is well-formed and its identifier and its route
are new. -/
lemma faultFree_findings_iff {ids : List String} {routes : List (String × String)}
    {place : Location} {e : Endpoint} :
    FaultFree (e.findings ids routes place) ↔
      e.WellFormed ∧ (∀ id ∈ e.id?, id ∉ ids) ∧ ∀ route ∈ e.route?, route ∉ routes := by
  rw [Endpoint.findings, Endpoint.fieldFindings]
  simp only [faultFree_append, faultFree_findingIf_fault, faultFree_findingIf_remark, and_true,
    Bool.not_eq_false', isBlank?_eq_false_iff, isOneOf_iff, faultFree_tested_iff, beq_iff_eq,
    faultFree_tokens_iff, faultFree_parameterFindings_iff, RequestBody.faultFree_findings?_iff,
    Response.faultFree_allFindings_iff]
  constructor
  · rintro ⟨⟨⟨⟨⟨⟨⟨⟨⟨id, name⟩, method⟩, path, rooted⟩, tokens⟩, idFree⟩, routeFree⟩, parameters⟩,
      body⟩, answered, responses, statuses⟩
    refine ⟨⟨id, name, method, path, rooted, tokens, parameters, body, answered, responses,
      statuses⟩, fun id eq => ?_, fun route eq => ?_⟩
    · rw [Option.mem_def.mp eq] at idFree
      simpa using idFree
    · rw [Option.mem_def.mp eq] at routeFree
      simpa using routeFree
  · rintro ⟨h, freshId, freshRoute⟩
    refine ⟨⟨⟨⟨⟨⟨⟨⟨⟨h.id, h.name⟩, h.method⟩, h.path, h.rooted⟩, h.tokens⟩, ?_⟩, ?_⟩,
      h.parameters⟩, h.requestBody⟩, h.answered, h.responses, h.statuses⟩
    · split
      case h_1 id eq => simpa using freshId id eq
      case h_2 => exact faultFree_nil
    · split
      case h_1 method path eq => simpa using freshRoute (method, path) eq
      case h_2 => exact faultFree_nil

/-- Endpoints from one on are without faults exactly when each is well-formed, and identifiers and
routes differ from each other and from those before. -/
lemma faultFree_findingsFrom_iff {ids : List String} {routes : List (String × String)} {i : Nat}
    {es : List Endpoint} :
    FaultFree (findingsFrom ids routes i es) ↔
      (∀ e ∈ es, e.WellFormed) ∧
      (es.Pairwise fun a b => a.id ≠ b.id) ∧
      (es.Pairwise fun a b => (a.method, a.path) ≠ (b.method, b.path)) ∧
      ∀ e ∈ es, (∀ id ∈ e.id?, id ∉ ids) ∧ ∀ route ∈ e.route?, route ∉ routes := by
  induction es generalizing ids routes i with
  | nil => simp [findingsFrom]
  | cons e rest ih =>
    rw [findingsFrom, faultFree_append, faultFree_findings_iff, ih, List.pairwise_cons,
      List.pairwise_cons, List.forall_mem_cons, List.forall_mem_cons]
    constructor
    · rintro ⟨⟨wf, new⟩, all, ids, routes, apart⟩
      rw [forall₂_and, forall_new_append_iff fun b mem => (all b mem).isSome_id?,
        forall_new_append_iff fun b mem => (all b mem).isSome_route?] at apart
      obtain ⟨⟨otherId, newId⟩, otherRoute, newRoute⟩ := apart
      refine ⟨⟨wf, all⟩, ⟨fun b mem => ?_, ids⟩, ⟨fun b mem => ?_, routes⟩, new,
        fun b mem => ⟨newId b mem, newRoute b mem⟩⟩
      · rw [← wf.id?, ← (all b mem).id?]
        exact otherId b mem
      · exact mt (wf.route?_eq_iff (all b mem)).mpr (otherRoute b mem)
    · rintro ⟨⟨wf, all⟩, ⟨otherId, ids⟩, ⟨otherRoute, routes⟩, new, apart⟩
      refine ⟨⟨wf, new⟩, all, ids, routes, ?_⟩
      rw [forall₂_and, forall_new_append_iff fun b mem => (all b mem).isSome_id?,
        forall_new_append_iff fun b mem => (all b mem).isSome_route?]
      refine ⟨⟨fun b mem => ?_, fun b mem => (apart b mem).1⟩,
        fun b mem => ?_, fun b mem => (apart b mem).2⟩
      · rw [wf.id?, (all b mem).id?]
        exact otherId b mem
      · exact mt (wf.route?_eq_iff (all b mem)).mp (otherRoute b mem)

end Endpoint

/-! ## Documents -/

/-- A model has no faults exactly if it is well-formed. -/
lemma Model.faultFree_findings_iff {name : String} {m : Model} :
    FaultFree (m.findings name) ↔ m.WellFormed := by
  simp only [Model.findings, faultFree_append, faultFree_findingIf_fault, bne_eq_false_iff_eq]
  constructor
  · rintro ⟨type, properties⟩
    refine ⟨type, ?_⟩
    split at properties
    case h_1 => exact absurd properties faultFree_fault
    case h_2 members eq =>
      exact ⟨members, eq, (Schema.faultFree_memberFindings_iff _ members).mp properties⟩
  · rintro ⟨type, members, eq, properties⟩
    refine ⟨type, ?_⟩
    rw [eq]
    exact (Schema.faultFree_memberFindings_iff _ members).mpr properties

/-- Authentication is without faults exactly when there is none or it is well-formed. -/
lemma Authentication.faultFree_findings?_iff {a : Option Authentication} :
    FaultFree (Authentication.findings? a) ↔ ∀ x ∈ a, x.WellFormed := by
  cases a with
  | none => simp [Authentication.findings?]
  | some a =>
    simp only [Authentication.findings?, faultFree_append, faultFree_findingIf_fault,
      faultFree_findingIf_remark, and_true, Bool.not_eq_false', isOneOf_iff, Bool.and_eq_false_imp,
      beq_iff_eq, isBlank?_eq_false_iff, Option.mem_some_iff, forall_eq']
    exact ⟨fun ⟨type, header⟩ => ⟨type, header⟩, fun h => ⟨h.type, h.header⟩⟩

namespace Document

/-- A document is without faults exactly when it is well-formed. -/
lemma faultFree_findings_iff {d : Document} : FaultFree d.findings ↔ d.WellFormed := by
  rw [Document.findings, Document.fieldFindings]
  simp only [faultFree_append, faultFree_findingIf_fault, faultFree_findingIf_remark, and_true,
    isBlank?_eq_false_iff, faultFree_tested_iff, Version.isVersion_iff, Url.isAbsolute_iff,
    List.isEmpty_eq_false_iff, Authentication.faultFree_findings?_iff,
    Endpoint.faultFree_findingsFrom_iff, faultFree_flatMap, Model.faultFree_findings_iff]
  constructor
  · rintro ⟨⟨⟨⟨⟨⟨title, version, numbered⟩, baseUrl, absolute⟩, nonempty⟩, authentication⟩,
      endpoints, ids, routes, _⟩, models⟩
    exact ⟨title, version, numbered, baseUrl, absolute, authentication, nonempty, endpoints, ids,
      routes, models⟩
  · intro h
    exact ⟨⟨⟨⟨⟨⟨h.title, h.version, h.numbered⟩, h.baseUrl, h.absolute⟩, h.nonempty⟩,
      h.authentication⟩, h.endpoints, h.ids, h.routes,
      fun e mem => ⟨fun id _ => List.not_mem_nil, fun route _ => List.not_mem_nil⟩⟩, h.models⟩

/-- Validation finds no fault in a document exactly when the document is well-formed. -/
theorem report_isValid_iff (d : Document) : d.report.isValid = true ↔ d.WellFormed :=
  Report.ofFindings_isValid.trans faultFree_findings_iff

end Document

end ClientSynth
