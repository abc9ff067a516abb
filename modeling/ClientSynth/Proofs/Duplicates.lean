import Mathlib.Data.List.Nodup
import ClientSynth.Proofs.Order

/-!
# What occurs twice in a document

Identifiers, routes and status codes are each compared with those seen before. The three searches
are one search over keys, `repeatsFrom`, whose list of keys seen holds just the keys before
(`mem_repeatsFrom`). What a report says about repetitions is what this search finds, so that each
place with a value of an earlier place is told of once, and no other place is
(`Document.marks_repeats`).

None of the other findings is a repetition, which `Unrepeated` says of a list of them. It is closed
under everything that findings are put together with, so each part of a document needs one lemma,
and what is left of a report's repetitions are the three searches. Which search found what is read
off its code (`ofCode`), and an index goes back and forth between the place in a search and the
place in a report since the texts of places are injective.
-/

namespace ClientSynth

/-! ## Keys seen before -/

/-- The places, from an index on, of keys that are among those seen until then. -/
def repeatsFrom {κ : Type} [BEq κ] (seen : List κ) (i : Nat) : List (Option κ) → List (Nat × κ)
  | [] => []
  | key :: rest =>
    (key.toList.filter seen.contains).map (Prod.mk i) ++
      repeatsFrom (key.toList ++ seen) (i + 1) rest

/-- An item of a list has a value that counts, and an earlier item has the same value. -/
def Repeats {α : Type} (counts : α → Prop) (values : List (Option α)) (i : Nat) : Prop :=
  ∃ x, counts x ∧ values[i]? = some (some x) ∧ ∃ j < i, values[j]? = some (some x)

section Keys

variable {κ : Type} [BEq κ] [LawfulBEq κ] {seen : List κ} {keys : List (Option κ)} {key : κ}
  {n i : Nat}

/-- A key is found again where it is one of those seen at first, or stands earlier in the list. -/
lemma mem_repeatsFrom :
    (i, key) ∈ repeatsFrom seen n keys ↔
      ∃ k, i = n + k ∧ keys[k]? = some (some key) ∧
        (key ∈ seen ∨ ∃ j < k, keys[j]? = some (some key)) := by
  induction keys generalizing seen n with
  | nil => simp [repeatsFrom]
  | cons first rest ih =>
    have here : (i, key) ∈ (first.toList.filter seen.contains).map (Prod.mk n) ↔
        i = n ∧ first = some key ∧ key ∈ seen := by
      cases first <;> simp [and_comm, eq_comm]
    rw [repeatsFrom, List.mem_append, here, ih]
    constructor
    · rintro (⟨rfl, rfl, old⟩ | ⟨k, rfl, isKey, old⟩)
      · exact ⟨0, rfl, rfl, .inl old⟩
      · refine ⟨k + 1, by omega, isKey, ?_⟩
        -- What was seen until the rest is the first key, or was seen before it.
        rcases old with old | ⟨j, before, same⟩
        · rcases List.mem_append.mp old with isFirst | old
          · exact .inr ⟨0, k.succ_pos, congrArg some (Option.mem_toList.mp isFirst)⟩
          · exact .inl old
        · exact .inr ⟨j + 1, Nat.succ_lt_succ before, same⟩
    · rintro ⟨k, rfl, isKey, old⟩
      cases k with
      | zero =>
        rcases old with old | ⟨j, before, _⟩
        · exact .inl ⟨rfl, Option.some.inj isKey, old⟩
        · exact absurd before j.not_lt_zero
      | succ k =>
        refine .inr ⟨k, by omega, isKey, ?_⟩
        rcases old with old | ⟨j, before, same⟩
        · exact .inl (List.mem_append_right _ old)
        · cases j with
          | zero =>
            have isFirst : first = some key := Option.some.inj same
            exact .inl (List.mem_append_left _ (Option.mem_toList.mpr isFirst))
          | succ j => exact .inr ⟨j, Nat.lt_of_succ_lt_succ before, same⟩

example : repeatsFrom [] 0 [some 1, none, some 2, some 1, none, some 1] = [(3, 1), (5, 1)] := by
  decide

/-- Places are found in order, each once. -/
lemma pairwise_repeatsFrom :
    ((repeatsFrom seen n keys).map Prod.fst).Pairwise (· < ·) := by
  induction keys generalizing seen n with
  | nil => exact .nil
  | cons first rest ih =>
    rw [repeatsFrom, List.map_append, List.map_map]
    refine List.pairwise_append.mpr ⟨?_, ih, ?_⟩
    · cases first with
      | none => exact .nil
      | some key =>
        have few : ([key].filter seen.contains).Sublist [key] := List.filter_sublist
        exact List.Pairwise.sublist (few.map _) (List.pairwise_singleton _ _)
    · intro i isHere j isLater
      obtain ⟨_, _, rfl⟩ := List.mem_map.mp isHere
      obtain ⟨⟨j, key⟩, mem, rfl⟩ := List.mem_map.mp isLater
      obtain ⟨k, rfl, _⟩ := mem_repeatsFrom.mp mem
      exact Nat.lt_of_lt_of_le n.lt_succ_self (Nat.le_add_right _ k)

/-- Among the values that count, those that repeat an earlier one are found. -/
lemma mem_places_iff {values : List (Option κ)} {counts : κ → Prop} {test : κ → Bool}
    (tests : ∀ x, test x = true ↔ counts x) :
    i ∈ (repeatsFrom [] 0 (values.map (Option.filter test))).map Prod.fst ↔
      Repeats counts values i := by
  have key_iff (j : Nat) (x : κ) : (values.map (Option.filter test))[j]? = some (some x) ↔
      values[j]? = some (some x) ∧ counts x := by
    rw [List.getElem?_map, Option.map_eq_some_iff, ← tests x]
    constructor
    · rintro ⟨value, here, kept⟩
      obtain ⟨rfl, passes⟩ := Option.filter_eq_some_iff.mp kept
      exact ⟨here, passes⟩
    · rintro ⟨here, passes⟩
      exact ⟨some x, here, Option.filter_eq_some_iff.mpr ⟨rfl, passes⟩⟩
  rw [List.mem_map]
  constructor
  · rintro ⟨⟨i, x⟩, found, rfl⟩
    obtain ⟨k, rfl, here, old⟩ := mem_repeatsFrom.mp found
    rw [Nat.zero_add]
    rcases old with old | ⟨j, before, there⟩
    · cases old
    · obtain ⟨here, isCounted⟩ := (key_iff k x).mp here
      exact ⟨x, isCounted, here, j, before, ((key_iff j x).mp there).1⟩
  · rintro ⟨x, isCounted, here, j, before, there⟩
    refine ⟨(i, x), mem_repeatsFrom.mpr ⟨i, (Nat.zero_add i).symm, ?_, .inr ⟨j, before, ?_⟩⟩, rfl⟩
    · exact (key_iff i x).mpr ⟨here, isCounted⟩
    · exact (key_iff j x).mpr ⟨there, isCounted⟩

end Keys

/-! ## Faults about repetitions -/

/-- Whether a code is for what occurs twice. -/
def FaultCode.isDuplicate : FaultCode → Bool
  | .duplicateId | .duplicateEndpoint | .duplicateStatus => true
  | _ => false

/-- The faults among findings that are about what occurs twice. -/
def duplicates (findings : List Finding) : List (Located Fault) :=
  (faults findings).filter fun f => f.what.code.isDuplicate

/-- Findings of which none is about what occurs twice. -/
def Unrepeated (findings : List Finding) : Prop :=
  duplicates findings = []

section Findings

variable {findings later : List Finding} {place : Location} {cause : Fault} {reason : Bool}

/-- Repetitions of two lists of findings, in order. -/
lemma duplicates_append :
    duplicates (findings ++ later) = duplicates findings ++ duplicates later := by
  rw [duplicates, faults_append, List.filter_append]
  rfl

namespace Unrepeated

lemma nil : Unrepeated [] :=
  rfl

lemma append (front : Unrepeated findings) (back : Unrepeated later) :
    Unrepeated (findings ++ later) := by
  rw [Unrepeated, duplicates_append, front, back, List.append_nil]

lemma remarkIf {remark : Remark} : Unrepeated (findingIf reason (.remark place remark)) := by
  cases reason with
  | true => rfl
  | false => rfl

lemma fault (other : cause.code.isDuplicate = false) : Unrepeated [.fault place cause] := by
  apply List.filter_eq_nil_iff.mpr
  intro f mem
  cases List.mem_singleton.mp mem
  exact Bool.eq_false_iff.mp other

lemma faultIf (other : cause.code.isDuplicate = false) :
    Unrepeated (findingIf reason (.fault place cause)) := by
  cases reason with
  | true => exact fault other
  | false => rfl

/-- Findings about several things have no repetition if those about each have none. -/
lemma flatMap {α : Type} {findings : α → List Finding} {items : List α}
    (each : ∀ a ∈ items, Unrepeated (findings a)) : Unrepeated (items.flatMap findings) := by
  induction items with
  | nil => exact nil
  | cons a rest ih =>
    obtain ⟨first, others⟩ := List.forall_mem_cons.mp each
    rw [List.flatMap_cons]
    exact first.append (ih others)

end Unrepeated

/-- Where a key was seen before, that is told. -/
lemma duplicates_seen {κ : Type} [BEq κ] {seen : List κ} {key : κ} (faultOf : κ → Fault)
    (repeated : (faultOf key).code.isDuplicate = true) :
    duplicates (findingIf (seen.contains key) (.fault place (faultOf key))) =
      ([key].filter seen.contains).map fun x => ⟨place, faultOf x⟩ := by
  cases old : seen.contains key with
  | false =>
    rw [List.filter_cons_of_neg (Bool.eq_false_iff.mp old)]
    rfl
  | true =>
    rw [List.filter_cons_of_pos old]
    exact List.filter_cons_of_pos repeated

end Findings

/-! ## Parts of a document without repetitions -/

namespace Schema

mutual

/-- What is found in a schema is no repetition, by induction over its parts. -/
theorem unrepeated_findings (place : Location) : (s : Schema) → Unrepeated (findings place s)
  | ⟨type, _, _, _, _, items, properties, _⟩ => by
    rw [findings]
    split
    · exact .fault rfl
    · refine .append (.append (.faultIf rfl) ?_) ?_
      · split
        · exact unrepeated_tableFindings place properties
        · exact .nil
      · split
        · exact unrepeated_itemsFindings place items
        · exact .nil

theorem unrepeated_itemsFindings (place : Location) :
    (items : Option Schema) → Unrepeated (itemsFindings place items)
  | none => .nil
  | some s => unrepeated_findings (place.key "items") s

theorem unrepeated_tableFindings (place : Location) :
    (table : Option (List (String × Schema))) → Unrepeated (tableFindings place table)
  | none => .nil
  | some members => unrepeated_memberFindings place members

theorem unrepeated_memberFindings (place : Location) :
    (members : List (String × Schema)) → Unrepeated (memberFindings place members)
  | [] => .nil
  | (_, s) :: rest =>
    (unrepeated_findings _ s).append (unrepeated_memberFindings place rest)

end

end Schema

/-- What is found about a parameter is no repetition. -/
lemma Parameter.unrepeated_findings (place : Location) (p : Parameter) :
    Unrepeated (p.findings place) :=
  .append (.append (.append (.append (.append (.faultIf rfl) (.faultIf rfl)) (.faultIf rfl))
    .remarkIf) (.faultIf rfl)) (.faultIf rfl)

lemma RequestBody.unrepeated_findings? (place : Location) (b : Option RequestBody) :
    Unrepeated (RequestBody.findings? place b) := by
  cases b with
  | none => exact .nil
  | some b =>
    refine .append (.faultIf rfl) ?_
    split
    · exact .fault rfl
    · exact Schema.unrepeated_findings _ _

lemma Authentication.unrepeated_findings? (a : Option Authentication) :
    Unrepeated (Authentication.findings? a) := by
  cases a with
  | none => rfl
  | some a => exact .append (.append (.faultIf rfl) (.faultIf rfl)) .remarkIf

/-- What is found about a model is no repetition. -/
lemma Model.unrepeated_findings (name : String) (m : Model) : Unrepeated (m.findings name) := by
  refine .append (.faultIf rfl) ?_
  split
  · exact .fault rfl
  · exact Schema.unrepeated_memberFindings _ _

lemma Document.unrepeated_fieldFindings (d : Document) : Unrepeated d.fieldFindings := by
  refine .append (.append (.append (.append (.faultIf rfl) ?version) ?baseUrl) .remarkIf)
    (.faultIf rfl)
  all_goals
    split
    · exact .fault rfl
    · exact .faultIf rfl

namespace Endpoint

lemma unrepeated_fieldFindings (place : Location) (e : Endpoint) :
    Unrepeated (e.fieldFindings place) := by
  refine .append (.append (.append (.append (.append (.append (.faultIf rfl) (.faultIf rfl))
    (.faultIf rfl)) ?path) .remarkIf) .remarkIf) ?tokens
  case path =>
    split
    · exact .fault rfl
    · exact .faultIf rfl
  case tokens =>
    apply List.filter_eq_nil_iff.mpr
    intro f mem
    obtain ⟨finding, isFinding, same⟩ := List.mem_filterMap.mp mem
    obtain ⟨t, _, rfl⟩ := List.mem_map.mp isFinding
    cases same
    exact Bool.false_ne_true

lemma unrepeated_parameterFindings (place : Location) (i : Nat) (ps : List Parameter) :
    Unrepeated (parameterFindings place i ps) := by
  induction ps generalizing i with
  | nil => exact .nil
  | cons p rest ih => exact (p.unrepeated_findings _).append (ih _)

end Endpoint

/-! ## What is found -/

namespace Response

/-- The fault of a response with a status code that was there before. -/
def repeatedAt (place : Location) (found : Nat × Int) : Located Fault :=
  ⟨(place.index found.1).key "statusCode", .repeatedStatus found.2⟩

/-- A response repeats its status code if an earlier one has it. -/
lemma duplicates_findings (earlier : List Int) (place : Location) (r : Response) :
    duplicates (r.findings earlier place) =
      (r.status?.toList.filter earlier.contains).map
        fun code => ⟨place.key "statusCode", .repeatedStatus code⟩ := by
  rw [findings, duplicates_append, duplicates_append, Unrepeated.remarkIf, List.append_nil,
    ← List.append_nil (List.map _ _)]
  refine congrArg₂ (· ++ ·) ?status ?schema
  case status =>
    cases r.status? with
    | none => rfl
    | some code =>
      have range (outside : Bool) :
          Unrepeated (findingIf outside (.fault (place.key "statusCode") (.badStatus code))) :=
        .faultIf rfl
      rw [duplicates_append, range, List.append_nil]
      exact duplicates_seen .repeatedStatus rfl
  case schema =>
    split
    · exact Unrepeated.nil
    · exact Schema.unrepeated_findings _ _

/-- Of responses, the ones with a status code that was there before are told of. -/
lemma duplicates_findingsFrom (earlier : List Int) (place : Location) (i : Nat)
    (rs : List Response) :
    duplicates (findingsFrom earlier place i rs) =
      (repeatsFrom earlier i (rs.map status?)).map (repeatedAt place) := by
  induction rs generalizing earlier i with
  | nil => rfl
  | cons r rest ih =>
    rw [findingsFrom, duplicates_append, duplicates_findings, ih, List.map_cons, repeatsFrom,
      List.map_append, List.map_map]
    rfl

/-- The repetitions among responses are those that the search over their codes finds. -/
lemma duplicates_allFindings (place : Location) (rs : List Response) :
    duplicates (allFindings place rs) =
      (repeatsFrom [] 0 (rs.map status?)).map (repeatedAt place) := by
  cases rs with
  | nil => rfl
  | cons r rest =>
    rw [allFindings, if_neg (by simp), duplicates_append, Unrepeated.remarkIf, List.append_nil,
      duplicates_findingsFrom]

end Response

namespace Endpoint

section

variable (ids : List String) (routes : List (String × String)) (i : Nat) (e : Endpoint)

/-- The fault of an endpoint with an identifier that was there before. -/
def repeatedId : List (Located Fault) :=
  (e.id?.toList.filter ids.contains).map fun id => ⟨(endpointPlace i).key "id", .repeatedId id⟩

/-- The fault of an endpoint with a method and path that were there before. -/
def repeatedRoute : List (Located Fault) :=
  (e.route?.toList.filter routes.contains).map
    fun route => ⟨endpointPlace i, .repeatedRoute route.1 route.2⟩

/-- The faults of responses of an endpoint with a status code that was there before. -/
def repeatedStatuses : List (Located Fault) :=
  (repeatsFrom [] 0 (e.responses.map Response.status?)).map
    (Response.repeatedAt ((endpointPlace i).key "responses"))

/-- About an endpoint three kinds of repetition are told. -/
lemma duplicates_findings :
    duplicates (e.findings ids routes (endpointPlace i)) =
      e.repeatedId ids i ++ e.repeatedRoute routes i ++ e.repeatedStatuses i := by
  rw [findings, duplicates_append, duplicates_append, duplicates_append, duplicates_append,
    duplicates_append, unrepeated_fieldFindings, unrepeated_parameterFindings,
    RequestBody.unrepeated_findings?, Response.duplicates_allFindings, List.append_nil,
    List.append_nil, List.nil_append]
  refine congrArg (· ++ _) (congrArg₂ (· ++ ·) ?id ?route)
  case id =>
    rw [repeatedId]
    cases e.id? with
    | none => rfl
    | some id => exact duplicates_seen .repeatedId rfl
  case route =>
    rw [repeatedRoute]
    cases e.route? with
    | none => rfl
    | some route =>
      exact duplicates_seen (fun route : String × String => .repeatedRoute route.1 route.2) rfl

end

end Endpoint

/-! ## Faults of one code -/

/-- The faults among some that have a code. -/
def ofCode (code : FaultCode) (errors : List (Located Fault)) : List (Located Fault) :=
  errors.filter fun f => f.what.code == code

section Codes

variable {code own : FaultCode} {errors later : List (Located Fault)}

/-- Faults of a code in two reports, in order. -/
lemma ofCode_append : ofCode code (errors ++ later) = ofCode code errors ++ ofCode code later :=
  List.filter_append ..

/-- Of faults with one code, all or none are of a code. -/
lemma ofCode_map {α : Type} {items : List α} {faultOf : α → Located Fault}
    (same : ∀ a, (faultOf a).what.code = own) :
    ofCode code (items.map faultOf) = if own = code then items.map faultOf else [] := by
  rw [ofCode, List.filter_map]
  split
  case isTrue isOwn =>
    rw [List.filter_eq_self.mpr]
    intro a _
    exact beq_iff_eq.mpr ((same a).trans isOwn)
  case isFalse other =>
    rw [List.filter_eq_nil_iff.mpr, List.map_nil]
    intro a _ isCode
    exact other ((same a).symm.trans (eq_of_beq isCode))

/-- All faults with such a code are about what occurs twice. -/
lemma ofCode_duplicates (isDuplicate : code.isDuplicate = true) (findings : List Finding) :
    ofCode code (duplicates findings) = ofCode code (faults findings) := by
  rw [ofCode, duplicates, List.filter_filter]
  apply List.filter_congr
  intro f _
  cases same : f.what.code == code with
  | false => rfl
  | true => rw [eq_of_beq same, isDuplicate, Bool.and_true]

end Codes

namespace Endpoint

variable (ids : List String) (routes : List (String × String)) (i : Nat)

/-- The places of faults with a code about endpoints from one on. -/
def placesOf (code : FaultCode) (es : List Endpoint) : List Location :=
  (ofCode code (duplicates (findingsFrom ids routes i es))).map Located.location

/-- To the places in the endpoints after one come those in the endpoint itself. -/
lemma placesOf_cons (code : FaultCode) (e : Endpoint) (rest : List Endpoint) :
    placesOf ids routes i code (e :: rest) =
      ((if .duplicateId = code then e.repeatedId ids i else []) ++
        (if .duplicateEndpoint = code then e.repeatedRoute routes i else []) ++
        (if .duplicateStatus = code then e.repeatedStatuses i else [])).map Located.location ++
        placesOf (e.id?.toList ++ ids) (e.route?.toList ++ routes) (i + 1) code rest := by
  have findings : findingsFrom ids routes i (e :: rest) = e.findings ids routes (endpointPlace i) ++
      findingsFrom (e.id?.toList ++ ids) (e.route?.toList ++ routes) (i + 1) rest := rfl
  have own : ofCode code (duplicates (e.findings ids routes (endpointPlace i))) =
      (if .duplicateId = code then e.repeatedId ids i else []) ++
        (if .duplicateEndpoint = code then e.repeatedRoute routes i else []) ++
        (if .duplicateStatus = code then e.repeatedStatuses i else []) := by
    rw [duplicates_findings, ofCode_append, ofCode_append]
    exact congrArg₂ (· ++ ·)
      (congrArg₂ (· ++ ·) (ofCode_map fun _ => rfl) (ofCode_map fun _ => rfl))
      (ofCode_map fun _ => rfl)
  rw [placesOf, findings, duplicates_append, ofCode_append, own, List.map_append]
  rfl

/-- Identifiers are told of where the search finds them. -/
lemma placesOf_duplicateId (es : List Endpoint) :
    placesOf ids routes i .duplicateId es =
      ((repeatsFrom ids i (es.map id?)).map Prod.fst).map
        fun i => endpointPlace i ++ [.key "id"] := by
  induction es generalizing ids routes i with
  | nil => rfl
  | cons e rest ih =>
    rw [placesOf_cons, ih, List.map_cons, repeatsFrom]
    simp only [reduceCtorEq, if_true, if_false, List.append_nil, List.map_append, repeatedId,
      List.map_map]
    rfl

/-- Routes are told of where the search finds them. -/
lemma placesOf_duplicateEndpoint (es : List Endpoint) :
    placesOf ids routes i .duplicateEndpoint es =
      ((repeatsFrom routes i (es.map route?)).map Prod.fst).map endpointPlace := by
  induction es generalizing ids routes i with
  | nil => rfl
  | cons e rest ih =>
    rw [placesOf_cons, ih, List.map_cons, repeatsFrom]
    simp only [reduceCtorEq, if_true, if_false, List.nil_append, List.append_nil, List.map_append,
      repeatedRoute, List.map_map]
    rfl

/-- The place of the status code of a response. -/
def statusPlace (place : Nat × Nat) : Location :=
  endpointPlace place.1 ++ [.key "responses", .index place.2, .key "statusCode"]

/-- The places of responses, from an endpoint on, with a status code that was there before. -/
def statusesFrom (i : Nat) (es : List Endpoint) : List (Nat × Nat) :=
  (es.zipIdx i).flatMap fun e =>
    ((repeatsFrom [] 0 (e.1.responses.map Response.status?)).map Prod.fst).map (Prod.mk e.2)

/-- The places of repeated status codes: those of the first endpoint and those of the rest. -/
lemma statusesFrom_cons (e : Endpoint) (rest : List Endpoint) :
    statusesFrom i (e :: rest) =
      ((repeatsFrom [] 0 (e.responses.map Response.status?)).map Prod.fst).map (Prod.mk i) ++
        statusesFrom (i + 1) rest := by
  rw [statusesFrom, List.zipIdx_cons, List.flatMap_cons]
  rfl

/-- Status codes are told of where the search finds them among the responses of one endpoint. -/
lemma placesOf_duplicateStatus (es : List Endpoint) :
    placesOf ids routes i .duplicateStatus es = (statusesFrom i es).map statusPlace := by
  induction es generalizing ids routes i with
  | nil => rfl
  | cons e rest ih =>
    rw [placesOf_cons, ih, statusesFrom_cons]
    simp only [reduceCtorEq, if_true, if_false, List.nil_append, List.map_append, repeatedStatuses,
      List.map_map]
    rfl

/-- A response of an endpoint has a status code that an earlier response has as well. -/
lemma mem_statusesFrom_iff {es : List Endpoint} {place : Nat × Nat} :
    place ∈ statusesFrom 0 es ↔
      ∃ e, es[place.1]? = some e ∧
        Repeats (· ≠ 0) (e.responses.map Response.statusCode) place.2 := by
  have tests (x : Int) : (x != 0) = true ↔ x ≠ 0 := bne_iff_ne
  have places (e : Endpoint) (k : Nat) :
      k ∈ (repeatsFrom [] 0 (e.responses.map Response.status?)).map Prod.fst ↔
        Repeats (· ≠ 0) (e.responses.map Response.statusCode) k := by
    rw [← mem_places_iff tests, List.map_map]
    rfl
  rw [statusesFrom, List.mem_flatMap]
  constructor
  · rintro ⟨⟨e, i⟩, isPair, mem⟩
    obtain ⟨k, found, rfl⟩ := List.mem_map.mp mem
    exact ⟨e, List.mem_zipIdx_iff_getElem?.mp isPair, (places e k).mp found⟩
  · rintro ⟨e, here, repeats⟩
    refine ⟨(e, place.1), List.mem_zipIdx_iff_getElem?.mpr here, ?_⟩
    exact List.mem_map.mpr ⟨place.2, (places e place.2).mpr repeats, rfl⟩

/-- Each place is found once. -/
lemma nodup_statusesFrom (es : List Endpoint) : (statusesFrom i es).Nodup := by
  refine List.nodup_flatMap.mpr ⟨?_, ?_⟩
  · intro e _
    apply List.Nodup.map fun _ _ same => congrArg Prod.snd same
    exact pairwise_repeatsFrom.imp Nat.ne_of_lt
  · have indexes : (es.zipIdx i).Pairwise fun e e' => e.2 ≠ e'.2 := by
      rw [← List.pairwise_map, List.zipIdx_map_snd]
      exact List.nodup_range'
    refine indexes.imp fun {e e'} differ => ?_
    intro place mem mem'
    obtain ⟨_, _, rfl⟩ := List.mem_map.mp mem
    obtain ⟨_, _, same⟩ := List.mem_map.mp mem'
    exact differ (congrArg Prod.fst same).symm

end Endpoint

/-! ## Texts of places -/

namespace Location

variable {i j : Nat} {rest rest' : Location}

/-- Digits are told from what is behind the bracket after them. -/
lemma eq_of_digits {m n : Nat} {rest rest' : List Char}
    (same : Nat.toDigits 10 m ++ ']' :: rest = Nat.toDigits 10 n ++ ']' :: rest') :
    m = n ∧ rest = rest' := by
  have front : Nat.toDigits 10 m ++ ']' :: rest <+: Nat.toDigits 10 n ++ ']' :: rest' :=
    ⟨[], (List.append_nil _).trans same⟩
  have digits := Text.eq_of_bracket_prefix (Text.bracket_not_mem_toDigits m)
    (Text.bracket_not_mem_toDigits n) front
  rw [digits] at same
  exact ⟨Text.toDigits_inj digits, (List.cons.inj (List.append_cancel_left same)).2⟩

/-- An endpoint, and what is in it, are told by the text of a place. -/
lemma eq_of_text_endpoint
    (same : text (endpointPlace i ++ rest) = text (endpointPlace j ++ rest')) :
    i = j ∧ rest.flatMap Step.suffix = rest'.flatMap Step.suffix := by
  have chars := congrArg String.toList same
  rw [toList_text_endpoint, toList_text_endpoint] at chars
  exact eq_of_digits (List.cons.inj (List.append_cancel_left chars)).2

/-- The texts of one place in each endpoint differ. -/
lemma text_endpoint_injective (rest : Location) :
    Function.Injective fun i => text (endpointPlace i ++ rest) :=
  fun _ _ same => (eq_of_text_endpoint same).1

/-- The place of an identifier, as text. -/
lemma text_idPlace (i : Nat) :
    text (endpointPlace i ++ [.key "id"]) = "endpoints[" ++ Text.ofNat i ++ "].id" := by
  rw [text_endpoint, String.append_assoc, String.append_assoc]
  rfl

/-- The place of a route, as text. -/
lemma text_routePlace (i : Nat) :
    text (endpointPlace i ++ []) = "endpoints[" ++ Text.ofNat i ++ "]" := by
  rw [text_endpoint]
  exact String.append_empty

/-- The place of a status code, as text. -/
lemma text_statusPlace (place : Nat × Nat) :
    text (Endpoint.statusPlace place) =
      "endpoints[" ++ Text.ofNat place.1 ++ "].responses[" ++ Text.ofNat place.2 ++
        "].statusCode" := by
  rw [Endpoint.statusPlace, ← String.toList_inj, toList_text_endpoint]
  simp [Step.suffix, Text.ofInt, Text.ofNat]

/-- The text of a place gives back the numbers in it. -/
lemma text_statusPlace_injective :
    Function.Injective fun place => text (Endpoint.statusPlace place) := by
  rintro ⟨i, k⟩ ⟨j, l⟩ same
  obtain ⟨rfl, inside⟩ := eq_of_text_endpoint same
  have digits : Nat.toDigits 10 k ++ ']' :: ".statusCode".toList =
      Nat.toDigits 10 l ++ ']' :: ".statusCode".toList := by
    simpa [Step.suffix, Text.ofInt, Text.ofNat] using inside
  rw [(eq_of_digits digits).1]

end Location

/-! ## Values and keys -/

/-- A text that is not empty, as a test and as a statement. -/
lemma not_isEmpty_iff {s : String} : (!s.isEmpty) = true ↔ s ≠ "" := by
  rw [Bool.not_eq_true', String.isEmpty_eq_false_iff]

namespace Endpoint

/-- The method and path of an endpoint, where both are there. -/
def methodAndPath? (e : Endpoint) : Option (String × String) :=
  e.method.bind fun method => e.path.map (Prod.mk method)

/-- A route is a method and a path that are not empty. -/
lemma route?_eq (e : Endpoint) :
    e.route? = e.methodAndPath?.filter fun route => !route.1.isEmpty && !route.2.isEmpty := by
  rw [route?, methodAndPath?]
  cases e.method with
  | none => rfl
  | some method =>
    cases e.path with
    | none =>
      cases nonEmpty? (some method) with
      | none => rfl
      | some _ => rfl
    | some path =>
      simp only [nonEmpty?, Option.filter_some, Option.bind_some, Option.map_some]
      cases method.isEmpty with
      | true => rfl
      | false =>
        cases path.isEmpty with
        | true => rfl
        | false => rfl

/-- Which endpoints have the identifier of an earlier one. -/
lemma mem_ids_iff {es : List Endpoint} {i : Nat} :
    i ∈ (repeatsFrom [] 0 (es.map id?)).map Prod.fst ↔ Repeats (· ≠ "") (es.map Endpoint.id) i := by
  rw [← mem_places_iff fun _ => not_isEmpty_iff, List.map_map]
  rfl

/-- Which endpoints have method and path of an earlier one. -/
lemma mem_routes_iff {es : List Endpoint} {i : Nat} :
    i ∈ (repeatsFrom [] 0 (es.map route?)).map Prod.fst ↔
      Repeats (fun route => route.1 ≠ "" ∧ route.2 ≠ "") (es.map methodAndPath?) i := by
  have tests (route : String × String) :
      (!route.1.isEmpty && !route.2.isEmpty) = true ↔ route.1 ≠ "" ∧ route.2 ≠ "" := by
    rw [Bool.and_eq_true, not_isEmpty_iff, not_isEmpty_iff]
  rw [← mem_places_iff tests, List.map_map, List.map_congr_left fun e _ => route?_eq e]
  rfl

end Endpoint

/-! ## What a report marks -/

namespace Report

/-- The fields of the errors with a code. -/
def fields (r : Report) (code : FaultCode) : List String :=
  (r.errors.filter fun f => f.what.code == code).map fun f => f.location.text

/-- The errors with a code mark some places: one of them is about the field of each such place, and
none is about another one. -/
structure Marks {ι : Type} (r : Report) (code : FaultCode) (field : ι → String)
    (marked : ι → Prop) : Prop where
  once : ∀ i, marked i → (r.fields code).count (field i) = 1
  never : ∀ i, ¬marked i → (r.fields code).count (field i) = 0
  only : ∀ text ∈ r.fields code, ∃ i, marked i ∧ field i = text

end Report

namespace Document

/-- The repetitions in a document are those of its endpoints. -/
lemma duplicates_findings (d : Document) :
    duplicates d.findings = duplicates (Endpoint.findingsFrom [] [] 0 d.endpoints) := by
  have models : Unrepeated ((d.models.getD []).flatMap fun m => m.2.findings m.1) :=
    .flatMap fun m _ => m.2.unrepeated_findings m.1
  rw [findings, duplicates_append, duplicates_append, duplicates_append, d.unrepeated_fieldFindings,
    Authentication.unrepeated_findings?, models, List.nil_append, List.nil_append, List.append_nil]

/-- A report marks the places that are found in its endpoints. -/
lemma marks_of_found {code : FaultCode} {ι : Type} {places : List ι} {place : ι → Location}
    {field : ι → String} {marked : ι → Prop} (isDuplicate : code.isDuplicate = true) (d : Document)
    (found : Endpoint.placesOf [] [] 0 code d.endpoints = places.map place)
    (texts : ∀ i, (place i).text = field i)
    (injective : Function.Injective fun i => (place i).text) (nodup : places.Nodup)
    (mem_iff : ∀ i, i ∈ places ↔ marked i) : d.report.Marks code field marked := by
  obtain rfl : (fun i => (place i).text) = field := funext texts
  -- The faults of the code are those that the search found, in its order.
  have fields : d.report.fields code = places.map fun i => (place i).text := by
    have errors : d.report.errors = faults d.findings := rfl
    have coded := ofCode_duplicates isDuplicate d.findings
    rw [duplicates_findings] at coded
    have texts := congrArg (List.map Location.text) found
    rw [Report.fields, errors, ← ofCode, ← coded]
    rwa [Endpoint.placesOf, List.map_map, List.map_map] at texts
  constructor
  case once =>
    intro i isMarked
    rw [fields]
    apply List.count_eq_one_of_mem (nodup.map injective)
    exact List.mem_map_of_mem ((mem_iff i).mpr isMarked)
  case never =>
    intro i unmarked
    rw [fields]
    apply List.count_eq_zero_of_not_mem
    intro mem
    exact unmarked ((mem_iff i).mp ((List.mem_map_of_injective injective).mp mem))
  case only =>
    intro text mem
    rw [fields] at mem
    obtain ⟨i, isPlace, rfl⟩ := List.mem_map.mp mem
    exact ⟨i, (mem_iff i).mp isPlace, rfl⟩

/-- How validation tells of what occurs twice. -/
structure MarksRepeats (d : Document) : Prop where
  /-- Validation comes to its end exactly where messages can hold all status codes. -/
  ends : (∃ v, d.validate = .ok v) ↔ ∀ e ∈ d.endpoints, e.StatusesFit
  /-- An identifier is marked just where an earlier endpoint has the same one. -/
  identifiers : ∀ v, d.validate = .ok v →
    v.report.Marks .duplicateId (fun i : Nat => "endpoints[" ++ Text.ofNat i ++ "].id")
      (Repeats (· ≠ "") (d.endpoints.map Endpoint.id))
  /-- A route is marked just where an earlier endpoint has the same one. -/
  routes : ∀ v, d.validate = .ok v →
    v.report.Marks .duplicateEndpoint (fun i : Nat => "endpoints[" ++ Text.ofNat i ++ "]")
      (Repeats (fun route => route.1 ≠ "" ∧ route.2 ≠ "")
        (d.endpoints.map Endpoint.methodAndPath?))
  /-- A status code is marked just where an earlier response of the same endpoint has the same one.
  -/
  statuses : ∀ v, d.validate = .ok v →
    v.report.Marks .duplicateStatus
      (fun place : Nat × Nat => "endpoints[" ++ Text.ofNat place.1 ++ "].responses[" ++
        Text.ofNat place.2 ++ "].statusCode")
      (fun place => ∃ e, d.endpoints[place.1]? = some e ∧
        Repeats (· ≠ 0) (e.responses.map Response.statusCode) place.2)

/-- Validation tells of an identifier, a route or a status code just where an earlier endpoint, or
an earlier response of the same endpoint, has the same one, as long as messages can hold the status
codes. -/
theorem marks_repeats (d : Document) : d.MarksRepeats := by
  refine ⟨exists_validate_iff, ?ids, ?routes, ?statuses⟩
  case ids =>
    intro v checked
    obtain ⟨_, rfl⟩ := validate_eq_ok_iff.mp checked
    exact marks_of_found rfl d (Endpoint.placesOf_duplicateId [] [] 0 d.endpoints)
      Location.text_idPlace (Location.text_endpoint_injective _)
      (pairwise_repeatsFrom.imp Nat.ne_of_lt) fun _ => Endpoint.mem_ids_iff
  case routes =>
    intro v checked
    obtain ⟨_, rfl⟩ := validate_eq_ok_iff.mp checked
    exact marks_of_found rfl d (Endpoint.placesOf_duplicateEndpoint [] [] 0 d.endpoints)
      Location.text_routePlace (Location.text_endpoint_injective _)
      (pairwise_repeatsFrom.imp Nat.ne_of_lt) fun _ => Endpoint.mem_routes_iff
  case statuses =>
    intro v checked
    obtain ⟨_, rfl⟩ := validate_eq_ok_iff.mp checked
    exact marks_of_found rfl d (Endpoint.placesOf_duplicateStatus [] [] 0 d.endpoints)
      Location.text_statusPlace Location.text_statusPlace_injective
      (Endpoint.nodup_statusesFrom 0 d.endpoints) fun _ => Endpoint.mem_statusesFrom_iff

/-- Two endpoints with one identifier, and a status code that no message can hold. -/
def oversizedTwins : Document :=
  let twin : Endpoint := { oversized with id := some "a" }
  { silent with endpoints := [twin, twin] }

/-- The second of two endpoints repeats an identifier, and no report tells of it. -/
theorem marks_repeats_oversizedTwins :
    Repeats (· ≠ "") (oversizedTwins.endpoints.map Endpoint.id) 1 ∧
      ¬∃ v, oversizedTwins.validate = .ok v := by
  refine ⟨?_, fun ended => ?_⟩
  · exact ⟨"a", by decide, rfl, 0, Nat.zero_lt_one, rfl⟩
  · have fit := (marks_repeats oversizedTwins).ends.mp ended
    exact not_statusesFit_oversized (fit { oversized with id := some "a" } List.mem_cons_self)

end Document

end ClientSynth
