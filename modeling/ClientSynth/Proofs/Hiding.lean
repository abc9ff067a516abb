import ClientSynth.Proofs.Guard
import ClientSynth.Proofs.Relocation
import ClientSynth.Proofs.Survival

/-!
# Endpoints that hide others

Validation of a document says about an endpoint that conforms what it says when the endpoint is
alone, unless another endpoint takes the list of endpoints out: then it says nothing about any of
them. Whether an endpoint does so can be seen from a document of that endpoint only
(`Validation.endpoint_moved_iff`).

The argument is about the list of endpoints, which is looked at item by item with what was seen
before. A place below one endpoint is never the place of another or of a field, so a finding that is
moved stays apart from what is said elsewhere, and a list that is gone leaves the traversal without
endpoints to speak of.
-/

namespace ClientSynth

/-! ## Findings about an endpoint -/

namespace Endpoint

/-- Among the findings about endpoints are those about each of them. -/
lemma findings_subset_findingsFrom {endpoints : List Endpoint} {e : Endpoint} {j : Nat}
    (here : endpoints[j]? = some e) (ids : List String) (routes : List (String × String))
    (i : Nat) :
    e.findings [] [] (endpointPlace (i + j)) ⊆ findingsFrom ids routes i endpoints := by
  induction endpoints generalizing ids routes i j with
  | nil => cases here
  | cons first rest ih =>
    rw [findingsFrom, show Location.index [.key "endpoints"] i = endpointPlace i from rfl]
    cases j with
    | zero =>
      rw [List.getElem?_cons_zero, Option.some.injEq] at here
      rw [here, Nat.add_zero]
      exact List.Subset.trans (findings_sublist (endpointPlace i) ids routes e).subset
        (List.subset_append_left _ _)
    | succ j =>
      rw [List.getElem?_cons_succ] at here
      rw [show i + (j + 1) = i + 1 + j by omega]
      exact List.Subset.trans (ih here _ _ (i + 1)) (List.subset_append_right _ _)

end Endpoint

namespace Document

variable {d : Document} {e : Endpoint} {f : Finding}

/-- Among the findings about a document are those about each endpoint. -/
lemma endpoint_findings_subset {j : Nat} (here : d.endpoints[j]? = some e) :
    e.findings [] [] (endpointPlace j) ⊆ d.findings := by
  intro f mem
  have := Endpoint.findings_subset_findingsFrom here [] [] 0 (by rwa [Nat.zero_add])
  simp only [findings, List.mem_append]
  exact .inl (.inr this)

/-- A finding under a condition is that finding, if it is there. -/
lemma eq_of_mem_findingIf {reason : Bool} {g : Finding} (mem : f ∈ findingIf reason g) : f = g := by
  cases reason with
  | true => exact List.mem_singleton.mp mem
  | false => cases mem

/-- The places of a document's own fields that there is something to find at. -/
def fieldPlaces : List Location :=
  [[.key "title"], [.key "version"], [.key "baseURL"], [.key "description"], [.key "endpoints"]]

/-- What is found in the fields of a document is at one of a few places. -/
lemma location_of_fieldFinding (mem : f ∈ d.fieldFindings) : f.location ∈ fieldPlaces := by
  simp only [fieldFindings, List.mem_append] at mem
  rcases mem with (((mem | mem) | mem) | mem) | mem
  · rw [eq_of_mem_findingIf mem]
    decide
  · split at mem
    · rw [List.mem_singleton.mp mem]
      decide
    · rw [eq_of_mem_findingIf mem]
      decide
  · split at mem
    · rw [List.mem_singleton.mp mem]
      decide
    · rw [eq_of_mem_findingIf mem]
      decide
  · rw [eq_of_mem_findingIf mem]
    decide
  · rw [eq_of_mem_findingIf mem]
    decide

/-- What is found about the authentication is below its key. -/
lemma head_of_authenticationFinding {a : Option Authentication}
    (mem : f ∈ Authentication.findings? a) : f.location.head? = some (.key "authentication") := by
  cases a with
  | none =>
    rw [List.mem_singleton.mp mem]
    rfl
  | some a =>
    simp only [Authentication.findings?, List.mem_append] at mem
    rcases mem with (mem | mem) | mem <;> rw [eq_of_mem_findingIf mem] <;> rfl

/-- Findings about a model are at and below its place. -/
lemma place_of_modelFinding {name : String} {m : Model} (mem : f ∈ m.findings name) :
    ∃ rest, f.location = [.key "models", .key name] ++ rest := by
  simp only [Model.findings, List.mem_append] at mem
  rcases mem with mem | mem
  · rw [eq_of_mem_findingIf mem]
    exact ⟨[.key "type"], rfl⟩
  · split at mem
    · rw [List.mem_singleton.mp mem]
      exact ⟨[.key "properties"], rfl⟩
    · rw [← List.append_nil [Step.key "models", .key name], Schema.memberFindings_append] at mem
      obtain ⟨g, _, rfl⟩ := List.mem_map.mp mem
      exact ⟨g.location, Finding.location_below g⟩

/-- Of a document with one endpoint, the findings at and under its place are those about it. -/
lemma mem_endpoint_findings (only : d.endpoints = [e]) (mem : f ∈ d.findings)
    (place : endpointPlace 0 <+: f.location) : f ∈ e.findings [] [] (endpointPlace 0) := by
  obtain ⟨rest, eq⟩ := place
  have head : f.location.head? = some (.key "endpoints") := by
    rw [← eq]
    rfl
  simp only [findings, List.mem_append] at mem
  rcases mem with ((mem | mem) | mem) | mem
  · have lengths : ∀ l ∈ fieldPlaces, l.length = 1 := by decide
    have one := lengths _ (location_of_fieldFinding mem)
    rw [← eq, endpointPlace, List.length_append, List.length_cons, List.length_cons] at one
    omega
  · rw [head_of_authenticationFinding mem] at head
    exact absurd head (by decide)
  · rw [only, Endpoint.findingsFrom, Endpoint.findingsFrom, List.append_nil] at mem
    exact mem
  · obtain ⟨m, _, mem⟩ := List.mem_flatMap.mp mem
    obtain ⟨inside, place⟩ := place_of_modelFinding mem
    rw [place] at head
    exact absurd (Step.key.inj (Option.some.inj head)) (by decide)

/-- A document has the endpoint that a value in its list is. -/
lemma endpoint_of_lookup {entries : List (Scalar × Value)} {items : List Value} {j : Nat}
    {v : Value} (read : ofValue (.map entries) = .ok d)
    (here : lookupText "endpoints" entries = some (.list items)) (at_j : items[j]? = some v)
    (isEndpoint : Endpoint.ofValue v = .ok e) :
    d.endpoints.length = items.length ∧ d.endpoints[j]? = some e := by
  obtain ⟨w, conforms, rfl⟩ := map_eq_ok_iff.mp read
  have outcome := Value.conform_field_ok conforms Field.endpoints_mem
    (Field.found?_endpoints here) (.inl rfl)
  obtain ⟨ws, eq, outcomes⟩ := Value.conform_list_ok outcome
  have endpoints : (Document.read w).endpoints = ws.map Endpoint.read := by
    rw [Document.read, show w.field "endpoints" = .list ws from eq, Value.items]
  obtain ⟨u, conformsItem, rfl⟩ := map_eq_ok_iff.mp isEndpoint
  have written := congrArg (·[j]?) outcomes
  simp only [List.getElem?_map, at_j, Option.map_some, conformsItem] at written
  obtain ⟨u', at_j', same⟩ := Option.map_eq_some_iff.mp written.symm
  cases same
  refine ⟨?_, by rw [endpoints, List.getElem?_map, at_j', Option.map_some]⟩
  rw [endpoints, List.length_map, ← List.length_map (f := Except.ok (ε := List Rejection)),
    ← outcomes, List.length_map]

end Document

/-! ## Reports -/

namespace Report

variable {findings : List Finding} {l : Location}

/-- The errors of a report are the faults that were found. -/
lemma mem_errors_ofFindings {f : Fault} :
    ⟨l, f⟩ ∈ (ofFindings findings).errors ↔ .fault l f ∈ findings := by
  rw [ofFindings, List.mem_filterMap]
  refine ⟨?_, fun mem => ⟨_, mem, rfl⟩⟩
  rintro ⟨g, mem, eq⟩
  cases g <;> cases eq
  exact mem

/-- The warnings of a report are the remarks that were found. -/
lemma mem_warnings_ofFindings {r : Remark} :
    ⟨l, r⟩ ∈ (ofFindings findings).warnings ↔ .remark l r ∈ findings := by
  rw [ofFindings, List.mem_filterMap]
  refine ⟨?_, fun mem => ⟨_, mem, rfl⟩⟩
  rintro ⟨g, mem, eq⟩
  cases g <;> cases eq
  exact mem

/-- All that one report says at and under a place is said by another at and under another place. -/
structure Moved (r : Report) (place : Location) (other : Report) (there : Location) : Prop where
  errors : ∀ rest f, ⟨place ++ rest, f⟩ ∈ r.errors → ⟨there ++ rest, f⟩ ∈ other.errors
  warnings : ∀ rest w, ⟨place ++ rest, w⟩ ∈ r.warnings → ⟨there ++ rest, w⟩ ∈ other.warnings

/-- Nothing is said at and under a place. -/
structure Silent (r : Report) (place : Location) : Prop where
  errors : ∀ rest f, ⟨place ++ rest, f⟩ ∉ r.errors
  warnings : ∀ rest w, ⟨place ++ rest, w⟩ ∉ r.warnings

variable {found : List Finding} {place there : Location}

/-- Findings that are found below another place as well are moved there. -/
lemma moved_ofFindings
    (h : ∀ f : Finding, f.below place ∈ findings → f.below there ∈ found) :
    (ofFindings findings).Moved place (ofFindings found) there where
  errors rest f mem := mem_errors_ofFindings.mpr (h (.fault rest f) (mem_errors_ofFindings.mp mem))
  warnings rest w mem :=
    mem_warnings_ofFindings.mpr (h (.remark rest w) (mem_warnings_ofFindings.mp mem))

/-- Where nothing is found at or below a place the report says nothing of it. -/
lemma silent_ofFindings (h : ∀ f ∈ findings, ¬place <+: f.location) :
    (ofFindings findings).Silent place where
  errors _ _ mem := h _ (mem_errors_ofFindings.mp mem) (List.prefix_append _ _)
  warnings _ _ mem := h _ (mem_warnings_ofFindings.mp mem) (List.prefix_append _ _)

/-- What is moved to where nothing is said was not said. -/
lemma Moved.silent {r other : Report} (h : r.Moved place other there)
    (silent : other.Silent there) : r.Silent place where
  errors rest f mem := silent.errors rest f (h.errors rest f mem)
  warnings rest w mem := silent.warnings rest w (h.warnings rest w mem)

/-- Nothing that is not said is to be moved. -/
lemma Silent.moved {r : Report} (h : r.Silent place) (other : Report) :
    r.Moved place other there where
  errors _ _ mem := absurd mem (h.errors _ _)
  warnings _ _ mem := absurd mem (h.warnings _ _)

end Report

/-! ## Endpoints of a salvaged document -/

namespace Value

variable {entries : List (Scalar × Value)} {items : List Value}

/-- The list of endpoints is taken out of a JSON value when one of them does not stay. -/
lemma endpoints_mem_salvage_iff (json : (Value.map entries).IsJson)
    (here : lookupText "endpoints" entries = some (.list items)) :
    [.key "endpoints"] ∈ (Value.map entries).salvage.rejected ↔
      ¬∀ w ∈ items, w.StaysIn maxPasses (.record .endpoint) := by
  rw [salvage, json.plain_eq]
  cases json with
  | map keys _ => simpa using endpoints_mem_rejected_iff keys here [] maxPasses

/-- An endpoint stays when a document of it alone keeps its list. -/
lemma staysIn_iff_alone (json : (Value.map entries).IsJson)
    (here : lookupText "endpoints" entries = some (.list items)) {w : Value} (mem : w ∈ items) :
    w.StaysIn maxPasses (.record .endpoint) ↔
      [.key "endpoints"] ∉ (Value.object [("endpoints", .list [w])]).salvage.rejected := by
  have jsonItem : w.IsJson := by
    cases json with
    | map _ parts =>
      cases parts _ (mem_of_lookupEntry here) with
      | list parts => exact parts w mem
  have jsonAlone : (Value.object [("endpoints", .list [w])]).IsJson :=
    .map (.cons nofun .nil)
      (List.forall_mem_singleton.mpr (.list (List.forall_mem_singleton.mpr jsonItem)))
  have only : lookupText "endpoints" [(.text "endpoints", Value.list [w])] = some (.list [w]) :=
    lookupEntry_cons_self
  have iff := endpoints_mem_salvage_iff jsonAlone only
  rw [List.forall_mem_singleton] at iff
  exact (not_iff_comm.mp iff.symm).symm

end Value

namespace Validation

variable {entries : List (Scalar × Value)} {items : List Value} {j : Nat} {v : Value} {e : Endpoint}

section Conforming

variable (json : (Value.map entries).IsJson)
  (here : lookupText "endpoints" entries = some (.list items)) (at_j : items[j]? = some v)
  (conforms : v.refusals (.record .endpoint) = [])
include json here at_j conforms

/-- Only places elsewhere than an endpoint that conforms are reported, and taken out only with the
list of endpoints. -/
lemma elsewhere_of_salvage :
    (∀ r ∈ (Value.map entries).salvage.reported, Location.Elsewhere j r.location) ∧
      ∀ l ∈ (Value.map entries).salvage.rejected,
        l = [.key "endpoints"] ∨ Location.Elsewhere j l := by
  rw [Value.salvage, json.plain_eq]
  cases json with
  | map keys _ =>
    have has : Value.HasEndpoint entries j v := by
      intro w atKey
      rw [here] at atKey
      cases atKey
      exact ⟨items, rfl, at_j⟩
    obtain ⟨reported, taken⟩ := Value.elsewhere_of_salvaged keys has conforms [] maxPasses
    exact ⟨reported, fun l mem => (taken l mem).resolve_left List.not_mem_nil⟩

/-- When the list of endpoints is taken out, nothing is said about an endpoint that conforms. -/
lemma silent_of_taken (taken : [.key "endpoints"] ∈ (Value.map entries).salvage.rejected) :
    (ofValue (.map entries)).report.Silent (endpointPlace j) := by
  refine Report.silent_ofFindings fun f mem => ?_
  rintro ⟨rest, eq⟩
  rcases List.mem_append.mp mem with mem | mem
  · obtain ⟨r, isReported, rfl⟩ := List.mem_map.mp mem
    exact ((elsewhere_of_salvage json here at_j conforms).1 r isReported).ne eq.symm
  · obtain ⟨_, unsuppressed⟩ := List.mem_filter.mp mem
    have suppressed : isSuppressed (Value.map entries).salvage.rejected f.location = true := by
      rw [isSuppressed, List.any_eq_true]
      exact ⟨_, taken, eq ▸ Location.endpoints_covers rest⟩
    rw [suppressed] at unsuppressed
    cases unsuppressed

/-- While the list of endpoints is there, all is said about an endpoint that conforms. -/
lemma moved_of_kept (isEndpoint : Endpoint.ofValue v = .ok e)
    (kept : [.key "endpoints"] ∉ (Value.map entries).salvage.rejected) {alone : Document}
    (only : alone.endpoints = [e]) :
    alone.report.Moved (endpointPlace 0) (ofValue (.map entries)).report (endpointPlace j) := by
  obtain ⟨k, _, d, le, sheds, reads⟩ := json.keyed.exists_sheds
  obtain ⟨reported, rejected, settled⟩ := sheds.exists_salvageFrom reads []
  have salvaged : (Value.map entries).salvage = ⟨some d, reported, rejected⟩ :=
    settled maxPasses (Nat.lt_of_le_of_lt le (by decide))
  have stay := not_not.mp (mt (Value.endpoints_mem_salvage_iff json here).mpr kept)
  rw [salvaged] at kept
  -- The document that is left has the endpoint in its place, and so all findings about it.
  have found : e.findings [] [] (endpointPlace j) ⊆ d.findings := by
    rw [Value.salvage, json.plain_eq] at salvaged
    cases json with
    | map keys _ =>
      obtain ⟨left, rest, read, there, at_j⟩ := Value.endpoint_of_salvaged keys here at_j conforms
        stay (congrArg Salvage.document salvaged)
      exact Document.endpoint_findings_subset (Document.endpoint_of_lookup read there at_j
        isEndpoint).2
  rw [ofValue, salvaged]
  refine Report.moved_ofFindings fun f mem => List.mem_append_right _ (List.mem_filter.mpr ⟨?_, ?_⟩)
  · have inside := Document.mem_endpoint_findings only mem
      (by rw [Finding.location_below]; exact List.prefix_append _ _)
    rw [Endpoint.findings_at] at inside
    obtain ⟨g, isFinding, eq⟩ := List.mem_map.mp inside
    cases Finding.below_injective _ eq
    refine found ?_
    rw [Endpoint.findings_at]
    exact List.mem_map_of_mem isFinding
  · have unsuppressed : isSuppressed rejected (f.below (endpointPlace j)).location = false := by
      rw [isSuppressed, List.any_eq_false]
      intro r mem
      have places := (elsewhere_of_salvage json here at_j conforms).2 r
        (by rw [salvaged]; exact mem)
      rcases places with rfl | elsewhere
      · exact absurd mem kept
      · rw [Finding.location_below, elsewhere.not_covers]
        exact Bool.false_ne_true
    rw [unsuppressed]
    rfl

end Conforming

/-- All that is said about an endpoint that conforms, when it is alone in a document, is said about
it in its place among others exactly when none of them takes the list of endpoints out of a document
of its own, or there was nothing to say. -/
theorem endpoint_moved_iff (json : (Value.map entries).IsJson)
    (here : lookupText "endpoints" entries = some (.list items)) (at_j : items[j]? = some v)
    (isEndpoint : Endpoint.ofValue v = .ok e) {alone : List (Scalar × Value)}
    (jsonAlone : (Value.map alone).IsJson) (only : lookupText "endpoints" alone = some (.list [v]))
    {d : Document} (isDocument : Document.ofValue (.map alone) = .ok d) :
    (ofValue (.map alone)).report.Moved (endpointPlace 0)
        (ofValue (.map entries)).report (endpointPlace j) ↔
      (∀ w ∈ items,
        [.key "endpoints"] ∉ (Value.object [("endpoints", .list [w])]).salvage.rejected) ∨
      (ofValue (.map alone)).report.Silent (endpointPlace 0) := by
  obtain ⟨u, written, _⟩ := map_eq_ok_iff.mp isEndpoint
  have conforms : v.refusals (.record .endpoint) = [] := Value.refusals_eq_nil_iff.mpr ⟨u, written⟩
  obtain ⟨length, first⟩ := Document.endpoint_of_lookup isDocument only
    (List.getElem?_cons_zero (l := [])) isEndpoint
  have endpoints : d.endpoints = [e] := by
    obtain ⟨e', eq⟩ := List.length_eq_one_iff.mp length
    rw [eq] at first ⊢
    rw [Option.some.inj first]
  -- Whether an endpoint takes its list out does not hang on what else is in the document.
  have kept : (∀ w ∈ items,
      [.key "endpoints"] ∉ (Value.object [("endpoints", .list [w])]).salvage.rejected) ↔
        [.key "endpoints"] ∉ (Value.map entries).salvage.rejected := by
    rw [Value.endpoints_mem_salvage_iff json here, not_not]
    exact forall₂_congr fun w mem => (Value.staysIn_iff_alone json here mem).symm
  rw [kept, ofValue_of_ok jsonAlone isDocument]
  constructor
  · intro moved
    by_cases taken : [.key "endpoints"] ∈ (Value.map entries).salvage.rejected
    · exact .inr (moved.silent (silent_of_taken json here at_j conforms taken))
    · exact .inl taken
  · rintro (kept | silent)
    · exact moved_of_kept json here at_j conforms isEndpoint kept endpoints
    · exact silent.moved _

/-- Two numbers in place of tags hide all that is to say about the endpoint after them. -/
theorem endpoint_moved_iff_tags :
    ¬(ofValue (.object [("endpoints", .list [.object []])])).report.Moved (endpointPlace 0)
      (ofValue (.object [("endpoints", .list
        [.object [("tags", .list [.int 1, .int 2])], .object []])])).report (endpointPlace 1) := by
  have one : ∀ {name : String} {v : Value}, v.IsJson → (Value.map [(.text name, v)]).IsJson :=
    fun h => .map (.cons nofun .nil) (List.forall_mem_singleton.mpr h)
  have number : ∀ n : Int, Text.isOversized n = false → (Value.int n).IsJson :=
    fun n small => .scalar (s := .int n) small
  have tags : (Value.list [.int 1, .int 2]).IsJson :=
    .list (List.forall_mem_cons.mpr
      ⟨number 1 (by decide), List.forall_mem_singleton.mpr (number 2 (by decide))⟩)
  intro moved
  rcases (endpoint_moved_iff
    (one (.list (List.forall_mem_cons.mpr
      ⟨one tags, List.forall_mem_singleton.mpr Value.isJson_empty⟩)))
    lookupEntry_cons_self (j := 1) rfl rfl
    (one (.list (List.forall_mem_singleton.mpr Value.isJson_empty)))
    lookupEntry_cons_self rfl).mp moved with kept | silent
  · exact kept _ List.mem_cons_self (by decide +kernel)
  · have said : (ofValue (.object [("endpoints", .list [.object []])])).report.errors.any
        (fun x => x.location = endpointPlace 0 ++ [.key "id"] ∧ x.what = .noEndpointId) = true := by
      decide +kernel
    obtain ⟨⟨l, f⟩, mem, same⟩ := List.any_eq_true.mp said
    obtain ⟨rfl, rfl⟩ := of_decide_eq_true same
    exact silent.errors _ _ mem

end Validation

end ClientSynth
