import ClientSynth.Proofs.Hiding
import ClientSynth.Proofs.Places

/-!
# Places of findings

Whatever the traversal of a document says is about a place of the layout, written with the first key
of each field (`Document.writes_findings`): each part of a document has its findings in the layout
of its own kind, and a part is at a place of the whole.

The findings about a part are stated relative to it, at the empty place, and brought to the place of
the part afterwards (`Kind.Leads.append`). So there is one lemma for each kind of part, and the only
induction is the one over the parts of a schema.
-/

namespace ClientSynth

namespace Kind

/-- A location with the first key of each field leads to a kind. -/
inductive Leads : Kind → Location → Kind → Prop where
  | here (kind : Kind) : Leads kind [] kind
  | step {kind inside found : Kind} {step : Step} {l : Location} :
    kind.Enters step step inside → Leads inside l found → Leads kind (step :: l) found

/-- A location with the first key of each field is a place of the layout. -/
def Writes (kind : Kind) (l : Location) : Prop :=
  ∃ found, kind.Leads l found

/-- All of some findings are about such places. -/
def WritesAll (kind : Kind) (findings : List Finding) : Prop :=
  ∀ f ∈ findings, kind.Writes f.location

variable {kind inside found : Kind} {l p : Location} {findings later : List Finding} {f : Finding}

/-- What a place leads to is what is at it. -/
lemma Leads.at? (h : kind.Leads l found) : kind.at? l = some found := by
  induction h with
  | here _ => rfl
  | step enters _ ih => rw [enters.at?, ih]

/-- A place of the layout is written as it is. -/
lemma Leads.written (h : kind.Leads l found) : kind.written l = l := by
  induction h with
  | here _ => rfl
  | step enters _ ih => rw [enters.written, ih]

/-- A place below a place of the layout is one of the layout. -/
lemma Leads.append (h : kind.Leads p inside) (below : inside.Leads l found) :
    kind.Leads (p ++ l) found := by
  induction h with
  | here _ => exact below
  | step enters _ ih => exact .step enters (ih below)

/-- The first key of a field leads to its kind. -/
lemma Leads.key {name : RecordName} {key : String}
    (h : (Kind.record name).enter? (.key key) = some (.key key, inside)) :
    (Kind.record name).Leads [.key key] inside :=
  .step (enter?_eq_some_iff.mp h) (.here inside)

namespace WritesAll

lemma nil : kind.WritesAll [] :=
  List.forall_mem_nil _

/-- Findings of two lists are at places of the layout if those of each are. -/
lemma append (front : kind.WritesAll findings) (back : kind.WritesAll later) :
    kind.WritesAll (findings ++ later) :=
  List.forall_mem_append.mpr ⟨front, back⟩

lemma single (h : kind.Writes f.location) : kind.WritesAll [f] :=
  List.forall_mem_singleton.mpr h

lemma findingIf {reason : Bool} (h : kind.Writes f.location) :
    kind.WritesAll (findingIf reason f) := by
  cases reason with
  | true => exact single h
  | false => exact nil

/-- What is about places of a part is about places of the whole. -/
lemma below (h : inside.WritesAll findings) (leads : kind.Leads p inside) :
    kind.WritesAll (findings.map (Finding.below p)) := by
  intro f mem
  obtain ⟨g, isFinding, rfl⟩ := List.mem_map.mp mem
  obtain ⟨found, there⟩ := h g isFinding
  rw [Finding.location_below]
  exact ⟨found, leads.append there⟩

end WritesAll

end Kind

open Kind (Leads WritesAll)

namespace Schema

mutual

/-- What is found in a schema is at places of schemas, by induction over its parts. -/
theorem writes_findings : (s : Schema) → (Kind.record .schema).WritesAll (findings [] s)
  | ⟨type, _, _, _, _, items, properties, _⟩ => by
    have atType : (Kind.record .schema).Writes [.key "type"] := ⟨_, .key rfl⟩
    rw [findings]
    split
    · exact .single atType
    · refine .append (.append (.findingIf atType) ?_) ?_
      · split
        · exact writes_tableFindings properties
        · exact .nil
      · split
        · exact writes_itemsFindings items
        · exact .nil

theorem writes_itemsFindings :
    (items : Option Schema) → (Kind.record .schema).WritesAll (itemsFindings [] items)
  | none => .nil
  | some s => by
    have below : itemsFindings [] (some s) = (findings [] s).map (Finding.below [.key "items"]) :=
      findings_append [.key "items"] [] s
    rw [below]
    exact (writes_findings s).below (.key rfl)

theorem writes_tableFindings :
    (table : Option (List (String × Schema))) →
      (Kind.record .schema).WritesAll (tableFindings [] table)
  | none => .nil
  | some members => writes_memberFindings rfl members

theorem writes_memberFindings {name : RecordName}
    (properties : (Kind.record name).enter? (.key "properties") =
      some (.key "properties", .table (.record .schema))) :
    (members : List (String × Schema)) → (Kind.record name).WritesAll (memberFindings [] members)
  | [] => .nil
  | (member, s) :: rest => by
    have below : memberFindings [] ((member, s) :: rest) =
        (findings [] s).map (Finding.below [.key "properties", .key member]) ++
          memberFindings [] rest :=
      congrArg (· ++ _) (findings_append [.key "properties", .key member] [] s)
    rw [below]
    refine .append ((writes_findings s).below ?_) (writes_memberFindings properties rest)
    exact .step (Kind.enter?_eq_some_iff.mp properties) (.step (.entry member) (.here _))

end

end Schema

/-- What is found in a parameter is at places of parameters. -/
lemma Parameter.writes_findings (p : Parameter) :
    (Kind.record .parameter).WritesAll (p.findings []) :=
  .append (.append (.append (.append (.append (.findingIf ⟨_, .key rfl⟩) (.findingIf ⟨_, .key rfl⟩))
    (.findingIf ⟨_, .key rfl⟩)) (.findingIf ⟨_, .key rfl⟩)) (.findingIf ⟨_, .here _⟩))
    (.findingIf ⟨_, .here _⟩)

/-- What is found in a request body is at places of request bodies. -/
lemma RequestBody.writes_findings (b : RequestBody) :
    (Kind.record .requestBody).WritesAll (RequestBody.findings? [] (some b)) := by
  refine .append (.findingIf ⟨_, .key rfl⟩) ?_
  split
  · exact .single ⟨_, .key rfl⟩
  case h_2 s _ =>
    rw [← List.append_nil (Location.key _ "schema"), Schema.findings_append]
    exact s.writes_findings.below (.key rfl)

namespace Response

/-- What is found in a response is at places of responses. -/
lemma writes_findings (earlier : List Int) (r : Response) :
    (Kind.record .response).WritesAll (r.findings earlier []) := by
  refine .append (.append ?_ (.findingIf ⟨_, .key rfl⟩)) ?_
  · split
    · exact .single ⟨_, .key rfl⟩
    · exact .append (.findingIf ⟨_, .key rfl⟩) (.findingIf ⟨_, .key rfl⟩)
  · split
    · exact .nil
    case h_2 s _ =>
      rw [← List.append_nil (Location.key _ "schema"), Schema.findings_append]
      exact s.writes_findings.below (.key rfl)

/-- What is found in responses is at places of a list of them, from a number on. -/
lemma writes_findingsFrom (earlier : List Int) (i : Nat) (rs : List Response) :
    (Kind.list (.record .response)).WritesAll (findingsFrom earlier [] i rs) := by
  induction rs generalizing earlier i with
  | nil => exact .nil
  | cons r rest ih =>
    rw [findingsFrom, ← List.append_nil (Location.index _ i), findings_append]
    exact .append ((r.writes_findings earlier).below (.step (.item i) (.here _))) (ih _ _)

lemma writes_allFindings (rs : List Response) :
    (Kind.list (.record .response)).WritesAll (allFindings [] rs) := by
  unfold allFindings
  split
  · exact .single ⟨_, .here _⟩
  · exact .append (writes_findingsFrom [] 0 rs) (.findingIf ⟨_, .here _⟩)

end Response

namespace Endpoint

lemma writes_fieldFindings (e : Endpoint) :
    (Kind.record .endpoint).WritesAll (e.fieldFindings []) := by
  refine .append (.append (.append (.append (.append (.append (.findingIf ⟨_, .key rfl⟩)
    (.findingIf ⟨_, .key rfl⟩)) (.findingIf ⟨_, .key rfl⟩)) ?path) (.findingIf ⟨_, .key rfl⟩))
    (.findingIf ⟨_, .key rfl⟩)) ?tokens
  case path =>
    split
    · exact .single ⟨_, .key rfl⟩
    · exact .findingIf ⟨_, .key rfl⟩
  case tokens =>
    intro f mem
    obtain ⟨t, _, rfl⟩ := List.mem_map.mp mem
    exact ⟨_, .key rfl⟩

lemma writes_parameterFindings (i : Nat) (ps : List Parameter) :
    (Kind.list (.record .parameter)).WritesAll (parameterFindings [] i ps) := by
  induction ps generalizing i with
  | nil => exact .nil
  | cons p rest ih =>
    rw [parameterFindings, ← List.append_nil (Location.index _ i), Parameter.findings_append]
    exact .append (p.writes_findings.below (.step (.item i) (.here _))) (ih _)

/-- What is found in an endpoint is at places of endpoints. -/
lemma writes_findings (ids : List String) (routes : List (String × String)) (e : Endpoint) :
    (Kind.record .endpoint).WritesAll (e.findings ids routes []) := by
  refine .append (.append (.append (.append (.append e.writes_fieldFindings ?id) ?route)
    ?parameters) ?body) ?responses
  case id =>
    split
    · exact .findingIf ⟨_, .key rfl⟩
    · exact .nil
  case route =>
    split
    · exact .findingIf ⟨_, .here _⟩
    · exact .nil
  case parameters =>
    rw [← List.append_nil (Location.key _ "parameters"), parameterFindings_append]
    exact (writes_parameterFindings 0 _).below (.key rfl)
  case body =>
    cases e.requestBody with
    | none => exact .nil
    | some b =>
      rw [← List.append_nil (Location.key _ "requestBody"), RequestBody.findings?_append]
      exact b.writes_findings.below (.key rfl)
  case responses =>
    rw [← List.append_nil (Location.key _ "responses"), Response.allFindings_append]
    exact (Response.writes_allFindings _).below (.key rfl)

/-- What is found in endpoints is at places of documents, from a number on. -/
lemma writes_findingsFrom (ids : List String) (routes : List (String × String)) (i : Nat)
    (endpoints : List Endpoint) :
    (Kind.record .document).WritesAll (findingsFrom ids routes i endpoints) := by
  induction endpoints generalizing ids routes i with
  | nil => exact .nil
  | cons e rest ih =>
    rw [findingsFrom, findings_at]
    refine .append ((e.writes_findings ids routes).below ?_) (ih _ _ _)
    exact .step (Kind.enter?_eq_some_iff.mp rfl) (.step (.item i) (.here _))

end Endpoint

/-- What is found about the authentication is at places of documents. -/
lemma Authentication.writes_findings (a : Option Authentication) :
    (Kind.record .document).WritesAll (Authentication.findings? a) := by
  cases a with
  | none => exact .single ⟨_, .key rfl⟩
  | some a =>
    have inside : ∀ {key : String} {kind : Kind},
        (Kind.record .authentication).enter? (.key key) = some (.key key, kind) →
          (Kind.record .document).Writes [.key "authentication", .key key] :=
      fun own => ⟨_, .step (Kind.enter?_eq_some_iff.mp rfl) (.key own)⟩
    exact .append (.append (.findingIf (inside rfl)) (.findingIf (inside rfl)))
      (.findingIf (inside rfl))

/-- What is found in a model is at places of documents. -/
lemma Model.writes_findings (name : String) (m : Model) :
    (Kind.record .document).WritesAll (m.findings name) := by
  have place : (Kind.record .document).Leads [.key "models", .key name] (.record .model) :=
    .step (Kind.enter?_eq_some_iff.mp rfl) (.step (.entry name) (.here _))
  refine .append (.findingIf ⟨_, place.append (.key rfl)⟩) ?_
  split
  · exact .single ⟨_, place.append (.key rfl)⟩
  case h_2 members _ =>
    rw [← List.append_nil [Step.key "models", .key name], Schema.memberFindings_append]
    exact (Schema.writes_memberFindings rfl members).below place

namespace Document

lemma writes_fieldFindings (d : Document) :
    (Kind.record .document).WritesAll d.fieldFindings := by
  intro f mem
  have places : ∀ l ∈ fieldPlaces, (Kind.record .document).Writes l := by
    simp only [fieldPlaces, List.forall_mem_cons]
    exact ⟨⟨_, .key rfl⟩, ⟨_, .key rfl⟩, ⟨_, .key rfl⟩, ⟨_, .key rfl⟩, ⟨_, .key rfl⟩,
      List.forall_mem_nil _⟩
  exact places _ (location_of_fieldFinding mem)

/-- All that is found in a document is about places of the layout, written with the first key of
each field. -/
theorem writes_findings (d : Document) : (Kind.record .document).WritesAll d.findings := by
  refine .append (.append (.append d.writes_fieldFindings (Authentication.writes_findings _))
    (Endpoint.writes_findingsFrom [] [] 0 _)) ?_
  intro f mem
  obtain ⟨m, _, mem⟩ := List.mem_flatMap.mp mem
  exact m.2.writes_findings m.1 f mem

end Document

end ClientSynth
