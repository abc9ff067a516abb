import ClientSynth.Proofs.Hiding
import Mathlib.Algebra.Group.Int.Defs

/-!
# The order of a report

A fault is about one part of a document, and its place tells which: `Part.of` reads it off. The
faults of a report come part by part in the order in which a document is looked at, with nothing
about an earlier part after one about a later part (`InOrder`). Further endpoints at the end leave
what is said before as it is, and in the same order (`Document.validation_follows`). Both need that
validation comes to its end, which a status code that no message can hold keeps it from.

Order is stated for lists with labels, by a list of labels with a group of elements under each
(`InOrder`), and it is closed under appending and under relabelling, so that the order of a
document's parts is put together from the order of the parts of an endpoint. The second half is
about two documents of which one extends the other: the findings about the common endpoints are the
same ones, since what was seen before an endpoint does not depend on what follows.
-/

namespace ClientSynth

/-! ## Parts -/

/-- The parts of an endpoint: its own fields, the tokens of its path, what earlier endpoints have as
well, its parameters, its request body and its responses. -/
inductive EndpointPart where
  | fields
  | tokens
  | identifier
  | route
  | parameter (i : Nat)
  | body
  | responses
  | response (i : Nat)
  deriving DecidableEq

/-- The parts of a document. -/
inductive Part where
  | fields
  | authentication
  | endpoint (i : Nat) (part : EndpointPart)
  | model (name : String)
  deriving DecidableEq

/-- The part of an endpoint that a fault inside it is about. A place does not tell an identifier
that is missing from one that was there before. -/
def EndpointPart.of (inside : Location) (f : Fault) : EndpointPart :=
  match inside with
  | [] => .route
  | [.key name] =>
    if name = "parameters" then .tokens
    else if name = "responses" then .responses
    else match f with
      | .repeatedId _ => .identifier
      | _ => .fields
  | .key name :: .index i :: _ =>
    if name = "parameters" then .parameter i.toNat else .response i.toNat
  | _ => .body

/-- The part of a document that a fault is about. -/
def Part.of (f : Located Fault) : Part :=
  match f.location with
  | .key "endpoints" :: .index i :: inside => .endpoint i.toNat (EndpointPart.of inside f.what)
  | .key "models" :: .key name :: _ => .model name
  | .key "authentication" :: _ => .authentication
  | _ => .fields

/-- The parts of an endpoint, in order. -/
def Endpoint.parts (e : Endpoint) : List EndpointPart :=
  [EndpointPart.fields, .tokens, .identifier, .route] ++
    (List.range' 0 (e.parameters.getD []).length).map EndpointPart.parameter ++
    [EndpointPart.body] ++
    (List.range' 0 e.responses.length).map EndpointPart.response ++ [EndpointPart.responses]

/-- The parts of a document, in order. -/
def Document.parts (d : Document) : List Part :=
  [Part.fields, .authentication] ++
    d.endpoints.zipIdx.flatMap (fun e => e.1.parts.map (Part.endpoint e.2)) ++
    (d.models.getD []).map fun m => Part.model m.1

/-! ## Order -/

/-- What comes label by label, with any number of things under each label. -/
inductive InOrder {α β : Type} (label : β → α) : List α → List β → Prop where
  | nil : InOrder label [] []
  | cons {a : α} {labels : List α} {group later : List β} :
    (∀ b ∈ group, label b = a) → InOrder label labels later →
      InOrder label (a :: labels) (group ++ later)

namespace InOrder

variable {α β γ δ : Type} {label : β → α} {labels more : List α} {xs ys : List β}

/-- What has one label only is in order. -/
lemma single {a : α} (h : ∀ b ∈ xs, label b = a) : InOrder label [a] xs := by
  have := cons h .nil
  rwa [List.append_nil] at this

/-- What is in order goes on with what is in order for the labels behind. -/
lemma append (front : InOrder label labels xs) (back : InOrder label more ys) :
    InOrder label (labels ++ more) (xs ++ ys) := by
  induction front with
  | nil => exact back
  | cons h _ ih =>
    rw [List.cons_append, List.append_assoc]
    exact .cons h ih

/-- Order is kept when labels and elements are renamed together. -/
lemma map {relabel : δ → γ} {f : α → γ} {g : β → δ} (same : ∀ b, relabel (g b) = f (label b))
    (h : InOrder label labels xs) : InOrder relabel (labels.map f) (xs.map g) := by
  induction h with
  | nil => exact .nil
  | cons h _ ih =>
    rw [List.map_cons, List.map_append]
    refine .cons ?_ ih
    intro d mem
    obtain ⟨b, isMember, rfl⟩ := List.mem_map.mp mem
    rw [same, h b isMember]

end InOrder

/-- The faults among findings. -/
def faults (findings : List Finding) : List (Located Fault) :=
  findings.filterMap Finding.fault?

section Faults

variable {findings later : List Finding} {α : Type} {label : Located Fault → α} {a : α}

/-- The faults of two lists of findings, in order. -/
lemma faults_append : faults (findings ++ later) = faults findings ++ faults later :=
  List.filterMap_append

/-- The faults below a place are those found there, each below the place. -/
lemma faults_below (place : Location) :
    faults (findings.map (Finding.below place)) =
      (faults findings).map fun f => ⟨place ++ f.location, f.what⟩ := by
  induction findings with
  | nil => rfl
  | cons f rest ih =>
    cases f with
    | fault l f => exact congrArg _ ih
    | remark l r => exact ih

/-- What is seen from above a place is in it. -/
lemma inside_of_below {place l : Location} {f : Fault}
    (mem : .fault l f ∈ findings.map (Finding.below place)) : ∃ inside, l = place ++ inside := by
  obtain ⟨g, _, eq⟩ := List.mem_map.mp mem
  cases g with
  | fault inside g =>
    cases eq
    exact ⟨inside, rfl⟩
  | remark inside r => cases eq

/-- Faults about one part are in order. -/
lemma inOrder_faults (h : ∀ l f, Finding.fault l f ∈ findings → label ⟨l, f⟩ = a) :
    InOrder label [a] (faults findings) := by
  apply InOrder.single
  intro f mem
  obtain ⟨g, isFinding, eq⟩ := List.mem_filterMap.mp mem
  cases g with
  | fault l f =>
    cases eq
    exact h l f isFinding
  | remark l r => cases eq

end Faults

/-! ## Endpoints -/

open Document (eq_of_mem_findingIf)

namespace Endpoint

/-- The part of an endpoint that a fault is about, by its place in the endpoint. -/
def partOf (f : Located Fault) : EndpointPart :=
  .of f.location f.what

/-- In an endpoint the faults of its own fields come before those of the path's tokens. -/
lemma inOrder_fieldFindings (e : Endpoint) :
    InOrder partOf [.fields, .tokens] (faults (e.fieldFindings [])) := by
  rw [fieldFindings, faults_append]
  show InOrder partOf ([EndpointPart.fields] ++ [EndpointPart.tokens]) _
  apply InOrder.append
  case front =>
    apply inOrder_faults
    intro l f mem
    simp only [List.mem_append] at mem
    rcases mem with ((((id | name) | method) | path) | summary) | description
    · cases eq_of_mem_findingIf id
      rfl
    · cases eq_of_mem_findingIf name
      rfl
    · cases eq_of_mem_findingIf method
      rfl
    · split at path
      · cases List.mem_singleton.mp path
        rfl
      · cases eq_of_mem_findingIf path
        rfl
    · cases eq_of_mem_findingIf summary
    · cases eq_of_mem_findingIf description
  case back =>
    apply inOrder_faults
    intro l f mem
    obtain ⟨t, _, eq⟩ := List.mem_map.mp mem
    cases eq
    rfl

/-- The faults of parameters come parameter by parameter. -/
lemma inOrder_parameterFindings (i : Nat) (ps : List Parameter) :
    InOrder partOf ((List.range' i ps.length).map .parameter)
      (faults (parameterFindings [.key "parameters"] i ps)) := by
  induction ps generalizing i with
  | nil => exact .nil
  | cons p rest ih =>
    rw [parameterFindings, faults_append, List.length_cons, List.range'_succ, List.map_cons,
      ← List.singleton_append]
    refine InOrder.append (inOrder_faults fun l f mem => ?_) (ih (i + 1))
    rw [← List.append_nil (Location.index _ i), Parameter.findings_append] at mem
    obtain ⟨inside, rfl⟩ := inside_of_below mem
    rfl

/-- The faults of a request body are about the body. -/
lemma inOrder_bodyFindings (b : Option RequestBody) :
    InOrder partOf [.body] (faults (RequestBody.findings? [.key "requestBody"] b)) := by
  apply inOrder_faults
  intro l f mem
  cases b with
  | none => cases mem
  | some b =>
    rcases List.mem_append.mp mem with type | schema
    · cases eq_of_mem_findingIf type
      rfl
    · split at schema
      · cases List.mem_singleton.mp schema
        rfl
      · rw [← List.append_nil (Location.key _ "schema"), Schema.findings_append] at schema
        obtain ⟨inside, rfl⟩ := inside_of_below schema
        rfl

/-- The faults of responses come response by response. -/
lemma inOrder_responseFindings (earlier : List Int) (i : Nat) (rs : List Response) :
    InOrder partOf ((List.range' i rs.length).map .response)
      (faults (Response.findingsFrom earlier [.key "responses"] i rs)) := by
  induction rs generalizing earlier i with
  | nil => exact .nil
  | cons r rest ih =>
    rw [Response.findingsFrom, faults_append, List.length_cons, List.range'_succ, List.map_cons,
      ← List.singleton_append]
    refine InOrder.append (inOrder_faults fun l f mem => ?_) (ih _ (i + 1))
    rw [← List.append_nil (Location.index _ i), Response.findings_append] at mem
    obtain ⟨inside, rfl⟩ := inside_of_below mem
    rfl

/-- The faults of all responses come response by response, and at last those of their list. -/
lemma inOrder_allFindings (rs : List Response) :
    InOrder partOf ((List.range' 0 rs.length).map .response ++ [.responses])
      (faults (Response.allFindings [.key "responses"] rs)) := by
  cases rs with
  | nil => exact .single (List.forall_mem_singleton.mpr rfl)
  | cons r rest =>
    have some : Response.allFindings [.key "responses"] (r :: rest) =
      Response.findingsFrom [] [.key "responses"] 0 (r :: rest) ++
        findingIf (!(r :: rest).any Response.isSuccess)
          (.remark [.key "responses"] .noSuccessResponse) := rfl
    rw [some, faults_append]
    apply (inOrder_responseFindings [] 0 (r :: rest)).append
    apply inOrder_faults
    intro l f mem
    cases eq_of_mem_findingIf mem

/-- The faults of an endpoint come in the order of its parts. -/
lemma inOrder_findings (ids : List String) (routes : List (String × String)) (e : Endpoint) :
    InOrder partOf e.parts (faults (e.findings ids routes [])) := by
  simp only [findings, faults_append]
  have parts : e.parts = [EndpointPart.fields, .tokens] ++ [EndpointPart.identifier] ++
      [EndpointPart.route] ++
        (List.range' 0 (e.parameters.getD []).length).map EndpointPart.parameter ++
          [EndpointPart.body] ++
            ((List.range' 0 e.responses.length).map EndpointPart.response ++
              [EndpointPart.responses]) := by
    simp [Endpoint.parts]
  rw [parts]
  refine .append (.append (.append (.append (.append e.inOrder_fieldFindings ?identifier) ?route)
    (inOrder_parameterFindings _ _)) (inOrder_bodyFindings _)) (inOrder_allFindings _)
  case identifier | route =>
    apply inOrder_faults
    intro l f mem
    split at mem
    · cases eq_of_mem_findingIf mem
      rfl
    · cases mem

/-- The faults of endpoints come endpoint by endpoint, and within each part by part. -/
lemma inOrder_findingsFrom (ids : List String) (routes : List (String × String)) (i : Nat)
    (endpoints : List Endpoint) :
    InOrder Part.of ((endpoints.zipIdx i).flatMap fun e => e.1.parts.map (.endpoint e.2))
      (faults (findingsFrom ids routes i endpoints)) := by
  induction endpoints generalizing ids routes i with
  | nil => exact .nil
  | cons e rest ih =>
    rw [findingsFrom, faults_append, List.zipIdx_cons, List.flatMap_cons, findings_at,
      faults_below]
    apply InOrder.append
    · apply (e.inOrder_findings ids routes).map
      intro f
      rfl
    · exact ih _ _ (i + 1)

/-- What is found about endpoints does not hang on those after them. -/
lemma findingsFrom_prefix (ids : List String) (routes : List (String × String)) (i : Nat)
    (endpoints more : List Endpoint) :
    findingsFrom ids routes i endpoints <+: findingsFrom ids routes i (endpoints ++ more) := by
  induction endpoints generalizing ids routes i with
  | nil => exact List.nil_prefix
  | cons e rest ih =>
    rw [List.cons_append, findingsFrom, findingsFrom]
    exact (List.prefix_append_right_inj _).mpr (ih _ _ _)

/-- Messages can hold the status codes of an endpoint: none has too many digits. -/
def StatusesFit (e : Endpoint) : Prop :=
  ∀ r ∈ e.responses, ∀ code, r.statusCode = some code → code.natAbs < 10 ^ Text.maxDigits

end Endpoint

/-! ## Documents -/

open scoped List

namespace Document

/-- The faults of the document's own fields are about them. -/
lemma inOrder_fieldFindings (d : Document) :
    InOrder Part.of [.fields] (faults d.fieldFindings) := by
  apply inOrder_faults
  intro l f mem
  have keys : ∀ l ∈ fieldPlaces, Part.of ⟨l, f⟩ = .fields := by
    simp only [fieldPlaces, List.forall_mem_cons]
    exact ⟨rfl, rfl, rfl, rfl, rfl, List.forall_mem_nil _⟩
  exact keys l (location_of_fieldFinding mem)

/-- The faults of the authentication are about it. -/
lemma inOrder_authenticationFindings (a : Option Authentication) :
    InOrder Part.of [.authentication] (faults (Authentication.findings? a)) := by
  apply inOrder_faults
  intro l f mem
  obtain ⟨rest, rfl⟩ := List.head?_eq_some_iff.mp (head_of_authenticationFinding mem)
  rfl

/-- The faults of models come model by model. -/
lemma inOrder_modelFindings (models : List (String × Model)) :
    InOrder Part.of (models.map fun m => .model m.1)
      (faults (models.flatMap fun m => m.2.findings m.1)) := by
  induction models with
  | nil => exact .nil
  | cons m rest ih =>
    rw [List.flatMap_cons, faults_append, List.map_cons, ← List.singleton_append]
    refine InOrder.append (inOrder_faults fun l f mem => ?_) ih
    obtain ⟨inside, rfl⟩ := place_of_modelFinding mem
    rfl

/-- A document with further endpoints at the end. -/
def extended (d : Document) (more : List Endpoint) : Document :=
  { d with endpoints := d.endpoints ++ more }

/-- All that is found in a document with endpoints is found, in the same order, when there are
further ones. -/
lemma findings_sublist_extended {d : Document} (some : d.endpoints ≠ []) (more : List Endpoint) :
    d.findings <+ (d.extended more).findings := by
  have own : (d.extended more).fieldFindings = d.fieldFindings := by
    have filled : (d.endpoints ++ more).isEmpty = d.endpoints.isEmpty := by
      cases eq : d.endpoints with
      | nil => exact absurd eq some
      | cons e rest => rfl
    rw [fieldFindings, fieldFindings, extended, filled]
  rw [findings, findings, own]
  apply List.Sublist.append_right
  apply List.Sublist.append_left
  exact (Endpoint.findingsFrom_prefix [] [] 0 d.endpoints more).sublist

/-- Validation comes to its end exactly if all status codes fit into messages. -/
lemma hasOversizedStatus_eq_false_iff {d : Document} :
    d.hasOversizedStatus = false ↔ ∀ e ∈ d.endpoints, e.StatusesFit := by
  simp only [hasOversizedStatus, List.any_eq_false, Bool.not_eq_true, Option.any_eq_false,
    Text.isOversized_eq_false_iff, Endpoint.StatusesFit]

/-- A document is validated to the end exactly where messages can hold its status codes. -/
lemma exists_validate_iff {d : Document} :
    (∃ v, d.validate = .ok v) ↔ ∀ e ∈ d.endpoints, e.StatusesFit := by
  rw [← hasOversizedStatus_eq_false_iff]
  simp only [validate_eq_ok_iff, exists_and_left, exists_eq', and_true]

/-- How validation goes along with the document. -/
structure ValidationFollows (d : Document) : Prop where
  /-- Validation comes to its end exactly where messages can hold all status codes. -/
  ends : (∃ v, d.validate = .ok v) ↔ ∀ e ∈ d.endpoints, e.StatusesFit
  /-- The errors come in the order of the parts that they are about. -/
  ordered : ∀ v, d.validate = .ok v → InOrder Part.of d.parts v.report.errors
  /-- Further endpoints take nothing out of a report on endpoints and change no order, unless
  messages cannot hold their status codes: then there is no report any more. -/
  grows : d.endpoints ≠ [] → ∀ v, d.validate = .ok v → ∀ more,
    (∃ v', (d.extended more).validate = .ok v' ∧ v.report.errors <+ v'.report.errors ∧
      v.report.warnings <+ v'.report.warnings) ↔ ∀ e ∈ more, e.StatusesFit

/-- What is found in a document comes in the order of its parts. -/
lemma inOrder_report (d : Document) : InOrder Part.of d.parts d.report.errors := by
  have errors : d.report.errors = faults d.findings := rfl
  rw [errors, findings, faults_append, faults_append, faults_append]
  exact ((d.inOrder_fieldFindings.append (inOrder_authenticationFindings _)).append
    (Endpoint.inOrder_findingsFrom [] [] 0 d.endpoints)).append (inOrder_modelFindings _)

/-- Validation follows the document, as long as messages can hold the status codes. -/
theorem validation_follows (d : Document) : d.ValidationFollows := by
  refine ⟨exists_validate_iff, ?ordered, ?grows⟩
  case ordered =>
    intro v checked
    obtain ⟨_, rfl⟩ := validate_eq_ok_iff.mp checked
    exact d.inOrder_report
  case grows =>
    intro some v checked more
    obtain ⟨fits, rfl⟩ := validate_eq_ok_iff.mp checked
    constructor
    · rintro ⟨v', checked', -, -⟩
      have all := exists_validate_iff.mp ⟨v', checked'⟩
      exact fun e mem => all e (List.mem_append_right _ mem)
    · intro fit
      have all : ∀ e ∈ (d.extended more).endpoints, e.StatusesFit :=
        List.forall_mem_append.mpr ⟨hasOversizedStatus_eq_false_iff.mp fits, fit⟩
      have grown := findings_sublist_extended some more
      exact ⟨_, validate_eq_ok_iff.mpr ⟨hasOversizedStatus_eq_false_iff.mpr all, rfl⟩,
        grown.filterMap _, grown.filterMap _⟩

/-- A document with an endpoint that says nothing. -/
def silent : Document :=
  Document.read (.object [("endpoints", .list [.object []])])

/-- A response with a status code that no message can hold. -/
def oversizedResponse : Response :=
  { Response.read (.object []) with statusCode := some (10 ^ Text.maxDigits) }

/-- An endpoint with a status code that no message can hold. -/
def oversized : Endpoint :=
  { Endpoint.read (.object []) with responses := [oversizedResponse] }

/-- A status code that no message can hold does not fit. -/
lemma not_statusesFit_oversized : ¬oversized.StatusesFit := fun fit => by
  have below := fit oversizedResponse (List.mem_singleton_self _) _ rfl
  rw [Int.natAbs_pow, show (10 : Int).natAbs = 10 from rfl] at below
  exact Nat.lt_irrefl _ below

/-- One endpoint more takes the report away from a document with errors. -/
theorem validation_follows_oversized : ∃ v, silent.validate = .ok v ∧ v.report.errors ≠ [] ∧
    ¬∃ v', (silent.extended [oversized]).validate = .ok v' ∧
      v.report.errors <+ v'.report.errors ∧ v.report.warnings <+ v'.report.warnings := by
  have checked : silent.validate = .ok silent.validation :=
    validate_eq_ok_iff.mpr ⟨by decide +kernel, rfl⟩
  have faulty : silent.validation.report.errors ≠ [] := by
    rw [← List.isEmpty_eq_false_iff]
    decide +kernel
  have some : silent.endpoints ≠ [] := by
    rw [← List.isEmpty_eq_false_iff]
    decide +kernel
  refine ⟨_, checked, faulty, fun grown => ?_⟩
  have fit := ((validation_follows silent).grows some _ checked [oversized]).mp grown
  exact not_statusesFit_oversized (fit _ (List.mem_singleton_self _))

end Document

end ClientSynth
