import Mathlib.Tactic.Common
import ClientSynth.Validation.Traversal

/-!
# Findings at another place

What the traversal says about a part of a document hangs on the part, not on where it is: at another
place it says the same with the other place in front. The lemmas here move the findings about
schemas, parameters, request bodies, responses and endpoints below a place, and
`Endpoint.findings_sublist` adds that an endpoint which is looked at first has no findings that it
would not have later.
-/

namespace ClientSynth

/-- A finding as seen from above a place. -/
def Finding.below (place : Location) : Finding → Finding
  | .fault l f => .fault (place ++ l) f
  | .remark l r => .remark (place ++ l) r

section Below

variable {place l : Location}

/-- A fault at another place is the fault with that place in front. -/
@[simp]
lemma Finding.below_fault (f : Fault) : (Finding.fault l f).below place = .fault (place ++ l) f :=
  rfl

/-- A remark at another place is the remark with that place in front. -/
@[simp]
lemma Finding.below_remark (r : Remark) :
    (Finding.remark l r).below place = .remark (place ++ l) r :=
  rfl

/-- Whatever is found is found with the other place in front. -/
@[simp]
lemma Finding.location_below (f : Finding) : (f.below place).location = place ++ f.location := by
  cases f <;> rfl

/-- A finding can be told from where it is seen. -/
lemma Finding.below_injective (place : Location) : Function.Injective (Finding.below place) := by
  intro f g eq
  cases f with
  | fault l f =>
    cases g with
    | fault m g =>
      obtain ⟨same, rfl⟩ := Finding.fault.inj eq
      rw [List.append_cancel_left same]
    | remark _ _ => cases eq
  | remark l r =>
    cases g with
    | fault _ _ => cases eq
    | remark m w =>
      obtain ⟨same, rfl⟩ := Finding.remark.inj eq
      rw [List.append_cancel_left same]

/-- A finding under a condition is moved under the same condition. -/
@[simp]
lemma map_below_findingIf (reason : Bool) (f : Finding) :
    (findingIf reason f).map (Finding.below place) = findingIf reason (f.below place) := by
  cases reason <;> rfl

/-- A key is behind the place in front. -/
@[simp]
lemma Location.append_key (name : String) : place ++ l.key name = Location.key (place ++ l) name :=
  (List.append_assoc ..).symm

/-- An index is behind the place in front. -/
@[simp]
lemma Location.append_index (i : Nat) : place ++ l.index i = Location.index (place ++ l) i :=
  (List.append_assoc ..).symm

end Below

namespace Schema

mutual

theorem findings_append (place l : Location) :
    (s : Schema) → findings (place ++ l) s = (findings l s).map (Finding.below place)
  | ⟨type, _, _, _, _, items, properties, _⟩ => by
    rw [findings, findings, itemsFindings_append place l items,
      tableFindings_append place l properties]
    split
    · simp
    · simp only [List.map_append, map_below_findingIf, Finding.below_fault, Location.append_key,
        apply_ite (List.map _), List.map_nil]

/-- The items of a schema have the same findings at another place. -/
theorem itemsFindings_append (place l : Location) :
    (items : Option Schema) →
      itemsFindings (place ++ l) items = (itemsFindings l items).map (Finding.below place)
  | none => rfl
  | some s => by
    rw [itemsFindings, itemsFindings, ← Location.append_key, findings_append place _ s]

/-- The properties of a schema have the same findings at another place. -/
theorem tableFindings_append (place l : Location) :
    (table : Option (List (String × Schema))) →
      tableFindings (place ++ l) table = (tableFindings l table).map (Finding.below place)
  | none => rfl
  | some members => by
    rw [tableFindings, tableFindings, memberFindings_append place l members]

/-- A list of properties has the same findings at another place. -/
theorem memberFindings_append (place l : Location) :
    (members : List (String × Schema)) →
      memberFindings (place ++ l) members = (memberFindings l members).map (Finding.below place)
  | [] => rfl
  | (name, s) :: rest => by
    rw [memberFindings, memberFindings, ← Location.append_key, ← Location.append_key,
      findings_append place _ s, memberFindings_append place l rest, List.map_append]

end

end Schema

variable (place l : Location)

/-- Parameters have the same findings at another place. -/
lemma Parameter.findings_append (p : Parameter) :
    p.findings (place ++ l) = (p.findings l).map (Finding.below place) := by
  simp only [Parameter.findings, List.map_append, map_below_findingIf, Finding.below_fault,
    Finding.below_remark, Location.append_key]

/-- Request bodies have the same findings at another place. -/
lemma RequestBody.findings?_append (b : Option RequestBody) :
    RequestBody.findings? (place ++ l) b =
      (RequestBody.findings? l b).map (Finding.below place) := by
  cases b with
  | none => rfl
  | some b =>
    simp only [RequestBody.findings?, List.map_append, map_below_findingIf, Finding.below_fault,
      ← Location.append_key]
    congr 1
    split
    · rfl
    · exact Schema.findings_append place _ _

namespace Response

lemma findings_append (earlier : List Int) (r : Response) :
    r.findings earlier (place ++ l) = (r.findings earlier l).map (Finding.below place) := by
  simp only [findings, List.map_append, map_below_findingIf, Finding.below_remark,
    ← Location.append_key]
  congr 1
  · congr 1
    split
    · rfl
    · simp only [List.map_append, map_below_findingIf, Finding.below_fault]
  · split
    · rfl
    · exact Schema.findings_append place _ _

lemma findingsFrom_append (earlier : List Int) (i : Nat) (responses : List Response) :
    findingsFrom earlier (place ++ l) i responses =
      (findingsFrom earlier l i responses).map (Finding.below place) := by
  induction responses generalizing earlier i with
  | nil => rfl
  | cons r rest ih =>
    rw [findingsFrom, findingsFrom, ← Location.append_index, findings_append, ih, List.map_append]

lemma allFindings_append (responses : List Response) :
    allFindings (place ++ l) responses =
      (allFindings l responses).map (Finding.below place) := by
  rw [allFindings, allFindings]
  split
  · rfl
  · rw [List.map_append, map_below_findingIf, findingsFrom_append, Finding.below_remark]

end Response

namespace Endpoint

lemma fieldFindings_append (e : Endpoint) :
    e.fieldFindings (place ++ l) = (e.fieldFindings l).map (Finding.below place) := by
  simp only [fieldFindings, List.map_append, map_below_findingIf, Finding.below_fault,
    Finding.below_remark, Location.append_key, apply_ite (List.map _), List.map_cons, List.map_nil,
    List.map_map, Function.comp_def]

lemma parameterFindings_append (i : Nat) (ps : List Parameter) :
    parameterFindings (place ++ l) i ps =
      (parameterFindings l i ps).map (Finding.below place) := by
  induction ps generalizing i with
  | nil => rfl
  | cons p rest ih =>
    rw [parameterFindings, parameterFindings, ← Location.append_index, Parameter.findings_append,
      ih, List.map_append]

lemma findings_append (ids : List String) (routes : List (String × String)) (e : Endpoint) :
    e.findings ids routes (place ++ l) =
      (e.findings ids routes l).map (Finding.below place) := by
  simp only [findings, List.map_append, ← Location.append_key, fieldFindings_append,
    parameterFindings_append, RequestBody.findings?_append, Response.allFindings_append]
  congr 4
  congr 1
  · split
    · rw [map_below_findingIf, Finding.below_fault]
    · rfl
  · split
    · rw [map_below_findingIf, Finding.below_fault]
    · rfl

/-- The findings about an endpoint, as seen from its place. -/
lemma findings_at (ids : List String) (routes : List (String × String)) (e : Endpoint) :
    e.findings ids routes place = (e.findings ids routes []).map (Finding.below place) := by
  rw [← findings_append, List.append_nil]

/-- An endpoint that is looked at first has no findings that it would not have later. -/
lemma findings_sublist (ids : List String) (routes : List (String × String)) (e : Endpoint) :
    (e.findings [] [] place).Sublist (e.findings ids routes place) := by
  unfold findings
  -- Only the findings about earlier identifiers and routes can be missing.
  refine ((((List.Sublist.append (.append (.refl _) ?_) ?_).append (.refl _)).append
    (.refl _)).append (.refl _))
  · split
    · exact List.nil_sublist _
    · exact .refl _
  · split
    · exact List.nil_sublist _
    · exact .refl _

end Endpoint

end ClientSynth
