import ClientSynth.Proofs.Conform
import ClientSynth.Document.Read

/-!
# The written form of a value

What is known of the written form of a value that conforms: a list has the written forms of its
items (`Value.conform_list_ok`), and a record has at each of its fields the outcome of the field
(`Value.conform_record_ok`), whatever else it keeps.

The lemmas read the way in which outcomes are put together backwards: several outcomes give a result
only if each of them does (`gather_eq_ok`), and the result has the results of the parts in their
order.
-/

namespace ClientSynth

variable {α : Type}

/-- Several outcomes give results only if each of them does. -/
lemma gather_eq_ok {os : List (Except (List Rejection) α)} {as : List α} (h : gather os = .ok as) :
    os = as.map .ok := by
  induction os generalizing as with
  | nil =>
    cases h
    rfl
  | cons o rest ih =>
    cases o with
    | error rs => cases eq : gather rest <;> simp [gather, eq] at h
    | ok a =>
      cases eq : gather rest with
      | error rs => simp [gather, eq] at h
      | ok later =>
        obtain rfl : a :: later = as := by simpa [gather, eq] using h
        rw [List.map_cons, ih eq]

/-- Results give themselves. -/
lemma gather_map_ok (as : List α) : gather (as.map .ok) = .ok as := by
  induction as with
  | nil => rfl
  | cons a rest ih => rw [List.map_cons, gather, ih]

/-- A step to a part changes no result. -/
lemma below_eq_ok_iff {step : Step} {o : Except (List Rejection) α} {a : α} :
    Outcome.below step o = .ok a ↔ o = .ok a := by
  cases o <;> simp [Outcome.below]

/-- What is made of an outcome is a result if the outcome is one. -/
lemma map_eq_ok_iff {ε β : Type} {f : α → β} {o : Except ε α} {b : β} :
    o.map f = .ok b ↔ ∃ a, o = .ok a ∧ f a = b := by
  cases o <;> simp [Except.map]

/-- The outcome of a list has what each item's outcome has. -/
lemma listOutcome_eq_ok {os : List Outcome} {w : Value} (h : listOutcome os = .ok w) :
    ∃ ws, w = .list ws ∧ os = ws.map .ok := by
  rw [listOutcome, map_eq_ok_iff] at h
  obtain ⟨ws, gathered, rfl⟩ := h
  refine ⟨ws, rfl, List.ext_getElem? fun i => ?_⟩
  have here := congrArg (·[i]?) (gather_eq_ok gathered)
  simp only [List.getElem?_mapIdx, List.getElem?_map] at here ⊢
  cases item : os[i]? with
  | none =>
    rw [item] at here
    exact here
  | some o =>
    rw [item] at here
    obtain ⟨u, found, eq⟩ := Option.map_eq_some_iff.mp here.symm
    rw [found, Option.map_some, ← below_eq_ok_iff.mp eq.symm]

/-- What is read of a field is put at its first key. -/
lemma Field.key_outcome {field : Field} {whole : Value} {entries : List PendingEntry}
    {e : String × Value} (h : field.outcome whole entries = .ok e) : e.1 = field.key := by
  unfold Field.outcome at h
  split at h
  · split at h
    · cases h
      rfl
    · obtain ⟨v, _, rfl⟩ := map_eq_ok_iff.mp h
      rfl
  · split at h
    · cases h
      rfl
    · cases h

/-- What a record has at a key that no earlier member has. -/
lemma lookupText_object {front back : List (String × Value)} {name : String} {v : Value}
    (fresh : ∀ e ∈ front, e.1 ≠ name) :
    (Value.object (front ++ (name, v) :: back)).field name = v := by
  unfold Value.object Value.field lookupText
  induction front with
  | nil => simp [lookupEntry]
  | cons e front ih =>
    have ne : Scalar.text e.1 ≠ .text name := fun same =>
      fresh e List.mem_cons_self (Scalar.text.inj same)
    simp only [List.cons_append, List.map_cons]
    rw [lookupEntry_cons_ne ne]
    exact ih fun e mem => fresh e (List.mem_cons_of_mem _ mem)

namespace Field

/-- The field of a document for its endpoints. -/
abbrev endpoints : Field :=
  .withDefault "endpoints" "endpoints" (.list (.record .endpoint)) (.list [])

/-- The field of an endpoint for its responses. -/
abbrev responses : Field :=
  .withDefault "responses" "responses" (.list (.record .response)) (.list [])

/-- The field of a response for its status code. -/
abbrev statusCode : Field :=
  .optional "statusCode" "status_code" .integer

lemma endpoints_mem : endpoints ∈ RecordName.document.fields := by
  simp [RecordName.fields]

lemma responses_mem : responses ∈ RecordName.endpoint.fields := by
  simp [RecordName.fields]

lemma statusCode_mem : statusCode ∈ RecordName.response.fields := by
  simp [RecordName.fields]

/-- The endpoints of a document are found at their key. -/
lemma found?_endpoints {entries : List (Scalar × Value)} {v : Value}
    (here : lookupText "endpoints" entries = some v) :
    endpoints.found? entries = some ("endpoints", v) := by
  rw [found?, show lookupText endpoints.key entries = some v from here]
  rfl

end Field

namespace Value

variable {w : Value}

/-- The written form of a list has those of the items. -/
lemma conform_list_ok {items : List Value} {kind : Kind}
    (h : (Value.list items).conform (.list kind) = .ok w) :
    ∃ ws, w = .list ws ∧ items.map (fun v => v.conform kind) = ws.map .ok :=
  listOutcome_eq_ok ((conform_list items kind).symm.trans h)

/-- The written form of a record has at each field the outcome of the field. -/
lemma conform_record_ok {entries : List (Scalar × Value)} {name : RecordName}
    (h : (Value.map entries).conform (.record name) = .ok w) {field : Field}
    (isField : field ∈ name.fields) :
    field.outcome (.map entries) (entries.map fun e => ⟨e.1, e.2, e.2.conform⟩) =
      .ok (field.key, w.field field.key) := by
  rw [conform_map, mapOutcome, recordOutcome, map_eq_ok_iff] at h
  obtain ⟨members, gathered, rfl⟩ := h
  have gathered := gather_eq_ok gathered
  obtain ⟨front, back, eq⟩ := List.append_of_mem isField
  have apart := name.fields_apart
  rw [eq, List.pairwise_append] at apart
  rw [eq, List.map_append, List.map_cons, List.append_assoc, List.cons_append] at gathered
  obtain ⟨before, rest, rfl, eqBefore, eqRest⟩ := List.map_eq_append_iff.mp gathered.symm
  obtain ⟨e, after, rfl, eqField, _⟩ := List.map_eq_cons_iff.mp eqRest
  have atKey := Field.key_outcome eqField.symm
  obtain ⟨key, v⟩ := e
  cases atKey
  rw [← eqField, lookupText_object]
  -- The members before are those of other fields, at other keys.
  intro e mem
  have isResult : Except.ok e ∈ before.map (Except.ok (ε := List Rejection)) :=
    List.mem_map_of_mem mem
  rw [eqBefore] at isResult
  obtain ⟨other, isOther, eqOther⟩ := List.mem_map.mp isResult
  rw [Field.key_outcome eqOther]
  exact (apart.2.2 other isOther field List.mem_cons_self).1.1.symm

/-- The written form of a record has at a field that is found the written form of what is there,
unless that is absent. -/
lemma conform_field_ok {entries : List (Scalar × Value)} {name : RecordName}
    (h : (Value.map entries).conform (.record name) = .ok w) {field : Field}
    (isField : field ∈ name.fields) {key : String} {v : Value}
    (found : field.found? entries = some (key, v)) (present : field.nullable = false ∨ v ≠ .null) :
    v.conform field.kind = .ok (w.field field.key) := by
  have outcome := conform_record_ok h isField
  unfold Field.outcome at outcome
  rw [Field.find?_map, found] at outcome
  simp only [Option.map_some] at outcome
  split at outcome
  case h_1 nullable =>
    rcases present with required | present
    · rw [required] at nullable
      cases nullable
    · exact absurd rfl present
  case h_2 =>
    obtain ⟨u, eq, same⟩ := map_eq_ok_iff.mp outcome
    rw [← (Prod.mk.inj same).2]
    exact below_eq_ok_iff.mp eq

end Value

end ClientSynth
