import ClientSynth.Proofs.Guard
import ClientSynth.Proofs.ReadsAlike

/-!
# Values with pairs

Validation reads a list where a value has a pair. Whatever the value, this makes no difference to
what is refused (`Value.outcomeRel_plain`), so that a value without errors is a document as it
stands.

The two readings are compared by `Outcome.SameRefusals`, which relates outcomes with the same
rejections whatever their results are. Everything that reads a value by its parts keeps this
relation, so the induction over values has work to do in one case only, that of a pair.
-/

namespace ClientSynth

/-- Both are results, or both are rejections for the same reasons. -/
abbrev Outcome.SameRefusals {α β : Type} (o : Except (List Rejection) α)
    (p : Except (List Rejection) β) : Prop :=
  OutcomeRel (fun _ _ => True) o p

/-- Related outcomes have the same refusals. -/
lemma OutcomeRel.sameRefusals {α β : Type} {R : α → β → Prop} {o : Except (List Rejection) α}
    {p : Except (List Rejection) β} (h : OutcomeRel R o p) : Outcome.SameRefusals o p := by
  cases h with
  | ok _ => exact .ok trivial
  | error same => exact .error same

/-- Of outcomes with the same refusals both are results or neither is. -/
lemma Outcome.SameRefusals.exists_iff {α β : Type} {o : Except (List Rejection) α}
    {p : Except (List Rejection) β} (h : Outcome.SameRefusals o p) :
    (∃ a, o = .ok a) ↔ ∃ b, p = .ok b := by
  cases h <;> simp

namespace Value

/-- Two values of another kind are refused alike. -/
lemma sameRefusals_refuse (kind : Kind) (v w : Value) :
    Outcome.SameRefusals (kind.refuse v) (kind.refuse w) := by
  cases kind with
  | any => exact .ok trivial
  | _ => exact .error rfl

/-- Lists of items with the same refusals are refused alike. -/
lemma sameRefusals_listOutcome {os ps : List Outcome}
    (h : os.Forall₂ Outcome.SameRefusals ps) :
    Outcome.SameRefusals (listOutcome os) (listOutcome ps) :=
  (OutcomeRel.gather_items h).map fun _ _ _ => trivial

/-- A key leads to the changed value where values are changed. -/
lemma lookupText_mapValues {f : Value → Value} (key : String) (entries : List (Scalar × Value)) :
    lookupText key (entries.map fun e => (e.1, f e.2)) = (lookupText key entries).map f := by
  unfold lookupText
  induction entries with
  | nil => rfl
  | cons e rest ih =>
    rw [List.map_cons, lookupEntry, lookupEntry, ih]
    split <;> rfl

/-- A value is the absent one exactly if its plain form is. -/
lemma plain_eq_null_iff (v : Value) : v = .null ↔ v.plain = .null := by
  cases v with
  | scalar s => rw [plain]
  | list items =>
    rw [plain]
    constructor <;> intro eq <;> cases eq
  | map entries =>
    rw [plain]
    constructor <;> intro eq <;> cases eq
  | set members => rw [plain]
  | pair a b =>
    rw [plain]
    constructor <;> intro eq <;> cases eq

/-- The entries of a mapping, each value waiting for its kind. -/
abbrev pending (entries : List (Scalar × Value)) : List PendingEntry :=
  entries.map fun e => ⟨e.1, e.2, e.2.conform⟩

/-- Entries that no field asks for are refused alike. -/
lemma sameRefusals_extras (fields : List Field) (entries : List (Scalar × Value)) :
    ((extraEntries fields (pending entries)).map extraOutcome).Forall₂ Outcome.SameRefusals
      ((extraEntries fields (pending (entries.map fun e => (e.1, e.2.plain)))).map
        extraOutcome) := by
  -- Which entries belong to no field is a matter of their keys.
  have used : (fields.filterMap fun f => (f.find? (pending entries)).map Prod.fst) =
      fields.filterMap fun f =>
        (f.find? (pending (entries.map fun e => (e.1, e.2.plain)))).map Prod.fst := by
    refine List.filterMap_congr fun field _ => ?_
    rw [Field.find?_map, Field.find?_map, Field.found?, Field.found?, lookupText_mapValues,
      lookupText_mapValues]
    cases lookupText field.key entries <;> cases lookupText field.otherKey entries <;> rfl
  unfold extraEntries
  rw [← used]
  simp only [List.filter_map, List.map_map, List.forall₂_map_left_iff, List.forall₂_map_right_iff]
  refine List.forall₂_same.mpr fun e mem => ?_
  change Outcome.SameRefusals (extraOutcome ⟨e.1, _, _⟩) (extraOutcome ⟨e.1, _, _⟩)
  cases e.1 with
  | text s => exact .ok trivial
  | _ => exact (OutcomeRel.reject _ _ _).below _

section Entries

variable {entries : List (Scalar × Value)}
  (h : ∀ e ∈ entries, ∀ kind, Outcome.SameRefusals (e.2.conform kind) (e.2.plain.conform kind))
include h

/-- A field is refused alike for entries in plain form. -/
lemma sameRefusals_field (field : Field) (whole whole' : Value) :
    Outcome.SameRefusals (field.outcome whole (pending entries))
      (field.outcome whole' (pending (entries.map fun e => (e.1, e.2.plain)))) := by
  have atKey key : Option.Rel (fun v w => (v = .null ↔ w = .null) ∧
        Outcome.SameRefusals (v.conform field.kind) (w.conform field.kind))
      (lookupText key entries) (lookupText key (entries.map fun e => (e.1, e.2.plain))) := by
    rw [lookupText_mapValues]
    cases found : lookupText key entries with
    | none => exact .none
    | some v => exact .some ⟨v.plain_eq_null_iff, h _ (mem_of_lookupEntry found) field.kind⟩
  exact (Field.outcome_rel (R := fun _ _ => True) (fun _ => trivial)
    (Field.found?_rel (atKey _) (atKey _)))

/-- A mapping is refused alike with entries in plain form. -/
lemma sameRefusals_map (kind : Kind) (whole whole' : Value) :
    Outcome.SameRefusals (mapOutcome kind whole (pending entries))
      (mapOutcome kind whole' (pending (entries.map fun e => (e.1, e.2.plain)))) := by
  cases kind with
  | table item =>
    refine (OutcomeRel.gather (R := fun _ _ => True) ?_).map fun _ _ _ => trivial
    rw [List.map_map, List.map_map, List.map_map, List.forall₂_map_left_iff,
      List.forall₂_map_right_iff]
    refine List.forall₂_same.mpr fun e mem => ?_
    exact (OutcomeRel.both (OutcomeRel.refl (R := Eq) fun _ => rfl)
      ((h e mem item).below e.1.step)).sameRefusals
  | record name =>
    refine (OutcomeRel.gather (R := fun _ _ => True) ?_).map fun _ _ _ => trivial
    refine List.rel_append ?_ ?_
    · rw [List.forall₂_map_left_iff, List.forall₂_map_right_iff]
      exact List.forall₂_same.mpr fun field _ => sameRefusals_field h field _ _
    · split
      · exact sameRefusals_extras _ _
      · exact .nil
  | _ =>
    unfold mapOutcome
    exact sameRefusals_refuse _ whole whole'

end Entries

/-- A list for each pair makes no difference to what is refused in a value. -/
lemma outcomeRel_plain (v : Value) (kind : Kind) :
    Outcome.SameRefusals (v.conform kind) (v.plain.conform kind) := by
  induction v using Value.induction generalizing kind with
  | scalar s => rw [plain]; exact .refl fun _ => trivial
  | list items ih =>
    rw [plain, plainItems_eq]
    obtain ⟨item, rfl⟩ | other := kind.list_or_not
    · rw [conform_list, conform_list]
      refine sameRefusals_listOutcome ?_
      rw [List.map_map, List.forall₂_map_left_iff, List.forall₂_map_right_iff]
      exact List.forall₂_same.mpr fun v mem => ih v mem item
    · rw [conform_list_refuse items other, conform_list_refuse _ other]
      exact sameRefusals_refuse kind _ _
  | map entries ih =>
    rw [plain, plainEntries_eq, conform_map, conform_map]
    exact sameRefusals_map ih kind _ _
  | set members => rw [plain]; exact .refl fun _ => trivial
  | pair a b iha ihb =>
    rw [plain]
    obtain ⟨item, rfl⟩ | other := kind.list_or_not
    · rw [conform_pair, conform_list]
      exact sameRefusals_listOutcome (.cons (iha item) (.cons (ihb item) .nil))
    · rw [conform_pair_refuse a b other, conform_list_refuse _ other]
      exact sameRefusals_refuse kind _ _

/-- A value is a document exactly when it is one with a list for each pair. -/
lemma exists_document_plain_iff (v : Value) :
    (∃ d, Document.ofValue v = .ok d) ↔ ∃ d, Document.ofValue v.plain = .ok d :=
  Outcome.SameRefusals.exists_iff
    ((v.outcomeRel_plain (.record .document)).map fun _ _ _ => trivial)

end Value

namespace Validation

variable {entries : List (Scalar × Value)}

/-- Whatever its values are, a mapping without errors is a document as it stands. -/
lemma exists_document_of_isValid (valid : (ofValue (.map entries)).report.isValid = true) :
    ∃ d, Document.ofValue (.map entries) = .ok d := by
  rw [Value.exists_document_plain_iff]
  cases eq : Document.ofValue (Value.map entries).plain with
  | ok d => exact ⟨d, rfl⟩
  | error rs =>
    -- Each of the first refusals is an error, and there is at least one.
    have all : rs.filter (fun r => !isSuppressed [] r.location) = rs :=
      List.filter_eq_self.mpr fun _ _ => rfl
    have none := List.isEmpty_iff.mp valid
    rw [ofValue, ofSalvage, Value.salvage, maxPasses, Value.salvageFrom, eq] at none
    simp only [all, Report.ofFindings, List.map_append, List.filterMap_append,
      List.append_eq_nil_iff] at none
    have reported := reported_rejections rs
    rw [none.1.1, List.map_nil, eq_comm, List.map_eq_nil_iff] at reported
    exact absurd (reported ▸ eq) Value.ofValue_ne_error_nil

end Validation

end ClientSynth
