import Mathlib.Data.List.Basic
import ClientSynth.Proofs.Entries
import ClientSynth.Record.Conform

/-!
# What is refused in a value

`Value.refusals` lists the places of a value that are refused when it is read as one of a kind. The
equations for it follow the value: those of a list are the ones of its items, those of a table the
ones of its entries, and those of a record the ones of its fields, each below the step to it
(`refusals_list`, `refusals_table`, `refusals_record`). A value is refused nowhere exactly when it
conforms (`refusals_eq_nil_iff`), since a refusal always gives a reason.

The proofs never open the reader of values twice. Rejections go through each way of putting outcomes
together (`rejectionsOf_both`, `rejectionsOf_gather`), what a list, a set and a pair are read as is
said once for all three (`Value.ReadsAsList`), and the three equations for refusals are these lemmas
with the step to the part put in front.
-/

namespace ClientSynth

variable {α β : Type}

/-! ## Outcomes -/

/-- The rejections in an outcome. -/
def rejectionsOf : Except (List Rejection) α → List Rejection
  | .ok _ => []
  | .error rs => rs

/-- An outcome that is a result or gives at least one rejection. -/
def Reasoned (o : Except (List Rejection) α) : Prop :=
  o ≠ .error []

section Outcomes

variable {o : Except (List Rejection) α} {p : Except (List Rejection) β}

/-- A result has no rejections. -/
@[simp]
lemma rejectionsOf_ok (a : α) : rejectionsOf (.ok a) = [] :=
  rfl

/-- A refusal has the rejections that it gives. -/
@[simp]
lemma rejectionsOf_error (rs : List Rejection) :
    rejectionsOf (.error rs : Except (List Rejection) α) = rs :=
  rfl

/-- What is made of a result changes no rejection. -/
@[simp]
lemma rejectionsOf_map (f : α → β) : rejectionsOf (o.map f) = rejectionsOf o := by
  cases o <;> rfl

/-- Rejections of a part are those of the part, each below the step to it. -/
@[simp]
lemma rejectionsOf_below (step : Step) :
    rejectionsOf (Outcome.below step o) = (rejectionsOf o).map (Rejection.below step) := by
  cases o <;> rfl

/-- The rejections of two outcomes are those of both, in order. -/
@[simp]
lemma rejectionsOf_both : rejectionsOf (both o p) = rejectionsOf o ++ rejectionsOf p := by
  cases o <;> cases p <;> simp [both]

/-- The rejections of several outcomes are those of all, in order. -/
@[simp]
lemma rejectionsOf_gather (os : List (Except (List Rejection) α)) :
    rejectionsOf (gather os) = os.flatMap rejectionsOf := by
  induction os with
  | nil => rfl
  | cons o rest ih =>
    rw [List.flatMap_cons, ← ih]
    cases o <;> cases eq : gather rest <;> simp [gather, eq]

/-- A single rejection is a reason. -/
lemma reasoned_reject (cause : Cause) (found : Value) :
    Reasoned (reject cause found : Except (List Rejection) α) :=
  nofun

/-- Without rejections an outcome is a result. -/
lemma Reasoned.rejectionsOf_eq_nil_iff (h : Reasoned o) :
    rejectionsOf o = [] ↔ ∃ a, o = .ok a := by
  cases o with
  | ok a => simp
  | error rs =>
    simp only [rejectionsOf_error, reduceCtorEq, exists_false, iff_false]
    rintro rfl
    exact h rfl

/-- What is made of a result takes no reason away. -/
lemma Reasoned.map (h : Reasoned o) (f : α → β) : Reasoned (o.map f) := by
  cases o with
  | ok a => exact nofun
  | error rs => exact fun eq => h (by cases eq; rfl)

/-- A refused part is refused for a reason below the step to it. -/
lemma Reasoned.below (h : Reasoned o) (step : Step) : Reasoned (Outcome.below step o) := by
  cases o with
  | ok a => exact nofun
  | error rs =>
    intro eq
    rw [Outcome.below, Except.error.injEq, List.map_eq_nil_iff] at eq
    exact h (by rw [eq])

/-- Two outcomes are refused for the reasons of either. -/
lemma Reasoned.both (h : Reasoned o) (h' : Reasoned p) : Reasoned (both o p) := by
  cases o with
  | ok a =>
    cases p with
    | ok b => exact nofun
    | error rs => exact fun eq => h' (by cases eq; rfl)
  | error rs =>
    cases p with
    | ok b => exact fun eq => h (by cases eq; rfl)
    | error later =>
      intro eq
      rw [ClientSynth.both, Except.error.injEq, List.append_eq_nil_iff] at eq
      exact h (by rw [eq.1])

/-- Several outcomes are refused for the reasons of any of them. -/
lemma reasoned_gather {os : List (Except (List Rejection) α)} (h : ∀ o ∈ os, Reasoned o) :
    Reasoned (gather os) := by
  induction os with
  | nil => exact nofun
  | cons o rest ih =>
    have first := h o List.mem_cons_self
    have later := ih fun o mem => h o (List.mem_cons_of_mem _ mem)
    intro eq
    have none : rejectionsOf (gather (o :: rest)) = [] := by rw [eq]; rfl
    rw [rejectionsOf_gather, List.flatMap_cons, ← rejectionsOf_gather,
      List.append_eq_nil_iff] at none
    obtain ⟨a, rfl⟩ := first.rejectionsOf_eq_nil_iff.mp none.1
    obtain ⟨as, eqs⟩ := later.rejectionsOf_eq_nil_iff.mp none.2
    simp [gather, eqs] at eq

end Outcomes

/-! ## Conforming, part by part -/

namespace Value

/-- The items of a list wait to be read as what each of them is. -/
lemma pendingItems_eq (items : List Value) : pendingItems items = items.map conform := by
  induction items with
  | nil => rfl
  | cons v rest ih => rw [pendingItems, ih, List.map_cons]

/-- The entries of a mapping wait to be read as what their values are. -/
lemma pendingEntries_eq (entries : List (Scalar × Value)) :
    pendingEntries entries = entries.map fun e => ⟨e.1, e.2, conform e.2⟩ := by
  induction entries with
  | nil => rfl
  | cons e rest ih => rw [pendingEntries, ih, List.map_cons]

/-- A list is read as a list by reading its items. -/
lemma conform_list (items : List Value) (kind : Kind) :
    (Value.list items).conform (.list kind) = listOutcome (items.map fun v => v.conform kind) := by
  have unfolded : (Value.list items).conform (.list kind) =
      listOutcome ((pendingItems items).map fun conform => conform kind) := rfl
  rw [unfolded, pendingItems_eq, List.map_map]
  rfl

/-- A set is read as a list by reading its members. -/
lemma conform_set (members : List Scalar) (kind : Kind) :
    (Value.set members).conform (.list kind) = listOutcome (members.map (conformScalar kind)) :=
  rfl

/-- A pair conforms as the list of its two parts. -/
lemma conform_pair (a b : Value) (kind : Kind) :
    (Value.pair a b).conform (.list kind) = listOutcome [a.conform kind, b.conform kind] :=
  rfl

/-- A list is refused as anything but a list. -/
lemma conform_list_refuse {kind : Kind} (items : List Value) (h : ∀ item, kind ≠ .list item) :
    (Value.list items).conform kind = kind.refuse (.list items) := by
  cases kind with
  | list item => exact absurd rfl (h item)
  | _ => rfl

/-- A set is refused as anything but a list. -/
lemma conform_set_refuse {kind : Kind} (members : List Scalar) (h : ∀ item, kind ≠ .list item) :
    (Value.set members).conform kind = kind.refuse (.set members) := by
  cases kind with
  | list item => exact absurd rfl (h item)
  | _ => rfl

/-- A pair is refused as anything but a list. -/
lemma conform_pair_refuse {kind : Kind} (a b : Value) (h : ∀ item, kind ≠ .list item) :
    (Value.pair a b).conform kind = kind.refuse (.pair a b) := by
  cases kind with
  | list item => exact absurd rfl (h item)
  | _ => rfl

/-- A value that is read item by item where a list is asked for, and refused as anything else. -/
structure ReadsAsList (v : Value) (outcomes : Kind → List Outcome) : Prop where
  conform_list (item : Kind) : v.conform (.list item) = listOutcome (outcomes item)
  conform_other {kind : Kind} : (∀ item, kind ≠ .list item) → v.conform kind = kind.refuse v

/-- A list reads as a list of its items. -/
lemma readsAsList_list (items : List Value) :
    (Value.list items).ReadsAsList fun kind => items.map fun v => v.conform kind :=
  ⟨conform_list items, conform_list_refuse items⟩

/-- A set reads as a list of its members. -/
lemma readsAsList_set (members : List Scalar) :
    (Value.set members).ReadsAsList fun kind => members.map (conformScalar kind) :=
  ⟨conform_set members, conform_set_refuse members⟩

/-- A pair reads as a list of its two parts. -/
lemma readsAsList_pair (a b : Value) :
    (Value.pair a b).ReadsAsList fun kind => [a.conform kind, b.conform kind] :=
  ⟨conform_pair a b, conform_pair_refuse a b⟩

/-- A mapping is read by its entries, each with what its value is read as. -/
lemma conform_map (entries : List (Scalar × Value)) (kind : Kind) :
    (Value.map entries).conform kind =
      mapOutcome kind (.map entries) (entries.map fun e => ⟨e.1, e.2, conform e.2⟩) := by
  rw [← pendingEntries_eq]
  rfl

end Value

lemma reasoned_conformScalar (kind : Kind) (s : Scalar) : Reasoned (conformScalar kind s) := by
  unfold conformScalar
  split <;> exact nofun

lemma reasoned_refuse (kind : Kind) (found : Value) : Reasoned (kind.refuse found) := by
  cases kind <;> exact nofun

lemma reasoned_listOutcome {os : List Outcome} (h : ∀ o ∈ os, Reasoned o) :
    Reasoned (listOutcome os) := by
  refine (reasoned_gather fun o mem => ?_).map _
  obtain ⟨i, lt, rfl⟩ := List.mem_mapIdx.mp mem
  exact (h _ (List.getElem_mem lt)).below _

lemma reasoned_extraOutcome (e : PendingEntry) : Reasoned (extraOutcome e) := by
  unfold extraOutcome
  split
  · exact nofun
  · exact (reasoned_reject _ _).below _

/-- What a field finds is one of the entries. -/
lemma Field.mem_of_find? {field : Field} {entries : List PendingEntry} {key : String}
    {e : PendingEntry} (h : field.find? entries = some (key, e)) : e ∈ entries := by
  unfold Field.find? at h
  split at h
  case h_1 found =>
    cases h
    exact List.mem_of_find?_eq_some found
  case h_2 =>
    obtain ⟨e', found, eq⟩ := Option.map_eq_some_iff.mp h
    cases eq
    exact List.mem_of_find?_eq_some found

/-- A field is refused for the reasons in its value, or since it is missing. -/
lemma Field.reasoned_outcome {whole : Value} {entries : List PendingEntry}
    (h : ∀ e ∈ entries, ∀ kind, Reasoned (e.conform kind)) (field : Field) :
    Reasoned (field.outcome whole entries) := by
  unfold Field.outcome
  split
  case h_1 key e found =>
    split
    · exact nofun
    · exact ((h e (Field.mem_of_find? found) _).below _).map _
  case h_2 =>
    split
    · exact nofun
    · exact (reasoned_reject _ _).below _

lemma reasoned_mapOutcome {kind : Kind} {whole : Value} {entries : List PendingEntry}
    (h : ∀ e ∈ entries, ∀ kind, Reasoned (e.conform kind)) :
    Reasoned (mapOutcome kind whole entries) := by
  unfold mapOutcome
  split
  case h_1 item =>
    refine (reasoned_gather fun o mem => ?_).map _
    obtain ⟨e, waits, rfl⟩ := List.mem_map.mp mem
    refine Reasoned.both ?_ ((h e waits _).below _)
    unfold tableKey
    split
    · exact nofun
    · exact ((reasoned_reject _ _).below _).below _
  case h_2 name =>
    refine (reasoned_gather fun o mem => ?_).map _
    rcases List.mem_append.mp mem with mem | mem
    · obtain ⟨field, _, rfl⟩ := List.mem_map.mp mem
      exact Field.reasoned_outcome h field
    · split at mem
      · obtain ⟨e, _, rfl⟩ := List.mem_map.mp mem
        exact reasoned_extraOutcome e
      · cases mem
  case h_3 => exact reasoned_refuse _ _

/-- A kind is that of lists or it is not. -/
lemma Kind.list_or_not (kind : Kind) : (∃ item, kind = .list item) ∨ ∀ item, kind ≠ .list item := by
  cases kind with
  | list item => exact .inl ⟨item, rfl⟩
  | _ => exact .inr nofun

/-- What reads as a list is refused for the reasons of its items, or since it is no other kind. -/
lemma Value.ReadsAsList.reasoned {v : Value} {outcomes : Kind → List Outcome}
    (h : v.ReadsAsList outcomes) (items : ∀ item, ∀ o ∈ outcomes item, Reasoned o) (kind : Kind) :
    Reasoned (v.conform kind) := by
  obtain ⟨item, rfl⟩ | other := kind.list_or_not
  · rw [h.conform_list]
    exact reasoned_listOutcome (items item)
  · rw [h.conform_other other]
    exact reasoned_refuse _ _

/-- A value is refused for at least one reason. -/
lemma Value.reasoned_conform (v : Value) (kind : Kind) : Reasoned (v.conform kind) := by
  induction v using Value.induction generalizing kind with
  | scalar s =>
    rw [conform]
    exact reasoned_conformScalar kind s
  | list items ih =>
    refine (readsAsList_list items).reasoned (fun item o mem => ?_) kind
    obtain ⟨v, isItem, rfl⟩ := List.mem_map.mp mem
    exact ih v isItem item
  | map entries ih =>
    rw [conform_map]
    refine reasoned_mapOutcome fun e mem kind => ?_
    obtain ⟨entry, isEntry, rfl⟩ := List.mem_map.mp mem
    exact ih entry isEntry kind
  | set members =>
    refine (readsAsList_set members).reasoned (fun item o mem => ?_) kind
    obtain ⟨s, _, rfl⟩ := List.mem_map.mp mem
    exact reasoned_conformScalar item s
  | pair a b iha ihb =>
    refine (readsAsList_pair a b).reasoned (fun item o mem => ?_) kind
    rcases List.mem_pair.mp mem with rfl | rfl
    · exact iha item
    · exact ihb item

/-- Fields without a key in common. -/
def Field.Apart (field other : Field) : Prop :=
  (other.key ≠ field.key ∧ other.key ≠ field.otherKey) ∧
    (other.otherKey ≠ field.key ∧ other.otherKey ≠ field.otherKey)

instance (field other : Field) : Decidable (field.Apart other) :=
  inferInstanceAs (Decidable (_ ∧ _))

/-- The fields of a record have no keys in common. -/
lemma RecordName.fields_apart (name : RecordName) : name.fields.Pairwise Field.Apart := by
  cases name <;> decide

/-! ## Refusals -/

/-- The places of a value that are refused when it is read as one of a kind. -/
def Value.refusals (v : Value) (kind : Kind) : List Location :=
  (rejectionsOf (v.conform kind)).map Rejection.location

/-- A value is refused nowhere exactly when it conforms. -/
lemma Value.refusals_eq_nil_iff {v : Value} {kind : Kind} :
    v.refusals kind = [] ↔ ∃ w, v.conform kind = .ok w := by
  rw [refusals, List.map_eq_nil_iff, (v.reasoned_conform kind).rejectionsOf_eq_nil_iff]

/-- Where a field is found among entries, and what is there. -/
def Field.found? (field : Field) (entries : List (Scalar × Value)) : Option (String × Value) :=
  match lookupText field.key entries with
  | some v => some (field.key, v)
  | none => (lookupText field.otherKey entries).map fun v => (field.otherKey, v)

/-- The places of a field's value that are refused. -/
def Field.valueRefusals (field : Field) (v : Value) : List Location :=
  match field.nullable, v with
  | true, .null => []
  | _, v => v.refusals field.kind

/-- The places among entries that are refused as a field: those in its value, or its key when the
field has to be there and is not. -/
def Field.refusals (field : Field) (entries : List (Scalar × Value)) : List Location :=
  match field.found? entries with
  | some (key, v) => (field.valueRefusals v).map (.key key :: ·)
  | none => if field.default.isSome then [] else [[.key field.key]]

namespace Field

variable {field : Field} {entries after : List (Scalar × Value)} {key : String} {v : Value}

/-- A field is looked for at its two keys only. -/
lemma found?_congr (h : ∀ name, name = field.key ∨ name = field.otherKey →
    lookupText name after = lookupText name entries) :
    field.found? after = field.found? entries := by
  rw [found?, found?, h _ (.inl rfl), h _ (.inr rfl)]

/-- In a field that is found is refused what is refused in its value. -/
lemma refusals_of_found (h : field.found? entries = some (key, v)) :
    field.refusals entries = (field.valueRefusals v).map (.key key :: ·) := by
  rw [refusals, h]

/-- Nothing is refused in the absent value where it is accepted. -/
lemma valueRefusals_null (nullable : field.nullable = true) : field.valueRefusals .null = [] := by
  unfold valueRefusals
  rw [nullable]

/-- In any other value is refused what the kind of the field refuses. -/
lemma valueRefusals_present (present : ¬(field.nullable = true ∧ v = .null)) :
    field.valueRefusals v = v.refusals field.kind := by
  unfold valueRefusals
  split
  case h_1 nullable => exact absurd ⟨nullable, rfl⟩ present
  case h_2 => rfl

/-- Nothing is refused in a value that a field accepts as absent, and else what its kind refuses. -/
lemma valueRefusals_cases (field : Field) (v : Value) :
    field.valueRefusals v = [] ∨ field.valueRefusals v = v.refusals field.kind := by
  by_cases absent : field.nullable = true ∧ v = .null
  · obtain ⟨nullable, rfl⟩ := absent
    exact .inl (valueRefusals_null nullable)
  · exact .inr (valueRefusals_present absent)

/-- A field is found at one of its two keys. -/
lemma key_of_found (h : field.found? entries = some (key, v)) :
    key = field.key ∨ key = field.otherKey := by
  unfold found? at h
  split at h
  · cases h
    exact .inl rfl
  · obtain ⟨w, _, eq⟩ := Option.map_eq_some_iff.mp h
    cases eq
    exact .inr rfl

/-- A field's value is what its key leads to. -/
lemma lookup_of_found (h : field.found? entries = some (key, v)) :
    lookupText key entries = some v := by
  unfold found? at h
  split at h
  case h_1 here =>
    cases h
    exact here
  case h_2 =>
    obtain ⟨w, here, eq⟩ := Option.map_eq_some_iff.mp h
    cases eq
    exact here

/-- What is found stays where it was when its value changes and the other key is left alone. -/
lemma found?_of_lookup {left : Value} (h : field.found? entries = some (key, v))
    (here : lookupText key after = some left)
    (other : ∀ name, name = field.key ∨ name = field.otherKey → name ≠ key →
      lookupText name after = lookupText name entries) :
    field.found? after = some (key, left) := by
  unfold found? at h ⊢
  split at h
  case h_1 =>
    cases h
    rw [here]
  case h_2 absent =>
    obtain ⟨w, found, eq⟩ := Option.map_eq_some_iff.mp h
    cases eq
    -- It was found under the other key, so nothing is under the first one, before and after.
    have ne : field.key ≠ field.otherKey := by
      intro same
      rw [same, found] at absent
      cases absent
    rw [other _ (.inl rfl) ne, absent, here]
    rfl

/-- The refusals of a field are below one of its keys. -/
lemma step_of_mem_refusals {l : Location} (mem : l ∈ field.refusals entries) :
    ∃ (name : String) (rest : Location),
      (name = field.key ∨ name = field.otherKey) ∧ l = .key name :: rest := by
  unfold refusals at mem
  split at mem
  case h_1 key v found =>
    obtain ⟨rest, _, rfl⟩ := List.mem_map.mp mem
    exact ⟨key, rest, key_of_found found, rfl⟩
  case h_2 =>
    split at mem
    · cases mem
    · rw [List.mem_singleton] at mem
      exact ⟨field.key, [], .inl rfl, mem⟩

end Field

/-- Below a step all places are one step further down. -/
lemma map_location_below (step : Step) (rs : List Rejection) :
    (rs.map (Rejection.below step)).map Rejection.location =
      (rs.map Rejection.location).map (step :: ·) := by
  rw [List.map_map, List.map_map]
  rfl

/-- The entry that waits at a key is the one that the key leads to. -/
lemma pendingAt_map (entries : List (Scalar × Value)) (key : String) :
    pendingAt (entries.map fun e => ⟨e.1, e.2, e.2.conform⟩) key =
      (lookupText key entries).map fun v => ⟨.text key, v, v.conform⟩ := by
  unfold pendingAt lookupText
  induction entries with
  | nil => rfl
  | cons e rest ih =>
    obtain ⟨k, v⟩ := e
    rw [List.map_cons, List.find?_cons, lookupEntry]
    by_cases same : k = .text key
    · subst same
      simp
    · rw [ih]
      simp [same]

/-- A field is found where its first key is, or else where its other key is. -/
lemma Field.find?_map (field : Field) (entries : List (Scalar × Value)) :
    field.find? (entries.map fun e => ⟨e.1, e.2, e.2.conform⟩) =
      (field.found? entries).map fun e => (e.1, ⟨.text e.1, e.2, e.2.conform⟩) := by
  unfold Field.find? Field.found?
  rw [pendingAt_map, pendingAt_map]
  cases lookupText field.key entries with
  | some v => rfl
  | none => cases lookupText field.otherKey entries <;> rfl

/-- The places refused in a field's outcome are those listed for the field. -/
lemma Field.location_outcome (field : Field) (whole : Value) (entries : List (Scalar × Value)) :
    (rejectionsOf (field.outcome whole (entries.map fun e => ⟨e.1, e.2, e.2.conform⟩))).map
      Rejection.location = field.refusals entries := by
  unfold Field.outcome Field.refusals
  rw [Field.find?_map]
  cases field.found? entries with
  | none => cases field.default <;> rfl
  | some e =>
    obtain ⟨key, v⟩ := e
    simp only [Option.map_some]
    by_cases absent : field.nullable = true ∧ v = .null
    · obtain ⟨nullable, rfl⟩ := absent
      rw [valueRefusals_null nullable, nullable]
      rfl
    · rw [valueRefusals_present absent]
      split
      case h_1 nullable => exact absurd ⟨nullable, rfl⟩ absent
      case h_2 =>
        rw [rejectionsOf_map, rejectionsOf_below, map_location_below]
        rfl

namespace Value

/-- The places that are refused in a list are those in its items. -/
lemma refusals_list (items : List Value) (kind : Kind) :
    (Value.list items).refusals (.list kind) =
      items.zipIdx.flatMap fun e => (e.1.refusals kind).map (.index e.2 :: ·) := by
  rw [refusals, conform_list, listOutcome, rejectionsOf_map, rejectionsOf_gather, List.map_flatMap,
    List.mapIdx_eq_zipIdx_map, List.zipIdx_map, List.flatMap_map, List.flatMap_map]
  simp only [rejectionsOf_below, map_location_below]
  rfl

/-- The places that are refused in a table are those in its entries. -/
lemma refusals_table {entries : List (Scalar × Value)} (keyed : TextKeyed entries) (kind : Kind) :
    (Value.map entries).refusals (.table kind) =
      entries.flatMap fun e => (e.2.refusals kind).map (e.1.step :: ·) := by
  rw [refusals, conform_map, mapOutcome, tableOutcome, rejectionsOf_map, rejectionsOf_gather,
    List.map_map, List.map_flatMap, List.flatMap_map]
  refine List.flatMap_congr fun e mem => ?_
  obtain ⟨name, eq⟩ := keyed.key mem
  simp only [Function.comp, tableEntry, rejectionsOf_both, rejectionsOf_below, eq, tableKey,
    Scalar.toText, rejectionsOf_ok, List.nil_append, map_location_below, refusals]

/-- What is rejected in a record is rejected in its fields. -/
lemma rejectionsOf_record {entries : List (Scalar × Value)} (keyed : TextKeyed entries)
    (name : RecordName) :
    rejectionsOf ((Value.map entries).conform (.record name)) =
      name.fields.flatMap fun field => rejectionsOf
        (field.outcome (.map entries) (entries.map fun e => ⟨e.1, e.2, e.2.conform⟩)) := by
  rw [conform_map, mapOutcome, recordOutcome, rejectionsOf_map, rejectionsOf_gather,
    List.flatMap_append, List.flatMap_map]
  -- An entry that belongs to no field is refused for its key only, and every key is a text.
  rw [List.append_right_eq_self, List.flatMap_eq_nil_iff]
  intro o mem
  split at mem
  · obtain ⟨e, isExtra, rfl⟩ := List.mem_map.mp mem
    obtain ⟨entry, isEntry, rfl⟩ := List.mem_map.mp (List.mem_filter.mp isExtra).1
    obtain ⟨key, eq⟩ := keyed.key isEntry
    simp only [extraOutcome, eq, rejectionsOf_ok]
  · cases mem

/-- The places that are refused in a record are those of its fields. -/
lemma refusals_record {entries : List (Scalar × Value)} (keyed : TextKeyed entries)
    (name : RecordName) :
    (Value.map entries).refusals (.record name) =
      name.fields.flatMap fun field => field.refusals entries := by
  rw [refusals, rejectionsOf_record keyed, List.map_flatMap]
  simp only [Field.location_outcome]

end Value

end ClientSynth
