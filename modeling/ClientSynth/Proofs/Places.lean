import Mathlib.Data.List.Nodup
import ClientSynth.Proofs.Json
import ClientSynth.Proofs.Passes

/-!
# Places by the layout

The layout of a document says what can be where: `Kind.at?` follows a location through the kinds of
items, entries and fields. Each field has two keys, and `Kind.written` gives a location with the
first key of every field on the way. What is refused in a JSON value is at a place of the layout,
and it is given there unless it is a field that has to be there
(`Value.Refuses.given_or_required`). No two refused places are of one field
(`Value.IsJson.nodup_written_refusals`).

`Kind.Enters` is the layout as a relation, with one rule for each way into a value, and the
functions that follow a location are brought to it once (`Kind.enter?_eq_some_iff`). What is true of
places then goes by induction along a location, a step at a time. That a field is refused at one of
its two keys only comes from reading, which looks at the first key that is there.
-/

namespace ClientSynth

/-! ## Steps -/

/-- The field of a record that a key belongs to. -/
def RecordName.fieldAt? (name : RecordName) (key : String) : Option Field :=
  name.fields.find? fun f => f.key == key || f.otherKey == key

/-- Which field a key leads to, among those of a record. -/
lemma RecordName.fieldAt?_eq_some_iff {name : RecordName} {key : String} {f : Field} :
    name.fieldAt? key = some f ↔ f ∈ name.fields ∧ (key = f.key ∨ key = f.otherKey) := by
  constructor
  · intro found
    have own := List.find?_some found
    simp only [Bool.or_eq_true, beq_iff_eq] at own
    exact ⟨List.mem_of_find?_eq_some found, own.imp Eq.symm Eq.symm⟩
  · rintro ⟨isField, own⟩
    obtain ⟨front, back, eq⟩ := List.append_of_mem isField
    have apart := name.fields_apart
    rw [eq, List.pairwise_append] at apart
    refine List.find?_eq_some_iff_append.mpr ⟨?_, front, back, eq, fun other mem => ?_⟩
    · simpa using own.imp Eq.symm Eq.symm
    · -- No earlier field has the key.
      obtain ⟨⟨a, b⟩, ⟨c, d⟩⟩ := apart.2.2 other mem f List.mem_cons_self
      rcases own with rfl | rfl
      · simp [a.symm, b.symm]
      · simp [c.symm, d.symm]

namespace Kind

/-- Where a step leads by the layout of a kind: the step with the first key of a field, and the kind
of what is there. -/
def enter? : Kind → Step → Option (Step × Kind)
  | .list item, .index i => if 0 ≤ i then some (.index i, item) else none
  | .table item, .key name => some (.key name, item)
  | .record name, .key key => (name.fieldAt? key).map fun f => (.key f.key, f.kind)
  | _, _ => none

/-- The steps of layouts, form by form. -/
inductive Enters : Kind → Step → Step → Kind → Prop where
  | item {item : Kind} (i : Nat) : Enters (.list item) (.index i) (.index i) item
  | entry {item : Kind} (name : String) : Enters (.table item) (.key name) (.key name) item
  | field {name : RecordName} {f : Field} {key : String} :
    f ∈ name.fields → key = f.key ∨ key = f.otherKey →
      Enters (.record name) (.key key) (.key f.key) f.kind

variable {kind inside found : Kind} {step own : Step} {l p : Location}

/-- A step leads into a kind exactly as the layout says. -/
lemma enter?_eq_some_iff : kind.enter? step = some (own, inside) ↔ kind.Enters step own inside := by
  constructor
  · intro h
    unfold enter? at h
    split at h
    case h_1 item i =>
      split at h
      · cases h
        obtain ⟨i, rfl⟩ := Int.eq_ofNat_of_zero_le ‹_›
        exact .item i
      · cases h
    case h_2 item name =>
      cases h
      exact .entry name
    case h_3 name key =>
      obtain ⟨f, isAt, eq⟩ := Option.map_eq_some_iff.mp h
      cases eq
      obtain ⟨isField, own⟩ := RecordName.fieldAt?_eq_some_iff.mp isAt
      exact .field isField own
    case h_4 => cases h
  · intro h
    cases h with
    | item i => simp [enter?]
    | entry name => rfl
    | field isField own =>
      rw [enter?, RecordName.fieldAt?_eq_some_iff.mpr ⟨isField, own⟩]
      rfl

/-- The written form of a step leads to the same kind. -/
lemma Enters.of_own (h : kind.Enters step own inside) : kind.Enters own own inside := by
  cases h with
  | item i => exact .item i
  | entry name => exact .entry name
  | field isField _ => exact .field isField (.inl rfl)

/-- A step leads to one place and one kind. -/
lemma Enters.unique {other : Step} {there : Kind} (h : kind.Enters step own inside)
    (h' : kind.Enters step other there) : own = other ∧ inside = there := by
  have same := (enter?_eq_some_iff.mpr h).symm.trans (enter?_eq_some_iff.mpr h')
  exact Prod.mk.inj (Option.some.inj same)

/-! ## Locations -/

/-- The kind of what a location leads to. -/
def at? : Kind → Location → Option Kind
  | kind, [] => some kind
  | kind, step :: rest => match kind.enter? step with
    | some (_, inside) => at? inside rest
    | none => none

/-- A location with the first key of each field. -/
def written : Kind → Location → Location
  | _, [] => []
  | kind, step :: rest => match kind.enter? step with
    | some (own, inside) => own :: written inside rest
    | none => step :: rest

/-- What is at a place behind a step is at the place inside. -/
lemma Enters.at? (h : kind.Enters step own inside) : kind.at? (step :: l) = inside.at? l := by
  rw [Kind.at?, enter?_eq_some_iff.mpr h]

/-- A place behind a step is written behind the step as it is written. -/
lemma Enters.written (h : kind.Enters step own inside) :
    kind.written (step :: l) = own :: inside.written l := by
  rw [Kind.written, enter?_eq_some_iff.mpr h]

/-- What is behind a step is inside what the step leads to. -/
lemma enters_of_at? (h : kind.at? (step :: l) = some found) :
    ∃ own inside, kind.Enters step own inside ∧ inside.at? l = some found := by
  rw [Kind.at?] at h
  split at h
  case h_1 own inside eq => exact ⟨own, inside, enter?_eq_some_iff.mp eq, h⟩
  case h_2 => cases h

/-- What is above a place of the layout is one. -/
lemma at?_of_append (h : kind.at? (p ++ l) = some found) : ∃ inside, kind.at? p = some inside := by
  induction p generalizing kind with
  | nil => exact ⟨kind, rfl⟩
  | cons step rest ih =>
    obtain ⟨own, next, enters, h⟩ := enters_of_at? h
    rw [enters.at?]
    exact ih h

/-- A place that is written out is written as it is. -/
lemma written_written (kind : Kind) (l : Location) :
    kind.written (kind.written l) = kind.written l := by
  induction l generalizing kind with
  | nil => rfl
  | cons step rest ih =>
    rw [Kind.written]
    split
    case h_1 own inside eq =>
      rw [(enter?_eq_some_iff.mp eq).of_own.written, ih]
    case h_2 eq =>
      rw [Kind.written, eq]

end Kind

/-! ## Required fields -/

/-- The kinds of record below a document in which every field may be missing. -/
def RecordName.lenient : List RecordName :=
  [.authentication, .parameter, .schema, .requestBody, .response, .endpoint, .model]

namespace Kind

/-- Whether all records in a value of a kind are lenient. -/
def isLenient : Kind → Bool
  | .list item | .table item => item.isLenient
  | .record name => RecordName.lenient.contains name
  | _ => true

variable {kind inside : Kind} {step own : Step} {p : Location} {name : RecordName} {f : Field}

/-- Inside a value whose records are all lenient they are. -/
lemma Enters.isLenient (h : kind.Enters step own inside) (lenient : kind.isLenient = true) :
    inside.isLenient = true := by
  cases h with
  | item _ => exact lenient
  | entry _ => exact lenient
  | field isField _ =>
    have all : ∀ name ∈ RecordName.lenient, ∀ f ∈ name.fields, f.kind.isLenient = true := by
      decide
    exact all _ (List.contains_iff_mem.mp lenient) _ isField

/-- Below a lenient kind no field has to be there. -/
lemma default_isSome_of_isLenient (lenient : kind.isLenient = true)
    (leads : kind.at? p = some (.record name)) (isField : f ∈ name.fields) :
    f.default.isSome = true := by
  induction p generalizing kind with
  | nil =>
    cases leads
    have all : ∀ name ∈ RecordName.lenient, ∀ f ∈ name.fields, f.default.isSome = true := by decide
    exact all _ (List.contains_iff_mem.mp lenient) _ isField
  | cons step rest ih =>
    obtain ⟨own, inside, enters, leads⟩ := enters_of_at? leads
    exact ih (enters.isLenient lenient) leads

/-- Above a field that has to be there nothing is lenient. -/
lemma not_isLenient_of_required (leads : kind.at? p = some (.record name))
    (isField : f ∈ name.fields) (required : f.default = none) : ¬kind.isLenient = true := by
  intro lenient
  have stands := default_isSome_of_isLenient lenient leads isField
  rw [required] at stands
  cases stands

/-- The one field of a document that is not lenient has the environments. -/
lemma Enters.environments (h : (Kind.record .document).Enters step own inside)
    (strict : ¬inside.isLenient = true) :
    step = .key "environments" ∧ inside = .list (.record .environment) := by
  have fields : ∀ g ∈ RecordName.document.fields, g.kind.isLenient = true ∨
      (g.key = "environments" ∧ g.otherKey = "environments") ∧
        g.kind = .list (.record .environment) := by
    decide
  cases h with
  | field isField atKey =>
    rcases fields _ isField with lenient | ⟨⟨first, second⟩, kind⟩
    · exact absurd lenient strict
    · rw [first, second, or_self] at atKey
      rw [atKey]
      exact ⟨rfl, kind⟩

/-- All records inside an environment are lenient. -/
lemma Enters.isLenient_environment (h : (Kind.record .environment).Enters step own inside) :
    inside.isLenient = true := by
  have fields : ∀ g ∈ RecordName.environment.fields, g.kind.isLenient = true := by decide
  cases h with
  | field isField _ => exact fields _ isField

/-- The fields of a document that have to be there are those of environments. -/
lemma environment_of_required (leads : (Kind.record .document).at? p = some (.record name))
    (isField : f ∈ name.fields) (required : f.default = none) :
    name = .environment ∧ ∃ i : Nat, p = [.key "environments", .index i] := by
  cases p with
  | nil =>
    cases leads
    have stands := Document.default_isSome isField
    rw [required] at stands
    cases stands
  | cons step rest =>
    obtain ⟨_, _, enters, below⟩ := enters_of_at? leads
    obtain ⟨rfl, rfl⟩ := enters.environments (not_isLenient_of_required below isField required)
    cases rest with
    | nil => cases below
    | cons step rest =>
      obtain ⟨_, _, enters, inside⟩ := enters_of_at? below
      cases enters with
      | item i =>
        cases rest with
        | nil =>
          cases inside
          exact ⟨rfl, i, rfl⟩
        | cons step rest =>
          obtain ⟨_, _, enters, inside⟩ := enters_of_at? inside
          exact absurd enters.isLenient_environment
            (not_isLenient_of_required inside isField required)

/-- There is one way to write the place of a field that has to be there. -/
lemma written_required (leads : (Kind.record .document).at? p = some (.record name))
    (isField : f ∈ name.fields) (required : f.default = none) :
    (Kind.record .document).written (p ++ [.key f.key]) = p ++ [.key f.key] := by
  obtain ⟨rfl, i, rfl⟩ := environment_of_required leads isField required
  have environments : (Kind.record .document).Enters (.key "environments") (.key "environments")
      (.list (.record .environment)) :=
    enter?_eq_some_iff.mp rfl
  rw [List.cons_append, List.cons_append, List.nil_append, environments.written,
    (Enters.item i).written, (Enters.field isField (.inl rfl)).written, Kind.written]

end Kind

/-! ## Values -/

namespace Value

/-- What is given at a location. -/
def at? : Value → Location → Option Value
  | v, [] => some v
  | .map entries, .key name :: rest => (lookupText name entries).bind fun v => at? v rest
  | .list items, .index i :: rest =>
    if 0 ≤ i then items[i.toNat]?.bind fun v => at? v rest else none
  | _, _ => none

variable {v : Value} {kind : Kind} {l : Location}

/-- Behind a key is what is in the value at the key. -/
lemma at?_key (entries : List (Scalar × Value)) (name : String) (rest : Location) :
    (Value.map entries).at? (.key name :: rest) =
      (lookupText name entries).bind fun v => v.at? rest :=
  rfl

/-- Behind an index is what is in the item. -/
lemma at?_index (items : List Value) (i : Nat) (rest : Location) :
    (Value.list items).at? (.index i :: rest) = items[i]?.bind fun v => v.at? rest := by
  simp [at?]

/-- Whether anything is given at a location. -/
def Gives (v : Value) (l : Location) : Prop :=
  ∃ w, v.at? l = some w

/-- The refused places of a JSON value, part by part. -/
inductive Refuses : Value → Kind → Location → Prop where
  | whole (v : Value) (kind : Kind) : Refuses v kind []
  | item {items : List Value} {i : Nat} {v : Value} {kind : Kind} {l : Location} :
    items[i]? = some v → Refuses v kind l → Refuses (.list items) (.list kind) (.index i :: l)
  | entry {entries : List (Scalar × Value)} {name : String} {v : Value} {kind : Kind}
      {l : Location} :
    lookupText name entries = some v → Refuses v kind l →
      Refuses (.map entries) (.table kind) (.key name :: l)
  | field {entries : List (Scalar × Value)} {name : RecordName} {f : Field} {key : String}
      {v : Value} {l : Location} :
    f ∈ name.fields → f.found? entries = some (key, v) → Refuses v f.kind l →
      Refuses (.map entries) (.record name) (.key key :: l)
  | missing {entries : List (Scalar × Value)} {name : RecordName} {f : Field} :
    f ∈ name.fields → f.default = none →
      Refuses (.map entries) (.record name) [.key f.key]

/-- A scalar is refused as a whole. -/
lemma eq_nil_of_mem_refusals_scalar {s : Scalar} (mem : l ∈ (Value.scalar s).refusals kind) :
    l = [] := by
  rw [refusals, conform, conformScalar] at mem
  split at mem
  · cases mem
  · exact List.mem_singleton.mp mem

/-- What a collection of another kind than the one asked for is refused at. -/
lemma eq_nil_of_mem_refuse (mem : l ∈ (rejectionsOf (kind.refuse v)).map Rejection.location) :
    l = [] := by
  rcases locations_refuse kind v with eq | eq
  · rw [eq] at mem
    cases mem
  · rw [eq] at mem
    exact List.mem_singleton.mp mem

/-- What is refused in a field is refused in a record with that field. -/
lemma Refuses.of_field {entries : List (Scalar × Value)} {name : RecordName} {f : Field}
    (isField : f ∈ name.fields)
    (inside : ∀ e ∈ entries, ∀ kind l, l ∈ e.2.refusals kind → e.2.Refuses kind l)
    (mem : l ∈ f.refusals entries) : (Value.map entries).Refuses (.record name) l := by
  cases found : f.found? entries with
  | none =>
    rw [Field.refusals, found] at mem
    cases stands : f.default with
    | none =>
      rw [stands] at mem
      cases List.mem_singleton.mp mem
      exact .missing isField stands
    | some v =>
      rw [stands] at mem
      cases mem
  | some e =>
    obtain ⟨key, v⟩ := e
    rw [Field.refusals_of_found found] at mem
    obtain ⟨rest, isRefusal, rfl⟩ := List.mem_map.mp mem
    refine .field isField found ?_
    rcases f.valueRefusals_cases v with eq | eq
    · rw [eq] at isRefusal
      cases isRefusal
    · rw [eq] at isRefusal
      exact inside _ (mem_of_lookupEntry (Field.lookup_of_found found)) _ _ isRefusal

/-- What is refused in a value read from JSON is refused at a place of the layout. -/
lemma IsJson.refuses (json : v.IsJson) (mem : l ∈ v.refusals kind) : v.Refuses kind l := by
  induction json generalizing kind l with
  | scalar _ =>
    cases eq_nil_of_mem_refusals_scalar mem
    exact .whole _ _
  | @list items _ ih =>
    obtain ⟨item, rfl⟩ | other := kind.list_or_not
    · obtain ⟨i, v, rest, here, isRefusal, rfl⟩ := mem_refusals_list mem
      exact .item here (ih v (List.mem_of_getElem? here) isRefusal)
    · rw [refusals, conform_list_refuse items other] at mem
      cases eq_nil_of_mem_refuse mem
      exact .whole _ _
  | @map entries keyed _ ih =>
    cases kind with
    | table item =>
      -- An entry of a table is found under its key, which no other entry has.
      rw [refusals_table keyed, List.mem_flatMap] at mem
      obtain ⟨e, isEntry, mem⟩ := mem
      obtain ⟨rest, isRefusal, rfl⟩ := List.mem_map.mp mem
      obtain ⟨name, eq⟩ := keyed.key isEntry
      rw [eq]
      refine .entry (v := e.2) (keyed.lookupEntry_of_mem ?_) (ih e isEntry isRefusal)
      rw [← eq]
      exact isEntry
    | record name =>
      rw [refusals_record keyed, List.mem_flatMap] at mem
      obtain ⟨f, isField, mem⟩ := mem
      exact .of_field isField (fun e isEntry kind l mem => ih e isEntry mem) mem
    | _ =>
      rw [refusals, conform_map, mapOutcome] at mem
      · cases eq_nil_of_mem_refuse mem
        exact .whole _ _
      all_goals simp

/-- A refused place is one of the layout. -/
lemma Refuses.at? (h : v.Refuses kind l) : ∃ inside, kind.at? l = some inside := by
  induction h with
  | whole _ kind => exact ⟨kind, rfl⟩
  | item _ _ ih =>
    rw [(Kind.Enters.item _).at?]
    exact ih
  | entry _ _ ih =>
    rw [(Kind.Enters.entry _).at?]
    exact ih
  | field isField found _ ih =>
    rw [(Kind.Enters.field isField (Field.key_of_found found)).at?]
    exact ih
  | missing isField _ =>
    rw [(Kind.Enters.field isField (.inl rfl)).at?]
    exact ⟨_, rfl⟩

/-- A refused place is given, or that of a field that has to be there. -/
lemma Refuses.given_or_required (h : v.Refuses kind l) :
    v.Gives l ∨ ∃ (p : Location) (name : RecordName) (f : Field),
      kind.at? p = some (.record name) ∧ f ∈ name.fields ∧ f.default = none ∧
        l = p ++ [.key f.key] := by
  induction h with
  | whole v _ => exact .inl ⟨v, rfl⟩
  | item here _ ih =>
    refine ih.imp ?_ ?_
    · rw [Gives, Gives, at?_index, here]
      exact id
    · rintro ⟨p, name, f, leads, isField, required, rfl⟩
      exact ⟨_ :: p, name, f, (Kind.Enters.item _).at?.trans leads, isField, required, rfl⟩
  | entry here _ ih =>
    refine ih.imp ?_ ?_
    · rw [Gives, Gives, at?_key, here]
      exact id
    · rintro ⟨p, name, f, leads, isField, required, rfl⟩
      exact ⟨_ :: p, name, f, (Kind.Enters.entry _).at?.trans leads, isField, required, rfl⟩
  | field own found _ ih =>
    refine ih.imp ?_ ?_
    · rw [Gives, Gives, at?_key, Field.lookup_of_found found]
      exact id
    · rintro ⟨p, name, f, leads, isField, required, rfl⟩
      refine ⟨_ :: p, name, f, ?_, isField, required, rfl⟩
      exact (Kind.Enters.field own (Field.key_of_found found)).at?.trans leads
  | @missing _ name f isField required =>
    exact .inr ⟨[], name, f, rfl, isField, required, rfl⟩

/-- Places below steps that are written apart are written apart, if those below each step are. -/
lemma nodup_written_flatMap {α : Type} {parts : List α} {places : α → List Location}
    (own : α → Step) (apart : parts.Pairwise fun a b => own a ≠ own b)
    (below : ∀ a ∈ parts, ∃ (step : Step) (inside : Kind) (ls : List Location),
      places a = ls.map (step :: ·) ∧ kind.Enters step (own a) inside ∧
        (ls.map inside.written).Nodup) :
    ((parts.flatMap places).map kind.written).Nodup := by
  -- As they are written, the places of a part start with its own step.
  have owned : ∀ a ∈ parts, ∃ ls : List Location,
      (places a).map kind.written = ls.map (own a :: ·) ∧ ls.Nodup := by
    intro a mem
    obtain ⟨step, inside, ls, eq, enters, nodup⟩ := below a mem
    refine ⟨ls.map inside.written, ?_, nodup⟩
    rw [eq, List.map_map, List.map_map]
    exact List.map_congr_left fun l _ => enters.written
  rw [List.map_flatMap, List.nodup_flatMap]
  constructor
  · intro a mem
    obtain ⟨ls, eq, nodup⟩ := owned a mem
    rw [eq]
    exact nodup.map (List.cons_injective)
  · refine apart.imp_of_mem fun {a b} isPart isOther ne l (mem : l ∈ (places a).map _)
      (mem' : l ∈ (places b).map _) => ?_
    obtain ⟨ls, eq, _⟩ := owned a isPart
    obtain ⟨ls', eq', _⟩ := owned b isOther
    rw [eq] at mem
    rw [eq'] at mem'
    obtain ⟨_, _, rfl⟩ := List.mem_map.mp mem
    obtain ⟨_, _, same⟩ := List.mem_map.mp mem'
    exact ne (List.cons.inj same).1.symm

/-- What is refused as a whole is refused once. -/
lemma nodup_written_whole {ls : List Location} (h : ls = [] ∨ ls = [[]]) :
    (ls.map kind.written).Nodup := by
  rcases h with rfl | rfl
  · exact List.nodup_nil
  · exact List.nodup_singleton _

/-- The refused places of a field are below its key, and written apart if those of its value
are. -/
lemma exists_refusals_field {entries : List (Scalar × Value)} {name : RecordName} {f : Field}
    (isField : f ∈ name.fields)
    (apart : ∀ e ∈ entries, ((e.2.refusals f.kind).map f.kind.written).Nodup) :
    ∃ (step : Step) (inside : Kind) (ls : List Location),
      f.refusals entries = ls.map (step :: ·) ∧
        (Kind.record name).Enters step (.key f.key) inside ∧ (ls.map inside.written).Nodup := by
  cases found : f.found? entries with
  | none =>
    have enters : (Kind.record name).Enters (.key f.key) (.key f.key) f.kind :=
      .field isField (.inl rfl)
    rw [Field.refusals, found]
    cases f.default with
    | none => exact ⟨_, _, [[]], rfl, enters, nodup_written_whole (.inr rfl)⟩
    | some v => exact ⟨_, _, [], rfl, enters, nodup_written_whole (.inl rfl)⟩
  | some e =>
    obtain ⟨key, v⟩ := e
    refine ⟨_, _, _, Field.refusals_of_found found,
      .field isField (Field.key_of_found found), ?_⟩
    rcases f.valueRefusals_cases v with eq | eq
    · rw [eq]
      exact nodup_written_whole (.inl rfl)
    · rw [eq]
      exact apart _ (mem_of_lookupEntry (Field.lookup_of_found found))

/-- No two refused places of a JSON value are of one field. -/
lemma IsJson.nodup_written_refusals (json : v.IsJson) (kind : Kind) :
    ((v.refusals kind).map kind.written).Nodup := by
  induction json generalizing kind with
  | @scalar s _ =>
    apply nodup_written_whole
    rw [refusals, conform, conformScalar]
    split
    · exact .inl rfl
    · exact .inr rfl
  | @list items _ ih =>
    obtain ⟨item, rfl⟩ | other := kind.list_or_not
    · rw [refusals_list]
      -- Refusals in different items differ at the first step, those in one item by induction.
      apply nodup_written_flatMap fun e : Value × Nat => .index e.2
      · rw [← List.pairwise_map (f := Prod.snd) (R := fun i j : Nat => Step.index i ≠ .index j),
          List.zipIdx_map_snd]
        refine (List.nodup_range' (h := Nat.one_pos)).imp fun ne eq => ne ?_
        exact Int.ofNat.inj (Step.index.inj eq)
      · rintro ⟨v, i⟩ isItem
        have mem := List.mem_of_getElem? (List.mem_zipIdx_iff_getElem?.mp isItem)
        exact ⟨_, _, _, rfl, .item i, ih v mem item⟩
    · rw [refusals, conform_list_refuse items other]
      exact nodup_written_whole (locations_refuse kind _)
  | @map entries keyed _ ih =>
    cases kind with
    | table item =>
      rw [refusals_table keyed]
      apply nodup_written_flatMap fun e : Scalar × Value => e.1.step
      · refine keyed.pairwise.imp_of_mem fun {a b} mem mem' ne eq => ne ?_
        obtain ⟨name, eqName⟩ := keyed.key mem
        obtain ⟨other, eqOther⟩ := keyed.key mem'
        rw [eqName, eqOther] at eq ⊢
        rw [Step.key.inj eq]
      · intro e mem
        obtain ⟨name, eq⟩ := keyed.key mem
        rw [eq]
        exact ⟨_, _, _, rfl, .entry name, ih e mem item⟩
    | record name =>
      rw [refusals_record keyed]
      -- Fields of a record are apart in their first keys.
      apply nodup_written_flatMap fun f : Field => .key f.key
      · exact name.fields_apart.imp fun apart eq => apart.1.1 (Step.key.inj eq).symm
      · exact fun f isField => exists_refusals_field isField fun e mem => ih e mem f.kind
    | _ =>
      apply nodup_written_whole
      rw [refusals, conform_map, mapOutcome]
      · exact locations_refuse _ _
      all_goals simp

end Value

end ClientSynth
