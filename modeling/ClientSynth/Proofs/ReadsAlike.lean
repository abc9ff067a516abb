import Mathlib.Data.List.Forall2
import ClientSynth.Document.Read
import ClientSynth.Proofs.Places
import ClientSynth.Proofs.Written

/-!
# Values that are read alike

Of a record only the fields are read. Two values that agree in these, all the way down, are refused
at the same places for the same reasons, or have written forms from which the same is read
(`Value.Agree.conform`); so they are the same document, or no document for the same reasons
(`Value.Agree.document`).

Agreement is defined by kinds: at scalars it is equality, at lists and tables it goes to the parts,
and at records to the values of fields. The readers of records have one congruence for each
(`RecordName.ReadsAlike`). That agreeing values are also refused alike is shown for outcomes, which
are related by `OutcomeRel` if both are refused for the same reasons or their results are related;
the relation is kept by everything that a reader puts outcomes together with.
-/

namespace ClientSynth

/-! ## Reading -/

/-- Whether two records in written form are read alike. -/
def RecordName.ReadsAlike : RecordName → Value → Value → Prop
  | .authentication, v, w => Authentication.read v = Authentication.read w
  | .parameter, v, w => Parameter.read v = Parameter.read w
  | .schema, v, w => Schema.read v = Schema.read w
  | .requestBody, v, w => RequestBody.read v = RequestBody.read w
  | .response, v, w => Response.read v = Response.read w
  | .endpoint, v, w => Endpoint.read v = Endpoint.read w
  | .model, v, w => Model.read v = Model.read w
  | .environment, v, w => Environment.read v = Environment.read w
  | .document, v, w => Document.read v = Document.read w
  | _, _, _ => True

/-- Entries with equal keys, whose values are related. -/
abbrev EntryRel {α : Type} (R : α → α → Prop) (e f : Scalar × α) : Prop :=
  e.1 = f.1 ∧ R e.2 f.2

/-- Whether two values in written form are read alike as one of a kind. -/
def Kind.ReadsAlike : Kind → Value → Value → Prop
  | .list item, v, w => v = w ∨ ∃ vs ws,
    v = .list vs ∧ w = .list ws ∧ vs.Forall₂ item.ReadsAlike ws
  | .table item, v, w => v = w ∨ ∃ es fs,
    v = .map es ∧ w = .map fs ∧ es.Forall₂ (EntryRel item.ReadsAlike) fs
  | .record name, v, w => (v = .null ↔ w = .null) ∧ name.ReadsAlike v w
  | _, v, w => v = w

section Scalars

variable {v w : Value}

/-- Values that are read as anything are read alike only if they are equal. -/
@[simp]
lemma Kind.readsAlike_any : Kind.any.ReadsAlike v w ↔ v = w :=
  Iff.rfl

/-- Texts are read alike only if they are equal. -/
@[simp]
lemma Kind.readsAlike_text : Kind.text.ReadsAlike v w ↔ v = w :=
  Iff.rfl

/-- Integers are read alike only if they are equal. -/
@[simp]
lemma Kind.readsAlike_integer : Kind.integer.ReadsAlike v w ↔ v = w :=
  Iff.rfl

/-- Numbers are read alike only if they are equal. -/
@[simp]
lemma Kind.readsAlike_number : Kind.number.ReadsAlike v w ↔ v = w :=
  Iff.rfl

/-- Flags are read alike only if they are equal. -/
@[simp]
lemma Kind.readsAlike_flag : Kind.flag.ReadsAlike v w ↔ v = w :=
  Iff.rfl

/-- Lists of texts are read alike only if they are equal. -/
@[simp]
lemma Kind.readsAlike_texts : (Kind.list .text).ReadsAlike v w ↔ v = w := by
  constructor
  · rintro (rfl | ⟨vs, ws, rfl, rfl, all⟩)
    · rfl
    · exact congrArg Value.list (List.forall₂_eq_eq_eq ▸ all)
  · exact .inl

/-- Tables are read alike only if they are equal where their values are. -/
lemma Kind.ReadsAlike.eq_of_table {kind : Kind} (h : (Kind.table kind).ReadsAlike v w)
    (same : ∀ a b, kind.ReadsAlike a b → a = b) : v = w := by
  obtain rfl | ⟨es, fs, rfl, rfl, all⟩ := h
  · rfl
  · have all := all.imp fun e f alike => Prod.ext alike.1 (same _ _ alike.2)
    rw [List.forall₂_eq_eq_eq] at all
    rw [all]

/-- Tables of texts are read alike only if they are equal. -/
@[simp]
lemma Kind.readsAlike_textTable : (Kind.table .text).ReadsAlike v w ↔ v = w :=
  ⟨fun h => h.eq_of_table fun _ _ => id, .inl⟩

/-- Tables of anything are read alike only if they are equal. -/
@[simp]
lemma Kind.readsAlike_anyTable : (Kind.table .any).ReadsAlike v w ↔ v = w :=
  ⟨fun h => h.eq_of_table fun _ _ => id, .inl⟩

end Scalars

/-- Every value reads like itself as a record. -/
lemma RecordName.ReadsAlike.refl (name : RecordName) (v : Value) : name.ReadsAlike v v := by
  cases name <;> simp [RecordName.ReadsAlike]

/-- Every value reads like itself. -/
lemma Kind.ReadsAlike.refl (kind : Kind) (v : Value) : kind.ReadsAlike v v := by
  cases kind with
  | list item => exact .inl rfl
  | table item => exact .inl rfl
  | record name => exact ⟨Iff.rfl, .refl name v⟩
  | _ => rfl

/-- Both values are absent, or none is. -/
lemma Kind.ReadsAlike.null_iff {kind : Kind} {v w : Value} (h : kind.ReadsAlike v w) :
    v = .null ↔ w = .null := by
  cases kind with
  | list item =>
    obtain rfl | ⟨vs, ws, rfl, rfl, _⟩ := h
    · rfl
    · exact ⟨nofun, nofun⟩
  | table item =>
    obtain rfl | ⟨es, fs, rfl, rfl, _⟩ := h
    · rfl
    · exact ⟨nofun, nofun⟩
  | record name => exact h.1
  | _ =>
    cases h
    rfl

section Readers

variable {kind : Kind} {name : RecordName} {v w : Value} {α : Type}

/-- A value that is present is read. -/
lemma present?_of_ne_null {f : Value → α} (present : v ≠ .null) :
    v.present? f = some (f v) := by
  unfold Value.present?
  split
  · exact absurd rfl present
  · rfl

/-- Values that are read alike, absent or present, are read the same where they may be absent. -/
lemma present?_congr {f : Value → α} (null : v = .null ↔ w = .null) (same : f v = f w) :
    v.present? f = w.present? f := by
  by_cases absent : v = .null
  · rw [absent, null.mp absent]
  · rw [present?_of_ne_null absent, present?_of_ne_null (mt null.mpr absent), same]

/-- From lists that are read alike a reader of the items gets the same. -/
lemma Kind.ReadsAlike.map_items {f : Value → α} (h : (Kind.list kind).ReadsAlike v w)
    (same : ∀ a b, kind.ReadsAlike a b → f a = f b) :
    v.items.map f = w.items.map f := by
  obtain rfl | ⟨vs, ws, rfl, rfl, all⟩ := h
  · rfl
  · rw [← List.forall₂_eq_eq_eq]
    exact List.rel_map same all

/-- From tables that are read alike a reader of the values gets the same. -/
lemma Kind.ReadsAlike.map_textEntries {f : Value → α} (h : (Kind.table kind).ReadsAlike v w)
    (same : ∀ a b, kind.ReadsAlike a b → f a = f b) :
    v.textEntries.map (fun e => (e.1, f e.2)) = w.textEntries.map fun e => (e.1, f e.2) := by
  obtain rfl | ⟨es, fs, rfl, rfl, all⟩ := h
  · rfl
  · unfold Value.textEntries
    rw [List.map_filterMap, List.map_filterMap, ← List.forall₂_eq_eq_eq]
    refine List.rel_filterMap ?_ all
    rintro ⟨key, a⟩ ⟨_, b⟩ ⟨rfl, alike⟩
    cases key with
    | text key => exact .some (congrArg (Prod.mk key) (same a b alike))
    | _ => exact .none

/-- The members of a schema are read from the entries with texts as keys. -/
lemma readMembers_eq (es : List (Scalar × Value)) :
    Schema.readMembers es = (Value.map es).textEntries.map fun e => (e.1, Schema.read e.2) := by
  induction es with
  | nil => rfl
  | cons e rest ih =>
    obtain ⟨key, v⟩ := e
    cases key with
    | text key => rw [Schema.readMembers, ih]; rfl
    | _ => exact ih

/-- Tables of schemas that agree are read as the same table. -/
lemma Kind.ReadsAlike.readTable (h : (Kind.table (.record .schema)).ReadsAlike v w) :
    Schema.readTable v = Schema.readTable w := by
  obtain rfl | ⟨es, fs, rfl, rfl, all⟩ := h
  · rfl
  · simp only [Schema.readTable, readMembers_eq]
    exact congrArg some (map_textEntries (.inr ⟨es, fs, rfl, rfl, all⟩) fun a b alike => alike.2)

/-- A schema in the field `items` is read from what is there. -/
lemma readItems_eq (es : List (Scalar × Value)) :
    Schema.readItems es = ((Value.map es).field "items").present? Schema.read := by
  induction es with
  | nil => rfl
  | cons e rest ih =>
    obtain ⟨key, v⟩ := e
    unfold Schema.readItems
    rw [ih]
    simp only [Value.field, lookupText, lookupEntry]
    split
    · rfl
    · rfl

/-- The schemas in the field `properties` are read from what is there. -/
lemma readProperties_eq (es : List (Scalar × Value)) :
    Schema.readProperties es = Schema.readTable ((Value.map es).field "properties") := by
  induction es with
  | nil => rfl
  | cons e rest ih =>
    obtain ⟨key, v⟩ := e
    unfold Schema.readProperties
    rw [ih]
    simp only [Value.field, lookupText, lookupEntry]
    split
    · rfl
    · rfl

/-- A schema is read from its fields. -/
lemma Schema.read_eq (v : Value) :
    Schema.read v =
      { type := (v.field "type").text?
        description := (v.field "description").text?
        example_ := v.field "example"
        enum := (v.field "enum").present? Value.textItems
        format := (v.field "format").text?
        items := (v.field "items").present? Schema.read
        properties := Schema.readTable (v.field "properties")
        required := (v.field "required").present? Value.textItems } := by
  cases v with
  | map es => rw [Schema.read, readItems_eq, readProperties_eq]
  | _ => rfl

/-- Lists that agree are read as the same list. -/
lemma Kind.ReadsAlike.map_items? {f : Value → α} (h : (Kind.list kind).ReadsAlike v w)
    (same : ∀ a b, kind.ReadsAlike a b → f a = f b) :
    (v.present? fun t => t.items.map f) = w.present? fun t => t.items.map f :=
  present?_congr h.null_iff (h.map_items same)

/-- Tables that agree are read as the same table. -/
lemma Kind.ReadsAlike.map_textEntries? {f : Value → α} (h : (Kind.table kind).ReadsAlike v w)
    (same : ∀ a b, kind.ReadsAlike a b → f a = f b) :
    (v.present? fun t => t.textEntries.map fun e => (e.1, f e.2)) =
      w.present? fun t => t.textEntries.map fun e => (e.1, f e.2) :=
  present?_congr h.null_iff (h.map_textEntries same)

/-- Schemas that agree are read as the same schema. -/
lemma Kind.ReadsAlike.read? (h : (Kind.record .schema).ReadsAlike v w) :
    v.present? Schema.read = w.present? Schema.read :=
  present?_congr h.null_iff h.2

/-- Records whose fields are read alike are read alike. -/
lemma RecordName.readsAlike_of_fields
    (h : ∀ f ∈ name.fields, f.kind.ReadsAlike (v.field f.key) (w.field f.key)) :
    name.ReadsAlike v w := by
  cases name with
  | authentication =>
    simp only [fields, Field.optional, List.mem_cons, List.not_mem_nil, or_false, forall_eq_or_imp,
      Kind.readsAlike_text, forall_eq] at h
    simp only [ReadsAlike, Authentication.read, h]
  | parameter =>
    simp only [fields, Field.optional, Field.withDefault, List.mem_cons, List.not_mem_nil, or_false,
      forall_eq_or_imp, Kind.readsAlike_text, Kind.readsAlike_flag, Kind.readsAlike_any,
      Kind.readsAlike_texts, Kind.readsAlike_number, Kind.readsAlike_integer, forall_eq] at h
    obtain ⟨name, place, required, type, about, sample, enum, rest⟩ := h
    simp only [ReadsAlike, Parameter.read, name, place, required, type, about, sample, enum,
      rest]
  | schema =>
    simp only [fields, Field.optional, List.mem_cons, List.not_mem_nil, or_false, forall_eq_or_imp,
      Kind.readsAlike_text, Kind.readsAlike_any, Kind.readsAlike_texts, forall_eq] at h
    obtain ⟨type, about, sample, enum, format, items, properties, required⟩ := h
    simp only [ReadsAlike, Schema.read_eq v, Schema.read_eq w, type, about, sample, enum,
      format, items.read?, properties.readTable, required]
  | requestBody =>
    simp only [fields, Field.optional, List.mem_cons, List.not_mem_nil, or_false, forall_eq_or_imp,
      Kind.readsAlike_text, forall_eq, Kind.readsAlike_any] at h
    obtain ⟨type, schema, sample⟩ := h
    simp only [ReadsAlike, RequestBody.read, type, schema.read?, sample]
  | response =>
    simp only [fields, Field.optional, List.mem_cons, List.not_mem_nil, or_false, forall_eq_or_imp,
      Kind.readsAlike_integer, Kind.readsAlike_text, forall_eq, Kind.readsAlike_any] at h
    obtain ⟨code, about, type, schema, sample⟩ := h
    simp only [ReadsAlike, Response.read, code, about, type, schema.read?, sample]
  | endpoint =>
    simp only [fields, Field.optional, Field.withDefault, List.mem_cons, List.not_mem_nil, or_false,
      forall_eq_or_imp, Kind.readsAlike_text, Kind.readsAlike_texts, forall_eq,
      Kind.readsAlike_flag] at h
    obtain ⟨id, name, method, path, summary, about, tags, parameters, body, responses, old⟩ := h
    have parameters := parameters.map_items? (f := Parameter.read) fun _ _ alike => alike.2
    have responses := responses.map_items (f := Response.read) fun _ _ alike => alike.2
    simp only [ReadsAlike, Endpoint.read, id, name, method, path, summary, about, tags,
      parameters, present?_congr body.null_iff body.2, responses, old]
  | model =>
    simp only [fields, Field.optional, List.mem_cons, List.not_mem_nil, or_false, forall_eq_or_imp,
      Kind.readsAlike_text, Kind.readsAlike_texts, forall_eq, Kind.readsAlike_any] at h
    obtain ⟨name, about, type, properties, required, sample⟩ := h
    simp only [ReadsAlike, Model.read, name, about, type, properties.readTable, required,
      sample]
  | environment =>
    simp only [fields, Field.required, Field.optional, List.mem_cons, List.not_mem_nil, or_false,
      forall_eq_or_imp, Kind.readsAlike_text, forall_eq] at h
    simp only [ReadsAlike, Environment.read, h]
  | document =>
    simp only [fields, Field.optional, Field.withDefault, List.mem_cons, List.not_mem_nil, or_false,
      forall_eq_or_imp, Kind.readsAlike_text, Kind.readsAlike_textTable, Kind.readsAlike_integer,
      forall_eq, Kind.readsAlike_anyTable] at h
    obtain ⟨title, version, about, address, authentication, headers, timeout, endpoints, models,
      environments, metadata⟩ := h
    have endpoints := endpoints.map_items (f := Endpoint.read) fun _ _ alike => alike.2
    have models := models.map_textEntries? (f := Model.read) fun _ _ alike => alike.2
    have environments := environments.map_items? (f := Environment.read) fun _ _ alike => alike.2
    simp only [ReadsAlike, Document.read, title, version, about, address,
      present?_congr authentication.null_iff authentication.2, headers, timeout, endpoints, models,
      environments, metadata]
  | _ => trivial

end Readers

/-! ## Outcomes -/

/-- Where a value is refused, and why. -/
def Rejection.reason (r : Rejection) : Location × Cause :=
  (r.location, r.cause)

/-- Results that are related, or rejections for the same reasons. -/
inductive OutcomeRel {α β : Type} (R : α → β → Prop) :
    Except (List Rejection) α → Except (List Rejection) β → Prop where
  | ok {a b} : R a b → OutcomeRel R (.ok a) (.ok b)
  | error {rs ss} : rs.map Rejection.reason = ss.map Rejection.reason →
    OutcomeRel R (.error rs) (.error ss)

namespace OutcomeRel

variable {α β γ δ : Type} {R : α → β → Prop} {S : γ → δ → Prop}
  {o : Except (List Rejection) α} {p : Except (List Rejection) β}

/-- Every outcome is related to itself if every result is. -/
lemma refl {R : α → α → Prop} (h : ∀ a, R a a) : OutcomeRel R o o := by
  cases o with
  | ok a => exact .ok (h a)
  | error rs => exact .error rfl

/-- Refusals for one cause are related. -/
lemma reject (cause : Cause) (v w : Value) :
    OutcomeRel R (ClientSynth.reject cause v) (ClientSynth.reject cause w) :=
  .error rfl

/-- The rejections are for the same reasons. -/
lemma reasons (h : OutcomeRel R o p) :
    (rejectionsOf o).map Rejection.reason = (rejectionsOf p).map Rejection.reason := by
  cases h with
  | ok _ => rfl
  | error same => exact same

/-- Outcomes with the same reasons are related if their results are. -/
lemma of_reasons (ho : Reasoned o) (hp : Reasoned p)
    (reasons : (rejectionsOf o).map Rejection.reason = (rejectionsOf p).map Rejection.reason)
    (results : ∀ a b, o = .ok a → p = .ok b → R a b) : OutcomeRel R o p := by
  cases o with
  | ok a =>
    -- Without rejections on the one side there are none on the other.
    rw [rejectionsOf_ok, List.map_nil, eq_comm, List.map_eq_nil_iff,
      hp.rejectionsOf_eq_nil_iff] at reasons
    obtain ⟨b, rfl⟩ := reasons
    exact .ok (results a b rfl rfl)
  | error rs =>
    cases p with
    | ok b =>
      rw [rejectionsOf_ok, List.map_nil, List.map_eq_nil_iff,
        ho.rejectionsOf_eq_nil_iff] at reasons
      obtain ⟨a, eq⟩ := reasons
      cases eq
    | error ss => exact .error reasons

/-- What is made of related results is related. -/
lemma map {f : α → γ} {g : β → δ} (h : OutcomeRel R o p) (results : ∀ a b, R a b → S (f a) (g b)) :
    OutcomeRel S (o.map f) (p.map g) := by
  cases h with
  | ok related => exact .ok (results _ _ related)
  | error same => exact .error same

/-- Outcomes of related parts are related below the same step. -/
lemma below (h : OutcomeRel R o p) (step : Step) :
    OutcomeRel R (Outcome.below step o) (Outcome.below step p) := by
  cases h with
  | ok related => exact .ok related
  | @error rs ss same =>
    have under : Rejection.reason ∘ Rejection.below step =
        (fun e => (step :: e.1, e.2)) ∘ Rejection.reason := rfl
    refine .error ?_
    rw [List.map_map, List.map_map, under, ← List.map_map, ← List.map_map, same]

/-- Pairs of related outcomes are related. -/
lemma both {o' : Except (List Rejection) γ} {p' : Except (List Rejection) δ}
    (h : OutcomeRel R o p) (h' : OutcomeRel S o' p') :
    OutcomeRel (fun a b => R a.1 b.1 ∧ S a.2 b.2) (both o o') (both p p') := by
  cases h with
  | ok related =>
    cases h' with
    | ok related' => exact .ok ⟨related, related'⟩
    | error same' => exact .error same'
  | error same =>
    cases h' with
    | ok related' => exact .error same
    | error same' => exact .error (by rw [List.map_append, List.map_append, same, same'])

/-- Lists of related outcomes are related. -/
lemma gather {os : List (Except (List Rejection) α)} {ps : List (Except (List Rejection) β)}
    (h : os.Forall₂ (OutcomeRel R) ps) :
    OutcomeRel (List.Forall₂ R) (gather os) (gather ps) := by
  induction h with
  | nil => exact .ok .nil
  | @cons o p os ps first _ ih =>
    have cons {α : Type} (o : Except (List Rejection) α) (os) :
        ClientSynth.gather (o :: os) =
          (ClientSynth.both o (ClientSynth.gather os)).map fun e => e.1 :: e.2 := by
      cases o <;> cases eq : ClientSynth.gather os <;> simp [ClientSynth.gather, eq] <;> rfl
    rw [cons, cons]
    exact (first.both ih).map fun a b related => .cons related.1 related.2

/-- Items with related outcomes make up related lists. -/
lemma gather_items {os : List (Except (List Rejection) α)} {ps : List (Except (List Rejection) β)}
    (h : os.Forall₂ (OutcomeRel R) ps) :
    OutcomeRel (List.Forall₂ R)
      (ClientSynth.gather (os.mapIdx fun i o => Outcome.below (.index i) o))
      (ClientSynth.gather (ps.mapIdx fun i o => Outcome.below (.index i) o)) := by
  refine gather ?_
  rw [List.forall₂_iff_get] at h ⊢
  refine ⟨by simpa using h.1, fun i here there => ?_⟩
  simp only [List.get_eq_getElem, List.getElem_mapIdx]
  exact (h.2 i (by simpa using here) (by simpa using there)).below _

end OutcomeRel

/-! ## Agreeing values -/

/-- Values that agree in everything that is read of a kind. -/
inductive Value.Agree : Kind → Value → Value → Prop where
  | same (kind : Kind) (v : Value) : Agree kind v v
  | list {kind vs ws} : vs.length = ws.length →
    (∀ (i : Nat) v w, vs[i]? = some v → ws[i]? = some w → Agree kind v w) →
      Agree (.list kind) (.list vs) (.list ws)
  | table {kind es fs} : es.map Prod.fst = fs.map Prod.fst →
    (∀ key v w, lookupText key es = some v → lookupText key fs = some w → Agree kind v w) →
      Agree (.table kind) (.map es) (.map fs)
  | record {name es fs} :
    (∀ key f, name.fieldAt? key = some f →
      (lookupText key es).isSome = (lookupText key fs).isSome) →
    (∀ key f v w, name.fieldAt? key = some f →
      lookupText key es = some v → lookupText key fs = some w → Agree f.kind v w) →
      Agree (.record name) (.map es) (.map fs)

/-- Values found under the same key, if any, that are related. -/
abbrev FoundRel (R : Value → Value → Prop) :
    Option (String × Value) → Option (String × Value) → Prop :=
  Option.Rel fun a b => a.1 = b.1 ∧ R a.2 b.2

section Agreement

variable {kind : Kind} {name : RecordName} {field : Field} {v w : Value}
  {es fs : List (Scalar × Value)}

/-- Both values are absent, or none is. -/
lemma Value.Agree.null_iff (h : Value.Agree kind v w) : v = .null ↔ w = .null := by
  cases h with
  | same _ _ => rfl
  | list _ _ => exact ⟨nofun, nofun⟩
  | table _ _ => exact ⟨nofun, nofun⟩
  | record _ _ => exact ⟨nofun, nofun⟩

/-- An item of a value with texts for keys has texts for keys. -/
lemma Value.Keyed.of_getElem? {items : List Value} (h : (Value.list items).Keyed) {i : Nat}
    (here : items[i]? = some v) : v.Keyed := by
  cases h with
  | list all => exact all v (List.mem_of_getElem? here)

/-- What a key leads to in such a value is one. -/
lemma Value.Keyed.of_lookup (h : (Value.map es).Keyed) {key : String}
    (here : lookupText key es = some v) : v.Keyed := by
  cases h with
  | map _ all => exact all _ (mem_of_lookupEntry here)

/-- The entries of such a value are keyed by texts. -/
lemma Value.Keyed.entries (h : (Value.map es).Keyed) : TextKeyed es := by
  cases h with
  | map keyed _ => exact keyed

/-- Entries with equal keys are related one by one when they are at every key. -/
lemma TextKeyed.forall₂_of_lookup {α : Type} {R : α → α → Prop} {es fs : List (Scalar × α)}
    (h : TextKeyed es) (keyed : TextKeyed fs) (keys : es.map Prod.fst = fs.map Prod.fst)
    (related : ∀ key a b, lookupText key es = some a → lookupText key fs = some b → R a b) :
    es.Forall₂ (EntryRel R) fs := by
  rw [List.forall₂_iff_get]
  have length : es.length = fs.length := by simpa using congrArg List.length keys
  refine ⟨length, fun i here there => ?_⟩
  have same : es[i].1 = fs[i].1 := by
    simpa [here, there] using congrArg (·[i]?) keys
  obtain ⟨key, eq⟩ := h.key (List.getElem_mem here)
  refine ⟨same, related key _ _ (h.lookupEntry_of_mem ?_) (keyed.lookupEntry_of_mem ?_)⟩
  · rw [← eq]
    exact List.getElem_mem here
  · rw [← eq, same]
    exact List.getElem_mem there

/-- Options are related if both are present, or neither is, and the present ones are related. -/
lemma optionRel_of_isSome {α : Type} {R : α → α → Prop} {a b : Option α}
    (same : a.isSome = b.isSome) (related : ∀ x y, a = some x → b = some y → R x y) :
    Option.Rel R a b := by
  cases a with
  | none =>
    cases b with
    | none => exact .none
    | some y => cases same
  | some x =>
    cases b with
    | none => cases same
    | some y => exact .some (related x y rfl rfl)

/-- A field is found alike where what is at its keys is related. -/
lemma Field.found?_rel {R : Value → Value → Prop}
    (own : Option.Rel R (lookupText field.key es) (lookupText field.key fs))
    (other : Option.Rel R (lookupText field.otherKey es) (lookupText field.otherKey fs)) :
    FoundRel R (field.found? es) (field.found? fs) := by
  unfold found?
  generalize lookupText field.key es = a, lookupText field.key fs = b at own
  generalize lookupText field.otherKey es = a', lookupText field.otherKey fs = b' at other
  cases own with
  | some related => exact .some ⟨rfl, related⟩
  | none =>
    cases other with
    | some related => exact .some ⟨rfl, related⟩
    | none => exact .none

/-- Fields that are found alike have related outcomes. -/
lemma Field.outcome_rel {R : Value → Value → Prop} (refl : ∀ v, R v v) {whole whole' : Value}
    (h : FoundRel (fun v w => (v = .null ↔ w = .null) ∧
      OutcomeRel R (v.conform field.kind) (w.conform field.kind))
      (field.found? es) (field.found? fs)) :
    OutcomeRel (fun a b => R a.2 b.2)
      (field.outcome whole (es.map fun e => ⟨e.1, e.2, e.2.conform⟩))
      (field.outcome whole' (fs.map fun e => ⟨e.1, e.2, e.2.conform⟩)) := by
  unfold outcome
  rw [Field.find?_map, Field.find?_map]
  generalize field.found? es = a, field.found? fs = b at h
  cases h with
  | none =>
    cases field.default with
    | some v => exact .ok (refl v)
    | none => exact (OutcomeRel.reject _ _ _).below _
  | @some a b related =>
    obtain ⟨key, v⟩ := a
    obtain ⟨_, w⟩ := b
    obtain ⟨rfl, null, outcomes⟩ := related
    simp only [Option.map_some]
    have present := (outcomes.below (.key key)).map (f := (field.key, ·)) (g := (field.key, ·))
      (S := fun a b => R a.2 b.2) fun _ _ alike => alike
    -- An absent value is accepted on both sides or on neither.
    split
    case h_1 nullable =>
      rw [show w = .null from null.mp rfl, nullable]
      exact .ok (refl _)
    case h_2 one =>
      split
      case h_1 nullable => exact (one nullable (null.mpr rfl)).elim
      case h_2 => exact present

/-- Records whose fields have related outcomes do. -/
lemma outcomeRel_record (keyedL : TextKeyed es) (keyedR : TextKeyed fs)
    (h : ∀ field ∈ name.fields, OutcomeRel (fun a b => field.kind.ReadsAlike a.2 b.2)
      (field.outcome (.map es) (es.map fun e => ⟨e.1, e.2, e.2.conform⟩))
      (field.outcome (.map fs) (fs.map fun e => ⟨e.1, e.2, e.2.conform⟩))) :
    OutcomeRel (Kind.record name).ReadsAlike ((Value.map es).conform (.record name))
      ((Value.map fs).conform (.record name)) := by
  refine .of_reasons (Value.reasoned_conform _ _) (Value.reasoned_conform _ _) ?_
    fun a b ha hb => ?_
  · rw [Value.rejectionsOf_record keyedL, Value.rejectionsOf_record keyedR, List.map_flatMap,
      List.map_flatMap]
    exact List.flatMap_congr fun field isField => (h field isField).reasons
  · have null : a = .null ↔ b = .null := by
      rw [Value.conform_map] at ha hb
      obtain ⟨_, _, rfl⟩ := map_eq_ok_iff.mp ha
      obtain ⟨_, _, rfl⟩ := map_eq_ok_iff.mp hb
      exact ⟨nofun, nofun⟩
    refine ⟨null, RecordName.readsAlike_of_fields fun field isField => ?_⟩
    have related := h field isField
    rw [Value.conform_record_ok ha isField, Value.conform_record_ok hb isField] at related
    cases related with
    | ok alike => exact alike

/-- Lists whose items have related outcomes do. -/
lemma outcomeRel_listOutcome {os ps : List Outcome}
    (h : os.Forall₂ (OutcomeRel kind.ReadsAlike) ps) :
    OutcomeRel (Kind.list kind).ReadsAlike (listOutcome os) (listOutcome ps) :=
  (OutcomeRel.gather_items h).map fun vs ws all => .inr ⟨vs, ws, rfl, rfl, all⟩

/-- Putting related values at one key leaves the entries related. -/
lemma forall₂_insertEntry {α : Type} {R : α → α → Prop} {key : Scalar} {a b : α}
    {es fs : List (Scalar × α)} (h : es.Forall₂ (EntryRel R) fs) (related : R a b) :
    (insertEntry key a es).Forall₂ (EntryRel R) (insertEntry key b fs) := by
  induction h with
  | nil => exact .cons ⟨rfl, related⟩ .nil
  | @cons e f es fs first rest ih =>
    obtain ⟨k, x⟩ := e
    obtain ⟨_, y⟩ := f
    obtain ⟨rfl, values⟩ := first
    unfold insertEntry
    split
    · exact .cons ⟨rfl, related⟩ rest
    · exact .cons ⟨rfl, values⟩ ih

/-- Entries are related without their duplicates as well. -/
lemma forall₂_distinctEntries {α : Type} {R : α → α → Prop} {es fs : List (Scalar × α)}
    (h : es.Forall₂ (EntryRel R) fs) :
    (distinctEntries es).Forall₂ (EntryRel R) (distinctEntries fs) :=
  List.rel_foldl (fun _ _ tables e f related => by
    obtain ⟨k, x⟩ := e
    obtain ⟨_, y⟩ := f
    obtain ⟨rfl, values⟩ := related
    exact forall₂_insertEntry tables values) .nil h

/-- Tables whose entries have related outcomes do. -/
lemma outcomeRel_table
    (h : es.Forall₂ (EntryRel fun v w =>
      OutcomeRel kind.ReadsAlike (v.conform kind) (w.conform kind)) fs) :
    OutcomeRel (Kind.table kind).ReadsAlike ((Value.map es).conform (.table kind))
      ((Value.map fs).conform (.table kind)) := by
  rw [Value.conform_map, Value.conform_map]
  refine (OutcomeRel.gather (R := EntryRel kind.ReadsAlike) ?_).map fun es fs all =>
    .inr ⟨_, _, rfl, rfl, forall₂_distinctEntries all⟩
  rw [List.map_map, List.map_map]
  refine List.rel_map ?_ h
  rintro ⟨key, v⟩ ⟨_, w⟩ ⟨rfl, outcomes⟩
  exact OutcomeRel.both (.refl fun _ => rfl) (outcomes.below _)

/-- Agreeing values have written forms from which the same is read, or are refused for the same
reasons. -/
lemma Value.Agree.conform (h : Value.Agree kind v w) (keyedL : v.Keyed) (keyedR : w.Keyed) :
    OutcomeRel kind.ReadsAlike (v.conform kind) (w.conform kind) := by
  induction h with
  | same kind v => exact .refl (.refl kind)
  | @list kind vs ws length _ ih =>
    rw [conform_list, conform_list]
    refine outcomeRel_listOutcome ?_
    rw [List.forall₂_map_left_iff, List.forall₂_map_right_iff, List.forall₂_iff_get]
    refine ⟨length, fun i here there => ?_⟩
    have here := List.getElem?_eq_getElem here
    have there := List.getElem?_eq_getElem there
    exact ih i _ _ here there (keyedL.of_getElem? here) (keyedR.of_getElem? there)
  | @table kind es fs keys _ ih =>
    refine outcomeRel_table (keyedL.entries.forall₂_of_lookup keyedR.entries keys ?_)
    exact fun key v w here there => ih key v w here there (keyedL.of_lookup here)
      (keyedR.of_lookup there)
  | @record name es fs keys values ih =>
    refine outcomeRel_record keyedL.entries keyedR.entries fun field isField => ?_
    have atKey : ∀ key, key = field.key ∨ key = field.otherKey →
        Option.Rel (fun v w => (v = .null ↔ w = .null) ∧
          OutcomeRel field.kind.ReadsAlike (v.conform field.kind) (w.conform field.kind))
          (lookupText key es) (lookupText key fs) := by
      intro key own
      have own := RecordName.fieldAt?_eq_some_iff.mpr ⟨isField, own⟩
      refine optionRel_of_isSome (keys key field own) fun v w here there => ⟨?_, ?_⟩
      · exact (values key field v w own here there).null_iff
      · exact ih key field v w own here there (keyedL.of_lookup here) (keyedR.of_lookup there)
    exact Field.outcome_rel (.refl field.kind)
      (Field.found?_rel (atKey _ (.inl rfl)) (atKey _ (.inr rfl)))

/-- Agreeing values are the same document, or none for the same reasons. -/
lemma Value.Agree.document (h : Value.Agree (.record .document) v w) (keyedL : v.Keyed)
    (keyedR : w.Keyed) : OutcomeRel Eq (Document.ofValue v) (Document.ofValue w) :=
  (h.conform keyedL keyedR).map fun _ _ alike => alike.2

end Agreement

end ClientSynth
