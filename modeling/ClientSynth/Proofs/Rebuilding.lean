import ClientSynth.Proofs.KeyOrder
import ClientSynth.Proofs.SettingsRecord

/-!
# Building records again

A value in written form is its own written form (`Value.conform_written`): scalars have the kind
asked for, lists and tables have items that are read as themselves, and a record has each field at
its first key, which is looked for first, so that what it keeps at the second key does not win. So a
record that is built can be dumped and built again, and is the same (`Value.conform_record_dump`).

That a value in written form is its own written form is an induction over values, and the case of a
record is about its fields: each result is put at the first key of its field, so that building again
finds it there (`Field.IsResult`), and what belongs to no field stays that way, because the first
keys of all fields are taken (`Value.usedKeys_eq`). Defaults need to be in written form themselves
(`RecordName.hasFitDefault`).
-/

namespace ClientSynth

/-! ## Parts in written form -/

/-- A scalar that was read as one of a kind is one as it stands. -/
lemma Scalar.toKind_written {s t : Scalar} {kind : Kind} (h : s.toKind kind = .ok t) :
    t.toKind kind = .ok t := by
  cases kind with
  | any => rfl
  | text | integer | number | flag =>
    unfold toKind at h
    obtain ⟨_, _, rfl⟩ := map_eq_ok_iff.mp h
    rfl
  | faultCode | severity =>
    obtain rfl : s = t := by
      unfold toKind at h
      grind
    exact h
  | list _ | table _ | record _ => cases h

/-- A scalar is read as the scalar that it becomes as one of a kind. -/
lemma conformScalar_eq_ok_iff {kind : Kind} {s : Scalar} {w : Value} :
    conformScalar kind s = .ok w ↔ ∃ t, s.toKind kind = .ok t ∧ w = .scalar t := by
  unfold conformScalar
  cases s.toKind kind with
  | ok t => simp [eq_comm]
  | error cause => simp [reject]

/-- Items that are all read make up a list that is read. -/
lemma listOutcome_map_ok (ws : List Value) : listOutcome (ws.map .ok) = .ok (.list ws) := by
  have below : ((ws.map Except.ok).mapIdx fun i (o : Outcome) => Outcome.below (.index i) o) =
      ws.map .ok := by
    refine List.ext_getElem? fun i => ?_
    rw [List.getElem?_mapIdx, List.getElem?_map]
    cases ws[i]? <;> rfl
  rw [listOutcome, below, gather_map_ok]
  rfl

/-! ## Records -/

namespace Field

variable {field : Field} {entries after : List (Scalar × Value)} {whole u : Value}

/-- Whether a field can have been read as a value. -/
def IsResult (field : Field) (u : Value) : Prop :=
  (field.nullable = true ∧ u = .null) ∨ u.conform field.kind = .ok u

/-- What stands for a missing field is absent where that is accepted, or of the field's kind. -/
def HasFitDefault (field : Field) : Prop :=
  ∀ v, field.default = some v → field.IsResult v

/-- A field that may be absent has a default in written form. -/
lemma hasFitDefault_optional (key otherKey : String) (kind : Kind) :
    (optional key otherKey kind).HasFitDefault :=
  fun _ eq => .inl ⟨rfl, (Option.some.inj eq).symm⟩

/-- A field that has to be there has no default. -/
lemma hasFitDefault_required (key otherKey : String) (kind : Kind) :
    (required key otherKey kind).HasFitDefault :=
  nofun

/-- A field with a default in written form has one. -/
lemma hasFitDefault_withDefault {key otherKey : String} {kind : Kind} {v : Value}
    (fits : v.conform kind = .ok v) : (withDefault key otherKey kind v).HasFitDefault := by
  intro w eq
  cases eq
  exact .inr fits

/-- What is read of a field is its result. -/
lemma isResult_of_outcome (fits : field.HasFitDefault)
    (written : ∀ e ∈ entries, ∀ kind w, e.2.conform kind = .ok w → w.conform kind = .ok w)
    (h : field.outcome whole (entries.map fun e => ⟨e.1, e.2, e.2.conform⟩) = .ok (field.key, u)) :
    field.IsResult u := by
  unfold outcome at h
  rw [find?_map] at h
  cases here : field.found? entries with
  | none =>
    rw [here, Option.map_none] at h
    cases default : field.default with
    | none =>
      rw [default] at h
      cases h
    | some v =>
      rw [default] at h
      cases h
      exact fits _ default
  | some e =>
    obtain ⟨key, v⟩ := e
    rw [here, Option.map_some] at h
    dsimp only at h
    split at h
    case h_1 nullable =>
      cases h
      exact .inl ⟨nullable, rfl⟩
    case h_2 =>
      obtain ⟨w, eq, same⟩ := map_eq_ok_iff.mp h
      cases same
      exact .inr (written _ (mem_of_lookupEntry (lookup_of_found here)) _ _
        (below_eq_ok_iff.mp eq))

/-- What a field was read as is read as itself where it stands under the first key. -/
lemma outcome_of_isResult (result : field.IsResult u)
    (found : field.found? after = some (field.key, u)) :
    field.outcome whole (after.map fun e => ⟨e.1, e.2, e.2.conform⟩) = .ok (field.key, u) := by
  unfold outcome
  rw [find?_map, found, Option.map_some]
  dsimp only
  split
  case h_1 => rfl
  case h_2 other =>
    rcases result with ⟨nullable, rfl⟩ | conforms
    · exact absurd rfl (other nullable)
    · rw [conforms]
      rfl

end Field

/-- Every default in a record is in written form. -/
lemma RecordName.hasFitDefault (name : RecordName) : ∀ f ∈ name.fields, f.HasFitDefault := by
  cases name <;>
    simp only [fields, settingsFields, List.forall_mem_cons, List.not_mem_nil, IsEmpty.forall_iff,
      implies_true, and_true, Field.hasFitDefault_optional, Field.hasFitDefault_required, true_and]
  all_goals (repeat' apply And.intro) <;> exact Field.hasFitDefault_withDefault rfl

namespace Value

variable {entries : List (Scalar × Value)} {name : RecordName} {w : Value}

/-- The entries of a record in written form. -/
abbrev writtenEntries (members : List (String × Value)) : List (Scalar × Value) :=
  members.map fun e => (.text e.1, e.2)

/-- The written form of a record has its fields first, and then what it keeps besides. -/
lemma conform_record_parts (h : (Value.map entries).conform (.record name) = .ok w) :
    ∃ own extra : List (String × Value), w = .object (own ++ extra) ∧
      name.fields.map
          (Field.outcome (.map entries) (entries.map fun e => ⟨e.1, e.2, e.2.conform⟩)) =
        own.map .ok ∧
      (if name.keepsExtras then
        (extraEntries name.fields (entries.map fun e => ⟨e.1, e.2, e.2.conform⟩)).map extraOutcome
      else []) = extra.map .ok := by
  rw [conform_map, mapOutcome, recordOutcome, map_eq_ok_iff] at h
  obtain ⟨members, gathered, rfl⟩ := h
  obtain ⟨own, extra, rfl, eqOwn, eqExtra⟩ :=
    List.map_eq_append_iff.mp (gather_eq_ok gathered).symm
  exact ⟨own, extra, rfl, eqOwn.symm, eqExtra.symm⟩

end Value

/-- The keys at which fields are found. -/
def usedKeys (fields : List Field) (entries : List (Scalar × Value)) : List String :=
  fields.filterMap fun f => (f.found? entries).map Prod.fst

/-- Whether an entry belongs to no field. -/
def IsExtra (fields : List Field) (entries : List (Scalar × Value)) (key : Scalar) : Prop :=
  ∀ used ∈ usedKeys fields entries, key ≠ .text used

instance (fields : List Field) (entries : List (Scalar × Value)) (key : Scalar) :
    Decidable (IsExtra fields entries key) :=
  inferInstanceAs (Decidable (∀ _ ∈ _, _))

/-- The entries that no field asks for, each with what its value is read as. -/
lemma extraEntries_map (fields : List Field) (entries : List (Scalar × Value)) :
    extraEntries fields (entries.map fun e => ⟨e.1, e.2, e.2.conform⟩) =
      (entries.filter fun e => IsExtra fields entries e.1).map
        fun e => ⟨e.1, e.2, e.2.conform⟩ := by
  have used : (fields.filterMap fun f =>
      (f.find? (entries.map fun e => ⟨e.1, e.2, e.2.conform⟩)).map Prod.fst) =
        usedKeys fields entries := by
    refine List.filterMap_congr fun f _ => ?_
    rw [Field.find?_map, Option.map_map]
    rfl
  unfold extraEntries
  rw [used, List.filter_map]
  refine congrArg _ (List.filter_congr fun e _ => ?_)
  rw [Bool.eq_iff_iff, decide_eq_true_iff, Function.comp, Bool.not_eq_true', List.any_eq_false]
  simp [IsExtra]

namespace Value

variable {entries : List (Scalar × Value)} {name : RecordName} {w : Value}

/-- What a record keeps besides its fields are the entries at no field, as they are. -/
lemma eq_extra_of_outcomes {extra : List (String × Value)}
    (h : (extraEntries name.fields (entries.map fun e => ⟨e.1, e.2, e.2.conform⟩)).map
      extraOutcome = extra.map .ok) :
    (entries.filter fun e => IsExtra name.fields entries e.1) = writtenEntries extra := by
  rw [extraEntries_map, List.map_map] at h
  generalize (entries.filter fun e => IsExtra name.fields entries e.1) = left at h
  induction left generalizing extra with
  | nil =>
    obtain rfl := List.map_eq_nil_iff.mp h.symm
    rfl
  | cons e left ih =>
    obtain ⟨x, extra, rfl, first, rest⟩ := List.map_eq_cons_iff.mp h.symm
    obtain ⟨key, v⟩ := e
    rw [writtenEntries, List.map_cons, ih rest.symm]
    unfold extraOutcome at first
    dsimp only [Function.comp] at first
    split at first
    case h_1 =>
      cases first
      rfl
    case h_2 => cases first

/-- A field's first key is at no extra entry. -/
lemma key_ne_of_isExtra {field : Field} (isField : field ∈ name.fields) {e : Scalar × Value}
    (mem : e ∈ entries) (extra : IsExtra name.fields entries e.1) : e.1 ≠ .text field.key := by
  intro same
  refine extra field.key (List.mem_filterMap.mpr ⟨field, isField, ?_⟩) same
  have some : (lookupText field.key entries).isSome :=
    isSome_lookupText_iff.mpr (same ▸ List.mem_map_of_mem mem)
  obtain ⟨v, here⟩ := Option.isSome_iff_exists.mp some
  rw [Field.found?, here]
  rfl

end Value

/-- What is found in front is found in the whole. -/
lemma lookupText_append_of_some {key : String} {es fs : List (Scalar × Value)} {v : Value}
    (here : lookupText key es = some v) : lookupText key (es ++ fs) = some v := by
  unfold lookupText at here ⊢
  induction es with
  | nil => cases here
  | cons e rest ih =>
    rw [List.cons_append, lookupEntry]
    rw [lookupEntry] at here
    split
    case isTrue same => rwa [if_pos same] at here
    case isFalse other => exact ih (by rwa [if_neg other] at here)

namespace Value

variable {entries after : List (Scalar × Value)} {name : RecordName} {v w : Value}

/-- A field is found at its first key if that is there. -/
lemma found?_of_key {field : Field} {u : Value} (here : lookupText field.key after = some u) :
    field.found? after = some (field.key, u) := by
  rw [Field.found?, here]

/-- The keys that are used are the first ones if all of them are there. -/
lemma usedKeys_eq (atKeys : ∀ f ∈ name.fields, lookupText f.key after = some (w.field f.key)) :
    usedKeys name.fields after = name.fields.map Field.key := by
  have used : name.fields.filterMap (fun f => (f.found? after).map Prod.fst) =
      name.fields.filterMap fun f => some f.key :=
    List.filterMap_congr fun f isField => by rw [found?_of_key (atKeys f isField)]; rfl
  rw [usedKeys, used, List.filterMap_eq_map']

/-- A record is built alike from entries that have what it was read as at the first keys of its
fields, and the same entries at no field if it keeps these. -/
lemma conform_record_again
    (written : ∀ e ∈ entries, ∀ kind u, e.2.conform kind = .ok u → u.conform kind = .ok u)
    (h : (Value.map entries).conform (.record name) = .ok w)
    (atKeys : ∀ f ∈ name.fields, lookupText f.key after = some (w.field f.key))
    (extras : name.keepsExtras = true →
      (after.filter fun e => IsExtra name.fields after e.1) =
        entries.filter fun e => IsExtra name.fields entries e.1) :
    (Value.map after).conform (.record name) = .ok w := by
  obtain ⟨own, extra, rfl, eqOwn, eqExtra⟩ := conform_record_parts h
  have fields : name.fields.map (Field.outcome (.map after)
      (after.map fun e => ⟨e.1, e.2, e.2.conform⟩)) = own.map .ok := by
    rw [← eqOwn]
    refine List.map_congr_left fun f isField => ?_
    have first := conform_record_ok h isField
    rw [first]
    exact Field.outcome_of_isResult
      (Field.isResult_of_outcome (name.hasFitDefault f isField) written first)
      (found?_of_key (atKeys f isField))
  -- What belonged to no field before belongs to none now.
  have kept : (if name.keepsExtras then
      (extraEntries name.fields (after.map fun e => ⟨e.1, e.2, e.2.conform⟩)).map extraOutcome
      else []) = extra.map .ok := by
    rw [← eqExtra]
    split
    case isTrue keeps => rw [extraEntries_map, extraEntries_map, extras keeps]
    case isFalse => rfl
  rw [conform_map, mapOutcome, recordOutcome]
  rw [fields, kept, ← List.map_append, gather_map_ok]
  rfl

/-- The written form of a record has each field at its first key. -/
lemma lookupText_written (h : (Value.map entries).conform (.record name) = .ok (.map after)) :
    ∀ f ∈ name.fields, lookupText f.key after = some ((Value.map after).field f.key) := by
  intro f isField
  obtain ⟨own, extra, eq, eqOwn, _⟩ := conform_record_parts h
  have mem : Except.ok (f.key, (Value.map after).field f.key) ∈
      own.map (Except.ok (ε := List Rejection)) := by
    rw [← eqOwn, ← conform_record_ok h isField]
    exact List.mem_map_of_mem isField
  obtain ⟨x, isOwn, same⟩ := List.mem_map.mp mem
  have some : (lookupText f.key after).isSome := by
    rw [isSome_lookupText_iff, Value.map.inj eq, List.map_map]
    refine List.mem_map.mpr ⟨x, List.mem_append_left _ isOwn, ?_⟩
    rw [Function.comp, Except.ok.inj same]
  obtain ⟨u, here⟩ := Option.isSome_iff_exists.mp some
  rw [here, field, here, Option.getD_some]

/-- The written form of a record keeps the entries at no field. -/
lemma extras_written (h : (Value.map entries).conform (.record name) = .ok (.map after))
    (keeps : name.keepsExtras = true) :
    (after.filter fun e => IsExtra name.fields after e.1) =
      entries.filter fun e => IsExtra name.fields entries e.1 := by
  have used := usedKeys_eq (lookupText_written h)
  obtain ⟨own, extra, eq, eqOwn, eqExtra⟩ := conform_record_parts h
  rw [if_pos keeps] at eqExtra
  have left := eq_extra_of_outcomes eqExtra
  have split : after = writtenEntries own ++ writtenEntries extra := by
    rw [Value.map.inj eq]
    exact List.map_append
  -- What a field writes is at a key of the field, and what is kept is at none.
  have noneOwn : (writtenEntries own).filter (fun e => IsExtra name.fields after e.1) = [] := by
    refine List.filter_eq_nil_iff.mpr fun e mem => ?_
    obtain ⟨x, isOwn, rfl⟩ := List.mem_map.mp mem
    have isOutcome : Except.ok x ∈ own.map (Except.ok (ε := List Rejection)) :=
      List.mem_map_of_mem isOwn
    rw [← eqOwn] at isOutcome
    obtain ⟨f, isField, outcome⟩ := List.mem_map.mp isOutcome
    rw [decide_eq_true_iff, IsExtra, used]
    intro extra
    exact extra f.key (List.mem_map_of_mem isField) (congrArg _ (Field.key_outcome outcome))
  have allExtra : (writtenEntries extra).filter (fun e => IsExtra name.fields after e.1) =
      writtenEntries extra := by
    refine List.filter_eq_self.mpr fun e mem => ?_
    rw [← left] at mem
    obtain ⟨isEntry, isExtra⟩ := List.mem_filter.mp mem
    rw [decide_eq_true_iff, IsExtra, used]
    intro key isKey
    obtain ⟨f, isField, rfl⟩ := List.mem_map.mp isKey
    exact key_ne_of_isExtra isField isEntry (of_decide_eq_true isExtra)
  rw [left, split, List.filter_append, ← split, noneOwn, allExtra, List.nil_append]

/-- Read as anything, a value is itself. -/
lemma conform_any (v : Value) : v.conform .any = .ok v := by
  cases v <;> rfl

/-- What is refused as another kind is not refused only where anything is accepted. -/
lemma Kind.eq_of_refuse_eq_ok {kind : Kind} (h : kind.refuse v = .ok w) : kind = .any ∧ w = v := by
  cases kind with
  | any => exact ⟨rfl, (Except.ok.inj h).symm⟩
  | _ => cases h

/-- A value that is taken as it is is taken so again. -/
lemma conform_of_refuse {kind : Kind} (h : kind.refuse v = .ok w) : w.conform kind = .ok w := by
  obtain ⟨rfl, rfl⟩ := Kind.eq_of_refuse_eq_ok h
  exact conform_any w

/-- A list of items that are read as themselves is read as itself. -/
lemma conform_listOutcome {kind : Kind} {os : List Outcome} (h : listOutcome os = .ok w)
    (items : ∀ u, .ok u ∈ os → u.conform kind = .ok u) : w.conform (.list kind) = .ok w := by
  obtain ⟨ws, rfl, rfl⟩ := listOutcome_eq_ok h
  have same : (ws.map fun u => u.conform kind) = ws.map .ok :=
    List.map_congr_left fun u mem => items u (List.mem_map_of_mem mem)
  rw [conform_list, same, listOutcome_map_ok]

/-- An entry of a table is read if its key is a text and its value is read. -/
lemma tableEntry_eq_ok {kind : Kind} {key : Scalar} {e : Scalar × Value}
    (h : tableEntry kind ⟨key, v, v.conform⟩ = .ok e) :
    (∃ text, e.1 = .text text) ∧ v.conform kind = .ok e.2 := by
  unfold tableEntry tableKey at h
  dsimp only at h
  cases name : key.toText with
  | error cause =>
    rw [name] at h
    cases outcome : v.conform kind <;> rw [outcome] at h <;> cases h
  | ok text =>
    rw [name] at h
    cases outcome : v.conform kind with
    | error rs =>
      rw [outcome] at h
      cases h
    | ok u =>
      rw [outcome] at h
      cases h
      exact ⟨⟨text, rfl⟩, rfl⟩

/-- A table of values that are read as themselves is read as itself. -/
lemma conform_table_again {kind : Kind}
    (written : ∀ e ∈ entries, ∀ kind u, e.2.conform kind = .ok u → u.conform kind = .ok u)
    (h : (Value.map entries).conform (.table kind) = .ok w) :
    w.conform (.table kind) = .ok w := by
  rw [conform_map, mapOutcome, tableOutcome, map_eq_ok_iff] at h
  obtain ⟨es, gathered, rfl⟩ := h
  have parts : ∀ e ∈ es, (∃ text, e.1 = .text text) ∧ e.2.conform kind = .ok e.2 := by
    intro e mem
    have isOutcome : Except.ok e ∈ es.map (Except.ok (ε := List Rejection)) :=
      List.mem_map_of_mem mem
    rw [← gather_eq_ok gathered, List.map_map] at isOutcome
    obtain ⟨entry, isEntry, eq⟩ := List.mem_map.mp isOutcome
    obtain ⟨text, conforms⟩ := tableEntry_eq_ok eq
    exact ⟨text, written entry isEntry _ _ conforms⟩
  obtain ⟨keyed, origin⟩ := textKeyed_distinctEntries fun e mem => (parts e mem).1
  have again : ((distinctEntries es).map fun e => (⟨e.1, e.2, e.2.conform⟩ : PendingEntry)).map
      (tableEntry kind) = (distinctEntries es).map .ok := by
    rw [List.map_map]
    refine List.map_congr_left fun e mem => ?_
    obtain ⟨key, u⟩ := e
    obtain ⟨⟨text, rfl⟩, conforms⟩ := parts _ (origin _ mem)
    change both (.ok (Scalar.text text)) (Outcome.below _ (u.conform kind)) =
      .ok (Scalar.text text, u)
    rw [conforms]
    rfl
  rw [conform_map, mapOutcome, tableOutcome, again, gather_map_ok]
  exact congrArg (fun es => Except.ok (Value.map es)) keyed.distinctEntries_eq

/-- What reads as a list is read as a list in written form, if its items are. -/
lemma ReadsAsList.conform_written {outcomes : Kind → List Outcome} {kind : Kind}
    (h : v.ReadsAsList outcomes) (items : ∀ item u, .ok u ∈ outcomes item → u.conform item = .ok u)
    (conforms : v.conform kind = .ok w) : w.conform kind = .ok w := by
  obtain ⟨item, rfl⟩ | other := kind.list_or_not
  · rw [h.conform_list] at conforms
    exact conform_listOutcome conforms (items item)
  · rw [h.conform_other other] at conforms
    exact conform_of_refuse conforms

/-- What a scalar is read as is in written form. -/
lemma conform_of_conformScalar {kind : Kind} {s : Scalar} (h : conformScalar kind s = .ok w) :
    w.conform kind = .ok w := by
  obtain ⟨t, isKind, rfl⟩ := conformScalar_eq_ok_iff.mp h
  exact conformScalar_eq_ok_iff.mpr ⟨t, Scalar.toKind_written isKind, rfl⟩

/-- What a value is read as is read as itself. -/
lemma conform_written (v : Value) : ∀ kind w, v.conform kind = .ok w → w.conform kind = .ok w := by
  induction v using Value.induction with
  | scalar s => exact fun kind w h => conform_of_conformScalar h
  | list items ih =>
    intro kind w h
    refine (readsAsList_list items).conform_written (fun item u mem => ?_) h
    obtain ⟨v, isItem, conforms⟩ := List.mem_map.mp mem
    exact ih v isItem item u conforms
  | map entries ih =>
    intro kind w h
    have outcome := h
    rw [conform_map] at outcome
    unfold mapOutcome at outcome
    split at outcome
    case h_1 item => exact conform_table_again ih h
    case h_2 name =>
      obtain ⟨own, extra, rfl, _⟩ := conform_record_parts h
      exact conform_record_again ih h (lookupText_written h) (extras_written h)
    case h_3 => exact conform_of_refuse outcome
  | set members =>
    intro kind w h
    refine (readsAsList_set members).conform_written (fun item u mem => ?_) h
    obtain ⟨s, _, conforms⟩ := List.mem_map.mp mem
    exact conform_of_conformScalar conforms
  | pair a b iha ihb =>
    intro kind w h
    refine (readsAsList_pair a b).conform_written (fun item u mem => ?_) h
    rcases List.mem_pair.mp mem with first | second
    · exact iha item u first.symm
    · exact ihb item u second.symm

end Value

/-! ## Dumps -/

/-- A record as it is dumped: a report also says whether it has no faults. No record has a report
in it. -/
def RecordName.dump (name : RecordName) (w : Value) : Value :=
  match name, w with
  | .report, .map entries =>
    .map (entries ++ [(.text "isValid", .bool (w.field "errors").items.isEmpty)])
  | _, w => w

/-- The entries that a record keeps besides its fields. -/
def RecordName.keptEntries (name : RecordName) (entries : List (Scalar × Value)) :
    List (Scalar × Value) :=
  if name.keepsExtras then entries.filter fun e => IsExtra name.fields entries e.1 else []

namespace Value

variable {entries : List (Scalar × Value)} {name : RecordName} {v w : Value}

/-- A record has all its fields, in order and at their first keys, and then the entries that it
keeps. -/
lemma eq_of_conform_record (h : (Value.map entries).conform (.record name) = .ok w) :
    w = .map (name.fields.map (fun f => (.text f.key, w.field f.key)) ++
      name.keptEntries entries) := by
  have outcomes := fun (f : Field) (isField : f ∈ name.fields) => conform_record_ok h isField
  obtain ⟨own, extra, eq, eqOwn, eqExtra⟩ := conform_record_parts h
  have own_eq : own = name.fields.map fun f => (f.key, w.field f.key) := by
    refine List.map_injective_iff.mpr (fun _ _ => Except.ok.inj) (eqOwn.symm.trans ?_)
    rw [List.map_map]
    exact List.map_congr_left outcomes
  have extra_eq : name.keptEntries entries = writtenEntries extra := by
    unfold RecordName.keptEntries
    split at eqExtra
    case isTrue keeps => rw [if_pos keeps, eq_extra_of_outcomes eqExtra]
    case isFalse drops =>
      rw [if_neg drops, List.map_eq_nil_iff.mp eqExtra.symm]
      rfl
  rw [extra_eq]
  conv_lhs => rw [eq, object, List.map_append, own_eq, List.map_map]
  rfl

/-- What a record is dumped as is read as the record. -/
lemma conform_dump (h : (Value.map entries).conform (.record name) = .ok w) :
    (name.dump w).conform (.record name) = .ok w := by
  unfold RecordName.dump
  split
  case h_1 es =>
    refine conform_record_again (fun e _ => conform_written e.2) h (fun f isField => ?_) nofun
    exact lookupText_append_of_some (lookupText_written h f isField)
  case h_2 => exact conform_written _ _ _ h

/-- Building records is a projection: what is accepted as a record is built with all its fields,
under their first keys, and with the entries at no field where it keeps these, the one under the
key that is not looked at among them; and what is dumped of it is built to the same again, however
its values were given. -/
theorem conform_record_dump (built : v.conform (.record name) = .ok w) :
    (∃ entries, v = .map entries ∧
      w = .map (name.fields.map (fun f => (.text f.key, w.field f.key)) ++
        name.keptEntries entries)) ∧
    (name.dump w).conform (.record name) = .ok w := by
  obtain ⟨entries, rfl⟩ := exists_of_conform_record built
  exact ⟨⟨entries, rfl, eq_of_conform_record built⟩, conform_dump built⟩

/-- A document with both keys of a field, values under second keys, and values of other kinds. -/
def bothSpellings : Value :=
  .object
    [("base_url", .text "https://b.example"), ("baseURL", .text "https://a.example"),
     ("timeout", .text "30"), ("global_headers", .object []),
     ("endpoints", .list [.object
        [("deprecated", .text "yes"), ("x", .null),
         ("parameters", .list [.object [("location", .text "query"), ("minimum", .text "nan")]]),
         ("responses", .list [.object [("status_code", .text "204"), ("schema_", .object [])]])]])]

/-- The key that is not looked at is kept, and does not win when the document is built again. -/
theorem conform_record_dump_bothSpellings : ∃ w,
    bothSpellings.conform (.record .document) = .ok w ∧
      w.field "baseURL" = .text "https://a.example" ∧ w.field "timeout" = .int 30 ∧
      w.field "base_url" = .text "https://b.example" ∧
      (RecordName.document.dump w).conform (.record .document) = .ok w :=
  ⟨_, rfl, rfl, rfl, rfl, (conform_record_dump (v := bothSpellings) rfl).2⟩

end Value

end ClientSynth
