import Mathlib.Data.List.Basic
import ClientSynth.Proofs.Encoding
import ClientSynth.Proofs.ReadBack
import ClientSynth.Proofs.StatusCodes
import ClientSynth.Workspace.Settings

/-!
# Records of settings

Each setting has a default and stands at one key, so that a mapping holds settings exactly when
what it says at each of them, or else the default, is of the setting's kind
(`Settings.ofValue_eq_ok_iff`). What is refused in a mapping is refused there
(`Settings.rejectionsOf_ofValue`). The user's file adds a record around the settings.

A setting has one key and a default of its kind (`Field.IsSetting`), which makes reading one field
independent of all others: what is at its key, or its default, is of its kind or not. Reading a
record of settings is then the conjunction of these, field by field.
-/

namespace ClientSynth

namespace Field

variable {field : Field} {entries : List (Scalar × Value)}

/-- What a mapping says at a field, or what stands for the field. -/
def valueIn (field : Field) (entries : List (Scalar × Value)) : Value :=
  (lookupText field.key entries).getD (field.default.getD .null)

/-- A field under one key that has a default of its kind. -/
structure IsSetting (field : Field) : Prop where
  key : field.otherKey = field.key
  present : field.nullable = false
  default : ∃ v, field.default = some v ∧ v.conform field.kind = .ok v

/-- The outcome of a setting is that of what is said at it. -/
lemma IsSetting.outcome_eq (h : field.IsSetting) (whole : Value) :
    field.outcome whole (entries.map fun e => ⟨e.1, e.2, e.2.conform⟩) =
      (Outcome.below (.key field.key) ((field.valueIn entries).conform field.kind)).map
        fun v => (field.key, v) := by
  obtain ⟨key, present, v, default, conforms⟩ := h
  unfold outcome valueIn
  rw [find?_map, found?, key]
  cases lookupText field.key entries with
  | some v => simp only [Option.map_some, present, Option.getD_some]
  | none =>
    simp only [Option.map_none, default, Option.getD_none, Option.getD_some, conforms]
    rfl

end Field

namespace RecordName

/-- What is true of each of the settings is true of all of them. -/
lemma forall_settingsFields {P : Field → Prop} (clientName : P settingsFields[0])
    (clientImport : P settingsFields[1]) (factoryImport : P settingsFields[2])
    (library : P settingsFields[3]) (types : P settingsFields[4]) (hooks : P settingsFields[5]) :
    ∀ f ∈ settingsFields, P f := by
  simp only [settingsFields, List.forall_mem_cons]
  exact ⟨clientName, clientImport, factoryImport, library, types, hooks, List.forall_mem_nil _⟩

/-- The fields of settings are settings. -/
lemma isSetting_settings : ∀ field ∈ settings.fields, field.IsSetting :=
  forall_settingsFields ⟨rfl, rfl, _, rfl, rfl⟩ ⟨rfl, rfl, _, rfl, rfl⟩ ⟨rfl, rfl, _, rfl, rfl⟩
    ⟨rfl, rfl, _, rfl, rfl⟩ ⟨rfl, rfl, _, rfl, rfl⟩ ⟨rfl, rfl, _, rfl, rfl⟩

/-- The fields of the user's file are settings. -/
lemma isSetting_userSettings : ∀ field ∈ userSettings.fields, field.IsSetting :=
  List.forall_mem_singleton.mpr ⟨rfl, rfl, _, rfl, rfl⟩

end RecordName

namespace Value

variable {entries : List (Scalar × Value)} {name : RecordName} {field : Field} {v w : Value}

/-- The outcome of a record that keeps nothing but its fields. -/
lemma conform_closedRecord (closed : name.keepsExtras = false) :
    (Value.map entries).conform (.record name) =
      (gather (name.fields.map fun field => field.outcome (.map entries)
        (entries.map fun e => ⟨e.1, e.2, e.2.conform⟩))).map .object := by
  rw [conform_map, mapOutcome, recordOutcome]
  simp only [closed, Bool.false_eq_true, if_false, List.append_nil]

/-- A record of settings has the written form of what is said at each of them. -/
lemma conform_settings (value : String → Value) (closed : name.keepsExtras = false)
    (settings : ∀ field ∈ name.fields, field.IsSetting)
    (h : ∀ field ∈ name.fields,
      (field.valueIn entries).conform field.kind = .ok (value field.key)) :
    (Value.map entries).conform (.record name) =
      .ok (.object (name.fields.map fun field => (field.key, value field.key))) := by
  have outcomes : name.fields.map (fun field => field.outcome (.map entries)
        (entries.map fun e => ⟨e.1, e.2, e.2.conform⟩)) =
      (name.fields.map fun field => (field.key, value field.key)).map .ok := by
    rw [List.map_map]
    refine List.map_congr_left fun field mem => ?_
    rw [(settings field mem).outcome_eq, h field mem]
    rfl
  rw [conform_closedRecord closed, outcomes, gather_map_ok]
  rfl

/-- What is read of a setting is what its field is given. -/
lemma conform_setting_ok (h : (Value.map entries).conform (.record name) = .ok w)
    (setting : field.IsSetting) (mem : field ∈ name.fields) :
    (field.valueIn entries).conform field.kind = .ok (w.field field.key) := by
  have outcome := conform_record_ok h mem
  rw [setting.outcome_eq] at outcome
  obtain ⟨v, conforms, eq⟩ := map_eq_ok_iff.mp outcome
  rw [← (Prod.mk.inj eq).2]
  exact below_eq_ok_iff.mp conforms

/-- What is rejected in a record of settings is rejected at its settings. -/
lemma rejectionsOf_settings (closed : name.keepsExtras = false)
    (settings : ∀ field ∈ name.fields, field.IsSetting) :
    rejectionsOf ((Value.map entries).conform (.record name)) =
      name.fields.flatMap fun field =>
        (rejectionsOf ((field.valueIn entries).conform field.kind)).map
          (Rejection.below (.key field.key)) := by
  rw [conform_closedRecord closed, rejectionsOf_map, rejectionsOf_gather, List.flatMap_map]
  refine List.flatMap_congr fun field mem => ?_
  rw [(settings field mem).outcome_eq, rejectionsOf_map, rejectionsOf_below]

/-- Only a scalar is read as a text or a flag. -/
lemma exists_of_conform_scalar {kind : Kind} (isScalar : kind = .text ∨ kind = .flag)
    (h : v.conform kind = .ok w) :
    ∃ s s', v = .scalar s ∧ s.toKind kind = .ok s' ∧ w = .scalar s' := by
  cases v with
  | scalar s =>
    rw [conform, conformScalar] at h
    split at h
    case h_1 s' eq => exact ⟨s, s', rfl, eq, (Except.ok.inj h).symm⟩
    case h_2 => cases h
  | map entries => rcases isScalar with rfl | rfl <;> cases h
  | list items => rcases isScalar with rfl | rfl <;> cases h
  | set members => rcases isScalar with rfl | rfl <;> cases h
  | pair a b => rcases isScalar with rfl | rfl <;> cases h

/-- The written form of a text is a text. -/
lemma text_of_conform (h : v.conform .text = .ok w) : Value.text (w.text?.getD "") = w := by
  obtain ⟨s, s', _, eq, rfl⟩ := exists_of_conform_scalar (.inl rfl) h
  rw [Scalar.toKind] at eq
  cases read : s.toText with
  | ok text =>
    rw [read] at eq
    cases eq
    rfl
  | error cause =>
    rw [read] at eq
    cases eq

/-- The written form of a flag is a flag. -/
lemma flag_of_conform (h : v.conform .flag = .ok w) : Value.bool w.isTrue = w := by
  obtain ⟨s, s', _, eq, rfl⟩ := exists_of_conform_scalar (.inr rfl) h
  rw [Scalar.toKind] at eq
  cases read : s.toFlag with
  | ok flag =>
    rw [read] at eq
    cases eq
    rfl
  | error cause =>
    rw [read] at eq
    cases eq

end Value

namespace Workspace

variable {v : Value}

/-- What bytes hold in JSON is a JSON value. -/
lemma isJson_of_jsonOfBytes {bytes : List UInt8} {v : Value}
    (h : jsonOfBytes bytes = .ok v) : v.IsJson := by
  unfold jsonOfBytes at h
  cases decoded : decodeText bytes with
  | error fault =>
    rw [decoded] at h
    cases h
  | ok text =>
    rw [decoded] at h
    change (Json.parse text).mapError FileProblem.json = .ok v at h
    cases parsed : Json.parse text with
    | error fault =>
      rw [parsed] at h
      cases h
    | ok v' =>
      rw [parsed] at h
      cases h
      exact Json.isJson_of_parse parsed

/-- The bytes of a value that is written on lines hold it. -/
lemma jsonOfBytes_encode (exact : v.IsExact) (style : Json.Style) :
    jsonOfBytes (Utf8.encode (Json.render style v ++ "\n")) = .ok v := by
  have isGap : Json.IsGap "\n".toList := by simp [Json.IsGap]
  have noReturn : '\r' ∉ (Json.render style v ++ "\n").toList := by
    rw [String.toList_append, List.mem_append, not_or]
    exact ⟨Json.return_not_mem_render exact, isGap.return_not_mem⟩
  have decoded : decodeText (Utf8.encode (Json.render style v ++ "\n")) =
      .ok (Json.render style v ++ "\n") := by
    rw [decodeText, Utf8.decode_eq_ok.mpr (congrArg Utf8.encode String.ofList_toList)]
    change Except.ok (String.ofList (Text.lineFeeds _)) = _
    rw [Text.lineFeeds_eq_self noReturn, String.ofList_toList]
  unfold jsonOfBytes
  rw [decoded]
  change (Json.parse _).mapError _ = _
  rw [Json.parse_render exact isGap]
  rfl

end Workspace

namespace Settings

variable {entries : List (Scalar × Value)} {s : Settings} {v : Value}

/-- What settings have at their fields is of the fields' kinds. -/
lemma conform_value (s : Settings) : ∀ f ∈ RecordName.settingsFields,
    (s.value.field f.key).conform f.kind = .ok (s.value.field f.key) :=
  RecordName.forall_settingsFields rfl rfl rfl rfl rfl rfl

/-- Settings are read from a record in written form as they stand there. -/
lemma field_value_read {w : Value} (h : ∀ f ∈ RecordName.settingsFields, ∃ v : Value,
    v.conform f.kind = .ok (w.field f.key)) :
    ∀ f ∈ RecordName.settingsFields, (read w).value.field f.key = w.field f.key := by
  simp only [RecordName.settingsFields, List.forall_mem_cons] at h
  obtain ⟨⟨_, h₁⟩, ⟨_, h₂⟩, ⟨_, h₃⟩, ⟨_, h₄⟩, ⟨_, h₅⟩, ⟨_, h₆⟩, -⟩ := h
  exact RecordName.forall_settingsFields (Value.text_of_conform h₁) (Value.text_of_conform h₂)
    (Value.text_of_conform h₃) (Value.text_of_conform h₄) (Value.flag_of_conform h₅)
    (Value.flag_of_conform h₆)

/-- A mapping holds settings exactly when what it says at each of them is of its kind. -/
lemma ofValue_eq_ok_iff :
    ofValue (.map entries) = .ok s ↔ ∀ f ∈ RecordName.settingsFields,
      (f.valueIn entries).conform f.kind = .ok (s.value.field f.key) := by
  have settings := RecordName.isSetting_settings
  rw [ofValue, map_eq_ok_iff]
  constructor
  · rintro ⟨w, conforms, rfl⟩ f mem
    have each := fun f mem => Value.conform_setting_ok conforms (settings f mem) mem
    rw [field_value_read (fun f mem => ⟨_, each f mem⟩) f mem]
    exact each f mem
  · intro conforms
    exact ⟨s.value, Value.conform_settings s.value.field rfl settings conforms, rfl⟩

/-- What is rejected in a mapping that holds no settings is rejected at them. -/
lemma rejectionsOf_ofValue :
    rejectionsOf (ofValue (.map entries)) = RecordName.settingsFields.flatMap fun f =>
      (rejectionsOf ((f.valueIn entries).conform f.kind)).map (Rejection.below (.key f.key)) := by
  rw [ofValue, rejectionsOf_map]
  exact Value.rejectionsOf_settings rfl RecordName.isSetting_settings

/-! ## The user's settings -/

/-- What the user's file says of the settings. -/
def sectionOf (v : Value) : List (Scalar × Value) :=
  match v.field "generator" with
  | .map entries => entries
  | _ => []

/-- The user's file holds the settings that stand in its section. -/
lemma ofValue_sectionOf (h : ofUserValue v = .ok s) : ofValue (.map (sectionOf v)) = .ok s := by
  obtain ⟨w, conforms, rfl⟩ := map_eq_ok_iff.mp h
  obtain ⟨entries, rfl⟩ := Value.exists_of_conform_record conforms
  have setting := RecordName.isSetting_userSettings _ List.mem_cons_self
  have inner := Value.conform_setting_ok conforms setting List.mem_cons_self
  dsimp only [Field.withDefault, Field.valueIn] at inner
  have here : (Value.map entries).field "generator" =
      (lookupText "generator" entries).getD .null := rfl
  unfold sectionOf
  cases found : lookupText "generator" entries with
  | none =>
    rw [found] at inner here
    rw [here, ← Except.ok.inj inner]
    rfl
  | some sv =>
    rw [found] at inner here
    obtain ⟨own, rfl⟩ := Value.exists_of_conform_record inner
    rw [here]
    exact map_eq_ok_iff.mpr ⟨_, inner, rfl⟩

/-- Settings in written form are what they hold. -/
lemma conform_record_value (s : Settings) : s.value.conform (.record .settings) = .ok s.value :=
  Value.conform_settings s.value.field rfl RecordName.isSetting_settings
    (RecordName.forall_settingsFields rfl rfl rfl rfl rfl rfl)

/-- Settings as the user's file holds them are read as they are. -/
lemma ofUserValue_userValue (s : Settings) : ofUserValue s.userValue = .ok s := by
  have conforms : s.userValue.conform (.record .userSettings) = .ok s.userValue :=
    Value.conform_settings (fun _ => s.value) rfl RecordName.isSetting_userSettings
      (List.forall_mem_singleton.mpr s.conform_record_value)
  exact map_eq_ok_iff.mpr ⟨_, conforms, rfl⟩

end Settings

end ClientSynth
