import ClientSynth.Proofs.Directories
import ClientSynth.Proofs.SettingsRecord

/-!
# Precedence of settings

Each setting has the value that the first of five sources gives it: what a command asks for, the
variables of the environment, the project's file, the user's file, and the default. Sources later in
this order do not matter for it, even where what they say is of the wrong kind
(`Settings.resolve_iff`).

All sources are brought to the same form, entries keyed by the names of settings, and `Sets` says
which settings a source has a value for. To resolve is to put these entries over those of the
default, first source last, so a setting has what its first source says (`Settings.resolve_iff`),
and what later sources say about it is never read.
-/

namespace ClientSynth

namespace Settings

variable {entries later own said : List (Scalar × Value)} {name : String} {w : Workspace}
  {r : Request}

/-- Later entries hide the ones before them. -/
lemma lookupText_overlay (keyed : TextKeyed later) :
    lookupText name (overlay entries later) =
      (lookupText name later).or (lookupText name entries) := by
  unfold overlay lookupText
  induction keyed generalizing entries with
  | nil => rfl
  | @cons key v rest fresh _ ih =>
    rw [List.foldl_cons, ih]
    by_cases same : key = name
    · subst same
      rw [lookupEntry_eq_none fresh, lookupEntry_insert_self, lookupEntry_cons_self]
      rfl
    · have ne : Scalar.text key ≠ .text name := fun eq => same (Scalar.text.inj eq)
      rw [lookupEntry_insert_ne (Ne.symm same), lookupEntry_cons_ne ne]

/-! ## The sources -/

/-- What a request sets at a key. -/
def setByRequest (r : Request) (key : String) : Option Value :=
  match key with
  | "client_name" => r.clientName.map .text
  | "include_types" => if r.withoutTypes then some (.bool false) else none
  | "include_hooks" => if r.withoutHooks then some (.bool false) else none
  | _ => none

/-- Whether the text of a variable says yes. -/
def saysYes (word : String) : Bool :=
  ["1", "true", "yes"].contains (String.ofList (Text.lower (Text.trim Text.isSpace word.toList)))

/-- What the variables of the environment set at a key. -/
def setByVariables (w : Workspace) (key : String) : Option Value :=
  match key with
  | "client_name" => ((w.valueOf? "APIDOCGEN_CLIENT_NAME").filter (· ≠ "")).map .text
  | "include_hooks" =>
    if (w.valueOf? "APIDOCGEN_NO_HOOKS").any saysYes then some (.bool false) else none
  | _ => none

/-- What the project's file sets: it is absent, or an object whose section is absent, null or an
object. -/
inductive ProjectSets (w : Workspace) : List (Scalar × Value) → Prop where
  | absent : w.read? w.projectPath = .ok none → ProjectSets w []
  | unset {bytes entries} : w.read? w.projectPath = .ok (some bytes) →
    Workspace.jsonOfBytes bytes = .ok (.map entries) →
    (Value.map entries).field "generator" = .null → ProjectSets w []
  | holds {bytes entries own} : w.read? w.projectPath = .ok (some bytes) →
    Workspace.jsonOfBytes bytes = .ok (.map entries) →
    (Value.map entries).field "generator" = .map own → ProjectSets w own

/-- What the user's file sets: it is absent, or holds settings. -/
inductive UserSets (w : Workspace) : List (Scalar × Value) → Prop where
  | absent {path} : w.settingsPath = .ok path → w.read? path = .ok none → UserSets w []
  | holds {path bytes v s} : w.settingsPath = .ok path → w.read? path = .ok (some bytes) →
    Workspace.jsonOfBytes bytes = .ok v → ofUserValue v = .ok s → UserSets w (sectionOf v)

/-- The value of a setting: that of the first source that sets it. -/
def chosen (w : Workspace) (r : Request) (own said : List (Scalar × Value)) (f : Field) : Value :=
  (((setByRequest r f.key).or ((setByVariables w f.key).or ((lookupText f.key own).or
    ((lookupText f.key said).or f.default))))).getD .null

/-! ## What is found in them -/

/-- Members as entries. -/
abbrev textEntries (members : List (String × Value)) : List (Scalar × Value) :=
  members.map fun e => (.text e.1, e.2)

/-- Members that set some fields are looked up at them. -/
structure Sets (members : List (String × Value)) (set : String → Option Value) : Prop where
  keyed : TextKeyed (textEntries members)
  lookup : ∀ f ∈ RecordName.settingsFields, lookupText f.key (textEntries members) = set f.key

/-- What a command asks for, as entries. -/
lemma sets_request (r : Request) : Sets r.entries (setByRequest r) := by
  obtain ⟨name, hooks, types⟩ := r
  constructor
  · refine textKeyed_of_nodup ?_
    cases name <;> cases hooks <;> cases types <;> simp [Request.entries]
  · cases name <;> cases hooks <;> cases types <;>
      exact RecordName.forall_settingsFields rfl rfl rfl rfl rfl rfl

/-- What the environment says: a name for the client and whether hooks are left out. -/
lemma ofVariables_eq (w : Workspace) :
    ofVariables w =
      ((w.valueOf? "APIDOCGEN_CLIENT_NAME").filter (· ≠ "")).elim []
          (fun name => [("client_name", .text name)]) ++
        if (w.valueOf? "APIDOCGEN_NO_HOOKS").any saysYes then [("include_hooks", .bool false)]
        else [] := by
  have word : (w.valueOf? "APIDOCGEN_NO_HOOKS").any saysYes =
      saysYes ((w.valueOf? "APIDOCGEN_NO_HOOKS").getD "") := by
    cases w.valueOf? "APIDOCGEN_NO_HOOKS" with
    | none => exact (by decide +kernel : false = saysYes "")
    | some _ => rw [Option.any_some, Option.getD_some]
  unfold ofVariables
  rw [word]
  congr 1
  split
  case h_1 none => rw [none]; rfl
  case h_2 empty => rw [empty]; rfl
  case h_3 name ne given =>
    have kept : (some name).filter (· ≠ "") = some name := by simpa [Option.filter] using ne
    rw [given, kept]
    rfl

/-- The variables of the environment set what they are documented to set. -/
lemma sets_variables (w : Workspace) : Sets (ofVariables w) (setByVariables w) := by
  constructor
  · refine textKeyed_of_nodup ?_
    rw [ofVariables_eq]
    cases (w.valueOf? "APIDOCGEN_CLIENT_NAME").filter (· ≠ "") <;>
      cases (w.valueOf? "APIDOCGEN_NO_HOOKS").any saysYes <;> simp
  · rw [ofVariables_eq]
    unfold setByVariables
    cases (w.valueOf? "APIDOCGEN_CLIENT_NAME").filter (· ≠ "") <;>
      cases (w.valueOf? "APIDOCGEN_NO_HOOKS").any saysYes <;>
      exact RecordName.forall_settingsFields rfl rfl rfl rfl rfl rfl

/-- The user's settings are those of the file where it has some, and the default elsewhere. -/
lemma loadUser_of_sets (h : UserSets w said) : ∃ s, loadUser w = .ok s ∧
    ∀ f ∈ RecordName.settingsFields,
      (f.valueIn said).conform f.kind = .ok (s.value.field f.key) := by
  cases h with
  | @absent path found none =>
    refine ⟨default, ?_, ?_⟩
    · unfold loadUser
      rw [found]
      change Except.bind ((w.read? path).mapError _) _ = _
      rw [none]
      rfl
    · exact RecordName.forall_settingsFields rfl rfl rfl rfl rfl rfl
  | @holds path bytes v s found file json held =>
    refine ⟨s, ?_, ofValue_eq_ok_iff.mp (ofValue_sectionOf held)⟩
    unfold loadUser
    rw [found]
    change Except.bind ((w.read? path).mapError _) _ = _
    rw [file]
    change ((Except.bind (Workspace.jsonOfBytes bytes) _).mapError _) = _
    rw [json]
    change (((ofUserValue v).mapError FileProblem.rejected).mapError _) = _
    rw [held]
    rfl

/-- A project's file that holds an object is read as its entries. -/
lemma loadProject_of_object {bytes : List UInt8} {entries : List (Scalar × Value)}
    (file : w.read? w.projectPath = .ok (some bytes))
    (json : Workspace.jsonOfBytes bytes = .ok (.map entries)) :
    loadProject w = .ok (some entries) := by
  unfold loadProject
  rw [file]
  change ((Except.bind (Workspace.jsonOfBytes bytes) _).map some).mapError _ = _
  rw [json]
  rfl

/-- What a mapping says at a key, unless it is null, is the value of an entry. -/
lemma lookupText_of_field {entries : List (Scalar × Value)} {key : String} {v : Value}
    (here : (Value.map entries).field key = v) (given : v ≠ .null) :
    lookupText key entries = some v := by
  change (lookupText key entries).getD .null = v at here
  cases found : lookupText key entries with
  | none =>
    rw [found] at here
    exact absurd here.symm given
  | some value =>
    rw [found] at here
    exact congrArg some here

/-- What a project sets is the section of its file. -/
lemma projectSection_of_sets (h : ProjectSets w own) : ∃ project, loadProject w = .ok project ∧
    (project.map projectSection).getD (.ok []) = .ok own ∧ TextKeyed own := by
  cases h with
  | absent none =>
    refine ⟨.none, ?_, rfl, .nil⟩
    unfold loadProject
    rw [none]
    rfl
  | @unset bytes entries file json null =>
    refine ⟨some entries, loadProject_of_object file json, ?_, .nil⟩
    change projectSection entries = _
    unfold projectSection
    change (lookupText "generator" entries).getD .null = .null at null
    cases found : lookupText "generator" entries with
    | none => rfl
    | some v =>
      rw [found] at null
      cases null
      rfl
  | @holds bytes entries own file json here =>
    have found : lookupText "generator" entries = some (.map own) := lookupText_of_field here nofun
    refine ⟨some entries, loadProject_of_object file json, ?_, ?_⟩
    · change projectSection entries = _
      rw [projectSection, found]
    · -- The section is a part of a JSON value, and so its keys are texts.
      cases Workspace.isJson_of_jsonOfBytes json with
      | map _ parts =>
        cases parts _ (mem_of_lookupEntry found) with
        | map keyed _ => exact keyed

/-! ## The settings -/

/-- The entries of settings as a record. -/
def recordEntries (s : Settings) : List (Scalar × Value) :=
  match s.value with
  | .map entries => entries
  | _ => []

/-- A setting is found under its name among the entries of all settings. -/
lemma lookup_recordEntries (s : Settings) : ∀ f ∈ RecordName.settingsFields,
    lookupText f.key s.recordEntries = some (s.value.field f.key) := by
  exact RecordName.forall_settingsFields rfl rfl rfl rfl rfl rfl

/-- The sources are put together to a mapping that says of each setting what is chosen for it. -/
lemma exists_merged (user : UserSets w said) (project : ProjectSets w own) :
    ∃ merged, resolve w r = (ofValue (.map merged)).mapError .rejected ∧
      ∀ f ∈ RecordName.settingsFields,
        (f.valueIn merged).conform f.kind = (chosen w r own said f).conform f.kind := by
  obtain ⟨s, loaded, settled⟩ := loadUser_of_sets user
  obtain ⟨project, loadedProject, sets, keyed⟩ := projectSection_of_sets project
  refine ⟨overlay (overlay (overlay s.recordEntries own) (textEntries (ofVariables w)))
    (textEntries r.entries), ?_, fun f mem => ?_⟩
  · unfold resolve
    rw [loaded, loadedProject]
    change Except.bind ((project.map projectSection).getD (.ok [])) _ = _
    rw [sets]
    rfl
  · unfold Field.valueIn chosen
    rw [lookupText_overlay (sets_request r).keyed, lookupText_overlay (sets_variables w).keyed,
      lookupText_overlay keyed, s.lookup_recordEntries f mem, (sets_request r).lookup f mem,
      (sets_variables w).lookup f mem]
    -- Above the user's file the sources are the same; what it says has its written form.
    cases setByRequest r f.key with
    | some v => rfl
    | none =>
      cases setByVariables w f.key with
      | some v => rfl
      | none =>
        cases lookupText f.key own with
        | some v => rfl
        | none =>
          have here := settled f mem
          unfold Field.valueIn at here
          change (s.value.field f.key).conform f.kind = _
          rw [s.conform_value f mem, ← here]
          cases lookupText f.key said <;> rfl

/-- A mapping holds no settings exactly when it says of one what is not of its kind. -/
lemma exists_ofValue_error_iff {merged : List (Scalar × Value)} {rs : List Rejection} :
    ofValue (.map merged) = .error rs ↔
      (∃ f ∈ RecordName.settingsFields, ∀ v, (f.valueIn merged).conform f.kind ≠ .ok v) ∧
        rs = RecordName.settingsFields.flatMap fun f =>
          (rejectionsOf ((f.valueIn merged).conform f.kind)).map
            (Rejection.below (.key f.key)) := by
  rw [← rejectionsOf_ofValue]
  constructor
  · intro failed
    refine ⟨?_, by rw [failed, rejectionsOf_error]⟩
    -- A refusal has a reason, which is in the value of some setting.
    have reasoned : rejectionsOf (ofValue (.map merged)) ≠ [] := by
      rw [failed, rejectionsOf_error]
      rintro rfl
      exact ((Value.map merged).reasoned_conform (.record .settings)).map read failed
    rw [rejectionsOf_ofValue, ne_eq, List.flatMap_eq_nil_iff] at reasoned
    obtain ⟨f, refused⟩ := not_forall.mp reasoned
    obtain ⟨mem, refused⟩ := Classical.not_imp.mp refused
    refine ⟨f, mem, fun v conforms => refused ?_⟩
    rw [conforms, rejectionsOf_ok, List.map_nil]
  · rintro ⟨⟨f, mem, refused⟩, rfl⟩
    cases read : ofValue (.map merged) with
    | ok s => exact absurd (ofValue_eq_ok_iff.mp read f mem) (refused _)
    | error rs => rw [rejectionsOf_error]

/-- The settings are found when each of them is the written form of what is chosen for it. -/
lemma resolve_eq_ok_iff (user : UserSets w said) (project : ProjectSets w own) {s : Settings} :
    resolve w r = .ok s ↔ ∀ f ∈ RecordName.settingsFields,
      (chosen w r own said f).conform f.kind = .ok (s.value.field f.key) := by
  obtain ⟨merged, eq, each⟩ := exists_merged (r := r) user project
  have settled : resolve w r = .ok s ↔ ofValue (.map merged) = .ok s := by
    rw [eq]
    cases ofValue (.map merged) <;> simp [Except.mapError]
  rw [settled, ofValue_eq_ok_iff]
  exact forall₂_congr fun f mem => by rw [each f mem]

/-- They are refused when what is chosen for one of them is not of its kind. -/
lemma resolve_eq_error_iff (user : UserSets w said) (project : ProjectSets w own)
    {fault : SettingsFault} :
    resolve w r = .error fault ↔
      (∃ f ∈ RecordName.settingsFields, ∀ v, (chosen w r own said f).conform f.kind ≠ .ok v) ∧
        fault = .rejected (RecordName.settingsFields.flatMap fun f =>
          (rejectionsOf ((chosen w r own said f).conform f.kind)).map
            (Rejection.below (.key f.key))) := by
  obtain ⟨merged, eq, each⟩ := exists_merged (r := r) user project
  have failed : resolve w r = .error fault ↔
      ∃ rs, ofValue (.map merged) = .error rs ∧ fault = .rejected rs := by
    rw [eq]
    cases ofValue (.map merged) <;> simp [Except.mapError, eq_comm]
  -- Each field of the merged entries has the value of its first source.
  have refused : (∃ f ∈ RecordName.settingsFields, ∀ v,
        (f.valueIn merged).conform f.kind ≠ .ok v) ↔
      ∃ f ∈ RecordName.settingsFields, ∀ v, (chosen w r own said f).conform f.kind ≠ .ok v :=
    exists_congr fun f => and_congr_right fun mem => by rw [each f mem]
  have rejections : (RecordName.settingsFields.flatMap fun f =>
        (rejectionsOf ((f.valueIn merged).conform f.kind)).map (Rejection.below (.key f.key))) =
      RecordName.settingsFields.flatMap fun f =>
        (rejectionsOf ((chosen w r own said f).conform f.kind)).map
          (Rejection.below (.key f.key)) :=
    List.flatMap_congr fun f mem => by rw [each f mem]
  simp only [failed, exists_ofValue_error_iff, refused, rejections]
  constructor
  · rintro ⟨rs, ⟨some, rfl⟩, rfl⟩
    exact ⟨some, rfl⟩
  · rintro ⟨some, rfl⟩
    exact ⟨_, ⟨some, rfl⟩, rfl⟩

/-- Where the user's file is absent or holds settings, and the project's file is absent or an object
with a section of settings or none, the settings are found whatever the environment and the request
set, unless a value that is chosen for one of them is not of its kind: then all such values are
refused. Each setting has the written form of the value that is chosen for it. -/
theorem resolve_iff (user : UserSets w said) (project : ProjectSets w own) :
    (∀ s, resolve w r = .ok s ↔ ∀ f ∈ RecordName.settingsFields,
      (chosen w r own said f).conform f.kind = .ok (s.value.field f.key)) ∧
    (∀ fault, resolve w r = .error fault ↔
      (∃ f ∈ RecordName.settingsFields, ∀ v, (chosen w r own said f).conform f.kind ≠ .ok v) ∧
        fault = .rejected (RecordName.settingsFields.flatMap fun f =>
          (rejectionsOf ((chosen w r own said f).conform f.kind)).map
            (Rejection.below (.key f.key)))) :=
  ⟨fun _ => resolve_eq_ok_iff user project, fun _ => resolve_eq_error_iff user project⟩

/-- A section with a name that is no text. -/
def numberedSection : List (Scalar × Value) :=
  [(.text "client_name", .int 5), (.text "query_library", .text "swr")]

/-- A workspace with a project's file and a name in the environment. -/
def namedWorkspace (bytes : List UInt8) : Workspace where
  files := [(["apidocgen.json"], bytes)]
  directories := []
  current := []
  environment := [("APIDOCGEN_CLIENT_NAME", "http")]
  time := ""
  setOrder := .asWritten

/-- A name that is no text does not matter where the environment has another one. -/
theorem resolve_iff_nameFromEnvironment :
    ∃ bytes, UserSets (namedWorkspace bytes) [] ∧
      ProjectSets (namedWorkspace bytes) numberedSection ∧
      resolve (namedWorkspace bytes) Request.none =
        .ok { default with clientName := "http", queryLibrary := "swr" } := by
  have exact : (Value.map [(.text "generator", .map numberedSection)]).IsExact := by
    change (Value.object [("generator", .object
      [("client_name", .int 5), ("query_library", .text "swr")])]).IsExact
    refine Value.isExact_object (by simp) (List.forall_mem_singleton.mpr ?_)
    refine Value.isExact_object (by simp) ?_
    simp only [List.forall_mem_cons]
    exact ⟨.scalar (show Text.isOversized 5 = false by decide), .scalar trivial,
      List.forall_mem_nil _⟩
  have user bytes : UserSets (namedWorkspace bytes) [] :=
    .absent rfl (Workspace.read?_of_missing rfl)
  have noNull : (Path.mk .root ["apidocgen.json"]).text.contains '\x00' = false := by
    rw [String.contains_char_eq]
    decide
  have found bytes : (namedWorkspace bytes).placeOf (namedWorkspace bytes).projectPath =
      .ok ["apidocgen.json"] := rfl
  have file bytes : (namedWorkspace bytes).read? (namedWorkspace bytes).projectPath =
      .ok (some bytes) :=
    Workspace.read?_of_placeOf noNull (found bytes)
  have project := ProjectSets.holds (file _)
    (Workspace.jsonOfBytes_encode exact Json.compactAscii) rfl
  refine ⟨_, user _, project, ((resolve_iff (user _) project).1 _).mpr ?_⟩
  exact RecordName.forall_settingsFields rfl rfl rfl rfl rfl rfl

end Settings

end ClientSynth
