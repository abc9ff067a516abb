import Mathlib.Data.List.Basic
import ClientSynth.Proofs.Encoding
import ClientSynth.Proofs.LongNumerals
import ClientSynth.Proofs.ScalarFaults
import ClientSynth.Workspace.Source

/-!
# Documents that are found and read

A source holds a mapping, or it is refused with a message of its own, unless one of a few things
comes in the way that no message is for (`Source.documented_iff`): a name that is too long on the
way to the file, bytes that are no text, an integer with too many digits, and scalars and versions
of YAML that cannot be what they say they are.

Each stage of loading has a lemma that says with what it fails: the path is followed through the
workspace, the bytes are decoded, the content is parsed. The causes that no message is for are
inductive predicates, one for each stage, and the theorem lists them for the stage at which loading
stops. That a source holds at most one text in one format (`Source.Holds.unique`) keeps the causes
apart.
-/

namespace ClientSynth

/-! ## Names on the way to a file -/

namespace Workspace

variable {w : Workspace}

/-- A way of parts comes to one that is too long, in a directory that there is. -/
def HasLongPart (w : Workspace) (path : String) (place : Place) (parts : List String) : Prop :=
  ∃ front part later place', parts = front ++ part :: later ∧
    w.follow path place front = .ok place' ∧ w.isDirectory place' = true ∧ part ≠ ".." ∧
    Path.maxPart < part.utf8ByteSize

/-- A path is too long as a whole, or comes to a part that is. -/
def HasLongName (w : Workspace) (p : Path) : Prop :=
  p.isTooLong = true ∨ w.HasLongPart p.text (w.origin p) p.parts

/-- A part of a path leads from a directory to a place. -/
inductive StepsTo (w : Workspace) : Place → String → Place → Prop where
  | up {place : Place} : w.isDirectory place = true → StepsTo w place ".." place.dropLast
  | down {place : Place} {part : String} : w.isDirectory place = true → part ≠ ".." →
    part.utf8ByteSize ≤ Path.maxPart → StepsTo w place part (place ++ [part])

/-- A step that is possible is taken. -/
lemma StepsTo.follow {place next : Place} {part : String} (h : w.StepsTo place part next)
    (path : String) (rest : List String) :
    w.follow path place (part :: rest) = w.follow path next rest := by
  rw [Workspace.follow]
  cases h with
  | up inDirectory => rw [if_pos inDirectory, if_pos rfl]
  | down inDirectory down short => rw [if_pos inDirectory, if_neg down, if_neg (by omega)]

/-- A path is followed by taking its first step and following the rest. -/
lemma follow_cons_eq_ok {path part : String} {place place' : Place} {rest : List String} :
    w.follow path place (part :: rest) = .ok place' ↔
      ∃ next, w.StepsTo place part next ∧ w.follow path next rest = .ok place' := by
  constructor
  · intro h
    rw [follow] at h
    split at h
    case isTrue inDirectory =>
      split at h
      case isTrue up => exact ⟨_, up ▸ .up inDirectory, h⟩
      case isFalse down =>
        split at h
        · cases h
        case isFalse short => exact ⟨_, .down inDirectory down (by omega), h⟩
    case isFalse => split at h <;> cases h
  · rintro ⟨next, step, way⟩
    rw [step.follow, way]

/-- A path is followed by following its front and then the rest. -/
lemma follow_append {path : String} {place place' : Place} {front : List String}
    (h : w.follow path place front = .ok place') (later : List String) :
    w.follow path place (front ++ later) = w.follow path place' later := by
  induction front generalizing place with
  | nil =>
    cases h
    rfl
  | cons first front ih =>
    obtain ⟨next, step, way⟩ := follow_cons_eq_ok.mp h
    rw [List.cons_append, step.follow, ih way]

/-- A part that is too long comes up later on the way as well. -/
lemma StepsTo.hasLongPart {path first : String} {place next : Place} {rest : List String}
    (step : w.StepsTo place first next) (h : w.HasLongPart path next rest) :
    w.HasLongPart path place (first :: rest) := by
  obtain ⟨front, part, later, place', rfl, way, found⟩ := h
  exact ⟨first :: front, part, later, place', rfl, (step.follow path front).trans way, found⟩

/-- Following a path finds a name too long only where one is. -/
lemma hasLongPart_of_follow {path path' : String} {place : Place} {parts : List String}
    (h : w.follow path place parts = .error (.nameTooLong path')) :
    w.HasLongPart path place parts := by
  induction parts generalizing place with
  | nil => cases h
  | cons first rest ih =>
    by_cases inDirectory : w.isDirectory place = true
    · by_cases up : first = ".."
      · have step : w.StepsTo place first place.dropLast := up ▸ .up inDirectory
        exact step.hasLongPart (ih (step.follow path rest ▸ h))
      by_cases long : Path.maxPart < first.utf8ByteSize
      · exact ⟨[], first, rest, place, rfl, rfl, inDirectory, up, long⟩
      · have step : w.StepsTo place first (place ++ [first]) := .down inDirectory up (by omega)
        exact step.hasLongPart (ih (step.follow path rest ▸ h))
    · rw [follow, if_neg inDirectory] at h
      split at h <;> cases h

/-- The place of a path fails on a name exactly if one on the way is too long. -/
lemma placeOf_nameTooLong_iff {p : Path} :
    (∃ path, w.placeOf p = .error (.nameTooLong path)) ↔ w.HasLongName p := by
  unfold placeOf
  constructor
  · rintro ⟨path, eq⟩
    split at eq
    case isTrue long => exact .inl long
    case isFalse => exact .inr (hasLongPart_of_follow eq)
  · intro h
    by_cases long : p.isTooLong = true
    · exact ⟨_, if_pos long⟩
    · obtain ⟨front, part, later, place, parts, way, inDirectory, down, tooLong⟩ :=
        h.resolve_left long
      refine ⟨p.text, ?_⟩
      rw [if_neg long, parts, follow_append way, follow, if_pos inDirectory, if_neg down,
        if_pos tooLong]

/-- A file cannot be looked for exactly when a name is too long, and the path has no null character.
-/
lemma exists_read?_error_iff {p : Path} :
    (∃ fault, w.read? p = .error fault) ↔ p.text.contains '\x00' = false ∧ w.HasLongName p := by
  rw [← placeOf_nameTooLong_iff]
  unfold read?
  by_cases null : p.text.contains '\x00' = true
  · simp [null]
  rw [if_neg null, (Bool.not_eq_true _).mp null]
  split
  case h_1 eq => simp [eq]
  case h_2 path eq => simp [eq]
  case h_3 fault other eq =>
    refine iff_of_false (by simp) ?_
    rintro ⟨-, path, tooLong⟩
    rw [eq] at tooLong
    exact other path (Except.error.inj tooLong)

end Workspace

namespace Source

/-! ## Texts -/

/-- The outcomes that are promised: a mapping or a refusal. A mapping within itself is one; who
walks it comes to no end. -/
def IsDocumented : Except Fault Entries → Prop
  | .ok _ | .error (.refused _) => True
  | .error (.crashed crash) => crash = .yaml (.endless true)

instance : DecidablePred IsDocumented
  | .ok _ | .error (.refused _) => .isTrue trivial
  | .error (.crashed (.yaml fault)) =>
    decidable_of_iff (fault = .endless true) ⟨congrArg Crash.yaml, Crash.yaml.inj⟩
  | .error (.crashed (.encoding _)) | .error (.crashed (.number _)) | .error (.crashed .oversized)
  | .error (.crashed (.storage _)) | .error (.crashed (.rejected _ _))
  | .error (.crashed (.cell _ _)) | .error (.crashed (.header _))
  | .error (.crashed (.markup _)) => .isFalse nofun

/-- Why a YAML text cannot be read although it breaks no rule of the format: a version with too many
digits, an escape beyond all characters, or nodes that lack what their tags ask for. -/
inductive YamlCause (text : String) : Yaml.Fault → Prop where
  | version {digits : Nat} : Text.maxDigits < digits → YamlCause text (.tooManyDigits digits)
  | escape {code : Nat} : 0x10FFFF < code → YamlCause text (.badCharacter code)
  | nodes {g : Yaml.Graph} {fault : Yaml.Fault} :
    Yaml.Graph.ofText? text.toList = .ok (some g) → g.Lacks fault → fault ≠ .malformed →
    YamlCause text fault

/-- What a text can have that its readers have no message for. -/
inductive Unforeseen (order : SetOrder) (format : Format) (text : String) : Prop where
  | integer {digits : Nat} : format ≠ .yaml → Json.parse text = .error (.tooManyDigits digits) →
    Text.maxDigits < digits → Json.HasRun digits text.toList →
    Unforeseen order format text
  | yaml {fault : Yaml.Fault} : format ≠ .json →
    (format = .unknown → ∃ problem place, Json.parse text = .error (.problem problem place)) →
    Yaml.parse order text = .error fault → YamlCause text fault → Unforeseen order format text

/-- That the content is no mapping is documented. -/
lemma documented_mapping (v : Value) : IsDocumented (mapping v) := by
  unfold mapping
  split <;> trivial

/-- A fault of YAML texts that has a cause is none of those that are documented. -/
lemma YamlCause.ne {text : String} {fault : Yaml.Fault} (h : YamlCause text fault) :
    fault ≠ .malformed ∧ ∀ isMapping, fault ≠ .endless isMapping := by
  cases h with
  | version _ => exact ⟨nofun, nofun⟩
  | escape _ => exact ⟨nofun, nofun⟩
  | nodes _ lacks wellFormed =>
    refine ⟨wellFormed, ?_⟩
    rintro isMapping rfl
    cases lacks with
    | scalar _ _ lacks => exact Yaml.Tag.not_mayLack_endless lacks

/-- Every fault of a YAML text has a message, has no end, or has a cause. -/
lemma yamlCause_of_parse {order : SetOrder} {text : String} {fault : Yaml.Fault}
    (h : Yaml.parse order text = .error fault) :
    fault = .malformed ∨ (∃ isMapping, fault = .endless isMapping) ∨ YamlCause text fault := by
  rcases Yaml.fails_parse order text fault h with lexical | endless | ⟨g, nodes, lacks⟩
  · match fault, lexical with
    | .malformed, _ => exact .inl rfl
    | .tooManyDigits _, many => exact .inr (.inr (.version many))
    | .badCharacter _, beyond => exact .inr (.inr (.escape beyond))
  · exact .inr (.inl endless)
  · by_cases wellFormed : fault = .malformed
    · exact .inl wellFormed
    · exact .inr (.inr (.nodes nodes lacks wellFormed))

/-- What becomes of content in YAML is documented unless one of the causes is in it. -/
lemma documented_parseYaml_iff {order : SetOrder} {json : Option Json.Fault} {text : String} :
    IsDocumented (parseYaml order json text) ↔
      ¬∃ fault, Yaml.parse order text = .error fault ∧ YamlCause text fault := by
  unfold parseYaml
  split
  case h_1 v eq => simp [eq, documented_mapping]
  case h_2 eq =>
    refine iff_of_true trivial ?_
    rintro ⟨_, eq', cause⟩
    exact cause.ne.1 (Except.error.inj (eq'.symm.trans eq))
  case h_3 eq =>
    refine iff_of_true trivial ?_
    rintro ⟨_, eq', cause⟩
    exact cause.ne.2 false (Except.error.inj (eq'.symm.trans eq))
  case h_4 fault broken listed eq =>
    rw [eq]
    rcases yamlCause_of_parse eq with rfl | ⟨isMapping, rfl⟩ | cause
    · exact (broken rfl).elim
    · cases isMapping with
      | false => exact (listed rfl).elim
      | true =>
        refine iff_of_true rfl ?_
        rintro ⟨_, ⟨⟩, cause⟩
        exact cause.ne.2 true rfl
    · refine iff_of_false (fun endless => ?_) (not_not_intro ⟨fault, rfl, cause⟩)
      exact cause.ne.2 true (Crash.yaml.inj endless)

/-- Where a text is read as YAML, only that has something unforeseen. -/
lemma unforeseen_iff {order : SetOrder} {format : Format} {text : String} (notJson : format ≠ .json)
    (refused : format ≠ .yaml →
      ∃ problem place, Json.parse text = .error (.problem problem place)) :
    Unforeseen order format text ↔
      ∃ fault, Yaml.parse order text = .error fault ∧ YamlCause text fault := by
  constructor
  · rintro (⟨notYaml, eq, -⟩ | ⟨-, -, eq, cause⟩)
    · obtain ⟨_, _, eq'⟩ := refused notYaml
      exact nomatch eq.symm.trans eq'
    · exact ⟨_, eq, cause⟩
  · rintro ⟨fault, eq, cause⟩
    exact .yaml notJson (fun unknown => refused (by rw [unknown]; nofun)) eq cause

/-- A text is read as a mapping or refused, unless it has something unforeseen. -/
lemma documented_parse_iff {order : SetOrder} {format : Format} {text : String} :
    IsDocumented (parse order format text) ↔ ¬Unforeseen order format text := by
  unfold parse
  split
  case isTrue yaml =>
    rw [documented_parseYaml_iff, unforeseen_iff (by rw [yaml]; nofun) (absurd yaml)]
  case isFalse notYaml =>
    have unknown (notJson : format ≠ .json) : format = .unknown := by
      cases format with
      | json => exact (notJson rfl).elim
      | yaml => exact (notYaml rfl).elim
      | unknown => rfl
    split
    case h_1 v eq =>
      -- YAML is tried only on what JSON refuses.
      refine iff_of_true (documented_mapping v) ?_
      rintro (⟨-, eq', -, -⟩ | ⟨notJson, tried, -, -⟩)
      · exact nomatch eq.symm.trans eq'
      · obtain ⟨_, _, eq'⟩ := tried (unknown notJson)
        exact nomatch eq.symm.trans eq'
    case h_2 digits eq =>
      obtain ⟨many, run⟩ := Json.hasRun_of_parse eq
      exact iff_of_false nofun (not_not_intro (.integer notYaml eq many run))
    case h_3 fault few eq =>
      have problem : ∃ problem place, fault = .problem problem place := by
        cases fault with
        | problem problem place => exact ⟨problem, place, rfl⟩
        | tooManyDigits digits => exact (few digits rfl).elim
      obtain ⟨problem, place, rfl⟩ := problem
      split
      case isTrue json =>
        refine iff_of_true trivial ?_
        rintro (⟨-, eq', -, -⟩ | ⟨notJson, -, -, -⟩)
        · exact nomatch eq.symm.trans eq'
        · exact notJson json
      case isFalse notJson =>
        rw [documented_parseYaml_iff, unforeseen_iff notJson fun _ => ⟨problem, place, eq⟩]

/-! ## Sources -/

/-- What a source holds as text, and the format that it is read in. -/
inductive Holds (w : Workspace) (source input : String) : Format → String → Prop where
  | input : source = inputName →
    Holds w source input .unknown (String.ofList (Text.lineFeeds input.toList))
  | file {bytes : List UInt8} {text : String} : source ≠ inputName →
    w.read? (Path.ofText source) = .ok (some bytes) → Utf8.encode text = bytes →
    Holds w source input (.ofPath (Path.ofText source))
      (String.ofList (Text.lineFeeds text.toList))

/-- What comes in the way of a document that there is no message for: a name that is too long, bytes
of no text, or something in a text that is not blank. -/
inductive Obstacle (w : Workspace) (source input : String) : Prop where
  | name : source ≠ inputName → (Path.ofText source).text.contains '\x00' = false →
    w.HasLongName (Path.ofText source) → Obstacle w source input
  | bytes {bytes : List UInt8} : source ≠ inputName →
    w.read? (Path.ofText source) = .ok (some bytes) → (∀ text, Utf8.encode text ≠ bytes) →
    Obstacle w source input
  | text {format : Format} {text : String} : Holds w source input format text →
    Text.isBlank text.toList = false → Unforeseen w.setOrder format text → Obstacle w source input

section Load

variable {w : Workspace} {source input : String} {format format' : Format} {text text' : String}

/-- A source holds one text in one format. -/
lemma Holds.unique (h : Holds w source input format text)
    (h' : Holds w source input format' text') : format = format' ∧ text = text' := by
  cases h with
  | input standard =>
    cases h' with
    | input _ => exact ⟨rfl, rfl⟩
    | file other => exact (other standard).elim
  | file other read written =>
    cases h' with
    | input standard => exact (other standard).elim
    | file _ read' written' =>
      obtain rfl := Option.some.inj (Except.ok.inj (read.symm.trans read'))
      rw [Utf8.encode_injective (written.trans written'.symm)]
      exact ⟨rfl, rfl⟩

/-- Where a source holds a text, only the text can come in the way. -/
lemma obstacle_iff (holds : Holds w source input format text) :
    Obstacle w source input ↔
      Text.isBlank text.toList = false ∧ Unforeseen w.setOrder format text := by
  constructor
  · rintro (⟨other, noNull, long⟩ | ⟨other, read, none⟩ | ⟨holds', full, unforeseen⟩)
    · obtain ⟨fault, eq⟩ := Workspace.exists_read?_error_iff.mpr ⟨noNull, long⟩
      cases holds with
      | input standard => exact (other standard).elim
      | file _ read _ => exact nomatch eq.symm.trans read
    · cases holds with
      | input standard => exact (other standard).elim
      | @file _ text _ read' written =>
        obtain rfl := Option.some.inj (Except.ok.inj (read.symm.trans read'))
        exact (none text written).elim
    · obtain ⟨rfl, rfl⟩ := holds.unique holds'
      exact ⟨full, unforeseen⟩
  · exact fun ⟨full, unforeseen⟩ => .text holds full unforeseen

/-- A text that is not blank is read, and a blank one is refused. -/
lemma documented_text_iff (holds : Holds w source input format text) (refusal : Refusal) :
    IsDocumented
        (if Text.isBlank text.toList then .error (.refused refusal)
          else parse w.setOrder format text) ↔
      ¬Obstacle w source input := by
  rw [obstacle_iff holds]
  split
  case isTrue blank => simp [blank, IsDocumented]
  case isFalse full => rw [documented_parse_iff]; simp [full]

/-- What becomes of a source is documented unless an obstacle is in the way. -/
lemma documented_load_iff :
    IsDocumented (load w source input) ↔ ¬Obstacle w source input := by
  unfold load
  split
  case isTrue standard =>
    have holds : Holds w source input .unknown (String.ofList (Text.lineFeeds input.toList)) :=
      .input standard
    have text := documented_text_iff holds .emptyInput
    rwa [String.toList_ofList] at text
  case isFalse other =>
    dsimp only
    split
    case h_1 fault eq =>
      obtain ⟨noNull, long⟩ := Workspace.exists_read?_error_iff.mp ⟨fault, eq⟩
      exact iff_of_false nofun (not_not_intro (.name other noNull long))
    case h_2 eq =>
      -- There is no file, so that nothing in it can come in the way.
      refine iff_of_true trivial ?_
      rintro (⟨-, noNull, long⟩ | ⟨-, read, -⟩ | ⟨holds, -, -⟩)
      · obtain ⟨fault, eq'⟩ := Workspace.exists_read?_error_iff.mpr ⟨noNull, long⟩
        exact nomatch eq.symm.trans eq'
      · exact nomatch eq.symm.trans read
      · cases holds with
        | input standard => exact other standard
        | file _ read _ => exact nomatch eq.symm.trans read
    case h_3 bytes eq =>
      unfold Workspace.decodeText
      cases read : Utf8.decode bytes with
      | error fault =>
        exact iff_of_false nofun
          (not_not_intro (.bytes other eq (Utf8.exists_fault_iff.mp ⟨fault, read⟩)))
      | ok chars =>
        have holds : Holds w source input _ _ := .file other eq (Utf8.decode_eq_ok.mp read)
        rw [String.toList_ofList] at holds
        exact documented_text_iff holds (.emptyFile source)

end Load

/-- A text is read as a mapping or refused with a message exactly when it has nothing unforeseen,
and a source exactly when nothing unforeseen comes in the way. -/
theorem documented_iff (order : SetOrder) (format : Format) (text : String) (w : Workspace)
    (source input : String) :
    (IsDocumented (parse order format text) ↔ ¬Unforeseen order format text) ∧
      (IsDocumented (load w source input) ↔ ¬Obstacle w source input) :=
  ⟨documented_parse_iff, documented_load_iff⟩

/-- A date in a thirteenth month is unforeseen. -/
theorem documented_iff_month :
    ¬IsDocumented (parse .asWritten .yaml "a: 2024-13-45") ∧
      Unforeseen .asWritten .yaml "a: 2024-13-45" := by
  have broken : ¬IsDocumented (parse .asWritten .yaml "a: 2024-13-45") := by decide +kernel
  have unforeseen := (documented_iff .asWritten .yaml "a: 2024-13-45"
    ⟨[], [], [], [], "", .asWritten⟩ inputName "").1.not.mp broken
  exact ⟨broken, not_not.mp unforeseen⟩

end Source

end ClientSynth
