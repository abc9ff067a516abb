import ClientSynth.Proofs.DeclaredTypes
import ClientSynth.Proofs.Exports
import ClientSynth.Proofs.Loading
import ClientSynth.Proofs.PlainValues
import ClientSynth.Proofs.ReadBack
import ClientSynth.Proofs.Sessions

/-!
# Runs of validation and generation

What the two commands about documents do. Validation prints a report, to which an audit adds nothing
but remarks (`Session.does_validate`). Generation finds settings, reads the document, and goes on
with the artifacts if the document has no faults (`Session.does_generate`). Neither comes upon
anything else once a document was read and looked at.

Each command is first written as a sequence of steps (`Session.validate_eq`, `Session.generate_eq`),
and the rules for steps are applied from its front. What the steps leave open, whether a message is
told and whether a text can be written, appears in the result as `toldAll` and `written`, so that
one statement covers consoles with and without colours.
-/

namespace ClientSynth

namespace Console

/-- Cells of texts print as these texts. -/
lemma cellTexts_text (index : Nat) (texts : List String) :
    cellTexts index (texts.map .text) = .ok texts := by
  induction texts generalizing index with
  | nil => rfl
  | cons text rest ih =>
    change (cellTexts (index + 1) (rest.map .text)).map _ = _
    rw [ih]
    rfl

/-- A plain table of texts has a line for each row, with tabs between the cells. -/
lemma tableText_texts {c : Console} (plain : c.format = .plain) (title : String)
    (headers : List String) (rows : List (List String)) :
    c.tableText title (headers.map .text) (rows.map fun cells => cells.map .text) =
      .ok (Text.unlines ((headers :: rows).map "\t".intercalate)) := by
  have lines (table : List (List String)) :
      (table.map fun cells => cells.map Value.text).mapM rowText =
        .ok (table.map fun cells => line ("\t".intercalate cells)) := by
    induction table with
    | nil => rfl
    | cons cells table ih =>
      rw [List.map_cons, List.mapM_cons, ih, rowText, cellTexts_text]
      rfl
  have joined (table : List (List String)) :
      String.join (table.map fun cells => line ("\t".intercalate cells)) =
        Text.unlines (table.map "\t".intercalate) := by
    induction table with
    | nil => rfl
    | cons cells table ih =>
      rw [List.map_cons, String.join_cons, ih, List.map_cons, Text.unlines_cons, line]
  have written := lines (headers :: rows)
  rw [List.map_cons] at written
  rw [tableText, plain]
  dsimp only
  rw [written]
  exact congrArg Except.ok (joined (headers :: rows))

/-- A value is printed as JSON unless it has a style. -/
lemma valueText_json {c : Console} (json : c.format = .json) (x : Value) :
    c.valueText x = jsonText x := by
  unfold valueText
  rw [json]

/-- The text that is printed for a value reads back as that value. -/
lemma parse_jsonText {x : Value} (exact : x.IsExact) : Json.parse (jsonText x) = .ok x :=
  Json.parse_render exact (show Json.IsGap "\n".toList by simp [Json.IsGap])

end Console

/-- An object starts with a brace in every style and at every depth. -/
lemma Json.exists_renderAt_map (style : Style) (depth : Nat) (entries : List (Scalar × Value)) :
    ∃ later, (renderAt style depth (.map entries)).toList = '\x7b' :: later := by
  rw [renderAt, bracket]
  split
  · exact ⟨_, by rw [String.toList_append]; rfl⟩
  · exact ⟨_, by simp only [String.toList_append, List.append_assoc]; rfl⟩

/-- No carriage return is printed, since control characters are escaped. -/
lemma Console.return_not_mem_jsonText {x : Value} (exact : x.IsExact) :
    '\r' ∉ (jsonText x).toList := by
  rw [jsonText, line, String.toList_append, List.mem_append, not_or]
  exact ⟨Json.return_not_mem_render exact, by simp⟩

/-- A document that is written as JSON is read from the standard input. -/
lemma Source.load_jsonText {w : Workspace} {entries : Source.Entries}
    (exact : (Value.map entries).IsExact) :
    Source.load w Source.inputName (Console.jsonText (.map entries)) = .ok entries := by
  have some : Text.isBlank (Console.jsonText (.map entries)).toList = false := by
    obtain ⟨later, text⟩ := Json.exists_renderAt_map Json.indented 0 entries
    rw [Console.jsonText, Console.line, String.toList_append, Json.render, text]
    have brace : Text.isSpace '\x7b' = false := by decide
    simp [Text.isBlank, brace]
  unfold Source.load
  rw [if_pos rfl]
  dsimp only
  rw [Text.lineFeeds_eq_self (Console.return_not_mem_jsonText exact), some,
    if_neg Bool.false_ne_true, String.ofList_toList, Source.parse, if_neg (by decide),
    Console.parse_jsonText exact]
  rfl

/-- Lines that are put together end in a line feed. -/
lemma Text.exists_unlines (parts : List String) (ne : parts ≠ []) :
    ∃ front, unlines parts = front ++ "\n" := by
  obtain ⟨front, last, rfl⟩ := (List.eq_nil_or_concat parts).resolve_left ne
  refine ⟨unlines front ++ last, ?_⟩
  rw [List.concat_eq_append, unlines_append, unlines_cons, String.append_assoc, String.append_assoc,
    unlines.eq_def [], List.foldr_nil, String.append_empty]

/-- The text of a source has no escape for half a surrogate pair. -/
def Source.IsWhole (w : Workspace) (source input : String) : Prop :=
  ∀ format text, Holds w source input format text → spellsHalf format text = false

/-- The files of settings have no escapes for half a surrogate pair. -/
def Settings.AreWhole (w : Workspace) : Prop :=
  ∀ path text, w.settingsPath = .ok path ∨ path = w.projectPath →
    w.read? path = .ok (some (Utf8.encode text)) → Json.spellsHalf text.toList = false

/-- Whether settings enable an artifact. -/
def Settings.enables (s : Settings) : String → Bool
  | "types" => s.includeTypes
  | "hooks" => s.includeHooks
  | _ => true

namespace Value

variable {entries : List (Scalar × Value)} {v : Validation}

/-- Validation comes to an end where messages can hold the status codes. -/
lemma validate_of_fits {x : Value} (fits : (Validation.ofValue x).isOversized = false) :
    x.validate = .ok (Validation.ofValue x) :=
  Validation.checked_eq_ok_iff.mpr ⟨fits, rfl⟩

/-- A mapping that is valid is a document. -/
lemma exists_document_of_validate
    (checked : (map entries).validate = .ok v) (valid : v.report.isValid = true) :
    ∃ d, Document.ofValue (.map entries) = .ok d := by
  obtain ⟨_, eq⟩ := Validation.checked_eq_ok_iff.mp checked
  exact Validation.exists_document_of_isValid (eq.symm ▸ valid)

end Value

namespace Report

/-! ### The table of diagnostics -/

/-- The cells of a diagnostic. -/
def cells (severity field code message : String) (suggestion : Option String) : List String :=
  [severity, if field.isEmpty then "-" else field, code, message, suggestion.getD ""]

/-- The cells of a fault. -/
def faultCells (f : Located Fault) : List String :=
  cells "error" f.location.text f.what.code.word f.what.message (some f.what.code.suggestion)

/-- The cells of a remark. -/
def remarkCells (r : Located Remark) : List String :=
  cells "warning" r.location.text "" r.what.message r.what.suggestion

/-- What stands above the cells. -/
def headers : List String :=
  ["Severity", "Field", "Code", "Message", "Suggestion"]

/-- The table of diagnostics: headers, and the cells of each, faults before remarks. -/
def table (r : Report) : List (List String) :=
  headers :: (r.errors.map faultCells ++ r.warnings.map remarkCells)

/-! ### The record of a report -/

/-- The value of a fault is written without loss. -/
lemma isExact_faultValue (f : Located Fault) : (faultValue f).IsExact := by
  refine Value.isExact_object (by simp) ?_
  simp only [List.forall_mem_cons]
  exact ⟨.scalar trivial, .scalar trivial, .scalar trivial, .scalar trivial, .scalar trivial,
    List.forall_mem_nil _⟩

/-- The value of a remark is written without loss. -/
lemma isExact_remarkValue (r : Located Remark) : (remarkValue r).IsExact := by
  unfold remarkValue
  cases r.what.suggestion with
  | none =>
    refine Value.isExact_object (by simp) ?_
    simp only [Option.map_none, Option.toList_none, List.append_nil, List.forall_mem_cons]
    exact ⟨.scalar trivial, .scalar trivial, List.forall_mem_nil _⟩
  | some suggestion =>
    refine Value.isExact_object (by simp) ?_
    simp only [Option.map_some, Option.toList_some, List.cons_append, List.nil_append,
      List.forall_mem_cons]
    exact ⟨.scalar trivial, .scalar trivial, .scalar trivial, List.forall_mem_nil _⟩

/-- The value of a report is written without loss, since all of its texts and numbers are. -/
lemma isExact_value (r : Report) : r.value.IsExact := by
  refine Value.isExact_object (by simp) ?_
  simp only [List.forall_mem_cons]
  refine ⟨.list ?_, .list ?_, .scalar trivial, List.forall_mem_nil _⟩
  · exact List.forall_mem_map.mpr fun f _ => isExact_faultValue f
  · exact List.forall_mem_map.mpr fun r _ => isExact_remarkValue r

end Report

namespace Session

variable {c : Console} {w w' w'' : Workspace} {source input artifact : String}
  {entries : List (Scalar × Value)} {v : Validation} {s : Settings}

/-! ## Validation -/

/-- What an audit remarks about a value that is a document. -/
def auditRemarks (s : Settings) (x : Value) : List (Located Remark) :=
  ((Document.ofValue x).toOption.map fun d => Audit.remarks (Artifacts.ofDocument d s)).getD []

/-- The report that validation shows: with an audit, there are its remarks about a document without
faults, too. -/
def auditedReport (x : Value) (r : Report) (withNames : Bool) : Report :=
  if withNames && r.isValid then
    { r with warnings := r.warnings ++ auditRemarks Settings.default x }
  else r

/-- An audit adds remarks only, so it leaves a report as valid as it was. -/
lemma isValid_auditedReport (x : Value) (r : Report) (withNames : Bool) :
    (auditedReport x r withNames).isValid = r.isValid := by
  unfold auditedReport
  split <;> rfl

/-- Nothing but remarks is added to a report, and nothing at all without an audit. -/
lemma exists_auditedReport_eq (x : Value) (r : Report) (withNames : Bool) :
    ∃ more, (withNames = false → more = []) ∧
      auditedReport x r withNames = { r with warnings := r.warnings ++ more } := by
  unfold auditedReport
  split
  case isTrue audited =>
    exact ⟨auditRemarks Settings.default x, fun unnamed => by simp [unnamed] at audited, rfl⟩
  case isFalse => exact ⟨[], fun _ => rfl, by rw [List.append_nil]⟩

/-- The report is what validation gives and, if asked for, what an audit adds; nothing is printed.
-/
lemma does_fullReport (withNames : Bool) (checked : (Value.map entries).validate = .ok v) :
    Does (fullReport (.map entries) withNames) c w
      (.ok (auditedReport (.map entries) v.report withNames)) w "" := by
  unfold fullReport auditedReport
  rw [checked]
  refine (does_orCrash_ok v).after ((talks_recordValidation v c w).after ?_)
  split
  case isTrue audited =>
    obtain ⟨d, isDocument⟩ :=
      Value.exists_document_of_validate checked (Bool.and_eq_true_iff.mp audited).2
    rw [auditRemarks, isDocument]
    exact (talks_recordGeneration _ _ _ c w).after (does_pure _)
  case isFalse => exact does_pure _

/-- The header of the table of diagnostics. -/
lemma diagnosticHeaders_eq : diagnosticHeaders = Report.headers.map .text :=
  rfl

/-- The rows of the table of diagnostics: the errors first and then the warnings. -/
lemma diagnosticRows_eq (r : Report) : diagnosticRows r =
    (r.errors.map Report.faultCells ++ r.warnings.map Report.remarkCells).map
      fun cells => cells.map .text := by
  rw [diagnosticRows, List.map_append, List.map_map, List.map_map]
  rfl

/-- As JSON a report is printed as its value. -/
lemma reportText_json (json : c.format = .json) (r : Report) :
    reportText c r = .ok (Console.jsonText r.value) := by
  rw [reportText, json]
  exact congrArg Except.ok (Console.valueText_json json _)

/-- In plain form there is a line for each diagnostic, and none without diagnostics. -/
lemma reportText_plain (plain : c.format = .plain) (r : Report) : reportText c r = .ok
    (if r.errors.isEmpty && r.warnings.isEmpty then ""
      else Text.unlines (r.table.map "\t".intercalate)) := by
  unfold reportText
  rw [diagnosticHeaders_eq, diagnosticRows_eq, Console.tableText_texts plain, plain]
  dsimp only
  split <;> rfl

/-- A report is printed as one text, or the command stops before anything is printed. -/
lemma does_showReport (r : Report) :
    Does (do print (← orCrash (reportText (← get).console r))) c w (written (reportText c r)) w
      ((reportText c r).toOption.getD "") :=
  does_get fun s here _ => by
    rw [here]
    cases reportText c r with
    | ok text => exact (does_orCrash_ok text).after (does_print text)
    | error crash => exact (does_orCrash_error crash).halt

/-- Validation reads a document, reports on it, prints the report and gives a verdict. -/
lemma validate_eq (withNames : Bool) :
    validate source withNames input = (document source input >>= fun v =>
      fullReport v withNames >>= fun r =>
        (do print (← orCrash (reportText (← get).console r))) >>= fun _ => concludeReport r) := by
  unfold validate
  simp only [bind_assoc]

/-- The messages that conclude a report. -/
def closing (r : Report) : List Message :=
  if !r.isValid then
    [.error (Text.ofNat r.errors.length ++ " error(s), " ++ Text.ofNat r.warnings.length ++
      " warning(s)"), .suggestion "Fix the errors above, then run the command again"]
  else if r.warnings.isEmpty then [.success "Documentation is valid"]
  else [.info ("Valid with " ++ Text.ofNat r.warnings.length ++ " warning(s)")]

/-- The end of a command about a document with a report, when all was told. -/
def verdict (r : Report) : Except Stop Unit :=
  if r.isValid then .ok () else .error (.status faultStatus)

/-- A verdict tells what a report amounts to and ends the command with its status. -/
lemma does_concludeReport (r : Report) :
    Does (concludeReport r) c w (toldAll c (closing r) >>= fun _ => verdict r) w "" := by
  unfold concludeReport verdict closing
  cases r.isValid with
  | false => exact Does.afterSaying (Does.afterSaying (does_throw _))
  | true =>
    cases r.warnings.isEmpty with
    | false => exact does_say_last _
    | true => exact does_say_last _

/-- The end of a command about a document, by what was read, when all was told. -/
def outcome : Except Source.Fault Source.Entries → Except Stop Unit
  | .error (.refused _) => .error (.status sourceStatus)
  | .error (.crashed crash) => .error (.crash crash)
  | .ok entries =>
    match (Value.map entries).validate with
    | .error crash => .error (.crash crash)
    | .ok v => verdict v.report

/-- A command that ends well has read a document and found no fault in it. -/
lemma exists_of_outcome_ok {read : Except Source.Fault Source.Entries}
    (h : outcome read = .ok ()) : ∃ entries v, read = .ok entries ∧
      (Value.map entries).validate = .ok v ∧ v.report.isValid = true := by
  match read with
  | .error (.refused _) | .error (.crashed _) => cases h
  | .ok entries =>
    unfold outcome at h
    dsimp only at h
    cases checked : (Value.map entries).validate with
    | error crash =>
      rw [checked] at h
      cases h
    | ok v =>
      rw [checked] at h
      dsimp only at h
      unfold verdict at h
      split at h
      case isTrue valid => exact ⟨entries, v, rfl, checked, valid⟩
      case isFalse => cases h

/-- What validation does with a document: it shows the report, and tells what that comes to. -/
lemma does_validate (withNames : Bool) (loaded : Source.load w source input = .ok entries)
    (checked : (Value.map entries).validate = .ok v) :
    Does (validate source withNames input) c w
      (written (reportText c (auditedReport (.map entries) v.report withNames)) >>= fun _ =>
        toldAll c (closing (auditedReport (.map entries) v.report withNames)) >>= fun _ =>
        verdict v.report) w
      ((reportText c (auditedReport (.map entries) v.report withNames)).toOption.getD "") := by
  have loads := does_document (c := c) (w := w) source input
  rw [loaded] at loads
  rw [validate_eq]
  refine loads.after ((does_fullReport withNames checked).after ?_)
  have shows := does_showReport (c := c) (w := w) (auditedReport (.map entries) v.report withNames)
  have concludes :=
    does_concludeReport (c := c) (w := w) (auditedReport (.map entries) v.report withNames)
  rw [verdict, isValid_auditedReport] at concludes
  cases text : reportText c (auditedReport (.map entries) v.report withNames) with
  | error crash =>
    rw [text] at shows
    exact shows.halt
  | ok _ =>
    rw [text] at shows
    exact shows.last concludes

/-- Without a document validation ends as what was read has it, when the reason was told. -/
lemma does_validate_of_error (withNames : Bool) {stop : Stop}
    (stops : afterLoad c (Source.load w source input) = .error stop) :
    Does (validate source withNames input) c w (.error stop) w "" := by
  have loads := does_document (c := c) (w := w) source input
  rw [stops] at loads
  rw [validate_eq]
  exact loads.halt

/-- A document that cannot be looked at stops validation. -/
lemma does_validate_of_crash (withNames : Bool) {crash : Crash}
    (loaded : Source.load w source input = .ok entries)
    (checked : (Value.map entries).validate = .error crash) :
    Does (validate source withNames input) c w (.error (.crash crash)) w "" := by
  have loads := does_document (c := c) (w := w) source input
  rw [loaded] at loads
  rw [validate_eq]
  refine loads.after (Does.halt ?_)
  unfold fullReport
  rw [checked]
  exact (does_orCrash_error crash).halt

/-! ## Generation -/

/-- The end of a step that has artifacts: they are written or printed. -/
def deliver (a : Artifacts) (artifact : String) (directory : Option String) : Run Unit := do
  let selected := artifactFiles.filter fun (name, _) =>
    (artifact == "all" || name == artifact) && !(artifactText a name).isEmpty
  if selected.isEmpty then
    fail ("Artifact '" ++ artifact ++ "' is disabled by the generator configuration") misuseStatus
  match directory with
  | some directory => writeFiles a selected (Path.ofText directory)
  | none => do print (shownArtifacts (← get).console a selected)

/-- An artifact that there is, or all of them. -/
def IsArtifact (artifact : String) : Prop :=
  artifact = "all" ∨ artifact ∈ artifactFiles.map Prod.fst

/-- A warning about a remark. -/
def warningOf (remark : Located Remark) : Message :=
  .warning (remark.location.text ++ ": " ++ remark.what.message)

/-- Generation finds settings, reads the document, makes the artifacts, warns and delivers. -/
lemma generate_eq (known : IsArtifact artifact) (directory : Option String)
    (request : Settings.Request) :
    generate source artifact directory request input = (settings request >>= fun s =>
      document source input >>= fun v => artifacts source v s >>= fun a =>
        ((Audit.remarks a).forM fun remark => say (warningOf remark)) >>= fun _ =>
        deliver a artifact directory) := by
  have isKnown :
      (artifact != "all" && !(artifactFiles.map Prod.fst).contains artifact) = false := by
    rcases known with rfl | mem
    · rfl
    · rw [List.contains_iff_mem.mpr mem, Bool.not_true, Bool.and_false]
  unfold generate
  simp only [isKnown]
  rfl

/-- Of a document without faults the artifacts are made of all of it. -/
lemma ofValue_of_valid {d : Document} {x : Value} (checked : x.validate = .ok v)
    (valid : v.report.isValid = true) (isDocument : Document.ofValue x = .ok d) :
    Artifacts.ofValue x s = .ok (.ofDocument d s) := by
  unfold Artifacts.ofValue
  rw [checked]
  dsimp only
  rw [if_pos valid, isDocument]

/-- The artifacts for a document without faults are made. -/
lemma does_artifacts {d : Document} {x : Value} (checked : x.validate = .ok v)
    (valid : v.report.isValid = true) (isDocument : Document.ofValue x = .ok d) :
    Does (artifacts source x s) c w (.ok (.ofDocument d s)) w "" := by
  unfold artifacts
  rw [checked, ofValue_of_valid checked valid isDocument, isDocument]
  exact (does_orCrash_ok v).after ((talks_recordValidation v c w).after
    ((talks_recordGeneration _ _ _ c w).after (does_pure _)))

/-- A value that cannot be looked at stops generation. -/
lemma does_artifacts_of_crash {x : Value} {crash : Crash} (checked : x.validate = .error crash) :
    Does (artifacts source x s) c w (.error (.crash crash)) w "" := by
  unfold artifacts
  rw [checked]
  exact (does_orCrash_error crash).halt

/-- The message of a fault that blocks generation. -/
def faultMessage (fault : Located Fault) : Message :=
  .error ((if fault.location.text.isEmpty then "<document>" else fault.location.text) ++ ": " ++
    fault.what.message)

/-- The messages when faults block generation. -/
def blockedMessages (source : String) (r : Report) : List Message :=
  r.errors.map faultMessage ++
    [.error (Artifacts.blockedMessage r), .suggestion ("Run: apidocgen validate " ++ source)]

/-- Faults are told, and nothing is generated. -/
lemma does_artifacts_of_blocked {x : Value} (checked : x.validate = .ok v)
    (invalid : v.report.isValid = false) :
    Does (artifacts source x s) c w
      (toldAll c (blockedMessages source v.report) >>= fun _ =>
        Except.error (.status faultStatus)) w "" := by
  have blocked : Artifacts.ofValue x s = .error (.blocked v) := by
    unfold Artifacts.ofValue
    rw [checked]
    dsimp only
    rw [if_neg (by rw [invalid]; exact Bool.false_ne_true)]
  unfold artifacts
  rw [checked, blocked]
  refine (does_orCrash_ok v).after ((talks_recordValidation v c w).after
    ((talks_alert _ _ c w).after ?_))
  rw [blockedMessages, toldAll_append, bind_assoc]
  exact (does_forM_say faultMessage v.report.errors).andThen
    (Does.afterSaying (Does.afterSaying (does_throw _)))

section Generation

variable {request : Settings.Request} {directory : Option String} {r : Except Stop Unit}
  {output : String}

/-- What generation goes on with: settings, and a document without faults. In the texts that were
read there is no escape for half a surrogate pair. -/
structure Prepares (w : Workspace) (source input : String) (request : Settings.Request)
    (w' : Workspace) (s : Settings) (entries : Source.Entries) : Prop where
  made : Workspace.makeSettingsDirectory.run.run w = (.ok (), w')
  settled : Settings.resolve w' request = .ok s
  loaded : Source.load w' source input = .ok entries
  valid : ∃ v, (Value.map entries).validate = .ok v ∧ v.report.isValid = true
  document : Source.IsWhole w' source input
  settings : Settings.AreWhole w'

/-- With settings and a document without faults, generation tells what an audit remarks, and goes on
with the artifacts. -/
lemma does_generate {d : Document} (known : IsArtifact artifact)
    (prepared : Prepares w source input request w' s entries)
    (isDocument : Document.ofValue (.map entries) = .ok d)
    (tells : ∀ remark ∈ Audit.remarks (Artifacts.ofDocument d s), c.Tells (warningOf remark))
    (delivers : Does (deliver (Artifacts.ofDocument d s) artifact directory) c w' r w'' output) :
    Does (generate source artifact directory request input) c w r w'' output := by
  obtain ⟨made, settled, loaded, ⟨v, checked, valid⟩, _, _⟩ := prepared
  have settles := does_settings (c := c) request made
  rw [settled] at settles
  have loads := does_document (c := c) (w := w') source input
  rw [loaded] at loads
  have warns := does_forM_say (c := c) (w := w') warningOf
    (Audit.remarks (Artifacts.ofDocument d s))
  rw [toldAll_eq_ok_iff.mpr (List.forall_mem_map.mpr tells)] at warns
  rw [generate_eq known]
  exact settles.after (loads.after ((does_artifacts checked valid isDocument).after
    (warns.after delivers)))

/-- A remark that is refused stops generation. -/
lemma does_generate_of_refused {d : Document} {stop : Stop} (known : IsArtifact artifact)
    (prepared : Prepares w source input request w' s entries)
    (isDocument : Document.ofValue (.map entries) = .ok d)
    (refused : toldAll c ((Audit.remarks (Artifacts.ofDocument d s)).map warningOf) =
      .error stop) :
    Does (generate source artifact directory request input) c w (.error stop) w' "" := by
  obtain ⟨made, settled, loaded, ⟨v, checked, valid⟩, _, _⟩ := prepared
  have settles := does_settings (c := c) request made
  rw [settled] at settles
  have loads := does_document (c := c) (w := w') source input
  rw [loaded] at loads
  have warns := does_forM_say (c := c) (w := w') warningOf
    (Audit.remarks (Artifacts.ofDocument d s))
  rw [refused] at warns
  rw [generate_eq known]
  exact settles.after (loads.after ((does_artifacts checked valid isDocument).after warns.halt))

/-- Where settings are found and a step on the way to the artifacts stops, generation stops. -/
lemma does_generate_of_stop {stop : Stop} (known : IsArtifact artifact)
    (made : Workspace.makeSettingsDirectory.run.run w = (.ok (), w'))
    (settled : Settings.resolve w' request = .ok s)
    (stops : Does (document source input >>= fun x => artifacts source x s) c w' (.error stop) w'
      "") :
    Does (generate source artifact directory request input) c w (.error stop) w' "" := by
  have settles := does_settings (c := c) request made
  rw [settled] at settles
  rw [generate_eq known]
  refine settles.after ?_
  rw [← bind_assoc]
  exact stops.halt

end Generation

/-! ## Delivery -/

section Delivery

variable {d : Document} {e : String × String}

/-- The text of an artifact that is enabled ends with a line. -/
lemma exists_artifactText (mem : e ∈ artifactFiles) (enabled : s.enables e.1 = true) :
    ∃ front, artifactText (.ofDocument d s) e.1 = front ++ "\n" := by
  simp only [artifactFiles, List.mem_cons, List.not_mem_nil, or_false] at mem
  rcases mem with rfl | rfl | rfl | rfl
  · have text : artifactText (.ofDocument d s) "types" = d.typesFile := if_pos enabled
    rw [text, Document.typesFile_eq]
    exact Text.exists_unlines _ (by simp [Document.fileHead])
  · exact Text.exists_unlines (d.servicesParts _ s) (by simp [Document.servicesParts])
  · have text : artifactText (.ofDocument d s) "hooks" =
        hooksFile (d.endpoints.map fun e => e.service s) s := if_pos enabled
    rw [text, hooksFile_eq]
    exact Text.exists_unlines _ (by simp [hooksHead, hooksComment])
  · exact Text.exists_unlines (indexLines _ _ s) (by simp [indexLines, headLines])

/-- The text of an artifact that is disabled is empty. -/
lemma artifactText_of_disabled (mem : e ∈ artifactFiles) (disabled : s.enables e.1 = false) :
    artifactText (.ofDocument d s) e.1 = "" := by
  simp only [artifactFiles, List.mem_cons, List.not_mem_nil, or_false] at mem
  rcases mem with rfl | rfl | rfl | rfl
  · exact if_neg (Bool.not_eq_true _ ▸ disabled)
  · cases disabled
  · exact if_neg (Bool.not_eq_true _ ▸ disabled)
  · cases disabled

/-- An artifact is empty exactly if it is turned off in the settings. -/
lemma isEmpty_artifactText (mem : e ∈ artifactFiles) :
    (artifactText (.ofDocument d s) e.1).isEmpty = !s.enables e.1 := by
  cases enabled : s.enables e.1 with
  | true =>
    obtain ⟨front, text⟩ := exists_artifactText (d := d) mem enabled
    rw [text]
    simp
  | false =>
    rw [artifactText_of_disabled mem enabled]
    rfl

/-- The artifacts that are asked for and enabled, with their files. -/
def wanted (artifact : String) (s : Settings) : List (String × String) :=
  artifactFiles.filter fun e => (artifact == "all" || e.1 == artifact) && s.enables e.1

/-- The files that are wanted: those of the requested artifact that are turned on. -/
lemma mem_wanted : e ∈ wanted artifact s ↔
    e ∈ artifactFiles ∧ (artifact = "all" ∨ e.1 = artifact) ∧ s.enables e.1 = true := by
  simp [wanted]

/-- Services are always wanted. -/
lemma services_mem_wanted (s : Settings) : ("services", "services.ts") ∈ wanted "all" s :=
  mem_wanted.mpr ⟨by simp [artifactFiles], .inl rfl, rfl⟩

/-- The files that are delivered are those that are wanted. -/
lemma selected_eq (artifact : String) :
    (artifactFiles.filter fun (name, _) => (artifact == "all" || name == artifact) &&
      !(artifactText (.ofDocument d s) name).isEmpty) = wanted artifact s :=
  List.filter_congr fun e mem => by
    obtain ⟨name, file⟩ := e
    dsimp only
    rw [isEmpty_artifactText mem, Bool.not_not]

/-- Where something is enabled that was asked for, it is written or printed. -/
lemma deliver_of_mem_wanted (mem : e ∈ wanted artifact s) (directory : Option String) :
    deliver (.ofDocument d s) artifact directory =
      match directory with
      | some directory =>
        writeFiles (.ofDocument d s) (wanted artifact s) (Path.ofText directory)
      | none => get >>= fun session =>
        print (shownArtifacts session.console (.ofDocument d s) (wanted artifact s)) := by
  have some : (wanted artifact s).isEmpty = false := by
    rw [List.isEmpty_eq_false_iff]
    exact List.ne_nil_of_mem mem
  unfold deliver
  rw [selected_eq]
  simp only [some]
  rfl

/-- Without a directory, what was asked for is printed. -/
lemma does_deliver_print (mem : e ∈ wanted artifact s) :
    Does (deliver (.ofDocument d s) artifact none) c w (.ok ()) w
      (shownArtifacts c (.ofDocument d s) (wanted artifact s)) := by
  rw [deliver_of_mem_wanted mem]
  refine does_get fun session here _ => ?_
  rw [here]
  exact does_print _

end Delivery

end Session

end ClientSynth
