import ClientSynth.Proofs.Commands
import ClientSynth.Proofs.Precedence

/-!
# Commands agree on documents

Validation, with an audit or without one, and generation look at a document in different ways. Where
nothing is configured they nevertheless end with the status that what was read has, and the audit
only adds remarks to the report (`Session.commands_agree`).

Two things come in between. A console in colours may refuse a text of the document that a command
tells or shows, and which texts these are is different for each command (`Session.writings`). And no
command comes to a report on a document with a status code that no message can hold. The exact
condition for the status that is documented is that neither is the case.

What each command does for each outcome of reading is taken from `Session.does_validate` and
`Session.does_generate` and their companions for what stops on the way; `Session.does_look` brings
it into one form, the texts that are written followed by the outcome.
-/

namespace ClientSynth

/-- Nothing is configured: after the directory of the user's settings was made, there is no file of
settings in it and none in the project, and no variable is set. -/
structure Workspace.IsUnconfigured (w w' : Workspace) : Prop where
  made : makeSettingsDirectory.run.run w = (.ok (), w')
  user : ∃ path, w'.settingsPath = .ok path ∧ w'.read? path = .ok none
  project : w'.read? w'.projectPath = .ok none
  name : w'.valueOf? "APIDOCGEN_CLIENT_NAME" = none
  hooks : w'.valueOf? "APIDOCGEN_NO_HOOKS" = none

/-- A source that can be looked for, the standard input or a path that leads to a place. Its text
has no escape for half a surrogate pair. -/
structure Source.IsGiven (w : Workspace) (source input : String) : Prop where
  reachable : source = inputName ∨ ∃ place, w.placeOf (Path.ofText source) = .ok place
  whole : IsWhole w source input

variable {w w' : Workspace} {source input : String} {c : Console} {v : Validation}
  {entries : List (Scalar × Value)}

namespace Settings

/-- Where nothing is configured, and nothing is asked for, the settings are the defaults. -/
lemma resolve_of_isUnconfigured (unconfigured : w.IsUnconfigured w') :
    resolve w' Request.none = .ok default := by
  obtain ⟨path, found, none⟩ := unconfigured.user
  refine (resolve_eq_ok_iff (.absent found none) (.absent unconfigured.project)).mpr ?_
  have unset (key : String) : setByVariables w' key = .none := by
    unfold setByVariables
    rw [unconfigured.name, unconfigured.hooks]
    split <;> rfl
  simp only [chosen, unset]
  exact RecordName.forall_settingsFields rfl rfl rfl rfl rfl rfl

end Settings

namespace Source

/-- Making the directory of the user's settings does not matter for a file. -/
lemma read?_of_isUnconfigured (unconfigured : w.IsUnconfigured w') {place : Place}
    (found : w.placeOf (Path.ofText source) = .ok place) :
    w'.read? (Path.ofText source) = w.read? (Path.ofText source) := by
  obtain ⟨grows, files, _⟩ := Workspace.of_makeSettingsDirectory unconfigured.made
  unfold Workspace.read?
  rw [grows.placeOf found, found]
  dsimp only
  rw [files]

/-- Making the directory of the user's settings does not matter for a source. -/
lemma load_of_isUnconfigured (unconfigured : w.IsUnconfigured w')
    (given : IsGiven w source input) : load w' source input = load w source input := by
  obtain ⟨grows, _, _⟩ := Workspace.of_makeSettingsDirectory unconfigured.made
  unfold load
  rw [grows.setOrder]
  rcases given.reachable with rfl | ⟨place, found⟩
  · rfl
  · dsimp only
    rw [read?_of_isUnconfigured unconfigured found]

/-- The source is read as a whole in a workspace in which nothing is configured. -/
lemma isWhole_of_isUnconfigured (unconfigured : w.IsUnconfigured w')
    (given : IsGiven w source input) : IsWhole w' source input := by
  rintro format text (standard | ⟨other, read, written⟩)
  · exact given.whole _ _ (.input standard)
  · obtain ⟨place, found⟩ := given.reachable.resolve_left other
    rw [read?_of_isUnconfigured unconfigured found] at read
    exact given.whole _ _ (.file other read written)

end Source

/-- Without files of settings there is no escape in them. -/
lemma Settings.areWhole_of_isUnconfigured (unconfigured : w.IsUnconfigured w') :
    AreWhole w' := by
  obtain ⟨userPath, found, none⟩ := unconfigured.user
  rintro path text (user | rfl) read
  · obtain rfl := Except.ok.inj (found.symm.trans user)
    exact nomatch none.symm.trans read
  · exact nomatch unconfigured.project.symm.trans read

namespace Session

/-- The commands that look at a document: validation without an audit and with one, and
generation. -/
def looks (source : String) : List Command :=
  [.validate source false, .validate source true, .generate source "all" none .none]

/-! ## Statuses -/

/-- The status of a command that looks at a document, by what was read. -/
def statusFor : Except Source.Fault Source.Entries → Nat
  | .error (.refused _) => 7
  | .error (.crashed _) => 1
  | .ok entries =>
    match (Value.map entries).validate with
    | .ok v => if v.report.isValid then 0 else 8
    | .error _ => 1

/-- The status that is documented for what was read; what neither is read nor refused has none. -/
def documentedStatus : Except Source.Fault Source.Entries → Option Nat
  | .error (.refused _) => some 7
  | .error (.crashed _) => none
  | .ok entries => some (if (Validation.ofValue (.map entries)).report.isValid then 0 else 8)

/-- Messages can hold the status codes of what was read, as far as there are some. -/
def Fits (read : Except Source.Fault Source.Entries) : Prop :=
  ∀ entries, read = .ok entries → (Validation.ofValue (.map entries)).isOversized = false

/-- The outcome of a command that looks at a document ends it with the status for what was read. -/
lemma statusOf_outcome (read : Except Source.Fault Source.Entries) :
    Completion.statusOf (outcome read) = statusFor read := by
  match read with
  | .error (.refused _) | .error (.crashed _) => rfl
  | .ok entries =>
    unfold outcome statusFor
    dsimp only
    cases (Value.map entries).validate with
    | error crash => rfl
    | ok v =>
      dsimp only
      unfold verdict
      split <;> rfl

/-- The documented status is that of commands exactly where messages can hold the status codes. -/
lemma statusFor_eq_iff {read : Except Source.Fault Source.Entries} {status : Nat}
    (documented : documentedStatus read = some status) : statusFor read = status ↔ Fits read := by
  cases read with
  | error fault =>
    cases fault with
    | refused reason =>
      cases documented
      refine iff_of_true rfl fun entries found => ?_
      cases found
    | crashed crash => cases documented
  | ok entries =>
    cases documented
    unfold statusFor Fits
    dsimp only
    cases fits : (Validation.ofValue (.map entries)).isOversized with
    | false =>
      rw [Value.validate_of_fits fits]
      refine iff_of_true rfl fun _ found => ?_
      cases found
      exact fits
    | true =>
      have stops : (Value.map entries).validate = .error .oversized := by
        rw [Value.validate, Validation.checked, if_pos fits]
      rw [stops]
      refine iff_of_false ?_ fun all => ?_
      · dsimp only
        split <;> decide
      · cases (all entries rfl).symm.trans fits

/-- Every documented status is other than that of a crash. -/
lemma ne_one_of_documentedStatus {read : Except Source.Fault Source.Entries} {status : Nat}
    (documented : documentedStatus read = some status) : status ≠ 1 := by
  match read with
  | .error (.refused _) => cases documented; nofun
  | .ok entries =>
    cases documented
    split <;> nofun

/-! ## What commands write -/

/-- All that a command that looks at a document tells and shows for what was read, as a console
writes it. -/
def writings (c : Console) (source : String) (read : Except Source.Fault Source.Entries) :
    Command → List (Except Crash String) := fun command =>
  match read with
  | .error (.refused refusal) => [c.messageText (.error refusal.message)]
  | .error (.crashed _) => []
  | .ok entries =>
    match (Value.map entries).validate, command with
    | .ok v, .validate _ withNames =>
      let r := auditedReport (.map entries) v.report withNames
      reportText c r :: (closing r).map c.messageText
    | .ok v, _ =>
      if v.report.isValid then
        (auditRemarks Settings.default (.map entries)).map fun remark =>
          c.messageText (warningOf remark)
      else (blockedMessages source v.report).map c.messageText
    | .error _, _ => []

/-- A console writes all that a command tells and shows: nothing in it is refused. -/
def WritesAll (c : Console) (source : String) (read : Except Source.Fault Source.Entries)
    (command : Command) : Prop :=
  ∀ text ∈ writings c source read command, text.isOk = true

/-- A plain console without colours writes everything. -/
lemma writesAll_of_colourless (colourless : c.colours = none)
    (plain : c.format = .plain ∨ c.format = .json) (read : Except Source.Fault Source.Entries)
    (command : Command) : WritesAll c source read command := by
  have tells (m : Message) : (c.messageText m).isOk = true :=
    Console.tells_of_colourless colourless m
  have shows (r : Report) : (reportText c r).isOk = true := by
    rcases plain with plain | json
    · rw [reportText_plain plain]
      rfl
    · rw [reportText_json json]
      rfl
  have told (messages : List Message) : ∀ text ∈ messages.map c.messageText, text.isOk = true :=
    List.forall_mem_map.mpr fun m _ => tells m
  unfold WritesAll writings
  match read with
  | .error (.refused _) => exact List.forall_mem_singleton.mpr (tells _)
  | .error (.crashed _) => exact List.forall_mem_nil _
  | .ok entries =>
    dsimp only
    split
    · exact List.forall_mem_cons.mpr ⟨shows _, told _⟩
    · split
      · exact List.forall_mem_map.mpr fun _ _ => tells _
      · exact told _
    · exact List.forall_mem_nil _

/-- The end of a step that tells why there is no document. -/
lemma afterLoad_refused (refusal : Source.Refusal) :
    ∃ stop, afterLoad c (.error (.refused refusal)) = .error stop ∧
      (writtenAll [c.messageText (.error refusal.message)] >>= fun _ =>
        (.error (.status sourceStatus) : Except Stop Unit)) = .error stop := by
  rw [show afterLoad c (.error (.refused refusal)) =
    (failed c refusal.message sourceStatus : Except Stop Value) from rfl, failed]
  cases c.messageText (.error refusal.message) with
  | ok _ => exact ⟨_, rfl, rfl⟩
  | error _ => exact ⟨_, rfl, rfl⟩

/-- Validation writes its texts, and ends as what was read has it. -/
lemma does_look_validate (withNames : Bool) : ∃ output,
    Does (validate source withNames input) c w
      (writtenAll (writings c source (Source.load w source input) (.validate source withNames)) >>=
        fun _ => outcome (Source.load w source input)) w output := by
  cases loaded : Source.load w source input with
  | error fault =>
    cases fault with
    | refused refusal =>
      obtain ⟨stop, stops, same⟩ := afterLoad_refused (c := c) refusal
      refine ⟨"", ?_⟩
      rw [← loaded] at stops
      exact same.symm ▸ does_validate_of_error withNames stops
    | crashed crash =>
      refine ⟨"", does_validate_of_error withNames ?_⟩
      rw [loaded]
      rfl
  | ok entries =>
    unfold writings outcome
    dsimp only
    cases checked : (Value.map entries).validate with
    | error crash => exact ⟨"", does_validate_of_crash withNames loaded checked⟩
    | ok v =>
      have does := does_validate (c := c) withNames loaded checked
      rw [← bind_assoc] at does
      exact ⟨_, does⟩

/-- Where nothing is configured, a source is read as it is before settings are looked for. -/
lemma does_document_of_isUnconfigured (unconfigured : w.IsUnconfigured w')
    (given : Source.IsGiven w source input) :
    Does (document source input) c w' (afterLoad c (Source.load w source input)) w' "" := by
  rw [← Source.load_of_isUnconfigured unconfigured given]
  exact does_document source input

/-- Where nothing is configured, generation stops as reading a document or making the artifacts of
it does. -/
lemma does_generate_of_isUnconfigured (unconfigured : w.IsUnconfigured w') {stop : Stop}
    (stops : Does (document source input >>= fun x => artifacts source x Settings.default) c w'
      (.error stop) w' "") :
    Does (generate source "all" none .none input) c w (.error stop) w' "" :=
  does_generate_of_stop (.inl rfl) unconfigured.made
    (Settings.resolve_of_isUnconfigured unconfigured) stops

/-- From a document with faults nothing is generated, and the faults are told. -/
lemma does_generate_blocked {entries : Source.Entries} (unconfigured : w.IsUnconfigured w')
    (given : Source.IsGiven w source input) (loaded : Source.load w source input = .ok entries)
    (checked : (Value.map entries).validate = .ok v) (faulty : v.report.isValid = false) :
    Does (generate source "all" none .none input) c w
      (toldAll c (blockedMessages source v.report) >>= fun _ => .error (.status faultStatus))
      w' "" := by
  have loads := does_document_of_isUnconfigured (c := c) unconfigured given
  rw [loaded] at loads
  have blocked : Does (document source input >>= fun x => artifacts source x Settings.default) c w'
      (toldAll c (blockedMessages source v.report) >>= fun _ => .error (.status faultStatus))
      w' "" :=
    loads.after (does_artifacts_of_blocked checked faulty)
  -- Whether the faults are told or one of them is refused, the command stops.
  cases told : toldAll c (blockedMessages source v.report) with
  | ok _ =>
    rw [told] at blocked
    exact does_generate_of_isUnconfigured unconfigured blocked
  | error stop =>
    rw [told] at blocked
    exact does_generate_of_isUnconfigured unconfigured blocked

/-- From a document without faults artifacts are generated, once the remarks of an audit are told. -/
lemma does_generate_remarked {entries : Source.Entries} (unconfigured : w.IsUnconfigured w')
    (given : Source.IsGiven w source input) (loaded : Source.load w source input = .ok entries)
    (checked : (Value.map entries).validate = .ok v) (valid : v.report.isValid = true) :
    ∃ output, Does (generate source "all" none .none input) c w
      (toldAll c ((auditRemarks Settings.default (.map entries)).map warningOf)) w' output := by
  obtain ⟨d, isDocument⟩ := Value.exists_document_of_validate checked valid
  have prepared : Prepares w source input .none w' Settings.default entries :=
    ⟨unconfigured.made, Settings.resolve_of_isUnconfigured unconfigured,
      (Source.load_of_isUnconfigured unconfigured given).trans loaded, ⟨v, checked, valid⟩,
      Source.isWhole_of_isUnconfigured unconfigured given,
      Settings.areWhole_of_isUnconfigured unconfigured⟩
  have remarks : auditRemarks Settings.default (.map entries) =
      Audit.remarks (Artifacts.ofDocument d Settings.default) := by
    rw [auditRemarks, isDocument]
    rfl
  rw [remarks]
  cases told : toldAll c
      ((Audit.remarks (Artifacts.ofDocument d Settings.default)).map warningOf) with
  | ok _ =>
    exact ⟨_, does_generate (.inl rfl) prepared isDocument
      (List.forall_mem_map.mp (toldAll_eq_ok_iff.mp told))
      (does_deliver_print (services_mem_wanted _))⟩
  | error stop => exact ⟨_, does_generate_of_refused (.inl rfl) prepared isDocument told⟩

/-- Where nothing is configured, generation writes its texts, and ends as what was read has it. -/
lemma does_look_generate (unconfigured : w.IsUnconfigured w')
    (given : Source.IsGiven w source input) : ∃ output,
    Does (generate source "all" none .none input) c w
      (writtenAll (writings c source (Source.load w source input)
        (.generate source "all" none .none)) >>=
        fun _ => outcome (Source.load w source input)) w' output := by
  have loads := does_document_of_isUnconfigured (c := c) unconfigured given
  cases loaded : Source.load w source input with
  | error fault =>
    rw [loaded] at loads
    cases fault with
    | refused refusal =>
      obtain ⟨stop, stops, eq⟩ := afterLoad_refused (c := c) refusal
      rw [stops] at loads
      exact ⟨"", eq.symm ▸ does_generate_of_isUnconfigured unconfigured loads.halt⟩
    | crashed crash => exact ⟨"", does_generate_of_isUnconfigured unconfigured loads.halt⟩
  | ok entries =>
    rw [loaded] at loads
    unfold writings outcome
    dsimp only
    cases checked : (Value.map entries).validate with
    | error crash =>
      exact ⟨"", does_generate_of_isUnconfigured unconfigured
        (loads.after (does_artifacts_of_crash checked))⟩
    | ok v =>
      dsimp only
      cases valid : v.report.isValid with
      | false =>
        rw [verdict, valid]
        exact ⟨"", does_generate_blocked unconfigured given loaded checked valid⟩
      | true =>
        obtain ⟨output, does⟩ :=
          does_generate_remarked (c := c) unconfigured given loaded checked valid
        rw [toldAll, List.map_map] at does
        rw [verdict, valid, if_pos rfl, if_pos rfl]
        refine ⟨output, ?_⟩
        change Does _ c w (writtenAll _ >>= fun _ => pure ()) w' output
        rw [bind_pure_unit]
        exact does

/-- A command that looks at a document writes its texts, and ends as what was read has it. -/
lemma does_look (unconfigured : w.IsUnconfigured w') (given : Source.IsGiven w source input)
    {command : Command} (mem : command ∈ looks source) : ∃ output w'',
    Does (perform input command) c w
      (writtenAll (writings c source (Source.load w source input) command) >>=
        fun _ => outcome (Source.load w source input)) w'' output := by
  simp only [looks, List.mem_cons, List.not_mem_nil, or_false] at mem
  rcases mem with rfl | rfl | rfl
  · obtain ⟨output, does⟩ := does_look_validate (c := c) (w := w) false
    exact ⟨output, w, does⟩
  · obtain ⟨output, does⟩ := does_look_validate (c := c) (w := w) true
    exact ⟨output, w, does⟩
  · obtain ⟨output, does⟩ := does_look_generate (c := c) unconfigured given
    exact ⟨output, w', does⟩

/-! ## Agreement -/

/-- What two reports have in common: the second may have more remarks. -/
structure Extends (report more : Value) : Prop where
  errors : more.field "errors" = report.field "errors"
  warnings : (report.field "warnings").items <+: (more.field "warnings").items

/-- How the commands that look at a document go together. -/
structure Agree (c : Console) (w : Workspace) (source input : String) : Prop where
  /-- The status of a command is that for what was read, if all that it tells and shows is written.
  -/
  status : ∀ command ∈ looks source, WritesAll c source (Source.load w source input) command →
    (Completion.ofInvocation ⟨c, command⟩ input w).status = statusFor (Source.load w source input)
  /-- If something is refused, the command crashes. -/
  refused : ∀ command ∈ looks source, ¬WritesAll c source (Source.load w source input) command →
    (Completion.ofInvocation ⟨c, command⟩ input w).status = 1
  /-- So a command has the documented status exactly if all is written that it tells and shows, and
  messages can hold the status codes. -/
  documented : ∀ status, documentedStatus (Source.load w source input) = some status →
    ∀ command ∈ looks source, ((Completion.ofInvocation ⟨c, command⟩ input w).status = status ↔
      WritesAll c source (Source.load w source input) command ∧
        Fits (Source.load w source input))
  /-- As JSON, validation with an audit has the errors of the report without one and, before any
  others, its warnings. -/
  reports : c.format = .json → ∀ entries v, Source.load w source input = .ok entries →
    (Value.map entries).validate = .ok v → ∃ more,
      Json.parse (Completion.ofInvocation ⟨c, .validate source false⟩ input w).output =
        .ok v.report.value ∧
      Json.parse (Completion.ofInvocation ⟨c, .validate source true⟩ input w).output = .ok more ∧
      Extends v.report.value more

/-- A command whose texts are all written has the status for what was read. -/
lemma status_of_writesAll (unconfigured : w.IsUnconfigured w')
    (given : Source.IsGiven w source input) {command : Command} (mem : command ∈ looks source)
    (all : WritesAll c source (Source.load w source input) command) :
    (Completion.ofInvocation ⟨c, command⟩ input w).status =
      statusFor (Source.load w source input) := by
  obtain ⟨output, w'', does⟩ := does_look (c := c) unconfigured given mem
  rw [writtenAll_eq_ok_iff.mpr all] at does
  rw [(Completion.is_ofInvocation ⟨c, command⟩ input does).status_eq, ← statusOf_outcome]
  rfl

/-- A command crashes if one of its texts is refused. -/
lemma status_of_refused (unconfigured : w.IsUnconfigured w')
    (given : Source.IsGiven w source input) {command : Command} (mem : command ∈ looks source)
    (some : ¬WritesAll c source (Source.load w source input) command) :
    (Completion.ofInvocation ⟨c, command⟩ input w).status = 1 := by
  obtain ⟨output, w'', does⟩ := does_look (c := c) unconfigured given mem
  obtain ⟨crash, crashes⟩ := exists_crash_of_writtenAll some
  rw [crashes] at does
  rw [(Completion.is_ofInvocation ⟨c, command⟩ input does).status_eq]
  rfl

/-- As JSON, validation with an audit prints the report of validation without one, with more
remarks at its end. -/
lemma exists_extended_report {entries : Source.Entries} (json : c.format = .json)
    (loaded : Source.load w source input = .ok entries)
    (checked : (Value.map entries).validate = .ok v) : ∃ more,
    Json.parse (Completion.ofInvocation ⟨c, .validate source false⟩ input w).output =
      .ok v.report.value ∧
    Json.parse (Completion.ofInvocation ⟨c, .validate source true⟩ input w).output = .ok more ∧
    Extends v.report.value more := by
  have plain := Completion.is_ofInvocation ⟨c, .validate source false⟩ input
    (does_validate (c := c) false loaded checked)
  have named := Completion.is_ofInvocation ⟨c, .validate source true⟩ input
    (does_validate (c := c) true loaded checked)
  obtain ⟨more, _, report⟩ := exists_auditedReport_eq (.map entries) v.report true
  obtain ⟨none, unnamed, report'⟩ := exists_auditedReport_eq (.map entries) v.report false
  refine ⟨({ v.report with warnings := v.report.warnings ++ more } : Report).value, ?_, ?_, rfl, ?_⟩
  · rw [plain.output_eq, report', unnamed rfl, List.append_nil, reportText_json json]
    exact Console.parse_jsonText (Report.isExact_value _)
  · rw [named.output_eq, report, reportText_json json]
    exact Console.parse_jsonText (Report.isExact_value _)
  · change v.report.warnings.map Report.remarkValue <+:
      (v.report.warnings ++ more).map Report.remarkValue
    rw [List.map_append]
    exact List.prefix_append _ _

/-- Where nothing is configured, the commands that look at a document go together. -/
theorem commands_agree (unconfigured : w.IsUnconfigured w')
    (given : Source.IsGiven w source input) : Agree c w source input where
  status _ mem all := status_of_writesAll unconfigured given mem all
  refused _ mem some := status_of_refused unconfigured given mem some
  documented n documented command mem := by
    by_cases all : WritesAll c source (Source.load w source input) command
    · rw [status_of_writesAll unconfigured given mem all, and_iff_right all,
        statusFor_eq_iff documented]
    · rw [status_of_refused unconfigured given mem all]
      exact iff_of_false (ne_one_of_documentedStatus documented).symm fun both => all both.1
  reports json _ _ loaded checked := exists_extended_report json loaded checked

/-- The place at which a part starts in a text. -/
def startOf? (part : List Char) : List Char → Option Nat
  | [] => none
  | c :: rest => if part.isPrefixOf (c :: rest) then some 0 else (startOf? part rest).map (· + 1)

/-- A library that refuses a tag which closes nothing. -/
def refusing : Terminal where
  message text :=
    match startOf? "[/x]".toList text.toList with
    | none => .ok (Console.line text)
    | some place => .error ("closing tag '[/x]' at position " ++ Text.ofNat place ++
      " doesn't match any open tag")
  table _ _ _ := .ok ""
  code _ code := code

/-- A workspace with a directory in which a file would have a path that reads as a tag. -/
def bracketed : Workspace := ⟨[], [["["]], [], [], "", .asWritten⟩

/-- Where there is no file the commands end with the status that is documented for it, but they
crash if its path is refused as markup. -/
theorem commands_agree_refusedPath : ∃ w', bracketed.IsUnconfigured w' ∧
    Source.IsGiven bracketed "[/x]" "" ∧
    documentedStatus (Source.load bracketed "[/x]" "") = some 7 ∧
    ∀ command ∈ looks "[/x]",
      (Completion.ofInvocation ⟨.colourless .plain false false, command⟩ "" bracketed).status = 7 ∧
      (Completion.ofInvocation ⟨⟨.plain, false, false, some refusing⟩, command⟩ ""
        bracketed).status = 1 := by
  -- The path leads into the directory, to a place where there is nothing.
  have path : Path.ofText "[/x]" = ⟨.working, ["[", "x]"]⟩ := rfl
  have found : bracketed.placeOf (Path.ofText "[/x]") = .ok ["[", "x]"] := by
    rw [path]
    rfl
  have none : bracketed.read? (Path.ofText "[/x]") = .ok none :=
    Workspace.read?_of_noFile found rfl
  have unconfigured : bracketed.IsUnconfigured
      { bracketed with directories := [["["], [".config"], [".config", "apidocgen"]] } :=
    ⟨rfl, ⟨_, rfl, Workspace.read?_of_noFile rfl rfl⟩, Workspace.read?_of_noFile rfl rfl, rfl, rfl⟩
  have given : Source.IsGiven bracketed "[/x]" "" := by
    refine ⟨.inr ⟨_, found⟩, ?_⟩
    rintro format text (standard | ⟨_, read, _⟩)
    · exact absurd standard (by decide)
    · exact nomatch none.symm.trans read
  have loaded : Source.load bracketed "[/x]" "" = .error (.refused (.noFile "[/x]")) := by
    unfold Source.load
    rw [if_neg (by decide)]
    dsimp only
    rw [none]
  refine ⟨_, unconfigured, given, by rw [loaded]; rfl, fun command mem => ⟨?_, ?_⟩⟩
  · have agree : Agree (.colourless .plain false false) bracketed "[/x]" "" :=
      commands_agree unconfigured given
    rw [agree.status command mem (writesAll_of_colourless rfl (.inl rfl) _ _), loaded]
    rfl
  · have agree : Agree ⟨.plain, false, false, some refusing⟩ bracketed "[/x]" "" :=
      commands_agree unconfigured given
    refine agree.refused command mem ?_
    have refused : ((⟨.plain, false, false, some refusing⟩ : Console).messageText
        (.error (Source.Refusal.noFile "[/x]").message)).isOk = false := by decide +kernel
    rw [loaded]
    intro all
    exact absurd (all _ List.mem_cons_self) (by rw [refused]; exact Bool.false_ne_true)

end Session

end ClientSynth
