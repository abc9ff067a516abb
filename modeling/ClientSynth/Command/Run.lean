import ClientSynth.Client.Audit
import ClientSynth.Command.Help
import ClientSynth.Command.Session
import ClientSynth.Document.Sample

/-!
# Running commands

`Program.run` answers the arguments of the program: it runs the command that they ask for in a
workspace, and gives the status, what was written, and the workspace after it. A command that
crashes leaves a file that tells why.
-/

namespace ClientSynth

namespace Session

/-- Records that a document was validated. -/
def recordValidation (v : Validation) : Run Unit := do
  if v.gaveUp then
    alert "validator"
      ("Giving up on coercing documentation after " ++ Text.ofNat maxPasses ++ " passes")
  record "validator"
    ("Validation finished: " ++ Text.ofNat v.report.errors.length ++ " error(s), " ++
      Text.ofNat v.report.warnings.length ++ " warning(s)")

/-- A text, or the word for none. -/
def shownText (s : Option String) : String :=
  s.getD "None"

/-- Records the types in schemas that are not known. -/
def recordUnknownTypes (schemas : List Schema) : Run Unit :=
  (schemas.flatMap TypeScript.TypeExpr.unknownTypes).forM fun type =>
    record "codegen.type_mapper"
      ("No TypeScript mapping for schema type " ++ shownText (type.map Text.quoted) ++
        ", using any")

/-- Records what was generated for an endpoint. -/
def recordService (s : Service) : Run Unit := do
  let e := s.endpoint
  recordUnknownTypes (e.pathParameters.map TypeScript.TypeExpr.parameterSchema)
  record "codegen.services"
    ("Generated " ++ s.functionName ++ " for " ++ shownText e.method ++ " " ++ shownText e.path)
  recordUnknownTypes e.declaredSchemas

/-- Records what was generated for a document. -/
def recordGeneration (d : Document) (s : Settings) (a : Artifacts) : Run Unit := do
  a.services.forM recordService
  if s.includeTypes then recordUnknownTypes d.declaredSchemas
  record "codegen.services"
    ("Generated " ++ Text.ofInt a.totalFunctions ++ " service function(s) for " ++
      shownText d.title)

/-! ## Validation -/

/-- The cells of a fault or a remark in the table of diagnostics. -/
def diagnosticRow (severity field code message : String) (suggestion : Option String) :
    List Value :=
  [severity, if field.isEmpty then "-" else field, code, message, suggestion.getD ""].map .text

/-- The headers of the table of diagnostics. -/
def diagnosticHeaders : List Value :=
  ["Severity", "Field", "Code", "Message", "Suggestion"].map .text

/-- The title of the table of diagnostics. -/
def diagnosticTitle (r : Report) : String :=
  "Diagnostics (" ++ Text.ofNat (r.errors.length + r.warnings.length) ++ ")"

/-- The rows of the table of diagnostics. -/
def diagnosticRows (r : Report) : List (List Value) :=
  r.errors.map (fun e =>
    diagnosticRow "error" e.location.text e.what.code.word e.what.message
      (some e.what.code.suggestion)) ++
  r.warnings.map fun w =>
    diagnosticRow "warning" w.location.text "" w.what.message w.what.suggestion

/-- The report on a document, with the findings of an audit of its services if they are asked for.
-/
def fullReport (document : Value) (withNames : Bool) : Run Report := do
  let v ← orCrash document.validate
  recordValidation v
  if withNames && v.report.isValid then
    match Document.ofValue document with
    | .error rejections => throw (.crash (.rejected .document rejections))
    | .ok d =>
      let a := Artifacts.ofDocument d Settings.default
      recordGeneration d Settings.default a
      pure { v.report with warnings := v.report.warnings ++ Audit.remarks a }
  else pure v.report

/-- A report as a console shows it. The library for colours may refuse a text of the table. -/
def reportText (c : Console) (r : Report) : Except Crash String :=
  match c.format with
  | .json => .ok (c.valueText r.value)
  | .plain | .styled _ =>
    if r.errors.isEmpty && r.warnings.isEmpty then .ok ""
    else c.tableText (diagnosticTitle r) diagnosticHeaders (diagnosticRows r)

/-- Tells what a report comes to. -/
def concludeReport (r : Report) : Run Unit := do
  if !r.isValid then
    say (.error (Text.ofNat r.errors.length ++ " error(s), " ++
      Text.ofNat r.warnings.length ++ " warning(s)"))
    say (.suggestion "Fix the errors above, then run the command again")
    throw (.status faultStatus)
  else if r.warnings.isEmpty then say (.success "Documentation is valid")
  else say (.info ("Valid with " ++ Text.ofNat r.warnings.length ++ " warning(s)"))

/-- Validates a document. -/
def validate (source : String) (withNames : Bool) (input : String) : Run Unit := do
  let report ← fullReport (← document source input) withNames
  print (← orCrash (reportText (← get).console report))
  concludeReport report

/-! ## Generation -/

/-- The names of the artifacts, and the names of their files. -/
def artifactFiles : List (String × String) :=
  [("types", "types.ts"), ("services", "services.ts"), ("hooks", "hooks.ts"), ("index", "index.ts")]

/-- The text of an artifact, which is empty when it is disabled. -/
def artifactText (a : Artifacts) : String → String
  | "types" => a.types
  | "services" => a.servicesCode
  | "hooks" => a.hooks
  | "index" => a.index
  | _ => ""

/-- The artifacts for a document without faults; otherwise tells the faults and stops. -/
def artifacts (source : String) (document : Value) (s : Settings) : Run Artifacts := do
  recordValidation (← orCrash document.validate)
  match Artifacts.ofValue document s with
  | .ok a =>
    (Document.ofValue document).toOption.forM fun d => recordGeneration d s a
    pure a
  | .error (.rejected rejections) => throw (.crash (.rejected .document rejections))
  | .error (.crashed crash) => throw (.crash crash)
  | .error (.blocked v) =>
    alert "pipeline" ("Generation blocked by " ++ Text.ofNat v.report.errors.length ++
      " validation error(s)")
    v.report.errors.forM fun e =>
      let place := e.location.text
      say (.error ((if place.isEmpty then "<document>" else place) ++ ": " ++ e.what.message))
    say (.error (Artifacts.blockedMessage v.report))
    say (.suggestion ("Run: apidocgen validate " ++ source))
    throw (.status faultStatus)

/-- Writes files with the texts of artifacts into a directory. -/
def writeFiles (a : Artifacts) (selected : List (String × String)) (directory : Path) :
    Run Unit := do
  update (Workspace.makeDirectory directory)
  selected.forM fun (name, file) => do
    let path := directory.child file
    update (Workspace.write path (artifactText a name))
    say (.debug ("Wrote " ++ path.text))
  say (.success ("Generated " ++ Text.ofInt a.totalFunctions ++ " service function(s) into " ++
    directory.text))

/-- The texts of artifacts, under banners if there are several. -/
def bannered (c : Console) (a : Artifacts) : List (String × String) → String
  | [(name, _)] => c.codeText (artifactText a name)
  | selected => "\n".intercalate (selected.map fun (name, file) =>
      Console.line ("// ===== " ++ file ++ " =====") ++ c.codeText (artifactText a name))

/-- The texts of artifacts as an object, with the number of functions. -/
def artifactsObject (a : Artifacts) (selected : List (String × String)) : Value :=
  .object (selected.map (fun (name, file) => (file, .text (artifactText a name))) ++
    [("totalFunctions", .int a.totalFunctions)])

/-- Artifacts as a console shows them. -/
def shownArtifacts (c : Console) (a : Artifacts) (selected : List (String × String)) : String :=
  match c.format with
  | .json => c.valueText (artifactsObject a selected)
  | .plain | .styled _ => bannered c a selected

/-- Generates artifacts for a document. -/
def generate (source artifact : String) (directory : Option String) (request : Settings.Request)
    (input : String) : Run Unit := do
  let names := artifactFiles.map Prod.fst
  if artifact != "all" && !names.contains artifact then
    fail ("Unknown artifact '" ++ artifact ++ "'. Choose from: all, " ++ ", ".intercalate names)
      misuseStatus
  let s ← settings request
  let a ← artifacts source (← document source input) s
  (Audit.remarks a).forM fun remark =>
    say (.warning (remark.location.text ++ ": " ++ remark.what.message))
  let selected := artifactFiles.filter fun (name, _) =>
    (artifact == "all" || name == artifact) && !(artifactText a name).isEmpty
  if selected.isEmpty then
    fail ("Artifact '" ++ artifact ++ "' is disabled by the generator configuration") misuseStatus
  match directory with
  | some directory => writeFiles a selected (Path.ofText directory)
  | none => do print (shownArtifacts (← get).console a selected)

/-! ## Samples -/

/-- The row of a sample in the table of samples. -/
def sampleRow (name : String) (document : Value) : List Value :=
  [.text name, .text ((document.field "title").text?.getD ""),
   .text (Text.ofNat (document.field "endpoints").items.length)]

/-- Writes a sample document, or the table of all samples. -/
def sample : Option String → Run Unit
  | none => do
    let rows := Sample.all.map fun (name, document) => sampleRow name document
    print (← orCrash ((← get).console.tableText "Examples"
      (["Name", "Title", "Endpoints"].map .text) rows))
  | some name =>
    match Sample.find? name with
    | some document => do print ((← get).console.valueText document)
    | none => fail (Sample.unknownMessage name) misuseStatus

/-! ## Settings -/

/-- Shows the settings from all sources. -/
def showSettings : Run Unit := do
  let s ← settings Settings.Request.none
  let path ← orCrash ((← get).workspace.settingsPath.mapError .storage)
  say (.info ("Global config file: " ++ path.text))
  print ((← get).console.valueText s.userValue)

/-- Writes the user's settings. -/
def saveSettings (s : Settings) : Run Unit :=
  update s.save

/-- Sets one of the user's settings. -/
def setSetting (key value : String) : Run Unit := do
  update Workspace.makeSettingsDirectory
  let s ← orFail (Settings.loadUser (← get).workspace)
  match s.change key value with
  | .error fault => fail fault.message misuseStatus
  | .ok (s, shown) =>
    saveSettings s
    say (.success ("Set " ++ key ++ " = " ++ shown))

/-- The question before the user's settings are reset. -/
def resetQuestion : String := "Reset all config to defaults? [y/N]: "

/-- Asks until a line says yes or no; an empty line says no. Without a line the command is given
up. -/
def confirm : List (List Char) → Run Bool
  | [] => do
    print resetQuestion
    write "Aborted.\n"
    throw (.status 1)
  | line :: rest => do
    print resetQuestion
    let word := String.ofList (Text.trim Text.isSpace (Text.lower line))
    if ["y", "yes"].contains word then pure true
    else if ["n", "no", ""].contains word then pure false
    else
      print (Console.line "Error: invalid input")
      confirm rest

/-- The lines of an input; what follows the last line end is a line if it is not empty. -/
def inputLines (input : String) : List (List Char) :=
  let parts := Text.splitAt '\n' (Text.lineFeeds input.toList)
  if parts.getLast? = some [] then parts.dropLast else parts

/-- Resets the user's settings, after a question unless it is forced. -/
def resetSettings (isForced : Bool) (input : String) : Run Unit := do
  let isConfirmed ← if isForced then pure true else confirm (inputLines input)
  if isConfirmed then
    saveSettings Settings.default
    say (.success "Configuration reset to defaults.")
  else say (.info "Cancelled.")

/-- Runs a command. -/
def perform (input : String) : Command → Run Unit
  | .validate source withNames => validate source withNames input
  | .generate source artifact directory request => generate source artifact directory request input
  | .sample name => sample name
  | .showSettings => showSettings
  | .setSetting key value => setSetting key value
  | .resetSettings isForced => resetSettings isForced input

/-- Leaves a file about a crash, and gives its path. -/
def logCrash (crash : Crash) : Workspace.Change Path := do
  Workspace.makeDataDirectory
  let directory := (← (← get).dataDirectory).child "logs"
  Workspace.makeDirectory directory
  let path := directory.child ("crash-" ++ (← get).time ++ ".log")
  Workspace.write path (Console.line crash.message)
  pure path

/-- Tells of a crash and leaves a file about it. Nothing is told if there can be no file, or if its
name is refused as markup. -/
def reportCrash (s : Session) (crash : Crash) : Session :=
  let (logged, workspace) := (logCrash crash).run.run s.workspace
  let messages := match logged with
    | .ok path =>
      (s.console.messageText (.error ("Unexpected error. Debug log: " ++ path.text))).toOption.getD
        ""
    | .error _ => ""
  { s with workspace, messages := s.messages ++ messages }

end Session

/-- What came of arguments. -/
structure Completion where
  status : Nat
  output : String
  messages : String
  workspace : Workspace

namespace Completion

/-- The end of a session: without a stop its status is zero. -/
def ofSession (stop : Except Stop Unit) (s : Session) : Completion :=
  match stop with
  | .ok _ => ⟨0, s.output, s.messages, s.workspace⟩
  | .error (.status status) => ⟨status, s.output, s.messages, s.workspace⟩
  | .error (.crash crash) =>
    let s := s.reportCrash crash
    ⟨1, s.output, s.messages, s.workspace⟩

/-- What comes of a command. -/
def ofInvocation (i : Invocation) (input : String) (w : Workspace) : Completion :=
  let (stop, s) := (Session.perform input i.command).run.run ⟨i.console, w, "", ""⟩
  ofSession stop s

/-- What comes of a notice. -/
def ofNotice (n : Notice) (w : Workspace) : Completion :=
  match n with
  | .help topic status => ⟨status, topic.helpText, "", w⟩
  | .version => ⟨0, versionText, "", w⟩
  | .misuse topic => ⟨Session.misuseStatus, "", topic.misuseText, w⟩

end Completion

/-- What comes of the arguments of the program. -/
def Program.run (screen : Screen) (arguments : List String) (input : String) (w : Workspace) :
    Completion :=
  match Invocation.ofArguments screen w arguments with
  | .ok i => .ofInvocation i input w
  | .error notice => .ofNotice notice w

end ClientSynth
