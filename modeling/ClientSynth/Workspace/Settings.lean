import ClientSynth.Client.Settings
import ClientSynth.Crash
import ClientSynth.Json.Printer
import ClientSynth.Text.Case

/-!
# Settings in a workspace

Where settings come from. The user's file fills in what is not set elsewhere; over it go the
project's file, the variables of the environment, and what a command asks for, in this order.
`Settings.resolve` puts them together, and `Settings.save` writes the user's file.
-/

namespace ClientSynth

/-- What is wrong with a file of settings. -/
inductive FileProblem where
  | encoding (fault : Utf8.Fault)
  | json (fault : Json.Fault)
  | rejected (rejections : List Rejection)
  | notObject

/-- The text of a problem. -/
def FileProblem.message : FileProblem → String
  | .encoding fault => fault.message
  | .json fault => fault.message
  | .rejected rs => Rejection.listText .userSettings rs
  | .notObject => "expected a JSON object"

/-- Why there are no settings. -/
inductive SettingsFault where
  | userFile (path : String) (problem : FileProblem)
  | projectFile (path : String) (problem : FileProblem)
  | notSection
  | rejected (rejections : List Rejection)
  | storage (fault : StorageFault)

namespace SettingsFault

/-- The message of a fault. -/
def message : SettingsFault → String
  | .userFile path problem => "Invalid global config at " ++ path ++ ": " ++ problem.message
  | .projectFile path problem => "Invalid project config at " ++ path ++ ": " ++ problem.message
  | .notSection => "Project config 'generator' must be a JSON object"
  | .rejected rs => "Invalid generator config: " ++ Rejection.listText .settings rs
  | .storage fault => fault.message

/-- The rejections that are the cause of a fault. -/
def rejections : SettingsFault → Option (List Rejection)
  | .userFile _ (.rejected rs) => some rs
  | .projectFile _ (.rejected rs) => some rs
  | .rejected rs => some rs
  | _ => none

end SettingsFault

namespace Workspace

/-- The working directory as a path. -/
def currentPath (w : Workspace) : Path :=
  .ofPlace w.current

/-- The home directory. One whose name starts with a tilde stands for that of some user, who is not
known. -/
def home (w : Workspace) : Except StorageFault Path :=
  match w.valueOf? "HOME" with
  | some "" => .ok (.ofPlace [])
  | some text => if text.front == '~' then .error .noHome else .ok (.ofText text)
  | none => .ok w.currentPath

/-- The directory that a variable names, or one in the home directory. -/
def baseDirectory (w : Workspace) (name : String) (default : List String) :
    Except StorageFault Path :=
  match w.valueOf? name with
  | none | some "" => w.home.map fun home => default.foldl Path.child home
  | some text => .ok (.ofText text)

/-- The directory of the user's settings. -/
def settingsDirectory (w : Workspace) : Except StorageFault Path :=
  (w.baseDirectory "XDG_CONFIG_HOME" [".config"]).map fun base => base.child "apidocgen"

/-- The directory of what the program keeps. -/
def dataDirectory (w : Workspace) : Except StorageFault Path :=
  (w.baseDirectory "XDG_DATA_HOME" [".local", "share"]).map fun base => base.child "apidocgen"

/-- The file of the user's settings. -/
def settingsPath (w : Workspace) : Except StorageFault Path :=
  w.settingsDirectory.map fun directory => directory.child "config.json"

/-- The file of the project's settings. -/
def projectPath (w : Workspace) : Path :=
  w.currentPath.child "apidocgen.json"

/-- Makes the directory of the user's settings. -/
def makeSettingsDirectory : Change Unit := do
  makeDirectory (← (← get).settingsDirectory)

/-- Makes the directory of what the program keeps. -/
def makeDataDirectory : Change Unit := do
  makeDirectory (← (← get).dataDirectory)

/-- The value that bytes hold in JSON. -/
def jsonOfBytes (bytes : List UInt8) : Except FileProblem Value := do
  let text ← (decodeText bytes).mapError .encoding
  (Json.parse text).mapError .json

end Workspace

namespace Settings

/-- The user's settings that a value holds. -/
def ofUserValue (v : Value) : Except (List Rejection) Settings :=
  (v.conform (.record .userSettings)).map fun v => read (v.field "generator")

/-- Settings as the user's file holds them. -/
def userValue (s : Settings) : Value :=
  .object [("generator", s.value)]

/-- The settings of the user's file, or the defaults if there is none. -/
def loadUser (w : Workspace) : Except SettingsFault Settings := do
  let path ← w.settingsPath.mapError .storage
  match ← (w.read? path).mapError .storage with
  | none => .ok default
  | some bytes =>
    (do (ofUserValue (← Workspace.jsonOfBytes bytes)).mapError FileProblem.rejected).mapError
      (.userFile path.text)

/-- The text of the user's file. -/
def userText (s : Settings) : String :=
  Json.render Json.indentedAscii s.userValue ++ "\n"

/-- Writes the user's file. -/
def save (s : Settings) : Workspace.Change Unit := do
  Workspace.makeSettingsDirectory
  Workspace.write (← (← get).settingsPath) s.userText

/-- The entries of the project's file, if there is one. -/
def loadProject (w : Workspace) : Except SettingsFault (Option (List (Scalar × Value))) := do
  match ← (w.read? w.projectPath).mapError .storage with
  | none => .ok none
  | some bytes =>
    let found := do
      match ← Workspace.jsonOfBytes bytes with
      | .map entries => .ok entries
      | _ => .error .notObject
    (found.map some).mapError (.projectFile w.projectPath.text)

/-- Whether a value sets nothing: it is absent, false, zero or empty. -/
def isNothing : Value → Bool
  | .scalar s => match s with
    | .null => true
    | .bool b => !b
    | .int n => n == 0
    | .float x => x.isZero
    | .text s => s.isEmpty
    | .bytes bs => bs.isEmpty
    | .date _ | .moment _ => false
  | .list items => items.isEmpty
  | .map entries => entries.isEmpty
  | .set members => members.isEmpty
  | .pair _ _ => false

/-- What a project's file sets. -/
def projectSection (project : List (Scalar × Value)) :
    Except SettingsFault (List (Scalar × Value)) :=
  match lookupText "generator" project with
  | some (.map entries) => .ok entries
  | some v => if isNothing v then .ok [] else .error .notSection
  | none => .ok []

/-- Why one of the user's settings cannot be set. -/
inductive ChangeFault where
  | invalidKey (key : String)
  | unknownKey (key : String)
  | notFlag (key value : String)
  deriving DecidableEq

/-- The message of a fault. -/
def ChangeFault.message : ChangeFault → String
  | .invalidKey key => "Invalid config key: " ++ key
  | .unknownKey key => "Unknown config key: " ++ key
  | .notFlag key value => "Expected true or false for " ++ key ++ ", got: " ++ value

/-- The flag of a word. -/
def flagOfWord? (word : String) : Option Bool :=
  let word := Text.lowerString word
  if ["true", "1", "yes"].contains word then some true
  else if ["false", "0", "no"].contains word then some false
  else none

/-- The settings with a flag set by a word, and the flag as it is shown. -/
def setFlag (key value : String) (set : Bool → Settings) :
    Except ChangeFault (Settings × String) :=
  match flagOfWord? value with
  | some flag => .ok (set flag, (Scalar.bool flag).shown)
  | none => .error (.notFlag key value)

/-- The settings with the one at a key set by a word, and the value as it is shown. The key names
the section and the setting, with a dot between them. -/
def change (s : Settings) (key value : String) : Except ChangeFault (Settings × String) :=
  match (Text.splitAt '.' key.toList).map String.ofList with
  | ["generator", name] =>
    match name with
    | "client_name" => .ok ({ s with clientName := value }, value)
    | "client_import" => .ok ({ s with clientImport := value }, value)
    | "client_factory_import" => .ok ({ s with clientFactoryImport := value }, value)
    | "query_library" => .ok ({ s with queryLibrary := value }, value)
    | "include_types" => setFlag key value fun flag => { s with includeTypes := flag }
    | "include_hooks" => setFlag key value fun flag => { s with includeHooks := flag }
    | _ => .error (.unknownKey key)
  | _ :: _ :: _ => .error (.invalidKey key)
  | _ => .error (.unknownKey key)

/-- What a command asks for. -/
structure Request where
  clientName : Option String
  withoutHooks : Bool
  withoutTypes : Bool
  deriving DecidableEq

/-- A request for nothing. -/
def Request.none : Request := ⟨.none, false, false⟩

/-- What the environment sets. -/
def ofVariables (w : Workspace) : List (String × Value) :=
  (match w.valueOf? "APIDOCGEN_CLIENT_NAME" with
    | .none | some "" => []
    | some name => [("client_name", .text name)]) ++
  (let word := (w.valueOf? "APIDOCGEN_NO_HOOKS").getD ""
    let word := Text.lower (Text.trim Text.isSpace word.toList)
    if ["1", "true", "yes"].contains (String.ofList word) then [("include_hooks", .bool false)]
    else [])

/-- What a request sets. -/
def Request.entries (r : Request) : List (String × Value) :=
  (r.clientName.elim [] fun name => [("client_name", .text name)]) ++
    (if r.withoutHooks then [("include_hooks", .bool false)] else []) ++
    (if r.withoutTypes then [("include_types", .bool false)] else [])

/-- Entries with later ones put in their places. -/
def overlay (entries later : List (Scalar × Value)) : List (Scalar × Value) :=
  later.foldl (fun table e => insertEntry e.1 e.2 table) entries

/-- The settings from all sources. -/
def resolve (w : Workspace) (r : Request) : Except SettingsFault Settings := do
  let user ← loadUser w
  let project ← loadProject w
  let own ← (project.map projectSection).getD (.ok [])
  let texts := fun (entries : List (String × Value)) =>
    entries.map fun e => (Scalar.text e.1, e.2)
  let base := match user.value with
    | .map entries => entries
    | _ => []
  let entries := overlay (overlay (overlay base own) (texts (ofVariables w)))
    (texts r.entries)
  (ofValue (.map entries)).mapError .rejected

end Settings

end ClientSynth
