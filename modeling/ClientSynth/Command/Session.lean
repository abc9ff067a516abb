import ClientSynth.Command.Console
import ClientSynth.Workspace.Settings
import ClientSynth.Workspace.Source

/-!
# Sessions

A `Session` is a running command: how it writes, what it finds around it, and what it has written. A
step of it may stop the command with a status or a crash.
-/

namespace ClientSynth

/-- A running command. -/
structure Session where
  console : Console
  workspace : Workspace
  /-- What was written to the standard output. -/
  output : String
  /-- What was written to the standard error. -/
  messages : String

/-- Why a command stops before its end. -/
inductive Stop where
  | status (status : Nat)
  | crash (crash : Crash)

namespace Session

/-- A step of a command. -/
abbrev Run := ExceptT Stop (StateM Session)

/-- Writes to the standard output. -/
def print (text : String) : Run Unit :=
  modify fun s => { s with output := s.output ++ text }

/-- Writes to the standard error. -/
def write (text : String) : Run Unit :=
  modify fun s => { s with messages := s.messages ++ text }

/-- The result of a step that may crash. -/
def orCrash : Except Crash α → Run α
  | .ok a => pure a
  | .error crash => throw (.crash crash)

/-- Writes a message. -/
def say (m : Message) : Run Unit := do
  write (← orCrash ((← get).console.messageText m))

/-- Writes an error and stops. -/
def fail (text : String) (status : Nat) : Run α := do
  say (.error text)
  throw (.status status)

/-- A record for finding errors, by the part of the program that makes it. It is written only on
request, and never with markup. -/
def record (part text : String) : Run Unit := do
  if (← get).console.isVerbose then
    write (Console.line ("[debug] apidocgen." ++ part ++ ": " ++ text))

/-- A record of something unusual. It is always written, and on request with the part of the program
that makes it. -/
def alert (part text : String) : Run Unit := do
  if (← get).console.isVerbose then record part text else write (Console.line text)

/-- Changes the workspace. -/
def update (change : Workspace.Change Unit) : Run Unit := do
  let s ← get
  let (result, w) := change.run.run s.workspace
  set { s with workspace := w }
  orCrash (result.mapError .storage)

/-- The status of a command that cannot work with its settings. -/
def settingsStatus : Nat := 1

/-- The status of a command with arguments that name nothing. -/
def misuseStatus : Nat := 2

/-- The status of a command without a document. -/
def sourceStatus : Nat := 7

/-- The status of a command whose document has faults. -/
def faultStatus : Nat := 8

/-- The settings that were found. -/
def orFail : Except SettingsFault Settings → Run Settings
  | .ok settings => pure settings
  | .error (.storage fault) => throw (.crash (.storage fault))
  | .error fault => fail fault.message settingsStatus

/-- The settings from all sources. -/
def settings (request : Settings.Request) : Run Settings := do
  update Workspace.makeSettingsDirectory
  orFail (Settings.resolve (← get).workspace request)

/-- The document of a source. -/
def document (source input : String) : Run Value := do
  match Source.load (← get).workspace source input with
  | .ok entries => pure (.map entries)
  | .error (.refused refusal) => fail refusal.message sourceStatus
  | .error (.crashed crash) => throw (.crash crash)

end Session

end ClientSynth
