import ClientSynth.Command.Run

/-!
# The program

`main` gathers what a command may look at, runs the command, and does what came of it: it writes the
files that are new or changed, and the two outputs.
-/

namespace ClientSynth.Program

/-- The variables of the environment that commands look at. -/
def variableNames : List String :=
  ["HOME", "XDG_CONFIG_HOME", "XDG_DATA_HOME", "APIDOCGEN_CLIENT_NAME", "APIDOCGEN_NO_HOOKS",
   "NO_COLOR", "TERM"]

/-- The variables that are set. -/
def readVariables : IO (List (String × String)) :=
  variableNames.filterMapM fun name => do
    return (← IO.getEnv name).map fun value => (name, value)

/-- The workspace with the file at a path, if there is one. -/
def withFile (w : Workspace) (p : Path) : IO Workspace := do
  let found ← try some <$> IO.FS.readBinFile p.text catch _ => pure none
  match found with
  | none => return w
  | some bytes =>
    let added : Workspace.Change Unit := do
      Workspace.makeDirectory p.parent
      Workspace.writeBytes p bytes.toList
    return (added.run.run w).2

/-- The sources that a command reads. -/
def sourcesOf : Command → List String
  | .validate source _ | .generate source _ _ _ => [source]
  | _ => []

/-- A workspace without files. -/
def readSurroundings : IO Workspace := do
  let current := Path.ofText ((← IO.getEnv "PWD").getD "/")
  return ⟨[], [], current.parts, ← readVariables, Text.ofNat (← IO.monoMsNow), .asWritten⟩

/-- The workspace with the files that a command may look at. -/
def readFiles (w : Workspace) (c : Command) : IO Workspace := do
  let w ← match w.settingsPath with
    | .ok path => withFile w path
    | .error _ => pure w
  let w ← withFile w w.projectPath
  (sourcesOf c).foldlM (fun w source => withFile w (Path.ofText source)) w

/-- The standard input up to its end. -/
def readInput : IO String := do
  let bytes ← (← IO.getStdin).readBinToEnd
  match Utf8.decode bytes.toList with
  | .ok text => return String.ofList text
  | .error fault => throw (IO.userError fault.message)

/-- Makes the directories and writes the files that a workspace has beyond an earlier one. -/
def writeChanges (before after : Workspace) : IO Unit := do
  for place in after.directories do
    if !before.directories.contains place then
      IO.FS.createDirAll (Path.text (.ofPlace place))
  for (place, bytes) in after.files do
    if before.fileAt? place != some bytes then
      IO.FS.writeBinFile (Path.text (.ofPlace place)) ⟨bytes.toArray⟩

/-- Does what came of a command, of whose output a part was shown before. -/
def finish (before : Workspace) (shown : Nat) (c : Completion) : IO UInt32 := do
  writeChanges before c.workspace
  IO.print (c.output.drop shown)
  IO.eprint c.messages
  return c.status.toUInt32

/-- Runs a command that asks questions. While it comes to the end of its input, its output is shown
and one more line is read. -/
partial def converse (i : Invocation) (w : Workspace) (shown : Nat) (input : String) :
    IO UInt32 := do
  let c := Completion.ofInvocation i input w
  if c.status == 0 then finish w shown c
  else
    IO.print (c.output.drop shown)
    (← IO.getStdout).flush
    let line ← (← IO.getStdin).getLine
    let shown := c.output.length
    if line.isEmpty then finish w shown c else converse i w shown (input ++ line)

/-- Runs what an invocation asks for. -/
def perform (i : Invocation) (surroundings : Workspace) : IO UInt32 := do
  let w ← readFiles surroundings i.command
  match i.command with
  | .resetSettings false => converse i w 0 ""
  | command =>
    let input ← if (sourcesOf command).contains Source.inputName then readInput else pure ""
    finish w 0 (Completion.ofInvocation i input w)

end ClientSynth.Program

/-- Answers the arguments of the program, which has no library for colours. -/
def main (arguments : List String) : IO UInt32 := do
  let w ← ClientSynth.Program.readSurroundings
  match ClientSynth.Invocation.ofArguments ⟨none, false⟩ w arguments with
  | .ok i => ClientSynth.Program.perform i w
  | .error notice => ClientSynth.Program.finish w 0 (ClientSynth.Completion.ofNotice notice w)
