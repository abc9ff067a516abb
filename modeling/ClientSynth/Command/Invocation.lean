import ClientSynth.Command.Arguments
import ClientSynth.Command.Console
import ClientSynth.Workspace.Settings

/-!
# Invocations

An `Invocation` is what the arguments of the program ask for. Arguments may instead ask for a page
of help or the version, or make no sense; then there is a `Notice`.
-/

namespace ClientSynth

/-- What the program is to do. -/
inductive Command where
  | validate (source : String) (withNames : Bool)
  | generate (source artifact : String) (directory : Option String) (request : Settings.Request)
  | sample (name : Option String)
  | showSettings
  | setSetting (key value : String)
  | resetSettings (isForced : Bool)
  deriving DecidableEq

/-- What the arguments ask for. -/
structure Invocation where
  console : Console
  command : Command

/-- What the program writes to. -/
structure Screen where
  /-- The library for colours, if the program has one. -/
  library : Option Terminal
  /-- Whether the standard output is a terminal. -/
  isInteractive : Bool

/-- A part of the program that has a page of help. -/
inductive Topic where
  | program
  | validate
  | generate
  | sample
  | settings
  | showSettings
  | setSetting
  | resetSettings
  deriving DecidableEq

/-- An answer to arguments that ask for no command. -/
inductive Notice where
  /-- A page of help, with the status to exit with. -/
  | help (topic : Topic) (status : Nat)
  | version
  | misuse (topic : Topic)
  deriving DecidableEq

namespace Invocation

/-- An option without a value. -/
def flag (word : String) (letter : Option Char) : CommandOption := ⟨word, letter, false⟩

/-- The option that asks for help. -/
def helpFlag : CommandOption := flag "help" none

/-- The options of the program. -/
def programOptions : List CommandOption :=
  [flag "version" none, flag "json" none, flag "plain" none, flag "no-color" none,
   flag "quiet" (some 'q'), flag "verbose" (some 'v'), helpFlag]

/-- The options of a part of the program. -/
def optionsOf : Topic → List CommandOption
  | .program => programOptions
  | .validate => [flag "check-names" none, helpFlag]
  | .generate =>
    [⟨"artifact", some 'a', true⟩, ⟨"output-dir", some 'o', true⟩, ⟨"client-name", none, true⟩,
     flag "no-hooks" none, flag "no-types" none, helpFlag]
  | .resetSettings => [flag "force" (some 'f'), helpFlag]
  | .sample | .settings | .showSettings | .setSetting => [helpFlag]

/-- What writes in colours: the library of the screen, unless an option or a variable rules colours
out. -/
def coloursOf (screen : Screen) (w : Workspace) (a : Arguments) : Option Terminal :=
  if a.has "no-color" || (w.valueOf? "NO_COLOR").isSome || w.valueOf? "TERM" == some "dumb" then
    none
  else screen.library

/-- The console that the options of the program ask for. Data has a style only on a terminal. -/
def consoleOf (screen : Screen) (w : Workspace) (a : Arguments) : Console :=
  let colours := coloursOf screen w a
  { format :=
      if a.has "json" then .json
      else if a.has "plain" || !screen.isInteractive then .plain
      else colours.elim .plain .styled
    isQuiet := a.has "quiet"
    isVerbose := a.has "verbose"
    colours }

/-- The answer to the first option that asks for help or the version. -/
def early? (topic : Topic) (a : Arguments) : Option Notice :=
  a.options.findSome? fun o =>
    if o.1 = "help" then some (.help topic 0) else if o.1 = "version" then some .version else none

/-- The arguments of a part of the program, unless they ask for help or make no sense. -/
def readFor (topic : Topic) (isMixed : Bool) (arguments : List String) :
    Except Notice Arguments :=
  match Arguments.read? (optionsOf topic) isMixed arguments with
  | none => .error (.misuse topic)
  | some a => match early? topic a with
    | some notice => .error notice
    | none => .ok a

/-- Whether a directory that the arguments give can be one. No path goes through a null character.
-/
def isDirectoryPossible (a : Arguments) : Bool :=
  (a.value? "output-dir").all fun path => !path.contains '\x00'

/-- The command of a part of the program that takes no further part. -/
def commandOf (topic : Topic) (arguments : List String) : Except Notice Command := do
  let a ← readFor topic true arguments
  if !isDirectoryPossible a then throw (.misuse topic)
  match topic, a.others with
  | .validate, [source] => .ok (.validate source (a.has "check-names"))
  | .generate, [source] =>
    .ok (.generate source ((a.value? "artifact").getD "all") (a.value? "output-dir")
      ⟨a.value? "client-name", a.has "no-hooks", a.has "no-types"⟩)
  | .sample, [] => .ok (.sample none)
  | .sample, [name] => .ok (.sample (some name))
  | .showSettings, [] => .ok .showSettings
  | .setSetting, [key, value] => .ok (.setSetting key value)
  | .resetSettings, [] => .ok (.resetSettings (a.has "force"))
  | topic, _ => .error (.misuse topic)

/-- What a part of the program is given that takes further parts: its options, the name of a part,
and the arguments of that. A name that looks like an option is read as one before it is refused. -/
def readGroup (topic : Topic) (parts : List (String × Topic)) (arguments : List String) :
    Except Notice (Arguments × Topic × List String) := do
  if arguments.isEmpty then throw (.help topic 2)
  let a ← readFor topic false arguments
  match a.others with
  | [] => .error (.misuse topic)
  | name :: rest =>
    match parts.lookup name with
    | some part => .ok (a, part, rest)
    | none =>
      let _ ← readFor topic false (name :: rest)
      .error (.misuse topic)

/-- The parts of the program. -/
def programParts : List (String × Topic) :=
  [("validate", .validate), ("generate", .generate), ("example", .sample), ("config", .settings)]

/-- The parts that deal with settings. -/
def settingsParts : List (String × Topic) :=
  [("show", .showSettings), ("set", .setSetting), ("reset", .resetSettings)]

/-- What arguments ask for. -/
def ofArguments (screen : Screen) (w : Workspace) (arguments : List String) :
    Except Notice Invocation := do
  let (a, part, rest) ← readGroup .program programParts arguments
  let command ←
    if part = .settings then do
      let (_, part, rest) ← readGroup .settings settingsParts rest
      commandOf part rest
    else commandOf part rest
  .ok ⟨consoleOf screen w a, command⟩

end Invocation

end ClientSynth
