import ClientSynth.Command.Invocation

/-!
# Help

The pages that tell how the program is used, one for each of its parts.
-/

namespace ClientSynth

/-- The name and version of the program. -/
def versionText : String := "apidocgen 0.1.0\n"

namespace Topic

/-- The line that tells how a part of the program is called. -/
def usage : Topic → String
  | .program => "apidocgen [OPTIONS] COMMAND [ARGS]..."
  | .validate => "apidocgen validate [OPTIONS] FILE"
  | .generate => "apidocgen generate [OPTIONS] FILE"
  | .sample => "apidocgen example [OPTIONS] [NAME]"
  | .settings => "apidocgen config [OPTIONS] COMMAND [ARGS]..."
  | .showSettings => "apidocgen config show [OPTIONS]"
  | .setSetting => "apidocgen config set [OPTIONS] KEY VALUE"
  | .resetSettings => "apidocgen config reset [OPTIONS]"

/-- What a part of the program does. -/
def purpose : Topic → String
  | .program => "Validate API documentation and generate typed TypeScript clients."
  | .validate => "Validate an API documentation file."
  | .generate => "Generate TypeScript types, services, and hooks from documentation."
  | .sample => "Print a bundled example documentation file as JSON."
  | .settings => "Configuration management."
  | .showSettings => "Show the effective generator configuration."
  | .setSetting => "Set a value in the global configuration."
  | .resetSettings => "Reset the global configuration to defaults."

/-- The line of an option. -/
def optionLine (o : CommandOption) : String :=
  "  --" ++ o.word ++ (o.letter.elim "" fun c => ", -" ++ String.singleton c) ++
    (if o.hasValue then " VALUE" else "")

/-- The page of help of a part of the program. -/
def helpText (t : Topic) : String :=
  Text.unlines (["Usage: " ++ t.usage, "", t.purpose, "", "Options:"] ++
    (Invocation.optionsOf t).map optionLine ++
    (match t with
      | .program => ["", "Commands:"] ++ Invocation.programParts.map fun p => "  " ++ p.1
      | .settings => ["", "Commands:"] ++ Invocation.settingsParts.map fun p => "  " ++ p.1
      | _ => []))

/-- What is told when arguments make no sense to a part of the program. -/
def misuseText (t : Topic) : String :=
  Text.unlines ["Usage: " ++ t.usage, "Try '--help' for help."]

end Topic

end ClientSynth
