import ClientSynth.Crash
import ClientSynth.Text.Case

/-!
# Where documents come from

A document is read from a file or from the standard input. Its text is JSON or YAML; the ending of
the file's name tells which, and without a known ending JSON is tried before YAML. `Source.parse`
reads a text and `Source.load` finds and reads it.
-/

namespace ClientSynth.Source

/-- What a text is written in. -/
inductive Format where
  | json
  | yaml
  | unknown
  deriving DecidableEq

namespace Format

/-- The format of a name. -/
def ofName : String → Format
  | "json" => .json
  | "yaml" => .yaml
  | _ => .unknown

/-- The format that the ending of a path tells. -/
def ofPath (p : Path) : Format :=
  match Text.lowerString p.suffix with
  | ".json" => .json
  | ".yaml" => .yaml
  | ".yml" => .yaml
  | _ => .unknown

end Format

/-- Why there is no document. -/
inductive Refusal where
  | notJson (fault : Json.Fault)
  /-- The text is no YAML, and no JSON either if that was tried. -/
  | neither (json : Option Json.Fault)
  | notMapping (value : Value)
  | noFile (path : String)
  | emptyFile (path : String)
  | emptyInput

namespace Refusal

/-- What a value is called that is no mapping. -/
def kindText : Value → String
  | .null => "empty document"
  | v => v.kindName

/-- The message of a refusal. -/
def message : Refusal → String
  | .notJson fault => "Invalid JSON: " ++ fault.message
  | .neither json =>
    "Failed to parse documentation as JSON or YAML" ++
      (json.elim "" fun fault => "\n  JSON error: " ++ fault.message) ++
      "\n  YAML error: " ++ Yaml.Fault.malformed.message
  | .notMapping v => "Documentation must be a JSON/YAML object (got " ++ kindText v ++ ")"
  | .noFile path => "Documentation file not found: " ++ path
  | .emptyFile path => "Documentation file is empty: " ++ path
  | .emptyInput => "No input received from stdin"

end Refusal

/-- Why nothing was read. -/
inductive Fault where
  | refused (refusal : Refusal)
  | crashed (crash : Crash)

/-- The entries of a mapping. -/
abbrev Entries := List (Scalar × Value)

/-- The entries of a value that has to be a mapping. -/
def mapping : Value → Except Fault Entries
  | .map entries => .ok entries
  | v => .error (.refused (.notMapping v))

/-- The mapping that a YAML text holds; `json` is why the text is no JSON. -/
def parseYaml (order : SetOrder) (json : Option Json.Fault) (text : String) :
    Except Fault Entries :=
  match Yaml.parse order text with
  | .ok v => mapping v
  | .error .malformed => .error (.refused (.neither json))
  | .error (.endless false) => .error (.refused (.notMapping (.list [])))
  | .error fault => .error (.crashed (.yaml fault))

/-- The mapping that a text holds. -/
def parse (order : SetOrder) (format : Format) (text : String) : Except Fault Entries :=
  if format = .yaml then parseYaml order none text
  else match Json.parse text with
    | .ok v => mapping v
    | .error (.tooManyDigits n) => .error (.crashed (.number n))
    | .error fault =>
      if format = .json then .error (.refused (.notJson fault))
      else parseYaml order (some fault) text

/-- Whether a text has an escape for half a surrogate pair. No text here can hold one, and so what a
command makes of such a text is left open. -/
def spellsHalf (format : Format) (text : String) : Bool :=
  if format ≠ .yaml ∧ (Json.parse text).isOk then Json.spellsHalf text.toList
  else Yaml.spellsHalf text.toList

/-- The name of the source that is the standard input. -/
def inputName : String := "-"

/-- The mapping that a source holds: the file at a path, or the standard input. A file is bytes,
which may be no text; `input` is what the standard input was read as, a text already. -/
def load (w : Workspace) (source input : String) : Except Fault Entries :=
  if source = inputName then
    let text := Text.lineFeeds input.toList
    if Text.isBlank text then .error (.refused .emptyInput)
    else parse w.setOrder .unknown (String.ofList text)
  else
    let path := Path.ofText source
    match w.read? path with
    | .error fault => .error (.crashed (.storage fault))
    | .ok none => .error (.refused (.noFile source))
    | .ok (some bytes) =>
      match Workspace.decodeText bytes with
      | .error fault => .error (.crashed (.encoding fault))
      | .ok text =>
        if Text.isBlank text.toList then .error (.refused (.emptyFile source))
        else parse w.setOrder (.ofPath path) text

end ClientSynth.Source
