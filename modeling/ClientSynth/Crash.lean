import ClientSynth.Record.Rejection
import ClientSynth.Workspace.Basic
import ClientSynth.Yaml.Content

/-!
# Crashes

What stops a command although none of its own messages is for it. A command that crashes leaves a
file with the crash's message.
-/

namespace ClientSynth

/-- What stops a command unforeseen. -/
inductive Crash where
  | encoding (fault : Utf8.Fault)
  | number (digits : Nat)
  /-- An integer that has too many digits for a message. -/
  | oversized
  | yaml (fault : Yaml.Fault)
  | storage (fault : StorageFault)
  | rejected (record : RecordName) (rejections : List Rejection)
  /-- A cell of a plain table that is no text, by its place in its row and its kind. -/
  | cell (index : Nat) (kind : String)
  /-- A header of a table of objects that can be no key, by its kind. -/
  | header (kind : String)
  /-- Markup that is refused, and why. -/
  | markup (reason : String)

/-- The text of a crash. -/
def Crash.message : Crash → String
  | .encoding fault => fault.message
  | .number digits => (Json.Fault.tooManyDigits digits).message
  | .oversized => Text.digitsMessage ""
  | .yaml fault => fault.message
  | .storage fault => fault.message
  | .rejected record rejections => Rejection.listText record rejections
  | .cell index kind =>
    "sequence item " ++ Text.ofNat index ++ ": expected str instance, " ++ kind ++ " found"
  | .header kind => "unhashable type: '" ++ kind ++ "'"
  | .markup reason => reason

end ClientSynth
