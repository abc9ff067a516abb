import ClientSynth.Crash
import ClientSynth.Json.Printer

/-!
# The console

Data goes to the standard output and messages to the standard error. A `Console` tells the form of
data and which messages are left out: quiet ones on request, and those for finding errors unless
they are asked for. In colours, texts are written by a library, which takes tags in brackets for
markup and refuses a text with tags that do not match: a message that holds a text of the document
may stop a command so.
-/

namespace ClientSynth

/-- The library that writes in colours. -/
structure Terminal where
  /-- What is written for a text with markup, or why it is refused. -/
  message : String → Except String String
  /-- What is written for a table with a title, headers and rows, whose texts may have markup, or
  why it is refused. -/
  table : String → List Value → List (List Value) → Except String String
  /-- What is written for code in a language. -/
  code : String → String → String

/-- The form of data. -/
inductive DataFormat where
  | plain
  | json
  /-- Tables with lines around them, and highlighted code. -/
  | styled (terminal : Terminal)

/-- How a command writes. -/
structure Console where
  format : DataFormat
  isQuiet : Bool
  isVerbose : Bool
  /-- What writes messages, unless they are written without colours. -/
  colours : Option Terminal

/-- A message to the reader of the standard error. -/
inductive Message where
  | info (text : String)
  | success (text : String)
  | warning (text : String)
  | error (text : String)
  | suggestion (text : String)
  | debug (text : String)
  deriving DecidableEq

namespace Message

/-- A message without colours. -/
def plain : Message → String
  | .info text => text
  | .success text => text
  | .warning text => "Warning: " ++ text
  | .error text => "Error: " ++ text
  | .suggestion text => "→ " ++ text
  | .debug text => "[debug] " ++ text

/-- A message with markup. What is told is not escaped, and so its brackets are markup too. -/
def markedUp : Message → String
  | .info text => text
  | .success text => "[green]" ++ text ++ "[/green]"
  | .warning text => "[yellow]Warning:[/yellow] " ++ text
  | .error text => "[bold red]Error:[/bold red] " ++ text
  | .suggestion text => "[dim]→ " ++ text ++ "[/dim]"
  | .debug text => "[dim][debug] " ++ text ++ "[/dim]"

end Message

namespace Console

/-- A console without colours. -/
def colourless (format : DataFormat) (isQuiet isVerbose : Bool) : Console :=
  ⟨format, isQuiet, isVerbose, none⟩

/-- A line of data. -/
def line (text : String) : String :=
  text ++ "\n"

/-! ## Messages -/

/-- Whether a message is left out. -/
def leavesOut (c : Console) : Message → Bool
  | .info _ | .success _ | .suggestion _ => c.isQuiet
  | .debug _ => !c.isVerbose
  | .warning _ | .error _ => false

/-- A message as it is written, which is nothing when it is left out. -/
def messageText (c : Console) (m : Message) : Except Crash String :=
  if c.leavesOut m then .ok ""
  else match c.colours with
    | none => .ok (line m.plain)
    | some terminal => (terminal.message m.markedUp).mapError .markup

/-! ## Data -/

/-- A value as indented JSON. -/
def jsonText (v : Value) : String :=
  line (Json.render Json.indented v)

/-- A value as it is shown. -/
def valueText (c : Console) (v : Value) : String :=
  match c.format with
  | .styled terminal => terminal.code "json" (Json.render Json.indented v)
  | .plain | .json => jsonText v

/-- Code that ends with a line feed. -/
def ended (code : String) : String :=
  if code.endsWith "\n" then code else line code

/-- Generated code as it is shown. -/
def codeText (c : Console) (code : String) : String :=
  match c.format with
  | .styled terminal => terminal.code "typescript" code
  | .plain | .json => ended code

/-- The texts of the cells of a row. -/
def cellTexts (index : Nat) : List Value → Except Crash (List String)
  | [] => .ok []
  | .text s :: rest => (cellTexts (index + 1) rest).map (s :: ·)
  | v :: _ => .error (.cell index v.kindName)

/-- A row of cells with tabs between them. -/
def rowText (cells : List Value) : Except Crash String :=
  (cellTexts 0 cells).map fun texts => line ("\t".intercalate texts)

/-- The key that a header is. -/
def headerKey : Value → Except Crash Scalar
  | .scalar s => .ok s
  | v => .error (.header v.kindName)

/-- A row as an object with the headers as keys. -/
def rowObject (headers cells : List Value) : Except Crash Value :=
  ((headers.zip cells).mapM fun e => (headerKey e.1).map fun key => (key, e.2)).map
    fun entries => .map (distinctEntries entries)

/-- A table: rows with tabs, a list of objects in JSON, or what the library makes of it. Only the
library shows the title. -/
def tableText (c : Console) (title : String) (headers : List Value) (rows : List (List Value)) :
    Except Crash String :=
  match c.format with
  | .json => (rows.mapM (rowObject headers)).map fun objects => jsonText (.list objects)
  | .plain => ((headers :: rows).mapM rowText).map String.join
  | .styled terminal => (terminal.table title headers rows).mapError .markup

end Console

end ClientSynth
