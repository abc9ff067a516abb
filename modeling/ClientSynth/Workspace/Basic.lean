import ClientSynth.Text.Quoted
import ClientSynth.Text.Utf8
import ClientSynth.Value
import ClientSynth.Workspace.Path

/-!
# Workspaces

A `Workspace` is what a command finds around it: files, directories, the working directory, the
variables of the environment, and the order of sets. Files and directories are kept by their parts
from the root. A directory exists if it was made, if something is in it, or if the working directory
is. A `Change` makes directories and writes files.
-/

namespace ClientSynth

/-- A place in the tree of directories, from the root. -/
abbrev Place := List String

/-- Why something cannot be found or written. -/
inductive StorageFault where
  | missing (path : String)
  | exists (path : String)
  | notDirectory (path : String)
  | isDirectory (path : String)
  | nameTooLong (path : String)
  /-- No directory is known to be the user's own. -/
  | noHome
  deriving DecidableEq

/-- The text of a fault. -/
def StorageFault.message : StorageFault → String
  | .missing path => "[Errno 2] No such file or directory: " ++ Text.quoted path
  | .exists path => "[Errno 17] File exists: " ++ Text.quoted path
  | .notDirectory path => "[Errno 20] Not a directory: " ++ Text.quoted path
  | .isDirectory path => "[Errno 21] Is a directory: " ++ Text.quoted path
  | .nameTooLong path => "[Errno 36] File name too long: " ++ Text.quoted path
  | .noHome => "Could not determine home directory."

/-- What a command finds around it. -/
structure Workspace where
  files : List (Place × List UInt8)
  directories : List Place
  /-- The working directory. -/
  current : Place
  environment : List (String × String)
  /-- The present time, as names of files tell it. -/
  time : String
  /-- The order in which sets give their members while the command runs. -/
  setOrder : SetOrder

namespace Workspace

/-- The value of a variable. -/
def valueOf? (w : Workspace) (name : String) : Option String :=
  w.environment.lookup name

/-- The bytes of the file at a place. -/
def fileAt? (w : Workspace) (place : Place) : Option (List UInt8) :=
  w.files.lookup place

/-- Whether there is a directory at a place. -/
def isDirectory (w : Workspace) (place : Place) : Bool :=
  place.isPrefixOf w.current || w.directories.any (place.isPrefixOf ·) ||
    w.files.any fun f => place.isPrefixOf f.1 && place != f.1

/-- Where a path starts. -/
def origin (w : Workspace) (p : Path) : Place :=
  if p.start = .working then w.current else []

/-- The place that parts lead to from a place. All on the way have to be directories; `path` is the
path as faults show it. -/
def follow (w : Workspace) (path : String) (place : Place) : List String →
    Except StorageFault Place
  | [] => .ok place
  | part :: rest =>
    if w.isDirectory place then
      if part = ".." then w.follow path place.dropLast rest
      else if Path.maxPart < part.utf8ByteSize then .error (.nameTooLong path)
      else w.follow path (place ++ [part]) rest
    else if (w.fileAt? place).isSome then .error (.notDirectory path)
    else .error (.missing path)

/-- The place that a path leads to, whether there is something or not. -/
def placeOf (w : Workspace) (p : Path) : Except StorageFault Place :=
  if p.isTooLong then .error (.nameTooLong p.text) else w.follow p.text (w.origin p) p.parts

/-- The bytes of the file at a path, if there is one. No path goes through a null character. -/
def read? (w : Workspace) (p : Path) : Except StorageFault (Option (List UInt8)) :=
  if p.text.contains '\x00' then .ok none
  else match w.placeOf p with
    | .ok place => .ok (w.fileAt? place)
    | .error (.nameTooLong path) => .error (.nameTooLong path)
    | .error _ => .ok none

/-- A text from bytes, with line feeds for its line ends. -/
def decodeText (bytes : List UInt8) : Except Utf8.Fault String :=
  (Utf8.decode bytes).map fun text => String.ofList (Text.lineFeeds text)

/-- A change of the workspace. What was done before a fault stays done. -/
abbrev Change := ExceptT StorageFault (StateM Workspace)

/-- The workspace with a new directory, in one that there is. -/
def withDirectory (w : Workspace) (p : Path) : Except StorageFault Workspace := do
  let place ← w.placeOf p
  if w.isDirectory place || (w.fileAt? place).isSome then .error (.exists p.text)
  else .ok { w with directories := w.directories ++ [place] }

/-- Whether a fault of making a directory leaves one at its path. -/
def isMade (w : Workspace) (p : Path) : StorageFault → Bool
  | .nameTooLong _ => false
  | _ => match w.placeOf p with
    | .ok place => w.isDirectory place
    | .error _ => false

/-- Makes the directory at a path in one that there is, unless it is there already. -/
def makeLast (p : Path) : Change Unit := do
  let w ← get
  match w.withDirectory p with
  | .ok w => set w
  | .error fault => if !w.isMade p fault then throw fault

/-- Makes the directory at the path with some parts, given from the last one on, after those on the
way to it if there are none. -/
def makeAll (start : Path.Start) : List String → Change Unit
  | [] => makeLast ⟨start, []⟩
  | part :: rest => do
    let p : Path := ⟨start, (part :: rest).reverse⟩
    if let .error (.missing _) := (← get).withDirectory p then makeAll start rest
    makeLast p

/-- Makes the directory at a path and those on the way to it, as far as there are none. -/
def makeDirectory (p : Path) : Change Unit :=
  makeAll p.start p.parts.reverse

/-- Files with given bytes at a place. -/
def putFile (place : Place) (bytes : List UInt8) :
    List (Place × List UInt8) → List (Place × List UInt8)
  | [] => [(place, bytes)]
  | f :: rest => if f.1 = place then (place, bytes) :: rest else f :: putFile place bytes rest

/-- Writes bytes to the file at a path, in a directory that there is. -/
def writeBytes (p : Path) (bytes : List UInt8) : Change Unit := do
  let w ← get
  match w.placeOf p with
  | .error fault => throw fault
  | .ok place =>
    if w.isDirectory place then throw (.isDirectory p.text)
    set { w with files := putFile place bytes w.files }

/-- Writes a text to the file at a path, in a directory that there is. -/
def write (p : Path) (text : String) : Change Unit :=
  writeBytes p (Utf8.encode text)

end Workspace

end ClientSynth
