import ClientSynth.Text.Basic

/-!
# Paths

A `Path` names a file or a directory from the root or from the working directory. Empty parts and
parts that are a single dot say nothing and are left out; two dots stay, as what they mean depends
on the directories that there are.
-/

namespace ClientSynth

/-- What a path starts from. -/
inductive Path.Start where
  | working
  | root
  /-- The root, written with just two slashes; any other number of them is as good as one. -/
  | doubledRoot
  deriving DecidableEq, Inhabited

/-- A path. -/
structure Path where
  start : Path.Start
  parts : List String
  deriving DecidableEq, Inhabited

namespace Path

/-- The start that so many slashes write. -/
def Start.ofSlashes : Nat → Start
  | 0 => .working
  | 2 => .doubledRoot
  | _ => .root

/-- The text of a start. -/
def Start.text : Start → String
  | .working => ""
  | .root => "/"
  | .doubledRoot => "//"

/-- The path that a text writes. -/
def ofText (s : String) : Path where
  start := .ofSlashes (s.toList.takeWhile (· == '/')).length
  parts := ((Text.splitAt '/' s.toList).map String.ofList).filter fun part =>
    part != "" && part != "."

/-- The path of a place in the tree of directories, which is given from the root. -/
def ofPlace (place : List String) : Path :=
  ⟨.root, place⟩

/-- A path as text. -/
def text (p : Path) : String :=
  if p.start = .working ∧ p.parts = [] then "." else p.start.text ++ "/".intercalate p.parts

/-- The path of something in a directory. -/
def child (directory : Path) (name : String) : Path :=
  { directory with parts := directory.parts ++ [name] }

/-- The directory that holds what a path names. -/
def parent (p : Path) : Path :=
  { p with parts := p.parts.dropLast }

/-- The last part. -/
def name (p : Path) : String :=
  p.parts.getLast?.getD ""

/-- The last dot of the name and what follows it, unless the name starts or ends with it. -/
def suffix (p : Path) : String :=
  let name := p.name.toList
  let ending := (name.reverse.takeWhile (· != '.')).reverse
  if ending.isEmpty || name.length ≤ ending.length + 1 then ""
  else String.ofList ('.' :: ending)

/-- The greatest number of bytes in a part. -/
def maxPart : Nat := 255

/-- The number of bytes that no path reaches. -/
def maxBytes : Nat := 4096

/-- Whether the whole path has too many bytes. -/
def isTooLong (p : Path) : Bool :=
  maxBytes ≤ p.text.utf8ByteSize

end Path

end ClientSynth
