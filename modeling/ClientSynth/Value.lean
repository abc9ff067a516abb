import ClientSynth.Binary64.Basic
import ClientSynth.Calendar

/-!
# Document values

What a data document holds before anyone asks what it means. A `Scalar` can be a key of a mapping;
a `Value` is a scalar or a collection. Mappings keep their entries in order, and a repeated key
keeps its first place and takes the last value.
-/

namespace ClientSynth

/-- A value without parts. -/
inductive Scalar where
  | null
  | bool (b : Bool)
  | int (n : Int)
  | float (x : Binary64)
  | text (s : String)
  | date (d : Date)
  | moment (m : Moment)
  | bytes (bs : List UInt8)
  deriving DecidableEq, Inhabited

/-- Whether an integer fits into 64 bits with a sign. -/
def isWord (n : Int) : Bool :=
  -0x8000000000000000 ≤ n && n < 0x8000000000000000

namespace Scalar

/-- Whether two scalars are the same key: numbers and truth values by their size, all else when they
are of one kind and equal. What is not a number is the same key as itself. -/
def isSameKey : Scalar → Scalar → Bool
  | .bool a, .bool b => a == b
  | .bool a, .int n | .int n, .bool a => n == a.toInt
  | .bool a, .float x | .float x, .bool a => x.toInt? == some a.toInt
  | .int m, .int n => m == n
  | .int n, .float x | .float x, .int n => x.toInt? == some n
  | .float x, .float y => x.isSame y || x == y
  | .moment a, .moment b => a.isSame b
  | a, b => a == b

end Scalar

/-- A value of a data document. -/
inductive Value where
  | scalar (s : Scalar)
  | list (items : List Value)
  | map (entries : List (Scalar × Value))
  | set (members : List Scalar)
  | pair (first second : Value)
  deriving Inhabited

/-- The order in which sets give their members, which need not be the one in which they were
written. It is the same wherever the same members are put into a set in the same order. -/
structure SetOrder where
  arrange : List Scalar → List Scalar
  /-- A set gives all its members, and each of them once. -/
  perm : ∀ members, (arrange members).Perm members

/-- The order in which members were written. -/
def SetOrder.asWritten : SetOrder :=
  ⟨id, fun _ => .refl _⟩

namespace Value

/-- The absent value. -/
@[match_pattern] abbrev null : Value := .scalar .null

/-- A truth value. -/
@[match_pattern] abbrev bool (b : Bool) : Value := .scalar (.bool b)

/-- An integer. -/
@[match_pattern] abbrev int (n : Int) : Value := .scalar (.int n)

/-- A double. -/
@[match_pattern] abbrev float (x : Binary64) : Value := .scalar (.float x)

/-- A text. -/
@[match_pattern] abbrev text (s : String) : Value := .scalar (.text s)

/-- A mapping from texts. -/
def object (entries : List (String × Value)) : Value :=
  .map (entries.map fun e => (.text e.1, e.2))

/-- A text, or the absent value. -/
def ofText? : Option String → Value
  | none => .null
  | some s => .text s

/-- A list of texts. -/
def texts (items : List String) : Value :=
  .list (items.map .text)

end Value

section Entries

variable {α : Type}

/-- What is at a key. -/
def lookupEntry (key : Scalar) : List (Scalar × α) → Option α
  | [] => none
  | (k, v) :: rest => if k.isSameKey key then some v else lookupEntry key rest

/-- What is at a key that is a text. -/
def lookupText (key : String) (entries : List (Scalar × α)) : Option α :=
  lookupEntry (.text key) entries

/-- Puts something at a key: at the key's place, or at the end when the key is new. -/
def insertEntry (key : Scalar) (value : α) : List (Scalar × α) → List (Scalar × α)
  | [] => [(key, value)]
  | (k, v) :: rest =>
    if k.isSameKey key then (k, value) :: rest else (k, v) :: insertEntry key value rest

/-- Entries in order of insertion, one for each key. -/
def distinctEntries (entries : List (Scalar × α)) : List (Scalar × α) :=
  entries.foldl (fun table e => insertEntry e.1 e.2 table) []

/-- Removes a key. -/
def eraseEntry (key : Scalar) : List (Scalar × α) → List (Scalar × α)
  | [] => []
  | (k, v) :: rest => if k.isSameKey key then rest else (k, v) :: eraseEntry key rest

end Entries

end ClientSynth
