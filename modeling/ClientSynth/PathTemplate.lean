/-!
# Path templates

A path is cut into plain characters and tokens, which stand between braces, as in `/users/{id}`. A
token runs from an opening brace to the next closing one and is not empty; all other braces are
plain characters.
-/

namespace ClientSynth.PathTemplate

/-- A piece of a path. -/
inductive Piece where
  | plain (c : Char)
  | token (name : List Char)
  deriving DecidableEq

/-- The pieces of the rest of a path. Inside a token, `name` holds what stands between its opening
brace and the rest. -/
def piecesFrom (name : Option (List Char)) : List Char → List Piece
  | [] => match name with
    | none => []
    | some name => .plain '{' :: name.map .plain
  | c :: rest => match name with
    | none => if c = '{' then piecesFrom (some []) rest else .plain c :: piecesFrom none rest
    | some name =>
      if c = '}' then
        if name.isEmpty then .plain '{' :: .plain '}' :: piecesFrom none rest
        else .token name :: piecesFrom none rest
      else piecesFrom (some (name ++ [c])) rest

/-- The pieces of a path. -/
def pieces (path : List Char) : List Piece :=
  piecesFrom none path

/-- The name in a token. -/
def Piece.name? : Piece → Option (List Char)
  | .plain _ => none
  | .token name => some name

/-- The names in the tokens of a path, in order and with repetitions. -/
def tokens (path : String) : List String :=
  ((pieces path.toList).filterMap Piece.name?).map String.ofList

end ClientSynth.PathTemplate
