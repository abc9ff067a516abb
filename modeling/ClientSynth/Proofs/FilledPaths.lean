import ClientSynth.Client.Service
import ClientSynth.Proofs.Hiding
import ClientSynth.Proofs.Symbols

/-!
# Filled paths

Validation looks for tokens in a path as it is written, while the URL of a service function is made
from the escaped path. Both find the same tokens in the same places
(`PathTemplate.pieces_templateText`), but in the escaped path a token has its escaped name, and that
name is looked for among the parameters. So a token is filled exactly when its escaped name is that
of a path parameter (`Endpoint.filled_eq_slot_iff`): always, unless there is a backslash or a
backtick in it.

Escaping goes through a path character by character and leaves braces as they are, while tokens are
found by braces only, so the two commute: the induction for `PathTemplate.pieces_templateText` goes
over the path with the name read so far, and a token at a time is closed or given up on both sides.
The condition on names then comes from identifiers, which escaping does not change
(`Naming.identifier_templateText`).
-/

namespace ClientSynth

/-! ## Escaped text -/

/-- A text inside a template literal. -/
def templateText (text : List Char) : List Char :=
  text.flatMap templateChar

/-- A character that stands in a template literal after a backslash. -/
def IsEscaped (c : Char) : Prop :=
  c = '\\' ∨ c = '`'

section Escaped

variable {c : Char} {text : List Char}

/-- A character that has to be escaped gets a backslash. -/
lemma templateChar_of_isEscaped (h : IsEscaped c) : templateChar c = ['\\', c] := by
  rcases h with rfl | rfl <;> rfl

/-- Any other character stands for itself. -/
lemma templateChar_of_not_isEscaped (h : ¬IsEscaped c) : templateChar c = [c] := by
  rw [IsEscaped, not_or] at h
  rw [templateChar, if_neg h.1, if_neg h.2]

/-- A text without characters to escape stands for itself. -/
lemma templateText_eq_self (h : ∀ c ∈ text, ¬IsEscaped c) : templateText text = text := by
  rw [templateText, List.flatMap_congr fun c mem => templateChar_of_not_isEscaped (h c mem),
    List.flatMap_singleton']

/-- Escaping keeps every character. -/
lemma mem_templateText (mem : c ∈ text) : c ∈ templateText text := by
  refine List.mem_flatMap.mpr ⟨c, mem, ?_⟩
  by_cases h : IsEscaped c
  · simp [templateChar_of_isEscaped h]
  · simp [templateChar_of_not_isEscaped h]

/-- Escaping goes through a text character by character from its front. -/
lemma templateText_cons (c : Char) (text : List Char) :
    templateText (c :: text) = templateChar c ++ templateText text :=
  rfl

/-- Escaping goes through a text character by character up to its end. -/
lemma templateText_concat (text : List Char) (c : Char) :
    templateText (text ++ [c]) = templateText text ++ templateChar c := by
  rw [templateText, List.flatMap_append, List.flatMap_singleton]
  rfl

/-- Escaping a character brings in no brace. -/
lemma not_mem_templateChar {brace : Char} (isBrace : brace = '{' ∨ brace = '}') (h : c ≠ brace) :
    brace ∉ templateChar c := by
  by_cases escaped : IsEscaped c
  · rw [templateChar_of_isEscaped escaped]
    rcases isBrace with rfl | rfl <;> simp [Ne.symm h]
  · rw [templateChar_of_not_isEscaped escaped]
    simpa using Ne.symm h

/-- Only the empty text is escaped to the empty text. -/
lemma templateText_isEmpty : (templateText text).isEmpty = text.isEmpty := by
  cases text with
  | nil => rfl
  | cons c rest =>
    have : templateText (c :: rest) ≠ [] := List.ne_nil_of_mem (mem_templateText List.mem_cons_self)
    simpa using this

end Escaped

/-! ## Tokens of the escaped path -/

namespace PathTemplate

/-- The pieces of an escaped path for a piece of the path. -/
def escapedPieces : Piece → List Piece
  | .plain c => (templateChar c).map .plain
  | .token name => [.token (templateText name)]

/-- As plain characters an escaped text is the plain characters escaped. -/
lemma map_plain_templateText (text : List Char) :
    (templateText text).map Piece.plain = (text.map Piece.plain).flatMap escapedPieces := by
  rw [templateText, List.map_flatMap, List.flatMap_map]
  rfl

/-- What stands before the first brace is plain. -/
lemma piecesFrom_plain {gap : List Char} (rest : List Char) (h : '{' ∉ gap) :
    piecesFrom none (gap ++ rest) = gap.map .plain ++ piecesFrom none rest := by
  induction gap with
  | nil => rfl
  | cons c gap ih =>
    rw [List.mem_cons, not_or] at h
    simp [piecesFrom, Ne.symm h.1, ih h.2]

/-- Inside braces characters are read into the name. -/
lemma piecesFrom_inside {inside : List Char} (name rest : List Char) (h : '}' ∉ inside) :
    piecesFrom (some name) (inside ++ rest) = piecesFrom (some (name ++ inside)) rest := by
  induction inside generalizing name with
  | nil => simp
  | cons c inside ih =>
    rw [List.mem_cons, not_or] at h
    simp [piecesFrom, Ne.symm h.1, ih _ h.2]

/-- Reading on in an escaped path gives the escaped pieces of the path. -/
lemma piecesFrom_templateText (name : Option (List Char)) (path : List Char) :
    piecesFrom (name.map templateText) (templateText path) =
      (piecesFrom name path).flatMap escapedPieces := by
  induction path generalizing name with
  | nil =>
    cases name with
    | none => rfl
    | some name => exact congrArg (.plain '{' :: ·) (map_plain_templateText name)
  | cons c rest ih =>
    -- Braces are the only characters that the cutting looks at, and escaping leaves them alone.
    rw [templateText_cons]
    cases name with
    | none =>
      by_cases opens : c = '{'
      · rw [opens]
        exact ih (some [])
      · rw [Option.map_none, piecesFrom_plain _ (not_mem_templateChar (.inl rfl) opens),
          piecesFrom, if_neg opens, List.flatMap_cons]
        exact congrArg _ (ih none)
    | some name =>
      by_cases closes : c = '}'
      · -- The escaped name is empty exactly when the name is.
        rw [closes, Option.map_some, show templateChar '}' = ['}'] from rfl, List.singleton_append,
          piecesFrom, piecesFrom, if_pos rfl, if_pos rfl, templateText_isEmpty]
        have next := ih none
        split
        · exact congrArg (.plain '{' :: .plain '}' :: ·) next
        · exact congrArg (.token (templateText name) :: ·) next
      · rw [Option.map_some, piecesFrom_inside _ _ (not_mem_templateChar (.inr rfl) closes),
          piecesFrom, if_neg closes, ← ih, Option.map_some, templateText_concat]

/-- The pieces of an escaped path are those of the path, each of them escaped. -/
lemma pieces_templateText (path : List Char) :
    pieces (templateText path) = (pieces path).flatMap escapedPieces :=
  piecesFrom_templateText none path

end PathTemplate

/-! ## Identifiers of escaped names -/

namespace TypeScript

/-- What may start an identifier may go on with it. -/
lemma isIdentifierPart_of_start {c : Char} (h : isIdentifierStart c = true) :
    isIdentifierPart c = true := by
  unfold isIdentifierStart at h
  unfold isIdentifierPart Char.isAlphanum
  grind

/-- Every character of an identifier may be part of one. -/
lemma isIdentifierPart_of_mem {c : Char} {text : List Char} (h : isIdentifier text = true)
    (mem : c ∈ text) : isIdentifierPart c = true := by
  cases text with
  | nil => cases mem
  | cons first rest =>
    rw [isIdentifier, Bool.and_eq_true, List.all_eq_true] at h
    rcases List.mem_cons.mp mem with rfl | mem
    · exact isIdentifierPart_of_start h.1
    · exact h.2 c mem

/-- A character other than a line feed is not taken off at the end. -/
lemma mem_withoutFinalBreak {c : Char} {text : List Char} (mem : c ∈ text) (other : c ≠ '\n') :
    c ∈ Text.withoutFinalBreak text := by
  unfold Text.withoutFinalBreak
  split
  case isTrue last =>
    obtain ⟨front, rfl⟩ := List.getLast?_eq_some_iff.mp last
    simpa [other] using mem
  case isFalse => exact mem

/-- A name with an escaped character in it is no identifier. -/
lemma isIdentifierLine_eq_false {c : Char} {text : List Char} (escaped : IsEscaped c)
    (mem : c ∈ text) : isIdentifierLine text = false := by
  have other : c ≠ '\n' ∧ isIdentifierPart c = false := by
    rcases escaped with rfl | rfl <;> decide
  rw [Bool.eq_false_iff]
  intro h
  have := isIdentifierPart_of_mem h (mem_withoutFinalBreak mem other.1)
  rw [other.2] at this
  cases this

end TypeScript

/-- Escaping changes no word of a name, since what it brings in separates words. -/
lemma Naming.words_templateText (name : List Char) : words (templateText name) = words name := by
  refine (Text.runs_flatMap (f := id) (fun c alnum => ⟨?_, alnum⟩) (fun c other => ?_) name).trans
    (List.map_id'' List.map_id _)
  · refine templateChar_of_not_isEscaped fun escaped => ?_
    rcases escaped with rfl | rfl <;> exact absurd alnum (by decide)
  · by_cases escaped : IsEscaped c
    · rw [templateChar_of_isEscaped escaped]
      simp [other, show Text.isAlnum '\\' = false by decide]
    · rw [templateChar_of_not_isEscaped escaped]
      simp [other]

/-- A name and the escaped name have the same identifier. -/
lemma Naming.identifier_templateText (name : List Char) :
    identifier (String.ofList (templateText name)) = identifier (String.ofList name) := by
  by_cases plain : ∀ c ∈ name, ¬IsEscaped c
  · rw [templateText_eq_self plain]
  · push Not at plain
    obtain ⟨c, mem, escaped⟩ := plain
    have stem : parameterStem (String.ofList (templateText name)) =
        parameterStem (String.ofList name) := by
      rw [parameterStem, parameterStem, String.toList_ofList, String.toList_ofList,
        TypeScript.isIdentifierLine_eq_false escaped (mem_templateText mem),
        TypeScript.isIdentifierLine_eq_false escaped mem]
      simp only [Bool.false_eq_true, if_false, camel, String.toList_ofList, camelChars,
        words_templateText]
    rw [identifier, identifier, stem]

/-! ## The URL of an endpoint -/

namespace Endpoint

variable {e : Endpoint} {token : String}

/-- What stands in the URL for a piece of the path. A token is filled when its escaped name is
declared. -/
def filled (e : Endpoint) : PathTemplate.Piece → List Char
  | .plain c => templateChar c
  | .token name =>
    if String.ofList (templateText name) ∈ e.declaredTokens then
      (UrlPiece.slot (Naming.identifier (String.ofList name))).chars
    else '{' :: templateText name ++ ['}']

/-- What a piece of the path becomes in the URL, character by character. -/
lemma chars_escapedPieces (piece : PathTemplate.Piece) :
    ((PathTemplate.escapedPieces piece).map (urlPiece e.declaredTokens)).flatMap UrlPiece.chars =
      e.filled piece := by
  cases piece with
  | plain c =>
    rw [PathTemplate.escapedPieces, List.map_map, List.flatMap_map]
    exact List.flatMap_singleton' _
  | token name =>
    rw [PathTemplate.escapedPieces, List.map_singleton, List.flatMap_singleton, urlPiece, filled,
      List.contains_eq_mem, Naming.identifier_templateText]
    simp only [decide_eq_true_eq]
    split <;> rfl

/-- The URL is the pieces of the path, filled, between backticks. -/
lemma toList_urlLiteral (e : Endpoint) :
    e.urlLiteral.toList =
      '`' :: (PathTemplate.pieces (e.path.getD "").toList).flatMap e.filled ++ ['`'] := by
  have pieces : e.urlPieces = (PathTemplate.pieces (templateText (e.path.getD "").toList)).map
      (urlPiece e.declaredTokens) := rfl
  rw [urlLiteral, String.toList_ofList, pieces, PathTemplate.pieces_templateText, List.map_flatMap,
    List.flatMap_assoc]
  simp only [chars_escapedPieces]

/-- For each token that is declared the signature has a binding. -/
lemma exists_binding (declared : token ∈ e.declaredTokens) :
    ∃ b ∈ e.signature, b.name = Naming.identifier token := by
  obtain ⟨p, isPath, name⟩ := List.mem_filterMap.mp declared
  refine ⟨_, List.mem_append_left _ (List.mem_append_left _ (List.mem_append_left _
    (List.mem_map_of_mem isPath))), ?_⟩
  rw [bindingName, name, Option.getD_some]

/-- A token is filled exactly if its escaped name is that of a path parameter. -/
lemma filled_eq_slot_iff :
    e.filled (.token token.toList) = (UrlPiece.slot (Naming.identifier token)).chars ↔
      String.ofList (templateText token.toList) ∈ e.declaredTokens := by
  rw [filled, String.ofList_toList]
  split
  case isTrue declared => exact iff_of_true rfl declared
  case isFalse missing =>
    -- A slot starts with a dollar sign, and a token that is left with a brace.
    refine iff_of_false (fun same => ?_) missing
    rw [UrlPiece.chars, List.cons_append, List.cons_append, List.cons.injEq] at same
    exact absurd same.1 (by decide)

/-- The URL fills the tokens of the path with parameters of the service function. -/
structure FillsPath (e : Endpoint) : Prop where
  literal : e.urlLiteral.toList =
    '`' :: (PathTemplate.pieces (e.path.getD "").toList).flatMap e.filled ++ ['`']
  bound : ∀ token ∈ PathTemplate.tokens (e.path.getD ""),
    ∃ b ∈ e.signature, b.name = Naming.identifier token
  slot_iff : ∀ token ∈ PathTemplate.tokens (e.path.getD ""),
    e.filled (.token token.toList) = (UrlPiece.slot (Naming.identifier token)).chars ↔
      String.ofList (templateText token.toList) ∈ e.declaredTokens
  slot : ∀ token ∈ PathTemplate.tokens (e.path.getD ""), (∀ c ∈ token.toList, ¬IsEscaped c) →
    e.filled (.token token.toList) = (UrlPiece.slot (Naming.identifier token)).chars

end Endpoint

/-- The endpoint `item` with a path, and the names of the parameters that fill it. -/
def Endpoint.withPath (path : String) (names : List String) : Endpoint where
  id := some "item"
  name := some "item"
  method := some "GET"
  path := some path
  summary := none
  description := none
  tags := []
  parameters := some (names.map fun name =>
    { name := some name, location := some "path", required := true
      type := some "string", description := none, example_ := .null, enum := none
      format := none, pattern := none, minimum := none, maximum := none
      minLength := none, maxLength := none })
  requestBody := none
  responses := [⟨some 200, none, none, none, .null⟩]
  deprecated := false

namespace Document

variable {d : Document} {e : Endpoint} {i : Nat}

/-- With nothing reported every token of the path is declared. -/
lemma declared_of_unreported (here : d.endpoints[i]? = some e)
    (unreported : ∀ found ∈ d.report.errors,
      found.location = (endpointPlace i).key "parameters" → found.what.code ≠ .missingPathParam) :
    ∀ token ∈ PathTemplate.tokens (e.path.getD ""), token ∈ e.declaredTokens := by
  intro token isToken
  by_contra missing
  have found : Finding.fault ((endpointPlace i).key "parameters") (.undeclaredToken token) ∈
      e.findings [] [] (endpointPlace i) := by
    have inFields : Finding.fault ((endpointPlace i).key "parameters") (.undeclaredToken token) ∈
        e.fieldFindings (endpointPlace i) :=
      List.mem_append_right _ (List.mem_map.mpr ⟨token,
        List.mem_filter.mpr ⟨isToken, by simpa using missing⟩, rfl⟩)
    rw [Endpoint.findings]
    simp only [List.mem_append, inFields, true_or]
  have isError := Report.mem_errors_ofFindings.mpr (endpoint_findings_subset here found)
  exact unreported _ isError rfl rfl

/-- Where validation reports no missing parameter of a path, each of its tokens names a parameter of
the service function, and is filled with it in the URL exactly when its escaped name is declared. -/
theorem fillsPath (here : d.endpoints[i]? = some e)
    (unreported : ∀ found ∈ d.report.errors,
      found.location = (endpointPlace i).key "parameters" → found.what.code ≠ .missingPathParam) :
    e.FillsPath where
  literal := e.toList_urlLiteral
  bound token isToken :=
    Endpoint.exists_binding (declared_of_unreported here unreported token isToken)
  slot_iff _ _ := Endpoint.filled_eq_slot_iff
  slot token isToken plain := by
    rw [Endpoint.filled_eq_slot_iff, templateText_eq_self plain, String.ofList_toList]
    exact declared_of_unreported here unreported token isToken

/-- A document with one endpoint, whose parameters fill its path. -/
def withPath (path : String) (names : List String) : Document where
  title := some "Items"
  version := some "1.0.0"
  description := none
  baseUrl := some "https://api.example.com"
  authentication := none
  globalHeaders := none
  timeout := none
  endpoints := [.withPath path names]
  models := none
  environments := none
  metadata := none

/-- A valid document with two declared tokens in a path. The one with a backtick in it is left as it
is. -/
theorem fillsPath_backtick :
    (withPath "/items/\x7bid\x7d/\x7bx`y\x7d" ["id", "x`y"]).report.isValid = true ∧
      (Endpoint.withPath "/items/\x7bid\x7d/\x7bx`y\x7d" ["id", "x`y"]).FillsPath ∧
      (Endpoint.withPath "/items/\x7bid\x7d/\x7bx`y\x7d" ["id", "x`y"]).urlLiteral =
        "`/items/$\x7bid\x7d/\x7bx\\`y\x7d`" ∧
      Naming.identifier "x`y" = "xY" := by
  have valid :
      (withPath "/items/\x7bid\x7d/\x7bx`y\x7d" ["id", "x`y"]).report.isValid = true := by
    decide +kernel
  refine ⟨valid, fillsPath (d := withPath _ _) (i := 0) rfl fun found isError => ?_,
    by decide +kernel, by decide +kernel⟩
  rw [List.isEmpty_iff.mp valid] at isError
  cases isError

end Document

end ClientSynth
