import ClientSynth.Proofs.FilledPaths
import ClientSynth.Proofs.Patterns

/-!
# Template literals

How the URL of a service function is read as a template literal. Backslashes and backticks of the
path are escaped, dollar signs are not: one that stands before a brace opens a placeholder, which is
only right where the brace opens a token that is filled (`Endpoint.readsBack_iff`). Each piece of
the path can be read on its own as long as the next one starts with no brace, so that one induction
over the pieces decides it.

Pieces are compared by their sources, the characters that they stand for in the path, since two
lists of pieces with one source are the same path. A placeholder restores a token only if its name
fills it, so the invariant is what the parts of the literal read so far restore
(`Endpoint.Restores`), and a dollar sign before a piece that starts with a brace is the only way to
break it (`Endpoint.bareSlot_infix_cons_iff`).
-/

namespace ClientSynth

/-! ## Reading -/

/-- A part of a template literal: a character, or what stands in a placeholder. -/
inductive TemplatePart where
  | char (c : Char)
  | placeholder (inside : List Char)
  deriving DecidableEq

/-- The parts of a template literal, after the backtick that opens it and up to the one that closes
it, after which there is nothing. In a placeholder, `inside` is what stands between its opening
brace and the rest. -/
def templateParts (inside : Option (List Char)) (text : List Char) : Option (List TemplatePart) :=
  match inside, text with
  | _, [] => none
  | some name, c :: rest =>
    if c = '}' then (templateParts none rest).map (.placeholder name :: ·)
    else templateParts (some (name ++ [c])) rest
  | none, '\\' :: '\\' :: rest => (templateParts none rest).map (.char '\\' :: ·)
  | none, '\\' :: '`' :: rest => (templateParts none rest).map (.char '`' :: ·)
  | none, '$' :: '{' :: rest => templateParts (some []) rest
  | none, c :: rest =>
    if c = '`' then if rest.isEmpty then some [] else none
    else (templateParts none rest).map (.char c :: ·)

/-- The parts of a template literal between backticks. -/
def readTemplate : List Char → Option (List TemplatePart)
  | '`' :: rest => templateParts none rest
  | _ => none

/-! ## Characters and placeholders -/

section Parts

variable {c : Char} {rest name : List Char}

/-- A dollar sign stands for itself unless it opens a placeholder. -/
lemma templateParts_dollar (other : rest.head? ≠ some '{') :
    templateParts none ('$' :: rest) = (templateParts none rest).map (.char '$' :: ·) := by
  cases rest with
  | nil => rfl
  | cons c rest =>
    have ne : c ≠ '{' := fun same => other (congrArg some same)
    rw [templateParts.eq_def]
    simp [ne]

/-- Any other character of a path stands for itself, whatever follows it. -/
lemma templateParts_templateChar (plain : c ≠ '$') (rest : List Char) :
    templateParts none (templateChar c ++ rest) = (templateParts none rest).map (.char c :: ·) := by
  by_cases escaped : IsEscaped c
  · rw [templateChar_of_isEscaped escaped]
    rcases escaped with rfl | rfl <;> rfl
  · rw [templateChar_of_not_isEscaped escaped]
    rw [IsEscaped, not_or] at escaped
    rw [List.singleton_append, templateParts.eq_def]
    simp [plain, escaped]

/-- Inside a placeholder characters are read up to the closing brace. -/
lemma templateParts_inside (inside : List Char) (closed : '}' ∉ name) (rest : List Char) :
    templateParts (some inside) (name ++ '}' :: rest) =
      (templateParts none rest).map (.placeholder (inside ++ name) :: ·) := by
  induction name generalizing inside with
  | nil => simp [templateParts]
  | cons c name ih =>
    rw [List.mem_cons, not_or] at closed
    rw [List.cons_append, templateParts, if_neg (Ne.symm closed.1), ih _ closed.2,
      List.append_assoc, List.singleton_append]

/-- A dollar sign and a name in braces are read as a placeholder. -/
lemma templateParts_slot (closed : '}' ∉ name) (rest : List Char) :
    templateParts none ('$' :: '{' :: name ++ '}' :: rest) =
      (templateParts none rest).map (.placeholder name :: ·) :=
  templateParts_inside [] closed rest

end Parts

/-- What a placeholder starts with ends up inside of it. -/
lemma exists_placeholder (inside : List Char) {text : List Char} {parts : List TemplatePart}
    (h : templateParts (some inside) text = some parts) :
    ∃ name later, parts = .placeholder name :: later := by
  induction text generalizing inside with
  | nil => cases h
  | cons c rest ih =>
    rw [templateParts] at h
    split at h
    · obtain ⟨later, _, rfl⟩ := Option.map_eq_some_iff.mp h
      exact ⟨inside, later, rfl⟩
    · exact ih _ h

/-! ## Identifiers -/

namespace Naming

/-- Camel case has letters and digits only. -/
lemma isAlnum_of_mem_camelChars {text : List Char} {c : Char} (mem : c ∈ camelChars text) :
    Text.isAlnum c = true := by
  unfold camelChars at mem
  have alnum : ∀ word ∈ words text, ∀ c ∈ word, Text.isAlnum c = true :=
    fun _ isWord => Text.all_of_mem_runs isWord
  cases cut : words text with
  | nil =>
    rw [cut] at mem
    cases mem
  | cons first rest =>
    rw [cut, List.forall_mem_cons] at alnum
    rw [cut, List.mem_append] at mem
    rcases mem with mem | mem
    · obtain ⟨x, inFirst, rfl⟩ := List.mem_map.mp mem
      exact (isAlnum_cased (alnum.1 x inFirst)).2
    · obtain ⟨word, isWord, mem⟩ := List.mem_flatMap.mp mem
      exact isAlnum_capitalised (alnum.2 word isWord) c mem

/-- No character but those of identifiers is in the identifier of a parameter. -/
lemma not_mem_identifier {c : Char} (other : TypeScript.isIdentifierPart c = false)
    (noBreak : c ≠ '\n') (name : String) : c ∉ (identifier name).toList := by
  have stem : c ∉ (parameterStem name).toList := by
    unfold parameterStem
    split
    case isTrue line =>
      intro mem
      have := TypeScript.isIdentifierPart_of_mem line (TypeScript.mem_withoutFinalBreak mem noBreak)
      rw [other] at this
      cases this
    case isFalse =>
      intro mem
      rw [camel, String.toList_ofList] at mem
      rw [isIdentifierPart_of_isAlnum (isAlnum_of_mem_camelChars mem)] at other
      cases other
  have score : c ≠ '_' := by
    rintro rfl
    cases other
  -- A digit in front brings in a mark, as does a reserved word; both are parts of identifiers.
  have start : c ∉ (startSafe (parameterStem name)).toList := by
    unfold startSafe
    split
    · have parts : "param".toList.all TypeScript.isIdentifierPart = true := by decide
      intro mem
      rw [List.all_eq_true.mp parts c mem] at other
      cases other
    · split
      · rw [String.toList_append, List.mem_append, not_or]
        exact ⟨by simpa using score, stem⟩
      · exact stem
  rw [identifier, unreserved]
  split
  · rw [String.toList_append, List.mem_append, not_or]
    exact ⟨start, by simpa using score⟩
  · exact start

end Naming

/-! ## The literal of an endpoint -/

namespace PathTemplate

/-- What stands in a path for a piece. -/
def Piece.source : Piece → List Char
  | .plain c => [c]
  | .token name => '{' :: name ++ ['}']

/-- Plain characters stand for themselves. -/
lemma source_map_plain (text : List Char) : (text.map Piece.plain).flatMap Piece.source = text := by
  rw [List.flatMap_map]
  exact List.flatMap_singleton' text

/-- The pieces of a path stand for the path, by induction with the name read so far. -/
lemma source_piecesFrom (path : List Char) :
    (piecesFrom none path).flatMap Piece.source = path ∧
      ∀ name, (piecesFrom (some name) path).flatMap Piece.source = '{' :: name ++ path := by
  induction path with
  | nil =>
    refine ⟨rfl, fun name => ?_⟩
    rw [piecesFrom, List.flatMap_cons, source_map_plain, List.append_nil]
    rfl
  | cons c rest ih =>
    constructor
    · rw [piecesFrom]
      split
      case isTrue opens => rw [ih.2 [], opens]; rfl
      case isFalse => rw [List.flatMap_cons, ih.1]; rfl
    · intro name
      rw [piecesFrom]
      split
      case isTrue closes =>
        subst closes
        split
        case isTrue empty =>
          rw [List.flatMap_cons, List.flatMap_cons, ih.1, List.isEmpty_iff.mp empty]
          rfl
        case isFalse =>
          rw [List.flatMap_cons, ih.1, Piece.source, List.append_assoc]
          rfl
      case isFalse => rw [ih.2, List.cons_append, List.append_assoc]; rfl

/-- The pieces of a path make it up. -/
lemma source_pieces (path : List Char) : (pieces path).flatMap Piece.source = path :=
  (source_piecesFrom path).1

/-- The name of a token has no closing brace in it. -/
lemma not_mem_of_hasToken {text name : List Char} (h : HasToken text name) : '}' ∉ name := by
  induction h with
  | here _ _ closed => exact closed
  | later _ _ _ ih => exact ih

/-- The tokens among the pieces of a path are closed. -/
lemma closed_of_mem_pieces {path name : List Char} (mem : .token name ∈ pieces path) :
    '}' ∉ name :=
  not_mem_of_hasToken ((mem_namesFrom_iff path name).mp
    (List.mem_filterMap.mpr ⟨_, mem, rfl⟩))

end PathTemplate

namespace Endpoint

open PathTemplate

variable {e : Endpoint} {name : List Char}

/-- Whether the URL fills the token of a name. -/
def Fills (e : Endpoint) (name : List Char) : Prop :=
  .token name ∈ pieces (e.path.getD "").toList ∧
    e.filled (.token name) = (UrlPiece.slot (Naming.identifier (String.ofList name))).chars

/-- What is left of the parts of a literal when each placeholder is replaced by a token that is
filled with it. -/
inductive Restores (e : Endpoint) : List TemplatePart → List Char → Prop where
  | nil : Restores e [] []
  | char {parts text} (c : Char) : Restores e parts text → Restores e (.char c :: parts) (c :: text)
  | placeholder {name parts text} : e.Fills name → Restores e parts text →
    Restores e (.placeholder (Naming.identifier (String.ofList name)).toList :: parts)
      ('{' :: (name ++ '}' :: text))

/-- The literal of the URL is read back as the path, each of its placeholders as a token. -/
def ReadsBack (e : Endpoint) : Prop :=
  ∃ parts, readTemplate e.urlLiteral.toList = some parts ∧
    e.Restores parts (e.path.getD "").toList

/-- The piece of a path, or its characters if it is a token that is not filled. -/
def shownPiece (e : Endpoint) : Piece → List Piece
  | .plain c => [.plain c]
  | .token name =>
    if String.ofList (templateText name) ∈ e.declaredTokens then [.token name]
    else ('{' :: name ++ ['}']).map .plain

/-- The pieces of the path, with the tokens that are filled. -/
def shownPieces (e : Endpoint) : List Piece :=
  (pieces (e.path.getD "").toList).flatMap e.shownPiece

/-- What stands in the literal for a piece that is shown. -/
def literalChars : Piece → List Char
  | .plain c => templateChar c
  | .token name => (UrlPiece.slot (Naming.identifier (String.ofList name))).chars

/-- A piece that is shown stands for what it stood for. -/
lemma source_shownPiece (p : Piece) : (e.shownPiece p).flatMap Piece.source = p.source := by
  cases p with
  | plain c => rfl
  | token name =>
    rw [shownPiece]
    split
    · exact List.flatMap_singleton ..
    · exact source_map_plain _

/-- A piece that is shown is written as what it is filled with. -/
lemma literalChars_shownPiece (p : Piece) : (e.shownPiece p).flatMap literalChars = e.filled p := by
  cases p with
  | plain c => exact List.flatMap_singleton ..
  | token name =>
    rw [shownPiece, filled]
    split
    · exact List.flatMap_singleton ..
    · rw [List.flatMap_map]
      change templateText ('{' :: name ++ ['}']) = _
      rw [List.cons_append, templateText_cons, templateText_concat]
      rfl

/-- The pieces that are shown stand for the path. -/
lemma source_shownPieces (e : Endpoint) :
    e.shownPieces.flatMap Piece.source = (e.path.getD "").toList := by
  rw [shownPieces, List.flatMap_assoc]
  simp only [source_shownPiece]
  exact source_pieces _

/-- The URL is the pieces that are shown, between backticks. -/
lemma toList_urlLiteral_shown (e : Endpoint) :
    e.urlLiteral.toList = '`' :: e.shownPieces.flatMap literalChars ++ ['`'] := by
  rw [toList_urlLiteral, shownPieces, List.flatMap_assoc]
  simp only [literalChars_shownPiece]

/-- A token that is shown is filled. -/
lemma fills_of_mem (mem : .token name ∈ e.shownPieces) : e.Fills name := by
  obtain ⟨p, isPiece, mem⟩ := List.mem_flatMap.mp mem
  cases p with
  | plain c => cases List.mem_singleton.mp mem
  | token other =>
    rw [shownPiece] at mem
    split at mem
    case isTrue declared =>
      cases List.mem_singleton.mp mem
      refine ⟨isPiece, ?_⟩
      rw [filled, if_pos declared]
    case isFalse =>
      obtain ⟨_, _, eq⟩ := List.mem_map.mp mem
      cases eq

/-! ## Reading the literal of an endpoint -/

/-- A character is restored by itself. -/
lemma restores_char_iff {parts : List TemplatePart} {c d : Char} {text : List Char} :
    e.Restores (.char c :: parts) (d :: text) ↔ c = d ∧ e.Restores parts text := by
  constructor
  · intro h
    cases h with
    | char _ later => exact ⟨rfl, later⟩
  · rintro ⟨rfl, later⟩
    exact .char c later

/-- A placeholder restores a token that its name fills. -/
lemma Restores.exists_token {parts : List TemplatePart} {inside whole : List Char}
    (h : e.Restores (.placeholder inside :: parts) whole) :
    ∃ name text, e.Fills name ∧ whole = '{' :: (name ++ '}' :: text) ∧ e.Restores parts text := by
  -- With the parts under a name of their own no identifier is worked out to compare them.
  generalize eq : TemplatePart.placeholder inside :: parts = all at h
  cases h with
  | nil | char => cases eq
  | placeholder fills later =>
    obtain ⟨_, rfl⟩ := List.cons.inj eq
    exact ⟨_, _, fills, rfl, later⟩

/-- A token can only be restored as itself, for it ends at the next brace that closes one. -/
lemma restores_slot_iff {parts : List TemplatePart} {text : List Char} (fills : e.Fills name) :
    e.Restores (.placeholder (Naming.identifier (String.ofList name)).toList :: parts)
      ('{' :: (name ++ '}' :: text)) ↔ e.Restores parts text := by
  constructor
  · intro h
    obtain ⟨other, later, fills', source, restores⟩ := h.exists_token
    have after {name : List Char} (closed : '}' ∉ name) (rest : List Char) :
        (name ++ '}' :: rest).dropWhile (· ≠ '}') = '}' :: rest :=
      dropWhile_run (fun c mem => by simpa using ne_of_mem_of_not_mem mem closed) (by simp)
    have same := congrArg (List.dropWhile (· ≠ '}')) (List.cons.inj source).2
    rw [after (closed_of_mem_pieces fills.1), after (closed_of_mem_pieces fills'.1)] at same
    rwa [(List.cons.inj same).2]
  · exact .placeholder fills

/-- A placeholder restores nothing that starts otherwise than with a brace. -/
lemma not_restores_placeholder {parts : List TemplatePart} {inside text : List Char} {c : Char}
    (other : c ≠ '{') : ¬e.Restores (.placeholder inside :: parts) (c :: text) := by
  intro h
  obtain ⟨_, _, _, source, _⟩ := h.exists_token
  exact other (List.cons.inj source).1

/-- What stands before a piece does not matter to those after it. -/
lemma exists_map_part_iff {o : Option (List TemplatePart)} {part : TemplatePart}
    {text : List Char} :
    (∃ parts, o.map (part :: ·) = some parts ∧ e.Restores parts text) ↔
      ∃ parts, o = some parts ∧ e.Restores (part :: parts) text := by
  simp only [Option.map_eq_some_iff]
  constructor
  · rintro ⟨_, ⟨parts, read, rfl⟩, restores⟩
    exact ⟨parts, read, restores⟩
  · rintro ⟨parts, read, restores⟩
    exact ⟨_, ⟨parts, read, rfl⟩, restores⟩

/-- A dollar sign that stands before a brace. -/
abbrev bareSlot : List Piece :=
  [.plain '$', .plain '{']

/-- What comes next does not start with a brace unless a plain one is next. -/
lemma head?_literalChars {ps : List Piece} (closed : ¬[.plain '{'] <+: ps) :
    (ps.flatMap literalChars ++ ['`']).head? ≠ some '{' := by
  cases ps with
  | nil => decide
  | cons p ps =>
    cases p with
    | token name => simp [literalChars, UrlPiece.chars]
    | plain c =>
      have ne : c ≠ '{' := by
        rintro rfl
        exact closed (List.prefix_append _ ps)
      by_cases escaped : IsEscaped c
      · simp [literalChars, templateChar_of_isEscaped escaped]
      · simp [literalChars, templateChar_of_not_isEscaped escaped, ne]

/-- A piece that does not stand as a dollar sign before a plain brace may be passed over. -/
lemma bareSlot_infix_cons_iff {p : Piece} {ps : List Piece}
    (first : p = .plain '$' → ¬[.plain '{'] <+: ps) :
    bareSlot <:+: p :: ps ↔ bareSlot <:+: ps := by
  rw [List.infix_cons_iff, or_iff_right]
  intro starts
  obtain ⟨same, brace⟩ := List.cons_prefix_cons.mp starts
  exact first same.symm brace

/-- Pieces are read back from their literal exactly when no dollar sign stands before a brace. -/
lemma readsBack_from_iff {ps : List Piece} (fills : ∀ name, .token name ∈ ps → e.Fills name) :
    (∃ parts, templateParts none (ps.flatMap literalChars ++ ['`']) = some parts ∧
      e.Restores parts (ps.flatMap Piece.source)) ↔ ¬bareSlot <:+: ps := by
  induction ps with
  | nil => exact iff_of_true ⟨[], rfl, .nil⟩ (by decide)
  | cons p ps ih =>
    have ih := ih fun name mem => fills name (List.mem_cons_of_mem p mem)
    rw [List.flatMap_cons, List.append_assoc, List.flatMap_cons]
    cases p with
    | token name =>
      -- A token is written as a placeholder, which ends at its brace as identifiers have none.
      have closed := Naming.not_mem_identifier (c := '}') rfl (by decide) (String.ofList name)
      have literal (later : List Char) : literalChars (.token name) ++ later =
          '$' :: '{' :: (Naming.identifier (String.ofList name)).toList ++ '}' :: later := by
        simp [literalChars, UrlPiece.chars]
      have source (later : List Char) :
          (Piece.token name).source ++ later = '{' :: (name ++ '}' :: later) := by
        simp [Piece.source]
      rw [bareSlot_infix_cons_iff (fun same => by cases same), ← ih, literal,
        templateParts_slot closed, exists_map_part_iff, source]
      simp only [restores_slot_iff (fills name List.mem_cons_self)]
    | plain c =>
      by_cases dollar : c = '$'
      · subst dollar
        by_cases brace : [.plain '{'] <+: ps
        · -- The dollar sign and the brace are read as the start of a placeholder.
          obtain ⟨later, rfl⟩ := brace
          refine iff_of_false ?_ fun bare => bare ⟨[], later, rfl⟩
          rintro ⟨parts, read, restores⟩
          obtain ⟨inside, _, rfl⟩ := exists_placeholder [] read
          exact not_restores_placeholder (by decide) restores
        · rw [bareSlot_infix_cons_iff fun _ => brace, ← ih]
          change
            (∃ parts, templateParts none ('$' :: (ps.flatMap literalChars ++ ['`'])) = _ ∧ _) ↔ _
          rw [templateParts_dollar (head?_literalChars brace), exists_map_part_iff]
          simp only [Piece.source, List.singleton_append, restores_char_iff, true_and]
      · rw [bareSlot_infix_cons_iff fun same => absurd (Piece.plain.inj same) dollar, ← ih,
          literalChars, templateParts_templateChar dollar, exists_map_part_iff]
        simp only [Piece.source, List.singleton_append, restores_char_iff, true_and]

/-- The literal is read back exactly if no dollar sign stands before a plain brace. -/
lemma readsBack_shown_iff (e : Endpoint) : e.ReadsBack ↔ ¬bareSlot <:+: e.shownPieces := by
  rw [← readsBack_from_iff fun _ => fills_of_mem, source_shownPieces, ReadsBack,
    toList_urlLiteral_shown]
  rfl

/-- The URL of an endpoint is read as a template literal whose placeholders are the tokens that were
filled, and gives the path back, exactly when no dollar sign of the path stands before a brace that
opens no such token; and so for every path without a dollar sign before a brace. -/
theorem readsBack_iff (e : Endpoint) :
    (e.ReadsBack ↔ ¬bareSlot <:+: e.shownPieces) ∧
      (¬"$\x7b".toList <:+: (e.path.getD "").toList → e.ReadsBack) := by
  refine ⟨e.readsBack_shown_iff, fun plain => e.readsBack_shown_iff.mpr ?_⟩
  rintro ⟨front, back, shown⟩
  refine plain ?_
  rw [← source_shownPieces, ← shown, List.flatMap_append, List.flatMap_append]
  exact ⟨_, _, rfl⟩

/-- Paths of valid documents whose URLs have placeholders that fill no token: a declared token after
a dollar sign, and nothing between braces. -/
theorem not_readsBack_dollar :
    (Document.withPath "/items/$\x7bx`y\x7d" ["x`y"]).report.isValid = true ∧
      (withPath "/items/$\x7bx`y\x7d" ["x`y"]).urlLiteral = "`/items/$\x7bx\\`y\x7d`" ∧
      ¬(withPath "/items/$\x7bx`y\x7d" ["x`y"]).ReadsBack ∧
      (Document.withPath "/items/$\x7b\x7d" []).report.isValid = true ∧
      (withPath "/items/$\x7b\x7d" []).urlLiteral = "`/items/$\x7b\x7d`" ∧
      ¬(withPath "/items/$\x7b\x7d" []).ReadsBack := by
  simp only [readsBack_shown_iff]
  decide +kernel

end Endpoint

end ClientSynth
