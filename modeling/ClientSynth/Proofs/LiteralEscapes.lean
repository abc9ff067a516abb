import Mathlib.Algebra.Ring.Parity
import ClientSynth.Proofs.TypeTexts

/-!
# Escapes in literals

A literal between single quotes is a text with four escapes in it, which may as well be made one
after the other, that of the backslash first (`TypeScript.flatMap_literalChar_eq`). The escapes keep
a text on one line, leave no quote without a backslash of its own, and are undone by a reader. So
literals encode texts, and a union of literals can be taken apart again
(`TypeScript.literals_encode`).

A quote or a line feed that is brought in by one replacement is not touched by a later one, because
a backslash is escaped first and by itself. This is why replacing one after the other can be told
character by character (`escapedInTurn_singleton`). That a quote does not end a literal too early is
counted: the backslashes before it are odd in number (`trailingBackslashes`).
-/

namespace ClientSynth.TypeScript

variable {c : Char} {text before after : List Char}

/-! ## One escape after the other -/

/-- A text with another one in the place of each occurrence of a character. -/
def replaced (c : Char) (image : List Char) (text : List Char) : List Char :=
  Text.replacing (fun d => if d = c then image else [d]) text

/-- A replacement goes through a text character by character. -/
lemma replaced_append (c : Char) (image xs ys : List Char) :
    replaced c image (xs ++ ys) = replaced c image xs ++ replaced c image ys :=
  List.flatMap_append

/-- A text in which backslashes, quotes, line feeds and carriage returns were replaced in turn. No
pass meets a character of an escape that an earlier one made, as backslashes come first. -/
def escapedInTurn (text : List Char) : List Char :=
  replaced '\r' ['\\', 'r'] (replaced '\n' ['\\', 'n']
    (replaced '\'' ['\\', '\''] (replaced '\\' ['\\', '\\'] text)))

/-- Of a single character the replacements in turn make its escape. -/
lemma escapedInTurn_singleton (c : Char) : escapedInTurn [c] = literalChar c := by
  by_cases quoted : IsQuoted c
  · rcases quoted with rfl | rfl | rfl | rfl <;> rfl
  · rw [literalChar_of_not_isQuoted quoted]
    unfold IsQuoted at quoted
    push Not at quoted
    simp [escapedInTurn, replaced, Text.replacing, quoted]

/-- The escapes of a literal are those that are made one after the other. -/
lemma flatMap_literalChar_eq (text : List Char) :
    text.flatMap literalChar = escapedInTurn text := by
  induction text with
  | nil => rfl
  | cons c text ih =>
    have split : escapedInTurn (c :: text) = escapedInTurn [c] ++ escapedInTurn text := by
      rw [← List.singleton_append]
      simp only [escapedInTurn, replaced_append]
    rw [List.flatMap_cons, ih, split, escapedInTurn_singleton]

/-! ## Runs of backslashes -/

/-- The number of backslashes that a text ends with. -/
def trailingBackslashes (text : List Char) : Nat :=
  (text.reverse.takeWhile (· == '\\')).length

/-- A backslash at the end is one more. -/
lemma trailingBackslashes_backslash (text : List Char) :
    trailingBackslashes (text ++ ['\\']) = trailingBackslashes text + 1 := by
  simp [trailingBackslashes]

/-- Behind any other character there is no backslash at the end. -/
lemma trailingBackslashes_other (other : c ≠ '\\') (text : List Char) :
    trailingBackslashes (text ++ [c]) = 0 := by
  simp [trailingBackslashes, other]

/-- A text with escapes ends with whole ones: the backslashes at its end come in pairs. -/
lemma even_trailingBackslashes (text : List Char) :
    Even (trailingBackslashes (text.flatMap literalChar)) := by
  induction text using List.reverseRecOn with
  | nil => exact ⟨0, rfl⟩
  | append_singleton text c ih =>
    rw [List.flatMap_append, List.flatMap_singleton]
    by_cases quoted : IsQuoted c
    · obtain ⟨mark, escaped, _⟩ := literalChar_of_isQuoted quoted
      have parts : text.flatMap literalChar ++ ['\\', mark] =
          (text.flatMap literalChar ++ ['\\']) ++ [mark] := by simp
      rw [escaped, parts]
      by_cases backslash : mark = '\\'
      · rw [backslash, trailingBackslashes_backslash, trailingBackslashes_backslash]
        exact ih.add_one.add_one
      · rw [trailingBackslashes_other backslash]
        exact ⟨0, rfl⟩
    · have other : c ≠ '\\' := fun backslash => quoted (.inl backslash)
      rw [literalChar_of_not_isQuoted quoted, trailingBackslashes_other other]
      exact ⟨0, rfl⟩

/-- A quote stands in the escape of a character only after the backslash that starts it. -/
lemma eq_of_literalChar_eq (here : literalChar c = before ++ '\'' :: after) :
    before = ['\\'] ∧ after = [] := by
  by_cases quoted : IsQuoted c
  · obtain ⟨mark, escaped, _⟩ := literalChar_of_isQuoted quoted
    rw [escaped] at here
    cases before with
    | nil => cases here
    | cons d before =>
      obtain ⟨rfl, rest⟩ := List.cons.inj here
      cases before with
      | nil => exact ⟨rfl, (List.cons.inj rest).2.symm⟩
      | cons d before => simp at rest
  · have plain : c ≠ '\'' := fun quote => quoted (.inr (.inl quote))
    rw [literalChar_of_not_isQuoted quoted] at here
    cases before with
    | nil => exact absurd (List.cons.inj here).1 plain
    | cons d before => simp at here

/-- Every quote among escapes has an odd number of backslashes right before it. -/
lemma odd_trailingBackslashes (here : text.flatMap literalChar = before ++ '\'' :: after) :
    Odd (trailingBackslashes before) := by
  induction text using List.reverseRecOn generalizing after with
  | nil => simp at here
  | append_singleton text c ih =>
    rw [List.flatMap_append, List.flatMap_singleton] at here
    rcases List.append_eq_append_iff.mp here with ⟨middle, front, back⟩ | ⟨middle, front, back⟩
    · -- The quote is one of the last escape.
      obtain ⟨rfl, _⟩ := eq_of_literalChar_eq back
      rw [front, trailingBackslashes_backslash]
      exact (even_trailingBackslashes text).add_one
    · cases middle with
      | nil =>
        have first : literalChar c = [] ++ '\'' :: after := back.symm
        cases (eq_of_literalChar_eq first).1
      | cons d middle =>
        obtain ⟨rfl, _⟩ := List.cons.inj back
        exact ih front

/-! ## Literals -/

/-- A text between quotes for another one: a quote inside has an odd run of backslashes before it
and the one at the end has not, no line ends inside, and what stands there is read as the other
text. -/
structure Encloses (body text : List Char) : Prop where
  marked : ∀ before after, body = before ++ '\'' :: after → Odd (trailingBackslashes before)
  ends : Even (trailingBackslashes body)
  inline : '\n' ∉ body ∧ '\r' ∉ body
  read : readLiteral (body ++ ['\'']) = some text

/-- A literal between single quotes for a text. -/
def IsLiteralOf (quoted text : List Char) : Prop :=
  ∃ body, quoted = '\'' :: (body ++ ['\'']) ∧ Encloses body text

/-- No line break is left by the escapes. -/
lemma break_not_mem_flatMap (isBreak : c = '\n' ∨ c = '\r') (text : List Char) :
    c ∉ text.flatMap literalChar := by
  rw [List.mem_flatMap]
  rintro ⟨d, _, mem⟩
  by_cases quoted : IsQuoted d
  · rcases quoted with rfl | rfl | rfl | rfl
    all_goals
      rcases isBreak with rfl | rfl
      all_goals
        revert mem
        decide
  · rw [literalChar_of_not_isQuoted quoted, List.mem_singleton] at mem
    subst mem
    exact quoted (.inr (.inr isBreak))

/-- A literal is one of the text that it was made from. -/
lemma isLiteralOf_literal (s : String) : IsLiteralOf (literal s).toList s.toList := by
  refine ⟨s.toList.flatMap literalChar, ?_, ?_⟩
  · rw [literal, String.toList_ofList, literalChars, List.cons_append]
  · constructor
    case marked => exact fun _ _ here => odd_trailingBackslashes here
    case ends => exact even_trailingBackslashes s.toList
    case inline =>
      exact ⟨break_not_mem_flatMap (.inl rfl) s.toList, break_not_mem_flatMap (.inr rfl) s.toList⟩
    case read => exact readLiteral_flatMap s.toList

/-- A literal is one of a single text. -/
lemma IsLiteralOf.unique {quoted text text' : List Char} (h : IsLiteralOf quoted text)
    (h' : IsLiteralOf quoted text') : text = text' := by
  obtain ⟨body, chars, encloses⟩ := h
  obtain ⟨body', chars', encloses'⟩ := h'
  rw [chars, List.cons.injEq, and_iff_right rfl, List.append_cancel_right_eq] at chars'
  have read := encloses.read
  rw [chars', encloses'.read] at read
  exact (Option.some.inj read).symm

/-! ## Unions -/

/-- The texts of a union of literals. -/
def unionTexts (union : String) : Option (List String) :=
  match TypeExpr.read? union with
  | some (.literals first rest) => some (first :: rest)
  | _ => none

/-- A union of literals is taken apart into their texts. -/
lemma unionTexts_text (first : String) (rest : List String) :
    unionTexts (TypeExpr.literals first rest).text = some (first :: rest) := by
  rw [unionTexts, TypeExpr.read?_text]

/-- Literals encode texts: what is between the quotes is the text with its escapes made in turn, no
line ends there and no quote that closes the literal early, and it is read as the text again. No two
texts have the same literal, and the union that a schema with texts to choose from is mapped to is
taken apart into these texts. -/
theorem literals_encode :
    (∀ s, literalChars s = '\'' :: (escapedInTurn s ++ ['\''])) ∧
      (∀ s, IsLiteralOf (literal s).toList s.toList) ∧ Function.Injective literal ∧
      ∀ (s : Schema) (first : String) (rest : List String),
        unionTexts (TypeExpr.ofSchema
          { s with type := some "string", enum := some (first :: rest) }).text =
            some (first :: rest) := by
  refine ⟨fun s => ?_, isLiteralOf_literal, fun s t same => ?_, fun s first rest => ?_⟩
  · rw [literalChars, flatMap_literalChar_eq, List.cons_append]
  · apply String.toList_injective
    apply (isLiteralOf_literal s).unique
    rw [same]
    exact isLiteralOf_literal t
  · have shape : TypeExpr.ofSchema
        { s with type := some "string", enum := some (first :: rest) } = .literals first rest := rfl
    rw [shape, unionTexts_text]

/-- A backslash before a quote and before the letter of an escape. -/
example : literal "\\'\\n\n" = "'\\\\\\'\\\\n\\n'" := by decide

end ClientSynth.TypeScript
