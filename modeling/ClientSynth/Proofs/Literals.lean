import ClientSynth.Proofs.FilledPaths

/-!
# Literals and keys

`readLiteral` undoes the escapes of a literal between single quotes, so no two texts have the same
literal. A member's key is read as a literal when it starts with a quote, and as an identifier
otherwise; a line feed after an identifier is no part of it. So two names have the same key only if
they differ in such a line feed at most (`TypeScript.readKey_memberKey`).

Reading is shown for a literal with anything behind its closing quote kept apart, so the induction
is over the text and each character is either escaped, and read back as one, or stands for itself.
-/

namespace ClientSynth.TypeScript

variable {c : Char} {text : List Char}

/-! ## Literals -/

/-- The character that stands for itself or for a line break after a backslash. -/
def unescaped (c : Char) : Char :=
  if c = 'n' then '\n' else if c = 'r' then '\r' else c

/-- A character that a literal holds after a backslash only. -/
def IsQuoted (c : Char) : Prop :=
  c = '\\' ∨ c = '\'' ∨ c = '\n' ∨ c = '\r'

instance (c : Char) : Decidable (IsQuoted c) :=
  inferInstanceAs (Decidable (c = '\\' ∨ c = '\'' ∨ c = '\n' ∨ c = '\r'))

/-- The text of a literal, after the quote that opens it and up to the one that closes it, after
which there is nothing. -/
def readLiteral : List Char → Option (List Char)
  | [] => none
  | '\\' :: c :: rest => (readLiteral rest).map (unescaped c :: ·)
  | c :: rest =>
    if c = '\'' ∧ rest = [] then some []
    else if IsQuoted c then none
    else (readLiteral rest).map (c :: ·)

/-- A character that is escaped is a backslash and a mark that stands for it. -/
lemma literalChar_of_isQuoted (h : IsQuoted c) :
    ∃ mark, literalChar c = ['\\', mark] ∧ unescaped mark = c := by
  rcases h with rfl | rfl | rfl | rfl
  · exact ⟨'\\', rfl, rfl⟩
  · exact ⟨'\'', rfl, rfl⟩
  · exact ⟨'n', rfl, rfl⟩
  · exact ⟨'r', rfl, rfl⟩

/-- Any other character stands for itself. -/
lemma literalChar_of_not_isQuoted (h : ¬IsQuoted c) : literalChar c = [c] := by
  unfold IsQuoted at h
  push Not at h
  rw [literalChar, if_neg h.1, if_neg h.2.1, if_neg h.2.2.1, if_neg h.2.2.2]

/-- Reading undoes one character, whatever follows it. -/
lemma readLiteral_literalChar (c : Char) (rest : List Char) :
    readLiteral (literalChar c ++ rest) = (readLiteral rest).map (c :: ·) := by
  by_cases quoted : IsQuoted c
  · obtain ⟨mark, escaped, same⟩ := literalChar_of_isQuoted quoted
    rw [escaped, List.cons_append, List.singleton_append, readLiteral, same]
  · have plain : c ≠ '\'' := fun quote => quoted (.inr (.inl quote))
    rw [literalChar_of_not_isQuoted quoted, List.singleton_append, readLiteral,
      if_neg fun quote => plain quote.1, if_neg quoted]
    intro _ _ backslash
    exact absurd (.inl backslash) quoted

/-- A literal is read back as its text. -/
lemma readLiteral_flatMap (text : List Char) :
    readLiteral (text.flatMap literalChar ++ ['\'']) = some text := by
  induction text with
  | nil => rfl
  | cons c text ih => rw [List.flatMap_cons, List.append_assoc, readLiteral_literalChar, ih]; rfl

/-! ## Keys -/

/-- The name of a member that has a name for its key. -/
def keyName (name : List Char) : List Char :=
  if isIdentifierLine name then Text.withoutFinalBreak name else name

/-- What a text is read as in the place of a key. -/
def readKey : List Char → Option (List Char)
  | '\'' :: rest => readLiteral rest
  | text => if isIdentifierLine text then some (Text.withoutFinalBreak text) else none

/-- What starts with a quote is no identifier. -/
lemma isIdentifierLine_quote (rest : List Char) : isIdentifierLine ('\'' :: rest) = false := by
  rw [Bool.eq_false_iff]
  intro h
  have := isIdentifierPart_of_mem h (mem_withoutFinalBreak List.mem_cons_self (by decide))
  revert this
  decide

/-- A key is read as the name that it was made for. -/
lemma readKey_memberKey (name : String) :
    readKey (memberKey name).toList = some (keyName name.toList) := by
  rw [memberKey, keyName]
  cases line : isIdentifierLine name.toList with
  | true =>
    rw [if_pos rfl, if_pos rfl, readKey.eq_2, if_pos line]
    intro rest quote
    rw [quote, isIdentifierLine_quote] at line
    cases line
  | false =>
    rw [if_neg Bool.false_ne_true, if_neg Bool.false_ne_true, literal, String.toList_ofList,
      literalChars]
    exact readLiteral_flatMap _

end ClientSynth.TypeScript
