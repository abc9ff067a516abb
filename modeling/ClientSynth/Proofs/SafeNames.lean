import ClientSynth.Proofs.LiteralEscapes
import ClientSynth.Proofs.UsableNames

/-!
# Safe names

The identifier of a parameter and the key of a member are the name itself where that passes the test
for identifiers, and are made from it otherwise: letter by letter for an identifier, as a literal
for a key. Either way the outcome can stand in source (`Naming.safe_iff`), with one exception. The
test looks at a line, so a name that is an identifier with a line feed after it passes and is kept
as it is.

A name that is not kept is made from its words, which are letters and digits, so that only its start
and a collision with a reserved word have to be looked at (`Naming.HasParts`). A reserved word with
a mark behind it is none, as the test for reserved words compares whole names.
-/

namespace ClientSynth

namespace TypeScript

variable {text : List Char} {c : Char}

/-- An identifier and a line feed after it. -/
def EndsLine (text : List Char) : Prop :=
  ∃ stem, isIdentifier stem = true ∧ text = stem ++ ['\n']

/-- No identifier has a line feed in it. -/
lemma break_not_mem_of_isIdentifier (h : isIdentifier text = true) : '\n' ∉ text := by
  intro mem
  have part := isIdentifierPart_of_mem h mem
  revert part
  decide

/-- A text that ends in a line feed is no identifier. -/
lemma EndsLine.not_isIdentifier (h : EndsLine text) : isIdentifier text = false := by
  obtain ⟨stem, _, rfl⟩ := h
  rw [Bool.eq_false_iff]
  intro whole
  exact break_not_mem_of_isIdentifier whole (by simp)

/-- The test for identifiers lets an identifier pass, and one with a line feed after it. -/
lemma isIdentifierLine_iff :
    isIdentifierLine text = true ↔ isIdentifier text = true ∨ EndsLine text := by
  rw [isIdentifierLine, Text.withoutFinalBreak]
  constructor
  · intro line
    split at line
    case isTrue ends =>
      obtain ⟨stem, rfl⟩ := List.getLast?_eq_some_iff.mp ends
      rw [List.dropLast_concat] at line
      exact .inr ⟨stem, line, rfl⟩
    case isFalse => exact .inl line
  · rintro (whole | ⟨stem, isStem, rfl⟩)
    · rw [if_neg]
      · exact whole
      · intro ends
        exact break_not_mem_of_isIdentifier whole (List.mem_of_getLast? ends)
    · rw [if_pos List.getLast?_concat, List.dropLast_concat]
      exact isStem

/-- No identifier starts with a digit. -/
lemma isDigit_eq_false_of_start (start : isIdentifierStart c = true) : c.isDigit = false := by
  rw [Bool.eq_false_iff]
  intro digit
  have alnum : Text.isAlnum c = true := by
    change (c.isAlpha || c.isDigit) = true
    rw [digit, Bool.or_true]
  have letter := Naming.of_isAlnum
    (P := fun c => isIdentifierStart c = true → c.isDigit = false) (by decide) alnum start
  rw [digit] at letter
  cases letter

/-- A character of identifiers that is no digit may start one. -/
lemma isIdentifierStart_of_part (part : isIdentifierPart c = true) (letter : c.isDigit = false) :
    isIdentifierStart c = true := by
  simpa [isIdentifierPart, isIdentifierStart, Char.isAlphanum, letter] using part

end TypeScript

open TypeScript

namespace Naming

variable {stem name : String}

/-! ## Identifiers of parameters -/

/-- A name made of characters of identifiers. -/
def HasParts (name : String) : Prop :=
  ∀ c ∈ name.toList, isIdentifierPart c = true

/-- A stem of such characters is an identifier, with a mark in front where it could not start one.
-/
lemma isIdentifier_startSafe (parts : HasParts stem) :
    isIdentifier (startSafe stem).toList = true := by
  rw [startSafe]
  unfold HasParts at parts
  split
  case h_1 => decide
  case h_2 c rest chars =>
    rw [chars] at parts
    split
    case isTrue =>
      rw [String.toList_append, chars]
      exact List.all_eq_true.mpr parts
    case isFalse letter =>
      rw [List.forall_mem_cons] at parts
      rw [chars, isIdentifier, Bool.and_eq_true]
      constructor
      · exact isIdentifierStart_of_part parts.1 (Bool.eq_false_iff.mpr letter)
      · exact List.all_eq_true.mpr parts.2

/-- An underscore makes a reserved word an identifier that is none. -/
lemma isUsable_unreserved (h : isIdentifier name.toList = true) : IsUsable (unreserved name) := by
  rw [unreserved]
  split
  case isTrue reserved =>
    have ending : '_' ∈ (name ++ "_").toList := by simp
    constructor
    · cases chars : name.toList with
      | nil =>
        rw [chars] at h
        cases h
      | cons c rest =>
        rw [chars, isIdentifier, Bool.and_eq_true] at h
        rw [String.toList_append, chars, List.cons_append, isIdentifier, h.1, List.all_append, h.2]
        rfl
    · exact not_reserved ending (by decide)
  case isFalse free =>
    rw [List.contains_iff_mem] at free
    exact ⟨h, free⟩

/-- Camel case has characters of identifiers only. -/
lemma hasParts_camel (s : String) : HasParts (camel s) := by
  have letters : ∀ word ∈ words s.toList, ∀ c ∈ word, Text.isAlnum c = true :=
    fun _ mem => Text.all_of_mem_runs mem
  rw [HasParts, camel, String.toList_ofList, camelChars]
  intro c mem
  apply isIdentifierPart_of_isAlnum
  split at mem
  case h_1 => cases mem
  case h_2 first rest eq =>
    rw [eq, List.forall_mem_cons] at letters
    rcases List.mem_append.mp mem with inFirst | inRest
    · obtain ⟨d, isLetter, rfl⟩ := List.mem_map.mp inFirst
      exact (isAlnum_cased (letters.1 d isLetter)).2
    · obtain ⟨word, isWord, inWord⟩ := List.mem_flatMap.mp inRest
      exact isAlnum_capitalised (letters.2 word isWord) c inWord

/-- The first form of a name has no other characters than those of identifiers, unless the name is
kept with a line feed. -/
lemma hasParts_parameterStem (single : ¬EndsLine name.toList) : HasParts (parameterStem name) := by
  rw [parameterStem]
  split
  case isTrue line =>
    have whole := (isIdentifierLine_iff.mp line).resolve_right single
    exact fun c mem => isIdentifierPart_of_mem whole mem
  case isFalse => exact hasParts_camel name

/-- An identifier with a line feed after it is kept as it is. -/
lemma identifier_of_endsLine (broken : EndsLine name.toList) : identifier name = name := by
  have line : isIdentifierLine name.toList = true := isIdentifierLine_iff.mpr (.inr broken)
  have unreserved : name ∉ reservedWords := by
    obtain ⟨stem, _, chars⟩ := broken
    apply not_reserved (c := '\n')
    · rw [chars]
      simp
    · decide
  have safe : startSafe name = name := by
    obtain ⟨stem, isStem, chars⟩ := broken
    cases stem with
    | nil => cases isStem
    | cons c rest =>
      rw [isIdentifier, Bool.and_eq_true] at isStem
      rw [startSafe, chars]
      apply if_neg
      rw [isDigit_eq_false_of_start isStem.1]
      exact Bool.false_ne_true
  rw [identifier, parameterStem, if_pos line, safe, Naming.unreserved, if_neg]
  rw [List.contains_iff_mem]
  exact unreserved

/-! ## Keys of members -/

/-- The key of a member is an identifier, which is its name, or a literal for its name. -/
def HasSafeKey (name : String) : Prop :=
  memberKey name = name ∧ isIdentifier name.toList = true ∨
    IsLiteralOf (memberKey name).toList name.toList

/-- A name that does not end its line has a safe key: itself or a literal. -/
lemma hasSafeKey_of_single (single : ¬EndsLine name.toList) : HasSafeKey name := by
  rw [HasSafeKey, memberKey]
  split
  case isTrue line =>
    exact .inl ⟨rfl, (isIdentifierLine_iff.mp line).resolve_right single⟩
  case isFalse => exact .inr (isLiteralOf_literal name)

/-- A name that ends its line passes the test, so its key is the name. -/
lemma memberKey_of_endsLine (broken : EndsLine name.toList) : memberKey name = name :=
  if_pos (isIdentifierLine_iff.mpr (.inr broken))

/-- A name that is kept with a line feed is neither an identifier nor a literal. -/
lemma not_hasSafeKey (broken : EndsLine name.toList) : ¬HasSafeKey name := by
  rintro (⟨_, whole⟩ | ⟨body, chars, _⟩)
  · rw [broken.not_isIdentifier] at whole
    cases whole
  · rw [memberKey_of_endsLine broken] at chars
    obtain ⟨stem, _, eq⟩ := broken
    rw [eq, ← List.cons_append] at chars
    have ends := (List.append_inj' chars rfl).2
    cases ends

/-! ## Names -/

/-- The identifier of a parameter is an identifier and no reserved word, and a member's key is the
name as an identifier or a literal for it, for every name but an identifier with a line feed after
it. Such a name is kept for both. -/
theorem safe_iff (name : String) :
    (IsUsable (identifier name) ↔ ¬EndsLine name.toList) ∧
      (HasSafeKey name ↔ ¬EndsLine name.toList) ∧
      (EndsLine name.toList → identifier name = name ∧ memberKey name = name) := by
  refine ⟨⟨fun usable broken => ?_, fun single => ?_⟩, ⟨fun safe broken => ?_, ?_⟩,
    fun broken => ?_⟩
  · rw [identifier_of_endsLine broken, IsUsable, broken.not_isIdentifier] at usable
    cases usable.1
  · apply isUsable_unreserved
    exact isIdentifier_startSafe (hasParts_parameterStem single)
  · exact not_hasSafeKey broken safe
  · exact hasSafeKey_of_single
  · exact ⟨identifier_of_endsLine broken, memberKey_of_endsLine broken⟩

/-- A digit gets an underscore before it and a reserved word one behind it; a line feed stays. -/
example : ["2fa", "delete!", "", "id\n"].map identifier = ["_2fa", "delete_", "param", "id\n"] := by
  decide +kernel

end Naming

end ClientSynth
