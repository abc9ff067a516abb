import Mathlib.Data.List.Basic
import Mathlib.Data.List.Infix
import Mathlib.Data.List.TakeWhile
import Mathlib.Tactic.Common
import ClientSynth.Text.Basic
import ClientSynth.Text.Class

/-!
# Searches in a text

What a search in generated code finds. The first line of a text is what stands before its first line
end (`Text.exists_lines`), a part occurs where it is an infix (`Text.occursIn_iff_infix`), and a
word is found on one side of a character that no word has in it (`Text.hasWord_append_cons`).

Words are the harder search, because whether one starts depends on the character before. The scan
carries this as a flag, so a text is cut at a character that is in no word: behind it the scan
starts afresh (`hasWord_go_append_cons`), and what is found on either side does not depend on the
other.
-/

namespace ClientSynth.Text

/-! ## Lines -/

/-- A text without line ends. -/
def Unbroken (text : List Char) : Prop :=
  ∀ c ∈ text, isLineEnd c = false

instance (text : List Char) : Decidable (Unbroken text) :=
  decidable_of_iff ((text.all fun c => !isLineEnd c) = true) (by simp [Unbroken])

/-- What stands before the first line end of a text. -/
def firstLine (text : List Char) : List Char :=
  text.takeWhile fun c => !isLineEnd c

variable {xs ys text part word : List Char} {c : Char}

/-- Two texts together are unbroken if each of them is. -/
lemma unbroken_append_iff : Unbroken (xs ++ ys) ↔ Unbroken xs ∧ Unbroken ys :=
  List.forall_mem_append

/-- An unbroken text is its own first line. -/
lemma firstLine_of_unbroken (unbroken : Unbroken xs) : firstLine xs = xs :=
  List.takeWhile_eq_self_iff.mpr fun c mem => by rw [unbroken c mem]; rfl

/-- A text that starts with a line end has an empty first line. -/
lemma exists_lines_of_end (ends : isLineEnd c = true) (rest : List Char) :
    ∃ later, lines (c :: rest) = [] :: later := by
  rw [lines.eq_def]
  split
  case h_1 empty => cases empty
  case h_2 => exact ⟨_, rfl⟩
  case h_3 eq =>
    cases eq
    rw [if_pos ends]
    exact ⟨_, rfl⟩

/-- A character that ends no line belongs to the first line after it. -/
lemma lines_cons {first : List Char} {later : List (List Char)} (plain : isLineEnd c = false)
    (some : xs ≠ []) (eq : lines xs = first :: later) :
    lines (c :: xs) = (c :: first) :: later := by
  obtain ⟨d, rest, rfl⟩ := List.exists_cons_of_ne_nil some
  rw [lines, plain, eq]
  · cases ends : isLineEnd d with
    | true =>
      obtain ⟨others, start⟩ := exists_lines_of_end ends rest
      rw [eq] at start
      cases start
      rfl
    | false => rfl
  · rintro _ rfl _
    cases plain

/-- The first line of a text that is not empty. -/
lemma exists_lines (some : text ≠ []) : ∃ later, lines text = firstLine text :: later := by
  induction text with
  | nil => exact absurd rfl some
  | cons c rest ih =>
    cases ends : isLineEnd c with
    | true =>
      rw [firstLine, List.takeWhile_cons_of_neg (by simp [ends])]
      exact exists_lines_of_end ends rest
    | false =>
      rw [firstLine, List.takeWhile_cons_of_pos (by simp [ends])]
      by_cases last : rest = []
      · subst last
        refine ⟨[], ?_⟩
        rw [lines, ends]
        · rfl
        · rintro _ rfl _
          cases ends
      · obtain ⟨later, eq⟩ := ih last
        exact ⟨later, lines_cons ends last eq⟩

/-- An unbroken text before a line feed is a line of its own. -/
lemma lines_append_break (unbroken : Unbroken xs) (ys : List Char) :
    lines (xs ++ '\n' :: ys) = xs :: lines ys := by
  induction xs with
  | nil => rfl
  | cons c xs ih =>
    obtain ⟨plain, unbroken⟩ := List.forall_mem_cons.mp unbroken
    exact lines_cons plain (by simp) (ih unbroken)

/-- Unbroken text in front is part of the first line. -/
lemma firstLine_append (unbroken : Unbroken xs) (ys : List Char) :
    firstLine (xs ++ ys) = xs ++ firstLine ys :=
  List.takeWhile_append_of_pos fun c mem => by rw [unbroken c mem]; rfl

/-- A text that is broken is broken at a first place. -/
lemma exists_break (broken : ¬Unbroken text) :
    ∃ xs c ys, Unbroken xs ∧ isLineEnd c = true ∧ text = xs ++ c :: ys := by
  induction text with
  | nil => exact absurd (List.forall_mem_nil _) broken
  | cons c rest ih =>
    cases ends : isLineEnd c with
    | true => exact ⟨[], c, rest, List.forall_mem_nil _, ends, rfl⟩
    | false =>
      obtain ⟨xs, d, ys, unbroken, last, rfl⟩ :=
        ih fun rest => broken (List.forall_mem_cons.mpr ⟨ends, rest⟩)
      exact ⟨c :: xs, d, ys, List.forall_mem_cons.mpr ⟨ends, unbroken⟩, last, rfl⟩

/-- The first line stops at its end. -/
lemma firstLine_append_cons (unbroken : Unbroken xs) (ends : isLineEnd c = true) (ys : List Char) :
    firstLine (xs ++ c :: ys) = xs := by
  rw [firstLine_append unbroken, firstLine, List.takeWhile_cons_of_neg (by simp [ends]),
    List.append_nil]

/-- After its first line end a text may go on in any way. -/
lemma firstLine_append_of_broken (broken : ¬Unbroken xs) (ys : List Char) :
    firstLine (xs ++ ys) = firstLine xs := by
  obtain ⟨front, c, back, unbroken, ends, rfl⟩ := exists_break broken
  rw [List.append_assoc, List.cons_append, firstLine_append_cons unbroken ends,
    firstLine_append_cons unbroken ends]

/-- A line end is no part of the first line, nor is what follows it. -/
lemma firstLine_append_end (ends : isLineEnd c = true) (xs ys : List Char) :
    firstLine (xs ++ c :: ys) = firstLine xs := by
  by_cases unbroken : Unbroken xs
  · rw [firstLine_append_cons unbroken ends, firstLine_of_unbroken unbroken]
  · exact firstLine_append_of_broken unbroken _

/-- Unbroken texts that line feeds join to others are lines of their own. -/
lemma lines_intercalate_append {texts others : List String}
    (unbroken : ∀ text ∈ texts, Unbroken text.toList) (some : others ≠ []) :
    lines ("\n".intercalate (texts ++ others)).toList =
      texts.map String.toList ++ lines ("\n".intercalate others).toList := by
  induction texts with
  | nil => rfl
  | cons first texts ih =>
    obtain ⟨here, unbroken⟩ := List.forall_mem_cons.mp unbroken
    obtain ⟨next, rest, eq⟩ := List.exists_cons_of_ne_nil (l := texts ++ others) (by simp [some])
    rw [List.cons_append, List.map_cons, List.cons_append, ← ih unbroken, eq,
      String.intercalate_cons_cons, String.toList_append, String.toList_append, List.append_assoc]
    exact lines_append_break here _

/-- Joined texts are unbroken if the separator and each of them is. -/
lemma unbroken_intercalate_iff {separator : String} (whole : Unbroken separator.toList)
    {texts : List String} :
    Unbroken (separator.intercalate texts).toList ↔ ∀ text ∈ texts, Unbroken text.toList := by
  induction texts with
  | nil => exact iff_of_true (List.forall_mem_nil _) (List.forall_mem_nil _)
  | cons first texts ih =>
    cases texts with
    | nil => rw [String.intercalate_singleton, List.forall_mem_singleton]
    | cons next texts =>
      rw [String.intercalate_cons_cons, String.toList_append, String.toList_append,
        unbroken_append_iff, unbroken_append_iff, and_iff_left whole, List.forall_mem_cons, ih]

/-- Each of several joined texts is found in the whole. -/
lemma infix_intercalate {separator text : String} {texts : List String} (mem : text ∈ texts) :
    text.toList <:+: (separator.intercalate texts).toList := by
  induction texts with
  | nil => cases mem
  | cons first texts ih =>
    cases texts with
    | nil =>
      rw [List.mem_singleton.mp mem, String.intercalate_singleton]
    | cons next texts =>
      rw [String.intercalate_cons_cons, String.toList_append, String.toList_append]
      rcases List.mem_cons.mp mem with rfl | mem
      · exact (List.prefix_append_of_prefix (List.prefix_append _ _)).isInfix
      · exact (ih mem).trans (List.suffix_append _ _).isInfix

/-! ## Parts -/

/-- A part occurs in a text if it is an infix of it. -/
lemma occursIn_iff_infix : occursIn part text = true ↔ part <:+: text := by
  induction text with
  | nil => simp [occursIn]
  | cons c rest ih =>
    rw [occursIn, Bool.or_eq_true, List.isPrefixOf_iff_prefix, ih, List.infix_cons_iff]

/-- A part does not reach across a character that is not in it. -/
lemma infix_append_cons_iff (foreign : c ∉ part) :
    part <:+: xs ++ c :: ys ↔ part <:+: xs ∨ part <:+: ys := by
  rw [List.infix_append_iff, List.infix_cons_iff]
  have cut (back : List Char) (starts : back <+: c :: ys) (inside : ∀ x ∈ back, x ∈ part) :
      back = [] := by
    cases back with
    | nil => rfl
    | cons x back =>
      cases (List.cons_prefix_cons.mp starts).1
      exact absurd (inside c List.mem_cons_self) foreign
  constructor
  · rintro (before | (starts | after) | ⟨front, back, rfl, ends, starts⟩)
    · exact .inl before
    · rw [cut part starts fun _ mem => mem]
      exact .inl List.nil_infix
    · exact .inr after
    · rw [cut back starts fun _ mem => List.mem_append_right front mem, List.append_nil]
      exact .inl ends.isInfix
  · rintro (before | after)
    · exact .inl before
    · exact .inr (.inl (.inr after))

/-- A part with a character that is not in the text is not found in it. -/
lemma not_infix_of_not_mem (mem : c ∈ part) (absent : c ∉ text) : ¬part <:+: text :=
  fun inside => absent (inside.subset mem)

/-! ## Words -/

section Words

/-- A text of characters that words have in them. -/
def IsWordlike (text : List Char) : Prop :=
  ∀ c ∈ text, isWordChar c = true

/-- A text of characters that no word has in it. -/
def IsWordless (text : List Char) : Prop :=
  ∀ c ∈ text, isWordChar c = false

instance (text : List Char) : Decidable (IsWordlike text) :=
  decidable_of_iff (text.all isWordChar = true) List.all_eq_true

instance (text : List Char) : Decidable (IsWordless text) :=
  decidable_of_iff ((text.all fun c => !isWordChar c) = true) (by simp [IsWordless])

variable {joined : Bool} (letters : IsWordlike word)

/-- A word at the front of a text, with no word character after it. -/
def startsWithWord (word text : List Char) : Bool :=
  word.isPrefixOf text && !((text.drop word.length).head?.any isWordChar)

/-- The scan looks for the word here, unless it is inside another, and then further on. -/
lemma hasWord_go_cons (c : Char) (rest : List Char) :
    hasWord.go word joined (c :: rest) =
      (!joined && startsWithWord word (c :: rest) || hasWord.go word (isWordChar c) rest) := by
  rw [hasWord.go, startsWithWord, Bool.and_assoc]

include letters

/-- A word reaches no further than a character that no word has in it. -/
lemma startsWithWord_append_cons (mark : isWordChar c = false) (ys : List Char) :
    startsWithWord word (xs ++ c :: ys) = startsWithWord word xs := by
  -- A word that starts here ends before the mark, which is in no word.
  have within : word <+: xs ++ c :: ys ↔ word <+: xs := by
    constructor
    · intro starts
      rcases List.prefix_or_prefix_of_prefix starts (List.prefix_append xs (c :: ys)) with h | h
      · exact h
      · obtain ⟨more, rfl⟩ := h
        rw [List.prefix_append_right_inj] at starts
        cases more with
        | nil => rw [List.append_nil]
        | cons d more =>
          cases (List.cons_prefix_cons.mp starts).1
          rw [letters c (by simp)] at mark
          cases mark
    · exact fun starts => starts.trans (List.prefix_append _ _)
  by_cases starts : word <+: xs
  · obtain ⟨rest, rfl⟩ := starts
    have left : (word ++ rest ++ c :: ys).drop word.length = rest ++ c :: ys := by
      rw [List.append_assoc, List.drop_left]
    -- What follows the word is a word character on both sides or on neither.
    have after : (rest ++ c :: ys).head?.any isWordChar = rest.head?.any isWordChar := by
      cases rest with
      | nil => exact mark
      | cons d rest => rfl
    rw [startsWithWord, startsWithWord, left, List.drop_left, after,
      List.isPrefixOf_iff_prefix.mpr (within.mpr (List.prefix_append _ _)),
      List.isPrefixOf_iff_prefix.mpr (List.prefix_append _ _)]
  · have none : ∀ {text : List Char}, ¬word <+: text → startsWithWord word text = false := by
      intro text absent
      rw [startsWithWord, Bool.and_eq_false_iff]
      exact .inl (Bool.eq_false_iff.mpr (mt List.isPrefixOf_iff_prefix.mp absent))
    rw [none starts, none (mt within.mp starts)]

/-- Behind a character of no word the scan starts afresh. -/
lemma hasWord_go_append_cons (some : word ≠ []) (mark : isWordChar c = false) (ys : List Char) :
    hasWord.go word joined (xs ++ c :: ys) =
      (hasWord.go word joined xs || hasWord.go word false ys) := by
  induction xs generalizing joined with
  | nil =>
    have absent : startsWithWord word (c :: ys) = false := by
      rw [← List.nil_append (c :: ys), startsWithWord_append_cons letters mark]
      cases word with
      | nil => exact absurd rfl some
      | cons d word => rfl
    rw [List.nil_append, hasWord_go_cons, absent, mark, Bool.and_false]
    rfl
  | cons d xs ih =>
    rw [List.cons_append, hasWord_go_cons, hasWord_go_cons, ← List.cons_append,
      startsWithWord_append_cons letters mark, ih, Bool.or_assoc]

/-- A word is on one side of a character that no word has in it. -/
lemma hasWord_append_cons (some : word ≠ []) (mark : isWordChar c = false) (xs ys : List Char) :
    hasWord word (xs ++ c :: ys) = (hasWord word xs || hasWord word ys) :=
  hasWord_go_append_cons letters some mark ys

/-- What has no word character in it may be passed over. -/
lemma hasWord_gap (some : word ≠ []) {gap : List Char} (marks : IsWordless gap)
    (ys : List Char) : hasWord word (gap ++ ys) = hasWord word ys := by
  induction gap with
  | nil => rfl
  | cons c gap ih =>
    obtain ⟨mark, marks⟩ := List.forall_mem_cons.mp marks
    have first := hasWord_append_cons letters some mark [] (gap ++ ys)
    rw [ih marks] at first
    exact first

/-- A word is on one side of a gap. -/
lemma hasWord_append_gap (some : word ≠ []) {gap : String} (isGap : gap ≠ "")
    (marks : IsWordless gap.toList) (s t : String) :
    hasWord word (s ++ gap ++ t).toList = (hasWord word s.toList || hasWord word t.toList) := by
  obtain ⟨c, rest, eq⟩ := List.exists_cons_of_ne_nil (mt String.toList_eq_nil_iff.mp isGap)
  rw [eq] at marks
  obtain ⟨mark, marks⟩ := List.forall_mem_cons.mp marks
  rw [String.toList_append, String.toList_append, eq, List.append_assoc, List.cons_append,
    hasWord_append_cons letters some mark, hasWord_gap letters some marks]

/-- A word is in texts with a gap between neighbours when it is in one of them. -/
lemma hasWord_intercalate_iff (some : word ≠ []) {gap : String} (isGap : gap ≠ "")
    (marks : IsWordless gap.toList) {texts : List String} :
    hasWord word (gap.intercalate texts).toList = true ↔
      ∃ text ∈ texts, hasWord word text.toList = true := by
  induction texts with
  | nil => simp [hasWord, hasWord.go]
  | cons first texts ih =>
    cases texts with
    | nil => simp
    | cons next texts =>
      rw [String.intercalate_cons_cons, hasWord_append_gap letters some isGap marks,
        Bool.or_eq_true, ih]
      simp only [List.exists_mem_cons_iff]

omit letters

/-- A text of word characters has no word in it but itself. -/
lemma eq_of_hasWord (all : IsWordlike text) (h : hasWord word text = true) :
    text = word := by
  have inner : ∀ {rest : List Char}, IsWordlike rest → hasWord.go word true rest = false := by
    intro rest all
    induction rest with
    | nil => rfl
    | cons c rest ih =>
      obtain ⟨letter, all⟩ := List.forall_mem_cons.mp all
      rw [hasWord_go_cons, letter, ih all]
      rfl
  cases text with
  | nil => cases h
  | cons c rest =>
    rw [hasWord, hasWord_go_cons, all c List.mem_cons_self,
      inner (List.forall_mem_cons.mp all).2, Bool.or_false, startsWithWord] at h
    simp only [Bool.not_false, Bool.true_and, Bool.and_eq_true, List.isPrefixOf_iff_prefix] at h
    obtain ⟨⟨more, eq⟩, last⟩ := h
    rw [← eq, List.drop_left] at last
    cases more with
    | nil => rw [← eq, List.append_nil]
    | cons d more =>
      have letter := all d (by rw [← eq]; simp)
      simp [letter] at last

/-- No line end is part of a word. -/
lemma isWordChar_of_isLineEnd (ends : isLineEnd c = true) : isWordChar c = false := by
  have all : ∀ n ∈ [0x0A, 0x0B, 0x0C, 0x0D, 0x1C, 0x1D, 0x1E, 0x85, 0x2028, 0x2029],
      isWordChar (Char.ofNat n) = false := by
    decide +kernel
  have listed : c.toNat ∈ [0x0A, 0x0B, 0x0C, 0x0D, 0x1C, 0x1D, 0x1E, 0x85, 0x2028, 0x2029] := by
    simp only [isLineEnd, Bool.or_eq_true, Bool.and_eq_true, decide_eq_true_eq, beq_iff_eq] at ends
    simp only [List.mem_cons, List.not_mem_nil, or_false]
    omega
  have := all _ listed
  rwa [Char.ofNat_toNat] at this

include letters

/-- A word in the first line of a text is one of the text: a line end is in no word. -/
lemma hasWord_of_firstLine (some : word ≠ []) (h : hasWord word (firstLine text) = true) :
    hasWord word text = true := by
  by_cases whole : Unbroken text
  · rwa [firstLine_of_unbroken whole] at h
  · obtain ⟨xs, c, ys, unbroken, ends, rfl⟩ := exists_break whole
    rw [firstLine_append_cons unbroken ends] at h
    rw [hasWord_append_cons letters some (isWordChar_of_isLineEnd ends), h, Bool.true_or]

end Words

end ClientSynth.Text
