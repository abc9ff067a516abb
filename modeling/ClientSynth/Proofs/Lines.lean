import Mathlib.Data.List.Basic
import Mathlib.Data.List.Infix
import Mathlib.Tactic.Common
import ClientSynth.Text.Basic

/-!
# Lines of a file

Files are put together from parts, each of which is followed by a line feed. `Text.StandsIn` says
that a part stands in a file on lines of its own, and `Text.rows` cuts a file into its lines again.
Parts without line feeds are lines (`Text.rows_unlines`), and how a part starts a line of the file
starts as well (`Text.exists_row`).

The two ways to look at a file fit together: `unlines` puts a line feed after each part, `rows` cuts
at each, so a part contributes its own lines whatever is in it (`Text.rows_unlines_append`), and
what is to be shown of single lines can be shown of single parts.
-/

namespace ClientSynth.Text

/-! ## Parts -/

section Parts

variable {part text : String} {parts : List String}

/-- The first part comes with its line feed before the others. -/
lemma unlines_cons (x : String) (xs : List String) : unlines (x :: xs) = x ++ "\n" ++ unlines xs :=
  rfl

/-- Lines of two lists of parts follow one another. -/
lemma unlines_append (xs ys : List String) : unlines (xs ++ ys) = unlines xs ++ unlines ys := by
  induction xs with
  | nil => simp [unlines]
  | cons x xs ih => simpa [unlines, String.append_assoc] using ih

/-- A text stands in another one on lines of its own. -/
def StandsIn (part text : String) : Prop :=
  ∃ before after, text = unlines (before ++ part :: after)

/-- Each part stands in the file. -/
lemma standsIn_unlines (mem : part ∈ parts) : StandsIn part (unlines parts) := by
  obtain ⟨before, after, rfl⟩ := List.append_of_mem mem
  exact ⟨before, after, rfl⟩

/-- Lines that are joined by line feeds, and a line feed after them. -/
lemma intercalate_lines (line : String) (lines : List String) :
    "\n".intercalate (line :: lines) ++ "\n" = unlines (line :: lines) := by
  induction lines generalizing line with
  | nil => simp [unlines]
  | cons next lines ih =>
    rw [String.intercalate_cons_cons, String.append_assoc, ih]
    rfl

/-- Texts with a separator between neighbours are the first text, and each later one after the
separator. -/
lemma toList_intercalate_cons (separator first : String) (texts : List String) :
    (separator.intercalate (first :: texts)).toList =
      first.toList ++ texts.flatMap fun t => separator.toList ++ t.toList := by
  induction texts generalizing first with
  | nil => simp
  | cons next texts ih =>
    rw [String.intercalate_cons_cons, String.toList_append, String.toList_append, ih,
      List.flatMap_cons, List.append_assoc, List.append_assoc]

/-- Two texts with a separator of one character between them. -/
lemma toList_append_separator {separator : String} (c : Char)
    (single : separator.toList = [c]) (s t : String) :
    (s ++ separator ++ t).toList = s.toList ++ c :: t.toList := by
  rw [String.toList_append, String.toList_append, single, List.append_assoc,
    List.singleton_append]

/-- Of several texts the first comes with a separator before the others. -/
lemma toList_intercalate_cons_cons {separator : String} (c : Char)
    (single : separator.toList = [c]) (first next : String) (texts : List String) :
    (separator.intercalate (first :: next :: texts)).toList =
      first.toList ++ c :: (separator.intercalate (next :: texts)).toList := by
  rw [String.intercalate_cons_cons, toList_append_separator c single]

/-- A character that is in no text and not in the separator is not in the whole. -/
lemma not_mem_intercalate {c : Char} {separator : String} {texts : List String}
    (apart : c ∉ separator.toList) (all : ∀ text ∈ texts, c ∉ text.toList) :
    c ∉ (separator.intercalate texts).toList := by
  induction texts with
  | nil => exact List.not_mem_nil
  | cons first texts ih =>
    rw [List.forall_mem_cons] at all
    cases texts with
    | nil => simpa using all.1
    | cons next texts =>
      rw [String.intercalate_cons_cons, String.toList_append, String.toList_append, List.mem_append,
        List.mem_append]
      rintro ((mem | mem) | mem)
      · exact all.1 mem
      · exact apart mem
      · exact ih all.2 mem

/-- A character that is not among those of a literal is not in it. -/
lemma not_mem_ofList {c : Char} {chars : List Char} (h : c ∉ chars) :
    c ∉ (String.ofList chars).toList := by
  rwa [String.toList_ofList]

/-- A literal starts with its first character. -/
lemma head?_ofList {c : Char} {chars : List Char} (h : chars.head? = some c) :
    (String.ofList chars).toList.head? = some c := by
  rwa [String.toList_ofList]

/-- A character that is in neither of two texts is not in both together. -/
lemma not_mem_append {c : Char} {s t : String} (hs : c ∉ s.toList) (ht : c ∉ t.toList) :
    c ∉ (s ++ t).toList := by
  rw [String.toList_append, List.mem_append]
  exact not_or.mpr ⟨hs, ht⟩

/-- A character is not in a text with literals around it when it is in none of the three. -/
lemma not_mem_around {c : Char} {front back : List Char} {s : String} (before : c ∉ front)
    (inside : c ∉ s.toList) (after : c ∉ back) :
    c ∉ (String.ofList front ++ s ++ String.ofList back).toList :=
  not_mem_append (not_mem_append (not_mem_ofList before) inside) (not_mem_ofList after)

/-- A text starts like its front. -/
lemma head?_append {s t : String} {c : Char} (h : s.toList.head? = some c) :
    (s ++ t).toList.head? = some c := by
  rw [String.toList_append, List.head?_append, h, Option.some_or]

/-- A line of a part that stands in a file stands in the file. -/
lemma StandsIn.line {line : String} {lines : List String}
    (h : StandsIn ("\n".intercalate lines) text) (mem : line ∈ lines) : StandsIn line text := by
  obtain ⟨before, after, rfl⟩ := h
  obtain ⟨front, back, rfl⟩ := List.append_of_mem mem
  refine ⟨before ++ front, back ++ after, ?_⟩
  obtain ⟨first, rest, eq⟩ := List.exists_cons_of_ne_nil (l := front ++ line :: back) (by simp)
  -- The line feed after the part is the one after its last line.
  have split : unlines ("\n".intercalate (front ++ line :: back) :: after) =
      unlines (front ++ line :: back) ++ unlines after := by
    rw [eq, unlines_cons, intercalate_lines]
  rw [unlines_append, split, ← unlines_append, ← unlines_append, List.append_assoc,
    List.append_assoc, List.cons_append]

end Parts

/-! ## Lines -/

section Rows

variable {mark : Char} {xs : List Char}

/-- Cutting a text leaves at least one piece. -/
lemma splitAt_ne_nil (mark : Char) (xs : List Char) : splitAt mark xs ≠ [] := by
  cases xs with
  | nil => simp [splitAt]
  | cons c rest =>
    rw [splitAt]
    split
    · simp
    · split <;> simp

/-- A text is cut where a mark stands. -/
lemma splitAt_append (mark : Char) (xs ys : List Char) :
    splitAt mark (xs ++ mark :: ys) = splitAt mark xs ++ splitAt mark ys := by
  induction xs with
  | nil => simp [splitAt]
  | cons c rest ih =>
    rw [List.cons_append, splitAt, splitAt, ih]
    split
    · rfl
    · cases eq : splitAt mark rest with
      | nil => exact absurd eq (splitAt_ne_nil mark rest)
      | cons first later => rfl

/-- What is free of the mark is kept together with what comes up to the next one. -/
lemma splitAt_run (fresh : mark ∉ xs) (ys : List Char) :
    ∃ first later, splitAt mark ys = first :: later ∧
      splitAt mark (xs ++ ys) = (xs ++ first) :: later := by
  obtain ⟨first, later, eq⟩ := List.exists_cons_of_ne_nil (splitAt_ne_nil mark ys)
  refine ⟨first, later, eq, ?_⟩
  induction xs with
  | nil => exact eq
  | cons c rest ih =>
    rw [List.mem_cons, not_or] at fresh
    rw [List.cons_append, splitAt, if_neg (Ne.symm fresh.1), ih fresh.2]
    rfl

/-- A text without the mark is its only piece. -/
lemma splitAt_eq_self (fresh : mark ∉ xs) : splitAt mark xs = [xs] := by
  obtain ⟨first, later, eq, same⟩ := splitAt_run fresh []
  cases eq
  simpa using same

/-- The lines of a text. What follows the last line feed is the last line. -/
def rows (text : String) : List String :=
  (splitAt '\n' text.toList).map String.ofList

/-- A file is cut at a line feed into the lines before it and the lines behind it. -/
lemma rows_append_break (front back : String) :
    rows (front ++ "\n" ++ back) = rows front ++ rows back := by
  rw [rows, toList_append_separator '\n' rfl, splitAt_append, List.map_append]
  rfl

/-- A line without line feeds is its only line. -/
lemma rows_eq_self {line : String} (single : '\n' ∉ line.toList) : rows line = [line] := by
  rw [rows, splitAt_eq_self single]
  simp

/-- The lines of a file are those of its parts, one after the other. -/
lemma rows_unlines_append (xs ys : List String) :
    rows (unlines (xs ++ ys)) = (xs.flatMap rows) ++ rows (unlines ys) := by
  induction xs with
  | nil => rfl
  | cons x xs ih =>
    rw [List.cons_append, List.flatMap_cons, List.append_assoc, ← ih]
    exact rows_append_break x _

/-- Parts that are lines are the lines of their file. -/
lemma rows_unlines {parts : List String} (single : ∀ part ∈ parts, '\n' ∉ part.toList) :
    rows (unlines parts) = parts ++ [""] := by
  have lines : parts.flatMap rows = parts := by
    rw [List.flatMap_congr fun part mem => rows_eq_self (single part mem), List.flatMap_singleton']
  have := rows_unlines_append parts []
  rwa [List.append_nil, lines] at this

/-- Lines that are joined by line feeds are the lines of their text. -/
lemma rows_intercalate {line : String} {lines : List String}
    (single : ∀ part ∈ line :: lines, '\n' ∉ part.toList) :
    rows ("\n".intercalate (line :: lines)) = line :: lines := by
  have ended := rows_append_break ("\n".intercalate (line :: lines)) ""
  rw [String.append_empty, intercalate_lines, rows_unlines single] at ended
  exact (List.append_cancel_right ended).symm

/-- A line of a file starts as a part does, up to the part's first line feed. -/
lemma exists_row {opening : List Char} {part text : String} (stands : StandsIn part text)
    (starts : opening <+: part.toList) (single : '\n' ∉ opening) :
    ∃ row ∈ rows text, opening <+: row.toList := by
  obtain ⟨before, after, rfl⟩ := stands
  obtain ⟨rest, eq⟩ := starts
  -- Without a line feed in it, the opening is kept whole in the part's first line.
  obtain ⟨first, later, _, cut⟩ := splitAt_run single rest
  have here : String.ofList (opening ++ first) ∈ rows part := by
    rw [rows, ← eq, cut]
    exact List.mem_cons_self
  refine ⟨_, ?_, String.toList_ofList (l := opening ++ first) ▸ List.prefix_append _ _⟩
  rw [rows_unlines_append, unlines_cons, rows_append_break]
  exact List.mem_append_right _ (List.mem_append_left _ here)

end Rows

end ClientSynth.Text
