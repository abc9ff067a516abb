import ClientSynth.Proofs.DeclaredTypes
import ClientSynth.Proofs.DocComments
import ClientSynth.Proofs.TypeTexts

/-!
# Texts that declarations quote

A declaration quotes literals, keys and comments of the document. An audit searches declarations for
two marks that the printer is not supposed to leave, `TypeScript.IsMark`. Around what a declaration
quotes there is always a character across which no mark reaches, so that a mark is found in a
declaration exactly if it is in a quoted text or in the line that opens an interface
(`TypeScript.IsMark.infix_declaration`).

Searching is by infixes, and a text put together from parts is taken apart at a character that is in
no mark: what is found in the whole is found in a part (`IsMark.infix_append_cons`). The one place
where parts meet without such a character is where a type meets the semicolon behind it, as a mark
ends in a semicolon, so that types are shown to end in a character of no mark (`EndsSolid`). The
texts that are left are listed by `quotes`, whose equations follow those of the printer.
-/

namespace ClientSynth

/-! ## Searches for a part -/

namespace Text

variable {part text xs ys : List Char} {c : Char}

/-- A part does not start with a character that is not its first one. -/
lemma infix_cons_iff_of_head?_ne (other : part.head? ≠ some c) :
    part <:+: c :: text ↔ part <:+: text := by
  rw [List.infix_cons_iff, or_iff_right_of_imp]
  intro starts
  cases part with
  | nil => exact List.nil_infix
  | cons d part =>
    cases (List.cons_prefix_cons.mp starts).1
    exact absurd rfl other

/-- A part does not end with a character that is not its last one. -/
lemma infix_concat_iff_of_getLast?_ne (other : part.getLast? ≠ some c) :
    part <:+: text ++ [c] ↔ part <:+: text := by
  rw [List.infix_concat_iff, or_iff_right_of_imp]
  intro ends
  rcases List.suffix_concat_iff.mp ends with rfl | ⟨front, rfl, _⟩
  · exact List.nil_infix
  · rw [List.getLast?_concat] at other
    exact absurd rfl other

/-- A part whose last character is only the last one of a text ends the text where it is found. -/
lemma infix_concat_iff_suffix (fresh : c ∉ xs) :
    part ++ [c] <:+: xs ++ [c] ↔ part <:+ xs := by
  rw [List.infix_concat_iff, or_iff_left (not_infix_of_not_mem (by simp) fresh),
    List.suffix_append_self_iff]

/-- A part that ends a text starts after any character that is not in it. -/
lemma suffix_append_cons_iff (foreign : c ∉ part) :
    part <:+ xs ++ c :: ys ↔ part <:+ ys := by
  constructor
  · intro ends
    rcases List.suffix_or_suffix_of_suffix ends (List.suffix_append xs (c :: ys)) with
      inside | around
    · rcases List.suffix_cons_iff.mp inside with rfl | inside
      · exact absurd List.mem_cons_self foreign
      · exact inside
    · exact absurd (around.subset List.mem_cons_self) foreign
  · intro ends
    exact ends.trans ((List.suffix_cons c ys).trans (List.suffix_append xs _))

/-- A part is in one of some texts. -/
def FoundAmong (part : List Char) (texts : List String) : Prop :=
  ∃ text ∈ texts, part <:+: text.toList

instance (part : List Char) (texts : List String) : Decidable (FoundAmong part texts) :=
  inferInstanceAs (Decidable (∃ text ∈ texts, _))

section FoundAmong

variable {first : String} {texts later : List String}

lemma foundAmong_nil : ¬FoundAmong part [] := by
  simp [FoundAmong]

lemma foundAmong_cons :
    FoundAmong part (first :: texts) ↔ part <:+: first.toList ∨ FoundAmong part texts :=
  List.exists_mem_cons_iff (fun text : String => part <:+: text.toList) first texts

/-- What is found among one text is found in it. -/
lemma foundAmong_singleton : FoundAmong part [first] ↔ part <:+: first.toList := by
  rw [foundAmong_cons, or_iff_left foundAmong_nil]

/-- What is found among two lists is found among one of them. -/
lemma foundAmong_append :
    FoundAmong part (texts ++ later) ↔ FoundAmong part texts ∨ FoundAmong part later := by
  simp only [FoundAmong, List.mem_append, or_and_right, exists_or]

/-- What is found among the texts of several things is found among those of one. -/
lemma foundAmong_flatMap {α : Type} {textsOf : α → List String} {items : List α} :
    FoundAmong part (items.flatMap textsOf) ↔ ∃ a ∈ items, FoundAmong part (textsOf a) := by
  simp only [FoundAmong, List.mem_flatMap]
  constructor
  · rintro ⟨text, ⟨a, isItem, mem⟩, inside⟩
    exact ⟨a, isItem, text, mem, inside⟩
  · rintro ⟨a, isItem, text, mem, inside⟩
    exact ⟨text, ⟨a, isItem, mem⟩, inside⟩

/-- What is found among texts is found in one of them. -/
lemma foundAmong_map {α : Type} {textOf : α → String} {items : List α} :
    FoundAmong part (items.map textOf) ↔ ∃ a ∈ items, part <:+: (textOf a).toList := by
  simp [FoundAmong]

/-- A part without line feeds is in lines that are joined exactly if it is in one of them. -/
lemma infix_intercalate_lines_iff (feed : '\n' ∉ part) (some : part ≠ []) :
    part <:+: ("\n".intercalate texts).toList ↔ FoundAmong part texts := by
  induction texts with
  | nil => exact iff_of_false (mt List.infix_nil.mp some) foundAmong_nil
  | cons first texts ih =>
    cases texts with
    | nil => rw [String.intercalate_singleton, foundAmong_singleton]
    | cons next texts =>
      rw [toList_intercalate_cons_cons '\n' rfl, infix_append_cons_iff feed, ih, ← foundAmong_cons]

/-- A part without line feeds is in a file exactly if it is in one of its parts. -/
lemma infix_unlines_iff (feed : '\n' ∉ part) (some : part ≠ []) :
    part <:+: (unlines texts).toList ↔ FoundAmong part texts := by
  induction texts with
  | nil => exact iff_of_false (mt List.infix_nil.mp some) foundAmong_nil
  | cons first texts ih =>
    rw [unlines_cons, toList_append_separator '\n' rfl, infix_append_cons_iff feed, ih,
      foundAmong_cons]

end FoundAmong

end Text

namespace TypeScript

/-! ## Marks -/

/-- What is searched for as an interface without a name. -/
def unnamedMark : List Char :=
  "interface \x7b".toList

/-- What is searched for as a member without a type. -/
def untypedMark : List Char :=
  ": ;".toList

/-- A mark of a malformed declaration. -/
def IsMark (mark : List Char) : Prop :=
  mark = unnamedMark ∨ mark = untypedMark

/-- A text whose last character is not one of a member without a type. -/
def EndsSolid (text : List Char) : Prop :=
  ∃ front c, text = front ++ [c] ∧ c ∉ untypedMark

/-- A text whose first and last characters are not those of a member without a type. -/
structure IsSolid (text : List Char) : Prop where
  starts : ∃ c rest, text = c :: rest ∧ c ∉ untypedMark
  ends : EndsSolid text

/-- A text ends as its last part does. -/
lemma EndsSolid.append {text : List Char} (ends : EndsSolid text) (before : List Char) :
    EndsSolid (before ++ text) := by
  obtain ⟨front, c, rfl, foreign⟩ := ends
  exact ⟨before ++ front, c, (List.append_assoc ..).symm, foreign⟩

/-- A text starts as its first part does and ends as its last part does. -/
lemma IsSolid.append {front text : List Char} (solid : IsSolid front) (ends : EndsSolid text) :
    IsSolid (front ++ text) := by
  obtain ⟨c, rest, rfl, foreign⟩ := solid.starts
  exact ⟨⟨c, rest ++ text, rfl, foreign⟩, ends.append _⟩

section Marks

variable {mark key type text xs ys : List Char} {c : Char} (isMark : IsMark mark)
include isMark

/-- What holds of both marks holds of a mark. -/
lemma IsMark.of_both {P : List Char → Prop} (both : P unnamedMark ∧ P untypedMark) : P mark := by
  rcases isMark with rfl | rfl
  · exact both.1
  · exact both.2

/-- No mark is empty. -/
lemma IsMark.ne_nil : mark ≠ [] :=
  isMark.of_both (P := fun mark => mark ≠ []) (by decide)

lemma IsMark.not_infix_nil : ¬mark <:+: [] :=
  mt List.infix_nil.mp isMark.ne_nil

/-- No mark has a line feed in it. -/
lemma IsMark.feed_not_mem : '\n' ∉ mark :=
  isMark.of_both (P := fun mark => '\n' ∉ mark) (by decide)

/-- No mark reaches across a character that is in neither. -/
lemma IsMark.infix_append_cons (foreign : c ∉ unnamedMark ∧ c ∉ untypedMark) :
    mark <:+: xs ++ c :: ys ↔ mark <:+: xs ∨ mark <:+: ys :=
  Text.infix_append_cons_iff (isMark.of_both (P := fun mark => c ∉ mark) foreign)

/-- No mark starts with a character that neither starts with. -/
lemma IsMark.infix_cons (other : unnamedMark.head? ≠ some c ∧ untypedMark.head? ≠ some c) :
    mark <:+: c :: text ↔ mark <:+: text :=
  Text.infix_cons_iff_of_head?_ne (isMark.of_both (P := fun mark => mark.head? ≠ some c) other)

/-- No mark ends with a character that neither ends with. -/
lemma IsMark.infix_concat (other : unnamedMark.getLast? ≠ some c ∧ untypedMark.getLast? ≠ some c) :
    mark <:+: text ++ [c] ↔ mark <:+: text :=
  Text.infix_concat_iff_of_getLast?_ne
    (isMark.of_both (P := fun mark => mark.getLast? ≠ some c) other)

/-- A mark in lines is in one of the lines. -/
lemma IsMark.infix_lines {texts : List String} :
    mark <:+: ("\n".intercalate texts).toList ↔ Text.FoundAmong mark texts :=
  Text.infix_intercalate_lines_iff isMark.feed_not_mem isMark.ne_nil

/-- A mark in a file is in one of its parts. -/
lemma IsMark.infix_file {texts : List String} :
    mark <:+: (Text.unlines texts).toList ↔ Text.FoundAmong mark texts :=
  Text.infix_unlines_iff isMark.feed_not_mem isMark.ne_nil

/-- Both marks have a character that opens a body or ends a member. -/
lemma IsMark.not_infix (noBrace : '\x7b' ∉ text) (noEnd : ';' ∉ text) : ¬mark <:+: text := by
  rcases isMark with rfl | rfl
  · exact Text.not_infix_of_not_mem (by decide) noBrace
  · exact Text.not_infix_of_not_mem (by decide) noEnd

/-! ## Members in a row -/

/-- A mark does not reach over the colon before a solid type. -/
lemma IsMark.infix_colon (solid : IsSolid type) :
    mark <:+: key ++ ':' :: ' ' :: type ↔ mark <:+: key ∨ mark <:+: type := by
  rcases isMark with rfl | rfl
  · rw [Text.infix_append_cons_iff (by decide), Text.infix_cons_iff_of_head?_ne (by decide)]
  · obtain ⟨c, rest, rfl, foreign⟩ := solid.starts
    have parts : key ++ ':' :: ' ' :: c :: rest = key ++ [':'] ++ [' '] ++ c :: rest := by simp
    have skipped : untypedMark <:+: c :: rest ↔ untypedMark <:+: rest := by
      refine Text.infix_cons_iff_of_head?_ne fun first => foreign ?_
      exact List.mem_of_mem_head? first
    rw [parts, Text.infix_append_cons_iff foreign,
      Text.infix_concat_iff_of_getLast?_ne (by decide),
      Text.infix_concat_iff_of_getLast?_ne (by decide), skipped]

/-- A mark does not reach over the semicolon after a type. -/
lemma IsMark.infix_semicolon (ends : EndsSolid xs) :
    mark <:+: xs ++ ';' :: ys ↔ mark <:+: xs ∨ mark <:+: ys := by
  rcases isMark with rfl | rfl
  · exact Text.infix_append_cons_iff (by decide)
  · obtain ⟨front, c, rfl, foreign⟩ := ends
    have whole : untypedMark <:+: front ++ [c] ↔ untypedMark <:+: front := by
      refine Text.infix_concat_iff_of_getLast?_ne fun last => foreign ?_
      exact List.mem_of_getLast? last
    rw [List.append_assoc, List.singleton_append, Text.infix_append_cons_iff foreign,
      Text.infix_cons_iff_of_head?_ne (by decide), whole]

/-- A semicolon behind a type completes no mark. -/
lemma IsMark.infix_ended (ends : EndsSolid xs) : mark <:+: xs ++ [';'] ↔ mark <:+: xs := by
  rw [isMark.infix_semicolon ends, or_iff_left isMark.not_infix_nil]

/-! ## Literals, keys and comments -/

/-- Escapes bring no mark up, after whatever text. -/
lemma IsMark.infix_escaped (text front : List Char) :
    mark <:+: front ++ text.flatMap literalChar ↔ mark <:+: front ++ text := by
  induction text generalizing front with
  | nil => exact Iff.rfl
  | cons c rest ih =>
    by_cases quoted : IsQuoted c
    · -- The backslash is in no mark, and the character after it starts none.
      have escaped : ∃ e, literalChar c = ['\\', e] ∧
          (unnamedMark.head? ≠ some e ∧ untypedMark.head? ≠ some e) ∧
          c ∉ unnamedMark ∧ c ∉ untypedMark := by
        rcases quoted with rfl | rfl | rfl | rfl
        all_goals exact ⟨_, rfl, by decide, by decide⟩
      obtain ⟨e, eq, other, foreign⟩ := escaped
      rw [List.flatMap_cons, eq, List.cons_append, isMark.infix_append_cons (by decide),
        List.singleton_append, isMark.infix_cons other, isMark.infix_append_cons foreign]
      exact or_congr_right (ih [])
    · rw [List.flatMap_cons, literalChar_of_not_isQuoted quoted, ← List.append_assoc, ih,
        List.append_assoc, List.singleton_append]

/-- A mark in a literal is one in its text, since escapes bring none in. -/
lemma IsMark.infix_literal (s : String) :
    mark <:+: (literal s).toList ↔ mark <:+: s.toList := by
  have chars : (literal s).toList = [] ++ '\'' :: (s.toList.flatMap literalChar ++ ['\'']) := by
    rw [literal, String.toList_ofList, literalChars]
    rfl
  rw [chars, isMark.infix_append_cons (by decide), isMark.infix_concat (by decide),
    or_iff_right isMark.not_infix_nil]
  exact isMark.infix_escaped s.toList []

/-- A mark in a key is one in the name. -/
lemma IsMark.infix_memberKey (name : String) :
    mark <:+: (memberKey name).toList ↔ mark <:+: name.toList := by
  rw [memberKey]
  split
  · rfl
  · exact isMark.infix_literal name

/-- A mark in a comment is one in what is commented. -/
lemma IsMark.infix_lineComment (text : String) :
    mark <:+: (lineComment text).toList ↔ mark <:+: (commentLine text).toList := by
  have chars : (lineComment text).toList =
      ['/', '*'] ++ '*' :: (' ' :: ((commentLine text).toList ++ [' ']) ++ '*' :: ['/']) := by
    have whole : lineComment text = "/** " ++ commentLine text ++ " */" := rfl
    rw [whole, String.toList_append, String.toList_append]
    simp
  have opening : ¬mark <:+: ['/', '*'] := isMark.not_infix (by decide) (by decide)
  have closing : ¬mark <:+: ['/'] := isMark.not_infix (by decide) (by decide)
  rw [chars, isMark.infix_append_cons (by decide), or_iff_right opening,
    isMark.infix_append_cons (by decide), or_iff_left closing, isMark.infix_cons (by decide),
    isMark.infix_concat (by decide)]

end Marks

/-! ## Types -/

mutual

/-- The texts of a document that the text of a type quotes: alternatives and keys. -/
def TypeExpr.quotes : TypeExpr → List String
  | .literals first rest => first :: rest
  | .array item => item.quotes
  | .object members => memberQuotes members
  | .any | .number | .boolean | .string | .record => []

/-- The texts of a document that the texts of members quote. -/
def TypeExpr.memberQuotes : List (String × Bool × TypeExpr) → List String
  | [] => []
  | (key, _, type) :: rest => key :: (type.quotes ++ memberQuotes rest)

end

/-- A literal has its quotes at both ends. -/
lemma isSolid_literal (s : String) : IsSolid (literal s).toList := by
  have chars : (literal s).toList = '\'' :: s.toList.flatMap literalChar ++ ['\''] := by
    rw [literal, String.toList_ofList, literalChars]
  rw [chars]
  exact ⟨⟨_, _, rfl, by decide⟩, ⟨_, _, rfl, by decide⟩⟩

/-- A union of literals has quotes at both ends. -/
lemma isSolid_literals (first : String) (rest : List String) :
    IsSolid (TypeExpr.literals first rest).text.toList := by
  rw [toList_literals]
  induction rest generalizing first with
  | nil =>
    rw [alternativeChars, List.flatMap_nil, List.append_nil]
    exact isSolid_literal first
  | cons next rest ih =>
    have later : alternativeChars (next :: rest) =
        [' ', '|', ' '] ++ ((literal next).toList ++ alternativeChars rest) := by
      simp [alternativeChars]
    rw [later]
    exact (isSolid_literal first).append ((ih next).ends.append _)

/-- No text of a type starts or ends like a part of a member. -/
theorem isSolid_text : (x : TypeExpr) → IsSolid x.text.toList
  | .any => ⟨⟨'a', _, rfl, by decide⟩, ⟨['a', 'n'], 'y', rfl, by decide⟩⟩
  | .number => ⟨⟨'n', _, rfl, by decide⟩, ⟨['n', 'u', 'm', 'b', 'e'], 'r', rfl, by decide⟩⟩
  | .boolean => ⟨⟨'b', _, rfl, by decide⟩, ⟨['b', 'o', 'o', 'l', 'e', 'a'], 'n', rfl, by decide⟩⟩
  | .string => ⟨⟨'s', _, rfl, by decide⟩, ⟨['s', 't', 'r', 'i', 'n'], 'g', rfl, by decide⟩⟩
  | .record => ⟨⟨'R', _, rfl, by decide⟩, ⟨"Record<string, any".toList, '>', rfl, by decide⟩⟩
  | .literals first rest => isSolid_literals first rest
  | .array item => by
    obtain ⟨c, rest, eq, foreign⟩ := (isSolid_text item).starts
    rw [toList_array]
    split
    case isTrue =>
      exact ⟨⟨_, _, rfl, by decide⟩,
        ⟨'(' :: (item.text.toList ++ [')', '[']), ']', by simp, by decide⟩⟩
    case isFalse =>
      exact ⟨⟨c, rest ++ ['[', ']'], by rw [eq, List.cons_append], foreign⟩,
        ⟨item.text.toList ++ ['['], ']', by simp, by decide⟩⟩
  | .object members => by
    have chars : (TypeExpr.object members).text.toList = '\x7b' ::
        (' ' :: ("; ".intercalate (TypeExpr.memberTexts members)).toList ++ [' ']) ++ ['\x7d'] := by
      rw [TypeExpr.text, String.toList_append, String.toList_append]
      simp
    rw [chars]
    exact ⟨⟨_, _, rfl, by decide⟩, ⟨_, _, rfl, by decide⟩⟩

/-- A member ends as its type does. -/
lemma endsSolid_memberChars (key : String) (isOptional : Bool) (x : TypeExpr) :
    EndsSolid (memberChars (key, isOptional, x)) :=
  ((isSolid_text x).ends.append _).append _

section Types

variable {mark front : List Char} (isMark : IsMark mark)
include isMark

/-- A mark in a union of literals is in one of their texts. -/
lemma IsMark.infix_literals (first : String) (rest : List String) :
    mark <:+: (TypeExpr.literals first rest).text.toList ↔
      Text.FoundAmong mark (first :: rest) := by
  rw [toList_literals]
  induction rest generalizing first with
  | nil =>
    rw [alternativeChars, List.flatMap_nil, List.append_nil, isMark.infix_literal,
      Text.foundAmong_singleton]
  | cons next rest ih =>
    have chars : (literal first).toList ++ alternativeChars (next :: rest) =
        (literal first).toList ++ [' '] ++
          '|' :: (' ' :: ((literal next).toList ++ alternativeChars rest)) := by
      simp [alternativeChars]
    rw [chars, isMark.infix_append_cons (by decide), isMark.infix_concat (by decide),
      isMark.infix_cons (by decide), isMark.infix_literal, ih, ← Text.foundAmong_cons]

/-- A mark in a member is in its key or in its type. -/
lemma IsMark.infix_memberChars (key : String) (isOptional : Bool) (x : TypeExpr) :
    mark <:+: memberChars (key, isOptional, x) ↔
      mark <:+: key.toList ∨ mark <:+: x.text.toList := by
  cases isOptional with
  | false =>
    have chars : memberChars (key, false, x) =
        (memberKey key).toList ++ ':' :: ' ' :: x.text.toList := rfl
    rw [chars, isMark.infix_colon (isSolid_text x), isMark.infix_memberKey]
  | true =>
    have chars : memberChars (key, true, x) =
        (memberKey key).toList ++ ['?'] ++ ':' :: ' ' :: x.text.toList := by
      simp [memberChars, colonChars]
    rw [chars, isMark.infix_colon (isSolid_text x), isMark.infix_concat (by decide),
      isMark.infix_memberKey]

/-- Members follow each other up to the brace that closes their object. -/
lemma IsMark.infix_laterMembers {ms : List (String × Bool × TypeExpr)}
    (types : ∀ m ∈ ms, (mark <:+: m.2.2.text.toList ↔ Text.FoundAmong mark m.2.2.quotes))
    (ends : EndsSolid front) :
    mark <:+: front ++ (laterMembers ms ++ [' ', '\x7d']) ↔
      mark <:+: front ∨ Text.FoundAmong mark (TypeExpr.memberQuotes ms) := by
  induction ms generalizing front with
  | nil =>
    have chars : front ++ (laterMembers [] ++ [' ', '\x7d']) = front ++ [' '] ++ '\x7d' :: [] := by
      simp [laterMembers]
    rw [chars, isMark.infix_append_cons (by decide), isMark.infix_concat (by decide)]
    exact or_congr_right (iff_of_false isMark.not_infix_nil Text.foundAmong_nil)
  | cons m ms ih =>
    obtain ⟨key, isOptional, x⟩ := m
    obtain ⟨here, later⟩ := List.forall_mem_cons.mp types
    have chars : front ++ (laterMembers ((key, isOptional, x) :: ms) ++ [' ', '\x7d']) =
        front ++ ';' :: (' ' ::
          (memberChars (key, isOptional, x) ++ (laterMembers ms ++ [' ', '\x7d']))) := by
      simp [laterMembers]
    rw [chars, isMark.infix_semicolon ends, isMark.infix_cons (by decide),
      ih later (endsSolid_memberChars key isOptional x), isMark.infix_memberChars, here,
      TypeExpr.memberQuotes, Text.foundAmong_cons, Text.foundAmong_append, or_assoc]

/-- A mark in the type of an object is in what its members quote, if that is so of their types. -/
lemma IsMark.infix_object {ms : List (String × Bool × TypeExpr)}
    (types : ∀ m ∈ ms, (mark <:+: m.2.2.text.toList ↔ Text.FoundAmong mark m.2.2.quotes)) :
    mark <:+: (TypeExpr.object ms).text.toList ↔
      Text.FoundAmong mark (TypeExpr.memberQuotes ms) := by
  cases ms with
  | nil =>
    refine iff_of_false ?_ Text.foundAmong_nil
    exact isMark.of_both (P := fun mark => ¬mark <:+: (TypeExpr.object []).text.toList) (by decide)
  | cons m ms =>
    obtain ⟨key, isOptional, x⟩ := m
    obtain ⟨here, later⟩ := List.forall_mem_cons.mp types
    rw [toList_object, isMark.infix_cons (by decide), isMark.infix_cons (by decide),
      isMark.infix_laterMembers later (endsSolid_memberChars key isOptional x),
      isMark.infix_memberChars, here, TypeExpr.memberQuotes, Text.foundAmong_cons,
      Text.foundAmong_append, or_assoc]

/-- A mark in the type of an array is in what its items quote, if that is so of their type. -/
lemma IsMark.infix_array {item : TypeExpr}
    (type : mark <:+: item.text.toList ↔ Text.FoundAmong mark item.quotes) :
    mark <:+: (TypeExpr.array item).text.toList ↔ Text.FoundAmong mark item.quotes := by
  have suffix (text : List Char) : mark <:+: text ++ ['[', ']'] ↔ mark <:+: text := by
    rw [isMark.infix_append_cons (by decide)]
    exact or_iff_left (isMark.not_infix (by decide) (by decide))
  rw [toList_array]
  split
  case isTrue =>
    have chars : '(' :: (item.text.toList ++ [')', '[', ']']) =
        '(' :: (item.text.toList ++ [')'] ++ ['[', ']']) := by simp
    rw [chars, isMark.infix_cons (by decide), suffix, isMark.infix_concat (by decide), type]
  case isFalse => rw [suffix, type]

end Types

mutual

/-- A mark is in the text of a type exactly if it is in a text that the type quotes. -/
theorem IsMark.infix_text {mark : List Char} (isMark : IsMark mark) : (x : TypeExpr) →
    (mark <:+: x.text.toList ↔ Text.FoundAmong mark x.quotes)
  | .any => iff_of_false (isMark.not_infix (by decide) (by decide)) Text.foundAmong_nil
  | .number => iff_of_false (isMark.not_infix (by decide) (by decide)) Text.foundAmong_nil
  | .boolean => iff_of_false (isMark.not_infix (by decide) (by decide)) Text.foundAmong_nil
  | .string => iff_of_false (isMark.not_infix (by decide) (by decide)) Text.foundAmong_nil
  | .record => iff_of_false (isMark.not_infix (by decide) (by decide)) Text.foundAmong_nil
  | .literals first rest => isMark.infix_literals first rest
  | .array item => by
    have type := isMark.infix_text item
    exact isMark.infix_array type
  | .object ms => by
    have types := isMark.infix_memberTypes ms
    exact isMark.infix_object types

/-- A mark in the type of a member is in what it quotes, by induction over the members. -/
theorem IsMark.infix_memberTypes {mark : List Char} (isMark : IsMark mark) :
    (ms : List (String × Bool × TypeExpr)) → ∀ m ∈ ms,
      (mark <:+: m.2.2.text.toList ↔ Text.FoundAmong mark m.2.2.quotes)
  | [], _, mem => nomatch mem
  | (_, _, x) :: ms, m, mem => by
    have here := isMark.infix_text x
    have later := isMark.infix_memberTypes ms
    rcases List.mem_cons.mp mem with rfl | mem
    · exact here
    · exact later m mem

end

/-! ## Declarations -/

/-- The texts of a document that a member quotes: its description as it stands in a comment, its
key, and those of its type. -/
def Member.quotes (m : Member) : List String :=
  (described m.description).toList.map commentLine ++ m.key :: m.type.quotes

/-- The texts of a document that an alias quotes. -/
def AliasBody.quotes : AliasBody → List String
  | .type x => x.quotes
  | .listOf _ | .unknown => []

namespace Declaration

/-- The texts of a document that a declaration quotes. -/
def quotes : Declaration → List String
  | .interface comment _ members =>
    comment.toList.map commentLine ++ members.flatMap Member.quotes
  | .alias _ body => body.quotes

/-- The line that opens the body of an interface. -/
def openingLine (name : String) : String :=
  "export interface " ++ name ++ " \x7b"

/-- The line that opens an interface has its name in it. -/
lemma openingLine_eq (name : String) :
    openingLine name = "export interface " ++ name ++ " \x7b" :=
  rfl

/-- The line that opens the body of a declaration, which an alias does not have. -/
def opening : Declaration → String
  | .interface _ name _ => openingLine name
  | .alias _ _ => ""

/-- A declaration whose name is made of letters and digits, like that of the items of a list. -/
def IsNamed : Declaration → Prop
  | .alias name (.listOf item) => Naming.IsSymbol name ∧ Naming.IsSymbol item
  | .interface _ name _ | .alias name _ => Naming.IsSymbol name

end Declaration

section Declarations

variable {mark : List Char} (isMark : IsMark mark)
include isMark

/-- Indentation completes no mark. -/
lemma IsMark.infix_indented (text : String) :
    mark <:+: ("  " ++ text).toList ↔ mark <:+: text.toList := by
  have chars : ("  " ++ text).toList = ' ' :: ' ' :: text.toList := by
    rw [String.toList_append]
    rfl
  rw [chars, isMark.infix_cons (by decide), isMark.infix_cons (by decide)]

/-- A mark in two lines is in one of them. -/
lemma IsMark.infix_broken (front back : String) :
    mark <:+: (front ++ "\n" ++ back).toList ↔
      mark <:+: front.toList ∨ mark <:+: back.toList := by
  rw [Text.toList_append_separator '\n' rfl, isMark.infix_append_cons (by decide)]

/-- A mark in the line of a member is in its key or in what its type quotes. -/
lemma IsMark.infix_line (m : Member) :
    mark <:+: m.line.toList ↔ Text.FoundAmong mark (m.key :: m.type.quotes) := by
  have chars : m.line.toList = memberChars (m.key, m.isOptional, m.type) ++ [';'] := by
    rw [Member.line, String.toList_append, toList_memberText]
    rfl
  rw [chars, isMark.infix_ended (endsSolid_memberChars ..), isMark.infix_memberChars,
    isMark.infix_text, Text.foundAmong_cons]

/-- A mark is in the text of a member exactly if it is in a text that the member quotes. -/
lemma IsMark.infix_member (m : Member) :
    mark <:+: m.text.toList ↔ Text.FoundAmong mark m.quotes := by
  rw [Member.quotes, Text.foundAmong_append, ← isMark.infix_line]
  rcases m.isDescribed with ⟨bare, eq⟩ | ⟨text, comment, present, eq, isComment⟩
  · rw [eq, bare, isMark.infix_indented]
    exact (or_iff_right Text.foundAmong_nil).symm
  · have shown : comment = lineComment text := isComment.chars
    rw [eq, present, shown, isMark.infix_broken, isMark.infix_indented, isMark.infix_indented,
      isMark.infix_lineComment]
    exact or_congr_left Text.foundAmong_singleton.symm

/-- A mark in an interface is in its opening line or in what its members quote. -/
lemma IsMark.infix_interface (name : String) (members : List Member) :
    mark <:+: (Declaration.interfaceText name members).toList ↔
      mark <:+: (Declaration.openingLine name).toList ∨
        Text.FoundAmong mark (members.flatMap Member.quotes) := by
  have parts : Declaration.interfaceText name members = Declaration.openingLine name ++ "\n" ++
      ("\n".intercalate (members.map Member.text) ++ "\n" ++ "\x7d") := by
    have brace : " \x7b\n" = " \x7b" ++ "\n" := rfl
    have closing : "\n\x7d" = "\n" ++ "\x7d" := rfl
    rw [Declaration.interfaceText_eq, Declaration.openingLine_eq, brace, closing]
    simp only [String.append_assoc]
  have closing : ¬mark <:+: "\x7d".toList := isMark.not_infix (by decide) (by decide)
  rw [parts, isMark.infix_broken, isMark.infix_broken, or_iff_left closing, isMark.infix_lines,
    Text.foundAmong_map, Text.foundAmong_flatMap]
  simp only [isMark.infix_member]

/-- A mark in the body of an alias is in what it quotes. -/
lemma IsMark.infix_body (body : AliasBody)
    (items : ∀ item, body = .listOf item → Naming.IsSymbol item) :
    mark <:+: body.text.toList ++ [';'] ↔ Text.FoundAmong mark body.quotes := by
  cases body with
  | type x => exact (isMark.infix_ended (isSolid_text x).ends).trans (isMark.infix_text x)
  | listOf item =>
    have isSymbol := items item rfl
    have ends : EndsSolid (item ++ "[]").toList := by
      rw [String.toList_append]
      exact EndsSolid.append ⟨['['], ']', rfl, by decide⟩ _
    refine (isMark.infix_ended ends).trans (iff_of_false ?_ Text.foundAmong_nil)
    exact isMark.not_infix (Text.not_mem_append (isSymbol.not_mem (by decide)) (by decide))
      (Text.not_mem_append (isSymbol.not_mem (by decide)) (by decide))
  | unknown =>
    refine (isMark.infix_ended ⟨"unknow".toList, 'n', rfl, by decide⟩).trans ?_
    exact iff_of_false (isMark.not_infix (by decide) (by decide)) Text.foundAmong_nil

/-- A mark in an alias is in what its body quotes. -/
lemma IsMark.infix_alias {name : String} (isSymbol : Naming.IsSymbol name) (body : AliasBody)
    (items : ∀ item, body = .listOf item → Naming.IsSymbol item) :
    mark <:+: (Declaration.alias name body).text.toList ↔ Text.FoundAmong mark body.quotes := by
  have chars : (Declaration.alias name body).text.toList =
      ("export type " ++ name ++ " ").toList ++ '=' :: ' ' :: (body.text.toList ++ [';']) := by
    have shown : (Declaration.alias name body).text =
        "export type " ++ name ++ " = " ++ body.text ++ ";" := rfl
    rw [shown]
    simp [String.toList_append]
  have opening : ¬mark <:+: ("export type " ++ name ++ " ").toList := by
    have absent {c : Char} (other : Text.isAlnum c = false)
        (outside : c ∉ "export type ".toList ∧ c ∉ " ".toList) :
        c ∉ ("export type " ++ name ++ " ").toList :=
      Text.not_mem_append (Text.not_mem_append outside.1 (isSymbol.not_mem other)) outside.2
    exact isMark.not_infix (absent (by decide) (by decide)) (absent (by decide) (by decide))
  rw [chars, isMark.infix_append_cons (by decide), or_iff_right opening,
    isMark.infix_cons (by decide), isMark.infix_body body items]

/-- A mark is in the text of a declaration exactly if it is in a text that the declaration quotes,
or in the line that opens its body. -/
theorem IsMark.infix_declaration (d : Declaration) (named : d.IsNamed) :
    mark <:+: d.text.toList ↔
      Text.FoundAmong mark d.quotes ∨ mark <:+: d.opening.toList := by
  obtain ⟨comment, name, members⟩ | ⟨name, body⟩ := d
  · rw [Declaration.quotes, Text.foundAmong_append, Declaration.opening, or_assoc,
      or_comm (b := mark <:+: _), ← isMark.infix_interface]
    cases comment with
    | none => exact (or_iff_right Text.foundAmong_nil).symm
    | some comment =>
      have shown : (Declaration.interface (some comment) name members).text =
          lineComment comment ++ "\n" ++ Declaration.interfaceText name members := rfl
      rw [shown, isMark.infix_broken, isMark.infix_lineComment]
      exact or_congr_left Text.foundAmong_singleton.symm
  · have none : ¬mark <:+: "".toList := isMark.not_infix_nil
    rw [Declaration.opening, or_iff_left none, Declaration.quotes]
    cases body with
    | listOf item =>
      refine isMark.infix_alias named.1 (.listOf item) fun other same => ?_
      cases same
      exact named.2
    | type x => exact isMark.infix_alias named (.type x) nofun
    | unknown => exact isMark.infix_alias named .unknown nofun

end Declarations

/-! ## The line that opens an interface -/

section Openings

variable {name : String}

/-- An interface is taken for one without a name when its name ends with the word itself. -/
lemma unnamedMark_infix_openingLine (isSymbol : Naming.IsSymbol name) :
    unnamedMark <:+: (Declaration.openingLine name).toList ↔
      "interface".toList <:+ name.toList := by
  have chars : (Declaration.openingLine name).toList =
      ("export interface".toList ++ ' ' :: name.toList ++ [' ']) ++ ['\x7b'] := by
    rw [Declaration.openingLine_eq]
    simp [String.toList_append]
  have mark : unnamedMark = ("interface".toList ++ [' ']) ++ ['\x7b'] := rfl
  have noBrace : '\x7b' ∉ "export interface".toList ++ ' ' :: name.toList ++ [' '] := by
    have := isSymbol.not_mem (c := '\x7b') (by decide)
    simp [this]
  rw [chars, mark, Text.infix_concat_iff_suffix noBrace, List.suffix_append_self_iff]
  exact Text.suffix_append_cons_iff (by decide)

/-- The opening of an interface with a symbol for its name is no member without a type. -/
lemma not_untypedMark_infix_openingLine (isSymbol : Naming.IsSymbol name) :
    ¬untypedMark <:+: (Declaration.openingLine name).toList := by
  refine Text.not_infix_of_not_mem (c := ':') (by decide) ?_
  exact Text.not_mem_append (Text.not_mem_append (by decide) (isSymbol.not_mem (by decide)))
    (by decide)

end Openings

end TypeScript

end ClientSynth
