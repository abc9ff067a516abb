import ClientSynth.Proofs.Literals
import ClientSynth.Proofs.Lines
import ClientSynth.Proofs.Patterns
import ClientSynth.Proofs.Searches

/-!
# Texts of types

A reader for the types that are generated, in which a suffix binds more tightly than a bar, so that
a union has to stand in parentheses to be the items of an array. Every type is read back from its
text (`TypeExpr.read?_text`), whatever is in its literals and keys. An operand is read with the
suffixes that follow it, a type up to where neither a suffix nor a bar follows; both are shown
together, by induction on the type.

Two things need care. A reader has a bound on its depth, for which the length of the text is enough,
so every lemma takes the lengths of the parts along. And a type is not read by itself but before
what follows, so what may follow is named: `StopsType` for a type, and for an operand anything,
since the suffixes behind it are read with it.
-/

namespace ClientSynth.TypeScript

/-! ## A reader of types -/

/-- The text of a literal, after the quote that opens it and up to the one that closes it, and what
follows. -/
def cutLiteral : List Char → Option (List Char × List Char)
  | [] => none
  | '\\' :: c :: rest => (cutLiteral rest).map fun (text, rest) => (unescaped c :: text, rest)
  | c :: rest =>
    if c = '\'' then some ([], rest)
    else if IsQuoted c then none
    else (cutLiteral rest).map fun (text, rest) => (c :: text, rest)

/-- Whether a character ends a key that is no literal. -/
def endsKey (c : Char) : Bool :=
  c == '?' || c == ':'

/-- The name of a member, and what follows its key. -/
def readName : List Char → Option (String × List Char)
  | '\'' :: rest => (cutLiteral rest).map fun (text, rest) => (String.ofList text, rest)
  | text => some (String.ofList (text.takeWhile fun c => !endsKey c),
    text.dropWhile fun c => !endsKey c)

/-- Whether a member is optional, and what follows the colon. -/
def readColon : List Char → Option (Bool × List Char)
  | '?' :: ':' :: ' ' :: rest => some (true, rest)
  | ':' :: ' ' :: rest => some (false, rest)
  | _ => none

/-- The words that are types. -/
def typeWords : List (String × TypeExpr) :=
  [("any", .any), ("number", .number), ("boolean", .boolean), ("string", .string),
   ("Record<string, any>", .record)]

/-- A type that is a word, and what follows it. -/
def readWord (text : List Char) : Option (TypeExpr × List Char) :=
  typeWords.findSome? fun (word, x) =>
    if word.toList.isPrefixOf text then some (x, text.drop word.toList.length) else none

/-- A type with the array suffixes that follow it. -/
def readSuffixes (x : TypeExpr) : List Char → TypeExpr × List Char
  | '[' :: ']' :: rest => readSuffixes (.array x) rest
  | rest => (x, rest)

section Reader

variable (type operand : List Char → Option (TypeExpr × List Char))

/-- A member, and what follows it; `type` reads its type. -/
def readMember (text : List Char) : Option ((String × Bool × TypeExpr) × List Char) := do
  let (key, rest) ← readName text
  let (isOptional, rest) ← readColon rest
  let (x, rest) ← type rest
  return ((key, isOptional, x), rest)

/-- One or more members up to the brace that closes their object, and what follows it. There are at
most `n`. -/
def readMembers : Nat → List Char → Option (List (String × Bool × TypeExpr) × List Char)
  | 0, _ => none
  | n + 1, text => match readMember type text with
    | some (m, ';' :: ' ' :: rest) => (readMembers n rest).map fun (ms, rest) => (m :: ms, rest)
    | some (m, ' ' :: '\x7d' :: rest) => some ([m], rest)
    | _ => none

/-- The members of an object, after the brace that opens it. -/
def readObject : List Char → Option (List (String × Bool × TypeExpr) × List Char)
  | ' ' :: '\x7d' :: rest => some ([], rest)
  | text => readMembers type (text.length + 1) text

/-- A type that needs no parentheses before a suffix. -/
def readPrimary : List Char → Option (TypeExpr × List Char)
  | '\'' :: rest => (cutLiteral rest).map fun (text, rest) =>
    (.literals (String.ofList text) [], rest)
  | '(' :: rest => match type rest with
    | some (x, ')' :: rest) => some (x, rest)
    | _ => none
  | '\x7b' :: ' ' :: rest => (readObject type rest).map fun (ms, rest) => (.object ms, rest)
  | text => readWord text

/-- An operand of a union: suffixes bind more tightly than bars. -/
def readOperand (text : List Char) : Option (TypeExpr × List Char) :=
  (readPrimary type text).map fun (x, rest) => readSuffixes x rest

/-- The later alternatives of a union of literals, and what follows the last one. There are fewer
than `n`. -/
def readAlternatives : Nat → List Char → Option (List String × List Char)
  | 0, _ => none
  | n + 1, ' ' :: '|' :: ' ' :: rest => match operand rest with
    | some (.literals text [], rest) =>
      (readAlternatives n rest).map fun (texts, rest) => (text :: texts, rest)
    | _ => none
  | _ + 1, rest => some ([], rest)

/-- A union of literals, or an operand on its own. -/
def readUnion (text : List Char) : Option (TypeExpr × List Char) :=
  (operand text).bind fun (x, rest) =>
    (readAlternatives operand (text.length + 1) rest).bind fun (texts, rest) => match x, texts with
      | x, [] => some (x, rest)
      | .literals first [], texts => some (.literals first texts, rest)
      | _, _ => none

end Reader

/-- A type with at most `n` types around one another, and what follows it. -/
def readType : Nat → List Char → Option (TypeExpr × List Char)
  | 0 => fun _ => none
  | n + 1 => readUnion (readOperand (readType n))

/-- What a whole text is read as in the place of a type. -/
def TypeExpr.read? (text : String) : Option TypeExpr :=
  match readType (text.toList.length + 1) text.toList with
  | some (x, []) => some x
  | _ => none

/-! ## Names and words -/

section Parts

variable {rest : List Char}

/-- A character of a literal is read back, whatever follows. -/
lemma cutLiteral_literalChar (c : Char) (rest : List Char) :
    cutLiteral (literalChar c ++ rest) =
      (cutLiteral rest).map fun (text, rest) => (c :: text, rest) := by
  by_cases quoted : IsQuoted c
  · obtain ⟨mark, escaped, same⟩ := literalChar_of_isQuoted quoted
    rw [escaped, List.cons_append, List.singleton_append, cutLiteral, same]
  · have plain : c ≠ '\'' := fun quote => quoted (.inr (.inl quote))
    rw [literalChar_of_not_isQuoted quoted, List.singleton_append, cutLiteral, if_neg plain,
      if_neg quoted]
    intro _ _ backslash
    exact absurd (.inl backslash) quoted

/-- A literal is read up to the quote that closes it. -/
lemma cutLiteral_append (text rest : List Char) :
    cutLiteral (text.flatMap literalChar ++ '\'' :: rest) = some (text, rest) := by
  induction text with
  | nil => rfl
  | cons c text ih =>
    rw [List.flatMap_cons, List.append_assoc, cutLiteral_literalChar, ih]
    rfl

/-- The characters of a literal and of what follows it. -/
lemma toList_literal (s : String) (rest : List Char) :
    (literal s).toList ++ rest = '\'' :: (s.toList.flatMap literalChar ++ '\'' :: rest) := by
  rw [literal, String.toList_ofList, literalChars, List.append_assoc, List.cons_append]
  rfl

/-- No character but those of identifiers is in an identifier. -/
lemma ne_of_isIdentifierLine {text : List Char} (line : isIdentifierLine text = true) {c d : Char}
    (mem : c ∈ text) (other : isIdentifierPart d = false ∧ d ≠ '\n') : c ≠ d := by
  rintro rfl
  have part := isIdentifierPart_of_mem line (mem_withoutFinalBreak mem other.2)
  rw [other.1] at part
  cases part

/-- No identifier on a line is empty. -/
lemma ne_nil_of_isIdentifierLine {text : List Char} (line : isIdentifierLine text = true) :
    text ≠ [] := by
  rintro rfl
  cases line

/-- A key starts with a quote or as an identifier does. -/
lemma head?_memberKey {d : Char} (other : isIdentifierPart d = false ∧ d ≠ '\n' ∧ d ≠ '\'')
    (name : String) (rest : List Char) : ((memberKey name).toList ++ rest).head? ≠ some d := by
  rw [memberKey]
  split
  case isTrue line =>
    obtain ⟨c, cs, text⟩ := List.exists_cons_of_ne_nil (ne_nil_of_isIdentifierLine line)
    have ne := ne_of_isIdentifierLine line (text ▸ List.mem_cons_self) ⟨other.1, other.2.1⟩
    rw [text]
    exact fun same => ne (Option.some.inj same)
  case isFalse =>
    rw [toList_literal]
    exact fun same => other.2.2 (Option.some.inj same).symm

/-- The key of a member is read as the name of the member. -/
lemma readName_memberKey (name : String) (stop : ∀ c ∈ rest.head?, endsKey c = true) :
    readName ((memberKey name).toList ++ rest) = some (name, rest) := by
  rw [memberKey]
  cases line : isIdentifierLine name.toList with
  | true =>
    have all : ∀ c ∈ name.toList, (!endsKey c) = true := by
      intro c mem
      have mark := ne_of_isIdentifierLine line mem (d := '?') ⟨rfl, by decide⟩
      have colon := ne_of_isIdentifierLine line mem (d := ':') ⟨rfl, by decide⟩
      simp [endsKey, mark, colon]
    have stops : ∀ c ∈ rest.head?, (!endsKey c) = false := fun c mem => by rw [stop c mem]; rfl
    rw [if_pos rfl, readName.eq_2, takeWhile_run all stops, dropWhile_run all stops,
      String.ofList_toList]
    intro later quote
    obtain ⟨c, cs, text⟩ := List.exists_cons_of_ne_nil (ne_nil_of_isIdentifierLine line)
    rw [text] at quote
    exact ne_of_isIdentifierLine line (d := '\'') (text ▸ List.mem_cons_self) ⟨rfl, by decide⟩
      (List.cons.inj quote).1
  | false =>
    rw [if_neg Bool.false_ne_true, toList_literal, readName, cutLiteral_append, Option.map_some]
    exact congrArg (fun s => some (s, rest)) String.ofList_toList

/-- Whether a member is optional, as it is written. -/
def colonChars (isOptional : Bool) : List Char :=
  (if isOptional then ['?'] else []) ++ [':', ' ']

/-- The colon of a member is read, with the mark of an optional one. -/
lemma readColon_colonChars (isOptional : Bool) (rest : List Char) :
    readColon (colonChars isOptional ++ rest) = some (isOptional, rest) := by
  cases isOptional <;> rfl

/-- A key ends where its colon starts. -/
lemma endsKey_colonChars (isOptional : Bool) (rest : List Char) :
    ∀ c ∈ (colonChars isOptional ++ rest).head?, endsKey c = true := by
  cases isOptional <;> rintro c ⟨⟩ <;> rfl

end Parts

/-! ## Operands and unions -/

/-- Neither a suffix nor a bar starts a text. -/
def StopsType (rest : List Char) : Prop :=
  ¬['[', ']'] <+: rest ∧ ¬[' ', '|', ' '] <+: rest

/-- A type is read up to the end of its text, wherever no suffix and no bar follows. -/
def ReadsType (n : Nat) (x : TypeExpr) : Prop :=
  ∀ rest, StopsType rest → readType n (x.text.toList ++ rest) = some (x, rest)

/-- A type is read as an operand, with the suffixes that follow it. -/
def ReadsOperand (n : Nat) (x : TypeExpr) : Prop :=
  ∀ rest, readOperand (readType n) (x.text.toList ++ rest) = some (readSuffixes x rest)

/-- Whether a type is no union. -/
def TypeExpr.IsOperand : TypeExpr → Prop
  | .literals _ rest => rest = []
  | _ => True

/-- No suffix is read where none follows. -/
lemma readSuffixes_of_stops {x : TypeExpr} {rest : List Char} (stops : ¬['[', ']'] <+: rest) :
    readSuffixes x rest = (x, rest) := by
  rw [readSuffixes.eq_2]
  rintro later rfl
  exact stops (List.prefix_append ['[', ']'] later)

/-- No alternative is read where no bar follows. -/
lemma readAlternatives_of_stops {operand : List Char → Option (TypeExpr × List Char)}
    {rest : List Char} (stops : ¬[' ', '|', ' '] <+: rest) (n : Nat) :
    readAlternatives operand (n + 1) rest = some ([], rest) := by
  rw [readAlternatives.eq_3]
  rintro later rfl
  exact stops (List.prefix_append [' ', '|', ' '] later)

/-- An operand is its primary with the suffixes behind it. -/
lemma readOperand_of_primary {n : Nat} {text rest : List Char} {x : TypeExpr}
    (primary : readPrimary (readType n) text = some (x, rest)) :
    readOperand (readType n) text = some (readSuffixes x rest) := by
  rw [readOperand, primary]
  rfl

/-- The words that are types are read as these. -/
lemma readsOperand_word (n : Nat) {x : TypeExpr} (isWord : (x.text, x) ∈ typeWords) :
    ReadsOperand n x := by
  intro rest
  refine readOperand_of_primary ?_
  simp only [typeWords, List.mem_cons, List.not_mem_nil, or_false, Prod.mk.injEq] at isWord
  rcases isWord with ⟨_, rfl⟩ | ⟨_, rfl⟩ | ⟨_, rfl⟩ | ⟨_, rfl⟩ | ⟨_, rfl⟩ <;> rfl

/-- A single literal is read as an operand. -/
lemma readsOperand_literal (n : Nat) (first : String) : ReadsOperand n (.literals first []) := by
  intro rest
  have text : (TypeExpr.literals first []).text = literal first := String.intercalate_singleton
  refine readOperand_of_primary ?_
  rw [text, toList_literal, readPrimary, cutLiteral_append, Option.map_some]
  exact congrArg (fun s => some (TypeExpr.literals s [], rest)) String.ofList_toList

/-- The later alternatives of a union. -/
def alternativeChars (rest : List String) : List Char :=
  rest.flatMap fun s => ' ' :: '|' :: ' ' :: (literal s).toList

/-- A union is its first literal with the alternatives behind it. -/
lemma toList_literals (first : String) (rest : List String) :
    (TypeExpr.literals first rest).text.toList =
      (literal first).toList ++ alternativeChars rest := by
  rw [TypeExpr.text, List.map_cons, Text.toList_intercalate_cons, List.flatMap_map]
  rfl

/-- No suffix follows the literals of a union. -/
lemma not_suffix_alternativeChars {rest : List Char} (stops : StopsType rest)
    (texts : List String) : ¬['[', ']'] <+: alternativeChars texts ++ rest := by
  cases texts with
  | nil => exact stops.1
  | cons s texts =>
    rintro ⟨later, eq⟩
    cases eq

/-- The later alternatives of a union are read, as long as there are not too many. -/
lemma readAlternatives_alternativeChars {n k : Nat} {texts : List String} (few : texts.length ≤ k)
    {rest : List Char} (stops : StopsType rest) :
    readAlternatives (readOperand (readType n)) (k + 1) (alternativeChars texts ++ rest) =
      some (texts, rest) := by
  induction texts generalizing k with
  | nil => exact readAlternatives_of_stops stops.2 k
  | cons s texts ih =>
    obtain ⟨k, rfl⟩ := Nat.exists_eq_add_of_lt few
    have operand := readsOperand_literal n s (alternativeChars texts ++ rest)
    rw [readSuffixes_of_stops (not_suffix_alternativeChars stops texts)] at operand
    have text : alternativeChars (s :: texts) ++ rest = ' ' :: '|' :: ' ' ::
        ((TypeExpr.literals s []).text.toList ++ (alternativeChars texts ++ rest)) := by
      rw [toList_literals]
      simp [alternativeChars]
    rw [text, readAlternatives, operand]
    dsimp only
    rw [ih (Nat.le_add_right _ k)]
    rfl

/-- A list is no longer than what its elements are written as, if none is written as nothing. -/
lemma length_le_flatMap {α : Type} {image : α → List Char} (some : ∀ a, image a ≠ [])
    (as : List α) : as.length ≤ (as.flatMap image).length := by
  induction as with
  | nil => exact Nat.le_refl 0
  | cons a as ih =>
    have := List.length_pos_iff.mpr (some a)
    rw [List.flatMap_cons, List.length_append, List.length_cons]
    omega

/-- An operand on its own is a type. -/
lemma readUnion_of_operand {operand : List Char → Option (TypeExpr × List Char)}
    {text rest : List Char} {x : TypeExpr} (read : operand text = some (readSuffixes x rest))
    (stops : StopsType rest) : readUnion operand text = some (x, rest) := by
  rw [readUnion, read, readSuffixes_of_stops stops.1, Option.bind_some]
  dsimp only
  rw [readAlternatives_of_stops stops.2]
  rfl

/-- An operand is a type where a type may stop. -/
lemma readsType_of_operand {n : Nat} {x : TypeExpr} (operand : ReadsOperand n x) :
    ReadsType (n + 1) x :=
  fun rest => readUnion_of_operand (operand rest)

/-- A literal with alternatives is read as a union. -/
lemma readsType_literals (n : Nat) (first : String) (texts : List String) :
    ReadsType (n + 1) (.literals first texts) := by
  intro rest stops
  have operand := readsOperand_literal n first (alternativeChars texts ++ rest)
  rw [readSuffixes_of_stops (not_suffix_alternativeChars stops texts)] at operand
  have text : (TypeExpr.literals first texts).text.toList ++ rest =
      (TypeExpr.literals first []).text.toList ++ (alternativeChars texts ++ rest) := by
    rw [toList_literals, toList_literals, List.append_assoc]
    simp [alternativeChars]
  have few : texts.length ≤
      ((TypeExpr.literals first []).text.toList ++ (alternativeChars texts ++ rest)).length := by
    have : texts.length ≤ (alternativeChars texts).length :=
      length_le_flatMap (fun _ => List.cons_ne_nil _ _) texts
    rw [List.length_append, List.length_append]
    omega
  rw [text, readType, readUnion, operand, Option.bind_some]
  dsimp only
  rw [readAlternatives_alternativeChars few stops]
  cases texts <;> rfl

/-! ## Members -/

/-- A member as it is written. -/
def memberChars : String × Bool × TypeExpr → List Char
  | (key, isOptional, x) => (memberKey key).toList ++ (colonChars isOptional ++ x.text.toList)

/-- The later members of an object. -/
def laterMembers (ms : List (String × Bool × TypeExpr)) : List Char :=
  ms.flatMap fun m => ';' :: ' ' :: memberChars m

lemma toList_memberText (key : String) (isOptional : Bool) (x : TypeExpr) :
    (TypeExpr.memberText key isOptional x.text).toList = memberChars (key, isOptional, x) := by
  rw [TypeExpr.memberText, memberChars, colonChars]
  cases isOptional <;> simp

/-- The members of an object within a line, one by one. -/
lemma memberTexts_eq (ms : List (String × Bool × TypeExpr)) :
    TypeExpr.memberTexts ms = ms.map fun m => String.ofList (memberChars m) := by
  induction ms with
  | nil => rfl
  | cons m ms ih =>
    obtain ⟨key, isOptional, x⟩ := m
    rw [TypeExpr.memberTexts, ih, List.map_cons, ← toList_memberText, String.ofList_toList]

/-- An object is its first member and then the others, in braces. -/
lemma toList_object (m : String × Bool × TypeExpr) (ms : List (String × Bool × TypeExpr)) :
    (TypeExpr.object (m :: ms)).text.toList =
      '\x7b' :: ' ' :: (memberChars m ++ (laterMembers ms ++ [' ', '\x7d'])) := by
  rw [TypeExpr.text, memberTexts_eq, List.map_cons, String.toList_append, String.toList_append,
    Text.toList_intercalate_cons, String.toList_ofList, List.flatMap_map]
  simp [laterMembers]

/-- A member is read up to where its type ends. -/
lemma readMember_memberChars {n : Nat} {m : String × Bool × TypeExpr} (reads : ReadsType n m.2.2)
    {rest : List Char} (stops : StopsType rest) :
    readMember (readType n) (memberChars m ++ rest) = some (m, rest) := by
  obtain ⟨key, isOptional, x⟩ := m
  rw [memberChars, List.append_assoc, List.append_assoc, readMember,
    readName_memberKey key (endsKey_colonChars isOptional _)]
  simp only [Option.bind_eq_bind, Option.bind_some, readColon_colonChars, reads rest stops]
  rfl

/-- A type stops where another member or the closing brace follows. -/
lemma stopsType_laterMembers (ms : List (String × Bool × TypeExpr)) (rest : List Char) :
    StopsType (laterMembers ms ++ ' ' :: '\x7d' :: rest) := by
  cases ms <;> refine ⟨?_, ?_⟩ <;> rintro ⟨_, eq⟩ <;> cases eq

/-- The members of an object are read up to the brace that closes it, as long as there are not too
many. -/
lemma readMembers_append {n k : Nat} {m : String × Bool × TypeExpr}
    {ms : List (String × Bool × TypeExpr)} (few : ms.length ≤ k)
    (reads : ∀ m' ∈ m :: ms, ReadsType n m'.2.2) (rest : List Char) :
    readMembers (readType n) (k + 1) (memberChars m ++ (laterMembers ms ++ ' ' :: '\x7d' :: rest)) =
      some (m :: ms, rest) := by
  have first := readMember_memberChars (reads m List.mem_cons_self) (stopsType_laterMembers ms rest)
  induction ms generalizing m k with
  | nil =>
    rw [readMembers, first]
    rfl
  | cons next ms ih =>
    obtain ⟨k, rfl⟩ := Nat.exists_eq_add_of_lt few
    have later := ih (Nat.le_add_right _ k)
      (fun m' mem => reads m' (List.mem_cons_of_mem m mem))
      (readMember_memberChars (reads next (by simp)) (stopsType_laterMembers ms rest))
    have text : laterMembers (next :: ms) ++ ' ' :: '\x7d' :: rest =
        ';' :: ' ' :: (memberChars next ++ (laterMembers ms ++ ' ' :: '\x7d' :: rest)) := by
      simp [laterMembers]
    rw [text] at first ⊢
    rw [readMembers, first]
    exact congrArg (Option.map fun r => (m :: r.1, r.2)) later

/-! ## Arrays and objects -/

/-- An array is its items with brackets behind, in parentheses if there is a bar in them. -/
lemma toList_array (item : TypeExpr) :
    (TypeExpr.array item).text.toList =
      if [' ', '|', ' '] <:+: item.text.toList then '(' :: (item.text.toList ++ [')', '[', ']'])
      else item.text.toList ++ ['[', ']'] := by
  rw [TypeExpr.text, TypeExpr.arrayText]
  simp only [Text.occursIn_iff_infix, show " | ".toList = [' ', '|', ' '] from rfl]
  split <;> simp

/-- A type in whose text there is no bar is no union. -/
lemma isOperand_of_noBar {x : TypeExpr} (noBar : ¬[' ', '|', ' '] <:+: x.text.toList) :
    x.IsOperand := by
  cases x with
  | literals first rest =>
    cases rest with
    | nil => rfl
    | cons s rest =>
      refine absurd ?_ noBar
      rw [toList_literals]
      exact ⟨(literal first).toList, (literal s).toList ++ alternativeChars rest,
        by simp [alternativeChars]⟩
  | _ => trivial

/-- Suffixes after an array are suffixes after its items. -/
lemma readsOperand_array {n : Nat} {item : TypeExpr} (type : ReadsType n item)
    (operand : item.IsOperand → ReadsOperand n item) : ReadsOperand n (.array item) := by
  intro rest
  rw [toList_array]
  split
  case isTrue =>
    have inside : readType n (item.text.toList ++ ')' :: '[' :: ']' :: rest) =
        some (item, ')' :: '[' :: ']' :: rest) := by
      refine type _ ⟨?_, ?_⟩ <;> rintro ⟨_, eq⟩ <;> cases eq
    have text : '(' :: (item.text.toList ++ [')', '[', ']']) ++ rest =
        '(' :: (item.text.toList ++ ')' :: '[' :: ']' :: rest) := by simp
    have primary : readPrimary (readType n) ('(' :: (item.text.toList ++ [')', '[', ']']) ++ rest) =
        some (item, '[' :: ']' :: rest) := by
      rw [text, readPrimary, inside]
      rfl
    exact (readOperand_of_primary primary).trans rfl
  case isFalse noBar =>
    rw [List.append_assoc, operand (isOperand_of_noBar noBar)]
    rfl

/-- An object is read as an operand if the types of its members are read. -/
lemma readsOperand_object {n : Nat} {ms : List (String × Bool × TypeExpr)}
    (reads : ∀ m ∈ ms, ReadsType n m.2.2) : ReadsOperand n (.object ms) := by
  intro rest
  refine readOperand_of_primary ?_
  cases ms with
  | nil => rfl
  | cons m ms =>
    have text : (TypeExpr.object (m :: ms)).text.toList ++ rest =
        '\x7b' :: ' ' :: (memberChars m ++ (laterMembers ms ++ ' ' :: '\x7d' :: rest)) := by
      rw [toList_object]
      simp
    have few : ms.length ≤
        (memberChars m ++ (laterMembers ms ++ ' ' :: '\x7d' :: rest)).length := by
      have : ms.length ≤ (laterMembers ms).length :=
        length_le_flatMap (fun _ => List.cons_ne_nil _ _) ms
      rw [List.length_append, List.length_append]
      omega
    have object : readObject (readType n)
        (memberChars m ++ (laterMembers ms ++ ' ' :: '\x7d' :: rest)) = some (m :: ms, rest) := by
      rw [readObject.eq_2, readMembers_append few reads]
      intro later opens
      obtain ⟨key, isOptional, x⟩ := m
      rw [memberChars, List.append_assoc] at opens
      exact head?_memberKey ⟨rfl, by decide, by decide⟩ key _ (congrArg List.head? opens)
    rw [text, readPrimary, object]
    rfl

/-- The type of a member is shorter than the object. -/
lemma length_member_lt {m : String × Bool × TypeExpr} {ms : List (String × Bool × TypeExpr)}
    (mem : m ∈ ms) :
    m.2.2.text.toList.length < (TypeExpr.object ms).text.toList.length := by
  have inside : memberChars m <:+: ("; ".intercalate (TypeExpr.memberTexts ms)).toList := by
    rw [memberTexts_eq, ← String.toList_ofList (l := memberChars m)]
    exact Text.infix_intercalate (List.mem_map_of_mem mem)
  have shorter := inside.length_le
  obtain ⟨key, isOptional, x⟩ := m
  rw [memberChars, List.length_append, List.length_append] at shorter
  rw [TypeExpr.text, String.toList_append, String.toList_append, List.length_append,
    List.length_append]
  have : "\x7b ".toList.length = 2 := rfl
  dsimp only at shorter ⊢
  omega

/-- A type is read if it is an operand that is read, or a union of literals. -/
lemma readsType_of {x : TypeExpr} {n : Nat}
    (operand : x.IsOperand → ∀ n, x.text.toList.length ≤ n → ReadsOperand n x)
    (short : x.text.toList.length < n) : ReadsType n x := by
  obtain ⟨n, rfl⟩ := Nat.exists_eq_succ_of_ne_zero (Nat.ne_zero_of_lt short)
  cases x with
  | literals first texts => exact readsType_literals n first texts
  | _ => exact readsType_of_operand (operand trivial n (Nat.le_of_lt_succ short))

mutual

/-- Every type is read from its text, with a type around another for each character at most. -/
theorem readsOperand : (x : TypeExpr) → x.IsOperand → ∀ n, x.text.toList.length ≤ n →
    ReadsOperand n x
  | .any, _, n, _ => readsOperand_word n (.head _)
  | .number, _, n, _ => readsOperand_word n (.tail _ (.head _))
  | .boolean, _, n, _ => readsOperand_word n (.tail _ (.tail _ (.head _)))
  | .string, _, n, _ => readsOperand_word n (.tail _ (.tail _ (.tail _ (.head _))))
  | .record, _, n, _ => readsOperand_word n (.tail _ (.tail _ (.tail _ (.tail _ (.head _)))))
  | .literals first rest, isOperand, n, _ => by
    cases (isOperand : rest = [])
    exact readsOperand_literal n first
  | .array item, _, n, short => by
    have operand := readsOperand item
    have shorter : item.text.toList.length < n := by
      rw [toList_array] at short
      split at short <;> simp at short <;> omega
    exact readsOperand_array (readsType_of operand shorter)
      fun isOperand => operand isOperand n (Nat.le_of_lt shorter)
  | .object ms, _, n, short => by
    have reads := readsMembers ms
    exact readsOperand_object fun m mem => reads m mem n ((length_member_lt mem).trans_le short)

/-- The types of members are read, by induction over the members. -/
theorem readsMembers : (ms : List (String × Bool × TypeExpr)) →
    ∀ m ∈ ms, ∀ n, m.2.2.text.toList.length < n → ReadsType n m.2.2
  | [], _, mem, _, _ => nomatch mem
  | (key, isOptional, x) :: ms, m, mem, n, short => by
    have operand := readsOperand x
    have later := readsMembers ms
    rcases List.mem_cons.mp mem with rfl | mem
    · exact readsType_of operand short
    · exact later m mem n short

end

/-- A type is read back from its text. -/
theorem TypeExpr.read?_text (x : TypeExpr) : read? x.text = some x := by
  have reads := readsType_of (readsOperand x) (Nat.lt_succ_self _) [] (by
    refine ⟨?_, ?_⟩ <;> rintro ⟨_, eq⟩ <;> cases eq)
  rw [List.append_nil] at reads
  rw [read?, reads]

/-- Types with the same text are the same. -/
lemma TypeExpr.text_injective {x y : TypeExpr} (same : x.text = y.text) : x = y := by
  have := x.read?_text
  rw [same, y.read?_text] at this
  exact (Option.some.inj this).symm

end ClientSynth.TypeScript
