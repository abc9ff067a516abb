import ClientSynth.Proofs.Collisions
import ClientSynth.Proofs.DocComments
import ClientSynth.Proofs.KnownTypes
import ClientSynth.Proofs.Shapes

/-!
# Interfaces

What an interface declares is read off its text, comments left out, and so is what an alias stands
for. An interface has on lines of its own the members that the type of an object has within a line,
and the declarations of the type of a response, read and put together, are the type of its schema
(`Endpoint.declaresInline`).

The reader for types within a line is used for members as well, which is why a member is brought to
the form that it reads (`Member.toList_line`), and the reader of interfaces is shown to read a
member whatever follows it (`readEntry_text`). Room to read is the length of the text, so each type
inside has enough of it (`Member.length_type_lt`). The cases of a response are those of
`Endpoint.responseDeclarations`: an interface, an alias, or an interface for the items and an alias
for the list of them, which are put together by name.
-/

namespace ClientSynth

open TypeScript

namespace TypeScript

/-! ## A reader of declarations -/

/-- What follows the first mark that ends a comment. -/
def afterClose : List Char → Option (List Char)
  | [] => none
  | '*' :: '/' :: rest => some rest
  | _ :: rest => afterClose rest

/-- What follows the comment at the front of a text. -/
def afterComment : List Char → Option (List Char)
  | '/' :: '*' :: rest => afterClose rest
  | _ => none

/-- A text without the line at its front that holds an indented comment only. -/
def withoutComment (text : List Char) : List Char :=
  match afterComment (text.drop 2) with
  | some ('\n' :: rest) => rest
  | _ => text

section Reader

variable (type : List Char → Option (TypeExpr × List Char))

/-- A member of an interface, after the line of its comment, and what follows it. -/
def readEntry (text : List Char) : Option ((String × Bool × TypeExpr) × List Char) :=
  match withoutComment text with
  | ' ' :: ' ' :: rest => match readMember type rest with
    | some (m, ';' :: rest) => some (m, rest)
    | _ => none
  | _ => none

/-- One or more members up to the brace that ends their interface. There are at most `n`. -/
def readEntries : Nat → List Char → Option (List (String × Bool × TypeExpr))
  | 0, _ => none
  | n + 1, text => match readEntry type text with
    | some (m, ['\n', '\x7d']) => some [m]
    | some (m, '\n' :: ' ' :: rest) => (readEntries n (' ' :: rest)).map (m :: ·)
    | _ => none

end Reader

/-- The members of an interface, after the line that opens it. -/
def readInterface : List Char → Option (List (String × Bool × TypeExpr))
  | ['\n', '\x7d'] => some []
  | text => readEntries (readType (text.length + 1)) (text.length + 1) text

/-- What an alias stands for, up to the semicolon that ends it. What is no type of the language is a
list of things of a declared type, or unknown. -/
def readAlias (text : List Char) : Option AliasBody :=
  match readType (text.length + 1) text with
  | some (x, [';']) => some (.type x)
  | _ => match text.dropWhile isIdentifierPart with
    | ['[', ']', ';'] => some (.listOf (String.ofList (text.takeWhile isIdentifierPart)))
    | _ => if text = "unknown;".toList then some .unknown else none

/-- The name after an opening, and what follows it and a mark. -/
def readNamed (opening mark : String) (text : List Char) : Option (String × List Char) := do
  let rest ← opening.toList.isPrefixOf? text
  let body ← mark.toList.isPrefixOf? (rest.dropWhile (· ≠ ' '))
  return (String.ofList (rest.takeWhile (· ≠ ' ')), body)

/-- What a text declares: a name, and what it stands for. An interface is a type of objects. -/
def readDeclaration (text : String) : Option (String × AliasBody) :=
  match readNamed "export interface " " \x7b\n" text.toList with
  | some (name, body) => (readInterface body).map fun ms => (name, .type (.object ms))
  | none => (readNamed "export type " " = " text.toList).bind fun (name, body) =>
    (readAlias body).map (name, ·)

/-- What a name stands for among some declarations, with the declared type of list items put in. -/
def expand (declared : List (String × AliasBody)) (name : String) : Option AliasBody :=
  match declared.lookup name with
  | some (.listOf item) => match declared.lookup item with
    | some (.type x) => some (.type (.array x))
    | _ => none
  | found => found

/-! ## Members -/

/-- Behind the first mark is what follows the comment. -/
lemma afterClose_append {inside : List Char} (free : ¬closeMark <:+: inside ++ ['*'])
    (rest : List Char) : afterClose (inside ++ closeMark ++ rest) = some rest := by
  induction inside with
  | nil => rfl
  | cons c inside ih =>
    rw [List.cons_append, List.infix_cons_iff, not_or] at free
    rw [List.cons_append, List.cons_append, afterClose]
    · exact ih free.2
    · rintro later rfl eq
      apply free.1
      cases inside with
      | nil => cases eq
      | cons d inside =>
        cases eq
        exact ⟨inside ++ ['*'], rfl⟩

/-- A comment is read up to its own mark. -/
lemma IsLineComment.afterComment {comment text : String} (h : IsLineComment comment text)
    (rest : List Char) : afterComment (comment.toList ++ rest) = some rest := by
  have chars : comment.toList =
      '/' :: '*' :: ('*' :: ' ' :: (text.toList ++ [' ']) ++ closeMark) := by
    rw [h.chars, String.toList_append, String.toList_append]
    simp [closeMark]
  have free : ¬closeMark <:+: '*' :: ' ' :: (text.toList ++ [' ']) ++ ['*'] := by
    rintro ⟨before, after, eq⟩
    have whole : comment.toList = '/' :: '*' :: before ++ closeMark ++ (after ++ ['/']) := by
      have cut : comment.toList =
          '/' :: '*' :: ('*' :: ' ' :: (text.toList ++ [' ']) ++ ['*']) ++ ['/'] := by
        rw [chars]
        simp [closeMark]
      rw [cut, ← eq]
      simp
    exact absurd (h.ends.2 _ _ whole) (by simp)
  rw [chars, List.cons_append, List.cons_append]
  exact afterClose_append free rest

/-- What does not start with a slash has no comment in front. -/
lemma afterComment_eq_none {text : List Char} (other : text.head? ≠ some '/') :
    afterComment text = none := by
  unfold afterComment
  split
  · exact absurd rfl other
  · rfl

namespace Member

/-- A member as the type of an object has it. -/
def shape (m : Member) : String × Bool × TypeExpr :=
  (m.key, m.isOptional, m.type)

/-- A member on its line is the member of an object's type and a semicolon. -/
lemma toList_line (m : Member) : m.line.toList = memberChars m.shape ++ [';'] := by
  rw [line, String.toList_append, toList_memberText]
  rfl

/-- Without its comment, a member is a line of its own. -/
lemma withoutComment_text (m : Member) (rest : List Char) :
    withoutComment (m.text.toList ++ rest) = ("  " ++ m.line).toList ++ rest := by
  have start (text : String) : (("  " ++ text).toList ++ rest).drop 2 = text.toList ++ rest := by
    rw [String.toList_append]
    rfl
  rcases m.isDescribed with ⟨_, eq⟩ | ⟨text, comment, _, eq, isComment⟩
  · have key : (m.line.toList ++ rest).head? ≠ some '/' := by
      rw [toList_line, shape, memberChars, List.append_assoc, List.append_assoc]
      exact head?_memberKey ⟨rfl, by decide, by decide⟩ _ _
    rw [eq, withoutComment, start, afterComment_eq_none key]
  · have shown : m.text = "  " ++ (comment ++ "\n" ++ ("  " ++ m.line)) := by
      rw [eq]
      simp only [String.append_assoc]
    have line : (comment ++ "\n" ++ ("  " ++ m.line)).toList ++ rest =
        comment.toList ++ ('\n' :: (("  " ++ m.line).toList ++ rest)) := by
      rw [String.toList_append, String.toList_append]
      simp
    rw [shown, withoutComment, start, line, isComment.afterComment]
    rfl

/-- A member is indented. -/
lemma exists_indent (m : Member) : ∃ later, m.text.toList = ' ' :: later := by
  rcases m.isDescribed with ⟨_, eq⟩ | ⟨text, comment, _, eq, _⟩
  all_goals
    rw [eq]
    simp only [String.toList_append, List.append_assoc]
    exact ⟨_, rfl⟩

/-- The type of a member is shorter than the member, so there is room to read it. -/
lemma length_type_lt (m : Member) : m.type.text.toList.length < m.text.toList.length := by
  have line : m.type.text.toList.length < ("  " ++ m.line).toList.length := by
    rw [String.toList_append, toList_line, shape, memberChars]
    simp only [List.length_append]
    have : "  ".toList.length = 2 := rfl
    omega
  rcases m.isDescribed with ⟨_, eq⟩ | ⟨text, comment, _, eq, _⟩
  · rwa [eq]
  · rw [eq, String.toList_append, List.length_append]
    omega

end Member

/-! ## Interfaces -/

/-- A type ends where a semicolon follows. -/
lemma stopsType_semicolon (rest : List Char) : StopsType (';' :: rest) := by
  refine ⟨?_, ?_⟩ <;> rintro ⟨_, eq⟩ <;> cases eq

/-- A member is read whatever follows it. -/
lemma readEntry_text {n : Nat} {m : Member} (reads : ReadsType n m.type) (rest : List Char) :
    readEntry (readType n) (m.text.toList ++ rest) = some (m.shape, rest) := by
  have line : ("  " ++ m.line).toList ++ rest =
      ' ' :: ' ' :: (memberChars m.shape ++ ';' :: rest) := by
    rw [String.toList_append, Member.toList_line]
    simp
  have member : readMember (readType n) (memberChars m.shape ++ ';' :: rest) =
      some (m.shape, ';' :: rest) :=
    readMember_memberChars (m := m.shape) reads (stopsType_semicolon rest)
  rw [readEntry, m.withoutComment_text, line]
  simp only [member]

/-- The later members of an interface. -/
def laterEntries (ms : List Member) : List Char :=
  ms.flatMap fun m => '\n' :: m.text.toList

/-- Members on lines of their own: the first one and then the others. -/
lemma toList_entries (m : Member) (ms : List Member) :
    ("\n".intercalate ((m :: ms).map Member.text)).toList = m.text.toList ++ laterEntries ms := by
  rw [List.map_cons, Text.toList_intercalate_cons, List.flatMap_map]
  rfl

/-- The members of an interface are read up to the brace that ends it, as long as there are not too
many. -/
lemma readEntries_append {n k : Nat} {m : Member} {ms : List Member} (few : ms.length ≤ k)
    (reads : ∀ m' ∈ m :: ms, ReadsType n m'.type) :
    readEntries (readType n) (k + 1) (m.text.toList ++ (laterEntries ms ++ ['\n', '\x7d'])) =
      some ((m :: ms).map Member.shape) := by
  induction ms generalizing m k with
  | nil =>
    rw [readEntries, readEntry_text (reads m List.mem_cons_self)]
    rfl
  | cons next ms ih =>
    obtain ⟨k, rfl⟩ := Nat.exists_eq_add_of_lt few
    have later := ih (Nat.le_add_right _ k) fun m' mem => reads m' (List.mem_cons_of_mem m mem)
    obtain ⟨indented, start⟩ := next.exists_indent
    have text : laterEntries (next :: ms) ++ ['\n', '\x7d'] =
        '\n' :: (next.text.toList ++ (laterEntries ms ++ ['\n', '\x7d'])) := by
      simp [laterEntries]
    rw [readEntries, readEntry_text (reads m List.mem_cons_self), text]
    rw [start] at later ⊢
    exact congrArg (Option.map (m.shape :: ·)) later

/-- The members of an interface are read back from its lines. -/
lemma readInterface_entries (ms : List Member) :
    readInterface (("\n".intercalate (ms.map Member.text)).toList ++ ['\n', '\x7d']) =
      some (ms.map Member.shape) := by
  cases ms with
  | nil => rfl
  | cons m ms =>
    obtain ⟨indented, start⟩ := m.exists_indent
    rw [toList_entries, List.append_assoc, readInterface.eq_2]
    · refine readEntries_append ?_ fun m' mem => ?_
      · have : ms.length ≤ (laterEntries ms).length :=
          length_le_flatMap (fun _ => List.cons_ne_nil _ _) ms
        rw [List.length_append, List.length_append]
        omega
      · refine readsType_of (readsOperand m'.type) ?_
        have inside : m'.text.toList <:+: ("\n".intercalate ((m :: ms).map Member.text)).toList :=
          Text.infix_intercalate (List.mem_map_of_mem mem)
        have shorter := inside.length_le
        have := m'.length_type_lt
        rw [toList_entries, List.length_append] at shorter
        rw [List.length_append, List.length_append]
        omega
    · rw [start]
      exact nofun

/-! ## Declarations -/

/-- A name without a blank in it is read up to the blank after it. -/
lemma readNamed_append (opening : String) {mark name : String}
    (blank : mark.toList.head? = some ' ') (symbol : ' ' ∉ name.toList) (body : List Char) :
    readNamed opening mark (opening.toList ++ (name.toList ++ (mark.toList ++ body))) =
      some (name, body) := by
  have run : ∀ c ∈ name.toList, decide (c ≠ ' ') = true := fun c mem =>
    decide_eq_true (ne_of_mem_of_not_mem mem symbol)
  have stop : ∀ c ∈ (mark.toList ++ body).head?, decide (c ≠ ' ') = false := by
    rw [List.head?_append, blank]
    rintro c ⟨⟩
    rfl
  have cut (xs ys : List Char) : xs.isPrefixOf? (xs ++ ys) = some ys :=
    List.isPrefixOf?_eq_some_iff_append_eq.mpr rfl
  rw [readNamed, cut, Option.bind_eq_bind, Option.bind_some, dropWhile_run run stop, cut,
    takeWhile_run run stop, String.ofList_toList]
  rfl

/-- An interface is read back as the type of an object with its members. -/
lemma readDeclaration_interface {name : String} (symbol : ' ' ∉ name.toList)
    (members : List Member) :
    readDeclaration (Declaration.interfaceText name members) =
      some (name, .type (.object (members.map Member.shape))) := by
  have text : (Declaration.interfaceText name members).toList = "export interface ".toList ++
      (name.toList ++ (" \x7b\n".toList ++
        (("\n".intercalate (members.map Member.text)).toList ++ ['\n', '\x7d']))) := by
    rw [Declaration.interfaceText_eq]
    simp only [String.toList_append, List.append_assoc]
    rfl
  rw [readDeclaration, text, readNamed_append _ rfl symbol]
  exact congrArg (Option.map _) (readInterface_entries members)

/-- An alias is read back as its body. -/
lemma readDeclaration_alias {name : String} (symbol : ' ' ∉ name.toList) {body : AliasBody}
    (reads : readAlias (body.text.toList ++ [';']) = some body) :
    readDeclaration (Declaration.alias name body).text = some (name, body) := by
  have text : (Declaration.alias name body).text.toList = "export type ".toList ++
      (name.toList ++ (" = ".toList ++ (body.text.toList ++ [';']))) := by
    have shown : (Declaration.alias name body).text =
        "export type " ++ name ++ " = " ++ body.text ++ ";" := rfl
    rw [shown]
    simp only [String.toList_append, List.append_assoc]
    rfl
  rw [readDeclaration, text, readNamed_append _ rfl symbol]
  exact congrArg (Option.map _) reads

/-- An alias for a type is read back as that type. -/
lemma readAlias_type (x : TypeExpr) : readAlias (x.text.toList ++ [';']) = some (.type x) := by
  have short : x.text.toList.length < (x.text.toList ++ [';']).length + 1 := by
    rw [List.length_append]
    omega
  rw [readAlias, readsType_of (readsOperand x) short _ (stopsType_semicolon [])]
  rfl

/-- Types that are words start with a lower-case letter or have an angle bracket. -/
lemma readWord_eq_none {text : List Char} (lower : ∀ c ∈ text.head?, c.isLower = false)
    (angle : '<' ∉ text) : readWord text = none := by
  have words : ∀ w ∈ typeWords,
      w.1.toList.head?.any Char.isLower = true ∨ '<' ∈ w.1.toList := by
    decide
  refine List.findSome?_eq_none_iff.mpr fun w mem => if_neg fun starts => ?_
  obtain ⟨rest, rfl⟩ := List.isPrefixOf_iff_prefix.mp starts
  rcases words w mem with letter | bracket
  · obtain ⟨c, first, isLower⟩ := (Option.any_eq_true _ _).mp letter
    rw [lower c (List.mem_head?_append_of_mem_head? first)] at isLower
    cases isLower
  · exact angle (List.mem_append_left rest bracket)

/-- A declared type is no type of the language, so an alias for a list of its things stands for just
that. -/
lemma readAlias_listOf {name : String} (symbol : Naming.IsSymbol name)
    (upper : ∃ c ∈ name.toList.head?, c.isLower = false) :
    readAlias ((AliasBody.listOf name).text.toList ++ [';']) = some (.listOf name) := by
  have parts : ∀ c ∈ name.toList, isIdentifierPart c = true := fun c mem =>
    Naming.isIdentifierPart_of_isAlnum (symbol c mem)
  have text : (AliasBody.listOf name).text.toList ++ [';'] = name.toList ++ ['[', ']', ';'] := by
    rw [AliasBody.text, String.toList_append, List.append_assoc]
    rfl
  -- No type starts with a capital, so the name is not taken for one.
  have noType (n : ℕ) : readType n (name.toList ++ ['[', ']', ';']) = none := by
    obtain ⟨c, first, isUpper⟩ := upper
    obtain ⟨rest, chars⟩ := List.head?_eq_some_iff.mp first
    have part := parts c (List.mem_of_mem_head? first)
    have noWord : readWord (name.toList ++ ['[', ']', ';']) = none := by
      refine readWord_eq_none ?_ ?_
      · rw [chars]
        rintro _ ⟨⟩
        exact isUpper
      · rw [List.mem_append, not_or]
        exact ⟨symbol.not_mem (by decide), by decide⟩
    cases n with
    | zero => rfl
    | succ n =>
      rw [readType, readUnion, readOperand, readPrimary.eq_4, noWord]
      · rfl
      all_goals
        rw [chars]
        intro later eq
        cases (List.cons.inj eq).1
        cases part
  have stop : ∀ c ∈ ['[', ']', ';'].head?, isIdentifierPart c = false := by
    rintro c ⟨⟩
    rfl
  rw [text, readAlias, noType, dropWhile_run parts stop, takeWhile_run parts stop,
    String.ofList_toList]
  rfl

/-- An alias for what is not known is read back as such. -/
lemma readAlias_unknown : readAlias (AliasBody.unknown.text.toList ++ [';']) = some .unknown :=
  rfl

/-! ## Properties -/

namespace TypeExpr

/-- The text of the member for a property, as the type of an object has it. -/
def propertyText (required : Option (List String)) (p : String × Schema) : String :=
  memberText p.1 (!(required.getD []).contains p.1) (ofSchema p.2).text

variable {s : Schema} {properties : List (String × Schema)}

/-- The type of an object's schema has a member for each property. -/
lemma ofSchema_object (isObject : s.type = some "object") (some : s.properties = some properties) :
    ofSchema s = .object (ofMembers (s.required.getD []) properties) := by
  obtain ⟨_, _, _, _, _, _, _, _⟩ := s
  cases isObject
  cases some
  rfl

/-- The type of an array's schema is that of its items in an array. -/
lemma ofSchema_array (isArray : s.type = some "array") :
    ofSchema s = .array (ofSchema? s.items) := by
  obtain ⟨_, _, _, _, _, _, _, _⟩ := s
  cases isArray
  rfl

/-- The members of an object's type print as its properties do. -/
lemma memberTexts_ofMembers (required : Option (List String))
    (properties : List (String × Schema)) :
    memberTexts (ofMembers (required.getD []) properties) =
      properties.map (propertyText required) := by
  rw [memberTexts_eq, ofMembers_eq, List.map_map]
  refine List.map_congr_left fun p _ => ?_
  rw [Function.comp_apply, ← toList_memberText, String.ofList_toList]
  rfl

end TypeExpr

/-- The members of an interface are those of the object's type. -/
lemma Member.map_shape_ofProperties (properties : List (String × Schema))
    (required : Option (List String)) :
    (Member.ofProperties properties required).map Member.shape =
      TypeExpr.ofMembers (required.getD []) properties := by
  rw [TypeExpr.ofMembers_eq, Member.ofProperties, List.map_map]
  rfl

/-- Properties have the same members in an interface as in the type of an object: each of them has
one, in order, which stands on a line between two blanks and a semicolon there, after its comment if
it has a description. -/
structure PropertiesAgree (name : String) (properties : List (String × Schema))
    (required : Option (List String)) : Prop where
  inline : ∀ s : Schema, s.type = some "object" → s.properties = some properties →
    s.required = required → (TypeExpr.ofSchema s).text =
      "\x7b " ++ "; ".intercalate (properties.map (TypeExpr.propertyText required)) ++ " \x7d"
  lines : ∃ entries, (interfaceOf name properties required).text =
      "export interface " ++ name ++ " \x7b\n" ++ "\n".intercalate entries ++ "\n\x7d" ∧
    List.Forall₂ (fun p entry => IsDescribed "  " p.2.description
      (TypeExpr.propertyText required p ++ ";") entry) properties entries

/-- Interface and object's type agree on every property. -/
lemma propertiesAgree (name : String) (properties : List (String × Schema))
    (required : Option (List String)) : PropertiesAgree name properties required where
  inline s isObject some eq := by
    rw [TypeExpr.ofSchema_object isObject some, eq, TypeExpr.text, TypeExpr.memberTexts_ofMembers]
  lines := by
    refine ⟨_, rfl, ?_⟩
    rw [Member.ofProperties, List.map_map, List.forall₂_map_right_iff, List.forall₂_same]
    exact fun p _ => Member.isDescribed
      ⟨p.1, !(required.getD []).contains p.1, TypeExpr.ofSchema p.2, p.2.description⟩

end TypeScript

/-! ## Responses -/

namespace Endpoint

/-- The schema of the first response that reports success and has one. -/
def firstSchema (e : Endpoint) : Option Schema :=
  e.responses.findSome? fun r =>
    if 200 ≤ r.statusCode.getD 0 ∧ r.statusCode.getD 0 < 300 then r.schema else none

/-- What the type of the response stands for. The texts of its declarations are read, and put
together into one type. -/
def expandedResponse (e : Endpoint) : Option AliasBody :=
  (e.responseDeclarations.mapM fun d => readDeclaration d.text).bind fun declared =>
    expand declared (Naming.responseType e)

/-- The declarations of the type of the response are the type of its schema, cut into pieces. -/
structure DeclaresSchema (e : Endpoint) : Prop where
  missing : e.firstSchema = none → e.expandedResponse = some .unknown
  found : ∀ s, e.firstSchema = some s → ∃ x,
    TypeExpr.read? (TypeExpr.ofSchema s).text = some x ∧ e.expandedResponse = some (.type x)

variable {e : Endpoint} {s : Schema}

/-- The first schema among the responses is the one that a success gives back. -/
lemma firstSchema_eq : e.firstSchema = e.success?.map Prod.snd := by
  have go (responses : List Response) (i : ℕ) : (success?.go i responses).map Prod.snd =
      responses.findSome? fun r =>
        if 200 ≤ r.statusCode.getD 0 ∧ r.statusCode.getD 0 < 300 then r.schema else none := by
    induction responses generalizing i with
    | nil => rfl
    | cons r rest ih =>
      rw [success?.go, List.findSome?_cons]
      by_cases success : 200 ≤ r.statusCode.getD 0 ∧ r.statusCode.getD 0 < 300
      · cases schema : r.schema with
        | none => simp [success, ih]
        | some s => simp [success]
      · simp [success, ih]
  exact (go e.responses 0).symm

/-- No name of a type has a blank in it. -/
lemma blank_not_mem_suffixed {suffix : String} (mem : suffix ∈ Naming.typeSuffixes) :
    ' ' ∉ (Naming.base e ++ suffix).toList :=
  (Naming.isSymbol_suffixed mem).not_mem rfl

/-- The interface of an endpoint is read back with a member for each property. -/
lemma readDeclaration_interfaceOf {suffix : String} (mem : suffix ∈ Naming.typeSuffixes)
    (properties : List (String × Schema)) (required : Option (List String)) :
    readDeclaration (interfaceOf (Naming.base e ++ suffix) properties required).text =
      some (Naming.base e ++ suffix,
        .type (.object (TypeExpr.ofMembers (required.getD []) properties))) := by
  rw [← Member.map_shape_ofProperties]
  exact readDeclaration_interface (blank_not_mem_suffixed mem) _

/-- The alias of a response is read back as its body. -/
lemma readDeclaration_responseAlias {body : AliasBody}
    (reads : readAlias (body.text.toList ++ [';']) = some body) :
    readDeclaration (Declaration.alias (Naming.responseType e) body).text =
      some (Naming.responseType e, body) :=
  readDeclaration_alias (blank_not_mem_suffixed (by decide)) reads

/-- A declaration on its own stands for what it is read as, unless that is a list of declared
things. -/
lemma expandedResponse_of_single {declaration : Declaration} {body : AliasBody}
    (single : e.responseDeclarations = [declaration])
    (reads : readDeclaration declaration.text = some (Naming.responseType e, body))
    (whole : ∀ name, body ≠ .listOf name) : e.expandedResponse = some body := by
  have declared : e.responseDeclarations.mapM (fun d => readDeclaration d.text) =
      some [(Naming.responseType e, body)] := by
    rw [single, List.mapM_cons, reads]
    rfl
  rw [expandedResponse, declared, Option.bind_some, expand, List.lookup_cons_self]
  cases body with
  | listOf name => exact absurd rfl (whole name)
  | _ => rfl

/-- The name of a declared type starts with an upper-case letter or a digit. -/
lemma isLower_head?_itemType : ∃ c ∈ (Naming.itemType e).toList.head?, c.isLower = false := by
  rw [Naming.itemType, String.toList_append]
  cases first : (Naming.base e).toList.head? with
  | none =>
    rw [List.head?_append, first]
    exact ⟨'I', rfl, rfl⟩
  | some c => exact ⟨c, List.mem_head?_append_of_mem_head? first, Naming.isLower_head?_base first⟩

/-- The alias for a list of items is read back as such. -/
lemma readDeclaration_listOf :
    readDeclaration (Declaration.alias (Naming.responseType e) (.listOf (Naming.itemType e))).text =
      some (Naming.responseType e, .listOf (Naming.itemType e)) :=
  readDeclaration_responseAlias
    (readAlias_listOf (Naming.isSymbol_suffixed (by decide)) isLower_head?_itemType)

/-- A list of items and the interface of an item make up an array of objects. -/
lemma expandedResponse_of_items {item : Schema} {properties : List (String × Schema)}
    (split : e.responseDeclarations =
      [interfaceOf (Naming.itemType e) properties item.required,
        .alias (Naming.responseType e) (.listOf (Naming.itemType e))]) :
    e.expandedResponse =
      some (.type (.array (.object (TypeExpr.ofMembers (item.required.getD []) properties)))) := by
  have items : readDeclaration (interfaceOf (Naming.itemType e) properties item.required).text =
      some (Naming.itemType e,
        .type (.object (TypeExpr.ofMembers (item.required.getD []) properties))) :=
    readDeclaration_interfaceOf (by decide) properties item.required
  have declared : e.responseDeclarations.mapM (fun d => readDeclaration d.text) =
      some [(Naming.itemType e,
          .type (.object (TypeExpr.ofMembers (item.required.getD []) properties))),
        (Naming.responseType e, .listOf (Naming.itemType e))] := by
    rw [split, List.mapM_cons, List.mapM_cons, items, readDeclaration_listOf]
    rfl
  have apart : (Naming.responseType e == Naming.itemType e) = false := by
    rw [beq_eq_false_iff_ne]
    intro same
    have suffixes := (Naming.append_suffix_inj (by decide) (by decide) same).2
    revert suffixes
    decide
  rw [expandedResponse, declared, Option.bind_some, expand, List.lookup_cons, apart]
  dsimp only
  rw [List.lookup_cons_self]
  dsimp only
  rw [Naming.itemType, List.lookup_cons_self]

/-- The declarations of a response make up the type of its schema. -/
lemma expandedResponse_of_firstSchema (first : e.firstSchema = some s) :
    e.expandedResponse = some (.type (TypeExpr.ofSchema s)) := by
  have declared : e.responseDeclarations = e.responseDeclarationsOf s := by
    rw [firstSchema_eq] at first
    obtain ⟨⟨_, _⟩, success, rfl⟩ := Option.map_eq_some_iff.mp first
    rw [responseDeclarations, success]
  rw [responseDeclarationsOf] at declared
  split at declared
  case h_1 _ _ properties object =>
    split at object
    case isTrue isObject =>
      rw [TypeExpr.ofSchema_object isObject (Schema.properties_of_someProperties? object)]
      exact expandedResponse_of_single declared (readDeclaration_interfaceOf (by decide) _ _)
        (by simp)
    case isFalse => cases object
  case h_2 item properties _ items =>
    obtain ⟨isArray, isItem, isObject, members⟩ := of_itemObject? items
    rw [TypeExpr.ofSchema_array isArray, isItem, TypeExpr.ofSchema?,
      TypeExpr.ofSchema_object isObject members]
    exact expandedResponse_of_items declared
  case h_3 =>
    exact expandedResponse_of_single declared
      (readDeclaration_responseAlias (readAlias_type _)) (by simp)

/-- Without a schema nothing is known of the response. -/
lemma expandedResponse_of_none (none : e.firstSchema = none) :
    e.expandedResponse = some .unknown := by
  rw [firstSchema_eq, Option.map_eq_none_iff] at none
  have declared : e.responseDeclarations = [.alias (Naming.responseType e) .unknown] := by
    rw [responseDeclarations, none]
  exact expandedResponse_of_single declared (readDeclaration_responseAlias readAlias_unknown)
    (by simp)

/-- Interfaces say the same as types within a line. Properties have the same members in both; and
the declarations of the type of a response, read and put together, are the type of its schema. -/
theorem declaresInline (name : String) (properties : List (String × Schema))
    (required : Option (List String)) (e : Endpoint) :
    PropertiesAgree name properties required ∧ e.DeclaresSchema :=
  ⟨propertiesAgree name properties required, expandedResponse_of_none, fun s first =>
    ⟨TypeExpr.ofSchema s, TypeExpr.read?_text _, expandedResponse_of_firstSchema first⟩⟩

end Endpoint

end ClientSynth
