import ClientSynth.Proofs.HeadComments
import ClientSynth.Proofs.HookCalls

/-!
# Documentation comments

Service functions, hooks, models and members of interfaces stand behind comments that quote the
document. A text is cut into its words and written without the mark that ends a comment before it is
quoted, so each of these comments ends where its own mark stands, on the line where it should
(`Document.commentsEnd`).

A block comment is looked at as one text of characters, and the mark that ends it is searched from
the front. Within the quoted lines it is found in no single text, since each was written without it
(`not_closeMark_infix_commentLine`), and it does not form where a text meets the stars and blanks
around it, because its two characters never stand on different sides of such a seam.
-/

namespace ClientSynth

/-! ## A part at the end of a text -/

namespace Text

/-- A part stands in a text once, at its end. -/
def OnlyAtEnd (part text : List Char) : Prop :=
  (∃ front, text = front ++ part) ∧ ∀ before after, text = before ++ part ++ after → after = []

/-- A part stands at the end only if it does not come up before its last character. -/
lemma onlyAtEnd_of_not_infix {front part : List Char} (nonempty : part ≠ [])
    (absent : ¬part <:+: front ++ part.dropLast) : OnlyAtEnd part (front ++ part) := by
  have first := (firstAfter_iff nonempty (List.prefix_refl (front ++ part))).mpr absent
  refine ⟨⟨front, rfl⟩, fun before after eq => ?_⟩
  have late := first.2 before (eq ▸ List.prefix_append _ _)
  have lengths := congrArg List.length eq
  simp only [List.length_append] at lengths
  exact List.length_eq_zero_iff.mp (by omega)

end Text

namespace TypeScript

/-! ## Quoted texts -/

/-- Taking the mark out keeps the character in front. -/
lemma head?_withoutClose (text : List Char) : (withoutClose text).head? = text.head? := by
  fun_cases withoutClose text <;> rfl

/-- Neither the marks of a text are left nor do new ones come up around the backslashes. -/
lemma not_closeMark_infix_withoutClose (text : List Char) :
    ¬closeMark <:+: withoutClose text := by
  fun_induction withoutClose text with
  | case1 => decide
  | case2 rest ih =>
    simp only [closeMark, List.infix_cons_iff, List.cons_prefix_cons] at ih ⊢
    simpa using ih
  | case3 c rest other ih =>
    rw [List.infix_cons_iff, not_or]
    refine ⟨fun starts => ?_, ih⟩
    -- The mark would have to be one of the text.
    obtain ⟨rfl, slash⟩ := List.cons_prefix_cons.mp starts
    have next : rest.head? = some '/' := by
      rw [← head?_withoutClose]
      obtain ⟨later, eq⟩ := slash
      rw [← eq]
      rfl
    obtain ⟨later, rfl⟩ := List.head?_eq_some_iff.mp next
    exact other later rfl rfl

/-- A quoted text does not have the mark that ends a comment in it. -/
lemma not_closeMark_infix_commentLine (s : String) :
    ¬closeMark <:+: (commentLine s).toList := by
  rw [commentLine, String.toList_ofList]
  exact not_closeMark_infix_withoutClose _

/-- Marks that follow each other, or a star, are cut like any other. -/
example : commentLine "**/ a\n*/*/" = "**\\/ a *\\/*\\/" := by decide +kernel

/-- White space covers all characters that end a line of source. -/
lemma isSpace_of_isLineTerminator {c : Char} (h : isLineTerminator c = true) :
    Text.isSpace c = true := by
  simp only [isLineTerminator, Bool.or_eq_true, beq_iff_eq] at h
  rcases h with ((rfl | rfl) | rfl) | rfl <;> decide

/-- A quoted text is on one line. -/
lemma isLine_commentLine (s : String) : IsLine (commentLine s).toList := by
  intro c mem
  rcases mem_commentLine mem with rfl | rfl | other
  · decide
  · decide
  · rw [Bool.eq_false_iff]
    intro ends
    rw [isSpace_of_isLineTerminator ends] at other
    cases other

/-! ## Comments -/

/-- A comment on lines of its own, with a line for each of some texts. -/
structure IsBlockComment (comment : String) (texts : List String) : Prop where
  rows : Text.rows comment = ["/**"] ++ texts.map (fun text => " * " ++ text) ++ [" */"]
  inline : ∀ text ∈ texts, IsLine text.toList
  ends : Text.OnlyAtEnd closeMark comment.toList

/-- A comment of one line around a text. -/
structure IsLineComment (comment text : String) : Prop where
  chars : comment = "/** " ++ text ++ " */"
  inline : IsLine text.toList
  ends : Text.OnlyAtEnd closeMark comment.toList

/-- The comment of a single line ends at its own mark. -/
lemma isLineComment_lineComment (s : String) : IsLineComment (lineComment s) (commentLine s) := by
  refine ⟨rfl, isLine_commentLine s, ?_⟩
  have chars : (lineComment s).toList =
      "/**".toList ++ ' ' :: ((commentLine s).toList ++ [' ']) ++ closeMark := by
    have whole : lineComment s = "/** " ++ commentLine s ++ " */" := rfl
    rw [whole, String.toList_append, String.toList_append]
    simp [closeMark]
  have blank : ' ' ∉ closeMark := by decide
  rw [chars]
  refine Text.onlyAtEnd_of_not_infix (by decide) ?_
  rw [List.append_assoc, List.cons_append, List.append_assoc, List.singleton_append,
    Text.infix_append_cons_iff blank, Text.infix_append_cons_iff blank]
  rintro (opening | quoted | closing)
  · exact absurd opening (by decide)
  · exact not_closeMark_infix_commentLine s quoted
  · exact absurd closing (by decide)

/-- What stands in a comment between its opening and the mark that ends it. -/
def quotedLines (texts : List String) : List Char :=
  texts.flatMap fun text => '\n' :: ' ' :: '*' :: ' ' :: text.toList

/-- Lines of texts without a mark bring no mark up, whatever text without one they follow. -/
lemma not_closeMark_infix_quotedLines {texts : List String}
    (free : ∀ text ∈ texts, ¬closeMark <:+: text.toList) {front : List Char}
    (before : ¬closeMark <:+: front) :
    ¬closeMark <:+: front ++ (quotedLines texts ++ ['\n', ' ', '*']) := by
  have blank : ' ' ∉ closeMark := by decide
  have feed : '\n' ∉ closeMark := by decide
  induction texts generalizing front with
  | nil =>
    rw [quotedLines, List.flatMap_nil, List.nil_append, Text.infix_append_cons_iff feed, not_or]
    exact ⟨before, by decide⟩
  | cons text texts ih =>
    rw [List.forall_mem_cons] at free
    have later := ih free.2 free.1
    have lines : quotedLines (text :: texts) ++ ['\n', ' ', '*'] = '\n' ::
        ([' ', '*'] ++ ' ' :: (text.toList ++ (quotedLines texts ++ ['\n', ' ', '*']))) := by
      simp [quotedLines]
    rw [lines, Text.infix_append_cons_iff feed, Text.infix_append_cons_iff blank, not_or, not_or]
    exact ⟨before, by decide, later⟩

lemma toList_blockComment (texts : List String) :
    ("\n".intercalate (blockComment texts)).toList =
      "/**".toList ++ (quotedLines texts ++ ['\n', ' ']) ++ closeMark := by
  have lines : blockComment texts =
      "/**" :: (texts.map (fun text => " * " ++ text) ++ [" */"]) := rfl
  rw [lines, Text.toList_intercalate_cons, List.flatMap_append, List.flatMap_map]
  simp [quotedLines, closeMark]

/-- A block comment ends at its own mark, with a line for each text. -/
lemma isBlockComment_blockComment (texts : List String) :
    IsBlockComment ("\n".intercalate (blockComment (texts.map commentLine)))
      (texts.map commentLine) := by
  constructor
  case rows =>
    refine Text.rows_intercalate fun line mem => ?_
    rcases List.mem_cons.mp mem with rfl | mem
    · decide
    · rcases List.mem_append.mp mem with mem | mem
      · obtain ⟨_, isText, rfl⟩ := List.mem_map.mp mem
        obtain ⟨s, _, rfl⟩ := List.mem_map.mp isText
        exact Text.not_mem_append (by decide) (break_not_mem_commentLine s)
      · cases List.mem_singleton.mp mem
        decide
  case inline =>
    rw [List.forall_mem_map]
    exact fun s _ => isLine_commentLine s
  case ends =>
    rw [toList_blockComment]
    refine Text.onlyAtEnd_of_not_infix (by decide) ?_
    rw [List.append_assoc, List.append_assoc]
    refine not_closeMark_infix_quotedLines ?_ (by decide)
    rw [List.forall_mem_map]
    exact fun s _ => not_closeMark_infix_commentLine s

/-! ## What is behind a comment -/

/-- A description that is there and not empty. -/
def described (description : Option String) : Option String :=
  description.filter fun d => !d.isEmpty

/-- A code stands behind the comment for its description, if it has one, after the same indent. -/
def IsDescribed (indent : String) (description : Option String) (bare code : String) : Prop :=
  (described description = none ∧ code = indent ++ bare) ∨
    ∃ text comment, described description = some text ∧
      code = indent ++ comment ++ "\n" ++ (indent ++ bare) ∧
      IsLineComment comment (commentLine text)

/-- The line of a member after its indent. -/
def Member.line (m : Member) : String :=
  TypeExpr.memberText m.key m.isOptional m.type.text ++ ";"

/-- What is described has its comment on the line before it, behind the same indentation. -/
lemma isDescribed_lineComment {description : Option String} {text : String}
    (present : described description = some text) (indent bare : String) :
    IsDescribed indent description bare (indent ++ lineComment text ++ "\n" ++ (indent ++ bare)) :=
  .inr ⟨text, lineComment text, present, rfl, isLineComment_lineComment text⟩

/-- A member with a description has its comment on the line before it. -/
lemma Member.isDescribed (m : Member) : IsDescribed "  " m.description m.line m.text := by
  have bare : "  " ++ TypeExpr.memberText m.key m.isOptional m.type.text ++ ";" = "  " ++ m.line :=
    String.append_assoc ..
  rw [Member.text, bare]
  cases eq : described m.description with
  | none =>
    have absent : m.description.filter (fun d => !d.isEmpty) = none := eq
    exact .inl ⟨eq, by rw [absent]⟩
  | some text =>
    have present : m.description.filter (fun d => !d.isEmpty) = some text := eq
    rw [present]
    exact isDescribed_lineComment eq "  " m.line

end TypeScript

open TypeScript

/-- A model with a description has its comment on the line before its declaration. -/
lemma Model.isDescribed (name : String) (m : Model) :
    IsDescribed "" m.description
      (Declaration.interfaceText (Naming.pascal name)
        (Member.ofProperties (m.properties.getD []) m.required))
      (m.declaration name).text := by
  have shown : m.declaration name = .interface (described m.description) (Naming.pascal name)
      (Member.ofProperties (m.properties.getD []) m.required) := rfl
  rw [shown]
  cases eq : described m.description with
  | none => exact .inl ⟨eq, rfl⟩
  | some text => exact isDescribed_lineComment eq "" _

/-- A hook is its comment and its code. -/
lemma Hook.intercalate_lines (h : Hook) :
    "\n".intercalate h.lines =
      "\n".intercalate (blockComment [h.description]) ++ "\n" ++ "\n".intercalate h.codeLines := by
  have some : h.codeLines ≠ [] := by
    unfold codeLines
    cases h.kind <;> exact List.cons_ne_nil _ _
  exact String.intercalate_append_of_ne_nil (List.cons_ne_nil _ _) some

namespace Document

/-- The comments of everything that is generated for a document end where they should. -/
structure CommentsEnd (d : Document) (s : Settings) : Prop where
  functions : ∀ e ∈ d.endpoints, ∃ comment rest,
    (e.service s).code = comment ++ "\n" ++ rest ∧ e.functionHead.toList <+: rest.toList ∧
      IsBlockComment comment (e.documentation.map commentLine)
  hooks : ∀ e ∈ d.endpoints, ∀ h ∈ (e.service s).hook?, ∃ comment,
    "\n".intercalate h.lines = comment ++ "\n" ++ "\n".intercalate h.codeLines ∧
      IsBlockComment comment [commentLine e.introduction]
  members : ∀ comment name members,
    .interface comment name members ∈
      d.modelDeclarations ++ d.endpoints.flatMap Endpoint.declarations →
    ∀ m ∈ members, IsDescribed "  " m.description m.line m.text
  models : ∀ m ∈ d.models.getD [], IsDescribed "" m.2.description
    (Declaration.interfaceText (Naming.pascal m.1)
      (Member.ofProperties (m.2.properties.getD []) m.2.required)) (m.2.declaration m.1).text

/-- Whatever the texts of a document are, a comment that quotes them holds the mark that ends it
once, at its end, none of the texts in it leaves its line, and the comment of a service function has
one line for each line of documentation between the one that opens and the one that closes it. -/
theorem commentsEnd (d : Document) (s : Settings) : d.CommentsEnd s where
  functions e _ := by
    obtain ⟨next, later, eq⟩ : ∃ next later, e.functionLines s =
        blockComment (e.documentation.map commentLine) ++ e.functionHead :: next :: later :=
      ⟨_, _, rfl⟩
    refine ⟨_, "\n".intercalate (e.functionHead :: next :: later), ?_, ?_,
      isBlockComment_blockComment e.documentation⟩
    · rw [Endpoint.code_eq, eq]
      exact String.intercalate_append_of_ne_nil (List.cons_ne_nil _ _) (List.cons_ne_nil _ _)
    · rw [Text.toList_intercalate_cons]
      exact List.prefix_append _ _
  hooks e _ h isHook := by
    obtain ⟨kind, _, isMade⟩ := Option.map_eq_some_iff.mp isHook
    have quotes : h.description = commentLine e.introduction := by rw [← isMade]; rfl
    refine ⟨_, h.intercalate_lines, ?_⟩
    rw [quotes]
    exact isBlockComment_blockComment [e.introduction]
  members _ _ _ _ m _ := m.isDescribed
  models m _ := m.2.isDescribed m.1

end Document

end ClientSynth
