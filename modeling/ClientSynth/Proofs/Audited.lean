import ClientSynth.Client.Audit
import ClientSynth.Proofs.Exports
import ClientSynth.Proofs.FieldPaths
import ClientSynth.Proofs.FilledPaths
import ClientSynth.Proofs.Searches

/-!
# What an audit says about generated functions

An audit reads the text of a service function again: it looks at the first line that exports
something, which ends at any line end, and searches it for words. A generated function has a name,
is exported, handles errors and has a comment, so that nothing is said about these. But a line end
in the parameters hides the type of the result from the audit, and the word `any` is found in names
and literals as well as in types (`Document.audited`).

The audited line is cut at the parentheses of the function's head: the opening and the closing are
fixed texts around a name, which are quiet (`IsQuiet`), and between them are the bindings with seams
that no word reaches across (`IsSeam`). So both searches come down to the parameters of the path,
the only bindings that have texts of the document in them (`Endpoint.showsAny_iff`).
-/

namespace ClientSynth

open Text (Unbroken firstLine hasWord isLineEnd isWordChar)
open TypeScript (TypeExpr)

/-! ## Texts in which nothing is found -/

/-- A text that ends no line and does not have the word `any` in it. -/
def IsQuiet (s : String) : Prop :=
  Unbroken s.toList ∧ hasWord "any".toList s.toList = false

instance (s : String) : Decidable (IsQuiet s) :=
  inferInstanceAs (Decidable (_ ∧ _))

/-- A text that ends no line and has no word in it. -/
def IsSeam (gap : String) : Prop :=
  gap ≠ "" ∧ Unbroken gap.toList ∧ Text.IsWordless gap.toList

instance (gap : String) : Decidable (IsSeam gap) :=
  inferInstanceAs (Decidable (_ ∧ _ ∧ _))

section Seams

variable {gap s t : String}

/-- A seam keeps the word from forming across it, so it is found on one of the two sides or not at
all. -/
lemma IsSeam.hasWord_any (h : IsSeam gap) (s t : String) :
    hasWord "any".toList (s ++ gap ++ t).toList =
      (hasWord "any".toList s.toList || hasWord "any".toList t.toList) :=
  Text.hasWord_append_gap (by decide) (by decide) h.1 h.2.2 s t

/-- Quiet texts on both sides of a quiet seam make up a quiet text. -/
lemma IsQuiet.join (hs : IsQuiet s) (h : IsSeam gap) (ht : IsQuiet t) :
    IsQuiet (s ++ gap ++ t) := by
  constructor
  · rw [String.toList_append, String.toList_append, Text.unbroken_append_iff,
      Text.unbroken_append_iff]
    exact ⟨⟨hs.1, h.2.1⟩, ht.1⟩
  · rw [h.hasWord_any, hs.2, ht.2]
    rfl

end Seams

namespace Naming

variable {s : String} {e : Endpoint}

/-- A letter or a digit ends no line and is a character of a word. -/
lemma char_of_isAlnum {c : Char} (h : Text.isAlnum c = true) :
    isLineEnd c = false ∧ isWordChar c = true :=
  of_isAlnum (P := fun c => isLineEnd c = false ∧ isWordChar c = true) (by decide) h

/-- A symbol has no word in it but itself. -/
lemma IsSymbol.isQuiet (h : IsSymbol s) (ne : s ≠ "any") : IsQuiet s := by
  refine ⟨fun c mem => (char_of_isAlnum (h c mem)).1, Bool.eq_false_iff.mpr fun found => ne ?_⟩
  exact String.toList_injective
    (Text.eq_of_hasWord (fun c mem => (char_of_isAlnum (h c mem)).2) found)

/-- No base name becomes the searched word by its suffix, which is longer than what the word ends
in. -/
lemma suffixed_ne_any {suffix : String} (mem : suffix ∈ typeSuffixes) :
    base e ++ suffix ≠ "any" := by
  have absent : base e ++ suffix ∉ TypeScript.languageTypes := not_mem_languageTypes mem
  intro eq
  rw [eq] at absent
  exact absent (by decide)

/-- The name of a type is one word other than the searched one, so it is quiet. -/
lemma isQuiet_suffixed {suffix : String} (mem : suffix ∈ typeSuffixes) :
    IsQuiet (base e ++ suffix) :=
  (isSymbol_suffixed mem).isQuiet (suffixed_ne_any mem)

/-- The first letter of a verb and what follows it. -/
lemma exists_verb (h : IsWord (Method.all.map Method.word) e.method) :
    ∃ c rest, (function e).toList = c :: rest ∧ c ≠ 'a' := by
  have verbs : ∀ v ∈ verbs, (v.toList.head?.any fun c => decide (c ≠ 'a')) = true := by decide
  obtain ⟨c, first, fits⟩ := (Option.any_eq_true _ _).mp (verbs _ (verb_mem_verbs h))
  obtain ⟨rest, eq⟩ := List.head?_eq_some_iff.mp first
  rw [decide_eq_true_eq] at fits
  refine ⟨c, rest ++ (base e).toList, ?_, fits⟩
  rw [function, String.toList_append, eq, List.cons_append]

/-- The name of a function is one word other than the searched one, so it is quiet. -/
lemma isQuiet_function (h : IsWord (Method.all.map Method.word) e.method) :
    IsQuiet (function e) := by
  refine (isSymbol_function h).isQuiet fun same => ?_
  obtain ⟨c, rest, eq, other⟩ := exists_verb h
  rw [same] at eq
  exact other (List.cons.inj eq).1.symm

/-- The name of a function is a valid one. -/
lemma isIdentifierLine_function (h : IsWord (Method.all.map Method.word) e.method) :
    TypeScript.isIdentifierLine (function e).toList = true := by
  have last : (function e).toList.getLast? ≠ some '\n' := by
    intro last
    have := isSymbol_function h '\n' (List.mem_of_getLast? last)
    revert this
    decide
  rw [TypeScript.isIdentifierLine, Text.withoutFinalBreak, if_neg last]
  exact isIdentifier_function h

end Naming

/-! ## The line that is looked at -/

namespace Endpoint

variable {e : Endpoint} {s : Settings}

/-- The parameters of the service function, as they stand in its head. -/
def parameterText (e : Endpoint) : String :=
  ", ".intercalate (e.signature.map Binding.text)

/-- What an audit sees of them. -/
def seenParameters (e : Endpoint) : List Char :=
  firstLine e.parameterText.toList

/-- What stands before the parameters. -/
def headOpening (e : Endpoint) : String :=
  "export const " ++ Naming.function e ++ " = async "

/-- What stands after the parameters. -/
def headClosing (e : Endpoint) : String :=
  ": " ++ e.resultType ++ " => \x7b"

/-- What stands before the parameters of a function. -/
lemma headOpening_eq (e : Endpoint) :
    e.headOpening = "export const " ++ Naming.function e ++ " = async " :=
  rfl

/-- What stands behind the parameters of a function. -/
lemma headClosing_eq (e : Endpoint) : e.headClosing = ": " ++ e.resultType ++ " => \x7b" :=
  rfl

/-- The line that an audit takes for the head of the service function. -/
def auditedLine (e : Endpoint) : List Char :=
  firstLine e.functionHead.toList

/-- The head of a function is an opening, its parameters in parentheses and a closing. -/
lemma toList_functionHead (e : Endpoint) : e.functionHead.toList =
    e.headOpening.toList ++ '(' :: (e.parameterText.toList ++ ')' :: e.headClosing.toList) := by
  have parts : e.functionHead =
      e.headOpening ++ "(" ++ (e.parameterText ++ ")" ++ e.headClosing) := by
    rw [functionHead_eq, show " = async (" = " = async " ++ "(" from rfl,
      show "): " = ")" ++ ": " from rfl, headOpening_eq, headClosing_eq, parameterText]
    simp only [String.append_assoc]
  have opening : "(".toList = ['('] := rfl
  have closing : ")".toList = [')'] := rfl
  rw [parts, String.toList_append, String.toList_append, String.toList_append,
    String.toList_append, opening, closing, List.append_assoc, List.append_assoc,
    List.singleton_append, List.singleton_append]

/-- A character that is no white space ends no line. -/
lemma isLineEnd_eq_false_of_isSpace {c : Char} (h : Text.isSpace c = false) :
    isLineEnd c = false := by
  rw [Bool.eq_false_iff] at h ⊢
  refine mt (fun ends => ?_) h
  simp only [isLineEnd, Text.isSpace, Text.isWhiteSpace, Bool.or_eq_true, Bool.and_eq_true,
    decide_eq_true_eq, beq_iff_eq] at ends ⊢
  omega

/-- A comment on one line is not broken, since it is written from words. -/
lemma unbroken_commentLine (text : String) :
    Unbroken (TypeScript.commentLine text).toList := by
  intro c mem
  rcases TypeScript.mem_commentLine mem with rfl | rfl | other
  · decide
  · decide
  · exact isLineEnd_eq_false_of_isSpace other

/-- The lines of a comment are whole, and export nothing. -/
lemma blockComment_line {texts : List String} {line : String}
    (mem : line ∈ TypeScript.blockComment (texts.map TypeScript.commentLine)) :
    Unbroken line.toList ∧ "export ".toList.isPrefixOf line.toList = false := by
  rcases List.mem_append.mp mem with mem | mem
  · rcases List.mem_append.mp mem with mem | mem
    · cases List.mem_singleton.mp mem
      exact ⟨by decide, by decide⟩
    · obtain ⟨_, isText, rfl⟩ := List.mem_map.mp mem
      obtain ⟨text, _, rfl⟩ := List.mem_map.mp isText
      rw [String.toList_append, Text.unbroken_append_iff]
      exact ⟨⟨by decide, unbroken_commentLine text⟩, rfl⟩
  · cases List.mem_singleton.mp mem
    exact ⟨by decide, by decide⟩

/-- What stands before the parameters is quiet, as the function's name is. -/
lemma isQuiet_headOpening (h : IsWord (Method.all.map Method.word) e.method) :
    IsQuiet e.headOpening := by
  have parts : e.headOpening =
      "export" ++ " " ++ ("const" ++ " " ++ (Naming.function e ++ " = " ++ "async ")) := by
    rw [headOpening_eq, show "export const " = "export" ++ (" " ++ ("const" ++ " ")) from rfl,
      show " = async " = " = " ++ "async " from rfl]
    simp only [String.append_assoc]
  have name : IsQuiet (Naming.function e ++ " = " ++ "async ") :=
    (Naming.isQuiet_function h).join (by decide) (by decide)
  have declared : IsQuiet ("const" ++ " " ++ (Naming.function e ++ " = " ++ "async ")) :=
    IsQuiet.join (by decide) (by decide) name
  rw [parts]
  exact IsQuiet.join (by decide) (by decide) declared

/-- What stands behind the parameters is quiet, as the type of the result is. -/
lemma isQuiet_headClosing (e : Endpoint) : IsQuiet e.headClosing := by
  have parts : e.headClosing = ": Promise" ++ "<" ++
      ("APIResponse" ++ "<" ++ (Naming.responseType e ++ ">> => \x7b" ++ "")) := by
    rw [headClosing_eq, resultType_eq, show "Promise<APIResponse<" =
      "Promise" ++ ("<" ++ ("APIResponse" ++ "<")) from rfl,
      show ">> => \x7b" = ">>" ++ " => \x7b" from rfl,
      show ": Promise" = ": " ++ "Promise" from rfl, String.append_empty]
    simp only [String.append_assoc]
  have response : IsQuiet (Naming.responseType e) := Naming.isQuiet_suffixed (by decide)
  have wrapped : IsQuiet ("APIResponse" ++ "<" ++ (Naming.responseType e ++ ">> => \x7b" ++ "")) :=
    IsQuiet.join (by decide) (by decide) (response.join (by decide) (by decide))
  rw [parts]
  exact IsQuiet.join (by decide) (by decide) wrapped

/-- The line that is audited is the one that exports the function, whatever comments precede it. -/
lemma export_prefix_auditedLine (e : Endpoint) :
    "export ".toList.isPrefixOf e.auditedLine = true := by
  have unbroken : Unbroken "export ".toList := by decide
  obtain ⟨rest, eq⟩ : ∃ rest, e.functionHead.toList = "export ".toList ++ rest := by
    rw [functionHead_eq, show "export const " = "export " ++ "const " from rfl]
    simp only [String.append_assoc]
    exact ⟨_, String.toList_append⟩
  rw [auditedLine, eq, Text.firstLine_append unbroken, List.isPrefixOf_iff_prefix]
  exact List.prefix_append _ _

/-- The first line that exports something is the head of the function, up to a line end. -/
lemma exportLine?_code (e : Endpoint) (s : Settings) :
    Audit.exportLine? (e.service s).code.toList = some e.auditedLine := by
  obtain ⟨next, rest, eq⟩ : ∃ next rest, e.functionLines s =
      TypeScript.blockComment (e.documentation.map TypeScript.commentLine) ++
        e.functionHead :: next :: rest :=
    ⟨_, _, rfl⟩
  have silent : ((TypeScript.blockComment (e.documentation.map TypeScript.commentLine)).map
      String.toList).find? (fun line => "export ".toList.isPrefixOf line) = none := by
    rw [List.find?_eq_none]
    intro _ isLine
    obtain ⟨line, mem, rfl⟩ := List.mem_map.mp isLine
    rw [(blockComment_line mem).2]
    exact Bool.false_ne_true
  have first : ∃ later, Text.lines ("\n".intercalate (e.functionHead :: next :: rest)).toList =
      e.auditedLine :: later := by
    rw [Text.toList_intercalate_cons_cons '\n' rfl, auditedLine,
      ← Text.firstLine_append_end (c := '\n') rfl]
    exact Text.exists_lines (by simp)
  obtain ⟨later, first⟩ := first
  rw [Audit.exportLine?, code_eq, eq, Text.lines_intercalate_append
    (fun line mem => (blockComment_line mem).1) (List.cons_ne_nil _ _), List.find?_append, silent,
    first, List.find?_cons_of_pos (export_prefix_auditedLine e)]
  rfl

/-! ## What is found in that line -/

/-- The parameters have a line end, and the type of the result is on a line after it. -/
def LosesPromise (e : Endpoint) : Prop :=
  ¬Unbroken e.parameterText.toList ∧ ¬"Promise<".toList <:+: e.seenParameters

/-- The word `any` is in the parameters, as far as they are seen. -/
def ShowsAny (e : Endpoint) : Prop :=
  hasWord "any".toList e.seenParameters = true

instance (e : Endpoint) : Decidable e.LosesPromise :=
  inferInstanceAs (Decidable
    (¬Unbroken e.parameterText.toList ∧ ¬"Promise<".toList <:+: e.seenParameters))

instance (e : Endpoint) : Decidable e.ShowsAny :=
  inferInstanceAs (Decidable (hasWord "any".toList e.seenParameters = true))

/-- The audited line has the whole opening, then the parameters up to their first line end. -/
lemma auditedLine_eq (h : IsWord (Method.all.map Method.word) e.method) :
    e.auditedLine = e.headOpening.toList ++
      '(' :: firstLine (e.parameterText.toList ++ ')' :: e.headClosing.toList) := by
  rw [auditedLine, toList_functionHead, Text.firstLine_append (isQuiet_headOpening h).1]
  rfl

/-- Without a line end in the parameters the whole head is seen. -/
lemma seen_of_unbroken (unbroken : Unbroken e.parameterText.toList) :
    firstLine (e.parameterText.toList ++ ')' :: e.headClosing.toList) =
      e.seenParameters ++ ')' :: e.headClosing.toList := by
  have rest : Unbroken (')' :: e.headClosing.toList) :=
    List.forall_mem_cons.mpr ⟨rfl, (isQuiet_headClosing e).1⟩
  rw [seenParameters, Text.firstLine_of_unbroken unbroken, Text.firstLine_of_unbroken]
  exact Text.unbroken_append_iff.mpr ⟨unbroken, rest⟩

/-- The type of the result is written behind the parameters. -/
lemma promise_infix_headClosing (e : Endpoint) :
    "Promise<".toList <:+: e.headClosing.toList := by
  rw [headClosing_eq, resultType_eq, show "Promise<APIResponse<" = "Promise<" ++ "APIResponse<"
    from rfl]
  simp only [String.toList_append, List.append_assoc]
  exact List.infix_append' _ _ _

/-- No function is called so that the opening reads like the type of a result. -/
lemma not_promise_infix_headOpening (h : IsWord (Method.all.map Method.word) e.method) :
    ¬"Promise<".toList <:+: e.headOpening.toList := by
  refine Text.not_infix_of_not_mem (c := '<') (by decide) ?_
  rw [headOpening_eq, String.toList_append, String.toList_append, List.mem_append, List.mem_append]
  rintro ((fixed | name) | fixed)
  · revert fixed
    decide
  · exact (Naming.isSymbol_function h).not_mem (by decide) name
  · revert fixed
    decide

/-- The audit misses the type of the result exactly where a line end in the parameters hides it. -/
lemma has_promise_auditedLine (h : IsWord (Method.all.map Method.word) e.method) :
    Audit.has "Promise<" e.auditedLine = false ↔ e.LosesPromise := by
  rw [Bool.eq_false_iff, LosesPromise, not_iff_comm, Audit.has,
    Text.occursIn_iff_infix, auditedLine_eq h, Text.infix_append_cons_iff (by decide),
    or_iff_right (not_promise_infix_headOpening h)]
  by_cases unbroken : Unbroken e.parameterText.toList
  · rw [seen_of_unbroken unbroken, Text.infix_append_cons_iff (by decide)]
    exact iff_of_true (fun loses => loses.1 unbroken) (.inr (promise_infix_headClosing e))
  · rw [Text.firstLine_append_of_broken unbroken, and_iff_right unbroken, not_not]
    rfl

/-- The audit finds the word exactly where the first line of the parameters shows it. -/
lemma hasWord_any_auditedLine (h : IsWord (Method.all.map Method.word) e.method) :
    hasWord "any".toList e.auditedLine = true ↔ e.ShowsAny := by
  rw [auditedLine_eq h, Text.hasWord_append_cons (by decide) (by decide) (by decide),
    (isQuiet_headOpening h).2, Bool.false_or, ShowsAny]
  by_cases unbroken : Unbroken e.parameterText.toList
  · rw [seen_of_unbroken unbroken, Text.hasWord_append_cons (by decide) (by decide) (by decide),
      (isQuiet_headClosing e).2, Bool.or_false]
  · rw [Text.firstLine_append_of_broken unbroken]
    rfl

end Endpoint

/-! ## Parameters -/

namespace Binding

variable {name type : String} {isOptional : Bool}

/-- What stands between the name and the type of a binding. -/
def seam (isOptional : Bool) : String :=
  (if isOptional then "?" else "") ++ ": "

/-- What stands between the name of a binding and its type is a seam. -/
lemma isSeam_seam : IsSeam (seam isOptional) := by
  cases isOptional <;> decide

/-- A binding is written as its name, a seam and its type. -/
lemma text_eq : text ⟨name, isOptional, type⟩ = name ++ seam isOptional ++ type := by
  rw [text, seam]
  simp only [String.append_assoc]

/-- The text of a binding is on one line exactly if its name and its type are. -/
lemma unbroken_text_iff : Unbroken (text ⟨name, isOptional, type⟩).toList ↔
    Unbroken name.toList ∧ Unbroken type.toList := by
  rw [text_eq, String.toList_append, String.toList_append, Text.unbroken_append_iff,
    Text.unbroken_append_iff, and_iff_left isSeam_seam.2.1]

/-- The word is found in a binding exactly if it is found in the name or in the type. -/
lemma hasWord_any_text : hasWord "any".toList (text ⟨name, isOptional, type⟩).toList = true ↔
    hasWord "any".toList name.toList = true ∨ hasWord "any".toList type.toList = true := by
  rw [text_eq, isSeam_seam.hasWord_any, Bool.or_eq_true]

/-- A binding of a quiet name and a quiet type is quiet. -/
lemma isQuiet_text (hname : IsQuiet name) (htype : IsQuiet type) :
    IsQuiet (text ⟨name, isOptional, type⟩) := by
  rw [text_eq]
  exact hname.join isSeam_seam htype

end Binding

namespace Parameter

variable {p : Parameter}

/-- The text of the type of a parameter's values. -/
def typeText (p : Parameter) : String :=
  (TypeExpr.ofParameter p).text

/-- The parameter that the service function takes for one of the path. -/
def binding (p : Parameter) : Binding :=
  ⟨Endpoint.bindingName p, false, p.typeText⟩

/-- A literal of the parameter's type has the word `any` in it. -/
def HasAnyLiteral (p : Parameter) : Prop :=
  ∃ first rest, TypeExpr.ofParameter p = .literals first rest ∧
    ∃ text ∈ first :: rest, hasWord "any".toList (TypeScript.literal text).toList = true

/-- The types of parameters that leave something open. -/
def openTypes : List String :=
  ["any", "any[]", "Record<string, any>"]

/-- A parameter has one of some texts, or a type that is the same for all texts. -/
lemma ofParameter_cases (p : Parameter) :
    (∃ first rest, TypeExpr.ofParameter p = .literals first rest) ∨
      p.typeText ∈ openTypes ++ ["string", "number", "boolean"] := by
  rw [typeText]
  unfold TypeExpr.ofParameter TypeExpr.parameterSchema TypeExpr.ofSchema
  split
  case h_1 =>
    split
    case h_1 first rest _ => exact .inl ⟨first, rest, rfl⟩
    case h_2 => exact .inr (by decide)
  all_goals exact .inr (by decide)

/-- The word `any` is in the type of a parameter where the type leaves something open, or in a
literal. -/
lemma hasWord_any_typeText :
    hasWord "any".toList p.typeText.toList = true ↔ p.typeText ∈ openTypes ∨ p.HasAnyLiteral := by
  have literals (first : String) (rest : List String) :
      hasWord "any".toList (TypeExpr.literals first rest).text.toList = true ↔
        ∃ text ∈ first :: rest,
          hasWord "any".toList (TypeScript.literal text).toList = true := by
    rw [TypeExpr.text, Text.hasWord_intercalate_iff (by decide) (by decide) (by decide) (by decide)]
    simp only [List.mem_map, exists_exists_and_eq_and]
  have fixed : ∀ type ∈ openTypes ++ ["string", "number", "boolean"],
      (hasWord "any".toList type.toList = true ↔ type ∈ openTypes) := by
    decide
  constructor
  · intro found
    rcases p.ofParameter_cases with ⟨first, rest, eq⟩ | isFixed
    · rw [typeText, eq] at found
      exact .inr ⟨first, rest, eq, (literals first rest).mp found⟩
    · exact .inl ((fixed _ isFixed).mp found)
  · rintro (isOpen | ⟨first, rest, eq, found⟩)
    · exact (fixed _ (List.mem_append_left _ isOpen)).mpr isOpen
    · rw [typeText, eq]
      exact (literals first rest).mpr found

/-- The word `any` is in a parameter of the service function: the type leaves something open, or
the word is in the identifier or in a literal. -/
def MentionsAny (p : Parameter) : Prop :=
  p.typeText ∈ openTypes ∨ hasWord "any".toList (Endpoint.bindingName p).toList = true ∨
    p.HasAnyLiteral

/-- The word is found in the binding of a parameter exactly if the parameter mentions it. -/
lemma hasWord_any_binding : hasWord "any".toList p.binding.text.toList = true ↔ p.MentionsAny := by
  rw [binding, Binding.hasWord_any_text, hasWord_any_typeText, or_left_comm, MentionsAny]

/-- Neither the identifier nor the type of the parameter has a line end in it. -/
def IsInline (p : Parameter) : Prop :=
  Unbroken (Endpoint.bindingName p).toList ∧ Unbroken p.typeText.toList

/-- The binding of a parameter is on one line exactly if its literals are. -/
lemma unbroken_binding_iff : Unbroken p.binding.text.toList ↔ p.IsInline := by
  rw [binding, Binding.unbroken_text_iff, IsInline]

end Parameter

namespace Endpoint

variable {e : Endpoint}

/-- The function's own parameters are nothing to remark on. -/
lemma signature_cases {b : Binding} (mem : b ∈ e.signature) :
    (∃ p ∈ e.pathParameters, b = p.binding) ∨ IsQuiet b.text := by
  simp only [signature, List.mem_append, List.mem_map] at mem
  rcases mem with ((⟨p, isPath, rfl⟩ | query) | body) | config
  · exact .inl ⟨p, isPath, rfl⟩
  · right
    have params : IsQuiet (Naming.paramsType e) := Naming.isQuiet_suffixed (by decide)
    have orUndefined : IsQuiet (Naming.paramsType e ++ " | undefined") := by
      rw [show " | undefined" = " | " ++ "undefined" from rfl, ← String.append_assoc]
      exact params.join (by decide) (by decide)
    split at query
    · split at query
      · cases List.mem_singleton.mp query
        exact Binding.isQuiet_text (by decide) orUndefined
      · cases List.mem_singleton.mp query
        exact Binding.isQuiet_text (by decide) params
    · cases query
  · right
    split at body
    · cases List.mem_singleton.mp body
      exact Binding.isQuiet_text (by decide) (Naming.isQuiet_suffixed (by decide))
    · cases body
  · right
    cases List.mem_singleton.mp config
    exact Binding.isQuiet_text (by decide) (by decide)

/-- Every parameter of the path has its binding in the signature. -/
lemma binding_mem_signature {p : Parameter} (mem : p ∈ e.pathParameters) :
    p.binding ∈ e.signature := by
  simp only [signature, List.append_assoc]
  exact List.mem_append_left _ (List.mem_map_of_mem mem)

/-- Only bindings of path parameters may break the line, since the others are fixed texts. -/
lemma unbroken_parameterText_iff :
    Unbroken e.parameterText.toList ↔ ∀ p ∈ e.pathParameters, Unbroken p.binding.text.toList := by
  rw [parameterText, Text.unbroken_intercalate_iff (by decide), List.forall_mem_map]
  refine ⟨fun all p mem => all _ (binding_mem_signature mem), fun paths b mem => ?_⟩
  rcases signature_cases mem with ⟨p, isPath, rfl⟩ | own
  · exact paths p isPath
  · exact own.1

/-- Only bindings of path parameters may have the word in them. -/
lemma hasWord_any_parameterText : hasWord "any".toList e.parameterText.toList = true ↔
    ∃ p ∈ e.pathParameters, hasWord "any".toList p.binding.text.toList = true := by
  rw [parameterText, Text.hasWord_intercalate_iff (by decide) (by decide) (by decide) (by decide)]
  constructor
  · rintro ⟨_, isText, found⟩
    obtain ⟨b, mem, rfl⟩ := List.mem_map.mp isText
    rcases signature_cases mem with ⟨p, isPath, rfl⟩ | own
    · exact ⟨p, isPath, found⟩
    · exact absurd found (Bool.eq_false_iff.mp own.2)
  · rintro ⟨p, isPath, found⟩
    exact ⟨_, List.mem_map_of_mem (binding_mem_signature isPath), found⟩

/-- What is seen of the parameters stands in them. -/
lemma ShowsAny.exists_parameter (h : e.ShowsAny) : ∃ p ∈ e.pathParameters, p.MentionsAny := by
  obtain ⟨p, isPath, found⟩ :=
    hasWord_any_parameterText.mp (Text.hasWord_of_firstLine (by decide) (by decide) h)
  exact ⟨p, isPath, Parameter.hasWord_any_binding.mp found⟩

/-- The parameters stand on one line when those of the path do. -/
lemma unbroken_of_pathParameters (whole : ∀ p ∈ e.pathParameters, p.IsInline) :
    Unbroken e.parameterText.toList :=
  unbroken_parameterText_iff.mpr fun p isPath => Parameter.unbroken_binding_iff.mpr (whole p isPath)

/-- With all parameters on one line the word shows exactly if one of them mentions it. -/
lemma showsAny_iff (whole : ∀ p ∈ e.pathParameters, p.IsInline) :
    e.ShowsAny ↔ ∃ p ∈ e.pathParameters, p.MentionsAny := by
  rw [ShowsAny, seenParameters, Text.firstLine_of_unbroken (unbroken_of_pathParameters whole),
    hasWord_any_parameterText]
  simp only [Parameter.hasWord_any_binding]

end Endpoint

/-! ## Remarks -/

namespace Audit

variable {r q : Remark} {l : Location} {reason : Bool} {services : List Service} {a : Artifacts}

/-- What a conditional remark consists of. -/
lemma mem_remarkIf : r ∈ remarkIf reason q ↔ reason = true ∧ r = q := by
  cases reason <;> simp [remarkIf]

/-- A condition that does not hold makes no remark. -/
lemma remarkIf_false (r : Remark) : remarkIf false r = [] :=
  rfl

/-- A remark about one service. -/
def IsAboutService : Remark → Prop
  | .badFunctionName _ | .notExported _ | .noPromise _ | .anyInSignature _ | .noErrorHandling _
  | .noComment _ | .deprecated _ => True
  | _ => False

/-- The remarks about a list of services are those about each, at its place in the list. -/
lemma mem_servicesRemarks {start : Nat} : ⟨l, r⟩ ∈ servicesRemarks start services ↔
    ∃ i service, services[i]? = some service ∧ l = endpointPlace (start + i) ∧
      r ∈ serviceRemarks service := by
  induction services generalizing start with
  | nil => simp [servicesRemarks]
  | cons first rest ih =>
    rw [servicesRemarks, List.mem_append, ih]
    constructor
    · rintro (here | ⟨i, service, isThere, place, isRemark⟩)
      · obtain ⟨_, isRemark, eq⟩ := List.mem_map.mp here
        cases eq
        exact ⟨0, first, rfl, rfl, isRemark⟩
      · exact ⟨i + 1, service, isThere, by rw [place, Nat.add_right_comm, Nat.add_assoc], isRemark⟩
    · rintro ⟨_ | i, service, isThere, place, isRemark⟩
      · cases isThere
        exact .inl (List.mem_map.mpr ⟨r, isRemark, by rw [place]; rfl⟩)
      · refine .inr ⟨i, service, isThere, ?_, isRemark⟩
        rw [place, Nat.add_right_comm, Nat.add_assoc]

/-- What is said about the declarations of types, whatever their text. -/
lemma typesRemarks_cases {text : String} (mem : r ∈ typesRemarks text) :
    r = .noTypes ∨ (∃ names, r = .repeatedInterfaces names) ∨ r = .unnamedInterface ∨
      r = .untypedMember := by
  simp only [typesRemarks, List.mem_append, mem_remarkIf] at mem
  rcases mem with ((⟨_, eq⟩ | ⟨_, eq⟩) | ⟨_, eq⟩) | ⟨_, eq⟩
  · exact .inl eq
  · exact .inr (.inl ⟨_, eq⟩)
  · exact .inr (.inr (.inl eq))
  · exact .inr (.inr (.inr eq))

/-- The remarks about one service come from its text. -/
lemma mem_remarks (about : IsAboutService r) : ⟨l, r⟩ ∈ remarks a ↔
    ∃ i service, a.services[i]? = some service ∧ l = endpointPlace i ∧
      r ∈ serviceRemarks service := by
  have functions : ⟨l, r⟩ ∉ functionNameRemarks (a.services.map Service.endpoint) := by
    intro mem
    obtain ⟨_, _, eq⟩ := List.mem_map.mp mem
    cases eq
    exact about
  have routes : ⟨l, r⟩ ∉ routeRemarks (a.services.map Service.endpoint) := by
    intro mem
    obtain ⟨_, _, eq⟩ := List.mem_map.mp mem
    cases eq
    exact about
  have types : ⟨l, r⟩ ∉ (if a.types.isEmpty then []
      else (typesRemarks a.types).map fun q => (⟨[.key "types"], q⟩ : Located Remark)) := by
    intro mem
    split at mem
    · cases mem
    · obtain ⟨_, isRemark, eq⟩ := List.mem_map.mp mem
      cases eq
      rcases typesRemarks_cases isRemark with rfl | ⟨_, rfl⟩ | rfl | rfl
      all_goals exact about
  rw [remarks, List.mem_append, List.mem_append, List.mem_append, or_iff_left types,
    or_iff_left routes, or_iff_left functions, mem_servicesRemarks]
  simp only [Nat.zero_add]

/-- What is said about a generated service: its name, its export, its error handling and its comment
are in order. -/
lemma serviceRemarks_service {e : Endpoint} (h : IsWord (Method.all.map Method.word) e.method)
    (s : Settings) : serviceRemarks (e.service s) =
      remarkIf (!has "Promise<" e.auditedLine) (.noPromise (Naming.function e)) ++
        remarkIf (hasWord "any".toList e.auditedLine) (.anyInSignature (Naming.function e)) ++
        remarkIf e.deprecated (.deprecated e.name) := by
  have holds {part : String} (line : String) (mem : line ∈ e.functionLines s)
      (inside : part.toList <:+: line.toList) : has part (e.service s).code.toList = true := by
    rw [has, Text.occursIn_iff_infix, Endpoint.code_eq]
    exact inside.trans (Text.infix_intercalate mem)
  have opens : has "/**" (e.service s).code.toList = true :=
    holds _ (List.mem_append_left _ List.mem_cons_self) List.infix_rfl
  have tries : has "try \x7b" (e.service s).code.toList = true := by
    refine holds "  try \x7b" ?_ (by decide)
    exact List.mem_append_right _ (by simp)
  have catches : has "catch" (e.service s).code.toList = true := by
    refine holds "  \x7d catch (error) \x7b" ?_ (by decide)
    exact List.mem_append_right _ (by simp)
  have name : TypeScript.isIdentifierLine (e.service s).functionName.toList = true :=
    Naming.isIdentifierLine_function h
  rw [serviceRemarks, Endpoint.exportLine?_code, opens, tries, catches, name]
  simp only [Bool.not_true, Bool.or_self, remarkIf_false, signatureRemarks, List.nil_append,
    List.append_nil]
  rfl

end Audit

namespace Document

variable {d : Document} {s : Settings} {l : Location}

/-- The remarks about services, each with the condition on the endpoint that it is made on. -/
lemma mem_remarks_iff (valid : d.report.isValid = true) {r : Remark}
    (about : Audit.IsAboutService r) :
    ⟨l, r⟩ ∈ Audit.remarks (Artifacts.ofDocument d s) ↔
      ∃ i e, d.endpoints[i]? = some e ∧ l = endpointPlace i ∧
        (e.LosesPromise ∧ r = .noPromise (Naming.function e) ∨
          e.ShowsAny ∧ r = .anyInSignature (Naming.function e) ∨
          e.deprecated = true ∧ r = .deprecated e.name) := by
  have wellFormed : d.WellFormed :=
    Document.faultFree_findings_iff.mp (Report.ofFindings_isValid.mp valid)
  have said {i : Nat} {e : Endpoint} (here : d.endpoints[i]? = some e) :
      r ∈ Audit.serviceRemarks (e.service s) ↔
        e.LosesPromise ∧ r = .noPromise (Naming.function e) ∨
          e.ShowsAny ∧ r = .anyInSignature (Naming.function e) ∨
          e.deprecated = true ∧ r = .deprecated e.name := by
    have method := (wellFormed.endpoints e (List.mem_of_getElem? here)).method
    rw [Audit.serviceRemarks_service method, List.mem_append, List.mem_append, Audit.mem_remarkIf,
      Audit.mem_remarkIf, Audit.mem_remarkIf, Bool.not_eq_true', or_assoc,
      Endpoint.has_promise_auditedLine method, Endpoint.hasWord_any_auditedLine method]
  rw [Audit.mem_remarks about]
  constructor
  · rintro ⟨i, service, isService, place, isRemark⟩
    obtain ⟨e, here, rfl⟩ := Option.map_eq_some_iff.mp (List.getElem?_map ▸ isService)
    exact ⟨i, e, here, place, (said here).mp isRemark⟩
  · rintro ⟨i, e, here, place, reason⟩
    exact ⟨i, e.service s, by rw [Artifacts.ofDocument, List.getElem?_map, here]; rfl, place,
      (said here).mpr reason⟩

/-- What an audit of the artifacts for a document says about the functions in them. -/
structure Audited (d : Document) (s : Settings) : Prop where
  /-- Each function has a valid name, is exported, handles errors and has a comment. -/
  sound : ∀ l name, ∀ r ∈ [Remark.badFunctionName name, .notExported name, .noErrorHandling name,
    .noComment name], ⟨l, r⟩ ∉ Audit.remarks (Artifacts.ofDocument d s)
  promise : ∀ l name, ⟨l, .noPromise name⟩ ∈ Audit.remarks (Artifacts.ofDocument d s) ↔
    ∃ i e, d.endpoints[i]? = some e ∧ l = endpointPlace i ∧ name = Naming.function e ∧
      e.LosesPromise
  any : ∀ l name, ⟨l, .anyInSignature name⟩ ∈ Audit.remarks (Artifacts.ofDocument d s) ↔
    ∃ i e, d.endpoints[i]? = some e ∧ l = endpointPlace i ∧ name = Naming.function e ∧ e.ShowsAny
  mentioned : ∀ e ∈ d.endpoints, e.ShowsAny → ∃ p ∈ e.pathParameters, p.MentionsAny
  inline : ∀ e ∈ d.endpoints, (∀ p ∈ e.pathParameters, p.IsInline) →
    ¬e.LosesPromise ∧ (e.ShowsAny ↔ ∃ p ∈ e.pathParameters, p.MentionsAny)

/-- An audit of the artifacts for a valid document remarks on no name, export, error handling or
comment of a function. It misses the type of the result exactly when a line end in the parameters
hides it, which takes a parameter of the path that is not on one line; and where it finds the word
`any`, the word is in a parameter of the path, in its type, its identifier or a literal. -/
theorem audited (valid : d.report.isValid = true) (s : Settings) : d.Audited s where
  sound l name r bad mem := by
    simp only [List.mem_cons, List.not_mem_nil, or_false] at bad
    have about : Audit.IsAboutService r := by
      rcases bad with rfl | rfl | rfl | rfl <;> exact trivial
    obtain ⟨_, _, _, _, ⟨_, rfl⟩ | ⟨_, rfl⟩ | ⟨_, rfl⟩⟩ := (mem_remarks_iff valid about).mp mem
    all_goals simp at bad
  promise l name := by
    rw [mem_remarks_iff valid (r := .noPromise name) trivial]
    simp [and_comm]
  any l name := by
    rw [mem_remarks_iff valid (r := .anyInSignature name) trivial]
    simp [and_comm]
  mentioned e _ shows := shows.exists_parameter
  inline e _ whole :=
    ⟨fun loses => loses.1 (Endpoint.unbroken_of_pathParameters whole), Endpoint.showsAny_iff whole⟩

/-- The endpoint `item` whose path takes one of some texts. -/
def itemKind (kinds : List String) : Endpoint :=
  let e := Endpoint.withPath "/items/\x7bkind\x7d" ["kind"]
  { e with parameters := e.parameters.map fun ps => ps.map fun p => { p with enum := some kinds } }

/-- A document with this endpoint. -/
def itemKinds (kinds : List String) : Document :=
  { withPath "/item" [] with endpoints := [itemKind kinds] }

/-- A valid document with a text that has a line end in it, and the text `any`, which is no type. -/
theorem audited_itemKinds :
    (itemKinds ["any", "a\u2028b"]).report.isValid = true ∧
      (itemKind ["any", "a\u2028b"]).signature.map Binding.text =
        ["kind: 'any' | 'a\u2028b'", "config?: RequestConfig"] ∧
      (⟨endpointPlace 0, .noPromise "getItem"⟩ : Located Remark) ∈
        Audit.remarks (Artifacts.ofDocument (itemKinds ["any", "a\u2028b"]) Settings.default) ∧
      (⟨endpointPlace 0, .anyInSignature "getItem"⟩ : Located Remark) ∈
        Audit.remarks (Artifacts.ofDocument (itemKinds ["any", "a\u2028b"]) Settings.default) := by
  have valid : (itemKinds ["any", "a\u2028b"]).report.isValid = true := by decide +kernel
  have name : "getItem" = Naming.function (itemKind ["any", "a\u2028b"]) := by decide +kernel
  have audited := audited valid Settings.default
  refine ⟨valid, by decide +kernel, (audited.promise _ _).mpr ?_, (audited.any _ _).mpr ?_⟩
  · exact ⟨0, itemKind ["any", "a\u2028b"], rfl, rfl, name, by decide +kernel⟩
  · exact ⟨0, itemKind ["any", "a\u2028b"], rfl, rfl, name, by decide +kernel⟩

end Document

end ClientSynth
