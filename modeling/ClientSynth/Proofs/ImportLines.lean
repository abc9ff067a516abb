import Mathlib.Data.List.Chain
import ClientSynth.Proofs.ClientCalls
import ClientSynth.Proofs.SafeNames
import ClientSynth.Proofs.TypesAudit

/-!
# Lines that import types

Which lines of the file of services import from the file of types? A part of the file may bring
several lines, as a line feed in a text that is quoted as it is starts another one. An import starts
with an `i`, so the texts to look at are those in which a line feed comes before that letter:
`Text.NoLaterImport` says that there is none, and it is kept where texts meet unless the one ends
with a line feed and the other starts with the letter. The printer writes literals and comments on
one line, and an identifier that is kept with a line feed has a colon or a question mark behind it.
So no line of a declaration, of a comment or of the head of a function starts an import
(`TypeScript.Declaration.noImport_text`, `Endpoint.noImport_functionHead`). What is left are the
lines that quote a text as it is, `Document.quotingLines`, and `Document.mem_rows_servicesFile_iff`
finds every import in one of them or in the one line of imports that is meant for types.
`Artifacts.types_emitted` puts this together with what the other lines mention and declare, for
every document and all settings.
-/

namespace ClientSynth

open TypeScript

/-! ## Lines after the first -/

namespace Text

/-- No line feed in a text is followed by the letter that an import starts with. -/
def NoLaterImport (text : List Char) : Prop :=
  text.IsChain fun c next => c = '\n' → next ≠ 'i'

section NoLaterImport

variable {xs ys text : List Char} {c : Char}

/-- A text on one line has no later line. -/
lemma noLaterImport_of_not_mem (single : '\n' ∉ text) : NoLaterImport text := by
  refine List.Pairwise.isChain (List.pairwise_of_forall_mem_list ?_)
  rintro c mem _ _ rfl
  exact absurd mem single

/-- Texts keep clear of imports together unless a line feed of the one meets the letter of the
other. -/
lemma NoLaterImport.append (before : NoLaterImport xs) (after : NoLaterImport ys)
    (meets : xs.getLast? ≠ some '\n' ∨ ys.head? ≠ some 'i') : NoLaterImport (xs ++ ys) := by
  refine List.isChain_append.mpr ⟨before, after, ?_⟩
  rintro c ends next starts rfl rfl
  exact meets.elim (fun h => h ends) fun h => h starts

/-- A text on one line may stand before any text. -/
lemma NoLaterImport.after (single : '\n' ∉ xs) (after : NoLaterImport ys) :
    NoLaterImport (xs ++ ys) :=
  (noLaterImport_of_not_mem single).append after
    (.inl fun ends => single (List.mem_of_getLast? ends))

/-- A character other than a line feed may stand before any text. -/
lemma NoLaterImport.cons (other : c ≠ '\n') (after : NoLaterImport text) :
    NoLaterImport (c :: text) :=
  List.isChain_cons.mpr ⟨fun _ _ feed => absurd feed other, after⟩

/-- A later line of a text does not start with the letter, and the first one only if the text does.
-/
lemma head?_splitAt (clear : NoLaterImport text) :
    ∃ first later, splitAt '\n' text = first :: later ∧
      (first.head? = some 'i' → text.head? = some 'i') ∧
        ∀ piece ∈ later, piece.head? ≠ some 'i' := by
  induction text with
  | nil => exact ⟨[], [], rfl, id, List.forall_mem_nil _⟩
  | cons c rest ih =>
    obtain ⟨apart, clear⟩ := List.isChain_cons.mp clear
    obtain ⟨first, later, eq, starts, others⟩ := ih clear
    rw [splitAt]
    split
    case isTrue feed =>
      refine ⟨[], splitAt '\n' rest, rfl, fun found => absurd found (by simp), ?_⟩
      rw [eq, List.forall_mem_cons]
      exact ⟨fun letter => apart 'i' (starts letter) feed rfl, others⟩
    case isFalse =>
      rw [eq]
      exact ⟨c :: first, later, rfl, id, others⟩

end NoLaterImport

/-- No line of a text starts with the letter that an import starts with. -/
def NoImport (text : String) : Prop :=
  ∀ row ∈ rows text, row.toList.head? ≠ some 'i'

section NoImport

variable {text front back : String} {texts : List String}

/-- A text has no line that starts an import if neither it nor a later line does. -/
lemma noImport_of_clear (clear : NoLaterImport text.toList) (other : text.toList.head? ≠ some 'i') :
    NoImport text := by
  obtain ⟨first, later, eq, starts, others⟩ := head?_splitAt clear
  rw [NoImport, rows, eq, List.forall_mem_map, List.forall_mem_cons]
  simp only [String.toList_ofList]
  exact ⟨fun letter => other (starts letter), others⟩

/-- A line that starts otherwise is no import. -/
lemma noImport_of_single (single : '\n' ∉ text.toList) (other : text.toList.head? ≠ some 'i') :
    NoImport text :=
  noImport_of_clear (noLaterImport_of_not_mem single) other

/-- A literal on one line that starts otherwise is no import. -/
lemma noImport_of_fixed {chars : List Char} (single : '\n' ∉ chars)
    (other : chars.head? ≠ some 'i') : NoImport (String.ofList chars) := by
  apply noImport_of_single <;> rwa [String.toList_ofList]

/-- An empty line starts no import. -/
lemma noImport_empty : NoImport "" :=
  noImport_of_single (by decide) (by decide)

/-- Texts with a line feed between them have the lines of both. -/
lemma NoImport.break (before : NoImport front) (after : NoImport back) :
    NoImport (front ++ "\n" ++ back) := by
  rw [NoImport, rows_append_break, List.forall_mem_append]
  exact ⟨before, after⟩

/-- The lines of texts that are joined by line feeds are those of the texts. -/
lemma rows_joined (some : texts ≠ []) : rows ("\n".intercalate texts) = texts.flatMap rows := by
  obtain ⟨first, rest, rfl⟩ := List.exists_cons_of_ne_nil some
  have ended := rows_append_break ("\n".intercalate (first :: rest)) ""
  have parts := rows_unlines_append (first :: rest) []
  rw [String.append_empty, intercalate_lines] at ended
  rw [List.append_nil, ended] at parts
  exact List.append_cancel_right parts

/-- Texts that are joined by line feeds have no line that starts an import if none of them has. -/
lemma noImport_joined (each : ∀ text ∈ texts, NoImport text) :
    NoImport ("\n".intercalate texts) := by
  rcases eq_or_ne texts [] with rfl | some
  · exact noImport_of_single (by decide) (by decide)
  · rw [NoImport, rows_joined some]
    intro row mem
    obtain ⟨text, isText, isRow⟩ := List.mem_flatMap.mp mem
    exact each text isText row isRow

/-- Texts with a comma and a blank between neighbours keep clear of imports if all of them do. -/
lemma noLaterImport_joined (each : ∀ text ∈ texts, NoLaterImport text.toList) :
    NoLaterImport (", ".intercalate texts).toList := by
  induction texts with
  | nil => exact noLaterImport_of_not_mem (by decide)
  | cons first texts ih =>
    rw [List.forall_mem_cons] at each
    cases texts with
    | nil => simpa using each.1
    | cons next texts =>
      have chars : (", ".intercalate (first :: next :: texts)).toList =
          first.toList ++ ',' :: ' ' :: (", ".intercalate (next :: texts)).toList := by
        rw [String.intercalate_cons_cons]
        simp
      rw [chars]
      exact each.1.append (((ih each.2).cons (by decide)).cons (by decide)) (.inr nofun)

end NoImport

end Text

/-! ## Types -/

namespace TypeScript

open Text (NoLaterImport NoImport)

/-- A literal is on one line. -/
lemma break_not_mem_literal (s : String) : '\n' ∉ (literal s).toList := by
  have body := break_not_mem_flatMap (.inl rfl) s.toList
  rw [literal, String.toList_ofList, literalChars]
  simpa using body

/-- A line feed in a kept identifier is its last character. -/
lemma noLaterImport_of_line {name : String} (line : isIdentifierLine name.toList = true) :
    NoLaterImport name.toList := by
  rcases isIdentifierLine_iff.mp line with whole | ⟨stem, isStem, eq⟩
  · exact Text.noLaterImport_of_not_mem (break_not_mem_of_isIdentifier whole)
  · rw [eq]
    have single := Text.noLaterImport_of_not_mem (break_not_mem_of_isIdentifier isStem)
    exact single.append (List.isChain_singleton _) (.inr (by decide))

/-- A key is an identifier, with a line feed at its end at most, or it is quoted. -/
lemma noLaterImport_memberKey (name : String) : NoLaterImport (memberKey name).toList := by
  rw [memberKey]
  split
  case isTrue line => exact noLaterImport_of_line line
  case isFalse => exact Text.noLaterImport_of_not_mem (break_not_mem_literal name)

/-- The key of a member is followed by a question mark or a colon. -/
lemma noLaterImport_memberChars (key : String) (isOptional : Bool) {x : TypeExpr}
    (type : NoLaterImport x.text.toList) : NoLaterImport (memberChars (key, isOptional, x)) := by
  have colon : NoLaterImport (colonChars isOptional ++ x.text.toList) := by
    refine type.after ?_
    cases isOptional <;> decide
  refine (noLaterImport_memberKey key).append colon (.inr ?_)
  cases isOptional <;> nofun

/-- The members behind the first start no import, as each is followed by a semicolon. -/
lemma noLaterImport_laterMembers {ms : List (String × Bool × TypeExpr)}
    (types : ∀ m ∈ ms, NoLaterImport m.2.2.text.toList) {rest : List Char}
    (after : NoLaterImport rest) (other : rest.head? ≠ some 'i') :
    NoLaterImport (laterMembers ms ++ rest) := by
  induction ms with
  | nil => exact after
  | cons m ms ih =>
    rw [List.forall_mem_cons] at types
    have next : (laterMembers ms ++ rest).head? ≠ some 'i' := by
      cases ms with
      | nil => exact other
      | cons _ _ => nofun
    have chars : laterMembers (m :: ms) ++ rest =
        ';' :: ' ' :: (memberChars m ++ (laterMembers ms ++ rest)) := by
      simp [laterMembers]
    rw [chars]
    exact (((noLaterImport_memberChars m.1 m.2.1 types.1).append (ih types.2) (.inr next)).cons
      (by decide)).cons (by decide)

mutual

/-- No line of a type but its first starts an import. -/
theorem noLaterImport_text : (x : TypeExpr) → NoLaterImport x.text.toList
  | .any | .number | .boolean | .string | .record => Text.noLaterImport_of_not_mem (by decide)
  | .literals first rest => by
    refine Text.noLaterImport_of_not_mem (Text.not_mem_intercalate (by decide) ?_)
    exact List.forall_mem_map.mpr fun s _ => break_not_mem_literal s
  | .array item => by
    have type := noLaterImport_text item
    rw [toList_array]
    split
    case isTrue =>
      exact (type.append (Text.noLaterImport_of_not_mem (by decide)) (.inr (by decide))).cons
        (by decide)
    case isFalse =>
      exact type.append (Text.noLaterImport_of_not_mem (by decide)) (.inr (by decide))
  | .object [] => Text.noLaterImport_of_not_mem (by decide)
  | .object (m :: ms) => by
    have types := noLaterImport_members (m :: ms)
    rw [List.forall_mem_cons] at types
    have ending : NoLaterImport [' ', '\x7d'] := Text.noLaterImport_of_not_mem (by decide)
    have later := noLaterImport_laterMembers types.2 ending (by decide)
    have next : (laterMembers ms ++ [' ', '\x7d']).head? ≠ some 'i' := by
      cases ms <;> nofun
    rw [toList_object]
    exact (((noLaterImport_memberChars m.1 m.2.1 types.1).append later (.inr next)).cons
      (by decide)).cons (by decide)

/-- The types of members start no import on a later line, by induction over the members. -/
theorem noLaterImport_members : (ms : List (String × Bool × TypeExpr)) →
    ∀ m ∈ ms, NoLaterImport m.2.2.text.toList
  | [], _, mem => nomatch mem
  | (_, _, x) :: ms, m, mem => by
    have here := noLaterImport_text x
    have later := noLaterImport_members ms
    rcases List.mem_cons.mp mem with rfl | mem
    · exact here
    · exact later m mem

end

/-! ## Declarations -/

/-- A comment is on one line, so no line of it is an import. -/
lemma noImport_lineComment (s : String) : NoImport (lineComment s) := by
  have whole : lineComment s = "/** " ++ commentLine s ++ " */" := rfl
  rw [whole]
  refine Text.noImport_of_single (Text.not_mem_around (by decide) (break_not_mem_commentLine s)
    (by decide)) ?_
  rw [Text.head?_append (Text.head?_append (c := '/') rfl)]
  decide

/-- An indented text starts with a blank. -/
lemma noImport_indented {text : String} (clear : NoLaterImport text.toList) :
    NoImport ("  " ++ text) := by
  have chars : ("  " ++ text).toList = ' ' :: ' ' :: text.toList := by
    rw [String.toList_append]
    rfl
  refine Text.noImport_of_clear ?_ ?_
  · rw [chars]
    exact (clear.cons (by decide)).cons (by decide)
  · rw [chars]
    nofun

/-- A member starts no import on a later line, since its key is followed by a colon. -/
lemma noLaterImport_line (m : Member) : NoLaterImport m.line.toList := by
  rw [Member.line, String.toList_append, toList_memberText]
  exact (noLaterImport_memberChars _ _ (noLaterImport_text _)).append
    (Text.noLaterImport_of_not_mem (by decide)) (.inr (by decide))

/-- No line of a member is an import, as it starts with a blank. -/
lemma Member.noImport_text (m : Member) : NoImport m.text := by
  rcases m.isDescribed with ⟨_, eq⟩ | ⟨_, comment, _, eq, isComment⟩
  · rw [eq]
    exact noImport_indented (noLaterImport_line m)
  · rw [eq]
    have single : '\n' ∉ comment.toList := by
      rw [isComment.chars]
      exact Text.not_mem_around (by decide) (break_not_mem_commentLine _) (by decide)
    exact (noImport_indented (Text.noLaterImport_of_not_mem single)).break
      (noImport_indented (noLaterImport_line m))

/-- The body of an alias is a type, or it names one. -/
lemma AliasBody.noLaterImport_text (body : AliasBody)
    (items : ∀ item, body = .listOf item → Naming.IsSymbol item) :
    NoLaterImport body.text.toList := by
  cases body with
  | type x => exact TypeScript.noLaterImport_text x
  | listOf item =>
    exact Text.noLaterImport_of_not_mem
      (Text.not_mem_append ((items item rfl).not_mem (by decide)) (by decide))
  | unknown => exact Text.noLaterImport_of_not_mem (by decide)

namespace Declaration

/-- No line of an interface is an import. -/
lemma noImport_interface {name : String} (isSymbol : Naming.IsSymbol name) (members : List Member) :
    NoImport (interfaceText name members) := by
  have parts : interfaceText name members = openingLine name ++ "\n" ++
      ("\n".intercalate (members.map Member.text) ++ "\n" ++ "\x7d") := by
    have brace : " \x7b\n" = " \x7b" ++ "\n" := rfl
    have closing : "\n\x7d" = "\n" ++ "\x7d" := rfl
    rw [interfaceText_eq, openingLine_eq, brace, closing]
    simp only [String.append_assoc]
  have opening : NoImport (openingLine name) := by
    refine Text.noImport_of_single (Text.not_mem_around (by decide) (isSymbol.not_mem (by decide))
      (by decide)) ?_
    rw [openingLine_eq, Text.head?_append (Text.head?_append (c := 'e') rfl)]
    decide
  have closing : NoImport "\x7d" := Text.noImport_of_single (by decide) (by decide)
  have inside : NoImport ("\n".intercalate (members.map Member.text)) :=
    Text.noImport_joined (List.forall_mem_map.mpr fun m _ => m.noImport_text)
  rw [parts]
  exact opening.break (inside.break closing)

/-- No line of an alias is an import. -/
lemma noImport_alias {name : String} (isSymbol : Naming.IsSymbol name) {body : AliasBody}
    (clear : NoLaterImport body.text.toList) : NoImport (Declaration.alias name body).text := by
  have shown : (Declaration.alias name body).text =
      "export type " ++ name ++ " = " ++ (body.text ++ ";") := String.append_assoc ..
  have opening : '\n' ∉ ("export type " ++ name ++ " = ").toList :=
    Text.not_mem_around (by decide) (isSymbol.not_mem (by decide)) (by decide)
  have ended : NoLaterImport (body.text ++ ";").toList := by
    rw [String.toList_append]
    exact clear.append (Text.noLaterImport_of_not_mem (by decide)) (.inr (by decide))
  rw [shown]
  refine Text.noImport_of_clear ?_ ?_
  · rw [String.toList_append]
    exact ended.after opening
  · rw [Text.head?_append (Text.head?_append (Text.head?_append (c := 'e') rfl))]
    decide

/-- No line of a declaration starts an import. -/
theorem noImport_text (d : Declaration) (named : d.IsNamed) : NoImport d.text := by
  obtain ⟨comment, name, members⟩ | ⟨name, body⟩ := d
  · cases comment with
    | none => exact noImport_interface named members
    | some comment =>
      have shown : (Declaration.interface (some comment) name members).text =
          lineComment comment ++ "\n" ++ interfaceText name members := rfl
      rw [shown]
      exact (noImport_lineComment comment).break (noImport_interface named members)
  · cases body with
    | listOf item =>
      refine noImport_alias named.1 (AliasBody.noLaterImport_text _ fun other same => ?_)
      cases same
      exact named.2
    | type x => exact noImport_alias named (noLaterImport_text x)
    | unknown => exact noImport_alias named (Text.noLaterImport_of_not_mem (by decide))

end Declaration

end TypeScript

open Text (NoLaterImport NoImport)

/-! ## Service functions -/

namespace Endpoint

variable {e : Endpoint} {s : Settings}

/-- The lines of a service function: its comment, its head, and a body with one call. -/
lemma functionLines_eq (e : Endpoint) (s : Settings) :
    e.functionLines s = blockComment (e.documentation.map commentLine) ++
      [e.functionHead, "  try \x7b", e.callLine s, "    return response;",
        "  \x7d catch (error) \x7b", "    throw error;", "  \x7d", "\x7d;"] := by
  rw [callLine_eq]
  rfl

/-- An identifier is on one line, or it is a name that is kept with a line feed at its end. -/
lemma noLaterImport_identifier (name : String) :
    NoLaterImport (Naming.identifier name).toList := by
  by_cases broken : EndsLine name.toList
  · rw [Naming.identifier_of_endsLine broken]
    exact noLaterImport_of_line (isIdentifierLine_iff.mpr (.inr broken))
  · have usable := Naming.isUsable_unreserved
      (Naming.isIdentifier_startSafe (Naming.hasParts_parameterStem broken))
    exact Text.noLaterImport_of_not_mem (break_not_mem_of_isIdentifier usable.1)

/-- A parameter of a function has a colon or a question mark behind its identifier. -/
lemma noLaterImport_binding {b : Binding} (mem : b ∈ e.signature) :
    NoLaterImport b.text.toList := by
  rcases signature_cases mem with ⟨p, _, rfl⟩ | quiet
  · have chars : p.binding.text.toList =
        (Naming.identifier (p.name.getD "")).toList ++ ':' :: ' ' :: p.typeText.toList := by
      have shown : p.binding.text =
          Naming.identifier (p.name.getD "") ++ "" ++ ": " ++ p.typeText := rfl
      rw [shown]
      simp
    rw [chars]
    refine (noLaterImport_identifier _).append ?_ (.inr nofun)
    exact ((noLaterImport_text _).cons (by decide)).cons (by decide)
  · exact Text.noLaterImport_of_not_mem fun feed => absurd (quiet.1 _ feed) (by decide)

/-- For a method that has a verb no line of a function's head starts an import. -/
lemma noImport_functionHead (isVerb : Naming.verb (e.method.getD "") ∈ Naming.verbs) :
    NoImport e.functionHead := by
  have isSymbol := Naming.isSymbol_function_of_verb isVerb
  have opening : '\n' ∉ ("export const " ++ Naming.function e ++ " = async (").toList :=
    Text.not_mem_around (by decide) (isSymbol.not_mem (by decide)) (by decide)
  have parameters : NoLaterImport (", ".intercalate (e.signature.map Binding.text)).toList :=
    Text.noLaterImport_joined (List.forall_mem_map.mpr fun _ mem => noLaterImport_binding mem)
  have result : '\n' ∉ ("): " ++ e.resultType ++ " => \x7b").toList := by
    have response : Naming.IsSymbol (Naming.responseType e) :=
      Naming.isSymbol_suffixed (by decide)
    rw [resultType_eq]
    exact Text.not_mem_around (by decide)
      (Text.not_mem_around (by decide) (response.not_mem (by decide)) (by decide)) (by decide)
  have shown : e.functionHead = "export const " ++ Naming.function e ++ " = async (" ++
      (", ".intercalate (e.signature.map Binding.text) ++
        ("): " ++ e.resultType ++ " => \x7b")) := by
    rw [functionHead_eq]
    simp only [String.append_assoc]
  rw [shown]
  refine Text.noImport_of_clear ?_ ?_
  · rw [String.toList_append, String.toList_append (t := "): " ++ _ ++ _)]
    refine (parameters.append (Text.noLaterImport_of_not_mem result) (.inr ?_)).after opening
    rw [Text.head?_append (Text.head?_append (c := ')') rfl)]
    decide
  · rw [Text.head?_append (Text.head?_append (Text.head?_append (c := 'e') rfl))]
    decide

/-- The lines of a service function that quote texts as they are: the call, with the client's name
and the path, and the head for a method without a verb. -/
def quotingLines (e : Endpoint) (s : Settings) : List String :=
  if Naming.verb (e.method.getD "") ∈ Naming.verbs then [e.callLine s]
  else [e.functionHead, e.callLine s]

/-- The lines of a service function that are the same for all endpoints start no import. -/
lemma noImport_fixedLines : ∀ line ∈ ["  try \x7b", "    return response;",
    "  \x7d catch (error) \x7b", "    throw error;", "  \x7d", "\x7d;"], NoImport line := by
  simp only [List.forall_mem_cons]
  refine ⟨?_, ?_, ?_, ?_, ?_, ?_, List.forall_mem_nil _⟩
  all_goals exact Text.noImport_of_fixed (by decide) (by decide)

/-- No line of a documentation comment starts an import. -/
lemma noImport_documentation :
    ∀ line ∈ blockComment (e.documentation.map commentLine), NoImport line := by
  have lines : blockComment (e.documentation.map commentLine) =
      "/**" :: ((e.documentation.map commentLine).map (fun text => " * " ++ text) ++ [" */"]) := rfl
  rw [lines, List.forall_mem_cons, List.forall_mem_append, List.forall_mem_singleton]
  refine ⟨Text.noImport_of_single (by decide) (by decide), ?_,
    Text.noImport_of_single (by decide) (by decide)⟩
  rw [List.map_map, List.forall_mem_map]
  intro text _
  refine Text.noImport_of_single
    (Text.not_mem_append (by decide) (break_not_mem_commentLine text)) ?_
  rw [Function.comp_apply, Text.head?_append (c := ' ') rfl]
  decide

/-- An import in a service function is in one of the lines that quote texts as they are. -/
lemma mem_rows_code_iff {row : String} (letter : row.toList.head? = some 'i') :
    row ∈ Text.rows (e.service s).code ↔ ∃ line ∈ e.quotingLines s, row ∈ Text.rows line := by
  have call : e.callLine s ∈ e.quotingLines s := by
    unfold quotingLines
    split <;> simp
  rw [code_eq, Text.rows_joined (by rw [functionLines_eq]; simp), List.mem_flatMap,
    functionLines_eq]
  constructor
  · rintro ⟨line, isLine, mem⟩
    rcases List.mem_append.mp isLine with comment | body
    · exact absurd letter (noImport_documentation line comment row mem)
    · by_cases isCall : line = e.callLine s
      · exact ⟨_, call, isCall ▸ mem⟩
      by_cases isHead : line = e.functionHead
      · rw [isHead] at mem
        have noVerb : Naming.verb (e.method.getD "") ∉ Naming.verbs :=
          fun isVerb => noImport_functionHead isVerb row mem letter
        refine ⟨e.functionHead, ?_, mem⟩
        rw [quotingLines, if_neg noVerb]
        exact List.mem_cons_self
      · have fixed : line ∈ ["  try \x7b", "    return response;", "  \x7d catch (error) \x7b",
            "    throw error;", "  \x7d", "\x7d;"] := by
          simpa [isCall, isHead] using body
        exact absurd letter (noImport_fixedLines line fixed row mem)
  · rintro ⟨line, quotes, mem⟩
    refine ⟨line, List.mem_append_right _ ?_, mem⟩
    unfold quotingLines at quotes
    split at quotes
    · simp [List.mem_singleton.mp quotes]
    · rcases List.mem_pair.mp quotes with rfl | rfl <;> simp

end Endpoint

/-! ## The file of services -/

/-- The lines that import the client. -/
def clientImports (s : Settings) : List String :=
  (importLines [] s).take 2

/-- The lines for the client come first, and then the line for types if there is one. -/
lemma importLines_eq_append (names : List String) (s : Settings) :
    importLines names s =
      clientImports s ++ if s.includeTypes then [typesImport names] else [] := by
  rw [clientImports, importLines_eq, importLines_eq]
  split <;> rfl

namespace Document

variable {d : Document} {s : Settings} {row : String}

/-- The line in the head of a file that quotes the title and the version. -/
def generatedLine (d : Document) : String :=
  " * Generated from " ++ d.titleText ++ " v" ++ d.version.getD "" ++ ". Do not edit by hand."

/-- The lines of the file of services that quote texts as they are: one in its head with the title
and the version, those that import the client, with the settings, and those of the functions. -/
def quotingLines (d : Document) (s : Settings) : List String :=
  d.generatedLine :: (clientImports s ++ d.endpoints.flatMap fun e => e.quotingLines s)

/-- What some quoting line has is had by the line of the title, a line for the client or a line of
an endpoint. -/
lemma exists_mem_quotingLines {P : String → Prop} :
    (∃ line ∈ d.quotingLines s, P line) ↔ P d.generatedLine ∨ (∃ line ∈ clientImports s, P line) ∨
      ∃ line ∈ d.endpoints.flatMap (fun e => e.quotingLines s), P line := by
  simp only [quotingLines, List.mem_cons, List.mem_append, or_and_right, exists_or, exists_eq_left]

/-- Only one line in the head of a file may bring another one that starts an import. -/
lemma mem_rows_fileHead_iff (letter : row.toList.head? = some 'i') :
    row ∈ (d.fileHead "API service functions").flatMap Text.rows ↔
      row ∈ Text.rows d.generatedLine := by
  have lines : d.fileHead "API service functions" =
      ["/**", " * API service functions", d.generatedLine, " */"] := rfl
  have fixed : ∀ line ∈ ["/**", " * API service functions", " */"], NoImport line := by
    simp only [List.forall_mem_cons]
    refine ⟨?_, ?_, ?_, List.forall_mem_nil _⟩
    all_goals exact Text.noImport_of_fixed (by decide) (by decide)
  have absent : ∀ line ∈ ["/**", " * API service functions", " */"], row ∉ Text.rows line :=
    fun line isLine mem => fixed line isLine row mem letter
  simp only [List.forall_mem_cons] at absent
  simp [lines, absent]

/-- The lines that import the client may bring others, and the types that are imported are on a line
of their own. -/
lemma mem_rows_importLines_iff {names : List String} (symbols : ∀ n ∈ names, Naming.IsSymbol n) :
    row ∈ (importLines names s).flatMap Text.rows ↔
      (∃ line ∈ clientImports s, row ∈ Text.rows line) ∨
        s.includeTypes = true ∧ row = typesImport names := by
  have inside : '\n' ∉ (", ".intercalate names).toList :=
    Text.not_mem_intercalate (by decide) fun n mem => (symbols n mem).not_mem (by decide)
  have single : Text.rows (typesImport names) = [typesImport names] := by
    rw [typesImport_eq]
    exact Text.rows_eq_self (Text.not_mem_around (by decide) inside (by decide))
  rw [importLines_eq_append, List.flatMap_append, List.mem_append, List.mem_flatMap]
  refine or_congr_right ?_
  split
  case isTrue on => simp [single, on]
  case isFalse off => simp [off]

/-- No line of the declarations in the file of services starts an import. -/
lemma not_mem_rows_types (letter : row.toList.head? = some 'i') {types : List String}
    (each : ∀ text ∈ types, NoImport text) :
    row ∉ (if types.isEmpty then [] else ["", "// Types"] ++ spacedOut types).flatMap
      Text.rows := by
  rw [List.mem_flatMap]
  rintro ⟨part, isPart, mem⟩
  suffices NoImport part from this row mem letter
  split at isPart
  · cases isPart
  · rcases List.mem_append.mp isPart with label | isType
    · rcases List.mem_pair.mp label with rfl | rfl
      · exact Text.noImport_empty
      · exact Text.noImport_of_single (by decide) (by decide)
    · obtain ⟨text, isText, mem⟩ := List.mem_flatMap.mp isType
      rcases List.mem_pair.mp mem with rfl | rfl
      · exact Text.noImport_empty
      · exact each _ isText

/-- An import in the functions is in one of the lines of them that quote texts as they are. -/
lemma mem_rows_codes_iff (letter : row.toList.head? = some 'i') :
    row ∈ (spacedOut ((d.endpoints.map fun e => e.service s).map Service.code)).flatMap Text.rows ↔
      ∃ line ∈ d.endpoints.flatMap (fun e => e.quotingLines s), row ∈ Text.rows line := by
  have blank : row ∉ Text.rows "" := fun mem => Text.noImport_empty row mem letter
  simp only [spacedOut, List.map_map, List.flatMap_map, List.mem_flatMap, Function.comp_apply]
  constructor
  · rintro ⟨part, ⟨e, isEndpoint, isPart⟩, mem⟩
    rcases List.mem_pair.mp isPart with rfl | rfl
    · exact absurd mem blank
    · obtain ⟨line, quotes, mem⟩ := (Endpoint.mem_rows_code_iff letter).mp mem
      exact ⟨line, ⟨e, isEndpoint, quotes⟩, mem⟩
  · rintro ⟨line, ⟨e, isEndpoint, quotes⟩, mem⟩
    exact ⟨_, ⟨e, isEndpoint, List.mem_pair.mpr (.inr rfl)⟩,
      (Endpoint.mem_rows_code_iff letter).mpr ⟨line, quotes, mem⟩⟩

/-- An import in the file of services is the one of types, where there is a file of them, or it is
in one of the lines that quote texts as they are. -/
theorem mem_rows_servicesFile_iff (letter : row.toList.head? = some 'i') :
    row ∈ Text.rows (servicesFile d (d.endpoints.map fun e => e.service s) s) ↔
      (s.includeTypes = true ∧
          row = typesImport (Service.fileTypes (d.endpoints.map fun e => e.service s))) ∨
        ∃ line ∈ d.quotingLines s, row ∈ Text.rows line := by
  have blank : row ∉ Text.rows "" := fun mem => Text.noImport_empty row mem letter
  -- Types that are declared in place start no import, so that only three parts are left.
  have types : ∀ text ∈ Service.inlinedTypes (d.endpoints.map fun e => e.service s) s,
      NoImport text := by
    intro text mem
    unfold Service.inlinedTypes at mem
    split at mem
    · cases mem
    · obtain ⟨_, isService, isText⟩ := List.mem_flatMap.mp mem
      obtain ⟨e, _, rfl⟩ := List.mem_map.mp isService
      obtain ⟨declaration, isDeclaration, rfl⟩ := List.mem_map.mp isText
      exact declaration.noImport_text (Endpoint.isNamed_of_mem isDeclaration)
  have parts := Text.rows_unlines_append
    (d.servicesParts (d.endpoints.map fun e => e.service s) s) []
  rw [List.append_nil] at parts
  have last : row ∉ Text.rows (Text.unlines []) := blank
  have between : row ∉ [""].flatMap Text.rows := by simpa using blank
  rw [servicesFile_eq, parts, List.mem_append, or_iff_left last]
  simp only [servicesParts, List.flatMap_append, List.mem_append]
  rw [mem_rows_fileHead_iff letter, or_iff_left between,
    mem_rows_importLines_iff Service.isSymbol_fileTypes,
    or_iff_left (not_mem_rows_types letter types), mem_rows_codes_iff letter]
  rw [exists_mem_quotingLines]
  constructor
  · rintro ((generated | client | meant) | function)
    · exact .inr (.inl generated)
    · exact .inr (.inr (.inl client))
    · exact .inl meant
    · exact .inr (.inr (.inr function))
  · rintro (meant | generated | client | function)
    · exact .inl (.inr (.inr meant))
    · exact .inl (.inl generated)
    · exact .inl (.inr (.inl client))
    · exact .inr function

end Document

namespace Artifacts

/-- The file of services mentions only types that are emitted. -/
structure TypesEmitted (d : Document) (s : Settings) (a : Artifacts) : Prop where
  /-- The signature, the result and the type argument are texts in the file. -/
  written : ∀ e ∈ d.endpoints,
    Text.StandsIn ("export const " ++ Naming.function e ++ " = async (" ++
      ", ".intercalate (e.signature.map Binding.text) ++ "): " ++ e.resultType ++ " => \x7b")
      a.servicesCode ∧
    ∃ method arguments, Text.StandsIn ("    const response = await " ++ s.clientName ++ "." ++
      method ++ "<" ++ Naming.responseType e ++ ">(" ++ arguments) a.servicesCode
  /-- With a file of types, what is mentioned is imported, and what is imported is declared. -/
  imported : s.includeTypes = true →
    ∃ names : List String, names.Nodup ∧ ImportsFrom (typesImport names) "./types" ∧
      Text.StandsIn (typesImport names) a.servicesCode ∧
      (∀ n ∈ names, (∃ code, (n, code) ∈ commonTypes ∧ Text.StandsIn code a.types) ∨
        ∃ e ∈ d.endpoints, e.DeclaresIn n a.types) ∧
      ∀ service ∈ a.services, ∃ own : List String, typesImport own ∈ service.imports ∧
        ∀ n ∈ service.endpoint.mentionedTypes, n ≠ "RequestConfig" → n ∈ own ∧ n ∈ names
  /-- The lines that import from the file of types are the one for what is mentioned, where there is
  such a file, and those that a text brings which is quoted as it is. -/
  importing : ∀ row, row ∈ Text.rows a.servicesCode ∧ ImportsFrom row "./types" ↔
    (s.includeTypes = true ∧ row = typesImport (Service.fileTypes a.services)) ∨
      ∃ line ∈ d.quotingLines s, row ∈ Text.rows line ∧ ImportsFrom row "./types"
  /-- Without one, a service imports nothing from it, and a line of the file does exactly when a
  line feed in a text that is quoted as it is brings one that does. What is mentioned is declared in
  the file. -/
  inlined : s.includeTypes = false → s.clientImport ≠ "./types" →
    s.clientFactoryImport ≠ "./types" →
    (∀ service ∈ a.services, ∀ line ∈ service.imports, ¬ImportsFrom line "./types") ∧
      ((∃ row ∈ Text.rows a.servicesCode, ImportsFrom row "./types") ↔
        ∃ line ∈ d.quotingLines s, '\n' ∈ line.toList ∧
          ∃ row ∈ Text.rows line, ImportsFrom row "./types") ∧
      ∀ service ∈ a.services, ∀ n ∈ service.endpoint.mentionedTypes, n ≠ "RequestConfig" →
        n ≠ "APIResponse" → service.endpoint.DeclaresIn n a.servicesCode

section Document

variable {d : Document} {s : Settings}

/-- A line that quotes texts on one line imports nothing from the file of types. -/
lemma not_importsFrom_quotingLine (off : s.includeTypes = false)
    (client : s.clientImport ≠ "./types") (factory : s.clientFactoryImport ≠ "./types")
    {line : String} (quotes : line ∈ d.quotingLines s) :
    ¬ImportsFrom line "./types" := by
  intro imports
  have letter := imports.head?
  rw [Document.quotingLines, List.mem_cons, List.mem_append] at quotes
  -- Lines that import start with the letter, which leaves those for the client.
  rcases quotes with rfl | isClient | inFunction
  · have blank : d.generatedLine.toList.head? = some ' ' :=
      Text.head?_append (Text.head?_append (Text.head?_append (Text.head?_append rfl)))
    rw [blank] at letter
    cases letter
  · have isImport := List.mem_of_mem_take isClient
    exact not_importsFrom_types off client factory line isImport imports
  · obtain ⟨e, _, quotes⟩ := List.mem_flatMap.mp inFunction
    have call : (e.callLine s).toList.head? = some ' ' :=
      Text.head?_append (Text.head?_append rfl)
    have head : e.functionHead.toList.head? = some 'e' := by
      rw [Endpoint.functionHead_eq]
      iterate 5 apply Text.head?_append
      exact Text.head?_append rfl
    unfold Endpoint.quotingLines at quotes
    split at quotes
    · rw [List.mem_singleton.mp quotes, call] at letter
      cases letter
    · rcases List.mem_pair.mp quotes with rfl | rfl
      · rw [head] at letter
        cases letter
      · rw [call] at letter
        cases letter

/-- The lines that import from the file of types, in terms of those that quote texts as they are. -/
lemma importing_iff (d : Document) (s : Settings) (row : String) :
    row ∈ Text.rows (ofDocument d s).servicesCode ∧ ImportsFrom row "./types" ↔
      (s.includeTypes = true ∧ row = typesImport (Service.fileTypes (ofDocument d s).services)) ∨
        ∃ line ∈ d.quotingLines s, row ∈ Text.rows line ∧ ImportsFrom row "./types" := by
  constructor
  · rintro ⟨mem, imports⟩
    rcases (Document.mem_rows_servicesFile_iff imports.head?).mp mem
      with meant | ⟨line, quotes, mem⟩
    · exact .inl meant
    · exact .inr ⟨line, quotes, mem, imports⟩
  · rintro (⟨on, rfl⟩ | ⟨line, quotes, mem, imports⟩)
    · have symbols : ∀ n ∈ Service.fileTypes (ofDocument d s).services, Naming.IsSymbol n :=
        Service.isSymbol_fileTypes
      have imports := importsFrom_typesImport symbols
      exact ⟨(Document.mem_rows_servicesFile_iff imports.head?).mpr (.inl ⟨on, rfl⟩), imports⟩
    · exact ⟨(Document.mem_rows_servicesFile_iff imports.head?).mpr (.inr ⟨line, quotes, mem⟩),
        imports⟩

end Document

/-- Whatever the document and the settings are, the file of services mentions only types that are
emitted. Without a file of types it imports from there only what comes with a text that is quoted as
it is: the title, the version, a setting of the client, a path, or a method without a verb. -/
theorem types_emitted (d : Document) (s : Settings) : TypesEmitted d s (ofDocument d s) where
  written e isEndpoint := by
    refine ⟨?_, ?_⟩
    · rw [← Endpoint.functionHead_eq]
      exact functionLine_standsIn isEndpoint Endpoint.functionHead_mem
    · obtain ⟨method, arguments, eq⟩ :=
        e.clientCall.text_eq s.clientName (Naming.responseType e) e.urlLiteral
      refine ⟨method, arguments ++ ";", ?_⟩
      have call := functionLine_standsIn (s := s) isEndpoint Endpoint.call_mem
      rw [eq] at call
      simpa only [String.append_assoc] using call
  imported h := by
    have types : (ofDocument d s).types = d.typesFile := if_pos h
    refine ⟨Service.fileTypes (ofDocument d s).services, Service.nodup_fileTypes _,
      importsFrom_typesImport Service.isSymbol_fileTypes,
      Text.standsIn_unlines (Document.import_mem_servicesParts (typesImport_mem h)),
      fun n mem => types ▸ declared_of_mem_fileTypes mem, fun service isService => ?_⟩
    refine ⟨service.endpoint.referencedTypes, ?_, fun n mentioned other => ?_⟩
    · obtain ⟨e, _, rfl⟩ := List.mem_map.mp isService
      exact typesImport_mem h
    · have referenced := (Endpoint.mem_mentionedTypes.mp mentioned).resolve_left other
      exact ⟨referenced, Service.mem_fileTypes.mpr (.inr ⟨service, isService, referenced⟩)⟩
  importing := importing_iff d s
  inlined off client factory := by
    refine ⟨fun service isService line mem => ?_, ⟨?_, ?_⟩,
      fun service isService n mentioned config response => ?_⟩
    · obtain ⟨e, _, rfl⟩ := List.mem_map.mp isService
      exact not_importsFrom_types off client factory line mem
    · rintro ⟨row, isRow, imports⟩
      rcases (importing_iff d s row).mp ⟨isRow, imports⟩ with ⟨on, _⟩ | ⟨line, quotes, mem, _⟩
      · rw [off] at on
        cases on
      · refine ⟨line, quotes, ?_, row, mem, imports⟩
        -- A line without a line feed would be the import itself.
        by_contra single
        rw [Text.rows_eq_self single, List.mem_singleton] at mem
        exact not_importsFrom_quotingLine off client factory quotes (mem ▸ imports)
    · rintro ⟨line, quotes, _, row, mem, imports⟩
      have brought := (importing_iff d s row).mpr (.inr ⟨line, quotes, mem, imports⟩)
      exact ⟨row, brought⟩
    · obtain ⟨e, isEndpoint, rfl⟩ := List.mem_map.mp isService
      have referenced := (Endpoint.mem_mentionedTypes.mp mentioned).resolve_left config
      exact declaresIn_servicesCode off isEndpoint
        ((Endpoint.mem_declaredNames_of_referenced referenced).resolve_left response)

/-- A document whose title ends the comment that quotes it and goes on with an import. -/
def importingTitle : Document :=
  { Document.withPath "/item" [] with
    title := some "T */\nimport type \x7b X \x7d from './types';\n/*" }

/-- The settings that nothing sets, but for a file of types. -/
def selfContained : Settings :=
  { Settings.default with includeTypes := false }

/-- The title of a valid document brings an import from the file of types into the file of services,
behind the end of the comment at its head, where no file of types is generated. -/
theorem types_emitted_importingTitle :
    importingTitle.report.isValid = true ∧ selfContained.includeTypes = false ∧
      selfContained.clientImport ≠ "./types" ∧ selfContained.clientFactoryImport ≠ "./types" ∧
      (∃ row ∈ Text.rows (ofDocument importingTitle selfContained).servicesCode,
        ImportsFrom row "./types") ∧
      ¬importingTitle.ClosesHead "API service functions"
        (ofDocument importingTitle selfContained).servicesCode := by
  have valid : importingTitle.report.isValid = true := by decide +kernel
  have wellFormed : importingTitle.WellFormed :=
    Document.faultFree_findings_iff.mp (Report.ofFindings_isValid.mp valid)
  have client : selfContained.clientImport ≠ "./types" := by decide +kernel
  have factory : selfContained.clientFactoryImport ≠ "./types" := by decide +kernel
  refine ⟨valid, rfl, client, factory, ?_, ?_⟩
  · refine ((types_emitted importingTitle selfContained).inlined rfl client factory).2.1.mpr ?_
    refine ⟨importingTitle.generatedLine, List.mem_cons_self, by decide +kernel,
      typesImport ["X"], by decide +kernel, importsFrom_typesImport (by decide)⟩
  · rw [servicesCode_eq, Document.servicesParts]
    simp only [List.append_assoc]
    rw [Document.closesHead_iff wellFormed ⟨by decide, by decide⟩]
    intro inline
    exact (inline.title _ rfl).1 (by decide +kernel)

end Artifacts

end ClientSynth
