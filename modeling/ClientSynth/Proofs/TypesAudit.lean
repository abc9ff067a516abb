import ClientSynth.Proofs.Audited
import ClientSynth.Proofs.QuotedTexts

/-!
# What an audit says about declared types

An audit searches the file of types for an interface without a name and for a member without a type.
The printer leaves two blanks where a name is empty, and the mark that is searched for has one, so
that no such interface is found; and it leaves no member without a type. What is found are texts of
the document that the file quotes, and models whose names end with the word `interface`
(`Document.typesAudited`).

The file is taken apart into its parts, each of which contributes the texts that it quotes and the
lines that open interfaces (`IsMark.foundAmong_declarations`); the fixed lines and the labels of
endpoints have no mark in them. Of the opening lines only the end of the name matters, since a mark
has to reach from the name to the brace (`Document.unnamedMark_foundAmong_opening`).
-/

namespace ClientSynth

open TypeScript

namespace Endpoint

variable {e : Endpoint} {declaration : Declaration}

/-- The names in the declarations for an endpoint are made of letters and digits. -/
lemma isNamed_of_mem (mem : declaration ∈ e.declarations) : declaration.IsNamed := by
  have symbol (suffix : String) (isSuffix : suffix ∈ Naming.typeSuffixes) :
      Naming.IsSymbol (Naming.base e ++ suffix) := Naming.isSymbol_suffixed isSuffix
  rcases List.mem_append.mp mem with mem | mem
  · rcases List.mem_append.mp mem with mem | mem
    · unfold paramsDeclaration at mem
      split at mem
      · cases mem
      · cases List.mem_singleton.mp mem
        exact symbol "Params" (by decide)
    · obtain ⟨body, _, rfl⟩ := Option.map_eq_some_iff.mp (Option.mem_toList.mp mem)
      split <;> exact symbol "Request" (by decide)
  · unfold responseDeclarations at mem
    split at mem
    · cases List.mem_singleton.mp mem
      exact symbol "Response" (by decide)
    · unfold responseDeclarationsOf at mem
      split at mem
      · cases List.mem_singleton.mp mem
        exact symbol "Response" (by decide)
      · rcases List.mem_cons.mp mem with rfl | mem
        · exact symbol "Item" (by decide)
        · cases List.mem_singleton.mp mem
          exact ⟨symbol "Response" (by decide), symbol "Item" (by decide)⟩
      · cases List.mem_singleton.mp mem
        exact symbol "Response" (by decide)

/-- The texts of a document that the part of the file of types for an endpoint quotes. -/
def typeQuotes (e : Endpoint) : List String :=
  e.path.getD "None" :: e.declarations.flatMap Declaration.quotes

end Endpoint

namespace Document

variable {d : Document}

/-- The declarations for a document in the file of types, in order. -/
def typeDeclarations (d : Document) : List Declaration :=
  d.modelDeclarations ++ d.endpoints.flatMap Endpoint.declarations

/-- The declarations of models are named by symbols. -/
lemma isNamed_of_mem {declaration : Declaration} (mem : declaration ∈ d.modelDeclarations) :
    declaration.IsNamed := by
  obtain ⟨m, _, rfl⟩ := List.mem_map.mp mem
  exact Naming.isSymbol_pascal m.1

/-- The texts of a document that the file of types quotes, in order. -/
def typeQuotes (d : Document) : List String :=
  d.titleText :: (d.modelDeclarations.flatMap Declaration.quotes ++
    d.endpoints.flatMap Endpoint.typeQuotes)

end Document

namespace TypeScript

section Files

variable {mark : List Char} (isMark : IsMark mark)
include isMark

/-! ## Parts of the file of types -/

/-- A blank line has no mark in it. -/
lemma IsMark.foundAmong_blank (texts : List String) :
    Text.FoundAmong mark ("" :: texts) ↔ Text.FoundAmong mark texts := by
  have none : ¬mark <:+: "".toList := isMark.not_infix_nil
  rw [Text.foundAmong_cons, or_iff_right none]

/-- Blank lines between texts have no mark in them. -/
lemma IsMark.foundAmong_spacedOut (texts : List String) :
    Text.FoundAmong mark (Document.spacedOut texts) ↔ Text.FoundAmong mark texts := by
  rw [Document.spacedOut, Text.foundAmong_flatMap]
  simp only [isMark.foundAmong_blank, Text.foundAmong_singleton]
  rfl

/-- Separators between texts have no mark in them. -/
lemma IsMark.foundAmong_separated (texts : List String) :
    Text.FoundAmong mark (Document.separated texts) ↔ Text.FoundAmong mark texts := by
  unfold Document.separated
  induction texts with
  | nil => rfl
  | cons first rest ih =>
    cases rest with
    | nil => rfl
    | cons next rest =>
      rw [List.intersperse_cons_cons, Text.foundAmong_cons, isMark.foundAmong_blank, ih,
        ← Text.foundAmong_cons]

/-- The types that all clients share have no marks in them. -/
lemma IsMark.not_foundAmong_commonTypes : ¬Text.FoundAmong mark (commonTypes.map Prod.snd) := by
  rw [commonTypes, List.map_cons, List.map_singleton, Text.foundAmong_cons,
    Text.foundAmong_singleton, not_or]
  constructor
  all_goals
    simp only [String.toList_append]
    repeat rw [String.toList_ofList]
    exact isMark.of_both (P := fun mark => ¬mark <:+: _) (by decide +kernel)

/-- Of what the head of the file quotes, only the title can have a mark in it. -/
lemma IsMark.foundAmong_fileHead {d : Document} (wellFormed : d.WellFormed) :
    Text.FoundAmong mark (d.fileHead "API type definitions") ↔ mark <:+: d.titleText.toList := by
  obtain ⟨version, isVersion, isMatch⟩ := wellFormed.numbered
  have lines : d.fileHead "API type definitions" =
      ["/**", " * API type definitions", " * Generated from " ++ d.titleText ++ " v" ++ version ++
        ". Do not edit by hand.", " */"] := by
    rw [Document.fileHead, isVersion]
    rfl
  have chars : (" * Generated from " ++ d.titleText ++ " v" ++ version ++
      ". Do not edit by hand.").toList = " * Generated fro".toList ++
        'm' :: (' ' :: (d.titleText.toList ++ [' ']) ++
          'v' :: (version.toList ++ ". Do not edit by hand.".toList)) := by
    simp [String.toList_append]
  have fixed : ¬mark <:+: "/**".toList ∧ ¬mark <:+: " * API type definitions".toList ∧
      ¬mark <:+: " */".toList ∧ ¬mark <:+: " * Generated fro".toList := by
    refine ⟨?_, ?_, ?_, ?_⟩ <;> exact isMark.not_infix (by decide) (by decide)
  have numbered : ¬mark <:+: version.toList ++ ". Do not edit by hand.".toList := by
    rw [← String.toList_append]
    refine isMark.not_infix (Text.not_mem_append ?_ (by decide))
      (Text.not_mem_append ?_ (by decide))
    all_goals exact isMatch.not_mem (by decide) (by decide) (by decide)
  rw [lines, Text.foundAmong_cons, Text.foundAmong_cons, Text.foundAmong_cons,
    Text.foundAmong_singleton, or_iff_right fixed.1, or_iff_right fixed.2.1,
    or_iff_left fixed.2.2.1, chars, isMark.infix_append_cons (by decide),
    or_iff_right fixed.2.2.2, isMark.infix_append_cons (by decide), or_iff_left numbered,
    isMark.infix_cons (by decide), isMark.infix_concat (by decide)]

/-- Of what the label of an endpoint quotes, only the path can have a mark in it. -/
lemma IsMark.infix_endpointLabel {e : Endpoint}
    (known : IsWord (Method.all.map Method.word) e.method) :
    mark <:+: (Document.endpointLabel e).toList ↔ mark <:+: (e.path.getD "None").toList := by
  obtain ⟨word, isWord, eq⟩ := known
  have words : ∀ word ∈ Method.all.map Method.word,
      ('\x7b' ∉ word.toList ∧ ';' ∉ word.toList) ∧ (word.toList.getLast?.any
        fun c => decide (c ∉ unnamedMark ∧ c ∉ untypedMark)) = true := by decide
  obtain ⟨⟨noBrace, noEnd⟩, ends⟩ := words word isWord
  obtain ⟨c, isLast, foreign⟩ := (Option.any_eq_true _ _).mp ends
  rw [decide_eq_true_eq] at foreign
  obtain ⟨front, chars⟩ := List.getLast?_eq_some_iff.mp isLast
  have label : (Document.endpointLabel e).toList =
      ("// ".toList ++ front) ++ c :: ' ' :: (e.path.getD "None").toList := by
    rw [Document.endpointLabel, eq, Option.getD_some]
    simp [String.toList_append, chars]
  have opening : ¬mark <:+: "// ".toList ++ front := by
    rw [chars, List.mem_append, not_or] at noBrace noEnd
    exact isMark.not_infix (mt List.mem_append.mp (not_or.mpr ⟨by decide, noBrace.1⟩))
      (mt List.mem_append.mp (not_or.mpr ⟨by decide, noEnd.1⟩))
  rw [label, isMark.infix_append_cons foreign, or_iff_right opening, isMark.infix_cons (by decide)]

/-- A mark in declarations is in what they quote or in a line that opens one. -/
lemma IsMark.foundAmong_declarations {declarations : List Declaration}
    (named : ∀ x ∈ declarations, x.IsNamed) :
    Text.FoundAmong mark (declarations.map Declaration.text) ↔
      Text.FoundAmong mark (declarations.flatMap Declaration.quotes) ∨
        Text.FoundAmong mark (declarations.map Declaration.opening) := by
  induction declarations with
  | nil => simp [Text.foundAmong_nil]
  | cons x rest ih =>
    obtain ⟨here, later⟩ := List.forall_mem_cons.mp named
    rw [List.map_cons, List.map_cons, List.flatMap_cons, Text.foundAmong_cons, Text.foundAmong_cons,
      Text.foundAmong_append, isMark.infix_declaration x here, ih later, or_or_or_comm]

/-- A mark in the part about models is in one of their declarations. -/
lemma IsMark.foundAmong_models {declarations : List Declaration}
    (named : ∀ x ∈ declarations, x.IsNamed) :
    Text.FoundAmong mark (if (declarations.map Declaration.text).isEmpty then []
        else ["", "// Models"] ++ Document.spacedOut (declarations.map Declaration.text)) ↔
      Text.FoundAmong mark (declarations.flatMap Declaration.quotes) ∨
        Text.FoundAmong mark (declarations.map Declaration.opening) := by
  rw [← isMark.foundAmong_declarations named]
  split
  case isTrue none => rw [List.isEmpty_iff.mp none]
  case isFalse =>
    have title : ¬mark <:+: "// Models".toList := isMark.not_infix (by decide) (by decide)
    rw [List.cons_append, isMark.foundAmong_blank, List.cons_append, Text.foundAmong_cons,
      or_iff_right title, List.nil_append, isMark.foundAmong_spacedOut]

/-- A mark in the part about an endpoint is in what it quotes or in a line that opens a declaration.
-/
lemma IsMark.foundAmong_endpoint {e : Endpoint}
    (known : IsWord (Method.all.map Method.word) e.method) :
    Text.FoundAmong mark (["", Document.endpointLabel e] ++
        Document.separated (e.declarations.map Declaration.text)) ↔
      Text.FoundAmong mark e.typeQuotes ∨
        Text.FoundAmong mark (e.declarations.map Declaration.opening) := by
  rw [List.cons_append, isMark.foundAmong_blank, List.cons_append, Text.foundAmong_cons,
    isMark.infix_endpointLabel known, List.nil_append, isMark.foundAmong_separated,
    isMark.foundAmong_declarations fun _ => Endpoint.isNamed_of_mem, Endpoint.typeQuotes,
    Text.foundAmong_cons, or_assoc]

/-- A mark is in the file of types exactly if it is in a text that the file quotes, or in the line
that opens an interface. -/
lemma IsMark.infix_typesFile {d : Document} (wellFormed : d.WellFormed) :
    mark <:+: d.typesFile.toList ↔ Text.FoundAmong mark d.typeQuotes ∨
      Text.FoundAmong mark (d.typeDeclarations.map Declaration.opening) := by
  have endpoints : Text.FoundAmong mark (d.endpoints.flatMap fun e => ["",
        Document.endpointLabel e] ++ Document.separated (e.declarations.map Declaration.text)) ↔
      Text.FoundAmong mark (d.endpoints.flatMap Endpoint.typeQuotes) ∨
        Text.FoundAmong mark (d.endpoints.flatMap fun e =>
          e.declarations.map Declaration.opening) := by
    simp only [Text.foundAmong_flatMap, ← exists_or, ← and_or_left]
    refine exists_congr fun e => and_congr_right fun isEndpoint => ?_
    exact isMark.foundAmong_endpoint (wellFormed.endpoints e isEndpoint).method
  rw [Document.typesFile_eq, isMark.infix_file, Text.foundAmong_append, Text.foundAmong_append,
    Text.foundAmong_append, isMark.foundAmong_fileHead wellFormed, isMark.foundAmong_spacedOut,
    or_iff_left isMark.not_foundAmong_commonTypes,
    isMark.foundAmong_models fun _ => Document.isNamed_of_mem, endpoints, Document.typeQuotes,
    Document.typeDeclarations, Text.foundAmong_cons, List.map_append,
    List.map_flatMap, Text.foundAmong_append, Text.foundAmong_append]
  tauto

end Files

end TypeScript

namespace Audit

/-- An unnamed interface is remarked upon exactly where its mark is found. -/
lemma unnamedInterface_mem_typesRemarks {text : String} :
    .unnamedInterface ∈ typesRemarks text ↔ unnamedMark <:+: text.toList := by
  have kept : .unnamedInterface ∈ typesRemarks text ↔ has "interface \x7b" text.toList = true := by
    simp [typesRemarks, mem_remarkIf]
  exact kept.trans Text.occursIn_iff_infix

/-- An untyped member is remarked upon exactly where its mark is found. -/
lemma untypedMember_mem_typesRemarks {text : String} :
    .untypedMember ∈ typesRemarks text ↔ untypedMark <:+: text.toList := by
  have kept : .untypedMember ∈ typesRemarks text ↔ has ": ;" text.toList = true := by
    simp [typesRemarks, mem_remarkIf]
  exact kept.trans Text.occursIn_iff_infix

end Audit

namespace Document

variable {d : Document}

/-! ## Lines that open an interface -/

/-- An interface in the file of types is one of a model, with the name of its type, or one for an
endpoint, with a name that is neither empty nor ends with the word. -/
lemma interface_cases {comment : Option String} {name : String} {members : List Member}
    (mem : .interface comment name members ∈ d.typeDeclarations) :
    Naming.IsSymbol name ∧
      (name ∈ d.modelNames ∨ name ≠ "" ∧ ¬"interface".toList <:+ name.toList) := by
  rcases List.mem_append.mp mem with isModel | ofEndpoint
  · have named : (Declaration.interface comment name members).IsNamed := isNamed_of_mem isModel
    refine ⟨named, .inl ?_⟩
    exact names_modelDeclarations d ▸ List.mem_map_of_mem (f := Declaration.name) isModel
  · obtain ⟨e, _, declared⟩ := List.mem_flatMap.mp ofEndpoint
    have named : (Declaration.interface comment name members).IsNamed :=
      Endpoint.isNamed_of_mem declared
    have isDeclared : name ∈ e.declaredNames := List.mem_map_of_mem (f := Declaration.name) declared
    obtain ⟨suffix, isSuffix, rfl⟩ := Endpoint.exists_suffix_of_mem isDeclared
    have suffixes : ∀ suffix ∈ Naming.typeSuffixes, suffix.toList ≠ [] ∧
        suffix.toList.length ≤ "interface".toList.length ∧
          ¬suffix.toList <:+ "interface".toList := by decide
    obtain ⟨some, short, other⟩ := suffixes suffix isSuffix
    refine ⟨named, .inr ⟨fun none => some ?_, fun ends => other ?_⟩⟩
    · have chars := congrArg String.toList none
      rw [String.toList_append] at chars
      exact (List.append_eq_nil_iff.mp chars).2
    · rw [String.toList_append] at ends
      exact List.suffix_of_suffix_length_le (List.suffix_append _ _) ends short

/-- Every name of a model is declared by an interface. -/
lemma exists_interface_of_mem_modelNames {name : String} (mem : name ∈ d.modelNames) :
    ∃ comment members, .interface comment name members ∈ d.typeDeclarations := by
  obtain ⟨m, isModel, rfl⟩ := List.mem_map.mp mem
  exact ⟨_, _, List.mem_append_left _ (List.mem_map.mpr ⟨m, isModel, rfl⟩)⟩

/-- A mark in an opening line is in that of an interface. -/
lemma foundAmong_opening_iff {mark : List Char} (isMark : IsMark mark) :
    Text.FoundAmong mark (d.typeDeclarations.map Declaration.opening) ↔
      ∃ comment name members, .interface comment name members ∈ d.typeDeclarations ∧
        mark <:+: (Declaration.openingLine name).toList := by
  rw [Text.foundAmong_map]
  constructor
  · rintro ⟨⟨comment, name, members⟩ | ⟨name, body⟩, mem, found⟩
    · exact ⟨comment, name, members, mem, found⟩
    · exact absurd (List.infix_nil.mp found) isMark.ne_nil
  · rintro ⟨comment, name, members, mem, found⟩
    exact ⟨_, mem, found⟩

/-- An opening has the first mark exactly if a model's name ends with the word. -/
lemma unnamedMark_foundAmong_opening :
    Text.FoundAmong unnamedMark (d.typeDeclarations.map Declaration.opening) ↔
      ∃ name ∈ d.modelNames, "interface".toList <:+ name.toList := by
  rw [foundAmong_opening_iff (.inl rfl)]
  constructor
  · rintro ⟨comment, name, members, mem, found⟩
    obtain ⟨isSymbol, cases⟩ := interface_cases mem
    have ends := (unnamedMark_infix_openingLine isSymbol).mp found
    exact ⟨name, cases.resolve_right fun other => other.2 ends, ends⟩
  · rintro ⟨name, isModel, ends⟩
    obtain ⟨comment, members, mem⟩ := exists_interface_of_mem_modelNames isModel
    exact ⟨comment, name, members, mem,
      (unnamedMark_infix_openingLine (interface_cases mem).1).mpr ends⟩

/-- No opening has the second mark. -/
lemma not_untypedMark_foundAmong_opening :
    ¬Text.FoundAmong untypedMark (d.typeDeclarations.map Declaration.opening) := by
  rw [foundAmong_opening_iff (.inr rfl)]
  rintro ⟨comment, name, members, mem, found⟩
  exact not_untypedMark_infix_openingLine (interface_cases mem).1 found

/-! ## The audit -/

/-- What an audit finds in the file of types for a document, and what there is to be found. -/
structure TypesAudited (d : Document) : Prop where
  unnamed : .unnamedInterface ∈ Audit.typesRemarks d.typesFile ↔
    Text.FoundAmong unnamedMark d.typeQuotes ∨
      ∃ name ∈ d.modelNames, "interface".toList <:+ name.toList
  untyped : .untypedMember ∈ Audit.typesRemarks d.typesFile ↔
    Text.FoundAmong untypedMark d.typeQuotes
  /-- An interface has an empty name exactly if a model has no letters and digits in its key. -/
  nameless : (∃ comment members, .interface comment "" members ∈ d.typeDeclarations) ↔
    "" ∈ d.modelNames
  typed : ∀ comment name members, .interface comment name members ∈ d.typeDeclarations →
    ∀ m ∈ members, m.type.text ≠ ""

/-- An audit of the file of types for a valid document takes a text that the file quotes, or a model
whose name ends with the word `interface`, for an interface without a name, and a quoted text for a
member without a type. Members always have types, and interfaces without a name go unnoticed. -/
theorem typesAudited (valid : d.report.isValid = true) : d.TypesAudited := by
  have wellFormed := d.report_isValid_iff.mp valid
  constructor
  case unnamed =>
    have isMark : IsMark unnamedMark := .inl rfl
    rw [Audit.unnamedInterface_mem_typesRemarks, isMark.infix_typesFile wellFormed,
      unnamedMark_foundAmong_opening]
  case untyped =>
    have isMark : IsMark untypedMark := .inr rfl
    rw [Audit.untypedMember_mem_typesRemarks, isMark.infix_typesFile wellFormed,
      or_iff_left not_untypedMark_foundAmong_opening]
  case nameless =>
    constructor
    · rintro ⟨comment, members, mem⟩
      exact (interface_cases mem).2.resolve_right fun other => other.1 rfl
    · exact exists_interface_of_mem_modelNames
  case typed =>
    intro comment name members _ m _ none
    obtain ⟨c, rest, chars, _⟩ := (isSolid_text m.type).starts
    rw [none] at chars
    cases chars

/-- A document whose title is taken for a member without a type. -/
def untypedTitle : Document :=
  { withModel "a" with title := some ": ;" }

/-- The interface for the model `!!!` has an empty name, about which there is no remark, while a
title brings up a remark about a member. -/
theorem typesAudited_nameless :
    ((withModel "!!!").report.isValid = true ∧ "" ∈ (withModel "!!!").modelNames ∧
      .unnamedInterface ∉ Audit.typesRemarks (withModel "!!!").typesFile) ∧
    untypedTitle.report.isValid = true ∧
      .untypedMember ∈ Audit.typesRemarks untypedTitle.typesFile := by
  have valid : (withModel "!!!").report.isValid = true := by decide +kernel
  have titled : untypedTitle.report.isValid = true := by decide +kernel
  refine ⟨⟨valid, by decide +kernel, ?_⟩, titled, ?_⟩
  · exact mt (typesAudited valid).unnamed.mp (by decide +kernel)
  · exact (typesAudited titled).untyped.mpr (by decide +kernel)

end Document

end ClientSynth
