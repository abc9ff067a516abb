import Mathlib.Data.List.Nodup
import ClientSynth.Client.Artifacts
import ClientSynth.Proofs.Lines
import ClientSynth.Proofs.Symbols

/-!
# Declared types

The file of types declares names from three sources: the types that all clients share, the models,
and for each endpoint its own name with one of four suffixes. `Document.declaredNames` lists them,
each is the name of a declaration in the file (`Document.declaredIn_typesFile`), and
`Document.declaredNames_nodup_iff` says when they differ: types of endpoints never meet each other,
but a model can be called like a type of an endpoint, and both like a shared type.

A name is read off a declaration where its keyword and its name end, so it is enough to follow each
declaration into the file: a file is lines put together, parts of which are declarations, and what
stands in a part stands in the file (`Text.StandsIn`). That names differ is a matter of their ends:
the four suffixes are told apart by their last characters (`Naming.append_suffix_inj`), so a name
gives back both its base and which of the four types it is.
-/

namespace ClientSynth

open TypeScript (Declaration Member)

/-! ## Declarations in a text -/

/-- A text opens the declaration of an interface or of an alias with a name. -/
def Declares (code name : String) : Prop :=
  ∃ rest, code = "export interface " ++ name ++ " \x7b" ++ rest ∨
    code = "export type " ++ name ++ " = " ++ rest

/-- A type is declared in a text: as one of the shared types, or on lines of its own. -/
def DeclaredIn (name text : String) : Prop :=
  ∃ code, Text.StandsIn code text ∧ ((name, code) ∈ commonTypes ∨ Declares code name)

namespace TypeScript.Declaration

/-- An interface without a comment is its name, its members line by line and a brace. -/
lemma interfaceText_eq (name : String) (members : List Member) :
    interfaceText name members = "export interface " ++ name ++ " \x7b\n" ++
      "\n".intercalate (members.map Member.text) ++ "\n\x7d" :=
  rfl

/-- The text of an interface declares its name. -/
lemma declares_interfaceText (name : String) (members : List Member) :
    Declares (interfaceText name members) name :=
  ⟨"\n" ++ ("\n".intercalate (members.map Member.text) ++ "\n\x7d"), .inl (by
    have brace : " \x7b\n" = " \x7b" ++ "\n" := rfl
    rw [interfaceText_eq, brace]
    simp only [String.append_assoc])⟩

/-- The text of an alias declares its name. -/
lemma declares_alias (name : String) (body : AliasBody) :
    Declares (text (.alias name body)) name :=
  ⟨body.text ++ ";", .inr (String.append_assoc ..)⟩

/-- A comment stands on a line of its own before the interface. -/
lemma text_commented (comment name : String) (members : List Member) :
    text (.interface (some comment) name members) =
      "\n".intercalate [lineComment comment, interfaceText name members] := by
  rw [String.intercalate_cons_cons, String.intercalate_singleton]
  rfl

/-- Where a declaration stands, its name is declared, also after a comment. -/
lemma declaredIn (d : Declaration) {file : String} (stands : Text.StandsIn d.text file) :
    DeclaredIn d.name file := by
  obtain ⟨comment, name, members⟩ | ⟨name, body⟩ := d
  · refine ⟨interfaceText name members, ?_, .inr (declares_interfaceText name members)⟩
    cases comment with
    | none => exact stands
    | some comment =>
      rw [text_commented] at stands
      exact stands.line (List.mem_cons_of_mem _ (List.mem_singleton_self _))
  · exact ⟨_, stands, .inr (declares_alias name body)⟩

end TypeScript.Declaration

/-! ## Types of an endpoint -/

namespace Naming

/-- What the names of an endpoint's types end with. -/
def typeSuffixes : List String :=
  ["Params", "Request", "Item", "Response"]

/-- A base and one of the suffixes are read off the name that they make up. -/
lemma append_suffix_inj {base base' suffix suffix' : String} (mem : suffix ∈ typeSuffixes)
    (mem' : suffix' ∈ typeSuffixes) (same : base ++ suffix = base' ++ suffix') :
    base = base' ∧ suffix = suffix' := by
  -- No two suffixes end in the same letter.
  have apart : ∀ s ∈ typeSuffixes, ∀ t ∈ typeSuffixes,
      s.toList.getLast? = t.toList.getLast? → s = t := by decide
  have nonempty : ∀ s ∈ typeSuffixes, s.toList ≠ [] := by decide
  have chars := congrArg String.toList same
  rw [String.toList_append, String.toList_append] at chars
  have last := congrArg List.getLast? chars
  rw [List.getLast?_append_of_ne_nil _ (nonempty _ mem),
    List.getLast?_append_of_ne_nil _ (nonempty _ mem')] at last
  cases apart _ mem _ mem' last
  exact ⟨String.toList_inj.mp (List.append_cancel_right chars), rfl⟩

end Naming

namespace Endpoint

variable {e : Endpoint} {n : String}

/-- The names of the types that are declared for an endpoint, in order. -/
def declaredNames (e : Endpoint) : List String :=
  e.declarations.map Declaration.name

/-- The type of parameters is declared if there are any in the URL. -/
lemma names_paramsDeclaration :
    e.paramsDeclaration.toList.map Declaration.name =
      if (e.parameters.getD []).filter Parameter.isInUrl = [] then []
      else [Naming.paramsType e] := by
  unfold paramsDeclaration
  split
  case h_1 none => simp [none]
  case h_2 some =>
    rw [if_neg some]
    rfl

/-- The type of the request is declared if there is a body. -/
lemma names_requestDeclaration :
    e.requestDeclaration.toList.map Declaration.name =
      if e.hasBody then [Naming.requestType e] else [] := by
  unfold requestDeclaration hasBody
  cases e.requestBody with
  | none => rfl
  | some body =>
    simp only [Option.map_some, Option.isSome_some, if_true]
    split <;> rfl

/-- The response has a type of its own, and its items may have one before it. -/
lemma names_responseDeclarations :
    e.responseDeclarations.map Declaration.name = [Naming.responseType e] ∨
      e.responseDeclarations.map Declaration.name = [Naming.itemType e, Naming.responseType e] := by
  unfold responseDeclarations
  split
  · exact .inl rfl
  · unfold responseDeclarationsOf
    split
    · exact .inl rfl
    · exact .inr rfl
    · exact .inl rfl

/-- The names of an endpoint are those of its declarations, in the order of the file. -/
lemma declaredNames_eq :
    e.declaredNames = e.paramsDeclaration.toList.map Declaration.name ++
      e.requestDeclaration.toList.map Declaration.name ++
      e.responseDeclarations.map Declaration.name := by
  rw [declaredNames, declarations, List.map_append, List.map_append]

/-- At most one type is declared with each suffix. -/
lemma declaredNames_sublist :
    e.declaredNames.Sublist (Naming.typeSuffixes.map fun suffix => Naming.base e ++ suffix) := by
  have params :
      (e.paramsDeclaration.toList.map Declaration.name).Sublist [Naming.paramsType e] := by
    rw [names_paramsDeclaration]
    split <;> simp
  have request :
      (e.requestDeclaration.toList.map Declaration.name).Sublist [Naming.requestType e] := by
    rw [names_requestDeclaration]
    split <;> simp
  have response : (e.responseDeclarations.map Declaration.name).Sublist
      [Naming.itemType e, Naming.responseType e] := by
    rcases names_responseDeclarations (e := e) with eq | eq <;> simp [eq]
  rw [declaredNames_eq]
  exact (params.append request).append response

/-- The type of the response is always declared. -/
lemma responseType_mem_declaredNames : Naming.responseType e ∈ e.declaredNames := by
  rw [declaredNames_eq, List.mem_append]
  right
  rcases names_responseDeclarations (e := e) with eq | eq <;> simp [eq]

/-- Every name of an endpoint is its base with one of the suffixes. -/
lemma exists_suffix_of_mem (mem : n ∈ e.declaredNames) :
    ∃ suffix ∈ Naming.typeSuffixes, n = Naming.base e ++ suffix := by
  obtain ⟨suffix, isSuffix, eq⟩ := List.mem_map.mp (declaredNames_sublist.subset mem)
  exact ⟨suffix, isSuffix, eq.symm⟩

/-- The declarations of an endpoint have different names, since their suffixes differ. -/
lemma nodup_declaredNames (e : Endpoint) : e.declaredNames.Nodup := by
  refine declaredNames_sublist.nodup ?_
  rw [List.nodup_map_iff_inj_on (by decide)]
  exact fun s hs t ht same => (Naming.append_suffix_inj hs ht same).2

/-- Endpoints with different bases have no name in common. -/
lemma disjoint_declaredNames {e' : Endpoint} (differ : Naming.base e ≠ Naming.base e') :
    e.declaredNames.Disjoint e'.declaredNames := by
  intro n mem mem'
  obtain ⟨suffix, isSuffix, rfl⟩ := exists_suffix_of_mem mem
  obtain ⟨suffix', isSuffix', same⟩ := exists_suffix_of_mem mem'
  exact differ (Naming.append_suffix_inj isSuffix isSuffix' same).1

/-- Only the type of a response can be called like a shared type. -/
lemma eq_responseType_of_mem_common (mem : n ∈ e.declaredNames)
    (common : n ∈ commonTypes.map Prod.fst) : n = Naming.responseType e := by
  have last : ∀ c ∈ commonTypes.map Prod.fst, c.toList.getLast? = some 'e' := by decide
  have only : ∀ s ∈ Naming.typeSuffixes, s.toList.getLast? = some 'e' → s = "Response" := by decide
  have nonempty : ∀ s ∈ Naming.typeSuffixes, s.toList ≠ [] := by decide
  obtain ⟨suffix, isSuffix, rfl⟩ := exists_suffix_of_mem mem
  have ends := last _ common
  rw [String.toList_append, List.getLast?_append_of_ne_nil _ (nonempty _ isSuffix)] at ends
  rw [only _ isSuffix ends]
  rfl

end Endpoint

/-! ## Types of a document -/

namespace Document

variable {d : Document} {n : String}

/-- What is spaced out is still all there. -/
lemma mem_spacedOut {texts : List String} (mem : n ∈ texts) : n ∈ spacedOut texts :=
  List.mem_flatMap.mpr ⟨n, mem, List.mem_cons_of_mem _ (List.mem_singleton_self n)⟩

/-- What is separated is still all there. -/
lemma mem_separated {texts : List String} (mem : n ∈ texts) : n ∈ separated texts := by
  unfold separated
  induction texts with
  | nil => cases mem
  | cons first rest ih =>
    cases rest with
    | nil => exact mem
    | cons next rest =>
      rw [List.intersperse_cons_cons]
      rcases List.mem_cons.mp mem with rfl | mem
      · exact List.mem_cons_self
      · exact List.mem_cons_of_mem _ (List.mem_cons_of_mem _ (ih mem))

/-- The file of types is its head, the shared types, the models if there are any, and for each
endpoint a label and its declarations. -/
lemma typesFile_eq (d : Document) :
    d.typesFile = Text.unlines (d.fileHead "API type definitions" ++
      spacedOut (commonTypes.map Prod.snd) ++
      (if (d.modelDeclarations.map Declaration.text).isEmpty then []
        else ["", "// Models"] ++ spacedOut (d.modelDeclarations.map Declaration.text)) ++
      d.endpoints.flatMap fun e =>
        ["", endpointLabel e] ++ separated (e.declarations.map Declaration.text)) :=
  rfl

/-- A shared type stands in the file of types. -/
lemma common_standsIn {code : String} (mem : (n, code) ∈ commonTypes) :
    Text.StandsIn code d.typesFile := by
  rw [typesFile_eq]
  have isCode : code ∈ spacedOut (commonTypes.map Prod.snd) :=
    mem_spacedOut (List.mem_map_of_mem mem)
  exact Text.standsIn_unlines (by simp only [List.mem_append, isCode, or_true, true_or])

/-- The declaration of a model stands in the file of types. -/
lemma model_standsIn {declaration : Declaration} (mem : declaration ∈ d.modelDeclarations) :
    Text.StandsIn declaration.text d.typesFile := by
  rw [typesFile_eq]
  have isModel := List.mem_map_of_mem (f := Declaration.text) mem
  have some : (d.modelDeclarations.map Declaration.text).isEmpty = false :=
    List.isEmpty_eq_false_iff.mpr (List.ne_nil_of_mem isModel)
  refine Text.standsIn_unlines (List.mem_append_left _ (List.mem_append_right _ ?_))
  rw [some]
  exact List.mem_append_right _ (mem_spacedOut isModel)

/-- The declarations of an endpoint stand in the file of types. -/
lemma endpoint_standsIn {e : Endpoint} (isEndpoint : e ∈ d.endpoints) {declaration : Declaration}
    (mem : declaration ∈ e.declarations) : Text.StandsIn declaration.text d.typesFile := by
  rw [typesFile_eq]
  refine Text.standsIn_unlines (List.mem_append_right _ (List.mem_flatMap.mpr ⟨e, isEndpoint, ?_⟩))
  exact List.mem_append_right _ (mem_separated (List.mem_map_of_mem mem))

/-- The names of the models' types, in order. -/
def modelNames (d : Document) : List String :=
  (d.models.getD []).map fun m => Naming.pascal m.1

/-- The names that models are declared under. -/
lemma names_modelDeclarations (d : Document) :
    d.modelDeclarations.map Declaration.name = d.modelNames := by
  rw [modelDeclarations, List.map_map]
  rfl

/-- The names of all types that the file of types declares, in order. -/
def declaredNames (d : Document) : List String :=
  commonTypes.map Prod.fst ++ d.modelNames ++ d.endpoints.flatMap Endpoint.declaredNames

/-- Every declared name is the name of a declaration in the file. -/
lemma declaredIn_typesFile (mem : n ∈ d.declaredNames) : DeclaredIn n d.typesFile := by
  rcases List.mem_append.mp mem with mem | mem
  · rcases List.mem_append.mp mem with mem | mem
    · obtain ⟨⟨name, code⟩, isCommon, rfl⟩ := List.mem_map.mp mem
      exact ⟨code, common_standsIn isCommon, .inl isCommon⟩
    · rw [← names_modelDeclarations] at mem
      obtain ⟨declaration, isModel, rfl⟩ := List.mem_map.mp mem
      exact declaration.declaredIn (model_standsIn isModel)
  · obtain ⟨e, isEndpoint, mem⟩ := List.mem_flatMap.mp mem
    obtain ⟨declaration, isDeclared, rfl⟩ := List.mem_map.mp mem
    exact declaration.declaredIn (endpoint_standsIn isEndpoint isDeclared)

/-- When endpoints and models are called differently, the declared names differ exactly if no model
is called like a shared type or like a type of an endpoint, and no response's type is called like a
shared type. -/
theorem declaredNames_nodup_iff (distinct : (d.endpoints.map Naming.base ++ d.modelNames).Nodup) :
    d.declaredNames.Nodup ↔
      (∀ n ∈ d.modelNames, n ∉ commonTypes.map Prod.fst ∧ ∀ e ∈ d.endpoints, n ∉ e.declaredNames) ∧
      ∀ e ∈ d.endpoints, Naming.responseType e ∉ commonTypes.map Prod.fst := by
  obtain ⟨endpoints, models, _⟩ := List.nodup_append.mp distinct
  have common : (commonTypes.map Prod.fst).Nodup := by decide
  have apart : (d.endpoints.flatMap Endpoint.declaredNames).Nodup := by
    rw [List.nodup_flatMap]
    exact ⟨fun e _ => e.nodup_declaredNames,
      (List.pairwise_map.mp endpoints).imp Endpoint.disjoint_declaredNames⟩
  -- Within each source the names differ, so only names from two sources are left.
  simp only [declaredNames, List.nodup_append, common, models, apart, true_and,
    List.mem_append, List.mem_flatMap]
  constructor
  · rintro ⟨sharedModel, other⟩
    refine ⟨fun n mem => ⟨fun shared => sharedModel n shared n mem rfl, fun e isEndpoint declared =>
      other n (.inr mem) n ⟨e, isEndpoint, declared⟩ rfl⟩, fun e isEndpoint shared => ?_⟩
    exact other _ (.inl shared) _ ⟨e, isEndpoint, Endpoint.responseType_mem_declaredNames⟩ rfl
  · rintro ⟨model, response⟩
    refine ⟨?_, ?_⟩
    · rintro n shared _ mem rfl
      exact (model n mem).1 shared
    · rintro n mem _ ⟨e, isEndpoint, declared⟩ rfl
      rcases mem with shared | mem
      · refine response e isEndpoint ?_
        rwa [← Endpoint.eq_responseType_of_mem_common declared shared]
      · exact (model n mem).2 e isEndpoint declared

/-- A document with the endpoint `user`, which has a query parameter, and with one model. -/
def withModel (key : String) : Document where
  title := some "Users"
  version := some "1.0.0"
  description := none
  baseUrl := some "https://api.example.com"
  authentication := none
  globalHeaders := none
  timeout := none
  endpoints :=
    [{ id := some "user", name := some "user", method := some "GET", path := some "/user"
       summary := none, description := none, tags := []
       parameters := some
         [{ name := some "page", location := some "query", required := false
            type := some "number", description := none, example_ := .null, enum := none
            format := none, pattern := none, minimum := none, maximum := none
            minLength := none, maxLength := none }]
       requestBody := none
       responses := [⟨some 200, none, none, none, .null⟩]
       deprecated := false }]
  models := some [(key, ⟨none, none, some "object", some [], none, .null⟩)]
  environments := none
  metadata := none

/-- A model that is called unlike everything else. -/
theorem declaredNames_nodup_account :
    ((withModel "account").endpoints.map Naming.base ++ (withModel "account").modelNames).Nodup ∧
      (withModel "account").declaredNames.Nodup := by
  have distinct : ((withModel "account").endpoints.map Naming.base ++
      (withModel "account").modelNames).Nodup := by
    decide +kernel
  exact ⟨distinct, (declaredNames_nodup_iff distinct).mpr (by decide +kernel)⟩

/-- A valid document whose endpoint and model are called differently, and yet the model has the name
of the type of the endpoint's parameters. -/
theorem not_nodup_declaredNames_userParams :
    (withModel "user params").report.isValid = true ∧
      ((withModel "user params").endpoints.map Naming.base ++
        (withModel "user params").modelNames).Nodup ∧
      (∀ n ∈ (withModel "user params").endpoints.map Naming.base ++
        (withModel "user params").modelNames, n ≠ "") ∧
      ¬(withModel "user params").declaredNames.Nodup := by
  decide +kernel

end Document

end ClientSynth
