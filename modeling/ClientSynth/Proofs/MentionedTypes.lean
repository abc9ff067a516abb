import ClientSynth.Proofs.DeclaredTypes

/-!
# Mentioned types

A service function mentions types in its signature and in the call that it makes. Their names are
read off the texts of these types (`TypeScript.typeNames`), without a look at the list of types that
it refers to or at the declarations. What is read is what is listed (`Endpoint.mem_mentionedTypes`),
and what is listed is declared for the endpoint or shared
(`Endpoint.mem_declaredNames_of_referenced`).

Literals are left out when names are read off a type, so that a word in a literal is no name. The
types in question are few forms of text, a name alone, a name in brackets or with a word behind it,
and for each of these the names are found by reading the fixed part once and the name as a run
(`TypeScript.typeNames_symbol`).
-/

namespace ClientSynth

open TypeScript (TypeExpr Declaration)

/-! ## Names in the text of a type -/

namespace TypeScript

/-- What a reader of a type's text is in. -/
inductive Reading where
  | code
  | literal
  | escape

/-- The characters outside literals. Of a literal only its opening quote is left. -/
def codeChars : Reading → List Char → List Char
  | _, [] => []
  | .code, c :: rest => c :: codeChars (if c = '\'' then .literal else .code) rest
  | .literal, c :: rest =>
    codeChars (if c = '\'' then .code else if c = '\\' then .escape else .literal) rest
  | .escape, _ :: rest => codeChars .literal rest

/-- The types of the language. -/
def languageTypes : List String :=
  ["any", "number", "boolean", "string", "undefined", "Record", "Promise"]

/-- The names of types in a text, other than those of the language. -/
def typeNames (text : String) : List String :=
  ((Text.runs isIdentifierPart (codeChars .code text.toList)).map String.ofList).filter
    fun name => !languageTypes.contains name

/-- Characters that end a name and open no literal. -/
def IsGap (gap : List Char) : Prop :=
  gap ≠ [] ∧ ∀ c ∈ gap, isIdentifierPart c = false ∧ c ≠ '\''

instance (gap : List Char) : Decidable (IsGap gap) :=
  decidable_of_iff (gap ≠ [] ∧ gap.all (fun c => !isIdentifierPart c && c != '\'') = true)
    (by simp [IsGap])

section Reading

variable {code : List Char}

/-- Code without quotes is kept as it is. -/
lemma codeChars_code (plain : '\'' ∉ code) (rest : List Char) :
    codeChars .code (code ++ rest) = code ++ codeChars .code rest := by
  induction code with
  | nil => rfl
  | cons c code ih =>
    rw [List.mem_cons, not_or] at plain
    rw [List.cons_append, codeChars, if_neg (Ne.symm plain.1), ih plain.2, List.cons_append]

/-- A character of a literal leaves the reader in the literal. -/
lemma codeChars_literalChar (c : Char) (rest : List Char) :
    codeChars .literal (literalChar c ++ rest) = codeChars .literal rest := by
  unfold literalChar
  split_ifs <;> simp_all [codeChars]

/-- The quote at the end of a literal is the first that its text does not escape. -/
lemma codeChars_literal (text rest : List Char) :
    codeChars .literal (text.flatMap literalChar ++ '\'' :: rest) = codeChars .code rest := by
  induction text with
  | nil => rfl
  | cons c text ih => rw [List.flatMap_cons, List.append_assoc, codeChars_literalChar, ih]

/-- A literal is left out up to its closing quote. -/
lemma codeChars_literalChars (text rest : List Char) :
    codeChars .code (literalChars text ++ rest) = '\'' :: codeChars .code rest := by
  rw [literalChars, List.cons_append, List.cons_append, codeChars, if_pos rfl, List.append_assoc,
    List.singleton_append, codeChars_literal]

/-- Alternatives of literals hold no name. -/
lemma codeChars_literals (first : String) (rest : List String) :
    ∀ c ∈ codeChars .code (" | ".intercalate ((first :: rest).map literal)).toList,
      isIdentifierPart c = false := by
  induction rest generalizing first with
  | nil =>
    have := codeChars_literalChars first.toList []
    rw [List.append_nil] at this
    rw [List.map_singleton, String.intercalate_singleton, literal, String.toList_ofList, this,
      codeChars, List.forall_mem_singleton]
    decide
  | cons next rest ih =>
    rw [List.map_cons, List.map_cons, String.intercalate_cons_cons, ← List.map_cons,
      String.toList_append, String.toList_append, literal, String.toList_ofList, List.append_assoc,
      codeChars_literalChars, codeChars_code (Text.not_mem_ofList (by decide)),
      List.forall_mem_cons, List.forall_mem_append, String.toList_ofList]
    have separator : IsGap [' ', '|', ' '] := by decide
    exact ⟨by decide, fun c mem => (separator.2 c mem).1, ih next⟩

end Reading

section Names

variable {name : String}

/-- Letters and digits may be parts of an identifier. -/
lemma isIdentifierPart_of_isAlnum {c : Char} (h : Text.isAlnum c = true) :
    isIdentifierPart c = true := by
  rw [Text.isAlnum] at h
  rw [isIdentifierPart, h, Bool.true_or, Bool.true_or]

/-- No symbol has a quote in it. -/
lemma quote_not_mem (symbol : Naming.IsSymbol name) : '\'' ∉ name.toList :=
  symbol.not_mem (by decide)

/-- A single word is a name unless it belongs to the language. -/
lemma typeNames_word (symbol : Naming.IsSymbol name) (some : name ≠ "") :
    typeNames name = [name].filter fun name => !languageTypes.contains name := by
  have read := codeChars_code (quote_not_mem symbol) []
  have run := Text.frontRun_word (fun c mem => isIdentifierPart_of_isAlnum (symbol c mem)) []
  rw [List.append_nil] at read run
  rw [typeNames, read, codeChars, List.append_nil, Text.runs, run]
  simp [Text.frontRun, some]

/-- A symbol that does not belong to the language is the one name in itself. -/
lemma typeNames_symbol (symbol : Naming.IsSymbol name) (some : name ≠ "")
    (foreign : name ∉ languageTypes) : typeNames name = [name] := by
  rw [typeNames_word symbol some]
  simp [foreign]

/-- A symbol ends where something stands that is no part of a name. -/
lemma typeNames_append {gap : List Char} (symbol : Naming.IsSymbol name) (some : name ≠ "")
    (isGap : IsGap gap) (rest : String) :
    typeNames (name ++ String.ofList gap ++ rest) = typeNames name ++ typeNames rest := by
  rw [typeNames_word symbol some, typeNames, String.toList_append, String.toList_append,
    String.toList_ofList, List.append_assoc, codeChars_code (quote_not_mem symbol),
    codeChars_code fun mem => (isGap.2 _ mem).2 rfl,
    Text.runs_word (by simpa using some)
      (fun c mem => isIdentifierPart_of_isAlnum (symbol c mem)) isGap.1
      (fun c mem => (isGap.2 c mem).1),
    List.map_cons, String.ofList_toList, ← List.singleton_append, List.filter_append]
  rfl

end Names

end TypeScript

/-! ## Types that a service function mentions -/

/-- No name of a type is one that belongs to the language. -/
lemma Naming.not_mem_languageTypes {base suffix : String} (mem : suffix ∈ typeSuffixes) :
    base ++ suffix ∉ TypeScript.languageTypes := by
  have apart : ∀ s ∈ typeSuffixes, ∀ t ∈ TypeScript.languageTypes, ¬s.toList <:+ t.toList := by
    decide
  intro isLanguage
  refine apart _ mem _ isLanguage ?_
  rw [String.toList_append]
  exact List.suffix_append _ _

/-- The names of types are symbols. -/
lemma Naming.isSymbol_suffixed {e : Endpoint} {suffix : String} (mem : suffix ∈ typeSuffixes) :
    IsSymbol (base e ++ suffix) := by
  have symbols : ∀ s ∈ typeSuffixes, IsSymbol s := by decide
  exact isSymbol_base.append (symbols _ mem)

/-- No type has an empty name. -/
lemma Naming.suffixed_ne_empty {base suffix : String} (mem : suffix ∈ typeSuffixes) :
    base ++ suffix ≠ "" := by
  have nonempty : ∀ s ∈ typeSuffixes, s ≠ "" := by decide
  intro empty
  exact nonempty _ mem (String.append_eq_empty_iff.mp empty).2

namespace TypeScript

/-- The type of a path parameter mentions none that is declared. -/
lemma typeNames_ofParameter (p : Parameter) : typeNames (TypeExpr.ofParameter p).text = [] := by
  unfold TypeExpr.ofParameter TypeExpr.parameterSchema TypeExpr.ofSchema
  split
  case h_1 =>
    split
    case h_1 first rest _ =>
      rw [typeNames, TypeExpr.text, Text.runs_gap (codeChars_literals first rest)]
      rfl
    case h_2 => rfl
  -- the other texts are fixed, and read by evaluation
  all_goals rfl

end TypeScript

namespace Endpoint

variable {e : Endpoint} {n : String}

/-- The type of what the service function returns. -/
def resultType (e : Endpoint) : String :=
  "Promise<APIResponse<" ++ Naming.responseType e ++ ">>"

/-- The type of the result names the response. -/
lemma resultType_eq (e : Endpoint) :
    e.resultType = "Promise<APIResponse<" ++ Naming.responseType e ++ ">>" :=
  rfl

/-- The names of the types that the service function mentions: in its signature, and as the type
argument of the call that it makes. -/
def mentionedTypes (e : Endpoint) : List String :=
  e.signature.flatMap (fun b => TypeScript.typeNames b.type) ++
    TypeScript.typeNames e.resultType ++ TypeScript.typeNames (Naming.responseType e)

/-- The name of a type is the one name in itself. -/
lemma typeNames_suffixed {suffix : String} (mem : suffix ∈ Naming.typeSuffixes) :
    TypeScript.typeNames (Naming.base e ++ suffix) = [Naming.base e ++ suffix] :=
  TypeScript.typeNames_symbol (Naming.isSymbol_suffixed mem) (Naming.suffixed_ne_empty mem)
    (Naming.not_mem_languageTypes mem)

/-- The type of parameters mentions itself. -/
lemma typeNames_paramsType : TypeScript.typeNames (Naming.paramsType e) = [Naming.paramsType e] :=
  typeNames_suffixed (by decide)

/-- The optional type of parameters mentions itself only. -/
lemma typeNames_paramsType_or_undefined :
    TypeScript.typeNames (Naming.paramsType e ++ " | undefined") = [Naming.paramsType e] := by
  have symbol : Naming.IsSymbol (Naming.paramsType e) := Naming.isSymbol_suffixed (by decide)
  have alternatives : " | undefined" = " | " ++ "undefined" := rfl
  rw [alternatives, ← String.append_assoc,
    TypeScript.typeNames_append symbol (Naming.suffixed_ne_empty (by decide)) (by decide),
    typeNames_paramsType]
  rfl

/-- The type of the request mentions itself. -/
lemma typeNames_requestType :
    TypeScript.typeNames (Naming.requestType e) = [Naming.requestType e] :=
  typeNames_suffixed (by decide)

/-- The type of the response mentions itself. -/
lemma typeNames_responseType :
    TypeScript.typeNames (Naming.responseType e) = [Naming.responseType e] :=
  typeNames_suffixed (by decide)

/-- The type of the result mentions the wrapper and the response. -/
lemma typeNames_resultType :
    TypeScript.typeNames e.resultType = ["APIResponse", Naming.responseType e] := by
  have parts : e.resultType =
      "Promise" ++ "<" ++ ("APIResponse" ++ "<" ++ (Naming.responseType e ++ ">>" ++ "")) := by
    rw [resultType_eq, show "Promise<APIResponse<" = "Promise" ++ ("<" ++ ("APIResponse" ++ "<"))
      from rfl, String.append_empty]
    simp only [String.append_assoc]
  have symbol : Naming.IsSymbol (Naming.responseType e) := Naming.isSymbol_suffixed (by decide)
  rw [parts, TypeScript.typeNames_append (by decide) (by decide) (by decide),
    TypeScript.typeNames_append (by decide) (by decide) (by decide),
    TypeScript.typeNames_append symbol (Naming.suffixed_ne_empty (by decide)) (by decide),
    typeNames_responseType]
  rfl

/-- The types that a signature mentions, by what the endpoint has. -/
lemma typeNames_signature :
    e.signature.flatMap (fun b => TypeScript.typeNames b.type) =
      (if e.hasQuery then [Naming.paramsType e] else []) ++
        (if e.hasBody then [Naming.requestType e] else []) ++ ["RequestConfig"] := by
  have paths : (e.pathParameters.map fun p =>
      (⟨bindingName p, false, (TypeExpr.ofParameter p).text⟩ : Binding)).flatMap
        (fun b => TypeScript.typeNames b.type) = [] := by
    simp [TypeScript.typeNames_ofParameter]
  have config : TypeScript.typeNames "RequestConfig" = ["RequestConfig"] := rfl
  rw [signature, List.flatMap_append, List.flatMap_append, List.flatMap_append, paths,
    List.nil_append, List.flatMap_singleton, config]
  congr 2
  · split
    · split
      · exact (List.flatMap_singleton _ _).trans typeNames_paramsType_or_undefined
      · exact (List.flatMap_singleton _ _).trans typeNames_paramsType
    · rfl
  · split
    · exact (List.flatMap_singleton _ _).trans typeNames_requestType
    · rfl

/-- Apart from the configuration's type, what the service function mentions is what it lists. -/
lemma mem_mentionedTypes :
    n ∈ e.mentionedTypes ↔ n = "RequestConfig" ∨ n ∈ e.referencedTypes := by
  rw [mentionedTypes, typeNames_signature, typeNames_resultType, typeNames_responseType,
    referencedTypes]
  simp only [List.mem_append, List.mem_cons, List.not_mem_nil, or_false]
  constructor
  · rintro ((((h | h) | h) | h | h) | h) <;> simp only [h, true_or, or_true]
  · rintro (h | ((h | h) | h) | h) <;> simp only [h, true_or, or_true]

/-- Declarations for an endpoint have no comment before them. -/
lemma declares_text {declaration : Declaration} (mem : declaration ∈ e.declarations) :
    Declares declaration.text declaration.name := by
  simp only [declarations, List.mem_append, Option.mem_toList] at mem
  rcases mem with (params | request) | response
  · unfold paramsDeclaration at params
    split at params
    · cases params
    · cases params
      exact Declaration.declares_interfaceText _ _
  · obtain ⟨body, _, rfl⟩ := Option.map_eq_some_iff.mp request
    split
    · exact Declaration.declares_interfaceText _ _
    · exact Declaration.declares_alias _ _
  · unfold responseDeclarations responseDeclarationsOf at response
    split at response
    · rw [List.mem_singleton.mp response]
      exact Declaration.declares_alias _ _
    · split at response
      · rw [List.mem_singleton.mp response]
        exact Declaration.declares_interfaceText _ _
      · rcases List.mem_pair.mp response with rfl | rfl
        · exact Declaration.declares_interfaceText _ _
        · exact Declaration.declares_alias _ _
      · rw [List.mem_singleton.mp response]
        exact Declaration.declares_alias _ _

/-- The type of parameters is declared if there is a query. -/
lemma paramsType_mem_declaredNames (h : e.hasQuery = true) :
    Naming.paramsType e ∈ e.declaredNames := by
  have some : (e.parameters.getD []).filter Parameter.isInUrl ≠ [] := by
    rw [hasQuery, Bool.not_eq_true', List.isEmpty_eq_false_iff] at h
    obtain ⟨p, mem⟩ := List.exists_mem_of_ne_nil _ h
    obtain ⟨isParameter, inQuery⟩ := List.mem_filter.mp mem
    refine List.ne_nil_of_mem (a := p) (List.mem_filter.mpr ⟨isParameter, ?_⟩)
    rw [Parameter.isInUrl, inQuery, Bool.true_or]
  rw [declaredNames_eq, names_paramsDeclaration, if_neg some]
  exact List.mem_append_left _ (List.mem_append_left _ (List.mem_singleton_self _))

/-- The type of the request is declared if there is a body. -/
lemma requestType_mem_declaredNames (h : e.hasBody = true) :
    Naming.requestType e ∈ e.declaredNames := by
  rw [declaredNames_eq, names_requestDeclaration, if_pos h]
  exact List.mem_append_left _ (List.mem_append_right _ (List.mem_singleton_self _))

/-- A listed type is the type of all responses, or declared for the endpoint. -/
lemma mem_declaredNames_of_referenced (mem : n ∈ e.referencedTypes) :
    n = "APIResponse" ∨ n ∈ e.declaredNames := by
  simp only [referencedTypes, List.mem_append, List.mem_singleton] at mem
  rcases mem with ((rfl | params) | request) | rfl
  · exact .inl rfl
  · split at params
    case isTrue h =>
      rw [List.mem_singleton.mp params]
      exact .inr (paramsType_mem_declaredNames h)
    case isFalse => cases params
  · split at request
    case isTrue h =>
      rw [List.mem_singleton.mp request]
      exact .inr (requestType_mem_declaredNames h)
    case isFalse => cases request
  · exact .inr responseType_mem_declaredNames

/-- A type is declared in a file by one of the declarations for an endpoint. -/
def DeclaresIn (e : Endpoint) (name file : String) : Prop :=
  ∃ declaration ∈ e.declarations,
    Declares declaration.text name ∧ Text.StandsIn declaration.text file

/-- A declared name is declared wherever the declarations of the endpoint stand. -/
lemma declaresIn {file : String} (mem : n ∈ e.declaredNames)
    (stand : ∀ declaration ∈ e.declarations, Text.StandsIn declaration.text file) :
    e.DeclaresIn n file := by
  obtain ⟨declaration, isDeclaration, rfl⟩ := List.mem_map.mp mem
  exact ⟨declaration, isDeclaration, declares_text isDeclaration, stand _ isDeclaration⟩

end Endpoint

end ClientSynth
