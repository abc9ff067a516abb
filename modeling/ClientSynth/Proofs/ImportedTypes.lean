import ClientSynth.Proofs.MentionedTypes
import ClientSynth.Proofs.Patterns

/-!
# Imported types

Where the file of services has the types from that its functions mention. The names that it imports
from the file of types are those that its services refer to, each once (`Service.mem_fileTypes`),
and each of them is declared there (`Artifacts.declared_of_mem_fileTypes`). Without a file of types
an endpoint's types are declared in the file of services itself
(`Artifacts.declaresIn_servicesCode`). A line imports from a module if the first literal on it is
the module (`ImportsFrom`), so an import of the client is none from the file of types, whatever the
name of the client is (`not_importsFrom_types`).

The list of imports is made from what services refer to, while the functions are printed from their
endpoints. The two meet in `Endpoint.referencedTypes`: what a function mentions is listed there, and
what is listed is declared for the endpoint or shared by all clients.
-/

namespace ClientSynth

open TypeScript (Declaration)

/-! ## Import lines -/

/-- A line imports something from a module: its first literal is the module, and the last thing on
it. -/
def ImportsFrom (line module : String) : Prop :=
  ∃ clause : String, '\'' ∉ clause.toList ∧
    line = "import " ++ clause ++ " from '" ++ module ++ "';"

/-- The line that imports types from the file of types. -/
def typesImport (names : List String) : String :=
  "import type \x7b " ++ ", ".intercalate names ++ " \x7d from './types';"

/-- The line that imports types names them between braces. -/
lemma typesImport_eq (names : List String) :
    typesImport names = "import type \x7b " ++ ", ".intercalate names ++ " \x7d from './types';" :=
  rfl

section Imports

variable {line : String} {names : List String} {s : Settings}

/-- The imports of the file of services: two lines for the client, and one for types where a file of
types is generated. -/
lemma importLines_eq (names : List String) (s : Settings) :
    importLines names s =
      if s.includeTypes then
        ["import type \x7b RequestConfig \x7d from '" ++ s.clientImport ++ "';",
          "import \x7b " ++ s.clientName ++ " \x7d from '" ++ s.clientFactoryImport ++ "';",
          typesImport names]
      else
        ["import type \x7b APIResponse, RequestConfig \x7d from '" ++ s.clientImport ++ "';",
          "import \x7b " ++ s.clientName ++ " \x7d from '" ++ s.clientFactoryImport ++ "';"] :=
  rfl

/-- With a file of types the types are imported from it. -/
lemma typesImport_mem (h : s.includeTypes = true) : typesImport names ∈ importLines names s := by
  rw [importLines_eq, if_pos h]
  exact List.mem_cons_of_mem _ (List.mem_cons_of_mem _ (List.mem_singleton_self _))

/-- The line that imports types imports from the file of types. -/
lemma importsFrom_typesImport (symbols : ∀ n ∈ names, Naming.IsSymbol n) :
    ImportsFrom (typesImport names) "./types" := by
  refine ⟨"type \x7b " ++ ", ".intercalate names ++ " \x7d", ?_, ?_⟩
  · have inside : '\'' ∉ (", ".intercalate names).toList :=
      Text.not_mem_intercalate (by decide) fun n mem => (symbols n mem).not_mem (by decide)
    simpa using inside
  · rw [typesImport_eq, show "import type \x7b " = "import " ++ "type \x7b " from rfl,
      show " \x7d from './types';" = " \x7d" ++ (" from '" ++ ("./types" ++ "';")) from rfl]
    simp only [String.append_assoc]

/-- What imports starts like an import. -/
lemma ImportsFrom.head? {module : String} (h : ImportsFrom line module) :
    line.toList.head? = some 'i' := by
  obtain ⟨clause, _, rfl⟩ := h
  exact Text.head?_append (Text.head?_append (Text.head?_append (Text.head?_append rfl)))

/-- What a line says after its first quote. -/
def afterQuote (text : List Char) : List Char :=
  (text.dropWhile (· != '\'')).tail

/-- Behind a text without quotes a literal ends at its quote. -/
lemma afterQuote_append {text : List Char} (plain : '\'' ∉ text) (rest : List Char) :
    afterQuote (text ++ '\'' :: rest) = rest := by
  have run : ∀ c ∈ text, (c != '\'') = true := by
    intro c mem
    rw [bne_iff_ne]
    rintro rfl
    exact plain mem
  rw [afterQuote, dropWhile_run run (by simp), List.tail_cons]

lemma toList_import (clause module : String) :
    ("import " ++ clause ++ " from '" ++ module ++ "';").toList =
      "import ".toList ++ clause.toList ++ " from ".toList ++
        '\'' :: (module.toList ++ "';".toList) := by
  simp

/-- A line that imports from one module does not import from the file of types. A client's name with
a quote in it would leave a blank after the first quote. -/
lemma module_eq_of_importsFrom {clause module : String}
    (h : ImportsFrom ("import " ++ clause ++ " from '" ++ module ++ "';") "./types") :
    module = "./types" := by
  obtain ⟨clause', plain', same⟩ := h
  have after := congrArg (afterQuote ∘ String.toList) same
  simp only [Function.comp_apply, toList_import] at after
  have before : '\'' ∉ "import ".toList ++ clause'.toList ++ " from ".toList := by
    simpa using plain'
  rw [afterQuote_append before] at after
  by_cases plain : '\'' ∈ clause.toList
  · -- What follows the first quote holds the blank before the module.
    obtain ⟨front, back, eq, first⟩ := List.eq_append_cons_of_mem plain
    simp only [eq, List.append_assoc, List.cons_append] at after
    rw [← List.append_assoc, afterQuote_append (by simpa using first)] at after
    have blank : ' ' ∈ "./types".toList ++ "';".toList := by
      rw [← after]
      simp
    exact absurd blank (by decide)
  · rw [afterQuote_append (by simpa using plain)] at after
    exact String.toList_inj.mp (List.append_cancel_right after)

/-- Without a file of types, only modules of the client are imported from. -/
lemma not_importsFrom_types (h : s.includeTypes = false) (client : s.clientImport ≠ "./types")
    (factory : s.clientFactoryImport ≠ "./types") :
    ∀ line ∈ importLines names s, ¬ImportsFrom line "./types" := by
  rw [importLines_eq, h, if_neg Bool.false_ne_true]
  have types : "import type \x7b APIResponse, RequestConfig \x7d from '" ++ s.clientImport ++ "';" =
      "import " ++ "type \x7b APIResponse, RequestConfig \x7d" ++ " from '" ++ s.clientImport ++
        "';" := rfl
  have object : "import \x7b " ++ s.clientName ++ " \x7d from '" ++ s.clientFactoryImport ++ "';" =
      "import " ++ ("\x7b " ++ s.clientName ++ " \x7d") ++ " from '" ++ s.clientFactoryImport ++
        "';" := by
    rw [show "import \x7b " = "import " ++ "\x7b " from rfl,
      show " \x7d from '" = " \x7d" ++ " from '" from rfl]
    simp only [String.append_assoc]
  intro line mem imports
  rcases List.mem_pair.mp mem with rfl | rfl
  · rw [types] at imports
    exact client (module_eq_of_importsFrom imports)
  · rw [object] at imports
    exact factory (module_eq_of_importsFrom imports)

end Imports

/-! ## The file of services -/

namespace ClientCall

/-- Every call passes the type of its response to a method of the client. -/
lemma text_eq (call : ClientCall) (client type url : String) :
    ∃ method arguments,
      call.text client type url =
        client ++ "." ++ method ++ "<" ++ type ++ ">(" ++ arguments := by
  cases call with
  | get params =>
    refine ⟨"get", url ++ ", " ++ argument params "params" ++ ", config)", ?_⟩
    show client ++ ".get<" ++ type ++ ">(" ++ url ++ ", " ++ argument params "params" ++
      ", config)" = _
    rw [show ".get<" = "." ++ ("get" ++ "<") from rfl]
    simp only [String.append_assoc]
  | send method data =>
    refine ⟨Text.lowerString method, url ++ ", " ++ argument data "data" ++ ", config)", ?_⟩
    show client ++ "." ++ Text.lowerString method ++ "<" ++ type ++ ">(" ++ url ++ ", " ++
      argument data "data" ++ ", config)" = _
    simp only [String.append_assoc]
  | delete =>
    refine ⟨"delete", url ++ ", config)", ?_⟩
    show client ++ ".delete<" ++ type ++ ">(" ++ url ++ ", config)" = _
    rw [show ".delete<" = "." ++ ("delete" ++ "<") from rfl]
    simp only [String.append_assoc]
  | request method params data =>
    refine ⟨"request", "\x7b " ++ (", ".intercalate (["method: '" ++ method ++ "'",
      "url: " ++ url] ++ (if params then ["params"] else []) ++ (if data then ["data"] else []) ++
        ["...config"]) ++ " \x7d)"), ?_⟩
    show client ++ ".request<" ++ type ++ ">(\x7b " ++ ", ".intercalate _ ++ " \x7d)" = _
    rw [show ".request<" = "." ++ ("request" ++ "<") from rfl,
      show ">(\x7b " = ">(" ++ "\x7b " from rfl]
    simp only [String.append_assoc]

end ClientCall

namespace Endpoint

variable {e : Endpoint} {s : Settings}

/-- The head of a function has its name, its parameters and the type of its result. -/
lemma functionHead_eq (e : Endpoint) :
    e.functionHead = "export const " ++ Naming.function e ++ " = async (" ++
      ", ".intercalate (e.signature.map Binding.text) ++ "): " ++ e.resultType ++ " => \x7b" := by
  have unfolded : e.functionHead = "export const " ++ Naming.function e ++ " = async (" ++
      ", ".intercalate (e.signature.map Binding.text) ++ "): Promise<APIResponse<" ++
      Naming.responseType e ++ ">> => \x7b" := rfl
  rw [unfolded, resultType_eq,
    show "): Promise<APIResponse<" = "): " ++ "Promise<APIResponse<" from rfl,
    show ">> => \x7b" = ">>" ++ " => \x7b" from rfl]
  simp only [String.append_assoc]

/-- The code of a service is the lines of its function. -/
lemma code_eq (e : Endpoint) (s : Settings) :
    (e.service s).code = "\n".intercalate (e.functionLines s) := by
  rw [service]

lemma functionHead_mem : e.functionHead ∈ e.functionLines s :=
  List.mem_append_right _ List.mem_cons_self

lemma call_mem :
    "    const response = await " ++
      e.clientCall.text s.clientName (Naming.responseType e) e.urlLiteral ++ ";" ∈
        e.functionLines s :=
  List.mem_append_right _ (List.mem_cons_of_mem _ (List.mem_cons_of_mem _ List.mem_cons_self))

end Endpoint

/-- The names that the file of services imports from the file of types. -/
def Service.fileTypes (services : List Service) : List String :=
  if (importedTypes services).isEmpty then ["APIResponse"] else importedTypes services

/-- What is left when duplicates are erased has none. -/
lemma nodup_eraseDups {α : Type} [BEq α] [LawfulBEq α] (xs : List α) : xs.eraseDups.Nodup :=
  match xs with
  | [] => List.nodup_nil
  | x :: xs => by
    rw [List.eraseDups_cons, List.nodup_cons, List.mem_eraseDups]
    exact ⟨by simp, nodup_eraseDups _⟩
termination_by xs.length
decreasing_by
  have := List.length_filter_le (fun y => !y == x) xs
  rw [List.length_cons]
  omega

/-- No type is imported twice. -/
lemma Service.nodup_fileTypes (services : List Service) : (fileTypes services).Nodup := by
  unfold fileTypes
  split
  · exact List.nodup_singleton _
  · exact nodup_eraseDups _

/-- Imported is what some endpoint refers to, and the type that every function returns. -/
lemma Service.mem_fileTypes {services : List Service} {n : String} :
    n ∈ fileTypes services ↔
      n = "APIResponse" ∨ ∃ service ∈ services, n ∈ service.endpoint.referencedTypes := by
  have imported : ∀ n, n ∈ importedTypes services ↔
      ∃ service ∈ services, n ∈ service.endpoint.referencedTypes := by
    intro n
    rw [importedTypes, List.mem_eraseDups, List.mem_flatMap]
  have common : ∀ service : Service, "APIResponse" ∈ service.endpoint.referencedTypes :=
    fun _ => List.mem_append_left _ (List.mem_append_left _ List.mem_cons_self)
  unfold fileTypes
  split
  case isTrue none =>
    rw [List.isEmpty_iff] at none
    rw [none] at imported
    rw [List.mem_singleton, ← imported]
    simp
  case isFalse some =>
    rw [List.isEmpty_iff] at some
    obtain ⟨m, mem⟩ := List.exists_mem_of_ne_nil _ some
    obtain ⟨service, isService, _⟩ := (imported m).mp mem
    rw [imported]
    refine ⟨.inr, ?_⟩
    -- Every service refers to the type of all responses, so it is listed as soon as there is one.
    rintro (rfl | listed)
    · exact ⟨service, isService, common service⟩
    · exact listed

/-- What an endpoint refers to is named by a symbol. -/
lemma Endpoint.isSymbol_referencedTypes {e : Endpoint} {n : String}
    (mem : n ∈ e.referencedTypes) : Naming.IsSymbol n := by
  rcases mem_declaredNames_of_referenced mem with rfl | declared
  · decide
  · obtain ⟨suffix, isSuffix, rfl⟩ := exists_suffix_of_mem declared
    have symbols : ∀ s ∈ Naming.typeSuffixes, Naming.IsSymbol s := by decide
    exact Naming.isSymbol_base.append (symbols _ isSuffix)

/-- What is imported is named by a symbol. -/
lemma Service.isSymbol_fileTypes {services : List Service} :
    ∀ n ∈ fileTypes services, Naming.IsSymbol n := by
  intro n mem
  rcases mem_fileTypes.mp mem with rfl | ⟨_, _, referenced⟩
  · decide
  · exact Endpoint.isSymbol_referencedTypes referenced

/-- The declarations that the file of services holds. -/
def Service.inlinedTypes (services : List Service) (s : Settings) : List String :=
  if s.includeTypes then [] else services.flatMap Service.types

namespace Document

variable {d : Document} {services : List Service} {s : Settings} {part : String}

/-- The parts of the file of services. -/
def servicesParts (d : Document) (services : List Service) (s : Settings) : List String :=
  d.fileHead "API service functions" ++ [""] ++
    importLines (Service.fileTypes services) s ++
    (if (Service.inlinedTypes services s).isEmpty then []
      else ["", "// Types"] ++ spacedOut (Service.inlinedTypes services s)) ++
    spacedOut (services.map Service.code)

/-- The file of services is made of its parts, each on lines of its own. -/
lemma servicesFile_eq (d : Document) (services : List Service) (s : Settings) :
    servicesFile d services s = Text.unlines (d.servicesParts services s) :=
  rfl

/-- The imports are parts of the file. -/
lemma import_mem_servicesParts (mem : part ∈ importLines (Service.fileTypes services) s) :
    part ∈ d.servicesParts services s := by
  simp only [servicesParts, List.mem_append, mem, or_true, true_or]

/-- The code of each service is a part of the file. -/
lemma code_mem_servicesParts {service : Service} (mem : service ∈ services) :
    service.code ∈ d.servicesParts services s :=
  List.mem_append_right _ (mem_spacedOut (List.mem_map_of_mem mem))

/-- The types that are declared in place are parts of the file. -/
lemma type_mem_servicesParts (mem : part ∈ Service.inlinedTypes services s) :
    part ∈ d.servicesParts services s := by
  have some : (Service.inlinedTypes services s).isEmpty = false :=
    List.isEmpty_eq_false_iff.mpr (List.ne_nil_of_mem mem)
  refine List.mem_append_left _ (List.mem_append_right _ ?_)
  rw [some]
  exact List.mem_append_right _ (mem_spacedOut mem)

end Document

/-! ## Types in the file of services -/

namespace Artifacts

section Document

variable {d : Document} {s : Settings} {e : Endpoint} {n : String}

/-- The file of services that is generated for a document. -/
lemma servicesCode_eq (d : Document) (s : Settings) :
    (ofDocument d s).servicesCode =
      Text.unlines (d.servicesParts (d.endpoints.map fun e => e.service s) s) :=
  Document.servicesFile_eq d _ s

/-- The lines of each function stand in the file of services. -/
lemma functionLine_standsIn (isEndpoint : e ∈ d.endpoints) {line : String}
    (mem : line ∈ e.functionLines s) : Text.StandsIn line (ofDocument d s).servicesCode := by
  have code : (e.service s).code ∈ d.servicesParts (d.endpoints.map fun e => e.service s) s :=
    Document.code_mem_servicesParts (List.mem_map_of_mem isEndpoint)
  rw [Endpoint.code_eq] at code
  rw [servicesCode_eq]
  exact (Text.standsIn_unlines code).line mem

/-- What is imported from the file of types is declared there. -/
lemma declared_of_mem_fileTypes (mem : n ∈ Service.fileTypes (ofDocument d s).services) :
    (∃ code, (n, code) ∈ commonTypes ∧ Text.StandsIn code d.typesFile) ∨
      ∃ e ∈ d.endpoints, e.DeclaresIn n d.typesFile := by
  have common : ∃ code, ("APIResponse", code) ∈ commonTypes ∧ Text.StandsIn code d.typesFile :=
    ⟨_, List.mem_cons_self, Document.common_standsIn List.mem_cons_self⟩
  rcases Service.mem_fileTypes.mp mem with rfl | ⟨_, isService, referenced⟩
  · exact .inl common
  · obtain ⟨e, isEndpoint, rfl⟩ := List.mem_map.mp isService
    rcases Endpoint.mem_declaredNames_of_referenced referenced with rfl | declared
    · exact .inl common
    · exact .inr ⟨e, isEndpoint, Endpoint.declaresIn declared fun _ isDeclaration =>
        Document.endpoint_standsIn isEndpoint isDeclaration⟩

/-- Without a file of types, the types of an endpoint are declared in the file of services. -/
lemma declaresIn_servicesCode (h : s.includeTypes = false) (isEndpoint : e ∈ d.endpoints)
    (mem : n ∈ e.declaredNames) : e.DeclaresIn n (ofDocument d s).servicesCode := by
  refine Endpoint.declaresIn mem fun declaration isDeclaration => ?_
  rw [servicesCode_eq]
  refine Text.standsIn_unlines (Document.type_mem_servicesParts ?_)
  rw [Service.inlinedTypes, h, if_neg Bool.false_ne_true, List.mem_flatMap]
  exact ⟨e.service s, List.mem_map_of_mem isEndpoint, List.mem_map_of_mem isDeclaration⟩

end Document

end Artifacts

end ClientSynth
