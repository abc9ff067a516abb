import ClientSynth.Proofs.Collisions
import ClientSynth.Proofs.DeclaredTypes
import ClientSynth.Proofs.MentionedTypes

/-!
# Usable names

A declared name can be used when it is an identifier and no reserved word. Of the symbols made from
a name only the hooks always can. The first letter or digit of a name is the one its PascalCase form
starts with (`Naming.head?_pascal`), so a type's name can be used exactly when this is no digit, and
a function's unless it is a verb alone that is a reserved word. `Artifacts.usable_names_iff` puts
this together for all names that a client declares.

All reserved words are in lower case, so a name with a capital in it is none. Types have one in
their suffix, functions in what follows the verb, and no reserved word starts like a hook. This
leaves functions of a verb alone.
-/

namespace ClientSynth

/-- A name that can be declared: an identifier that is no reserved word. -/
def TypeScript.IsUsable (n : String) : Prop :=
  isIdentifier n.toList = true ∧ n ∉ reservedWords

instance (n : String) : Decidable (TypeScript.IsUsable n) :=
  inferInstanceAs (Decidable (_ ∧ _))

open TypeScript (IsUsable)

namespace Naming

variable {e : Endpoint} {s suffix : String}

/-! ## The start of a symbol -/

/-- The first ASCII letter or digit of a text. -/
def initial? (s : String) : Option Char :=
  s.toList.find? Text.isAlnum

/-- Capitalised words start with the capital of their first character. -/
lemma head?_capitalised (words : List (List Char)) :
    (words.flatMap capitalised).head? = words.flatten.head?.map Char.toUpper := by
  induction words with
  | nil => rfl
  | cons word words ih =>
    cases word with
    | nil => exact ih
    | cons c rest => rfl

/-- A text in PascalCase starts with the first letter or digit of the text, in upper case. -/
lemma head?_pascal (s : String) : (pascal s).toList.head? = (initial? s).map Char.toUpper := by
  rw [pascal, String.toList_ofList, pascalChars, head?_capitalised, words, Text.flatten_runs,
    List.head?_filter]
  rfl

/-- A capital of what is no digit is no digit. -/
lemma isDigit_toUpper_initial? {c : Char} (first : initial? s = some c) :
    c.toUpper.isDigit = c.isDigit :=
  of_isAlnum (P := fun c => c.toUpper.isDigit = c.isDigit) (by decide) (List.find?_some first)

/-- Pascal case is empty exactly if the name has no letter or digit. -/
lemma pascal_eq_empty_iff : pascal s = "" ↔ initial? s = none := by
  rw [← String.toList_eq_nil_iff, ← List.head?_eq_none_iff, head?_pascal, Option.map_eq_none_iff]

/-- A type's name does not start with a digit exactly when the first letter or digit of what it is
made from is a letter. -/
lemma letter_head?_pascal_iff :
    (∃ c, (pascal s).toList.head? = some c ∧ c.isDigit = false) ↔
      ∃ c, initial? s = some c ∧ c.isDigit = false := by
  rw [head?_pascal]
  constructor
  · rintro ⟨_, first, letter⟩
    obtain ⟨c, here, rfl⟩ := Option.map_eq_some_iff.mp first
    exact ⟨c, here, isDigit_toUpper_initial? here ▸ letter⟩
  · rintro ⟨c, here, letter⟩
    exact ⟨c.toUpper, by rw [here]; rfl, (isDigit_toUpper_initial? here).trans letter⟩

/-! ## Symbols that can be used -/

/-- Reserved words are in lower case. -/
lemma isLower_of_reserved (reserved : s ∈ TypeScript.reservedWords) :
    ∀ c ∈ s.toList, c.isLower = true := by
  have lower : ∀ w ∈ TypeScript.reservedWords, w.toList.all Char.isLower = true := by decide
  exact List.all_eq_true.mp (lower s reserved)

/-- A name with a character other than a lower-case letter is no reserved word. -/
lemma not_reserved {c : Char} (mem : c ∈ s.toList) (other : c.isLower = false) :
    s ∉ TypeScript.reservedWords := by
  intro reserved
  rw [isLower_of_reserved reserved c mem] at other
  cases other

/-- Hooks can always be used. -/
lemma isUsable_hookNameOf (kind : HookKind) : IsUsable (e.hookNameOf kind) := by
  obtain ⟨rest, eq⟩ : ∃ rest, e.hookNameOf kind = "use" ++ rest := by
    cases kind with
    | query => exact ⟨base e, rfl⟩
    | mutation => exact ⟨base e ++ "Mutation", String.append_assoc ..⟩
  have chars : (e.hookNameOf kind).toList = 'u' :: 's' :: 'e' :: rest.toList := by
    rw [eq, String.toList_append]
    rfl
  refine ⟨(isSymbol_hookNameOf kind).isIdentifier_iff.mpr ⟨'u', by rw [chars]; rfl, by decide⟩, ?_⟩
  intro reserved
  have starts : ∀ w ∈ TypeScript.reservedWords, "use".toList.isPrefixOf w.toList = false := by
    decide
  have differs := starts _ reserved
  rw [chars] at differs
  cases differs

/-- A function can be used unless it is a reserved word for want of a name. -/
lemma isUsable_function_iff (known : IsWord (Method.all.map Method.word) e.method) :
    IsUsable (function e) ↔
      (e.method = some "DELETE" → initial? (e.name.getD "") ≠ none) := by
  constructor
  · rintro ⟨_, unreserved⟩ delete none
    rw [function, base, pascal_eq_empty_iff.mpr none, delete] at unreserved
    exact unreserved (by decide)
  · refine fun named => ⟨isIdentifier_function known, fun reserved => ?_⟩
    -- A reserved word is a run of lower-case letters, so it is the verb alone.
    have empty : base e = "" := by
      rw [← String.toList_eq_nil_iff, ← dropWhile_function known, List.dropWhile_eq_nil_iff]
      exact isLower_of_reserved reserved
    have only : ∀ m ∈ Method.all.map Method.word, verb m ∈ TypeScript.reservedWords →
        m = "DELETE" := by
      decide
    obtain ⟨m, isMethod, eq⟩ := known
    rw [function, empty, String.append_empty, eq, Option.getD_some] at reserved
    exact named (by rw [eq, only m isMethod reserved]) (pascal_eq_empty_iff.mp empty)

/-- A type of an endpoint can be used unless the endpoint's name starts with a digit. -/
lemma isUsable_suffixed_iff (mem : suffix ∈ typeSuffixes) :
    IsUsable (base e ++ suffix) ↔
      ∀ c, initial? (e.name.getD "") = some c → c.isDigit = false := by
  have starts : ∀ t ∈ typeSuffixes,
      t.toList.head?.map (fun c => (c.isDigit, c.isLower)) = some (false, false) := by
    decide
  obtain ⟨u, first, kinds⟩ := Option.map_eq_some_iff.mp (starts suffix mem)
  obtain ⟨letter, upper⟩ := Prod.mk.inj kinds
  have isPart : u ∈ (base e ++ suffix).toList := by
    rw [String.toList_append]
    exact List.mem_append_right _ (List.mem_of_head? first)
  rw [IsUsable, and_iff_left (not_reserved isPart upper), (isSymbol_suffixed mem).isIdentifier_iff,
    String.toList_append, List.head?_append, first, base, head?_pascal]
  cases here : initial? (e.name.getD "") with
  | none => simpa using letter
  | some c => simp [isDigit_toUpper_initial? here]

/-- A model's type can be used when its key starts with a letter. -/
lemma isUsable_pascal_iff :
    IsUsable (pascal s) ↔ ∃ c, initial? s = some c ∧ c.isDigit = false := by
  rw [IsUsable, (isSymbol_pascal s).isIdentifier_iff, ← letter_head?_pascal_iff]
  refine and_iff_left_of_imp ?_
  rintro ⟨c, first, letter⟩
  refine not_reserved (List.mem_of_head? first) ?_
  rw [pascal, String.toList_ofList] at first
  exact isLower_head?_capitalised first

end Naming

/-! ## The names of a client -/

/-- Names from which nothing but usable symbols is made: no endpoint's name starts with a digit, one
that deletes has a letter in its name, and the key of a model starts with a letter, all that is
neither a letter nor a digit of ASCII apart. -/
structure Document.FitNames (d : Document) : Prop where
  endpoints : ∀ e ∈ d.endpoints, ∀ c, Naming.initial? (e.name.getD "") = some c → c.isDigit = false
  deletes : ∀ e ∈ d.endpoints, e.method = some "DELETE" → Naming.initial? (e.name.getD "") ≠ none
  models : ∀ m ∈ d.models.getD [], ∃ c, Naming.initial? m.1 = some c ∧ c.isDigit = false

/-- The names of the functions, hooks and types that the client of a document declares. -/
def Document.clientNames (d : Document) : List String :=
  d.endpoints.map Naming.function ++ d.endpoints.filterMap Endpoint.hookName? ++ d.declaredNames

/-- The types of an endpoint can be used unless its name starts with a digit. -/
lemma Endpoint.isUsable_declaredNames_iff {e : Endpoint} :
    (∀ n ∈ e.declaredNames, IsUsable n) ↔
      ∀ c, Naming.initial? (e.name.getD "") = some c → c.isDigit = false := by
  constructor
  · intro usable
    have suffix : "Response" ∈ Naming.typeSuffixes := by decide
    exact (Naming.isUsable_suffixed_iff suffix).mp (usable _ responseType_mem_declaredNames)
  · intro fit n mem
    obtain ⟨suffix, isSuffix, rfl⟩ := exists_suffix_of_mem mem
    exact (Naming.isUsable_suffixed_iff isSuffix).mpr fit

/-- The types that all clients share have usable names. -/
lemma isUsable_common : ∀ c ∈ commonTypes, IsUsable c.1 := by
  decide

/-- Hooks always have usable names. -/
lemma Endpoint.isUsable_hookName {e : Endpoint} {n : String} (h : e.hookName? = some n) :
    IsUsable n := by
  obtain ⟨kind, _, rfl⟩ := Option.map_eq_some_iff.mp h
  exact Naming.isUsable_hookNameOf kind

/-- The names of a client can be used exactly when those in the document fit. -/
lemma Document.isUsable_clientNames_iff {d : Document} (wellFormed : d.WellFormed) :
    (∀ n ∈ d.clientNames, IsUsable n) ↔ d.FitNames := by
  have known e (mem : e ∈ d.endpoints) := (wellFormed.endpoints e mem).method
  have parts : (∀ n ∈ d.clientNames, IsUsable n) ↔
      (∀ e ∈ d.endpoints, IsUsable (Naming.function e)) ∧
        (∀ m ∈ d.models.getD [], IsUsable (Naming.pascal m.1)) ∧
        ∀ e ∈ d.endpoints, ∀ n ∈ e.declaredNames, IsUsable n := by
    simp only [clientNames, declaredNames, modelNames, List.forall_mem_append, List.forall_mem_map,
      List.forall_mem_flatMap, List.mem_filterMap]
    constructor
    · rintro ⟨⟨functions, _⟩, ⟨_, models⟩, endpoints⟩
      exact ⟨functions, models, endpoints⟩
    · rintro ⟨functions, models, endpoints⟩
      refine ⟨⟨functions, ?_⟩, ⟨isUsable_common, models⟩, endpoints⟩
      rintro n ⟨e, _, hook⟩
      exact Endpoint.isUsable_hookName hook
  rw [parts]
  constructor
  · rintro ⟨functions, models, endpoints⟩
    exact {
      endpoints := fun e mem => Endpoint.isUsable_declaredNames_iff.mp (endpoints e mem)
      deletes := fun e mem => (Naming.isUsable_function_iff (known e mem)).mp (functions e mem)
      models := fun m mem => Naming.isUsable_pascal_iff.mp (models m mem) }
  · intro fit
    refine ⟨fun e mem => ?_, fun m mem => ?_, fun e mem => ?_⟩
    · exact (Naming.isUsable_function_iff (known e mem)).mpr (fit.deletes e mem)
    · exact Naming.isUsable_pascal_iff.mpr (fit.models m mem)
    · exact Endpoint.isUsable_declaredNames_iff.mpr (fit.endpoints e mem)

namespace Artifacts

/-- The files of a client declare functions, hooks and types under these names, and the index
exports no other functions and hooks. -/
structure NamesDeclared (d : Document) (a : Artifacts) : Prop where
  functions : ∀ e ∈ d.endpoints, ∃ row ∈ Text.rows a.servicesCode,
    ("export const " ++ Naming.function e ++ " = async (").toList <+: row.toList
  hooks : ∀ n ∈ d.endpoints.filterMap Endpoint.hookName?, ∃ row ∈ Text.rows a.hooks,
    ("export const " ++ n ++ " = (").toList <+: row.toList
  types : ∀ n ∈ d.declaredNames, DeclaredIn n a.types
  exports : exportBlocks none (Text.rows a.index) =
    [("./services", d.endpoints.map Naming.function),
      ("./hooks", d.endpoints.filterMap Endpoint.hookName?)]

/-- Of the names that the client of a valid document declares all can be used exactly if no
endpoint's name starts with a digit, none that deletes is without letters and digits, and the key of
every model starts with a letter, where only letters and digits of ASCII count. -/
theorem usable_names_iff {d : Document} (valid : d.report.isValid = true) {s : Settings}
    (hooks : s.includeHooks = true) (types : s.includeTypes = true) :
    NamesDeclared d (ofDocument d s) ∧ ((∀ n ∈ d.clientNames, IsUsable n) ↔ d.FitNames) := by
  have wellFormed : d.WellFormed :=
    Document.faultFree_findings_iff.mp (Report.ofFindings_isValid.mp valid)
  refine ⟨?_, Document.isUsable_clientNames_iff wellFormed⟩
  have functions : (ofDocument d s).services.map Service.functionName =
      d.endpoints.map Naming.function := List.map_map
  exact {
    functions := fun e mem => exists_functionRow wellFormed s (functions ▸ List.mem_map_of_mem mem)
    hooks := fun n mem => by
      rw [← names_hooksOf d s] at mem
      obtain ⟨h, isHook, rfl⟩ := List.mem_map.mp mem
      rw [show (ofDocument d s).hooks = hooksFile (ofDocument d s).services s from if_pos hooks]
      exact (hooksEmitted (regular_hooksOf wellFormed s) s).declared h isHook
    types := fun n mem => by
      rw [show (ofDocument d s).types = d.typesFile from if_pos types]
      exact Document.declaredIn_typesFile mem
    exports := by
      rw [rows_index wellFormed, exportBlocks_indexLines, if_pos hooks, functions, names_hooksOf] }

/-- A name that starts with a digit, and one without letters for an endpoint that deletes. -/
theorem usable_names_iff_2fa :
    (Document.withNamed [("POST", "2fa")]).report.isValid = true ∧
      "2faResponse" ∈ (Document.withNamed [("POST", "2fa")]).clientNames ∧
      (¬∀ n ∈ (Document.withNamed [("POST", "2fa")]).clientNames, IsUsable n) ∧
      ¬∀ n ∈ (Document.withNamed [("DELETE", "!!!")]).clientNames, IsUsable n := by
  have valid : (Document.withNamed [("POST", "2fa")]).report.isValid = true := by decide +kernel
  have valid' : (Document.withNamed [("DELETE", "!!!")]).report.isValid = true := by decide +kernel
  refine ⟨valid, by decide +kernel, fun usable => ?_, fun usable => ?_⟩
  · have fit := (usable_names_iff valid (s := Settings.default) rfl rfl).2.mp usable
    have letter := fit.endpoints _ List.mem_cons_self '2' (by decide +kernel)
    cases letter
  · have fit := (usable_names_iff valid' (s := Settings.default) rfl rfl).2.mp usable
    exact fit.deletes _ List.mem_cons_self rfl (by decide +kernel)

end Artifacts

end ClientSynth
