import ClientSynth.Proofs.Exports
import ClientSynth.Proofs.FilledPaths

/-!
# Collisions of names

Nothing is done about two symbols that come out the same. A function's name is a verb in lower case
and a text that starts with no lower-case letter, so it gives both back: two functions share a name
exactly when method and name of their endpoints do (`Naming.function_eq_iff`). With hooks that is
not so, since a query whose name ends in `Mutation` may be called like a mutation
(`Artifacts.nodup_hooks_iff`).

Reading a name back starts at its front: the verb is the longest run of lower-case letters there,
because the base of an endpoint's symbols never starts with one (`Naming.isLower_head?_base`). For
hooks the prefix is fixed, so two hooks of one kind give back their bases, and two kinds meet only
at the suffix of mutations.
-/

namespace ClientSynth

/-! ## Functions -/

namespace Naming

variable {e e' : Endpoint} {s : String}

/-- What is capitalised is in no lower case. -/
lemma isLower_toUpper (c : Char) : c.toUpper.isLower = false := by
  unfold Char.toUpper Char.isLower
  grind

/-- A text in PascalCase starts with no lower-case letter, whatever is in its words. -/
lemma isLower_head?_capitalised {words : List (List Char)} {c : Char}
    (first : c ∈ (words.flatMap capitalised).head?) : c.isLower = false := by
  induction words with
  | nil => cases first
  | cons word words ih =>
    cases word with
    | nil => exact ih first
    | cons x rest =>
      cases first
      exact isLower_toUpper x

/-- A base name does not start with a lower-case letter. -/
lemma isLower_head?_base {c : Char} (first : c ∈ (base e).toList.head?) : c.isLower = false := by
  rw [base, pascal, String.toList_ofList] at first
  exact isLower_head?_capitalised first

/-- A verb is in lower case. -/
lemma isLower_verb (known : IsWord (Method.all.map Method.word) e.method) :
    ∀ c ∈ (verb (e.method.getD "")).toList, c.isLower = true := by
  have all : ∀ v ∈ verbs, v.toList.all Char.isLower = true := by decide
  exact List.all_eq_true.mp (all _ (verb_mem_verbs known))

/-- The verb is the run of lower-case letters that a function's name starts with. -/
lemma takeWhile_function (known : IsWord (Method.all.map Method.word) e.method) :
    (function e).toList.takeWhile Char.isLower = (verb (e.method.getD "")).toList := by
  rw [function, String.toList_append]
  apply takeWhile_run (isLower_verb known)
  intro c first
  exact isLower_head?_base first

/-- What follows the verb is the endpoint's name. -/
lemma dropWhile_function (known : IsWord (Method.all.map Method.word) e.method) :
    (function e).toList.dropWhile Char.isLower = (base e).toList := by
  rw [function, String.toList_append]
  apply dropWhile_run (isLower_verb known)
  intro c first
  exact isLower_head?_base first

/-- Different known methods have different verbs. -/
lemma method_eq_of_verb_eq (known : IsWord (Method.all.map Method.word) e.method)
    (known' : IsWord (Method.all.map Method.word) e'.method)
    (same : verb (e.method.getD "") = verb (e'.method.getD "")) : e.method = e'.method := by
  have apart : ∀ m ∈ Method.all.map Method.word, ∀ m' ∈ Method.all.map Method.word,
      verb m = verb m' → m = m' := by decide
  obtain ⟨m, mem, eq⟩ := known
  obtain ⟨m', mem', eq'⟩ := known'
  rw [eq, eq', Option.getD_some, Option.getD_some] at same
  rw [eq, eq', apart m mem m' mem' same]

/-- The functions of two endpoints with known methods have the same name exactly when the endpoints
have the same method and the same name in PascalCase. -/
theorem function_eq_iff (known : IsWord (Method.all.map Method.word) e.method)
    (known' : IsWord (Method.all.map Method.word) e'.method) :
    function e = function e' ↔
      e.method = e'.method ∧ pascal (e.name.getD "") = pascal (e'.name.getD "") := by
  constructor
  · intro same
    -- The verb is what a name starts with in lower case, and the base is the rest.
    have verbs : verb (e.method.getD "") = verb (e'.method.getD "") := by
      rw [← String.toList_inj, ← takeWhile_function known, ← takeWhile_function known', same]
    have bases : base e = base e' := by
      rw [← String.toList_inj, ← dropWhile_function known, ← dropWhile_function known', same]
    exact ⟨method_eq_of_verb_eq known known' verbs, bases⟩
  · intro ⟨method, name⟩
    rw [function, function, base, base, method, name]

end Naming

/-- An endpoint with a method and a name, which is its identifier too. -/
def Endpoint.named (method name : String) : Endpoint :=
  { withPath "/item" [] with id := some name, name := some name, method := some method }

/-- A document with an endpoint for each of some methods and names. -/
def Document.withNamed (endpoints : List (String × String)) : Document :=
  { withPath "/item" [] with endpoints := endpoints.map fun (method, name) => .named method name }

/-- Names that differ in case and punctuation only, and names that are cut into words at different
places. -/
theorem Naming.function_eq_iff_userList :
    IsWord (Method.all.map Method.word) (Endpoint.named "GET" "user list").method ∧
      function (.named "GET" "user list") = function (.named "GET" "User-LIST!") ∧
      function (.named "GET" "user list") ≠ function (.named "GET" "userlist") := by
  have known (name : String) :
      IsWord (Method.all.map Method.word) (Endpoint.named "GET" name).method :=
    ⟨"GET", by decide, rfl⟩
  refine ⟨known _, ?_, ?_⟩
  · exact (function_eq_iff (known _) (known _)).mpr ⟨rfl, by decide +kernel⟩
  · intro same
    have := ((function_eq_iff (known _) (known _)).mp same).2
    revert this
    decide +kernel

/-! ## Hooks -/

namespace Endpoint

variable {e e' : Endpoint}

/-- A query is no mutation. -/
lemma not_isMutation_of_isQuery (query : e.isQuery = true) : e.isMutation = false := by
  rw [isQuery, beq_iff_eq] at query
  rw [isMutation, query]
  decide

/-- What the hook of an endpoint is called, by which hook it has. -/
lemma hookName?_eq_some_iff {n : String} :
    e.hookName? = some n ↔
      (e.isQuery = true ∧ n = Naming.queryHook e) ∨
        (e.isMutation = true ∧ n = Naming.mutationHook e) := by
  unfold hookName? hookKind?
  cases query : e.isQuery with
  | true => simp [not_isMutation_of_isQuery query, hookNameOf, eq_comm]
  | false => cases e.isMutation <;> simp [hookNameOf, eq_comm]

/-- The prefix and the suffix of a query's hook can be taken off again. -/
lemma base_eq_of_queryHook_eq (same : Naming.queryHook e = Naming.queryHook e') :
    Naming.base e = Naming.base e' :=
  (String.append_right_inj "use").mp same

/-- The prefix and the suffix of a mutation's hook can be taken off again. -/
lemma base_eq_of_mutationHook_eq (same : Naming.mutationHook e = Naming.mutationHook e') :
    Naming.base e = Naming.base e' :=
  base_eq_of_queryHook_eq ((String.append_left_inj "Mutation").mp same)

/-- A query is called like a mutation when its name is that of the mutation and one more word. -/
lemma queryHook_eq_mutationHook_iff :
    Naming.queryHook e = Naming.mutationHook e' ↔
      Naming.base e = Naming.base e' ++ "Mutation" := by
  rw [Naming.queryHook, Naming.mutationHook, String.append_assoc, String.append_right_inj]

/-- Two endpoints get hooks of the same name. -/
def SharesHook (e e' : Endpoint) : Prop :=
  ∃ n, e.hookName? = some n ∧ e'.hookName? = some n

/-- Which of two endpoints comes first makes no difference to a shared name. -/
lemma SharesHook.symm (shares : SharesHook e e') : SharesHook e' e := by
  obtain ⟨n, here, there⟩ := shares
  exact ⟨n, there, here⟩

/-- A query that is called like the mutation of another endpoint shares its hook's name. -/
lemma sharesHook_of_suffixed (mutation : e.isMutation = true) (query : e'.isQuery = true)
    (suffixed : Naming.base e' = Naming.base e ++ "Mutation") : SharesHook e e' := by
  have same := queryHook_eq_mutationHook_iff.mpr suffixed
  refine ⟨Naming.mutationHook e, ?_, ?_⟩
  · exact hookName?_eq_some_iff.mpr (.inr ⟨mutation, rfl⟩)
  · exact hookName?_eq_some_iff.mpr (.inl ⟨query, same.symm⟩)

/-- Endpoints that are called differently share a hook's name only as a mutation and a query. -/
lemma SharesHook.cases (shares : SharesHook e e') (differ : Naming.base e ≠ Naming.base e') :
    (e.isMutation = true ∧ e'.isQuery = true ∧ Naming.base e' = Naming.base e ++ "Mutation") ∨
      (e'.isMutation = true ∧ e.isQuery = true ∧
        Naming.base e = Naming.base e' ++ "Mutation") := by
  obtain ⟨n, here, there⟩ := shares
  rcases hookName?_eq_some_iff.mp here with ⟨query, rfl⟩ | ⟨mutation, rfl⟩
  · rcases hookName?_eq_some_iff.mp there with ⟨_, same⟩ | ⟨mutation', same⟩
    · exact absurd (base_eq_of_queryHook_eq same) differ
    · exact .inr ⟨mutation', query, queryHook_eq_mutationHook_iff.mp same⟩
  · rcases hookName?_eq_some_iff.mp there with ⟨query', same⟩ | ⟨_, same⟩
    · exact .inl ⟨mutation, query', queryHook_eq_mutationHook_iff.mp same.symm⟩
    · exact absurd (base_eq_of_mutationHook_eq same) differ

/-- The hooks have different names exactly if no two endpoints share one. -/
lemma nodup_hookNames_iff_pairwise {es : List Endpoint} :
    (es.filterMap hookName?).Nodup ↔ es.Pairwise fun e e' => ¬SharesHook e e' := by
  rw [List.Nodup, List.pairwise_filterMap]
  refine List.Pairwise.iff fun e e' => ?_
  constructor
  · rintro apart ⟨n, here, there⟩
    exact apart n here n there rfl
  · rintro apart n here _ there rfl
    exact apart ⟨n, here, there⟩

/-- Among endpoints that are called differently, hooks have different names exactly when no query is
called like a mutation with `Mutation` after it. -/
lemma nodup_hookNames_iff {es : List Endpoint} (distinct : (es.map Naming.base).Nodup) :
    (es.filterMap hookName?).Nodup ↔
      ∀ e ∈ es, ∀ e' ∈ es, e.isMutation = true → e'.isQuery = true →
        Naming.base e' ≠ Naming.base e ++ "Mutation" := by
  rw [nodup_hookNames_iff_pairwise]
  constructor
  · intro apart e mem e' mem' mutation query suffixed
    -- A mutation is no query, so these are two endpoints of the list.
    have other : e ≠ e' := by
      rintro rfl
      rw [not_isMutation_of_isQuery query] at mutation
      cases mutation
    have symmetric : Std.Symm fun e e' => ¬SharesHook e e' :=
      ⟨fun _ _ apart shares => apart shares.symm⟩
    exact apart.forall mem mem' other (sharesHook_of_suffixed mutation query suffixed)
  · intro apart
    refine (List.pairwise_map.mp distinct).imp_of_mem ?_
    intro e e' mem mem' differ shares
    rcases shares.cases differ with ⟨mutation, query, suffixed⟩ | ⟨mutation, query, suffixed⟩
    · exact apart e mem e' mem' mutation query suffixed
    · exact apart e' mem' e mem mutation query suffixed

end Endpoint

namespace Artifacts

variable {d : Document} {s : Settings}

/-- The hooks that are made are named after the endpoints that have one, in their order. -/
lemma names_hooksOf (d : Document) (s : Settings) :
    (hooksOf (ofDocument d s).services).map Hook.name =
      d.endpoints.filterMap Endpoint.hookName? := by
  have services : (ofDocument d s).services = d.endpoints.map fun e => e.service s := rfl
  rw [map_name_hooksOf, services, List.filterMap_map]
  refine List.filterMap_congr fun e _ => ?_
  rw [Function.comp_apply, Endpoint.service]

/-- The hooks of a valid document are declared in their file and exported by the index, all under
their names. When the endpoints are called differently these names differ exactly if no query is
called like a mutation with `Mutation` after it. -/
theorem nodup_hooks_iff (valid : d.report.isValid = true)
    (distinct : (d.endpoints.map Naming.base).Nodup) (on : s.includeHooks = true) :
    HooksEmitted (hooksOf (ofDocument d s).services)
        ((ofDocument d s).services.map Service.functionName) s (ofDocument d s).hooks ∧
      exportBlocks none (Text.rows (ofDocument d s).index) =
        [("./services", (ofDocument d s).services.map Service.functionName),
          ("./hooks", (hooksOf (ofDocument d s).services).map Hook.name)] ∧
      (((hooksOf (ofDocument d s).services).map Hook.name).Nodup ↔
        ∀ e ∈ d.endpoints, ∀ e' ∈ d.endpoints, e.isMutation = true → e'.isQuery = true →
          Naming.base e' ≠ Naming.base e ++ "Mutation") := by
  have wellFormed : d.WellFormed :=
    Document.faultFree_findings_iff.mp (Report.ofFindings_isValid.mp valid)
  refine ⟨?_, ?_, ?_⟩
  · rw [show (ofDocument d s).hooks = hooksFile (ofDocument d s).services s from if_pos on]
    exact hooksEmitted (regular_hooksOf wellFormed s) s
  · rw [rows_index wellFormed, exportBlocks_indexLines, if_pos on]
  · rw [names_hooksOf]
    exact Endpoint.nodup_hookNames_iff distinct

/-- A mutation, a query, and an endpoint without a hook that is called like the mutation with
`Mutation` after it. -/
theorem nodup_hooks_iff_item :
    (Document.withNamed [("POST", "item"), ("GET", "item list"), ("HEAD", "item mutation")]
        ).report.isValid = true ∧
      ((hooksOf (ofDocument (.withNamed [("POST", "item"), ("GET", "item list"),
        ("HEAD", "item mutation")]) Settings.default).services).map Hook.name).Nodup := by
  have valid : (Document.withNamed [("POST", "item"), ("GET", "item list"),
      ("HEAD", "item mutation")]).report.isValid = true := by
    decide +kernel
  have names := (nodup_hooks_iff valid (by decide +kernel) (s := Settings.default) rfl).2.2
  exact ⟨valid, names.mpr (by decide +kernel)⟩

/-- A mutation and a query that is called like it with `Mutation` after it. -/
def sameHooks : Document :=
  .withNamed [("POST", "item"), ("GET", "item mutation")]

/-- A valid document whose endpoints are called differently, and yet two hooks are declared and
exported under one name. -/
theorem not_nodup_hooks_itemMutation :
    sameHooks.report.isValid = true ∧
      (sameHooks.endpoints.map Naming.base).Nodup ∧
      (Text.rows (Text.unlines (hooksBody (hooksOf
        (ofDocument sameHooks Settings.default).services)))).filterMap constant? =
          ["useItemMutation", "useItemMutation"] ∧
      exportBlocks none (Text.rows (ofDocument sameHooks Settings.default).index) =
        [("./services", ["createItem", "getItemMutation"]),
          ("./hooks", ["useItemMutation", "useItemMutation"])] := by
  have valid : sameHooks.report.isValid = true := by decide +kernel
  have wellFormed : sameHooks.WellFormed :=
    Document.faultFree_findings_iff.mp (Report.ofFindings_isValid.mp valid)
  have hooks : (hooksOf (ofDocument sameHooks Settings.default).services).map Hook.name =
      ["useItemMutation", "useItemMutation"] := by
    decide +kernel
  have functions : (ofDocument sameHooks Settings.default).services.map Service.functionName =
      ["createItem", "getItemMutation"] := by
    decide +kernel
  refine ⟨valid, by decide +kernel, ?_, ?_⟩
  · rw [constants_hooksBody (regular_hooksOf wellFormed _), hooks]
  · rw [rows_index wellFormed, exportBlocks_indexLines, hooks, functions]
    rfl

end Artifacts

end ClientSynth
