import ClientSynth.Proofs.Lines
import ClientSynth.Proofs.Symbols

/-!
# Calls of hooks

What a hook calls and which generic types it takes is read off its lines: a name before a
parenthesis is called, a name before an angle bracket is generic. A query hook calls the query
library and its service function (`Hook.calls_query`); a mutation hook calls the query library, its
service function and its client (`Hook.calls_mutation`).

Names are collected by one scan of a line (`Text.namesBefore`), which keeps what was read of a name
so far. A name that a hook takes from the document is a run of name characters, so the scan goes
over it in one step (`Text.namesBefore_name`), and what stands around it are literals, on which the
scan is evaluated. Whether a name belongs to the library is then a question about the kind of the
hook (`Hook.mem_calls_library`, `Hook.mem_generics_library`), and the imports are put together from
the kinds that there are.
-/

namespace ClientSynth

open TypeScript (isIdentifierPart)

/-! ## Names before a mark -/

namespace Text

/-- A character of a name, or the point between a name and that of its member. -/
def isNamePart (c : Char) : Bool :=
  isIdentifierPart c || c == '.'

/-- The names that stand directly before a mark. `name` is the name that is being read. -/
def namesBefore (mark : Char) (name : List Char) : List Char → List String
  | [] => []
  | c :: rest =>
    if isNamePart c then namesBefore mark (name ++ [c]) rest
    else if c = mark ∧ name ≠ [] then String.ofList name :: namesBefore mark [] rest
    else namesBefore mark [] rest

/-- The names that stand directly before a mark on a line. -/
def namesOn (mark : Char) (line : String) : List String :=
  namesBefore mark [] line.toList

section NamesBefore

variable {mark : Char} {name : String}

/-- Without the mark no name is before it. -/
lemma namesBefore_eq_nil {text : List Char} (absent : mark ∉ text) (read : List Char) :
    namesBefore mark read text = [] := by
  induction text generalizing read with
  | nil => rfl
  | cons c rest ih =>
    rw [List.mem_cons, not_or] at absent
    rw [namesBefore, ih absent.2, ih absent.2]
    simp [Ne.symm absent.1]

/-- A line without the mark has no name before it. -/
lemma namesOn_eq_nil (absent : mark ∉ name.toList) : namesOn mark name = [] :=
  namesBefore_eq_nil absent []

/-- After a character that is in no name reading starts anew. -/
lemma namesBefore_append {c : Char} (apart : isNamePart c = false) (text rest read : List Char) :
    namesBefore mark read (text ++ c :: rest) =
      namesBefore mark read (text ++ [c]) ++ namesBefore mark [] rest := by
  induction text generalizing read with
  | nil => simp [namesBefore, apart, apply_ite (· ++ namesBefore mark [] rest)]
  | cons x text ih =>
    simp only [List.cons_append, namesBefore, ih]
    split_ifs <;> rfl

/-- The scan reads a name as a whole. -/
lemma namesBefore_name {text : List Char} (all : ∀ c ∈ text, isNamePart c = true)
    (rest read : List Char) :
    namesBefore mark read (text ++ rest) = namesBefore mark (read ++ text) rest := by
  induction text generalizing read with
  | nil => simp
  | cons c text ih =>
    rw [List.forall_mem_cons] at all
    rw [List.cons_append, namesBefore, if_pos all.1, ih all.2, List.append_assoc,
      List.singleton_append]

/-- Letters and digits are parts of names. -/
lemma isNamePart_of_isAlnum {c : Char} (h : isAlnum c = true) : isNamePart c = true := by
  rw [isAlnum] at h
  rw [isNamePart, isIdentifierPart, h, Bool.true_or, Bool.true_or, Bool.true_or]

/-- A symbol between two texts that are apart from it is read when the mark follows it. -/
lemma namesOn_around {front back : List Char} (symbol : Naming.IsSymbol name) (some : name ≠ "")
    (before : front.getLast?.any isNamePart = false) (after : back.head?.any isNamePart = false) :
    namesOn mark (String.ofList front ++ name ++ String.ofList back) =
      namesBefore mark [] front ++
        ((if back.head? = Option.some mark then [name] else []) ++ namesBefore mark [] back) := by
  have stop : namesBefore mark [] (name.toList ++ back) =
      (if back.head? = Option.some mark then [name] else []) ++ namesBefore mark [] back := by
    rw [namesBefore_name (fun c mem => isNamePart_of_isAlnum (symbol c mem)), List.nil_append]
    cases back with
    | nil => rfl
    | cons c rest =>
      have apart : isNamePart c = false := by simpa using after
      by_cases isMark : c = mark
      · rw [isMark] at apart ⊢
        simp [namesBefore, apart, some]
      · simp [namesBefore, apart, isMark]
  rw [← stop, namesOn, String.toList_append, String.toList_append, String.toList_ofList,
    String.toList_ofList, List.append_assoc]
  -- The last character of the front is in no name, so that reading starts anew at the symbol.
  rcases List.eq_nil_or_concat front with rfl | ⟨start, last, rfl⟩
  · rfl
  · rw [List.concat_eq_append] at before ⊢
    rw [List.append_assoc, List.singleton_append, namesBefore_append (by simpa using before)]

/-- The names of a literal line are found by scanning it. -/
lemma namesOn_ofList (line : List Char) :
    namesOn mark (String.ofList line) = namesBefore mark [] line := by
  rw [namesOn, String.toList_ofList]

end NamesBefore

end Text

/-! ## Calls and generic types of a hook -/

/-- The functions of the query library. -/
def libraryFunctions : List String :=
  ["useQuery", "useMutation", "useQueryClient"]

/-- The types of options of the query library. -/
def libraryTypes : List String :=
  ["UseQueryOptions", "UseMutationOptions"]

namespace Hook

variable {h : Hook}

/-- The lines of a hook after its comment. -/
def codeLines (h : Hook) : List String :=
  match h.kind with
  | .query => h.queryLines
  | .mutation => h.mutationLines

/-- The functions that a hook calls, in order. -/
def calls (h : Hook) : List String :=
  h.codeLines.flatMap (Text.namesOn '(')

/-- The generic types that a hook uses, in order. -/
def generics (h : Hook) : List String :=
  h.codeLines.flatMap (Text.namesOn '<')

/-- The names in a hook are symbols, its key is made of characters for keys, and its description
stands on one line. Its service function is none of the query library. -/
structure Regular (h : Hook) : Prop where
  name : Naming.IsSymbol h.name
  named : h.name ≠ ""
  function : Naming.IsSymbol h.functionName
  calling : h.functionName ≠ ""
  key : ∀ c ∈ h.key.toList, Naming.isKeyChar c = true ∨ c = '-'
  description : '\n' ∉ h.description.toList
  foreign : h.functionName ∉ libraryFunctions

section Reading

variable (regular : h.Regular)
include regular

/-- The line that names a hook calls nothing and is not generic. -/
lemma namesOn_nameLine {mark : Char} (isMark : mark = '(' ∨ mark = '<') :
    Text.namesOn mark ("export const " ++ h.name ++ " = (") = [] := by
  rw [Text.namesOn_around regular.name regular.named (by decide) (by decide)]
  rcases isMark with rfl | rfl <;> rfl

/-- The line with the key of a query calls nothing and is not generic. -/
lemma namesOn_keyLine {mark : Char} (isMark : mark = '(' ∨ mark = '<') :
    Text.namesOn mark ("    queryKey: ['" ++ h.key ++ "', params],") = [] := by
  refine Text.namesOn_eq_nil ?_
  have key : mark ∉ h.key.toList := by
    intro mem
    rcases regular.key _ mem with isKey | isHyphen
    · rcases isMark with rfl | rfl <;> exact absurd isKey (by decide)
    · rcases isMark with rfl | rfl <;> exact absurd isHyphen (by decide)
  refine Text.not_mem_around ?_ key ?_
  all_goals rcases isMark with rfl | rfl <;> decide

/-- A line with the name of the function between two literals: the names of either, and the function
if the mark follows it. -/
lemma namesOn_functionLine {mark : Char} {front back : List Char}
    (before : front.getLast?.any Text.isNamePart = false)
    (after : back.head?.any Text.isNamePart = false) :
    Text.namesOn mark (String.ofList front ++ h.functionName ++ String.ofList back) =
      Text.namesBefore mark [] front ++
        ((if back.head? = some mark then [h.functionName] else []) ++
          Text.namesBefore mark [] back) :=
  Text.namesOn_around regular.function regular.calling before after

/-- The line of the parameters takes their types from the service function. -/
lemma namesOn_paramsLine :
    Text.namesOn '(' (if h.spreads then "  params: Parameters<typeof " ++ h.functionName ++ ">,"
      else "  params?: Parameters<typeof " ++ h.functionName ++ ">[0],") = [] ∧
    Text.namesOn '<' (if h.spreads then "  params: Parameters<typeof " ++ h.functionName ++ ">,"
      else "  params?: Parameters<typeof " ++ h.functionName ++ ">[0],") = ["Parameters"] := by
  split
  all_goals
    rw [namesOn_functionLine regular (by decide) (by decide),
      namesOn_functionLine regular (by decide) (by decide)]
    exact ⟨rfl, rfl⟩

/-- The line that runs a query calls the service function. -/
lemma namesOn_runLine :
    Text.namesOn '(' ("    queryFn: () => " ++ h.functionName ++
      (if h.spreads then "(...params)," else "(params),")) = [h.functionName] ∧
    Text.namesOn '<' ("    queryFn: () => " ++ h.functionName ++
      (if h.spreads then "(...params)," else "(params),")) = [] := by
  split
  all_goals
    rw [namesOn_functionLine regular (by decide) (by decide),
      namesOn_functionLine regular (by decide) (by decide)]
    exact ⟨rfl, rfl⟩

/-- A query hook calls the query library, and its service function when it is run. -/
lemma calls_query (kind : h.kind = .query) : h.calls = ["useQuery", h.functionName] := by
  rw [calls, codeLines, kind]
  unfold queryLines
  simp only [List.flatMap_cons, List.flatMap_nil, namesOn_nameLine regular (.inl rfl),
    (namesOn_paramsLine regular).1, namesOn_keyLine regular (.inl rfl),
    (namesOn_runLine regular).1]
  rw [namesOn_functionLine regular (by decide) (by decide)]
  -- All other lines are fixed, and read by evaluation.
  repeat rw [Text.namesOn_ofList]
  rfl

/-- The generic types that a query hook takes. -/
lemma generics_query (kind : h.kind = .query) :
    h.generics = ["Parameters", "Omit", "UseQueryOptions", "Awaited", "ReturnType"] := by
  rw [generics, codeLines, kind]
  unfold queryLines
  simp only [List.flatMap_cons, List.flatMap_nil, namesOn_nameLine regular (.inr rfl),
    (namesOn_paramsLine regular).2, namesOn_keyLine regular (.inr rfl),
    (namesOn_runLine regular).2]
  rw [namesOn_functionLine regular (by decide) (by decide)]
  repeat rw [Text.namesOn_ofList]
  rfl

/-- A mutation hook calls the query library, its service function when it is run, and its client
when it has succeeded. -/
lemma calls_mutation (kind : h.kind = .mutation) :
    h.calls = ["useQueryClient", "useMutation", h.functionName,
      "queryClient.invalidateQueries"] := by
  rw [calls, codeLines, kind]
  unfold mutationLines
  simp only [List.flatMap_cons, List.flatMap_nil, namesOn_nameLine regular (.inl rfl)]
  -- The function is named in several lines, but called in one.
  repeat rw [namesOn_functionLine regular (by decide) (by decide)]
  repeat rw [Text.namesOn_ofList]
  rfl

/-- The generic types that a mutation hook takes. -/
lemma generics_mutation (kind : h.kind = .mutation) :
    h.generics = ["UseMutationOptions", "Awaited", "ReturnType", "Parameters", "Parameters"] := by
  rw [generics, codeLines, kind]
  unfold mutationLines
  simp only [List.flatMap_cons, List.flatMap_nil, namesOn_nameLine regular (.inr rfl)]
  repeat rw [namesOn_functionLine regular (by decide) (by decide)]
  repeat rw [Text.namesOn_ofList]
  rfl

end Reading

/-! ## What hooks need from the query library -/

/-- What goes with a kind of hook. -/
def forKind (query mutation : List String) : HookKind → List String
  | .query => query
  | .mutation => mutation

section Library

variable {hooks : List Hook} {query mutation : List String} {n : String}

/-- What is listed for the kinds that there are is listed for the kind of some hook. -/
lemma mem_forKinds :
    n ∈ (if hooks.any fun h => h.kind == .query then query else []) ++
        (if hooks.any fun h => h.kind == .mutation then mutation else []) ↔
      ∃ h ∈ hooks, n ∈ forKind query mutation h.kind := by
  have used (kind : HookKind) (names : List String) :
      n ∈ (if hooks.any fun h => h.kind == kind then names else []) ↔
        ∃ h ∈ hooks, h.kind = kind ∧ n ∈ names := by
    split
    case isTrue some =>
      obtain ⟨h, isHook, eq⟩ := List.any_eq_true.mp some
      exact ⟨fun mem => ⟨h, isHook, eq_of_beq eq, mem⟩, fun ⟨_, _, _, mem⟩ => mem⟩
    case isFalse none =>
      refine iff_of_false List.not_mem_nil fun ⟨h, isHook, eq, _⟩ => none ?_
      exact List.any_eq_true.mpr ⟨h, isHook, beq_iff_eq.mpr eq⟩
  rw [List.mem_append, used, used]
  constructor
  · rintro (⟨h, isHook, kind, mem⟩ | ⟨h, isHook, kind, mem⟩)
    all_goals exact ⟨h, isHook, by rw [kind]; exact mem⟩
  · rintro ⟨h, isHook, mem⟩
    cases kind : h.kind with
    | query => exact .inl ⟨h, isHook, kind, by rwa [kind] at mem⟩
    | mutation => exact .inr ⟨h, isHook, kind, by rwa [kind] at mem⟩

/-- What a hook calls of the library, by its kind. -/
lemma mem_calls_library (regular : h.Regular) :
    n ∈ libraryFunctions ∧ n ∈ h.calls ↔
      n ∈ forKind ["useQuery"] ["useMutation", "useQueryClient"] h.kind := by
  have foreign : n ∈ libraryFunctions → n ≠ h.functionName := by
    rintro library rfl
    exact regular.foreign library
  cases kind : h.kind with
  | query =>
    rw [calls_query regular kind, List.mem_pair, forKind, List.mem_singleton]
    exact ⟨fun ⟨library, called⟩ => called.resolve_right (foreign library),
      fun eq => ⟨eq ▸ (by decide), .inl eq⟩⟩
  | mutation =>
    have other : "queryClient.invalidateQueries" ∉ libraryFunctions := by decide
    rw [calls_mutation regular kind, forKind, List.mem_pair]
    constructor
    · rintro ⟨library, called⟩
      simp only [List.mem_cons, List.not_mem_nil, or_false] at called
      rcases called with eq | eq | eq | eq
      · exact .inr eq
      · exact .inl eq
      · exact absurd eq (foreign library)
      · exact absurd (eq ▸ library) other
    · rintro (rfl | rfl)
      · exact ⟨by decide, List.mem_cons_of_mem _ List.mem_cons_self⟩
      · exact ⟨by decide, List.mem_cons_self⟩

/-- What a hook takes from the library as types, by its kind. -/
lemma mem_generics_library (regular : h.Regular) :
    n ∈ libraryTypes ∧ n ∈ h.generics ↔
      n ∈ forKind ["UseQueryOptions"] ["UseMutationOptions"] h.kind := by
  have shared : h.generics.filter (fun name => libraryTypes.contains name) =
      forKind ["UseQueryOptions"] ["UseMutationOptions"] h.kind := by
    cases kind : h.kind with
    | query =>
      rw [generics_query regular kind]
      decide
    | mutation =>
      rw [generics_mutation regular kind]
      decide
  rw [← shared, List.mem_filter, List.contains_iff_mem, and_comm]

variable (regular : ∀ h ∈ hooks, h.Regular)
include regular

/-- A function of the query library is imported exactly when some hook calls it. -/
lemma mem_runtimeNames_iff :
    n ∈ runtimeNames hooks ↔ n ∈ libraryFunctions ∧ ∃ h ∈ hooks, n ∈ h.calls := by
  rw [runtimeNames, mem_forKinds]
  constructor
  · rintro ⟨h, isHook, mem⟩
    obtain ⟨library, called⟩ := (mem_calls_library (regular h isHook)).mpr mem
    exact ⟨library, h, isHook, called⟩
  · rintro ⟨library, h, isHook, called⟩
    exact ⟨h, isHook, (mem_calls_library (regular h isHook)).mp ⟨library, called⟩⟩

/-- The types that are imported are those of the library that some hook takes. -/
lemma mem_typeNames_iff :
    n ∈ typeNames hooks ↔ n ∈ libraryTypes ∧ ∃ h ∈ hooks, n ∈ h.generics := by
  rw [typeNames, mem_forKinds]
  constructor
  · rintro ⟨h, isHook, mem⟩
    obtain ⟨library, used⟩ := (mem_generics_library (regular h isHook)).mpr mem
    exact ⟨library, h, isHook, used⟩
  · rintro ⟨library, h, isHook, used⟩
    exact ⟨h, isHook, (mem_generics_library (regular h isHook)).mp ⟨library, used⟩⟩

/-- A hook calls service functions, what is imported from the query library, and its client. -/
lemma mem_calls (isHook : h ∈ hooks) (called : n ∈ h.calls) :
    n = h.functionName ∨ n ∈ runtimeNames hooks ∨ n = "queryClient.invalidateQueries" := by
  by_cases library : n ∈ libraryFunctions
  · exact .inr (.inl ((mem_runtimeNames_iff regular).mpr ⟨library, h, isHook, called⟩))
  · cases kind : h.kind with
    | query =>
      rw [calls_query (regular h isHook) kind] at called
      rcases List.mem_pair.mp called with rfl | eq
      · exact absurd (by decide) library
      · exact .inl eq
    | mutation =>
      rw [calls_mutation (regular h isHook) kind] at called
      simp only [List.mem_cons, List.not_mem_nil, or_false] at called
      rcases called with rfl | rfl | eq | eq
      · exact absurd (by decide) library
      · exact absurd (by decide) library
      · exact .inl eq
      · exact .inr (.inr eq)

end Library

end Hook

/-! ## Hooks of services -/

namespace TypeScript

variable {c : Char}

/-- A character of joined texts is in the separator or in one of them. -/
lemma mem_join {separator : List Char} {texts : List (List Char)}
    (mem : c ∈ Text.join separator texts) : c ∈ separator ∨ ∃ text ∈ texts, c ∈ text := by
  fun_induction Text.join separator texts with
  | case1 => cases mem
  | case2 text => exact .inr ⟨text, List.mem_singleton_self _, mem⟩
  | case3 text rest _ ih =>
    rw [List.mem_append, List.mem_append] at mem
    rcases mem with (mem | mem) | mem
    · exact .inr ⟨text, List.mem_cons_self, mem⟩
    · exact .inl mem
    · exact (ih mem).imp_right fun ⟨t, isText, mem⟩ => ⟨t, List.mem_cons_of_mem _ isText, mem⟩

/-- Taking the mark out of a text brings in backslashes at most. -/
lemma mem_withoutClose {text : List Char} (mem : c ∈ withoutClose text) : c = '\\' ∨ c ∈ text := by
  fun_induction withoutClose text with
  | case1 => cases mem
  | case2 rest ih =>
    simp only [List.mem_cons] at mem ⊢
    rcases mem with star | backslash | slash | mem
    · exact .inr (.inl star)
    · exact .inl backslash
    · exact .inr (.inr (.inl slash))
    · exact (ih mem).imp_right fun mem => .inr (.inr mem)
  | case3 x rest _ ih =>
    rcases List.mem_cons.mp mem with rfl | mem
    · exact .inr List.mem_cons_self
    · exact (ih mem).imp_right (List.mem_cons_of_mem _)

/-- A line of a comment has no spaces but blanks. -/
lemma mem_commentLine {s : String} (mem : c ∈ (commentLine s).toList) :
    c = '\\' ∨ c = ' ' ∨ Text.isSpace c = false := by
  rw [commentLine, String.toList_ofList] at mem
  rcases mem_withoutClose mem with backslash | mem
  · exact .inl backslash
  · rcases mem_join mem with blank | ⟨word, isWord, mem⟩
    · exact .inr (.inl (List.mem_singleton.mp blank))
    · exact .inr (.inr (by simpa using Text.all_of_mem_runs isWord _ mem))

/-- A comment on one line has no line feed in it. -/
lemma break_not_mem_commentLine (s : String) : '\n' ∉ (commentLine s).toList := by
  intro mem
  rcases mem_commentLine mem with backslash | blank | other
  · exact absurd backslash (by decide)
  · exact absurd blank (by decide)
  · exact absurd other (by decide)

end TypeScript

namespace Naming

variable {e : Endpoint}

/-- No hook has an empty name. -/
lemma hookNameOf_ne_empty (kind : HookKind) : e.hookNameOf kind ≠ "" := by
  have prefixed : "use" ++ base e ≠ "" := fun empty =>
    absurd (String.append_eq_empty_iff.mp empty).1 (by decide)
  cases kind with
  | query => exact prefixed
  | mutation => exact fun empty => prefixed (String.append_eq_empty_iff.mp empty).1

/-- A key is made of characters for keys, and of hyphens. -/
lemma mem_queryKey {c : Char} (mem : c ∈ (queryKey e).toList) : isKeyChar c = true ∨ c = '-' := by
  rw [queryKey, String.toList_ofList] at mem
  obtain ⟨x, _, rfl⟩ := List.mem_map.mp mem
  split
  case isTrue isKey => exact .inl isKey
  case isFalse => exact .inr rfl

section Known

variable (known : IsWord (Method.all.map Method.word) e.method)
include known

/-- No function has an empty name. -/
lemma function_ne_empty : function e ≠ "" := by
  have nonempty : ∀ v ∈ verbs, v ≠ "" := by decide
  exact fun empty => nonempty _ (verb_mem_verbs known) (String.append_eq_empty_iff.mp empty).1

/-- No verb starts as the functions of the query library do. -/
lemma function_not_mem_libraryFunctions : function e ∉ libraryFunctions := by
  have apart : ∀ v ∈ verbs, 2 ≤ v.toList.length ∧ v.toList.take 2 ≠ ['u', 's'] := by decide
  have start : ∀ f ∈ libraryFunctions, f.toList.take 2 = ['u', 's'] := by decide
  intro library
  obtain ⟨long, other⟩ := apart _ (verb_mem_verbs known)
  have := start _ library
  rw [function, String.toList_append, List.take_append_of_le_length long] at this
  exact other this

end Known

end Naming

/-- The hook of an endpoint with a known method is regular. -/
lemma Service.regular_hook {e : Endpoint} {s : Settings} {h : Hook}
    (known : IsWord (Method.all.map Method.word) e.method) (isHook : (e.service s).hook? = some h) :
    h.Regular := by
  obtain ⟨kind, _, rfl⟩ := Option.map_eq_some_iff.mp isHook
  exact {
    name := Naming.isSymbol_hookNameOf kind
    named := Naming.hookNameOf_ne_empty kind
    function := Naming.isSymbol_function known
    calling := Naming.function_ne_empty known
    key := fun _ mem => Naming.mem_queryKey mem
    description := TypeScript.break_not_mem_commentLine _
    foreign := Naming.function_not_mem_libraryFunctions known }

end ClientSynth
