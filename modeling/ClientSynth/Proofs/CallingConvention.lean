import ClientSynth.Proofs.Bindings
import ClientSynth.Proofs.Collisions
import ClientSynth.Proofs.Searches

/-!
# Calling conventions

A service function takes its required parameters first, and a hook is made for the same endpoint
from the same parameters: it is marked to spread a tuple of arguments exactly when the function has
a required parameter. A query hook does as it is marked. A mutation hook has one argument, the whole
tuple, which it passes on also to a function that requires nothing (`Endpoint.callingConvention`).

The mark, the signature and the hook are three readings of one endpoint, made at different places.
They are compared through the two parts of a signature (`Endpoint.requiredPart`,
`Endpoint.optionalPart`), since a function requires an argument exactly if the first part is not
empty.
-/

namespace ClientSynth

open TypeScript (TypeExpr)

/-! ## Signatures -/

namespace Endpoint

/-- Some parameter of the service function has to be given. -/
def Requires (e : Endpoint) : Prop :=
  ∃ b ∈ e.signature, b.isOptional = false

instance (e : Endpoint) : Decidable e.Requires :=
  inferInstanceAs (Decidable (∃ b ∈ e.signature, b.isOptional = false))

/-- The parameters of the service function that have to be given. Before a request body the query
parameters have to be, too, if only as undefined. -/
def requiredPart (e : Endpoint) : List Binding :=
  e.pathParameters.map (fun p => ⟨bindingName p, false, (TypeExpr.ofParameter p).text⟩) ++
    (if e.hasBody then
      (if e.hasQuery then [⟨"params", false, Naming.paramsType e ++ " | undefined"⟩] else []) ++
        [⟨"data", false, Naming.requestType e⟩]
    else [])

/-- The parameters of the service function that may be left out. -/
def optionalPart (e : Endpoint) : List Binding :=
  (if e.hasQuery && !e.hasBody then [⟨"params", true, Naming.paramsType e⟩] else []) ++
    [⟨"config", true, "RequestConfig"⟩]

variable {e : Endpoint}

/-- The parameters that may be left out come last. -/
lemma signature_eq (e : Endpoint) : e.signature = e.requiredPart ++ e.optionalPart := by
  rw [signature, requiredPart, optionalPart]
  cases e.hasQuery <;> cases e.hasBody <;> simp

/-- What a function takes first is required. -/
lemma isOptional_of_requiredPart : ∀ b ∈ e.requiredPart, b.isOptional = false := by
  rw [requiredPart, List.forall_mem_append]
  constructor
  · intro b mem
    obtain ⟨p, _, rfl⟩ := List.mem_map.mp mem
    rfl
  · cases e.hasBody <;> cases e.hasQuery <;> simp

/-- What a function takes last is optional. -/
lemma isOptional_of_optionalPart : ∀ b ∈ e.optionalPart, b.isOptional = true := by
  rw [optionalPart]
  cases e.hasBody <;> cases e.hasQuery <;> simp

/-- No signature is empty, since each ends in the request's configuration. -/
lemma signature_ne_nil (e : Endpoint) : e.signature ≠ [] :=
  List.append_ne_nil_of_right_ne_nil _ (List.cons_ne_nil _ _)

/-- No required parameter comes after an optional one. -/
lemma pairwise_signature (e : Endpoint) :
    e.signature.Pairwise fun a b => a.isOptional = true → b.isOptional = true := by
  rw [signature_eq]
  refine List.pairwise_append.mpr ⟨?required, ?optional, ?across⟩
  case required =>
    apply List.pairwise_of_forall_mem_list
    intro a isRequired _ _ isOptional
    rw [isOptional_of_requiredPart a isRequired] at isOptional
    cases isOptional
  case optional =>
    apply List.pairwise_of_forall_mem_list
    exact fun _ _ b mem _ => isOptional_of_optionalPart b mem
  case across =>
    exact fun _ _ b isOptional _ => isOptional_of_optionalPart b isOptional

/-- A parameter is required exactly when there is one in the path, or a request body. -/
lemma requires_iff : e.Requires ↔ e.pathParameters ≠ [] ∨ e.hasBody = true := by
  have none : e.requiredPart = [] ↔ e.pathParameters = [] ∧ e.hasBody = false := by
    rw [requiredPart, List.append_eq_nil_iff, List.map_eq_nil_iff]
    cases e.hasBody <;> simp
  have some : e.Requires ↔ e.requiredPart ≠ [] := by
    rw [Requires, signature_eq]
    constructor
    · rintro ⟨b, mem, isRequired⟩
      rcases List.mem_append.mp mem with mem | mem
      · exact List.ne_nil_of_mem mem
      · rw [isOptional_of_optionalPart b mem] at isRequired
        cases isRequired
    · intro nonempty
      obtain ⟨b, mem⟩ := List.exists_mem_of_ne_nil _ nonempty
      exact ⟨b, List.mem_append_left _ mem, isOptional_of_requiredPart b mem⟩
  rw [some, Ne, none, not_and_or, Bool.not_eq_false]

end Endpoint

/-! ## What hooks pass on -/

namespace Hook

/-- A hook calls its service function with some arguments. -/
def Passes (h : Hook) (arguments : String) : Prop :=
  ∃ line ∈ h.codeLines,
    Text.occursIn (h.functionName ++ "(" ++ arguments ++ ")").toList line.toList = true

/-- A hook spreads a tuple of arguments into the call of its service function. -/
def Spreads (h : Hook) : Prop :=
  ∃ tuple, h.Passes ("..." ++ tuple)

variable {h : Hook}

/-- A hook passes on what a line of its code has in the parentheses of the call. -/
lemma passes_of_mem {arguments : String} (front back : String)
    (isLine : front ++ (h.functionName ++ "(" ++ arguments ++ ")") ++ back ∈ h.codeLines) :
    h.Passes arguments := by
  refine ⟨_, isLine, Text.occursIn_iff_infix.mpr ⟨front.toList, back.toList, ?_⟩⟩
  simp only [String.toList_append]

/-- A query hook passes its parameters on: all of them when it is marked to spread, and otherwise
the one that it has. -/
lemma passes_query (kind : h.kind = .query) :
    h.Passes (if h.spreads then "...params" else "params") := by
  apply passes_of_mem "    queryFn: () => " ","
  rw [codeLines, kind]
  cases marked : h.spreads <;> simp [queryLines, marked, String.append_assoc]

/-- The mutation function of a hook is declared with one argument, the whole tuple of arguments of
the service function, and its body on the next line spreads that tuple into the call. -/
def TakesTuple (h : Hook) : Prop :=
  ["    mutationFn: (args: Parameters<typeof " ++ h.functionName ++ ">) =>",
    "      " ++ h.functionName ++ "(...args),"] <:+: h.codeLines

/-- The mutation function of every mutation hook takes the whole tuple, however the hook is marked.
-/
lemma takesTuple_mutation (kind : h.kind = .mutation) : h.TakesTuple := by
  rw [TakesTuple, codeLines, kind]
  exact ⟨h.mutationLines.take 10, h.mutationLines.drop 12, rfl⟩

/-- A hook that takes the tuple passes it on. -/
lemma TakesTuple.passes (takes : h.TakesTuple) : h.Passes "...args" := by
  apply passes_of_mem "      " ","
  have isLine := takes.subset (List.mem_cons_of_mem _ (List.mem_singleton_self _))
  have shown : "      " ++ (h.functionName ++ "(" ++ "...args" ++ ")") ++ "," =
      "      " ++ h.functionName ++ "(...args)," := by
    rw [show "(...args)," = "(" ++ ("...args" ++ (")" ++ ",")) from rfl]
    simp only [String.append_assoc]
  rwa [shown]

/-- There is no dot in the names and the key of a hook. -/
structure Undotted (h : Hook) : Prop where
  name : '.' ∉ h.name.toList
  function : '.' ∉ h.functionName.toList
  key : '.' ∉ h.key.toList

/-- A query hook that is not marked to spread has a dot in one line only. -/
lemma eq_of_dot (undotted : h.Undotted) (unmarked : h.spreads = false) {line : String}
    (isLine : line ∈ h.queryLines) (dot : '.' ∈ line.toList) : line = "    ...options," := by
  simp only [queryLines, unmarked, Bool.false_eq_true, if_false, List.mem_cons, List.not_mem_nil,
    or_false] at isLine
  rcases isLine with rfl | rfl | rfl | rfl | rfl | rfl | rfl | rfl | rfl | rfl
  case inr.inr.inr.inr.inr.inr.inr.inl => rfl
  case inl => exact absurd dot (Text.not_mem_around (by decide) undotted.name (by decide))
  case inr.inr.inr.inr.inr.inl =>
    exact absurd dot (Text.not_mem_around (by decide) undotted.key (by decide))
  case inr.inl | inr.inr.inl | inr.inr.inr.inr.inr.inr.inl =>
    exact absurd dot (Text.not_mem_around (by decide) undotted.function (by decide))
  all_goals exact absurd dot (Text.not_mem_ofList (by decide))

/-- A query hook that is not marked to spread does not. -/
lemma not_spreads (undotted : h.Undotted) (kind : h.kind = .query) (unmarked : h.spreads = false) :
    ¬h.Spreads := by
  rintro ⟨tuple, line, isLine, occurs⟩
  have part := Text.occursIn_iff_infix.mp occurs
  rw [codeLines, kind] at isLine
  have dot : '.' ∈ line.toList := part.subset (by simp)
  have bracket : '(' ∈ line.toList := part.subset (by simp)
  rw [eq_of_dot undotted unmarked isLine dot] at bracket
  exact absurd bracket (Text.not_mem_ofList (by decide))

end Hook

/-! ## Hooks of an endpoint -/

namespace Endpoint

variable {e : Endpoint} {s : Settings} {h : Hook} {kind : HookKind}

/-- The methods of endpoints with hooks have verbs of their own. -/
lemma verb_mem_verbs_of_hookKind? (isKind : e.hookKind? = some kind) :
    Naming.verb (e.method.getD "") ∈ Naming.verbs := by
  have own : ∀ word ∈ ["GET", "POST", "PUT", "PATCH", "DELETE"],
      (Naming.methodVerbs.lookup word).getD (Text.lowerString word) ∈ Naming.verbs := by
    decide
  have isMethod : e.upperMethod ∈ ["GET", "POST", "PUT", "PATCH", "DELETE"] := by
    rw [hookKind?] at isKind
    split at isKind
    case isTrue isQuery =>
      rw [eq_of_beq isQuery]
      exact List.mem_cons_self
    case isFalse =>
      split at isKind
      case isTrue isMutation =>
        exact List.mem_cons_of_mem _ (List.contains_iff_mem.mp isMutation)
      case isFalse => cases isKind
  exact own _ isMethod

/-- The function that a hook calls is named without a dot, so that it is found by its name. -/
lemma undotted_hook (isHook : (e.service s).hook? = some h) : h.Undotted := by
  obtain ⟨kind, isKind, rfl⟩ := Option.map_eq_some_iff.mp isHook
  constructor
  case name => exact (Naming.isSymbol_hookNameOf kind).not_mem rfl
  case function =>
    exact (Naming.isSymbol_function_of_verb (verb_mem_verbs_of_hookKind? isKind)).not_mem rfl
  case key =>
    intro mem
    rcases Naming.mem_queryKey mem with isKey | isHyphen
    · exact absurd isKey (by decide)
    · exact absurd isHyphen (by decide)

/-- A hook is marked to spread when its service function requires something. -/
lemma spreads_iff (isHook : (e.service s).hook? = some h) : h.spreads = true ↔ e.Requires := by
  obtain ⟨kind, _, rfl⟩ := Option.map_eq_some_iff.mp isHook
  rw [requires_iff, Bool.or_eq_true, Bool.not_eq_true', List.isEmpty_eq_false_iff]
  rfl

/-- How the service function of an endpoint is called, and how its hook calls it. -/
structure CallingConvention (e : Endpoint) (s : Settings) : Prop where
  /-- The parameters of the path come first, in order, and the function's own names after them. -/
  names : e.signature.map Binding.name =
    e.pathParameters.map (fun p => Naming.identifier (p.name.getD "")) ++
      (if e.queryParameters.isEmpty then [] else ["params"]) ++
      (if e.requestBody.isSome then ["data"] else []) ++ ["config"]
  nonempty : e.signature ≠ []
  /-- After an optional parameter there are optional ones only. -/
  optional : e.signature.Pairwise fun a b => a.isOptional = true → b.isOptional = true
  /-- A hook is marked exactly when there is a required parameter. -/
  marked : ∀ h, (e.service s).hook? = some h → (h.spreads = true ↔ e.Requires)
  /-- A query hook spreads its tuple exactly then, and passes one parameter otherwise. -/
  query : ∀ h, (e.service s).hook? = some h → h.kind = .query →
    (h.Spreads ↔ e.Requires) ∧ h.Passes (if h.spreads then "...params" else "params")
  /-- A mutation hook always takes the whole tuple, and spreads it. -/
  mutation : ∀ h, (e.service s).hook? = some h → h.kind = .mutation →
    h.TakesTuple ∧ h.Passes "...args"

/-- Signatures put required parameters first, and hooks call service functions accordingly. -/
theorem callingConvention (e : Endpoint) (s : Settings) : e.CallingConvention s := by
  constructor
  case names =>
    rw [map_name_signature, ownNames, hasQuery, hasBody]
    cases e.queryParameters.isEmpty <;> simp [bindingName]
  case nonempty => exact e.signature_ne_nil
  case optional => exact e.pairwise_signature
  case marked => exact fun h isHook => spreads_iff isHook
  case query =>
    intro h isHook kind
    have passes := Hook.passes_query kind
    refine ⟨?_, passes⟩
    rw [← spreads_iff isHook]
    constructor
    · intro spreads
      by_contra unmarked
      exact Hook.not_spreads (undotted_hook isHook) kind (Bool.eq_false_iff.mpr unmarked) spreads
    · intro marked
      rw [if_pos marked] at passes
      exact ⟨"params", passes⟩
  case mutation =>
    intro h _ kind
    have takes := Hook.takesTuple_mutation kind
    exact ⟨takes, takes.passes⟩

/-- A valid document with an endpoint whose function requires nothing, and whose hook spreads its
tuple all the same. -/
theorem spreads_unrequired :
    (Document.withNamed [("DELETE", "item")]).report.isValid = true ∧
      (Document.withNamed [("DELETE", "item")]).endpoints = [.named "DELETE" "item"] ∧
      ∃ h, ((named "DELETE" "item").service .default).hook? = some h ∧ h.Spreads ∧
        ¬(named "DELETE" "item").Requires := by
  refine ⟨by decide +kernel, rfl, _, rfl, ⟨"args", (Hook.takesTuple_mutation rfl).passes⟩, ?_⟩
  decide +kernel

end Endpoint

end ClientSynth
