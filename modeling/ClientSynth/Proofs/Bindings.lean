import Mathlib
import ClientSynth.Proofs.Literals
import ClientSynth.Proofs.Symbols

/-!
# Bindings of a signature

The parameters of a service function are bound to the identifiers of the path's parameters and to up
to three names of its own. Nothing keeps these apart: two names may have one identifier, and a
parameter of the path may be called like a name of the function's own. What is sure is that an
identifier has the letters and digits of its name in their order, whatever their case
(`Naming.folded_identifier`), so names that differ in these are bound to different identifiers
(`Endpoint.bindsOnce`).

What an identifier keeps of its name is followed through each step of making it, words, cases, a
mark in front of a digit and a mark behind a reserved word, with one lemma for each
(`Naming.letters_camelChars`, `Naming.folded_startSafe`, `Naming.folded_unreserved`). Folding
forgets just what these steps may add.
-/

namespace ClientSynth

/-! ## Letters of a name -/

namespace Naming

/-- The ASCII letters and digits of a text, in lower case. -/
def letters (text : List Char) : List Char :=
  (text.filter Text.isAlnum).map Char.toLower

/-- What a name has in common with its identifier: its letters and digits, or the word that stands
for a name without any. -/
def folded (text : List Char) : List Char :=
  if letters text = [] then "param".toList else letters text

variable {text xs ys : List Char} {words : List (List Char)}

/-- The letters of two texts follow one another. -/
lemma letters_append (xs ys : List Char) : letters (xs ++ ys) = letters xs ++ letters ys := by
  simp only [letters, List.filter_append, List.map_append]

/-- Of a text of letters and digits all is kept, in lower case. -/
lemma letters_of_all (alnum : ∀ c ∈ text, Text.isAlnum c = true) :
    letters text = text.map Char.toLower := by
  rw [letters, List.filter_eq_self.mpr alnum]

/-- Letters in lower case already are the letters. -/
lemma letters_map_toLower (alnum : ∀ c ∈ text, Text.isAlnum c = true) :
    letters (text.map Char.toLower) = letters text := by
  rw [letters_of_all alnum, letters_of_all, List.map_map]
  · exact List.map_congr_left fun c _ => Char.toLower_toLower_eq_toLower c
  · intro c mem
    obtain ⟨x, inText, rfl⟩ := List.mem_map.mp mem
    exact (isAlnum_cased (alnum x inText)).2

/-- A capital at the start of a word makes no difference to the letters. -/
lemma letters_capitalised (alnum : ∀ c ∈ text, Text.isAlnum c = true) :
    letters (capitalised text) = letters text := by
  cases text with
  | nil => rfl
  | cons c rest =>
    rw [letters_of_all (isAlnum_capitalised alnum), letters_of_all alnum, capitalised,
      List.map_cons, List.map_cons, Char.toLower_toUpper_eq_toLower, List.map_map]
    congr 1
    exact List.map_congr_left fun x _ => Char.toLower_toLower_eq_toLower x

/-- Words that are capitalised and run together keep their letters. -/
lemma letters_flatMap_capitalised (alnum : ∀ word ∈ words, ∀ c ∈ word, Text.isAlnum c = true) :
    letters (words.flatMap capitalised) = letters words.flatten := by
  induction words with
  | nil => rfl
  | cons word words ih =>
    rw [List.forall_mem_cons] at alnum
    rw [List.flatMap_cons, List.flatten_cons, letters_append, letters_append,
      letters_capitalised alnum.1, ih alnum.2]

/-- What separates words is no letter. -/
lemma letters_words (text : List Char) : letters (Naming.words text).flatten = letters text := by
  rw [Naming.words, Text.flatten_runs, letters, letters, List.filter_filter]
  simp only [Bool.and_self]

/-- Camel case keeps the letters of a name, in their order. -/
lemma letters_camelChars (text : List Char) : letters (camelChars text) = letters text := by
  have alnum : ∀ word ∈ Naming.words text, ∀ c ∈ word, Text.isAlnum c = true :=
    fun _ isWord => Text.all_of_mem_runs isWord
  rw [← letters_words text]
  unfold camelChars
  cases cut : Naming.words text with
  | nil => rfl
  | cons first rest =>
    rw [cut, List.forall_mem_cons] at alnum
    rw [List.flatten_cons, letters_append, letters_append, letters_map_toLower alnum.1,
      letters_flatMap_capitalised alnum.2]

/-- The stem of an identifier has the letters of the name. -/
lemma letters_parameterStem (name : String) :
    letters (parameterStem name).toList = letters name.toList := by
  rw [parameterStem]
  split
  · rfl
  · rw [camel, String.toList_ofList, letters_camelChars]

/-- Names of the same letters have the same folded form. -/
lemma folded_eq_of_letters (same : letters xs = letters ys) : folded xs = folded ys := by
  rw [folded, folded, same]

/-- A mark before a leading digit is not part of the folded form. -/
lemma folded_startSafe (stem : String) : folded (startSafe stem).toList = folded stem.toList := by
  rw [startSafe]
  split
  case h_1 empty =>
    rw [empty]
    decide
  case h_2 c rest chars =>
    split
    · rw [String.toList_append, chars]
      exact folded_eq_of_letters (letters_append _ _)
    · rw [chars]

/-- A mark behind a reserved word is not part of the folded form. -/
lemma folded_unreserved (name : String) : folded (unreserved name).toList = folded name.toList := by
  rw [unreserved]
  split
  · apply folded_eq_of_letters
    rw [String.toList_append, letters_append]
    exact List.append_nil _
  · rfl

/-- The identifier of a parameter has the letters and digits of the parameter's name. -/
lemma folded_identifier (name : String) : folded (identifier name).toList = folded name.toList := by
  rw [identifier, folded_unreserved, folded_startSafe]
  exact folded_eq_of_letters (letters_parameterStem name)

/-- A final line feed is not part of the folded form. -/
lemma folded_withoutFinalBreak (text : List Char) :
    folded (Text.withoutFinalBreak text) = folded text := by
  rw [Text.withoutFinalBreak]
  split
  case isTrue last =>
    obtain ⟨front, rfl⟩ := List.getLast?_eq_some_iff.mp last
    apply folded_eq_of_letters
    rw [List.dropLast_concat, letters_append]
    exact (List.append_nil _).symm
  case isFalse => rfl

end Naming

/-! ## Signatures -/

namespace TypeScript

/-- The name that is bound by an identifier: a line feed after it is no part of it. -/
def symbol (identifier : String) : List Char :=
  Text.withoutFinalBreak identifier.toList

/-- The members of what is declared. -/
def Declaration.members : Declaration → List Member
  | .interface _ _ members => members
  | .alias _ _ => []

/-- What the key of a member is read as. -/
def Member.keyRead (m : Member) : Option (List Char) :=
  readKey (memberKey m.key).toList

end TypeScript

open TypeScript (Declaration Member symbol)

namespace Endpoint

variable {e : Endpoint}

/-- The names that the service function has of its own. -/
def ownNames (e : Endpoint) : List String :=
  (if e.hasQuery then ["params"] else []) ++ (if e.hasBody then ["data"] else []) ++ ["config"]

/-- The parameters that the type of parameters has members for. -/
def urlParameters (e : Endpoint) : List Parameter :=
  (e.parameters.getD []).filter Parameter.isInUrl

/-- The members of the type of parameters. -/
def paramsMembers (e : Endpoint) : List Member :=
  e.paramsDeclaration.toList.flatMap Declaration.members

/-- The names of a signature: the identifiers of the path's parameters, then the function's own. -/
lemma map_name_signature (e : Endpoint) :
    e.signature.map Binding.name = e.pathParameters.map bindingName ++ e.ownNames := by
  simp only [signature, ownNames, List.append_assoc, List.map_append, List.map_map,
    Function.comp_def, List.append_cancel_left_eq]
  cases e.hasQuery <;> cases e.hasBody <;> rfl

/-- The names that a function has of its own are some of three, in this order. -/
lemma ownNames_sublist (e : Endpoint) : e.ownNames.Sublist ["params", "data", "config"] := by
  rw [ownNames]
  cases e.hasQuery <;> cases e.hasBody <;> decide

/-- The names that a function has of its own are different. -/
lemma nodup_ownNames (e : Endpoint) : (e.ownNames.map String.toList).Nodup :=
  (e.ownNames_sublist.map String.toList).nodup (by decide)

/-- The function's own names are bound as they are, and are letters in lower case. -/
lemma plain_ownNames {name : String} (own : name ∈ e.ownNames) :
    symbol name = name.toList ∧ Naming.folded name.toList = name.toList := by
  have all : ∀ name ∈ ["params", "data", "config"],
      symbol name = name.toList ∧ Naming.folded name.toList = name.toList := by
    decide
  exact all name (e.ownNames_sublist.subset own)

/-- The symbols that a signature binds: those of the path's parameters and then the function's own.
-/
lemma map_symbol_signature (e : Endpoint) :
    (e.signature.map fun b => symbol b.name) =
      (e.pathParameters.map fun p => symbol (bindingName p)) ++ e.ownNames.map String.toList := by
  have names : (e.signature.map fun b => symbol b.name) =
      (e.signature.map Binding.name).map symbol := by
    rw [List.map_map, Function.comp_def]
  have own : e.ownNames.map symbol = e.ownNames.map String.toList :=
    List.map_congr_left fun _ own => (plain_ownNames own).1
  rw [names, map_name_signature, List.map_append, own, List.map_map, Function.comp_def]

/-- The names that a function has of its own are folded already. -/
lemma map_folded_ownNames (e : Endpoint) :
    (e.ownNames.map String.toList).map Naming.folded = e.ownNames.map String.toList := by
  rw [List.map_map]
  exact List.map_congr_left fun name own => (plain_ownNames own).2

/-- The symbol of a parameter folds to what its name folds to. -/
lemma folded_symbol (p : Parameter) :
    Naming.folded (symbol (bindingName p)) = Naming.folded (p.name.getD "").toList := by
  rw [symbol, Naming.folded_withoutFinalBreak, bindingName, Naming.folded_identifier]

/-- The members of the query's type are those of the parameters in the query. -/
lemma paramsMembers_eq (e : Endpoint) : e.paramsMembers = e.urlParameters.map Parameter.member := by
  rw [paramsMembers, paramsDeclaration, urlParameters]
  cases (e.parameters.getD []).filter Parameter.isInUrl with
  | nil => rfl
  | cons p ps => simp [Declaration.members]

/-- When the parameters of the service function of an endpoint, and the members of its type of
parameters, have different names. -/
structure BindsOnce (e : Endpoint) : Prop where
  /-- Exactly when those of the path have different identifiers, none of which is a name of the
  function's own. -/
  symbols : (e.signature.map fun b => symbol b.name).Nodup ↔
    (e.pathParameters.map fun p => symbol (bindingName p)).Nodup ∧
      ∀ p ∈ e.pathParameters, symbol (bindingName p) ∉ e.ownNames.map String.toList
  /-- It is enough that the names differ from each other, and from the function's own names, in
  their letters and digits in lower case. -/
  distinguished :
    (e.pathParameters.map (fun p => Naming.folded (p.name.getD "").toList) ++
      e.ownNames.map String.toList).Nodup → (e.signature.map fun b => symbol b.name).Nodup
  /-- Keys differ exactly when names do, up to a line feed after an identifier. -/
  keys : (e.paramsMembers.map Member.keyRead).Nodup ↔
    (e.urlParameters.map fun p => TypeScript.keyName (p.name.getD "").toList).Nodup

/-- The signature of an endpoint's function and its type of parameters do nothing about names that
come out the same: they bind each name once exactly when the identifiers and the names of the
parameters say so. -/
theorem bindsOnce (e : Endpoint) : e.BindsOnce := by
  constructor
  case symbols =>
    rw [map_symbol_signature, List.nodup_append]
    constructor
    · intro ⟨identifiers, _, apart⟩
      refine ⟨identifiers, fun p isPath own => ?_⟩
      exact apart _ (List.mem_map_of_mem isPath) _ own rfl
    · intro ⟨identifiers, apart⟩
      refine ⟨identifiers, e.nodup_ownNames, fun s isPath t own same => ?_⟩
      obtain ⟨p, isParameter, rfl⟩ := List.mem_map.mp isPath
      exact apart p isParameter (same ▸ own)
  case distinguished =>
    intro differ
    -- Folding the names that are bound gives the names that are known to differ.
    apply List.Nodup.of_map Naming.folded
    rw [map_symbol_signature, List.map_append, map_folded_ownNames, List.map_map]
    simp only [Function.comp_def, folded_symbol]
    exact differ
  case keys =>
    have keys : e.paramsMembers.map Member.keyRead =
        (e.urlParameters.map fun p => TypeScript.keyName (p.name.getD "").toList).map some := by
      rw [paramsMembers_eq, List.map_map, List.map_map]
      exact List.map_congr_left fun p _ => TypeScript.readKey_memberKey (p.name.getD "")
    rw [keys]
    exact List.nodup_map_iff fun _ _ => Option.some.inj

end Endpoint

/-- A parameter with a name and a location. -/
def Parameter.named (name location : String) : Parameter where
  name := some name
  location := some location
  required := location == "path"
  type := some "string"
  description := none
  example_ := .null
  enum := none
  format := none
  pattern := none
  minimum := none
  maximum := none
  minLength := none
  maxLength := none

/-- An endpoint with a parameter in the path and one in the query, both called like a name of the
function's own. -/
def Endpoint.withConfig : Endpoint :=
  { withPath "/items/\x7bconfig\x7d" [] with
    parameters := some [.named "config" "path", .named "config" "query"] }

/-- A valid document with an endpoint whose function takes a parameter twice and whose type of
parameters has a member twice. -/
theorem Document.not_nodup_symbols_config :
    ({ withPath "/item" [] with endpoints := [.withConfig] } : Document).report.isValid = true ∧
      Endpoint.withConfig.signature.map Binding.name = ["config", "params", "config"] ∧
      ¬(Endpoint.withConfig.signature.map fun b => symbol b.name).Nodup ∧
      Endpoint.withConfig.paramsMembers.map (fun m => TypeScript.memberKey m.key) =
        ["config", "config"] ∧
      ¬(Endpoint.withConfig.paramsMembers.map Member.keyRead).Nodup := by
  decide +kernel

end ClientSynth
