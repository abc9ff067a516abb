import Mathlib.Data.List.Basic
import Mathlib.Tactic.Common
import ClientSynth.Client.Hook
import ClientSynth.Proofs.WellFormed

/-!
# Generated symbols

Whatever an endpoint or a model is called, the symbols that are made from its name are words of
ASCII letters and digits (`Naming.IsSymbol`); a function's name is one when the method is known. So
a symbol stands on one line and holds no mark of the language around it.

Names are cut into runs of letters and digits, and what is made from a name is put together from
these runs after changes of case. So it is enough that runs have such characters only
(`Text.all_of_mem_runs`) and that case changes keep them (`Naming.isAlnum_cased`); prefixes and
suffixes are fixed symbols.
-/

namespace ClientSynth

/-! ## Runs -/

namespace Text

variable {p : Char → Bool} {c : Char} {text : List Char}

/-- A run of a text is the one in front or one of the others. -/
lemma eq_or_mem_of_mem_runs {run : List Char} (mem : run ∈ runs p text) :
    run = (frontRun p text).1 ∨ run ∈ (frontRun p text).2 := by
  unfold runs at mem
  dsimp only at mem
  split at mem
  · exact .inr mem
  · exact List.mem_cons.mp mem

/-- All characters of runs are wanted ones. -/
lemma frontRun_all (text : List Char) :
    (∀ x ∈ (frontRun p text).1, p x = true) ∧
      ∀ run ∈ (frontRun p text).2, ∀ x ∈ run, p x = true := by
  induction text with
  | nil => simp [frontRun]
  | cons c rest ih =>
    obtain ⟨front, later⟩ := ih
    by_cases wanted : p c = true
    · simp only [frontRun, wanted, if_true]
      exact ⟨List.forall_mem_cons.mpr ⟨wanted, front⟩, later⟩
    · simp only [frontRun, wanted, Bool.false_eq_true, if_false]
      refine ⟨List.forall_mem_nil _, fun run mem => ?_⟩
      rcases eq_or_mem_of_mem_runs mem with rfl | mem
      · exact front
      · exact later run mem

/-- A run has wanted characters only. -/
lemma all_of_mem_runs {run : List Char} (mem : run ∈ runs p text) : ∀ x ∈ run, p x = true := by
  obtain ⟨front, later⟩ := frontRun_all (p := p) text
  rcases eq_or_mem_of_mem_runs mem with rfl | mem
  · exact front
  · exact later run mem

/-- After unwanted characters the text starts anew. -/
lemma frontRun_gap {gap : List Char} (some : gap ≠ []) (unwanted : ∀ c ∈ gap, p c = false)
    (rest : List Char) : frontRun p (gap ++ rest) = ([], runs p rest) := by
  induction gap with
  | nil => exact absurd rfl some
  | cons c gap ih =>
    rw [List.forall_mem_cons] at unwanted
    -- The run at the front is only cut off at the last character of the gap.
    cases gap with
    | nil => simp [frontRun, unwanted.1, runs]
    | cons next gap =>
      rw [List.cons_append, frontRun, ih (List.cons_ne_nil _ _) unwanted.2]
      simp [unwanted.1]

/-- A word in front is part of the first run. -/
lemma frontRun_word {word : List Char} (wanted : ∀ c ∈ word, p c = true) (rest : List Char) :
    frontRun p (word ++ rest) = (word ++ (frontRun p rest).1, (frontRun p rest).2) := by
  induction word with
  | nil => rfl
  | cons c word ih =>
    rw [List.forall_mem_cons] at wanted
    rw [List.cons_append, frontRun, ih wanted.2]
    simp [wanted.1]

/-- A run that unwanted characters end is the first one. -/
lemma runs_word {word gap : List Char} (some : word ≠ []) (wanted : ∀ c ∈ word, p c = true)
    (ends : gap ≠ []) (unwanted : ∀ c ∈ gap, p c = false) (rest : List Char) :
    runs p (word ++ (gap ++ rest)) = word :: runs p rest := by
  rw [runs, frontRun_word wanted, frontRun_gap ends unwanted]
  simp [some]

/-- A gap has no runs in it. -/
lemma runs_gap {gap : List Char} (unwanted : ∀ c ∈ gap, p c = false) : runs p gap = [] := by
  cases gap with
  | nil => rfl
  | cons c gap =>
    have := frontRun_gap (List.cons_ne_nil c gap) unwanted []
    rw [List.append_nil] at this
    rw [runs, this]
    rfl

/-- Changing the characters of runs keeps the first one apart. -/
lemma map_front (f : Char → Char) (front : List Char) (later : List (List Char)) :
    (if (front.map f).isEmpty then later.map (List.map f)
      else front.map f :: later.map (List.map f)) =
      (if front.isEmpty then later else front :: later).map (List.map f) := by
  cases front <;> rfl

/-- Runs of wanted characters, each replaced by another one, when other characters take the place of
those between them. -/
lemma runs_flatMap {f : Char → Char} {image : Char → List Char}
    (wanted : ∀ c, p c = true → image c = [f c] ∧ p (f c) = true)
    (unwanted : ∀ c, p c = false → image c ≠ [] ∧ ∀ x ∈ image c, p x = false) (text : List Char) :
    runs p (text.flatMap image) = (runs p text).map (List.map f) := by
  have same : frontRun p (text.flatMap image) =
      ((frontRun p text).1.map f, (frontRun p text).2.map (List.map f)) := by
    induction text with
    | nil => rfl
    | cons c rest ih =>
      rw [List.flatMap_cons]
      cases isWanted : p c with
      | true =>
        obtain ⟨eq, stays⟩ := wanted c isWanted
        rw [eq, List.singleton_append, frontRun, frontRun, ih, isWanted, stays]
        rfl
      | false =>
        obtain ⟨some, free⟩ := unwanted c isWanted
        have gap : frontRun p (c :: rest) = ([], runs p rest) :=
          frontRun_gap (List.cons_ne_nil c []) (by simpa using isWanted) rest
        rw [frontRun_gap some free, gap, runs, ih]
        exact congrArg (Prod.mk []) (map_front f _ _)
  rw [runs, same]
  exact map_front f _ _

/-- Runs in a row, whether the first one is empty or not. -/
lemma flatten_front (front : List Char) (later : List (List Char)) :
    (if front.isEmpty then later else front :: later).flatten = front ++ later.flatten := by
  cases front with
  | nil => rfl
  | cons c front => rfl

/-- The runs in a row are the wanted characters in their order. -/
lemma frontRun_flatten (p : Char → Bool) (text : List Char) :
    (frontRun p text).1 ++ (frontRun p text).2.flatten = text.filter p := by
  induction text with
  | nil => rfl
  | cons c rest ih =>
    rw [frontRun]
    cases wanted : p c with
    | true => simp [wanted, ih]
    | false =>
      rw [List.filter_cons_of_neg (by simp [wanted]), ← ih]
      exact flatten_front _ _

/-- The runs of a text hold its wanted characters, in order. -/
lemma flatten_runs (p : Char → Bool) (text : List Char) :
    (runs p text).flatten = text.filter p := by
  rw [← frontRun_flatten, runs]
  exact flatten_front _ _

end Text

/-! ## Words of letters and digits -/

namespace Naming

/-- A text of ASCII letters and digits. -/
def IsSymbol (s : String) : Prop :=
  ∀ c ∈ s.toList, Text.isAlnum c = true

instance (s : String) : Decidable (IsSymbol s) :=
  decidable_of_iff (s.toList.all Text.isAlnum = true) List.all_eq_true

variable {s t : String} {e : Endpoint}

/-- Two symbols together are a symbol. -/
lemma IsSymbol.append (hs : IsSymbol s) (ht : IsSymbol t) : IsSymbol (s ++ t) := by
  intro c mem
  rw [String.toList_append, List.mem_append] at mem
  exact mem.elim (hs c) (ht c)

/-- No symbol has another character than a letter or a digit in it. -/
lemma IsSymbol.not_mem (h : IsSymbol s) {c : Char} (other : Text.isAlnum c = false) :
    c ∉ s.toList := by
  intro mem
  rw [h c mem] at other
  cases other

/-- Letters and digits are ASCII characters. -/
lemma toNat_of_isAlnum {c : Char} (h : Text.isAlnum c = true) : c.toNat < 128 := by
  have ranges : (decide (c.val ≥ 'A'.val ∧ c.val ≤ 'Z'.val) ||
      (decide (c.val ≥ 'a'.val) && decide (c.val ≤ 'z'.val)) ||
      (decide (c.val ≥ '0'.val) && decide (c.val ≤ '9'.val))) = true := h
  simp only [Bool.or_eq_true, Bool.and_eq_true, decide_eq_true_eq, UInt32.le_iff_toNat_le,
    ge_iff_le] at ranges
  have : 'Z'.val.toNat < 128 ∧ 'z'.val.toNat < 128 ∧ '9'.val.toNat < 128 := by decide
  have : c.toNat = c.val.toNat := rfl
  omega

/-- What holds of every ASCII letter and digit can be evaluated. -/
lemma of_isAlnum {P : Char → Prop}
    (all : ∀ n < 128, Text.isAlnum (Char.ofNat n) = true → P (Char.ofNat n)) {c : Char}
    (h : Text.isAlnum c = true) : P c := by
  have := all c.toNat (toNat_of_isAlnum h)
  rw [Char.ofNat_toNat] at this
  exact this h

/-- Letters and digits stay such in either case. -/
lemma isAlnum_cased {c : Char} (h : Text.isAlnum c = true) :
    Text.isAlnum c.toUpper = true ∧ Text.isAlnum c.toLower = true :=
  of_isAlnum (P := fun c => Text.isAlnum c.toUpper = true ∧ Text.isAlnum c.toLower = true)
    (by decide) h

/-- Letters and digits may be parts of identifiers. -/
lemma isIdentifierPart_of_isAlnum {c : Char} (h : Text.isAlnum c = true) :
    TypeScript.isIdentifierPart c = true := by
  have alnum : c.isAlphanum = true := h
  rw [TypeScript.isIdentifierPart, alnum, Bool.true_or, Bool.true_or]

/-- A capitalised word has letters and digits only. -/
lemma isAlnum_capitalised {word : List Char} (h : ∀ c ∈ word, Text.isAlnum c = true) :
    ∀ c ∈ capitalised word, Text.isAlnum c = true := by
  cases word with
  | nil => exact h
  | cons first rest =>
    rw [List.forall_mem_cons] at h
    rw [capitalised, List.forall_mem_cons]
    refine ⟨(isAlnum_cased h.1).1, fun c mem => ?_⟩
    obtain ⟨x, isRest, rfl⟩ := List.mem_map.mp mem
    exact (isAlnum_cased (h.2 x isRest)).2

/-- Pascal case is a symbol, whatever the name. -/
lemma isSymbol_pascal (s : String) : IsSymbol (pascal s) := by
  intro c mem
  rw [pascal, String.toList_ofList] at mem
  obtain ⟨word, isWord, mem⟩ := List.mem_flatMap.mp mem
  exact isAlnum_capitalised (Text.all_of_mem_runs isWord) c mem

/-- The base of an endpoint's symbols is one. -/
lemma isSymbol_base : IsSymbol (base e) :=
  isSymbol_pascal _

/-- The name of a hook is a symbol. -/
lemma isSymbol_hookNameOf (kind : HookKind) : IsSymbol (e.hookNameOf kind) := by
  have isSymbol : IsSymbol ("use" ++ base e) := .append (by decide) isSymbol_base
  cases kind with
  | query => exact isSymbol
  | mutation => exact isSymbol.append (by decide)

/-- A symbol is an identifier unless it is empty or starts with a digit. -/
lemma IsSymbol.isIdentifier_iff (h : IsSymbol s) :
    TypeScript.isIdentifier s.toList = true ↔
      ∃ c, s.toList.head? = some c ∧ c.isDigit = false := by
  unfold IsSymbol at h
  generalize s.toList = chars at h
  cases chars with
  | nil => simp [TypeScript.isIdentifier]
  | cons c rest =>
    rw [List.forall_mem_cons] at h
    have parts : rest.all TypeScript.isIdentifierPart = true :=
      List.all_eq_true.mpr fun x mem => isIdentifierPart_of_isAlnum (h.2 x mem)
    have first : TypeScript.isIdentifierStart c = true ↔ c.isDigit = false :=
      of_isAlnum (P := fun c => TypeScript.isIdentifierStart c = true ↔ c.isDigit = false)
        (by decide) h.1
    rw [TypeScript.isIdentifier, parts, Bool.and_true, first]
    simp

/-- The verbs of the known methods. -/
def verbs : List String :=
  ["get", "create", "update", "delete", "patch", "head", "options"]

/-- A known method has one of the verbs. -/
lemma verb_mem_verbs (h : IsWord (Method.all.map Method.word) e.method) :
    verb (e.method.getD "") ∈ verbs := by
  have all : ∀ word ∈ Method.all.map Method.word, verb word ∈ verbs := by decide
  obtain ⟨word, mem, eq⟩ := h
  rw [eq, Option.getD_some]
  exact all word mem

/-- The name of a function is a symbol if its verb is one of the known ones. -/
lemma isSymbol_function_of_verb (isVerb : verb (e.method.getD "") ∈ verbs) :
    IsSymbol (function e) := by
  have isSymbol : ∀ v ∈ verbs, IsSymbol v := by decide
  exact (isSymbol _ isVerb).append isSymbol_base

/-- The name of a function is a symbol if the method is known. -/
lemma isSymbol_function (h : IsWord (Method.all.map Method.word) e.method) :
    IsSymbol (function e) :=
  isSymbol_function_of_verb (verb_mem_verbs h)

/-- A function's name starts with the first letter of its verb. -/
lemma isIdentifier_function (h : IsWord (Method.all.map Method.word) e.method) :
    TypeScript.isIdentifier (function e).toList = true := by
  have starts : ∀ v ∈ verbs, v.toList.head?.map Char.isDigit = some false := by decide
  obtain ⟨c, first, letter⟩ := Option.map_eq_some_iff.mp (starts _ (verb_mem_verbs h))
  refine (isSymbol_function h).isIdentifier_iff.mpr ⟨c, ?_, letter⟩
  rw [function, String.toList_append, List.head?_append, first, Option.some_or]

end Naming

end ClientSynth
