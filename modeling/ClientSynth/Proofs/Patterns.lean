import Mathlib.Data.List.Basic
import Mathlib.Data.List.TakeWhile
import Mathlib.Tactic.Common
import ClientSynth.PathTemplate
import ClientSynth.Url.Basic
import ClientSynth.Version

/-!
# Patterns of texts

What versions, absolute URLs and path tokens look like, said without the functions that recognise
them: a text matches a pattern when it can be cut into parts of the right form. The main statements
are `Version.isVersion_iff`, `Url.isAbsolute_iff` and `PathTemplate.mem_tokens_iff`: each recogniser
accepts exactly the texts of its pattern.

The recognisers take runs of characters off the front, so each proof cuts the text where a run ends:
the longest run of a class is followed by the end or by a character of another class
(`dropWhile_run`). For tokens the recogniser carries the name that it has read so far, and the text
is cut at its first brace (`PathTemplate.cut_at`).
-/

namespace ClientSynth

section Runs

variable {p : Char → Bool} {run rest text : List Char}

/-- A run of wanted characters is taken whole when an unwanted one or nothing follows it. -/
lemma takeWhile_run (all : ∀ c ∈ run, p c = true) (stop : ∀ c ∈ rest.head?, p c = false) :
    (run ++ rest).takeWhile p = run := by
  rw [List.takeWhile_append_of_pos all]
  cases rest with
  | nil => simp
  | cons c rest => simp [stop c rfl]

/-- A run is taken off as a whole if what follows is of another class. -/
lemma dropWhile_run (all : ∀ c ∈ run, p c = true) (stop : ∀ c ∈ rest.head?, p c = false) :
    (run ++ rest).dropWhile p = rest := by
  rw [List.dropWhile_append_of_pos all]
  cases rest with
  | nil => rfl
  | cons c rest => simp [stop c rfl]

/-- What follows the run at the front of a text starts with an unwanted character. -/
lemma dropWhile_head (c : Char) (h : c ∈ (text.dropWhile p).head?) : p c = false := by
  have := List.head?_dropWhile_not p text
  rw [Option.mem_def.mp h] at this
  simpa using this

end Runs

namespace Version

/-- One or more decimal digits. -/
def IsNumber (text : List Char) : Prop :=
  text ≠ [] ∧ ∀ c ∈ text, Text.isDecimalDigit c = true

/-- Nothing, or a hyphen with one or more characters of a label after it. -/
def IsTail (text : List Char) : Prop :=
  text = [] ∨ ∃ label, text = '-' :: label ∧ label ≠ [] ∧ ∀ c ∈ label, isLabelChar c = true

/-- Three numbers with points between them, a tail, and possibly a line feed at the end. -/
def Matches (text : List Char) : Prop :=
  ∃ major minor patch tail ending,
    text = major ++ '.' :: (minor ++ '.' :: (patch ++ tail)) ++ ending ∧
    IsNumber major ∧ IsNumber minor ∧ IsNumber patch ∧ IsTail tail ∧
    (ending = [] ∨ ending = ['\n'])

/-- What follows a number follows a run of digits. -/
lemma afterNumber?_eq_some_iff {text rest : List Char} :
    afterNumber? text = some rest ↔
      ∃ number, text = number ++ rest ∧ IsNumber number ∧
        ∀ c ∈ rest.head?, Text.isDecimalDigit c = false := by
  unfold afterNumber?
  constructor
  · intro h
    split at h
    · cases h
    case isFalse nonempty =>
      cases h
      refine ⟨text.takeWhile Text.isDecimalDigit, ?_, ⟨?_, ?_⟩, ?_⟩
      · exact (List.takeWhile_append_dropWhile).symm
      · simpa using nonempty
      · exact fun c hc => List.mem_takeWhile_imp hc
      · exact fun c hc => dropWhile_head c hc
  · rintro ⟨number, rfl, ⟨nonempty, digits⟩, stop⟩
    rw [takeWhile_run digits stop, dropWhile_run digits stop]
    simp [nonempty]

/-- What follows a number and a point. -/
lemma afterNumberPoint?_eq_some_iff {text rest : List Char} :
    afterNumberPoint? text = some rest ↔
      ∃ number, text = number ++ '.' :: rest ∧ IsNumber number := by
  unfold afterNumberPoint?
  constructor
  · intro h
    split at h
    case h_1 after eq =>
      cases h
      obtain ⟨number, rfl, isNumber, _⟩ := afterNumber?_eq_some_iff.mp eq
      exact ⟨number, rfl, isNumber⟩
    case h_2 => cases h
  · rintro ⟨number, rfl, isNumber⟩
    have : afterNumber? (number ++ '.' :: rest) = some ('.' :: rest) :=
      afterNumber?_eq_some_iff.mpr ⟨number, rfl, isNumber, by simp; decide⟩
    simp only [this]

/-- A label is recognised exactly if it has the form of a tail. -/
lemma isLabel_iff {text : List Char} : isLabel text = true ↔ IsTail text := by
  unfold isLabel IsTail
  split
  · simp
  · simp
  · simp_all

/-- A tail does not start with a digit. -/
lemma IsTail.stop {tail : List Char} (h : IsTail tail) :
    ∀ c ∈ tail.head?, Text.isDecimalDigit c = false := by
  rcases h with rfl | ⟨label, rfl, _, _⟩
  · simp
  · simp; decide

/-- Three numbers and a tail are recognised, and nothing else is. -/
lemma isVersion_iff_body {text : List Char} :
    isVersion text = true ↔
      ∃ major minor patch tail,
        Text.withoutFinalBreak text = major ++ '.' :: (minor ++ '.' :: (patch ++ tail)) ∧
        IsNumber major ∧ IsNumber minor ∧ IsNumber patch ∧ IsTail tail := by
  unfold isVersion
  constructor
  · intro h
    split at h
    case h_1 tail eq =>
      obtain ⟨afterMinor, eq, eqPatch⟩ := Option.bind_eq_some_iff.mp eq
      obtain ⟨afterMajor, eqMajor, eqMinor⟩ := Option.bind_eq_some_iff.mp eq
      obtain ⟨major, body, isMajor⟩ := afterNumberPoint?_eq_some_iff.mp eqMajor
      obtain ⟨minor, rfl, isMinor⟩ := afterNumberPoint?_eq_some_iff.mp eqMinor
      obtain ⟨patch, rfl, isPatch, _⟩ := afterNumber?_eq_some_iff.mp eqPatch
      exact ⟨major, minor, patch, tail, body, isMajor, isMinor, isPatch, isLabel_iff.mp h⟩
    case h_2 => cases h
  · rintro ⟨major, minor, patch, tail, body, isMajor, isMinor, isPatch, isTail⟩
    have eqMajor := afterNumberPoint?_eq_some_iff.mpr ⟨major, body, isMajor⟩
    have eqMinor : afterNumberPoint? (minor ++ '.' :: (patch ++ tail)) = some (patch ++ tail) :=
      afterNumberPoint?_eq_some_iff.mpr ⟨minor, rfl, isMinor⟩
    have eqPatch : afterNumber? (patch ++ tail) = some tail :=
      afterNumber?_eq_some_iff.mpr ⟨patch, rfl, isPatch, isTail.stop⟩
    rw [eqMajor, Option.bind_some, eqMinor, Option.bind_some, eqPatch]
    exact isLabel_iff.mpr isTail

/-- A text with numbers and a tail at its end does not end with a line feed. -/
lemma getLast?_ne_break (front : List Char) {patch tail : List Char} (isPatch : IsNumber patch)
    (isTail : IsTail tail) : (front ++ (patch ++ tail)).getLast? ≠ some '\n' := by
  intro h
  rcases isTail with rfl | ⟨label, rfl, nonempty, chars⟩
  · have last : patch.getLast? = some '\n' := by
      simpa [List.getLast?_append, List.getLast?_eq_some_getLast isPatch.1] using h
    have := isPatch.2 '\n' (List.mem_of_getLast? last)
    revert this
    decide
  · have last : label.getLast? = some '\n' := by
      simpa [List.getLast?_append, List.getLast?_cons, List.getLast?_eq_some_getLast nonempty]
        using h
    have := chars '\n' (List.mem_of_getLast? last)
    revert this
    decide

/-- A text is recognised as a version exactly when it matches the pattern. -/
lemma isVersion_iff {text : List Char} : isVersion text = true ↔ Matches text := by
  rw [isVersion_iff_body]
  unfold Text.withoutFinalBreak Matches
  constructor
  · rintro ⟨major, minor, patch, tail, body, numbers⟩
    split at body
    -- One line feed at the end is left out before the text is looked at.
    case isTrue last =>
      refine ⟨major, minor, patch, tail, ['\n'], ?_, by tauto⟩
      rw [← body]
      exact (List.dropLast_append_getLast? _ last).symm
    case isFalse => exact ⟨major, minor, patch, tail, [], by simpa using body, by tauto⟩
  · rintro ⟨major, minor, patch, tail, ending, rfl, isMajor, isMinor, isPatch, isTail, isEnding⟩
    refine ⟨major, minor, patch, tail, ?_, isMajor, isMinor, isPatch, isTail⟩
    rcases isEnding with rfl | rfl
    · have := getLast?_ne_break (major ++ '.' :: (minor ++ ['.'])) isPatch isTail
      rw [if_neg (by simpa using this), List.append_nil]
    · rw [if_pos List.getLast?_concat, List.dropLast_concat]

end Version

namespace Url

/-- A scheme, `://`, an authority, and a rest that is empty or starts where the authority ends, in
the characters that count. -/
def HasSchemeAndAuthority (text : List Char) : Prop :=
  ∃ scheme authority rest,
    counted text = scheme ++ ':' :: '/' :: '/' :: (authority ++ rest) ∧
    isScheme scheme = true ∧ isAuthority authority = true ∧
    (∀ c ∈ authority, endsAuthority c = false) ∧ ∀ c ∈ rest.head?, endsAuthority c = true

/-- No scheme has a colon in it. -/
lemma ne_colon_of_isScheme {scheme : List Char} (h : isScheme scheme = true) :
    ∀ c ∈ scheme, (c != ':') = true := by
  cases scheme with
  | nil => simp
  | cons first rest =>
    simp only [isScheme, Bool.and_eq_true, List.all_eq_true] at h
    intro c hc
    rw [bne_iff_ne]
    rintro rfl
    rcases List.mem_cons.mp hc with rfl | hc
    · exact absurd h.1 (by decide)
    · exact absurd (h.2 _ hc) (by decide)

/-- A text is an absolute URL exactly when it has a scheme and an authority. -/
lemma isAbsolute_iff {text : List Char} : isAbsolute text = true ↔ HasSchemeAndAuthority text := by
  unfold isAbsolute HasSchemeAndAuthority
  constructor
  · intro h
    dsimp only at h
    split at h
    case h_1 rest eq =>
      rw [Bool.and_eq_true] at h
      refine ⟨_, _, rest.dropWhile fun c => !endsAuthority c, ?_, h.1, h.2, ?_, ?_⟩
      · rw [List.takeWhile_append_dropWhile, ← eq, List.takeWhile_append_dropWhile]
      · exact fun c hc => by simpa using List.mem_takeWhile_imp hc
      · exact fun c hc => by simpa using dropWhile_head c hc
    case h_2 => cases h
  · rintro ⟨scheme, authority, rest, eq, isScheme, isAuthority, inside, stop⟩
    have noColon := ne_colon_of_isScheme isScheme
    -- The scheme ends at the first colon, and the authority where the rest starts.
    have cutScheme :
        ∀ c ∈ (':' :: '/' :: '/' :: (authority ++ rest)).head?, (c != ':') = false := by
      simp
    have cutAuthority : (authority ++ rest).takeWhile (fun c => !endsAuthority c) = authority :=
      takeWhile_run (by simpa using inside) (by simpa using stop)
    simp only [eq, dropWhile_run noColon cutScheme, takeWhile_run noColon cutScheme, cutAuthority,
      isScheme, isAuthority, Bool.and_self]

end Url

namespace PathTemplate

/-- A name between braces in a path: the path is plain up to an opening brace, which the next
closing brace ends, and what follows is searched in the same way. -/
inductive HasToken : List Char → List Char → Prop where
  | here {gap name after} :
    '{' ∉ gap → name ≠ [] → '}' ∉ name →
    HasToken (gap ++ '{' :: (name ++ '}' :: after)) name
  | later {gap inside after name} :
    '{' ∉ gap → '}' ∉ inside → HasToken after name →
    HasToken (gap ++ '{' :: (inside ++ '}' :: after)) name

/-- The names of the tokens in the rest of a path. -/
def namesFrom (open? : Option (List Char)) (text : List Char) : List (List Char) :=
  (piecesFrom open? text).filterMap Piece.name?

/-- A plain character is no token. -/
@[simp]
lemma name?_plain (c : Char) : (Piece.plain c).name? = none :=
  rfl

/-- A token has its name. -/
@[simp]
lemma name?_token (name : List Char) : (Piece.token name).name? = some name :=
  rfl

/-- A text without an opening brace is skipped. -/
lemma namesFrom_gap {gap : List Char} (rest : List Char) (h : '{' ∉ gap) :
    namesFrom none (gap ++ rest) = namesFrom none rest := by
  induction gap with
  | nil => rfl
  | cons c gap ih =>
    have ne : c ≠ '{' := fun eq => h (by simp [eq])
    have ih := ih fun mem => h (List.mem_cons_of_mem _ mem)
    simpa [namesFrom, piecesFrom, ne, List.filterMap_cons] using ih

/-- A brace opens a token. -/
lemma namesFrom_open (rest : List Char) : namesFrom none ('{' :: rest) = namesFrom (some []) rest :=
  rfl

/-- A closing brace ends an open name, which counts unless it is empty. -/
lemma namesFrom_close {inside after : List Char} (name : List Char) (h : '}' ∉ inside) :
    namesFrom (some name) (inside ++ '}' :: after) =
      (if name ++ inside = [] then [] else [name ++ inside]) ++ namesFrom none after := by
  induction inside generalizing name with
  | nil =>
    by_cases empty : name = []
    · simp [namesFrom, piecesFrom, empty, List.filterMap_cons]
    · simp [namesFrom, piecesFrom, empty]
  | cons c inside ih =>
    have ne : c ≠ '}' := fun eq => h (by simp [eq])
    have ih := ih (name ++ [c]) fun mem => h (List.mem_cons_of_mem _ mem)
    simpa [namesFrom, piecesFrom, ne] using ih

/-- An open name that nothing closes is no name. -/
lemma namesFrom_open_end {inside : List Char} (name : List Char) (h : '}' ∉ inside) :
    namesFrom (some name) inside = [] := by
  induction inside generalizing name with
  | nil => simp [namesFrom, piecesFrom]
  | cons c inside ih =>
    have ne : c ≠ '}' := fun eq => h (by simp [eq])
    have ih := ih (name ++ [c]) fun mem => h (List.mem_cons_of_mem _ mem)
    simpa [namesFrom, piecesFrom, ne] using ih

/-- A text has no mark, or it is cut at the first one. -/
lemma cut_at (mark : Char) (text : List Char) :
    mark ∉ text ∨ ∃ front back, text = front ++ mark :: back ∧ mark ∉ front := by
  by_cases h : mark ∈ text
  · obtain ⟨front, back, eq, fresh⟩ := List.eq_append_cons_of_mem h
    exact .inr ⟨front, back, eq, fresh⟩
  · exact .inl h

/-- The names that are read are the tokens of the path. -/
lemma mem_namesFrom_iff (text name : List Char) :
    name ∈ namesFrom none text ↔ HasToken text name := by
  constructor
  · intro h
    obtain no | ⟨gap, rest, rfl, noGap⟩ := cut_at '{' text
    · have := namesFrom_gap [] no
      rw [List.append_nil] at this
      rw [this] at h
      cases h
    -- The name goes up to the next closing brace; without one nothing more is read.
    · rw [namesFrom_gap _ noGap, namesFrom_open] at h
      obtain no | ⟨inside, after, rfl, noInside⟩ := cut_at '}' rest
      · rw [namesFrom_open_end [] no] at h
        cases h
      · rw [namesFrom_close [] noInside, List.mem_append] at h
        rcases h with h | h
        · rw [List.nil_append] at h
          split at h
          · cases h
          case isFalse nonempty =>
            cases List.mem_singleton.mp h
            exact .here noGap nonempty noInside
        · exact .later noGap noInside ((mem_namesFrom_iff after name).mp h)
  · intro h
    induction h with
    | here noGap nonempty noName =>
      rw [namesFrom_gap _ noGap, namesFrom_open, namesFrom_close [] noName]
      simp [nonempty]
    | later noGap noInside _ ih =>
      rw [namesFrom_gap _ noGap, namesFrom_open, namesFrom_close [] noInside]
      exact List.mem_append_right _ ih
termination_by text.length
decreasing_by subst_vars; simp only [List.length_append, List.length_cons]; omega

/-- The tokens of a path are what stands between its braces. -/
lemma mem_tokens_iff {path token : String} :
    token ∈ tokens path ↔ HasToken path.toList token.toList := by
  unfold tokens pieces
  rw [← mem_namesFrom_iff, List.mem_map]
  constructor
  · rintro ⟨name, mem, rfl⟩
    rwa [String.toList_ofList]
  · intro mem
    exact ⟨token.toList, mem, by simp⟩

end PathTemplate

end ClientSynth
