import Mathlib.Data.List.Infix
import Mathlib.Data.List.TakeWhile
import ClientSynth.Proofs.Json

/-!
# Integers that are too long to be read

The reader of JSON texts stops at an integer with too many digits. What it leaves is always the end
of what it was given, so that the digits stand in the text (`Json.hasRun_of_parse`).

Every reader of the module is sound in the same sense, `Json.Sound`: the rest is the end of the
text, and if it stops at an integer, the digits are in the text. Soundness goes along with reading
one thing after the other because an end of an end is an end, and the readers for values, items and
members are treated together by induction on the length, as they call each other.
-/

namespace ClientSynth.Json

variable {α β : Type} {n : Nat} {text part : List Char}

/-- So many digits stand side by side in a text. -/
def HasRun (n : Nat) (text : List Char) : Prop :=
  ∃ digits, digits <:+: text ∧ digits.length = n ∧ ∀ c ∈ digits, c.isDigit = true

/-- A run of digits in a part is one in the whole. -/
lemma HasRun.mono (h : HasRun n part) (inside : part <:+: text) : HasRun n text :=
  have ⟨digits, found, length, all⟩ := h
  ⟨digits, found.trans inside, length, all⟩

/-- A stop at an integer with too many digits, which stand in the text. Other stops say what they
are. -/
def Stop.IsIn (text : List Char) : Stop → Prop
  | .problem _ _ => True
  | .tooManyDigits n => Text.maxDigits < n ∧ HasRun n text

/-- What stopped a reader in an end of a text is in the text. -/
lemma Stop.IsIn.mono {stop : Stop} (h : stop.IsIn part) (inside : part <:+ text) :
    stop.IsIn text := by
  cases stop with
  | problem => trivial
  | tooManyDigits n => exact ⟨h.1, h.2.mono inside.isInfix⟩

/-- A step of reading leaves the end of its text, or stops in it. -/
def Sound (text : List Char) : Except Stop (α × Rest text) → Prop
  | .ok (_, rest) => rest.1 <:+ text
  | .error stop => stop.IsIn text

/-- A sound reader leaves an end of its text. -/
lemma Sound.ok {o : Except Stop (α × Rest text)} (h : Sound text o) {a : α} {rest : Rest text}
    (eq : o = .ok (a, rest)) : rest.1 <:+ text := by
  rwa [eq] at h

/-- A sound reader stops at something in its text. -/
lemma Sound.error {o : Except Stop (α × Rest text)} (h : Sound text o) {stop : Stop}
    (eq : o = .error stop) : stop.IsIn text := by
  rwa [eq] at h

/-- A step of reading the end of a text is one of reading the text. -/
lemma Sound.map {o : Except Stop (α × Rest part)} (h : Sound part o) (inside : part <:+ text)
    {f : α × Rest part → β × Rest text} (same : ∀ p, (f p).2.1 = p.2.1) :
    Sound text (o.map f) := by
  cases o with
  | ok p =>
    show (f p).2.1 <:+ text
    rw [same]
    exact h.trans inside
  | error stop => exact Stop.IsIn.mono h inside

/-- Skipping a gap leaves an end of the text. -/
lemma skipGap_suffix (text : List Char) : skipGap text <:+ text :=
  List.dropWhile_suffix _

/-- An end of a text is one of the text with a character before it. -/
lemma suffix_behind {c : Char} (h : part <:+ text) : part <:+ c :: text :=
  h.trans (List.suffix_cons c text)

/-! ## Texts and numerals -/

/-- A text between quotes is read up to its closing quote, whatever digits it has. -/
lemma sound_textBody (text : List Char) : Sound text (textBody text) := by
  fun_induction textBody text with
  | case2 rest => exact List.suffix_cons _ _
  | _ =>
    first
    | trivial
    | exact Sound.map ‹_› (by repeat' first | exact List.suffix_rfl | apply suffix_behind)
        fun _ => rfl

/-- The reader of texts between quotes is sound. -/
lemma sound_quoted (text : List Char) : Sound text (quoted text) := by
  have body := sound_textBody text
  unfold quoted
  split
  case h_1 => trivial
  case h_2 eq => exact body.error eq
  case h_3 eq => exact body.ok eq

/-- The whole part of a numeral stands in the text. -/
lemma whole_isInfix {numeral : Numeral} {width : Nat}
    (h : numeral? text = some (numeral, width)) : numeral.whole <:+: text := by
  unfold numeral? at h
  extract_lets negative sign rest digits whole at h
  split at h
  · cases h
  · obtain ⟨rfl, _⟩ := Prod.mk.inj (Option.some.inj h)
    have inside : digits <:+: text :=
      (List.takeWhile_prefix _).isInfix.trans (List.drop_suffix _ _).isInfix
    show (if digits.head? == some '0' then ['0'] else digits) <:+: text
    split
    case isTrue zero =>
      obtain ⟨later, eq⟩ := List.head?_eq_some_iff.mp (beq_iff_eq.mp zero)
      rw [eq] at inside
      exact (List.prefix_append ['0'] later).isInfix.trans inside
    case isFalse => exact inside

/-- A numeral is an integer that is not read only when it has too many digits. -/
lemma sound_plain (text : List Char) : Sound text (plain text) := by
  unfold plain
  split
  case h_1 =>
    split
    · exact List.drop_suffix _ _
    · trivial
  case h_2 numeral width _ found =>
    split
    case isFalse => trivial
    case isTrue =>
      cases eq : numeral.value with
      | ok v => exact List.drop_suffix _ _
      | error stop =>
        unfold Numeral.value at eq
        split at eq
        · split at eq
          case isTrue many =>
            cases eq
            exact ⟨many, numeral.whole, whole_isInfix found, rfl, isDigit_whole found⟩
          case isFalse => cases eq
        · cases eq
  case h_3 => trivial

/-! ## Values -/

/-- What follows a gap and a mark after it is the end of the text. -/
lemma suffix_next {behind last : List Char} {mark : Char} (inside : behind <:+ text)
    (next : skipGap behind = mark :: last) : last <:+ text :=
  (List.suffix_cons mark last).trans (next ▸ (skipGap_suffix behind).trans inside)

/-- The value of a member starts in the text after its opening quote. -/
lemma suffix_member {afterColon : List Char} {name : String} {after : Rest text}
    (eq : quoted text = .ok (name, after)) (colon : skipGap after.1 = ':' :: afterColon) :
    skipGap afterColon <:+ text :=
  (skipGap_suffix _).trans (suffix_next ((sound_quoted text).ok eq) colon)

/-- Values, items and members that start texts of a length are read soundly. -/
structure ReadsSoundly (n : Nat) : Prop where
  value : ∀ text : List Char, text.length = n → Sound text (value text)
  items : ∀ text : List Char, text.length = n → Sound text (items text)
  members : ∀ text : List Char, text.length = n → Sound text (members text)

section ReadsSoundly

variable (shorter : ∀ m < n, ReadsSoundly m)
include shorter

/-- The reader of values is sound if it is for all shorter texts. -/
lemma sound_value (text : List Char) (length : text.length = n) : Sound text (value text) := by
  -- The text starts with a quote, a brace, a bracket or anything else.
  unfold value
  split
  case h_1 rest =>
    split
    case h_1 eq => exact ((sound_quoted rest).error eq).mono (List.suffix_cons _ _)
    case h_2 eq => exact suffix_behind ((sound_quoted rest).ok eq)
  case h_2 rest =>
    have gap := skipGap_suffix rest
    have := gap.length_le
    rw [List.length_cons] at length
    split
    · exact suffix_behind ((List.tail_suffix _).trans gap)
    · have read := (shorter _ (by omega)).members (skipGap rest) rfl
      split
      case h_1 eq => exact (read.error eq).mono (suffix_behind gap)
      case h_2 eq => exact suffix_behind ((read.ok eq).trans gap)
  case h_3 rest =>
    have gap := skipGap_suffix rest
    have := gap.length_le
    rw [List.length_cons] at length
    split
    · exact suffix_behind ((List.tail_suffix _).trans gap)
    · have read := (shorter _ (by omega)).items (skipGap rest) rfl
      split
      case h_1 eq => exact (read.error eq).mono (suffix_behind gap)
      case h_2 eq => exact suffix_behind ((read.ok eq).trans gap)
  case h_4 => exact sound_plain text

/-- The reader of items is sound if it is for all shorter texts. -/
lemma sound_items (text : List Char) (length : text.length = n) : Sound text (items text) := by
  have read := sound_value shorter text length
  fun_cases items text with
  | case1 stop eq => exact read.error eq
  | case2 first after eq _ _ rest next => exact suffix_next (read.ok eq) next
  | case3 first after eq _ _ rest next _ _ stop eqLater =>
    have inside := (skipGap_suffix rest).trans (suffix_next (read.ok eq) next)
    exact (((shorter _ (by omega)).items _ rfl).error eqLater).mono inside
  | case4 first after eq _ _ rest next _ _ later last eqLater =>
    have inside := (skipGap_suffix rest).trans (suffix_next (read.ok eq) next)
    exact (((shorter _ (by omega)).items _ rfl).ok eqLater).trans inside
  | case5 => trivial

/-- The reader of members is sound if it is for all shorter texts. -/
lemma sound_members (text : List Char) (length : text.length = n) :
    Sound text (members text) := by
  revert length
  refine members.fun_cases_unfolding (motive := fun text r => text.length = n → Sound text r)
    ?noName ?noValue ?lastMember ?noMembers ?laterMembers ?noComma ?noColon ?noQuote text
  case noName =>
    intro rest stop eq _
    exact ((sound_quoted rest).error eq).mono (List.suffix_cons _ _)
  case noValue =>
    intro rest name after eq _ _ afterColon colon _ _ stop eqValue length
    rw [List.length_cons] at length
    exact (((shorter _ (by omega)).value _ rfl).error eqValue).mono
      (suffix_behind (suffix_member eq colon))
  -- What is left behind a member is an end of what was left behind its colon.
  case lastMember =>
    intro rest name after eq _ _ afterColon colon _ _ first behind eqValue _ _ last next length
    rw [List.length_cons] at length
    have inside := (((shorter _ (by omega)).value _ rfl).ok eqValue).trans (suffix_member eq colon)
    exact suffix_behind (suffix_next inside next)
  case noMembers =>
    intro rest name after eq _ _ afterColon colon _ _ first behind eqValue _ _ later next _ _ stop
      eqLater length
    rw [List.length_cons] at length
    have inside := (((shorter _ (by omega)).value _ rfl).ok eqValue).trans (suffix_member eq colon)
    exact (((shorter _ (by omega)).members _ rfl).error eqLater).mono
      (suffix_behind ((skipGap_suffix later).trans (suffix_next inside next)))
  case laterMembers =>
    intro rest name after eq _ _ afterColon colon _ _ first behind eqValue _ _ later next _ _
      entries last eqLater length
    rw [List.length_cons] at length
    have inside := (((shorter _ (by omega)).value _ rfl).ok eqValue).trans (suffix_member eq colon)
    exact (((shorter _ (by omega)).members _ rfl).ok eqLater).trans
      (suffix_behind ((skipGap_suffix later).trans (suffix_next inside next)))
  all_goals
    intros
    trivial

end ReadsSoundly

/-- All readers are sound, by induction on the length. -/
lemma readsSoundly (n : Nat) : ReadsSoundly n := by
  induction n using Nat.strongRecOn with
  | ind n shorter => exact ⟨sound_value shorter, sound_items shorter, sound_members shorter⟩

/-- An integer that a text is refused for has too many digits, and they stand in the text. -/
theorem hasRun_of_parse {text : String} {n : Nat} (h : parse text = .error (.tooManyDigits n)) :
    Text.maxDigits < n ∧ HasRun n text.toList := by
  unfold parse at h
  split at h
  case h_1 => cases h
  case h_2 digits stops =>
    cases h
    unfold parseChars at stops
    split at stops
    · cases stops
    split at stops
    case h_1 stop eq =>
      cases stops
      exact (((readsSoundly _).value _ rfl).error eq).mono (skipGap_suffix _)
    case h_2 =>
      simp only at stops
      split at stops <;> cases stops
  case h_3 => cases h

end ClientSynth.Json
