import Mathlib.Data.List.Basic
import ClientSynth.Json.Printer

/-!
# Texts and integers that are read back

A quoted text is read back as the text, whatever is escaped in it (`Json.leaves_quoted`), and the
digits of an integer as the integer, where no number goes on (`Json.leaves_plain_int`).

For texts `Json.ReadsText` says what is read up to the closing quote, and it has a rule for each way
in which a character is written: as it is, as a short escape, as one code unit or as two. For
integers the reader takes the longest run of digits, so that what follows matters: `Json.EndsNumber`
rules out whatever a number could go on with.
-/

namespace ClientSynth.Json

/-- A reader gives something and leaves the rest of its text. -/
def Leaves {α : Type} {text : List Char} (r : Except Stop (α × Rest text)) (a : α)
    (rest : List Char) : Prop :=
  ∃ left, r = .ok (a, left) ∧ left.1 = rest

section Texts

variable {text body rest : List Char} {ascii : Bool} {n : Nat} {c : Char}

/-- A hexadecimal digit stands for its number. -/
lemma hexDigit?_digitChar (h : n < 16) : hexDigit? n.digitChar = some n := by
  have all : ∀ n < 16, hexDigit? (Nat.digitChar n) = some n := by decide
  exact all n h

/-- Four hexadecimal digits spell the code unit that they were written for. -/
lemma hexUnit_eq (h : n < 0x10000) :
    ∃ a b c d, hexUnit n = [a, b, c, d] ∧ hexCode? a b c d = some n := by
  -- Zeros in front fill the digits up to four.
  have digits : hexUnit n =
      [(n / 4096).digitChar, (n / 256 % 16).digitChar, (n / 16 % 16).digitChar,
        (n % 16).digitChar] := by
    rw [hexUnit]
    by_cases h1 : n < 16
    · rw [Nat.toDigits_of_lt_base h1, show n / 4096 = 0 by omega, show n / 256 % 16 = 0 by omega,
        show n / 16 % 16 = 0 by omega, show n % 16 = n by omega]
      rfl
    rw [Nat.toDigits_of_base_le (by decide) (by omega)]
    by_cases h2 : n / 16 < 16
    · rw [Nat.toDigits_of_lt_base h2, show n / 4096 = 0 by omega, show n / 256 % 16 = 0 by omega,
        show n / 16 % 16 = n / 16 by omega]
      rfl
    rw [Nat.toDigits_of_base_le (n := n / 16) (by decide) (by omega)]
    by_cases h3 : n / 16 / 16 < 16
    · rw [Nat.toDigits_of_lt_base h3, show n / 4096 = 0 by omega,
        show n / 256 % 16 = n / 16 / 16 by omega]
      rfl
    rw [Nat.toDigits_of_base_le (n := n / 16 / 16) (by decide) (by omega),
      Nat.toDigits_of_lt_base (show n / 16 / 16 / 16 < 16 by omega),
      show n / 4096 = n / 16 / 16 / 16 by omega, show n / 256 % 16 = n / 16 / 16 % 16 by omega]
    rfl
  refine ⟨_, _, _, _, digits, ?_⟩
  rw [hexCode?, hexDigit?_digitChar (by omega), hexDigit?_digitChar (by omega),
    hexDigit?_digitChar (by omega), hexDigit?_digitChar (by omega)]
  show some _ = some _
  congr 1
  omega

/-- A text goes on with the inside of a quoted text, up to its closing quote. -/
def ReadsText (text body rest : List Char) : Prop :=
  Leaves (textBody text) body rest

/-- What a text is read from is not empty, as it has the closing quote. -/
lemma ReadsText.isEmpty_eq_false (h : ReadsText text body rest) : text.isEmpty = false := by
  obtain ⟨left, eq, _⟩ := h
  cases text with
  | nil =>
    rw [textBody] at eq
    cases eq
  | cons _ _ => rfl

/-- The code escape of a character in the first plane. -/
lemma readsText_unitEscape (h : n < 0x10000) (alone : isHighSurrogate n = false)
    (later : ReadsText text body rest) :
    ReadsText (unitEscape n ++ text) (unitChar n :: body) rest := by
  obtain ⟨a, b, c, d, digits, code⟩ := hexUnit_eq h
  have full := later.isEmpty_eq_false
  obtain ⟨left, eq, same⟩ := later
  rw [unitEscape, digits]
  refine ⟨left.behind ['\\', 'u', a, b, c, d], ?_, same⟩
  show textBody ('\\' :: 'u' :: a :: b :: c :: d :: text) = _
  rw [textBody]
  simp only [full, code, alone, Bool.false_and, Bool.false_eq_true, if_false]
  split <;> rw [eq] <;> rfl

/-- The two code escapes of a character beyond the first plane. -/
lemma readsText_pairEscape {high low : Nat} (isHigh : isHighSurrogate high = true)
    (isLow : isLowSurrogate low = true) (later : ReadsText text body rest) :
    ReadsText (unitEscape high ++ unitEscape low ++ text) (pairChar high low :: body) rest := by
  have bounds : (0xD800 ≤ high ∧ high ≤ 0xDBFF) ∧ (0xDC00 ≤ low ∧ low ≤ 0xDFFF) := by
    simpa [isHighSurrogate, isLowSurrogate] using And.intro isHigh isLow
  obtain ⟨a, b, c, d, digits, code⟩ := hexUnit_eq (show high < 0x10000 by omega)
  obtain ⟨e, f, g, i, digits', code'⟩ := hexUnit_eq (show low < 0x10000 by omega)
  have full := later.isEmpty_eq_false
  obtain ⟨left, eq, same⟩ := later
  rw [unitEscape, unitEscape, digits, digits']
  refine ⟨left.behind ['\\', 'u', a, b, c, d, '\\', 'u', e, f, g, i], ?_, same⟩
  show textBody ('\\' :: 'u' :: a :: b :: c :: d :: '\\' :: 'u' :: e :: f :: g :: i :: text) = _
  rw [textBody]
  simp only [List.isEmpty_cons, full, code, code', isHigh, isLow, Bool.not_false, Bool.and_self,
    Bool.false_eq_true, if_true, if_false, eq]
  rfl

/-- No character is half a pair of surrogates. -/
lemma toNat_valid (c : Char) : c.toNat < 0xD800 ∨ 0xDFFF < c.toNat ∧ c.toNat < 0x110000 :=
  c.valid

/-- An escape by number is read back as its character. -/
lemma readsText_codeEscape (c : Char) (later : ReadsText text body rest) :
    ReadsText (codeEscape c ++ text) (c :: body) rest := by
  have valid := toNat_valid c
  rw [codeEscape]
  split
  case isTrue small =>
    have char : unitChar c.toNat = c := by
      rw [unitChar, if_neg, Char.ofNat_toNat]
      simp only [Bool.and_eq_true, decide_eq_true_eq]
      omega
    have alone : isHighSurrogate c.toNat = false := by
      simp only [isHighSurrogate, Bool.and_eq_false_iff, decide_eq_false_iff_not]
      omega
    have escape := readsText_unitEscape small alone later
    rwa [char] at escape
  case isFalse beyond =>
    generalize eqHigh : 0xD800 + (c.toNat - 0x10000) / 0x400 = high
    generalize eqLow : 0xDC00 + (c.toNat - 0x10000) % 0x400 = low
    have char : pairChar high low = c := by
      have code : 0x10000 + (high - 0xD800) * 0x400 + (low - 0xDC00) = c.toNat := by omega
      rw [pairChar, code, Char.ofNat_toNat]
    have isHigh : isHighSurrogate high = true := by
      simp only [isHighSurrogate, Bool.and_eq_true, decide_eq_true_eq]
      omega
    have isLow : isLowSurrogate low = true := by
      simp only [isLowSurrogate, Bool.and_eq_true, decide_eq_true_eq]
      omega
    have escapes := readsText_pairEscape isHigh isLow later
    rwa [char] at escapes

/-- The escape of a letter. -/
lemma readsText_escape {letter : Char} (named : escape? letter = some c) (other : letter ≠ 'u')
    (later : ReadsText text body rest) : ReadsText ('\\' :: letter :: text) (c :: body) rest := by
  obtain ⟨left, eq, same⟩ := later
  refine ⟨left.behind ['\\', letter], ?_, same⟩
  rw [textBody.eq_6 _ _ (fun _ _ _ _ _ isU => (other isU).elim) other, named]
  simp only [eq]
  rfl

/-- A character that stands for itself. -/
lemma readsText_plain (quote : c ≠ '"') (slash : c ≠ '\\') (printable : 0x1F < c.toNat)
    (later : ReadsText text body rest) : ReadsText (c :: text) (c :: body) rest := by
  obtain ⟨left, eq, same⟩ := later
  refine ⟨left.behind [c], ?_, same⟩
  rw [textBody.eq_7 c text quote (fun h => (slash h).elim) (fun _ _ _ _ _ h => (slash h).elim)
    (fun _ h => (slash h).elim) (fun _ _ h => (slash h).elim), if_neg (by omega), eq]
  rfl

/-- A character is written as the escape of a letter or of its code, or as it is. -/
lemma quotedChar_cases (ascii : Bool) (c : Char) :
    (∃ letter, escape? letter = some c ∧ letter ≠ 'u' ∧ quotedChar ascii c = ['\\', letter]) ∨
      quotedChar ascii c = codeEscape c ∨
      (c ≠ '"' ∧ c ≠ '\\' ∧ 0x1F < c.toNat) ∧ quotedChar ascii c = [c] := by
  rcases eq_or_ne c '"' with rfl | quote
  · exact .inl ⟨'"', rfl, by decide, rfl⟩
  rcases eq_or_ne c '\\' with rfl | slash
  · exact .inl ⟨'\\', rfl, by decide, rfl⟩
  rcases eq_or_ne c '\n' with rfl | feed
  · exact .inl ⟨'n', rfl, by decide, rfl⟩
  rcases eq_or_ne c '\r' with rfl | return_
  · exact .inl ⟨'r', rfl, by decide, rfl⟩
  rcases eq_or_ne c '\t' with rfl | tab
  · exact .inl ⟨'t', rfl, by decide, rfl⟩
  rcases eq_or_ne c '\x08' with rfl | back
  · exact .inl ⟨'b', rfl, by decide, rfl⟩
  rcases eq_or_ne c '\x0c' with rfl | page
  · exact .inl ⟨'f', rfl, by decide, rfl⟩
  rw [quotedChar, if_neg quote, if_neg slash, if_neg feed, if_neg return_, if_neg tab, if_neg back,
    if_neg page]
  split
  case isTrue => exact .inr (.inl rfl)
  case isFalse code =>
    simp only [Bool.or_eq_true, decide_eq_true_eq, not_or] at code
    exact .inr (.inr ⟨⟨quote, slash, by omega⟩, rfl⟩)

/-- A quoted character is read back, however it is written. -/
lemma readsText_quotedChar (ascii : Bool) (c : Char) (later : ReadsText text body rest) :
    ReadsText (quotedChar ascii c ++ text) (c :: body) rest := by
  obtain ⟨letter, named, other, eq⟩ | eq | ⟨⟨quote, slash, printable⟩, eq⟩ :=
    quotedChar_cases ascii c
  · rw [eq]
    exact readsText_escape named other later
  · rw [eq]
    exact readsText_codeEscape c later
  · rw [eq]
    exact readsText_plain quote slash printable later

/-- Quoted characters are read back up to the closing quote. -/
lemma readsText_flatMap (ascii : Bool) (body rest : List Char) :
    ReadsText (body.flatMap (quotedChar ascii) ++ '"' :: rest) body rest := by
  induction body with
  | nil =>
    refine ⟨⟨rest, Nat.lt_succ_self _⟩, ?_, rfl⟩
    show textBody ('"' :: rest) = _
    rw [textBody]
  | cons c body ih =>
    rw [List.flatMap_cons, List.append_assoc]
    exact readsText_quotedChar ascii c ih

/-- A quoted text is read after its opening quote. -/
lemma leaves_quoted (ascii : Bool) (s : String) (rest : List Char) :
    Leaves (quoted (s.toList.flatMap (quotedChar ascii) ++ '"' :: rest)) s rest := by
  obtain ⟨left, eq, same⟩ := readsText_flatMap ascii s.toList rest
  refine ⟨left, ?_, same⟩
  rw [quoted, eq]
  simp only [String.ofList_toList]

end Texts

/-! ## Integers -/

section Numbers

variable {digits rest : List Char}

/-- A text does not go on with a number. -/
def EndsNumber (rest : List Char) : Prop :=
  ∀ c, rest.head? = some c → c.isDigit = false ∧ c ≠ '.' ∧ c ≠ 'e' ∧ c ≠ 'E'

/-- Digits of an integer as they are written: only zero starts with a zero. -/
structure IsWhole (digits : List Char) : Prop where
  digit : ∀ c ∈ digits, c.isDigit = true
  nonempty : digits ≠ []
  zero : digits.head? = some '0' → digits = ['0']

/-- No positive number starts with a zero. -/
lemma head?_toDigits {n : Nat} (pos : 0 < n) : (Nat.toDigits 10 n).head? ≠ some '0' := by
  induction n using Nat.strongRecOn with
  | ind n ih =>
    by_cases small : n < 10
    · have all : ∀ n < 10, 0 < n → (Nat.toDigits 10 n).head? ≠ some '0' := by decide
      exact all n small pos
    · rw [Nat.toDigits_of_base_le (by decide) (by omega),
        List.head?_append_of_ne_nil _ Nat.toDigits_ne_nil]
      exact ih _ (by omega) (by omega)

/-- The digits of a number are written as an integer's. -/
lemma isWhole_toDigits (n : Nat) : IsWhole (Nat.toDigits 10 n) where
  digit := fun _ mem => Nat.isDigit_of_mem_toDigits (by decide) (by decide) mem
  nonempty := Nat.toDigits_ne_nil
  zero := by
    intro zero
    cases n with
    | zero => rfl
    | succ n => exact (head?_toDigits (Nat.succ_pos n) zero).elim

/-- The digits of a number stand for the number. -/
lemma natOfDigits_toDigits (n : Nat) : Text.natOfDigits (Nat.toDigits 10 n) = n :=
  Nat.ofDigitChars_ten_toDigits

/-- An integer has at least one digit. -/
lemma IsWhole.exists_cons (h : IsWhole digits) :
    ∃ c later, digits = c :: later ∧ c.isDigit = true := by
  obtain ⟨c, later, rfl⟩ := List.exists_cons_of_ne_nil h.nonempty
  exact ⟨c, later, rfl, h.digit c List.mem_cons_self⟩

/-- The digits are taken as far as they go. -/
lemma takeWhile_whole (h : IsWhole digits) (ends : EndsNumber rest) :
    (digits ++ rest).takeWhile Char.isDigit = digits := by
  rw [List.takeWhile_append_of_pos h.digit]
  cases rest with
  | nil => simp
  | cons c later => simp [(ends c rfl).1]

/-- Where a number ends there is no fraction. -/
lemma fraction?_eq_none (ends : EndsNumber rest) : fraction? rest = none := by
  unfold fraction?
  split
  case h_1 => exact ((ends '.' rfl).2.1 rfl).elim
  case h_2 => rfl

/-- Where a number ends there is no exponent. -/
lemma exponent?_eq_none (ends : EndsNumber rest) : exponent? rest = none := by
  unfold exponent?
  split
  case h_1 c later =>
    obtain ⟨_, _, small, large⟩ := ends c rfl
    rw [if_neg (by simp [small, large])]
  case h_2 => rfl

/-- The characters of a sign. -/
def signChars (negative : Bool) : List Char :=
  if negative then ['-'] else []

/-- Digits after a sign are a numeral without fraction and exponent. -/
lemma numeral?_whole (negative : Bool) (h : IsWhole digits) (ends : EndsNumber rest) :
    numeral? (signChars negative ++ digits ++ rest) =
      some (⟨negative, digits, none, none⟩, (signChars negative ++ digits).length) := by
  have sign : ((signChars negative ++ digits ++ rest).head? == some '-') = negative := by
    obtain ⟨c, later, rfl, digit⟩ := h.exists_cons
    cases negative with
    | true => rfl
    | false =>
      have minus : c ≠ '-' := by rintro rfl; cases digit
      simpa [signChars] using minus
  have behind : (signChars negative ++ digits ++ rest).drop (if negative then 1 else 0) =
      digits ++ rest := by
    cases negative <;> rfl
  have whole : (if digits.head? == some '0' then ['0'] else digits) = digits := by
    split
    case isTrue zero => exact (h.zero (by simpa using zero)).symm
    case isFalse => rfl
  unfold numeral?
  simp only [sign, behind, takeWhile_whole h ends, whole, List.drop_left, fraction?_eq_none ends,
    List.isEmpty_eq_false_iff.mpr h.nonempty, Bool.false_eq_true, if_false, Option.map_none,
    Option.getD_none, List.drop_zero, exponent?_eq_none ends]
  cases negative <;> simp [signChars, Nat.add_comm]

/-- No word starts with a digit, or with a sign and a digit. -/
lemma word?_whole (negative : Bool) (h : IsWhole digits) (rest : List Char) :
    word? (signChars negative ++ digits ++ rest) = none := by
  obtain ⟨c, later, rfl, digit⟩ := h.exists_cons
  have other (x : Char) (letter : x.isDigit = false) : (x == c) = false := by
    rw [beq_eq_false_iff_ne]
    rintro rfl
    rw [digit] at letter
    cases letter
  have unlike : ∀ w ∈ words,
      w.1.toList.isPrefixOf (signChars negative ++ c :: later ++ rest) = false := by
    cases negative with
    | true =>
      simp only [words, List.forall_mem_cons]
      refine ⟨rfl, rfl, rfl, rfl, rfl, ?_, List.forall_mem_nil _⟩
      show ['-', 'I', 'n', 'f', 'i', 'n', 'i', 't', 'y'].isPrefixOf ('-' :: c :: _) = false
      rw [List.isPrefixOf_cons_cons, List.isPrefixOf_cons_cons, other 'I' rfl, Bool.false_and,
        Bool.and_false]
    | false =>
      have front (x : Char) (word : List Char) (letter : x.isDigit = false) :
          (x :: word).isPrefixOf (c :: (later ++ rest)) = false := by
        rw [List.isPrefixOf_cons_cons, other x letter, Bool.false_and]
      simp only [words, List.forall_mem_cons]
      exact ⟨front _ _ rfl, front _ _ rfl, front _ _ rfl, front _ _ rfl, front _ _ rfl,
        front _ _ rfl, List.forall_mem_nil _⟩
  rw [word?, List.findSome?_eq_none_iff]
  intro w mem
  rw [unlike w mem]
  rfl

/-- An integer is its sign and the digits of its size. -/
lemma toList_ofInt (n : Int) :
    (Text.ofInt n).toList = signChars (decide (n < 0)) ++ Nat.toDigits 10 n.natAbs := by
  cases n with
  | ofNat n => simp [Text.ofInt, Text.ofNat, signChars]
  | negSucc n => simp [Text.ofInt, Text.ofNat, signChars]

/-- An integer is read where a number ends. -/
lemma leaves_plain_int {n : Int} (fits : Text.isOversized n = false) (ends : EndsNumber rest) :
    Leaves (plain ((Text.ofInt n).toList ++ rest)) (.int n) rest := by
  have whole := isWhole_toDigits n.natAbs
  have few : ¬Text.maxDigits < (Nat.toDigits 10 n.natAbs).length := by
    simpa [Text.isOversized] using fits
  have size : (if decide (n < 0) then -(n.natAbs : Int) else n.natAbs) = n := by
    simp only [decide_eq_true_eq]
    omega
  have value : Numeral.value ⟨decide (n < 0), Nat.toDigits 10 n.natAbs, none, none⟩ =
      .ok (.int n) := by
    rw [Numeral.value, if_neg few, natOfDigits_toDigits]
    exact congrArg (fun m => Except.ok (Value.int m)) size
  rw [toList_ofInt]
  generalize eq : signChars (decide (n < 0)) ++ Nat.toDigits 10 n.natAbs = written
  have shorter : ((written ++ rest).drop written.length).length < (written ++ rest).length := by
    obtain ⟨c, later, digits, _⟩ := whole.exists_cons
    rw [List.drop_left, ← eq, digits]
    simp
    omega
  have numeral := numeral?_whole (decide (n < 0)) whole ends
  have word := word?_whole (decide (n < 0)) whole rest
  rw [eq] at numeral word
  refine ⟨⟨_, shorter⟩, ?_, List.drop_left⟩
  rw [plain, word, numeral]
  simp only [dif_pos shorter, value]
  rfl

end Numbers

end ClientSynth.Json
