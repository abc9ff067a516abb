import Mathlib.Data.List.Basic
import Mathlib.Data.List.TakeWhile
import ClientSynth.Text.Utf8

/-!
# Bytes and text

The reader of bytes gives a text exactly when they are the bytes of that text (`Utf8.decode_eq_ok`),
so that it refuses the bytes of no text and reads back what is written.

Decoding is by first bytes: what a first byte tells (`Lead`) is one of four forms, and in each the
value of the character fixes the bytes and the bytes fix the value. The arithmetic of the four
widths is kept in lemmas of its own (`encode_one` to `encode_four`), so that the induction over the
bytes sees only which form it is.
-/

namespace ClientSynth.Utf8

/-! ## Bytes of a text -/

/-- The bytes of an array as a list: those that were read already, and then the rest. -/
lemma toList_loop (bytes : ByteArray) (i : Nat) (read : List UInt8) :
    ByteArray.toList.loop bytes i read = read.reverse ++ bytes.data.toList.drop i := by
  fun_induction ByteArray.toList.loop bytes i read with
  | case1 i read inside ih =>
    have front : bytes.get! i :: bytes.data.toList.drop (i + 1) = bytes.data.toList.drop i := by
      show bytes.data[i]! :: _ = _
      rw [getElem!_pos bytes.data i inside, List.drop_eq_getElem_cons inside, Array.getElem_toList]
    rw [ih, List.reverse_cons, List.append_assoc, List.singleton_append, front]
  | case2 i read outside =>
    rw [List.drop_of_length_le (Nat.le_of_not_lt outside), List.append_nil]

/-- The bytes of a text are those of its characters, one after the other. -/
lemma encode_ofList (chars : List Char) :
    encode (String.ofList chars) = chars.flatMap String.utf8EncodeChar := by
  show ByteArray.toList.loop (String.ofList chars).toByteArray 0 [] = _
  rw [toList_loop, String.toByteArray_ofList, List.utf8Encode, List.toList_data_toByteArray]
  rfl

/-! ## Bytes of a character -/

/-- A number that is a character's code is the code of that character. -/
lemma toNat_ofNat {n : Nat} (h : n.isValidChar) : (Char.ofNat n).val.toNat = n := by
  rw [Char.ofNat, dif_pos h]
  rfl

/-- The bytes that go on with a character stand at the front of the rest. -/
lemma Lead.continuation_isPrefix (lead : Lead) (rest : List UInt8) :
    lead.continuation rest <+: rest := by
  cases rest with
  | nil => exact List.nil_prefix
  | cons b rest =>
    rw [Lead.continuation]
    split
    · exact List.nil_prefix
    · exact List.cons_prefix_cons.mpr
        ⟨rfl, (List.takeWhile_prefix _).trans (List.take_prefix _ _)⟩

/-- The bytes that go on with a character: a first one in its bounds, and others that go on. -/
lemma Lead.mem_continuation {lead : Lead} {rest : List UInt8} {b : UInt8} {later : List UInt8}
    (h : lead.continuation rest = b :: later) :
    (lead.least ≤ b.toNat ∧ b.toNat ≤ lead.greatest) ∧
      ∀ c ∈ later, 0x80 ≤ c.toNat ∧ c.toNat ≤ 0xBF := by
  cases rest with
  | nil => cases h
  | cons first rest =>
    rw [Lead.continuation] at h
    split at h
    · cases h
    case isFalse inside =>
      obtain ⟨rfl, rfl⟩ := List.cons.inj h
      refine ⟨by omega, fun c mem => ?_⟩
      simpa using List.mem_takeWhile_imp mem

/-- A number that is a byte's value is that byte. -/
lemma ofNat_eq {n : Nat} {b : UInt8} (h : n = b.toNat) : UInt8.ofNat n = b := by
  rw [h, UInt8.ofNat_toNat]

/-- What a first byte tells, by the number of bytes that follow it. -/
lemma lead?_eq_some_iff {b : Nat} {lead : Lead} : lead? b = some lead ↔
    (b < 0x80 ∧ lead = ⟨b, 0, 0x80, 0xBF⟩) ∨
    ((0xC2 ≤ b ∧ b < 0xE0) ∧ lead = ⟨b - 0xC0, 1, 0x80, 0xBF⟩) ∨
    ((0xE0 ≤ b ∧ b < 0xF0) ∧
      lead = ⟨b - 0xE0, 2, if b = 0xE0 then 0xA0 else 0x80, if b = 0xED then 0x9F else 0xBF⟩) ∨
    ((0xF0 ≤ b ∧ b < 0xF5) ∧
      lead = ⟨b - 0xF0, 3, if b = 0xF0 then 0x90 else 0x80, if b = 0xF4 then 0x8F else 0xBF⟩) := by
  grind [lead?]

section Width

variable {n : Nat} {a b c d : UInt8}

/-- The bytes of a character below 0x80. -/
lemma encode_one (small : n < 0x80) (eq : n = a.toNat) :
    String.utf8EncodeChar (Char.ofNat n) = [a] := by
  rw [String.utf8EncodeChar, toNat_ofNat (.inl (by omega)), if_pos (by omega), ofNat_eq eq]

/-- The bytes of a character below 0x800. -/
lemma encode_two (h : 0x80 ≤ n ∧ n < 0x800) (first : 0xC0 + n / 64 = a.toNat)
    (second : 0x80 + n % 64 = b.toNat) : String.utf8EncodeChar (Char.ofNat n) = [a, b] := by
  rw [String.utf8EncodeChar, toNat_ofNat (.inl (by omega)), if_neg (by omega), if_pos (by omega),
    ofNat_eq (b := a) (by omega), ofNat_eq (b := b) (by omega)]

/-- The bytes of a character below 0x10000. -/
lemma encode_three (h : 0x800 ≤ n ∧ n < 0x10000) (valid : n.isValidChar)
    (first : 0xE0 + n / 64 / 64 = a.toNat) (second : 0x80 + n / 64 % 64 = b.toNat)
    (third : 0x80 + n % 64 = c.toNat) : String.utf8EncodeChar (Char.ofNat n) = [a, b, c] := by
  rw [String.utf8EncodeChar, toNat_ofNat valid, if_neg (by omega), if_neg (by omega),
    if_pos (by omega), ofNat_eq (b := a) (by omega), ofNat_eq (b := b) (by omega),
    ofNat_eq (b := c) (by omega)]

/-- The bytes of any other character. -/
lemma encode_four (h : 0x10000 ≤ n ∧ n < 0x110000) (first : 0xF0 + n / 64 / 64 / 64 = a.toNat)
    (second : 0x80 + n / 64 / 64 % 64 = b.toNat) (third : 0x80 + n / 64 % 64 = c.toNat)
    (fourth : 0x80 + n % 64 = d.toNat) :
    String.utf8EncodeChar (Char.ofNat n) = [a, b, c, d] := by
  rw [String.utf8EncodeChar, toNat_ofNat (.inr (by omega)), if_neg (by omega), if_neg (by omega),
    if_neg (by omega), ofNat_eq (b := a) (by omega), ofNat_eq (b := b) (by omega),
    ofNat_eq (b := c) (by omega), ofNat_eq (b := d) (by omega)]

end Width

/-- A first byte and the bytes that it asks for are those of the character that they are read as. -/
lemma encode_char {b : UInt8} {rest : List UInt8} {lead : Lead} (found : lead? b.toNat = some lead)
    (full : (lead.continuation rest).length = lead.count) :
    String.utf8EncodeChar (lead.char (lead.continuation rest)) = b :: lead.continuation rest := by
  have inside := @Lead.mem_continuation lead rest
  generalize lead.continuation rest = later at full inside
  rcases lead?_eq_some_iff.mp found with
    ⟨small, rfl⟩ | ⟨bounds, rfl⟩ | ⟨bounds, rfl⟩ | ⟨bounds, rfl⟩
  · obtain rfl := List.eq_nil_of_length_eq_zero full
    exact encode_one small rfl
  · obtain ⟨x, rfl⟩ := List.length_eq_one_iff.mp full
    have ⟨first, _⟩ := inside rfl
    simp only [Lead.char, List.foldl_cons, List.foldl_nil] at first ⊢
    exact encode_two (by omega) (by omega) (by omega)
  · obtain ⟨x, y, rfl⟩ := List.length_eq_two.mp full
    have ⟨first, second⟩ := inside rfl
    simp only [Lead.char, List.foldl_cons, List.foldl_nil, List.forall_mem_singleton]
      at first second ⊢
    generalize eq : ((b.toNat - 0xE0) * 64 + x.toNat % 64) * 64 + y.toNat % 64 = n
    -- The bounds of the second byte leave out what is too long, and surrogates.
    have code : ((0x800 ≤ n ∧ n < 0x10000) ∧ n.isValidChar) ∧ 0x80 ≤ x.toNat ∧ x.toNat ≤ 0xBF := by
      simp only [Nat.isValidChar]
      split at first <;> split at first <;> omega
    exact encode_three code.1.1 code.1.2 (by omega) (by omega) (by omega)
  · obtain ⟨x, y, z, rfl⟩ := List.length_eq_three.mp full
    have ⟨first, second⟩ := inside rfl
    simp only [Lead.char, List.foldl_cons, List.foldl_nil, List.forall_mem_cons] at first second ⊢
    generalize eq :
      (((b.toNat - 0xF0) * 64 + x.toNat % 64) * 64 + y.toNat % 64) * 64 + z.toNat % 64 = n
    have code : (0x10000 ≤ n ∧ n < 0x110000) ∧ 0x80 ≤ x.toNat ∧ x.toNat ≤ 0xBF := by
      split at first <;> split at first <;> omega
    exact encode_four code.1 (by omega) (by omega) (by omega) (by omega)

/-- A number below 256 is the value of a byte. -/
lemma toNat_byte {n : Nat} (h : n < 256) : (UInt8.ofNat n).toNat = n :=
  UInt8.toNat_ofNat_of_lt' h

/-- Bytes go on with a character when the first one is in its bounds, and there are as many as it
asks for. -/
lemma Lead.continuation_append {lead : Lead} {b : UInt8} {later : List UInt8} (rest : List UInt8)
    (bounds : lead.least ≤ b.toNat ∧ b.toNat ≤ lead.greatest)
    (others : ∀ c ∈ later, 0x80 ≤ c.toNat ∧ c.toNat ≤ 0xBF)
    (count : later.length + 1 = lead.count) :
    lead.continuation (b :: later ++ rest) = b :: later := by
  rw [List.cons_append, Lead.continuation, if_neg (by omega), ← count, Nat.add_sub_cancel,
    List.take_left, List.takeWhile_eq_self_iff.mpr (by simpa using others)]

/-- The first byte of a character asks for the other ones. -/
lemma exists_lead (c : Char) (rest : List UInt8) :
    ∃ b later lead, String.utf8EncodeChar c = b :: later ∧ lead? b.toNat = some lead ∧
      lead.continuation (later ++ rest) = later ∧ later.length = lead.count := by
  have valid := c.valid
  simp only [UInt32.isValidChar, Nat.isValidChar] at valid
  rw [String.utf8EncodeChar]
  generalize c.val.toNat = n at valid
  -- The cases are the four widths, each with the form of its first byte.
  split
  case isTrue =>
    refine ⟨_, _, _, rfl, lead?_eq_some_iff.mpr (.inl ⟨?_, rfl⟩), ?_, rfl⟩
    · rw [toNat_byte] <;> omega
    · cases rest with
      | nil => rfl
      | cons first rest => rw [List.nil_append, Lead.continuation, if_pos (.inl rfl)]
  split
  case isTrue =>
    refine ⟨_, _, _, rfl, lead?_eq_some_iff.mpr (.inr (.inl ⟨?_, rfl⟩)),
      Lead.continuation_append rest ?_ (List.forall_mem_nil _) rfl, rfl⟩
    · rw [toNat_byte] <;> omega
    · dsimp only
      rw [toNat_byte (by omega)]
      omega
  split
  case isTrue =>
    refine ⟨_, _, _, rfl, lead?_eq_some_iff.mpr (.inr (.inr (.inl ⟨?_, rfl⟩))),
      Lead.continuation_append rest ?_ ?_ rfl, rfl⟩
    · rw [toNat_byte] <;> omega
    · rw [toNat_byte (by omega), toNat_byte (by omega)]
      dsimp only
      split <;> split <;> omega
    · rw [List.forall_mem_singleton, toNat_byte (by omega)]
      omega
  case isFalse =>
    refine ⟨_, _, _, rfl, lead?_eq_some_iff.mpr (.inr (.inr (.inr ⟨?_, rfl⟩))),
      Lead.continuation_append rest ?_ ?_ rfl, rfl⟩
    · rw [toNat_byte] <;> omega
    · rw [toNat_byte (by omega), toNat_byte (by omega)]
      dsimp only
      split <;> split <;> omega
    · rw [List.forall_mem_cons, List.forall_mem_singleton, toNat_byte (by omega),
        toNat_byte (by omega)]
      omega

/-! ## Reading and writing -/

/-- Bytes that are read as characters are the bytes of these. -/
lemma flatMap_of_decodeFrom {position : Nat} {bytes : List UInt8} {chars : List Char}
    (h : decodeFrom position bytes = .ok chars) : chars.flatMap String.utf8EncodeChar = bytes := by
  fun_induction decodeFrom position bytes generalizing chars with
  | case1 =>
    cases h
    rfl
  | case2 | case4 | case5 => cases h
  | case3 position b rest lead found later size full =>
    rename_i ih
    cases read : decodeFrom (position + size) (rest.drop later.length) with
    | error fault =>
      rw [read] at h
      cases h
    | ok others =>
      rw [read] at h
      cases h
      rw [List.flatMap_cons, encode_char found full, ih read, List.cons_append,
        List.prefix_iff_eq_append.mp (lead.continuation_isPrefix rest)]

/-- The bytes of characters are read. -/
lemma exists_decodeFrom (position : Nat) (chars : List Char) :
    ∃ read, decodeFrom position (chars.flatMap String.utf8EncodeChar) = .ok read := by
  induction chars generalizing position with
  | nil => exact ⟨[], by rw [List.flatMap_nil, decodeFrom]⟩
  | cons c chars ih =>
    obtain ⟨b, later, lead, bytes, found, goesOn, full⟩ :=
      exists_lead c (chars.flatMap String.utf8EncodeChar)
    obtain ⟨read, eq⟩ := ih (position + (later.length + 1))
    refine ⟨lead.char later :: read, ?_⟩
    rw [List.flatMap_cons, bytes, List.cons_append, decodeFrom, found]
    simp only [goesOn, if_pos full, List.drop_left, eq, Except.map]

/-- The reader of bytes gives a text exactly when they are the bytes of it. -/
theorem decode_eq_ok {bytes : List UInt8} {chars : List Char} :
    decode bytes = .ok chars ↔ encode (String.ofList chars) = bytes := by
  rw [encode_ofList]
  constructor
  · exact flatMap_of_decodeFrom
  · rintro rfl
    obtain ⟨read, eq⟩ := exists_decodeFrom 0 chars
    -- The bytes of a text are those of no other, so what is read is the text.
    have same : String.ofList read = String.ofList chars := by
      rw [← String.toByteArray_inj, String.toByteArray_ofList, String.toByteArray_ofList,
        List.utf8Encode, List.utf8Encode, flatMap_of_decodeFrom eq]
    rw [decode, eq, String.ofList_injective same]

/-- Bytes are those of one text only. -/
lemma encode_injective {s t : String} (h : encode s = encode t) : s = t := by
  rw [← String.ofList_toList (s := s), ← String.ofList_toList (s := t)] at h ⊢
  exact congrArg String.ofList
    (Except.ok.inj ((decode_eq_ok.mpr h).symm.trans (decode_eq_ok.mpr rfl)))

/-- Bytes are refused when they are those of no text. -/
lemma exists_fault_iff {bytes : List UInt8} :
    (∃ fault, decode bytes = .error fault) ↔ ∀ text, encode text ≠ bytes := by
  constructor
  · rintro ⟨fault, eq⟩ text rfl
    have read := decode_eq_ok.mpr (congrArg encode (String.ofList_toList (s := text)))
    rw [eq] at read
    cases read
  · intro none
    cases eq : decode bytes with
    | ok chars => exact (none _ (decode_eq_ok.mp eq)).elim
    | error fault => exact ⟨fault, rfl⟩

end ClientSynth.Utf8
