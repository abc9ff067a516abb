import Mathlib.Algebra.Group.Nat.Defs
import Mathlib.Data.List.TakeWhile
import ClientSynth.Json.Reader
import ClientSynth.Proofs.TakeOut

/-!
# JSON values

`Value.IsJson` holds of the values that a JSON text can hold: every mapping has texts as keys, each
once, and there are no sets, pairs, dates or bytes, and no integer with more digits than are read.
The reader gives such values only (`Json.isJson_of_parse`), they are their own plain form, and
taking something out of one leaves one.

The reader recurses on what is left of a text, so `Json.ReadsJson n` says of texts of one length
that what is read from them is such a value, and the main induction is on the length. A value in
brackets or braces is read from a shorter text by the lemmas of that section, which take all shorter
lengths for granted.
-/

namespace ClientSynth

/-! ## Digits -/

namespace Text

/-- Decimal digits spell a number below the power of ten of their count. -/
lemma natOfDigits_lt {digits : List Char} (h : ∀ c ∈ digits, c.isDigit = true) :
    natOfDigits digits < 10 ^ digits.length := by
  have step : ∀ (digits : List Char) (n : Nat), (∀ c ∈ digits, c.isDigit = true) →
      digits.foldl (fun n c => 10 * n + (c.toNat - '0'.toNat)) n <
        (n + 1) * 10 ^ digits.length := by
    intro digits
    induction digits with
    | nil => simp
    | cons c rest ih =>
      intro n isDigit
      have digit : c.toNat - '0'.toNat ≤ 9 := by
        have := isDigit c List.mem_cons_self
        simp only [Char.isDigit, Bool.and_eq_true, decide_eq_true_eq, ge_iff_le,
          UInt32.le_iff_toNat_le] at this
        have := this.2
        simp at this ⊢
        omega
      -- A digit more is worth ten times as much, and the digit itself is at most nine.
      calc _ < (10 * n + (c.toNat - '0'.toNat) + 1) * 10 ^ rest.length :=
              ih _ fun d mem => isDigit d (List.mem_cons_of_mem _ mem)
        _ ≤ (10 * (n + 1)) * 10 ^ rest.length := Nat.mul_le_mul_right _ (by omega)
        _ = (n + 1) * 10 ^ (c :: rest).length := by
              rw [List.length_cons, Nat.pow_succ', Nat.mul_comm 10, Nat.mul_assoc]
  simpa [natOfDigits] using step digits 0 h

/-- An integer with few enough digits is not oversized. -/
lemma isOversized_eq_false_iff {n : Int} : isOversized n = false ↔ n.natAbs < 10 ^ maxDigits := by
  rw [isOversized, decide_eq_false_iff_not, Nat.not_lt,
    Nat.length_toDigits_le_iff (by decide) (by decide)]

/-- The size that digits spell is not oversized when they are not too many. -/
lemma isOversized_natOfDigits {digits : List Char} (h : ∀ c ∈ digits, c.isDigit = true)
    (length : digits.length ≤ maxDigits) (negative : Bool) :
    isOversized (if negative then -(natOfDigits digits : Int) else natOfDigits digits) = false := by
  have size : (if negative then -(natOfDigits digits : Int) else natOfDigits digits).natAbs =
      natOfDigits digits := by
    cases negative <;> simp
  rw [isOversized_eq_false_iff, size]
  exact Nat.lt_of_lt_of_le (natOfDigits_lt h) (Nat.pow_le_pow_right (by decide) length)

end Text

/-! ## Values -/

/-- A scalar that a JSON text can hold. -/
def Scalar.IsJson : Scalar → Prop
  | .null | .bool _ | .float _ | .text _ => True
  | .int n => Text.isOversized n = false
  | .date _ | .moment _ | .bytes _ => False

/-- A value that a JSON text can hold. -/
inductive Value.IsJson : Value → Prop where
  | scalar {s} : s.IsJson → IsJson (.scalar s)
  | list {items} : (∀ v ∈ items, IsJson v) → IsJson (.list items)
  | map {entries} : TextKeyed entries → (∀ e ∈ entries, IsJson e.2) → IsJson (.map entries)

namespace Value

variable {v left : Value}

/-- The keys of a value of this kind are different texts. -/
lemma IsJson.keyed (h : v.IsJson) : v.Keyed := by
  induction h with
  | scalar _ => exact .scalar _
  | list _ ih => exact .list ih
  | map keys _ ih => exact .map keys ih

/-- A JSON value has no pairs. -/
lemma IsJson.plain_eq (h : v.IsJson) : v.plain = v := by
  induction h with
  | scalar _ => rw [plain]
  | list _ ih => rw [plain, plainItems_eq, List.map_congr_left ih, List.map_id']
  | @map entries _ _ ih =>
    rw [plain, plainEntries_eq, List.map_congr_left fun e mem => by rw [ih e mem]]
    exact congrArg Value.map (List.map_id' entries)

/-- The empty object is one. -/
lemma isJson_empty : (Value.map []).IsJson :=
  .map .nil nofun

/-- Replacing an item of a list leaves one. -/
lemma IsJson.set {items : List Value} (h : (Value.list items).IsJson) (item : left.IsJson)
    (i : Nat) : (Value.list (items.set i left)).IsJson := by
  cases h with
  | list parts =>
    refine .list fun v mem => ?_
    rcases List.mem_or_eq_of_mem_set mem with mem | rfl
    · exact parts v mem
    · exact item

/-- Taking an entry out of an object leaves one. -/
lemma IsJson.erase {entries : List (Scalar × Value)} (h : (Value.map entries).IsJson)
    (key : Scalar) : (Value.map (eraseEntry key entries)).IsJson := by
  cases h with
  | map keys parts => exact .map (keys.erase key) fun e mem => parts e (mem_of_mem_eraseEntry mem)

/-- Putting a value at a key of an object leaves one. -/
lemma IsJson.insert {entries : List (Scalar × Value)} (h : (Value.map entries).IsJson)
    (value : left.IsJson) (name : String) :
    (Value.map (insertEntry (.text name) left entries)).IsJson := by
  cases h with
  | map keys parts =>
    refine .map keys.insert fun e mem => ?_
    rcases mem_of_mem_insertEntry mem with rfl | mem
    · exact value
    · exact parts e mem

/-- What is left of a JSON value is one. -/
lemma IsJson.discard {l : Location} (h : v.IsJson) (eq : v.discard l = some left) :
    left.IsJson := by
  have taken := h.keyed.discards eq
  clear eq
  induction taken with
  | item _ => exact h.set isJson_empty _
  | inItem found _ ih =>
    cases h with
    | list parts => exact IsJson.set (.list parts) (ih (parts _ (List.mem_of_getElem? found))) _
  | entry _ => exact h.erase _
  | inEntry found _ ih =>
    cases h with
    | map keys parts =>
      exact IsJson.insert (.map keys parts) (ih (parts _ (mem_of_lookupEntry found))) _

/-- What is left of a stripped JSON value is one. -/
lemma IsJson.strip (h : v.IsJson) (ls : List Location) : (v.strip ls).IsJson := by
  induction ls generalizing v with
  | nil => exact h
  | cons l ls ih =>
    rw [Value.strip, List.foldl_cons]
    refine ih ?_
    cases eq : v.takeOut l with
    | none => exact h
    | some left =>
      obtain ⟨place, _, taken⟩ := List.exists_of_findSome?_eq_some eq
      exact h.discard taken

end Value

/-! ## Reading -/

namespace Json

/-- The whole part of a numeral consists of digits. -/
lemma isDigit_whole {text : List Char} {n : Numeral} {width : Nat}
    (h : numeral? text = some (n, width)) : ∀ c ∈ n.whole, c.isDigit = true := by
  unfold numeral? at h
  extract_lets negative sign rest digits whole at h
  split at h
  · cases h
  · obtain ⟨rfl, _⟩ := Prod.mk.inj (Option.some.inj h)
    intro c mem
    change c ∈ (if digits.head? == some '0' then ['0'] else digits) at mem
    split at mem
    · rw [List.mem_singleton.mp mem]
      rfl
    · exact List.mem_takeWhile_imp mem

/-- A numeral has a number for its value, and no integer of too many digits. -/
lemma isJson_numeral {n : Numeral} (digits : ∀ c ∈ n.whole, c.isDigit = true) {v : Value}
    (h : n.value = .ok v) : v.IsJson := by
  unfold Numeral.value at h
  split at h
  · split at h
    · cases h
    case isFalse few =>
      cases h
      exact .scalar (Text.isOversized_natOfDigits digits (by omega) n.negative)
  · cases h
    exact .scalar trivial

/-- A value without parts that is read is a JSON value. -/
lemma isJson_plain {text : List Char} {v : Value} {rest : Rest text}
    (h : plain text = .ok (v, rest)) : v.IsJson := by
  have words : ∀ w ∈ words, w.2.IsJson := by
    simp only [Json.words, List.forall_mem_cons]
    exact ⟨.scalar trivial, .scalar trivial, .scalar trivial, .scalar trivial, .scalar trivial,
      .scalar trivial, nofun⟩
  unfold plain at h
  split at h
  case h_1 _ value width found =>
    split at h
    · cases h
      obtain ⟨w, isWord, eq⟩ := List.exists_of_findSome?_eq_some found
      split at eq
      · cases eq
        exact words w isWord
      · cases eq
    · cases h
  case h_2 numeral width _ found =>
    split at h
    · cases eq : numeral.value with
      | error stop =>
        rw [eq] at h
        cases h
      | ok value =>
        rw [eq] at h
        cases h
        exact isJson_numeral (isDigit_whole found) eq
    · cases h
  case h_3 => cases h

/-- What is read from texts of a length holds JSON values. -/
structure ReadsJson (n : Nat) : Prop where
  value : ∀ text : List Char, text.length = n → ∀ v rest, value text = .ok (v, rest) → v.IsJson
  items : ∀ text : List Char, text.length = n →
    ∀ vs rest, items text = .ok (vs, rest) → ∀ v ∈ vs, v.IsJson
  members : ∀ text : List Char, text.length = n →
    ∀ es rest, members text = .ok (es, rest) →
      ∀ e ∈ es, (∃ name, e.1 = .text name) ∧ e.2.IsJson

section ReadsJson

variable {n : Nat} (shorter : ∀ m < n, ReadsJson m)
include shorter

/-- A value holds JSON values when its items or members do, which stand after its first character.
-/
lemma isJson_value (text : List Char) (length : text.length = n) {v : Value} {rest : Rest text}
    (h : value text = .ok (v, rest)) : v.IsJson := by
  unfold value at h
  split at h
  case h_1 =>
    split at h
    · cases h
    · cases h
      exact .scalar trivial
  case h_2 _ later =>
    have := skipGap_length_le later
    rw [List.length_cons] at length
    split at h
    · cases h
      exact Value.isJson_empty
    · split at h
      · cases h
      case h_2 es after read =>
        cases h
        -- A key that is written twice keeps its last value, so the entries are among the members.
        have parts := (shorter _ (by omega)).members _ rfl es after read
        obtain ⟨keyed, origin⟩ := textKeyed_distinctEntries fun e mem => (parts e mem).1
        exact .map keyed fun e mem => (parts e (origin e mem)).2
  case h_3 _ later =>
    have := skipGap_length_le later
    rw [List.length_cons] at length
    split at h
    · cases h
      exact .list (List.forall_mem_nil _)
    · split at h
      · cases h
      case h_2 vs after read =>
        cases h
        exact .list ((shorter _ (by omega)).items _ rfl vs after read)
  case h_4 => exact isJson_plain h

/-- The items of a list hold JSON values: the first starts where they start, the others later. -/
lemma isJson_items (text : List Char) (length : text.length = n) :
    ∀ vs rest, items text = .ok (vs, rest) → ∀ v ∈ vs, v.IsJson := by
  have values : ∀ v rest, value text = .ok (v, rest) → v.IsJson :=
    fun v rest h => isJson_value shorter text length h
  fun_cases items text with
  | case1 | case3 | case5 => exact nofun
  | case2 first after read =>
    rintro vs rest ⟨⟩
    exact List.forall_mem_singleton.mpr (values first after read)
  | case4 first after read _ _ _ _ _ _ later last readLater =>
    rintro vs rest ⟨⟩
    exact List.forall_mem_cons.mpr ⟨values first after read,
      (shorter _ (by omega)).items _ rfl later last readLater⟩

/-- The members of an object are keyed by texts and have such values. -/
lemma isJson_members (text : List Char) (length : text.length = n) :
    ∀ es rest, members text = .ok (es, rest) →
      ∀ e ∈ es, (∃ name, e.1 = .text name) ∧ e.2.IsJson := by
  -- Members are read in two cases only; all others end in an error.
  revert length
  refine members.fun_cases_unfolding (motive := fun text r => text.length = n →
    ∀ es rest, r = .ok (es, rest) → ∀ e ∈ es, (∃ name, e.1 = .text name) ∧ e.2.IsJson)
    ?_ ?_ ?lastMember ?_ ?laterMembers ?_ ?_ ?_ text
  case lastMember =>
    rintro text name after _ _ _ colon _ _ _ first behind read _ _ last _ length es rest ⟨⟩
    rw [List.length_cons] at length
    exact List.forall_mem_singleton.mpr
      ⟨⟨name, rfl⟩, (shorter _ (by omega)).value _ rfl first behind read⟩
  case laterMembers =>
    rintro text name after _ _ _ colon _ _ _ first behind read _ _ next _ _ _ later last readLater
      length es rest ⟨⟩
    rw [List.length_cons] at length
    exact List.forall_mem_cons.mpr
      ⟨⟨⟨name, rfl⟩, (shorter _ (by omega)).value _ rfl first behind read⟩,
        (shorter _ (by omega)).members _ rfl later last readLater⟩
  all_goals
    intros
    contradiction

end ReadsJson

/-- Everything that is read holds JSON values. -/
lemma readsJson (n : Nat) : ReadsJson n := by
  induction n using Nat.strongRecOn with
  | ind n shorter =>
    exact ⟨fun text length _ _ h => isJson_value shorter text length h,
      isJson_items shorter, isJson_members shorter⟩

/-- A JSON text holds a JSON value. -/
theorem isJson_of_parse {text : String} {v : Value} (h : parse text = .ok v) : v.IsJson := by
  unfold parse at h
  split at h
  case h_1 read =>
    cases h
    unfold parseChars at read
    split at read
    · cases read
    · split at read
      · cases read
      case h_2 value after eq =>
        simp only at read
        split at read
        · cases read
          exact (readsJson _).value _ rfl _ after eq
        · cases read
  case h_2 => cases h
  case h_3 => cases h

end Json

end ClientSynth
