import ClientSynth.Proofs.Json
import ClientSynth.Proofs.Written
import ClientSynth.Validation.Report

/-!
# Status codes in messages

A message about a status code writes it in digits, which fails for an integer with too many of them.
A document that was read from a JSON value has no such status code
(`Document.hasOversizedStatus_eq_false`): JSON has no such integer, and neither a text nor a double
is read as one.

Besides truth values there are three ways to a status code: an integer, which was read from a
numeral that is short enough; a text of digits, whose length is limited where it is read as a
number; and a double without fraction, which has a bounded size. Each has a lemma, and
`isOversized_toInteger` puts them together for scalars.
-/

namespace ClientSynth

/-! ## Integers -/

namespace Scalar

/-- A numeral consists of digits. -/
lemma isDigit_of_isNumeral {digits : List Char} (numeral : Text.isNumeral digits = true) :
    ∀ c ∈ digits, c.isDigit = true := by
  simp only [Text.isNumeral, Bool.and_eq_true, List.all_eq_true] at numeral
  exact numeral.2

/-- A numeral has few digits when it is a zero or the digits at its front are few. -/
lemma length_le_of_few {digits : List Char} {sign : Nat} (numeral : Text.isNumeral digits = true)
    (short : ¬(digits.head? == some '0' && digits.length != 1) = true)
    (few : ((digits.takeWhile Char.isDigit).head? != some '0' &&
      decide (Text.maxDigits < sign + (digits.takeWhile Char.isDigit).length)) = false) :
    digits.length ≤ Text.maxDigits := by
  rw [List.takeWhile_eq_self_iff.mpr (isDigit_of_isNumeral numeral)] at few
  by_cases zero : digits.head? = some '0'
  · have : digits.length = 1 := by simpa [zero] using short
    rw [this]
    decide
  · have : ¬Text.maxDigits < sign + digits.length := by simpa [zero] using few
    omega

/-- The digits of an integer are counted in the same way with and without a sign. -/
lemma isOversized_of_few {digits : List Char} {sign : Nat} {negative : Bool} {n : Int}
    (few : ((digits.takeWhile Char.isDigit).head? != some '0' &&
      decide (Text.maxDigits < sign + (digits.takeWhile Char.isDigit).length)) = false)
    (h : (if (!Text.isNumeral digits || (digits.head? == some '0' && digits.length != 1)) = true
        then none
        else some
          (if negative then -(Text.natOfDigits digits : Int) else Text.natOfDigits digits)) =
      some n) : Text.isOversized n = false := by
  split at h
  · cases h
  case isFalse spelled =>
    cases h
    rw [Bool.or_eq_true, not_or, Bool.not_eq_true', Bool.not_eq_false] at spelled
    obtain ⟨numeral, short⟩ := spelled
    exact Text.isOversized_natOfDigits (isDigit_of_isNumeral numeral)
      (length_le_of_few numeral short few) negative

/-- An integer that is spelled in the shortest way has few digits when the text has. -/
lemma isOversized_shortInteger {text : List Char} {n : Int} (few : isOversized text = false)
    (h : shortInteger? text = some n) : Text.isOversized n = false := by
  unfold shortInteger? at h
  unfold isOversized at few
  split at few
  case h_1 sign digits eq =>
    split at eq
    case h_1 =>
      cases eq
      exact isOversized_of_few few h
    case h_2 unsigned =>
      cases eq
      split at h
      case h_1 negative digits eq =>
        split at eq
        · exact absurd rfl (unsigned _)
        · cases eq
          exact isOversized_of_few few h

/-- A text is not read as an integer with too many digits. -/
lemma isOversized_integerText {text : List Char} {n : Int} (h : integerText? text = .ok n) :
    Text.isOversized n = false := by
  unfold integerText? at h
  split at h
  · cases h
  case isFalse few =>
    rw [Bool.not_eq_true] at few
    split at h
    case h_1 short =>
      cases h
      exact isOversized_shortInteger few short
    case h_2 _ loose =>
      cases h
      unfold looseInteger? at loose
      obtain ⟨size, _, loose⟩ := Option.bind_eq_some_iff.mp loose
      obtain ⟨digits, _, loose⟩ := Option.bind_eq_some_iff.mp loose
      obtain ⟨few, loose⟩ := Option.ite_none_left_eq_some.mp loose
      exact isOversized_shortInteger (Bool.not_eq_true _ ▸ few) loose
    case h_3 => cases h

/-- A double is not read as an integer with too many digits. -/
lemma isOversized_integerOfDouble {x : Binary64} {n : Int} (h : integerOfDouble x = .ok n) :
    Text.isOversized n = false := by
  unfold integerOfDouble at h
  split at h
  · cases h
  · split at h
    · cases h
    · split at h
      case isTrue small =>
        cases h
        rw [Text.isOversized_eq_false_iff]
        -- Doubles that fit a machine word have at most nineteen digits.
        have : 0x8000000000000000 ≤ 10 ^ 19 := by decide
        have := Nat.pow_le_pow_right (n := 10) (by decide) (show 19 ≤ Text.maxDigits by decide)
        omega
      case isFalse => cases h

/-- No integer that a JSON scalar is read as is too long for a message. -/
lemma isOversized_toInteger {s : Scalar} (json : s.IsJson) {n : Int} (h : s.toInteger = .ok n) :
    Text.isOversized n = false := by
  cases s with
  | int m =>
    cases h
    exact json
  | bool b =>
    cases h
    cases b <;> decide
  | float x => exact isOversized_integerOfDouble h
  | text s => exact isOversized_integerText h
  | null => cases h
  | date _ => cases h
  | moment _ => cases h
  | bytes _ => exact json.elim

end Scalar

/-! ## Parts of documents -/

namespace Value

variable {v w : Value}

/-- Only mappings are read as records. -/
lemma exists_of_conform_record {name : RecordName} (h : v.conform (.record name) = .ok w) :
    ∃ entries, v = .map entries := by
  cases v with
  | map entries => exact ⟨entries, rfl⟩
  | scalar s =>
    rw [conform] at h
    cases h
  | list items =>
    rw [conform_list_refuse items (by simp)] at h
    cases h
  | set members =>
    rw [conform_set_refuse members (by simp)] at h
    cases h
  | pair a b =>
    rw [conform_pair_refuse a b (by simp)] at h
    cases h

/-- Of JSON values only a list is read as a list. -/
lemma IsJson.exists_of_conform_list (json : v.IsJson) {kind : Kind}
    (h : v.conform (.list kind) = .ok w) : ∃ items, v = .list items := by
  cases json with
  | list _ => exact ⟨_, rfl⟩
  | scalar _ =>
    rw [conform, conformScalar, Scalar.toKind] at h
    cases h
  | map _ _ =>
    rw [conform_map, mapOutcome] at h
    · cases h
    all_goals simp

/-- At a field of a record in written form is the absent value, what stands for the field, or the
written form of one of the entries. -/
lemma field_of_conform {entries : List (Scalar × Value)} {name : RecordName}
    (h : (Value.map entries).conform (.record name) = .ok w) {field : Field}
    (isField : field ∈ name.fields) :
    w.field field.key = .null ∨ field.default = some (w.field field.key) ∨
      ∃ key v, lookupText key entries = some v ∧
        v.conform field.kind = .ok (w.field field.key) := by
  have outcome := conform_record_ok h isField
  unfold Field.outcome at outcome
  rw [Field.find?_map] at outcome
  cases found : field.found? entries with
  | none =>
    rw [found] at outcome
    cases default : field.default with
    | none =>
      simp only [Option.map_none, default] at outcome
      cases outcome
    | some v =>
      simp only [Option.map_none, default, Except.ok.injEq, Prod.mk.injEq] at outcome
      exact .inr (.inl (congrArg some outcome.2))
  | some e =>
    obtain ⟨key, v⟩ := e
    rw [found] at outcome
    simp only [Option.map_some] at outcome
    split at outcome
    · exact .inl (Prod.mk.inj (Except.ok.inj outcome)).2.symm
    · obtain ⟨u, eq, same⟩ := map_eq_ok_iff.mp outcome
      refine .inr (.inr ⟨key, _, Field.lookup_of_found found, ?_⟩)
      rw [← (Prod.mk.inj same).2]
      exact below_eq_ok_iff.mp eq

/-- A member of a list in a record of a JSON value is the written form of a JSON value, when a
missing list is empty. -/
lemma IsJson.exists_of_mem_field (json : v.IsJson) {name : RecordName}
    (h : v.conform (.record name) = .ok w) {field : Field} (isField : field ∈ name.fields)
    {kind : Kind} (isList : field.kind = .list kind)
    (empty : ∀ missing, field.default = some missing → missing.items = [])
    {u : Value} (mem : u ∈ (w.field field.key).items) :
    ∃ item : Value, item.IsJson ∧ item.conform kind = .ok u := by
  obtain ⟨entries, rfl⟩ := exists_of_conform_record h
  rcases field_of_conform h isField with null | missing | ⟨key, found, atKey, conforms⟩
  · rw [null] at mem
    cases mem
  · rw [empty _ missing] at mem
    cases mem
  · cases json with
    | map keys parts =>
      rw [isList] at conforms
      have jsonList := parts _ (mem_of_lookupEntry atKey)
      obtain ⟨items, rfl⟩ := jsonList.exists_of_conform_list conforms
      obtain ⟨ws, eq, outcomes⟩ := conform_list_ok conforms
      rw [eq] at mem
      have isOutcome : Except.ok u ∈ ws.map (Except.ok (ε := List Rejection)) :=
        List.mem_map_of_mem mem
      rw [← outcomes] at isOutcome
      obtain ⟨item, isItem, conforms⟩ := List.mem_map.mp isOutcome
      cases jsonList with
      | list parts => exact ⟨item, parts item isItem, conforms⟩

/-- An integer in a record of a JSON value is not oversized, when none stands for a missing one. -/
lemma IsJson.isOversized_field (json : v.IsJson) {name : RecordName}
    (h : v.conform (.record name) = .ok w) {field : Field} (isField : field ∈ name.fields)
    (isInteger : field.kind = .integer)
    (absent : ∀ missing, field.default = some missing → missing.int? = none)
    {n : Int} (isInt : (w.field field.key).int? = some n) : Text.isOversized n = false := by
  obtain ⟨entries, rfl⟩ := exists_of_conform_record h
  -- A field is absent, has its default, or has the integer that a scalar is read as.
  rcases field_of_conform h isField with null | missing | ⟨key, found, atKey, conforms⟩
  · rw [null] at isInt
    cases isInt
  · rw [absent _ missing] at isInt
    cases isInt
  · cases json with
    | map keys parts =>
      rw [isInteger] at conforms
      have part := parts _ (mem_of_lookupEntry atKey)
      cases part with
      | list _ =>
        rw [conform_list_refuse _ (by simp)] at conforms
        cases conforms
      | map _ _ =>
        rw [conform_map, mapOutcome] at conforms
        · cases conforms
        all_goals simp
      | @scalar s scalarJson =>
        rw [conform, conformScalar, Scalar.toKind] at conforms
        cases eq : s.toInteger with
        | error cause =>
          rw [eq] at conforms
          cases conforms
        | ok m =>
          rw [eq] at conforms
          have same : Value.int m = w.field field.key := Except.ok.inj conforms
          rw [← same] at isInt
          cases isInt
          exact Scalar.isOversized_toInteger scalarJson eq

end Value

/-- A message can hold every status code of a document that was read from a JSON value. -/
theorem Document.hasOversizedStatus_eq_false {v : Value} (json : v.IsJson) {d : Document}
    (h : Document.ofValue v = .ok d) : d.hasOversizedStatus = false := by
  obtain ⟨w, conforms, rfl⟩ := map_eq_ok_iff.mp h
  rw [Document.hasOversizedStatus, List.any_eq_false]
  intro e isEndpoint
  obtain ⟨endpoint, mem, rfl⟩ := List.mem_map.mp isEndpoint
  obtain ⟨item, jsonItem, itemConforms⟩ := json.exists_of_mem_field conforms
    Field.endpoints_mem rfl (by rintro _ ⟨⟩; rfl) mem
  rw [Bool.not_eq_true, List.any_eq_false]
  intro r isResponse
  obtain ⟨response, mem, rfl⟩ := List.mem_map.mp isResponse
  obtain ⟨part, jsonPart, partConforms⟩ := jsonItem.exists_of_mem_field itemConforms
    Field.responses_mem rfl (by rintro _ ⟨⟩; rfl) mem
  rw [Bool.not_eq_true, Option.any_eq_false]
  intro n isInt
  exact jsonPart.isOversized_field partConforms Field.statusCode_mem rfl (by rintro _ ⟨⟩; rfl) isInt

end ClientSynth
