import Mathlib.Data.List.Basic
import ClientSynth.Proofs.TakeOut

/-!
# Texts of locations

Which locations cover which others is told by their texts. A text of a location is the first key
with the texts of the other steps behind it (`Location.toList_text_key`), so that the list of
endpoints covers everything in it, and a place that is elsewhere, below another field or another
endpoint, covers nothing in an endpoint (`Location.Elsewhere.not_covers`).

A text covers another if it is the same or goes on with a dot or a bracket. Names are free texts and
may hold both, so that places with names in them cannot be told apart by their texts in general. The
lemmas here are about places whose first key is known and whose steps into lists are numbers, which
end at a bracket that no number has in it.
-/

namespace ClientSynth

/-! ## Texts -/

/-- The text of a step behind another one. -/
def Step.suffix : Step → List Char
  | .key name => '.' :: name.toList
  | .index i => '[' :: (Text.ofInt i).toList ++ [']']

namespace Location

/-- Behind a text the steps of a location are written one by one. -/
lemma toList_textAfter {before : String} (nonempty : before ≠ "") (l : Location) :
    (textAfter before l).toList = before.toList ++ l.flatMap Step.suffix := by
  induction l generalizing before with
  | nil => simp [textAfter]
  | cons step rest ih =>
    cases step with
    | index i =>
      rw [textAfter, ih (by simp), List.flatMap_cons]
      simp [Step.suffix]
    | key name =>
      have : before.isEmpty = false := by simpa using nonempty
      rw [textAfter, this, if_neg Bool.false_ne_true, ih (by simp), List.flatMap_cons]
      simp [Step.suffix]

/-- The text of a location is its first key with the other steps behind it. -/
lemma toList_text_key {name : String} (nonempty : name ≠ "") (rest : Location) :
    (text (.key name :: rest)).toList = name.toList ++ rest.flatMap Step.suffix := by
  rw [text, textAfter, if_pos (by decide), toList_textAfter nonempty]

end Location

namespace FieldPath

/-- What covers a path is the front of it. -/
lemma prefix_of_covers {above path : String} (h : covers above path = true) :
    above.toList <+: path.toList := by
  simp only [covers, Bool.or_eq_true, beq_iff_eq, List.isPrefixOf_iff_prefix, String.toList_append]
    at h
  rcases h with (rfl | dot) | bracket
  · exact List.prefix_rfl
  · exact (List.prefix_append ..).trans dot
  · exact (List.prefix_append ..).trans bracket

/-- A path covers what goes on from it with a bracket. -/
lemma covers_of_bracket {above path : String} {rest : List Char}
    (h : path.toList = above.toList ++ '[' :: rest) : covers above path = true := by
  have : (above ++ "[").toList.isPrefixOf path.toList = true := by
    rw [List.isPrefixOf_iff_prefix, h, String.toList_append]
    exact ⟨rest, by simp⟩
  rw [covers, this, Bool.or_true]

end FieldPath

/-! ## Digits -/

namespace Text

/-- Different numbers have different digits. -/
lemma toDigits_inj {m n : Nat} (h : Nat.toDigits 10 m = Nat.toDigits 10 n) : m = n := by
  rw [← Nat.ofDigitChars_ten_toDigits (n := m), h, Nat.ofDigitChars_ten_toDigits]

/-- No number has a bracket among its digits. -/
lemma bracket_not_mem_toDigits (n : Nat) : ']' ∉ Nat.toDigits 10 n := by
  intro mem
  have := Nat.isDigit_of_mem_toDigits (by decide) (by decide) mem
  contradiction

/-- What stands before the first bracket is the same in a text and in one that goes on from it. -/
lemma eq_of_bracket_prefix {a b rest later : List Char} (ha : ']' ∉ a) (hb : ']' ∉ b)
    (h : a ++ ']' :: rest <+: b ++ ']' :: later) : a = b := by
  induction a generalizing b with
  | nil =>
    cases b with
    | nil => rfl
    | cons c b =>
      obtain ⟨rfl, _⟩ := List.cons_prefix_cons.mp h
      exact absurd List.mem_cons_self hb
  | cons c a ih =>
    cases b with
    | nil =>
      obtain ⟨rfl, _⟩ := List.cons_prefix_cons.mp h
      exact absurd List.mem_cons_self ha
    | cons d b =>
      obtain ⟨rfl, inner⟩ := List.cons_prefix_cons.mp h
      rw [ih (fun mem => ha (List.mem_cons_of_mem _ mem))
        (fun mem => hb (List.mem_cons_of_mem _ mem)) inner]

end Text

/-! ## Endpoints -/

/-- The place of an endpoint. -/
def endpointPlace (i : Nat) : Location :=
  [.key "endpoints", .index i]

namespace Location

/-- The locations below another field of a document, or in another endpoint than one. -/
inductive Elsewhere (j : Nat) : Location → Prop where
  | field {f : Field} {name : String} (rest : Location) :
    f ∈ RecordName.document.fields → name = f.key ∨ name = f.otherKey → name ≠ "endpoints" →
    Elsewhere j (.key name :: rest)
  | item {i : Nat} (rest : Location) : i ≠ j → Elsewhere j (endpointPlace i ++ rest)

variable {j : Nat} {l above : Location}

/-- At and above a location elsewhere are such locations, and the list of endpoints. -/
lemma Elsewhere.of_mem_selfAndAbove (h : Elsewhere j l) (mem : above ∈ selfAndAbove l) :
    above = [.key "endpoints"] ∨ Elsewhere j above := by
  cases h with
  | field rest isField own other =>
    rw [selfAndAbove_cons, List.mem_append, List.mem_map, List.mem_singleton] at mem
    rcases mem with ⟨inner, _, rfl⟩ | rfl
    · exact .inr (.field inner isField own other)
    · exact .inr (.field [] isField own other)
  | item rest ne =>
    rw [endpointPlace, List.cons_append, List.cons_append, List.nil_append, selfAndAbove_cons,
      selfAndAbove_cons, List.map_append, List.map_map, List.mem_append, List.mem_append,
      List.mem_map, List.map_singleton, List.mem_singleton, List.mem_singleton] at mem
    rcases mem with (⟨inner, _, rfl⟩ | rfl) | rfl
    · exact .inr (.item inner ne)
    · exact .inr (.item [] ne)
    · exact .inl rfl

/-- A place that is elsewhere is no place in the endpoint. -/
lemma Elsewhere.ne (h : Elsewhere j l) {rest : Location} : l ≠ endpointPlace j ++ rest := by
  cases h with
  | field more _ _ other =>
    intro eq
    exact other (Step.key.inj (List.cons.inj eq).1)
  | item more ne =>
    intro eq
    exact ne (Int.ofNat.inj (Step.index.inj (List.cons.inj (List.cons.inj eq).2).1))

/-- The text of a place in an endpoint, with its number in brackets. -/
lemma toList_text_endpoint (i : Nat) (rest : Location) :
    (text (endpointPlace i ++ rest)).toList =
      "endpoints".toList ++ '[' :: (Nat.toDigits 10 i ++ ']' :: rest.flatMap Step.suffix) := by
  rw [endpointPlace, List.cons_append, toList_text_key (by decide)]
  simp [Step.suffix, Text.ofInt, Text.ofNat]

/-- The place of an endpoint is written with its index, and what is in the endpoint behind it. -/
lemma text_endpoint (i : Nat) (rest : Location) :
    text (endpointPlace i ++ rest) =
      "endpoints[" ++ Text.ofNat i ++ "]" ++ String.ofList (rest.flatMap Step.suffix) := by
  rw [← String.toList_inj, toList_text_endpoint]
  simp [Text.ofNat]

/-- The list of endpoints covers everything in it. -/
lemma endpoints_covers (rest : Location) :
    FieldPath.covers (text [.key "endpoints"]) (text (endpointPlace j ++ rest)) = true :=
  FieldPath.covers_of_bracket (toList_text_endpoint j rest)

/-- The keys of other fields do not start like those of endpoints. -/
lemma take_key_ne {f : Field} (isField : f ∈ RecordName.document.fields) {name : String}
    (own : name = f.key ∨ name = f.otherKey) (other : name ≠ "endpoints") :
    3 ≤ name.toList.length ∧ name.toList.take 3 ≠ "end".toList := by
  have all : ∀ f ∈ RecordName.document.fields, ∀ name ∈ [f.key, f.otherKey], name ≠ "endpoints" →
      3 ≤ name.toList.length ∧ name.toList.take 3 ≠ "end".toList := by decide
  exact all f isField name (by simpa using own) other

/-- A location elsewhere covers nothing in an endpoint. -/
lemma Elsewhere.not_covers (h : Elsewhere j l) (rest : Location) :
    FieldPath.covers (text l) (text (endpointPlace j ++ rest)) = false := by
  rw [Bool.eq_false_iff]
  intro covers
  have front := FieldPath.prefix_of_covers covers
  rw [toList_text_endpoint] at front
  cases h with
  | @field f name more isField own other =>
    obtain ⟨long, differs⟩ := take_key_ne isField own other
    have nonempty : name ≠ "" := by
      rintro rfl
      exact absurd long (by decide)
    rw [toList_text_key nonempty] at front
    -- Three letters tell the keys of other fields from that of endpoints.
    have same := congrArg (List.take 3)
      (List.prefix_iff_eq_take.mp ((List.prefix_append ..).trans front))
    rw [List.take_take, Nat.min_eq_left long, List.take_append_of_le_length (by decide)] at same
    exact differs (same.trans (by decide))
  | @item i more ne =>
    -- The digits of the two indexes end at the first closing bracket of each text.
    rw [toList_text_endpoint, List.prefix_append_right_inj, List.cons_prefix_cons] at front
    exact ne (Text.toDigits_inj (Text.eq_of_bracket_prefix (Text.bracket_not_mem_toDigits i)
      (Text.bracket_not_mem_toDigits j) front.2))

end Location

end ClientSynth
