import ClientSynth.Proofs.Settling
import ClientSynth.Validation.Report

/-!
# The number of passes

How many passes a value needs hangs on its kind only. `Kind.passes` counts them: a list needs one
more than its items when an item that was emptied is still refused, and a field those for the value
at either key. Each kind of record has a number that is enough for its fields
(`RecordName.passes_le`), schemas within schemas included, so that every value settles in the number
for its kind (`Value.Keyed.settlesIn`). For a document that number is eight.

`Value.Sheds` says what the loop does apart from what it collects: each pass refuses the value and
goes on with what discarding leaves of it. It is enough to show that some passes lead to a value
that is read as a document, by induction on the number the fields settle in
(`Value.exists_sheds_of_settlesIn`), and what salvaging gives follows by induction on those passes
(`Value.Sheds.exists_salvageFrom`). So salvaging a document never gives up, which
`Validation.ofValue_traverses` says together with what is reported then.
-/

namespace ClientSynth

/-- The passes that are enough for the fields of a record. -/
def RecordName.passes : RecordName → Nat
  | .settings | .userSettings => 1
  | .authentication | .parameter | .schema | .model | .fault | .remark => 2
  | .environment | .report => 3
  | .requestBody | .response => 4
  | .endpoint | .document => 8
  | .service => 9
  | .artifacts => 10

/-- The passes that are enough for a value of a kind. -/
def Kind.passes : Kind → Nat
  | .list item => item.passes + if (Value.map []).refusals item = [] then 0 else 1
  | .table item => item.passes
  | .record name => name.passes
  | _ => 1

/-- The passes that are enough for a field: for the value at its key, for the one at its other key,
and for what has to be there. -/
def Field.passes (field : Field) : Nat :=
  field.kind.passes + ((if field.key = field.otherKey then 0 else field.kind.passes) +
    if field.default.isSome then 0 else 1)

/-- The passes for a record are enough for each of its fields. -/
lemma RecordName.passes_le {name : RecordName} {field : Field} (isField : field ∈ name.fields) :
    field.passes ≤ name.passes := by
  have all : ∀ field ∈ name.fields, field.passes ≤ name.passes := by
    cases name <;> decide
  exact all field isField

/-- Every kind needs one pass at least, the one that finds nothing to refuse. -/
lemma Kind.passes_pos (kind : Kind) : 0 < kind.passes := by
  induction kind with
  | list item ih => exact Nat.add_pos_left ih _
  | table item ih => exact ih
  | record name => cases name <;> decide
  | _ => exact Nat.one_pos

namespace Value

/-- A collection of another kind than the one asked for is refused as a whole or not at all. -/
lemma locations_refuse (kind : Kind) (found : Value) :
    (rejectionsOf (kind.refuse found)).map Rejection.location = [] ∨
      (rejectionsOf (kind.refuse found)).map Rejection.location = [[]] := by
  cases kind with
  | any => exact .inl rfl
  | _ => exact .inr rfl

/-- The empty mapping as an item settles with its list in the pass that is counted for it. -/
lemma itemSettlesIn_empty_passes (kind : Kind) {k : Nat}
    (le : (if (Value.map []).refusals kind = [] then 0 else 1) ≤ k) :
    (Value.map []).ItemSettlesIn k kind := by
  split at le
  case isTrue conforms => exact .of_refusals_nil conforms
  case isFalse =>
    obtain ⟨k, rfl⟩ := Nat.exists_eq_add_one.mpr le
    exact itemSettlesIn_empty k

/-- Among entries whose values settle, a field settles. -/
lemma Keyed.field_settlesIn {entries : List (Scalar × Value)}
    (h : ∀ e ∈ entries, ∀ kind : Kind, e.2.SettlesIn kind.passes kind) (field : Field) :
    field.SettlesIn field.passes entries := by
  have inside : ∀ name v, lookupText name entries = some v →
      v.SettlesIn field.kind.passes field.kind :=
    fun name v found => h (.text name, v) (mem_of_lookupEntry found) field.kind
  refine .of_lookup (inside _) (fun ne v found => ?_) ?_
  · rw [if_neg ne]
    exact inside _ v found
  · cases field.default with
    | none => exact .inr (Nat.le_refl 1)
    | some v => exact .inl rfl

/-- Every value settles in the number of passes for its kind. -/
theorem Keyed.settlesIn {v : Value} (h : v.Keyed) (kind : Kind) : v.SettlesIn kind.passes kind := by
  induction h generalizing kind with
  | scalar s => exact .of_takeOut (takeOut_eq_none (by simp) (by simp)) kind.passes_pos
  | set members => exact .of_takeOut (takeOut_eq_none (by simp) (by simp)) kind.passes_pos
  | pair _ _ _ _ => exact .of_takeOut (takeOut_eq_none (by simp) (by simp)) kind.passes_pos
  | @list items _ ih =>
    obtain ⟨item, rfl⟩ | other := kind.list_or_not
    · exact settlesIn_list fun v mem => (ih v mem item).item fun k le =>
        itemSettlesIn_empty_passes item le
    · refine .of_whole ?_ kind.passes_pos
      rw [refusals, conform_list_refuse items other]
      exact locations_refuse kind _
  | @map entries keyed _ ih =>
    cases kind with
    | table item => exact settlesIn_table keyed fun e mem => ih e mem item
    | record name =>
      -- The fields of a record settle side by side, each in the passes for it.
      refine settlesIn_record keyed fun field isField => ?_
      exact (Keyed.field_settlesIn ih field).mono (RecordName.passes_le isField)
    | _ =>
      refine .of_whole ?_ (Kind.passes_pos _)
      rw [refusals, conform_map, mapOutcome]
      · exact locations_refuse _ _
      all_goals simp

end Value

/-! ## Documents -/

namespace Document

/-- A value that is no document is refused at the places that are listed for its kind. -/
lemma ofValue_error {v : Value} {rs : List Rejection} (h : ofValue v = .error rs) :
    rs.map Rejection.location = v.refusals (.record .document) := by
  unfold ofValue at h
  unfold Value.refusals
  cases eq : v.conform (.record .document) with
  | ok w =>
    rw [eq] at h
    cases h
  | error rejections =>
    rw [eq] at h
    cases h
    rfl

/-- A value that is a document is refused nowhere. -/
lemma refusals_of_ok {v : Value} {d : Document} (h : ofValue v = .ok d) :
    v.refusals (.record .document) = [] := by
  unfold ofValue at h
  cases eq : v.conform (.record .document) with
  | ok w => exact Value.refusals_eq_nil_iff.mpr ⟨w, eq⟩
  | error rs =>
    rw [eq] at h
    cases h

/-- No field of a document has to be there. -/
lemma default_isSome {field : Field} (isField : field ∈ RecordName.document.fields) :
    field.default.isSome = true := by
  have all : ∀ field ∈ RecordName.document.fields, field.default.isSome = true := by decide
  exact all field isField

end Document

namespace Value

variable {entries : List (Scalar × Value)}

/-- So many passes lead from one value to another: in each of them the value is refused, and what it
is refused for is discarded. -/
inductive Sheds : Nat → Value → Value → Prop
  /-- Before the first pass the value is as it was. -/
  | refl (v : Value) : Sheds 0 v v
  /-- A pass discards what the value is refused for, and the others go on with what is left. -/
  | pass {n : Nat} {v left : Value} {rs : List Rejection} (refused : Document.ofValue v = .error rs)
      (rest : Sheds n (v.discardAll rs).1 left) : Sheds (n + 1) v left

/-- When passes lead to a value that is read, salvaging gives the document that is read from it, as
soon as there are more passes than those. -/
lemma Sheds.exists_salvageFrom {n : Nat} {v left : Value} {d : Document} (sheds : v.Sheds n left)
    (reads : Document.ofValue left = .ok d) (rejected : List Location) :
    ∃ (reported : List Rejection) (taken : List Location), ∀ passes, n < passes →
      v.salvageFrom rejected passes = ⟨some d, reported, taken⟩ := by
  induction sheds generalizing rejected with
  | refl v =>
    refine ⟨[], rejected, fun passes lt => ?_⟩
    obtain ⟨passes, rfl⟩ := Nat.exists_eq_add_one.mpr lt
    rw [salvageFrom, reads]
  | @pass n v left rs refused _ ih =>
    obtain ⟨later, taken, settled⟩ := ih reads (rejected ++ (v.discardAll rs).2)
    refine ⟨rs.filter (fun r => !isSuppressed rejected r.location) ++ later, taken,
      fun passes lt => ?_⟩
    obtain ⟨passes, rfl⟩ := Nat.exists_eq_add_one.mpr (Nat.zero_lt_of_lt lt)
    rw [salvageFrom, refused]
    simp only [settled passes (by omega)]

/-- Passes lead to a value that is read as a document, no more of them than its fields settle in. -/
lemma exists_sheds_of_settlesIn (keyed : TextKeyed entries) {n : Nat}
    (h : ∀ field ∈ RecordName.document.fields, field.SettlesIn n entries) :
    ∃ k left d, k ≤ n ∧ (Value.map entries).Sheds k left ∧ Document.ofValue left = .ok d := by
  induction n generalizing entries with
  | zero =>
    -- All fields conform, so that there is nothing to discard.
    have accepted : (Value.map entries).refusals (.record .document) = [] := by
      rw [refusals_record keyed, List.flatMap_eq_nil_iff]
      exact h
    obtain ⟨w, conforms⟩ := refusals_eq_nil_iff.mp accepted
    refine ⟨0, .map entries, Document.read w, Nat.le_refl 0, .refl _, ?_⟩
    rw [Document.ofValue, conforms]
    rfl
  | succ n ih =>
    cases eq : Document.ofValue (.map entries) with
    | ok d => exact ⟨0, .map entries, d, Nat.zero_le _, .refl _, eq⟩
    | error rs =>
      -- Every field of what is left needs one pass less.
      obtain ⟨left, stripped, keyedLeft, same⟩ := strip_map keyed (rs.map Rejection.location)
      rw [Document.ofValue_error eq, refusals_record keyed] at same
      obtain ⟨k, last, d, le, sheds, reads⟩ := ih keyedLeft fun field isField =>
        h field isField left (RecordName.step isField same fun _ => Document.default_isSome isField)
      rw [← stripped, ← discardAll_fst] at sheds
      exact ⟨k + 1, last, d, Nat.succ_le_succ le, .pass eq sheds, reads⟩

/-- What is looked at instead of a value with texts as keys has texts as keys. -/
lemma Keyed.plain {v : Value} (h : v.Keyed) : v.plain.Keyed := by
  induction h with
  | scalar s =>
    rw [Value.plain]
    exact .scalar s
  | list _ ih =>
    rw [Value.plain, plainItems_eq]
    exact .list (List.forall_mem_map.mpr ih)
  | map keyed _ ih =>
    rw [Value.plain, plainEntries_eq]
    exact .map keyed.mapValues (List.forall_mem_map.mpr ih)
  | set members =>
    rw [Value.plain]
    exact .set members
  | pair _ _ iha ihb =>
    rw [Value.plain]
    refine .list ?_
    rintro v (_ | ⟨_, _ | ⟨_, ⟨⟩⟩⟩)
    · exact iha
    · exact ihb

end Value

/-- At most eight passes lead from a mapping to a value that is read as a document. -/
lemma Value.Keyed.exists_sheds {entries : List (Scalar × Value)}
    (keyed : (Value.map entries).Keyed) :
    ∃ k left d, k ≤ 8 ∧ (Value.map entries).plain.Sheds k left ∧
      Document.ofValue left = .ok d := by
  have plain := keyed.plain
  rw [Value.plain] at plain ⊢
  cases plain with
  | map keys parts =>
    exact exists_sheds_of_settlesIn keys fun field isField =>
      (field_settlesIn (fun e mem => (parts e mem).settlesIn) field).mono
        (RecordName.passes_le isField)

/-- What it means that a mapping is salvaged and the rest of it traversed: `left` is what discarding
leaves of it, `d` is read from that, and the rejections were reported and the locations rejected on
the way. -/
structure Validation.Traverses (entries : List (Scalar × Value)) (left : Value) (d : Document)
    (reported : List Rejection) (rejected : List Location) : Prop where
  /-- Discarding what is refused leads to the rest in at most eight passes, and so in fewer than
  there may be. -/
  reached : ∃ passes ≤ 8, passes < maxPasses ∧ (Value.map entries).plain.Sheds passes left
  /-- The rest is accepted by the model. -/
  reads : Document.ofValue left = .ok d
  /-- Salvaging ends there, however many more passes there may be. -/
  settled : ∀ passes, 9 ≤ passes →
    (Value.map entries).plain.salvageFrom [] passes = ⟨some d, reported, rejected⟩
  /-- Validation does not give up. -/
  kept : (Validation.ofValue (.map entries)).gaveUp = false
  /-- The report is that of what was refused on the way, followed by all that the traversal of the
  rest finds in places that were not taken out. -/
  report : (Validation.ofValue (.map entries)).report =
    .ofFindings (reported.map rejectionFinding ++
      d.findings.filter fun f => !isSuppressed rejected f.location)
  /-- The report is given unless the traversal of the rest meets a status code that no message can
  hold. -/
  ends : (Value.map entries).validate =
    if d.hasOversizedStatus then .error .oversized else .ok (Validation.ofValue (.map entries))

/-- Discarding what is refused in a mapping with texts as keys at every depth leads to a value that
is read as a document in at most eight passes, however many values in it are of the wrong kind. It
is never given up, and what is left is traversed. -/
theorem Validation.ofValue_traverses {entries : List (Scalar × Value)}
    (keyed : (Value.map entries).Keyed) :
    ∃ left d reported rejected, Traverses entries left d reported rejected := by
  obtain ⟨k, left, d, le, sheds, reads⟩ := keyed.exists_sheds
  obtain ⟨reported, rejected, settled⟩ := sheds.exists_salvageFrom reads []
  have salvaged : (Value.map entries).salvage = ⟨some d, reported, rejected⟩ :=
    settled maxPasses (Nat.lt_of_le_of_lt le (by decide))
  refine ⟨left, d, reported, rejected,
    ⟨k, le, Nat.lt_of_le_of_lt le (by decide), sheds⟩, reads,
    fun passes many => settled passes (Nat.lt_of_lt_of_le (Nat.lt_succ_of_le le) many), ?_, ?_, ?_⟩
  · rw [Validation.ofValue, salvaged]
    rfl
  · rw [Validation.ofValue, salvaged]
    rfl
  · rw [Value.validate, Validation.ofValue, salvaged]
    rfl

/-- The entries of a document with numbers in place of tags. -/
def numberedTags : List (Scalar × Value) :=
  [(.text "endpoints", .list [.object [("tags", .list [.int 1, .int 2])]])]

/-- Numbers in place of tags take several passes: the items are emptied before their list goes. -/
theorem Validation.ofValue_traverses_numberedTags :
    (Value.map numberedTags).Keyed ∧
      ∃ left d reported rejected, Traverses numberedTags left d reported rejected := by
  have one : ∀ {name : String} {v : Value}, v.Keyed → (Value.map [(.text name, v)]).Keyed :=
    fun h => .map (.cons nofun .nil) (List.forall_mem_singleton.mpr h)
  have tags : (Value.list [.int 1, .int 2]).Keyed :=
    .list (List.forall_mem_cons.mpr ⟨.scalar _, List.forall_mem_singleton.mpr (.scalar _)⟩)
  have keyed : (Value.map numberedTags).Keyed :=
    one (.list (List.forall_mem_singleton.mpr (one tags)))
  exact ⟨keyed, Validation.ofValue_traverses keyed⟩

end ClientSynth
