import ClientSynth.Proofs.FindingPlaces

/-!
# What is suppressed

A finding is left out of a report when a location that was taken out covers its place. Whether it
does is told by texts, and the texts of two places of the layout tell them apart but for the names
of models and properties, which may have dots and brackets in them
(`Location.prefix_or_partAtNames`).
So a finding is suppressed when a location at or above its place was taken out, and else only when a
name goes on from another one like a location (`Validation.isSuppressed_iff`).

Suppression compares texts, and a text goes on from another one like a location if what follows is
empty or starts with a dot or a bracket (`Text.GoesOn`). For two places of the layout this is
followed step by step along both: equal steps are taken off (`Text.goesOn_append_iff`), an index or
a key of a field that differs ends it, and what remains are names of entries, which are free texts.
-/

namespace ClientSynth

/-! ## Marks -/

namespace Text

/-- A mark that a step of a location starts with in a text. -/
def isStepMark (c : Char) : Bool :=
  c == '.' || c == '['

/-- A text that is empty or starts with a mark. -/
def Marked (text : List Char) : Prop :=
  ∀ c ∈ text.head?, isStepMark c = true

/-- A text that is another one, or goes on from it with a mark. -/
def GoesOn (front text : List Char) : Prop :=
  ∃ rest, text = front ++ rest ∧ Marked rest

variable {a b x y : List Char}

lemma marked_nil : Marked [] :=
  nofun

/-- Two marked texts together are marked. -/
lemma Marked.append (hx : Marked x) (hy : Marked y) : Marked (x ++ y) := by
  cases x with
  | nil => exact hy
  | cons c x => exact hx

/-- The front of a marked text is marked. -/
lemma Marked.of_append (h : Marked (x ++ y)) : Marked x := by
  cases x with
  | nil => exact marked_nil
  | cons c x => exact h

/-- What stands before marks is the same in a text and in one that goes on from it, or one of the
two goes on from the other. -/
lemma GoesOn.front (hx : Marked x) (hy : Marked y) (h : GoesOn (a ++ x) (b ++ y)) :
    GoesOn a b ∨ GoesOn b a := by
  obtain ⟨rest, eq, marked⟩ := h
  rw [List.append_assoc] at eq
  rcases List.append_eq_append_iff.mp eq with ⟨more, rfl, same⟩ | ⟨more, rfl, same⟩
  · rw [same] at hy
    exact .inr ⟨more, rfl, hy.of_append⟩
  · have front := hx.append marked
    rw [same] at front
    exact .inl ⟨more, rfl, front.of_append⟩

/-- A text without marks goes on from itself only. -/
lemma GoesOn.eq (h : GoesOn a b) (unmarked : ∀ c ∈ b, ¬isStepMark c = true) : a = b := by
  obtain ⟨rest, rfl, marked⟩ := h
  cases rest with
  | nil => exact (List.append_nil a).symm
  | cons c rest => exact absurd (marked c rfl) (unmarked c (by simp))

/-- What two texts have in common in front makes no difference. -/
lemma goesOn_append_iff : GoesOn (x ++ a) (x ++ b) ↔ GoesOn a b := by
  unfold GoesOn
  simp only [List.append_assoc, List.append_cancel_left_eq]

end Text

namespace FieldPath

/-- A written location covers what goes on from it with a mark. -/
lemma covers_iff {above path : String} :
    covers above path = true ↔ Text.GoesOn above.toList path.toList := by
  simp only [covers, Bool.or_eq_true, beq_iff_eq, List.isPrefixOf_iff_prefix, String.toList_append]
  constructor
  · rintro ((rfl | ⟨rest, eq⟩) | ⟨rest, eq⟩)
    · exact ⟨[], (List.append_nil _).symm, Text.marked_nil⟩
    · exact ⟨'.' :: rest, by rw [← eq]; simp, by simp [Text.Marked, Text.isStepMark]⟩
    · exact ⟨'[' :: rest, by rw [← eq]; simp, by simp [Text.Marked, Text.isStepMark]⟩
  · rintro ⟨rest, eq, marked⟩
    cases rest with
    | nil => exact .inl (.inl (String.toList_injective (eq.trans (List.append_nil _))))
    | cons c rest =>
      have mark := marked c rfl
      simp only [Text.isStepMark, Bool.or_eq_true, beq_iff_eq] at mark
      rcases mark with rfl | rfl
      · exact .inl (.inr ⟨rest, by rw [eq]; simp⟩)
      · exact .inr ⟨rest, by rw [eq]; simp⟩

end FieldPath

/-! ## Texts of places -/

namespace Location

/-- The steps of a location as they stand in a text behind others. -/
def suffixes (l : Location) : List Char :=
  l.flatMap Step.suffix

/-- The text of a location's steps is empty or starts with a mark. -/
lemma marked_suffixes (l : Location) : Text.Marked l.suffixes := by
  cases l with
  | nil => exact Text.marked_nil
  | cons step rest => cases step <;> simp [Text.Marked, suffixes, Step.suffix, Text.isStepMark]

/-- The text of a location's steps is that of the first and of the rest. -/
lemma suffixes_cons (step : Step) (rest : Location) :
    suffixes (step :: rest) = step.suffix ++ suffixes rest :=
  List.flatMap_cons

/-- Two locations that part at the names of two entries of a table, one of which goes on from the
other like a location. -/
def PartAtNames (kind : Kind) (l other : Location) : Prop :=
  ∃ (table : Location) (item : Kind) (a b : String) (inside below : Location),
    kind.at? table = some (.table item) ∧
      l = table ++ .key a :: inside ∧ other = table ++ .key b :: below ∧ a ≠ b ∧
        (Text.GoesOn a.toList b.toList ∨ Text.GoesOn b.toList a.toList)

variable {kind inside : Kind} {step own : Step} {l other : Location}

/-- Places that part at a name inside do so as a whole. -/
lemma PartAtNames.below (enters : kind.Enters step own inside) (h : PartAtNames inside l other) :
    PartAtNames kind (step :: l) (step :: other) := by
  obtain ⟨table, item, a, b, rest, more, leads, rfl, rfl, ne, names⟩ := h
  exact ⟨step :: table, item, a, b, rest, more, enters.at?.trans leads, rfl, rfl, ne, names⟩

/-- The keys of fields have no marks in them. -/
lemma unmarked_key {name : RecordName} {f : Field} (isField : f ∈ name.fields) {key : String}
    (own : key = f.key ∨ key = f.otherKey) : ∀ c ∈ key.toList, ¬Text.isStepMark c = true := by
  have all : ∀ f ∈ name.fields, ∀ key ∈ [f.key, f.otherKey],
      ¬key.toList.any Text.isStepMark = true := by
    cases name <;> decide +kernel
  have unmarked := all f isField key (by simpa using own)
  exact fun c mem marked => unmarked (List.any_eq_true.mpr ⟨c, mem, marked⟩)

/-- Of two keys with other steps behind them, one goes on from the other when the texts do. -/
lemma goesOn_of_keys {a b : String}
    (h : Text.GoesOn (suffixes (.key a :: l)) (suffixes (.key b :: other))) :
    Text.GoesOn a.toList b.toList ∨ Text.GoesOn b.toList a.toList := by
  rw [suffixes_cons, suffixes_cons] at h
  exact Text.GoesOn.front l.marked_suffixes other.marked_suffixes
    (Text.goesOn_append_iff (x := ['.']).mp h)

/-- Of two indexes with other steps behind them, the texts go on from each other only when they are
the same. -/
lemma eq_of_indexes {i j : Nat}
    (h : Text.GoesOn (suffixes (.index i :: l)) (suffixes (.index j :: other))) : i = j := by
  have digits : ∀ (k : Nat) (l : Location), suffixes (.index k :: l) =
      '[' :: (Nat.toDigits 10 k ++ ']' :: suffixes l) := by
    intro k l
    rw [suffixes_cons]
    simp [Step.suffix, Text.ofInt, Text.ofNat]
  obtain ⟨rest, eq, _⟩ := h
  have front : suffixes (.index i :: l) <+: suffixes (.index j :: other) := ⟨rest, eq.symm⟩
  rw [digits, digits, List.cons_prefix_cons] at front
  exact Text.toDigits_inj (Text.eq_of_bracket_prefix (Text.bracket_not_mem_toDigits i)
    (Text.bracket_not_mem_toDigits j) front.2)

/-- When the text of one place goes on from that of another, it is below the other one, or the two
part at names. -/
lemma prefix_or_partAtNames {found found' : Kind} (leads : kind.at? l = some found)
    (leads' : kind.at? other = some found') (h : Text.GoesOn l.suffixes other.suffixes) :
    l <+: other ∨ PartAtNames kind l other := by
  induction l generalizing kind other with
  | nil => exact .inl List.nil_prefix
  | cons step rest ih =>
    cases other with
    | nil =>
      obtain ⟨more, eq, _⟩ := h
      cases step <;> cases eq
    | cons step' rest' =>
      obtain ⟨own, inside, enters, leads⟩ := Kind.enters_of_at? leads
      obtain ⟨own', inside', enters', leads'⟩ := Kind.enters_of_at? leads'
      by_cases same : step = step'
      · subst same
        obtain ⟨_, rfl⟩ := enters.unique enters'
        rw [suffixes_cons, suffixes_cons, Text.goesOn_append_iff] at h
        rcases ih leads leads' h with front | part
        · exact .inl (List.cons_prefix_cons.mpr ⟨rfl, front⟩)
        · exact .inr (part.below enters)
      · cases enters with
        | item i =>
          cases enters' with
          | item j => exact absurd (congrArg (fun k : Nat => Step.index k) (eq_of_indexes h)) same
        | entry a =>
          cases enters' with
          | entry b =>
            have ne : a ≠ b := fun eq => same (congrArg Step.key eq)
            exact .inr ⟨[], _, a, b, rest, rest', rfl, rfl, rfl, ne, goesOn_of_keys h⟩
        | field isField own =>
          cases enters' with
          | field isField' own' =>
            -- Keys without marks do not go on from each other.
            refine absurd (congrArg Step.key (String.toList_injective ?_)) same
            rcases goesOn_of_keys h with goesOn | goesOn
            · exact goesOn.eq (unmarked_key isField' own')
            · exact (goesOn.eq (unmarked_key isField own)).symm

/-- The steps of a place of a document make up its text. -/
lemma suffixes_eq {found : Kind} (leads : (Kind.record .document).at? l = some found)
    (inside : l ≠ []) : l.suffixes = '.' :: l.text.toList := by
  obtain ⟨step, rest, rfl⟩ := List.exists_cons_of_ne_nil inside
  obtain ⟨_, _, enters, _⟩ := Kind.enters_of_at? leads
  cases enters with
  | @field _ f key isField own =>
    have all : ∀ f ∈ RecordName.document.fields, ∀ key ∈ [f.key, f.otherKey], key ≠ "" := by decide
    rw [toList_text_key (all f isField key (by simpa using own)), suffixes_cons]
    rfl

/-- One place of a document covers another one when the texts of their steps go on from each
other. -/
lemma covers_iff {found found' : Kind} (leads : (Kind.record .document).at? l = some found)
    (inside : l ≠ []) (leads' : (Kind.record .document).at? other = some found')
    (inside' : other ≠ []) :
    FieldPath.covers l.text other.text = true ↔ Text.GoesOn l.suffixes other.suffixes := by
  rw [FieldPath.covers_iff, suffixes_eq leads inside, suffixes_eq leads' inside',
    ← Text.goesOn_append_iff (x := ['.']), List.singleton_append, List.singleton_append]

/-- What is below a location goes on from it. -/
lemma goesOn_of_prefix (h : l <+: other) : Text.GoesOn l.suffixes other.suffixes := by
  obtain ⟨rest, rfl⟩ := h
  exact ⟨suffixes rest, List.flatMap_append, marked_suffixes rest⟩

/-- A location above another one is in front of it. -/
lemma prefix_of_mem_selfAndAbove (mem : l ∈ selfAndAbove other) : l <+: other := by
  obtain ⟨i, _, rfl⟩ := List.mem_map.mp (List.mem_reverse.mp mem)
  exact List.take_prefix _ _

end Location

/-! ## Passes -/

namespace Value

/-- What is left of a value after some passes of salvaging it. -/
inductive PassesTo : Value → Value → Prop where
  | here (v : Value) : PassesTo v v
  | pass {v left : Value} {rs : List Rejection} :
    Document.ofValue v = .error rs → PassesTo (v.discardAll rs).1 left → PassesTo v left

variable {v left : Value} {l : Location}

/-- Discarding leaves a value as it can be read from JSON. -/
lemma IsJson.discardAll (json : v.IsJson) (rs : List Rejection) : (v.discardAll rs).1.IsJson := by
  rw [discardAll_fst]
  exact json.strip _

/-- Passes leave a value as it can be read from JSON. -/
lemma IsJson.passesTo (json : v.IsJson) (h : v.PassesTo left) : left.IsJson := by
  induction h with
  | here _ => exact json
  | pass _ _ ih => exact ih (json.discardAll _)

/-- What was taken out is at or above a place that was refused after some passes. -/
lemma exists_of_mem_rejected {rejected : List Location} {n : Nat}
    (mem : l ∈ (v.salvageFrom rejected n).rejected) :
    l ∈ rejected ∨ ∃ (left : Value) (place : Location), v.PassesTo left ∧
      place ∈ left.refusals (.record .document) ∧ l ∈ place.selfAndAbove := by
  induction n generalizing v rejected with
  | zero => exact .inl mem
  | succ n ih =>
    rw [salvageFrom] at mem
    split at mem
    case h_1 => exact .inl mem
    case h_2 rs refused =>
      rcases ih mem with mem | ⟨left, place, passes, isRefusal, above⟩
      · refine (List.mem_append.mp mem).imp_right fun mem => ?_
        obtain ⟨r, isRejection, above⟩ := mem_of_mem_tried mem
        refine ⟨v, r.location, .here v, ?_, above⟩
        rw [← Document.ofValue_error refused]
        exact List.mem_map_of_mem isRejection
      · exact .inr ⟨left, place, .pass refused passes, isRefusal, above⟩

/-- What was taken out of a JSON value is a place of the layout. -/
lemma IsJson.at?_of_mem_rejected (json : v.IsJson) (mem : l ∈ v.salvage.rejected) :
    l ≠ [] ∧ ∃ found, (Kind.record .document).at? l = some found := by
  rw [salvage, json.plain_eq] at mem
  obtain ⟨left, place, passes, isRefusal, above⟩ :=
    (exists_of_mem_rejected mem).resolve_left List.not_mem_nil
  obtain ⟨found, leads⟩ := ((json.passesTo passes).refuses isRefusal).at?
  obtain ⟨rest, rfl⟩ := Location.prefix_of_mem_selfAndAbove above
  exact ⟨Location.ne_nil_of_mem_selfAndAbove above, Kind.at?_of_append leads⟩

end Value

/-! ## Findings -/

/-- What is found about endpoints is not about the whole document. -/
lemma Endpoint.location_ne_nil {ids : List String} {routes : List (String × String)} {i : Nat}
    {endpoints : List Endpoint} {f : Finding} (mem : f ∈ findingsFrom ids routes i endpoints) :
    f.location ≠ [] := by
  induction endpoints generalizing ids routes i with
  | nil => cases mem
  | cons e rest ih =>
    rw [findingsFrom, findings_at] at mem
    rcases List.mem_append.mp mem with mem | mem
    · obtain ⟨g, _, rfl⟩ := List.mem_map.mp mem
      rw [Finding.location_below]
      exact List.cons_ne_nil _ _
    · exact ih mem

namespace Document

/-- Every finding is about a place in the document. -/
lemma location_ne_nil {d : Document} {f : Finding} (mem : f ∈ d.findings) : f.location ≠ [] := by
  simp only [findings, List.mem_append] at mem
  rcases mem with ((mem | mem) | mem) | mem
  · have places : ∀ l ∈ fieldPlaces, l ≠ [] := by decide
    exact places _ (location_of_fieldFinding mem)
  · intro eq
    have head := head_of_authenticationFinding mem
    rw [eq] at head
    cases head
  · exact Endpoint.location_ne_nil mem
  · obtain ⟨m, _, mem⟩ := List.mem_flatMap.mp mem
    obtain ⟨rest, place⟩ := place_of_modelFinding mem
    rw [place]
    exact List.cons_ne_nil _ _

end Document

/-- When a JSON object was salvaged, a finding of a traversal is suppressed exactly when a location
that was taken out is at or above its place, or parts from it at the names of two entries of a table
so that the texts do not tell them apart. -/
theorem Validation.isSuppressed_iff {entries : List (Scalar × Value)}
    (json : (Value.map entries).IsJson) {d : Document} {f : Finding} (mem : f ∈ d.findings) :
    isSuppressed (Value.map entries).salvage.rejected f.location = true ↔
      ∃ l ∈ (Value.map entries).salvage.rejected,
        l <+: f.location ∨ l.PartAtNames (.record .document) f.location ∧
          FieldPath.covers l.text f.location.text = true := by
  obtain ⟨_, there⟩ := d.writes_findings f mem
  rw [isSuppressed, List.any_eq_true]
  refine exists_congr fun l => and_congr_right fun taken => ?_
  obtain ⟨inside, _, leads⟩ := json.at?_of_mem_rejected taken
  have texts := Location.covers_iff leads inside there.at? (Document.location_ne_nil mem)
  constructor
  · intro covers
    rcases Location.prefix_or_partAtNames leads there.at? (texts.mp covers) with front | part
    · exact .inl front
    · exact .inr ⟨part, covers⟩
  · rintro (front | ⟨_, covers⟩)
    · exact texts.mpr (Location.goesOn_of_prefix front)
    · exact covers

/-- Two models, one of which has the name of a place in the other. -/
def dottedModels : List (Scalar × Value) :=
  [(.text "models", .object
    [("A", .object [("type", .int 5)]), ("A.type", .object [("type", .text "object")])])]

/-- The type of a model is taken out, and another model has no properties and is not reported. -/
theorem Validation.isSuppressed_iff_dottedModels :
    ∃ (d : Document) (f : Finding), (Value.map dottedModels).salvage.document = some d ∧
      f ∈ d.findings ∧
      (∀ l ∈ (Value.map dottedModels).salvage.rejected, ¬l <+: f.location) ∧
      isSuppressed (Value.map dottedModels).salvage.rejected f.location = true := by
  have model : ∀ v : Value, v.IsJson → (Value.object [("type", v)]).IsJson :=
    fun v json => .map (.cons nofun .nil) (List.forall_mem_singleton.mpr json)
  have json : (Value.map dottedModels).IsJson := by
    refine .map (.cons nofun .nil) (List.forall_mem_singleton.mpr ?_)
    refine .map (.cons (by decide) (.cons nofun .nil)) ?_
    refine List.forall_mem_cons.mpr ⟨model (.int 5) ?_, List.forall_mem_singleton.mpr ?_⟩
    · exact .scalar (s := .int 5) (show Text.isOversized 5 = false by decide)
    · exact model (.text "object") (.scalar (s := .text "object") trivial)
  -- Salvaging this value is short enough to be run.
  have rejected : (Value.map dottedModels).salvage.rejected =
      [[.key "models", .key "A", .key "type"]] := by
    decide +kernel
  have found : ((Value.map dottedModels).salvage.document.any fun d =>
      d.findings.any fun f => f.location == [.key "models", .key "A.type", .key "properties"]) =
        true := by
    decide +kernel
  obtain ⟨d, salvaged, found⟩ := (Option.any_eq_true _ _).mp found
  obtain ⟨f, mem, place⟩ := List.any_eq_true.mp found
  rw [beq_iff_eq] at place
  refine ⟨d, f, salvaged, mem, ?_, (isSuppressed_iff json mem).mpr ?_⟩
  · rw [rejected, place]
    decide
  · refine ⟨_, rejected ▸ List.mem_singleton_self _, .inr ⟨?_, ?_⟩⟩
    · rw [place]
      exact ⟨[.key "models"], _, "A", "A.type", [.key "type"], [.key "properties"], rfl, rfl, rfl,
        by decide, .inl ⟨".type".toList, by decide, by simp [Text.Marked, Text.isStepMark]⟩⟩
    · rw [place]
      decide

end ClientSynth
