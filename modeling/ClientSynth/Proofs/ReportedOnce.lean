import ClientSynth.Proofs.Suppression

/-!
# Rejected values are reported once

A value that is refused in the first pass is taken out and reported. Of what comes later nothing is
said at its place again, and what is given at no other place of the field is looked for only where
the field is written with the first of its keys. So there is one error about a field that is spelled
with its first key, and about another one there may be more at the place with the first keys
(`Validation.errorsAbout_rejected`).

A value gives a place if something is there (`Value.Gives`), which taking out never adds to. So the
place of a rejection of the first pass is given in no later value, and a finding at it can only come
from a field that is reported as missing, which is at the first key of the field. Both spellings of
a key enter here: the rejection has the key that was found, and the traversal writes the first one.
-/

namespace ClientSynth

/-- Of a location and those above it, the first one is the location. -/
lemma Location.selfAndAbove_eq_cons {l : Location} (inside : l ≠ []) :
    ∃ above, selfAndAbove l = l :: above := by
  induction l with
  | nil => exact absurd rfl inside
  | cons step rest ih =>
    rw [selfAndAbove_cons]
    by_cases last : rest = []
    · subst last
      exact ⟨[], rfl⟩
    · obtain ⟨above, eq⟩ := ih last
      exact ⟨above.map (step :: ·) ++ [[step]], by rw [eq]; rfl⟩

namespace Value

/-! ## What is given -/

section Gives

variable {v left item : Value} {entries : List (Scalar × Value)} {items : List Value} {l : Location}

/-- A mapping gives itself and what the values at its keys give. -/
lemma gives_map_iff :
    (Value.map entries).Gives l ↔ l = [] ∨ ∃ (name : String) (rest : Location) (v : Value),
      l = .key name :: rest ∧ lookupText name entries = some v ∧ v.Gives rest := by
  constructor
  · rintro ⟨w, here⟩
    match l with
    | [] => exact .inl rfl
    | .key name :: rest =>
      obtain ⟨v, found, here⟩ := Option.bind_eq_some_iff.mp here
      exact .inr ⟨name, rest, v, rfl, found, w, here⟩
    | .index i :: rest => cases here
  · rintro (rfl | ⟨name, rest, v, rfl, found, w, here⟩)
    · exact ⟨_, rfl⟩
    · exact ⟨w, Option.bind_eq_some_iff.mpr ⟨v, found, here⟩⟩

/-- A list gives itself and what its items give. -/
lemma gives_list_iff :
    (Value.list items).Gives l ↔ l = [] ∨ ∃ (i : Nat) (rest : Location) (v : Value),
      l = .index i :: rest ∧ items[i]? = some v ∧ v.Gives rest := by
  constructor
  · rintro ⟨w, here⟩
    match l with
    | [] => exact .inl rfl
    | .key name :: rest => cases here
    | .index i :: rest =>
      rw [at?] at here
      split at here
      case isTrue nonneg =>
        obtain ⟨i, rfl⟩ := Int.eq_ofNat_of_zero_le nonneg
        obtain ⟨v, found, here⟩ := Option.bind_eq_some_iff.mp here
        exact .inr ⟨i, rest, v, rfl, found, w, here⟩
      case isFalse => cases here
  · rintro (rfl | ⟨i, rest, v, rfl, found, w, here⟩)
    · exact ⟨_, rfl⟩
    · exact ⟨w, by rw [at?_index, found]; exact here⟩

/-- The empty object gives only itself. -/
lemma gives_empty_iff : (Value.map []).Gives l ↔ l = [] := by
  rw [gives_map_iff]
  simp [lookupText, lookupEntry]

/-- Replacing an item by one that gives no more adds nothing to what a list gives. -/
lemma gives_of_set {i : Nat} (here : items[i]? = some item)
    (inside : ∀ rest, left.Gives rest → item.Gives rest)
    (h : (Value.list (items.set i left)).Gives l) : (Value.list items).Gives l := by
  rcases gives_list_iff.mp h with rfl | ⟨j, rest, v, rfl, found, given⟩
  · exact ⟨_, rfl⟩
  · refine gives_list_iff.mpr (.inr ?_)
    by_cases same : j = i
    · subst same
      rw [List.getElem?_set_self (List.getElem?_eq_some_iff.mp here).1] at found
      cases found
      exact ⟨j, rest, item, rfl, here, inside rest given⟩
    · rw [List.getElem?_set_ne (Ne.symm same)] at found
      exact ⟨j, rest, v, rfl, found, given⟩

/-- Replacing a value by one that gives no more adds nothing to what a mapping gives. -/
lemma gives_of_insert {name : String} (here : lookupText name entries = some item)
    (inside : ∀ rest, left.Gives rest → item.Gives rest)
    (h : (Value.map (insertEntry (.text name) left entries)).Gives l) :
    (Value.map entries).Gives l := by
  rcases gives_map_iff.mp h with rfl | ⟨key, rest, v, rfl, found, given⟩
  · exact ⟨_, rfl⟩
  · refine gives_map_iff.mpr (.inr ?_)
    by_cases same : key = name
    · subst same
      rw [lookupText, lookupEntry_insert_self] at found
      cases found
      exact ⟨key, rest, item, rfl, here, inside rest given⟩
    · rw [lookupText, lookupEntry_insert_ne same] at found
      exact ⟨key, rest, v, rfl, found, given⟩

/-- Taking an entry out adds nothing to what a mapping gives. -/
lemma gives_of_erase {name : String} (keyed : TextKeyed entries)
    (h : (Value.map (eraseEntry (.text name) entries)).Gives l) : (Value.map entries).Gives l := by
  rcases gives_map_iff.mp h with rfl | ⟨key, rest, v, rfl, found, given⟩
  · exact ⟨_, rfl⟩
  · refine gives_map_iff.mpr (.inr ⟨key, rest, v, rfl, ?_, given⟩)
    by_cases same : key = name
    · subst same
      rw [lookupText, keyed.lookupEntry_erase_self] at found
      cases found
    · rwa [lookupText, lookupEntry_erase_ne same] at found

/-- What is given after something was taken out was given before. -/
lemma IsJson.gives_of_discard {place : Location} (json : v.IsJson)
    (eq : v.discard place = some left) (given : left.Gives l) : v.Gives l := by
  have taken := json.keyed.discards eq
  clear eq
  induction taken generalizing l with
  | item found =>
    refine gives_of_set found (fun rest given => ?_) given
    rw [gives_empty_iff.mp given]
    exact ⟨_, rfl⟩
  | inItem found _ ih =>
    cases json with
    | list parts =>
      exact gives_of_set found (fun _ => ih (parts _ (List.mem_of_getElem? found))) given
  | entry _ =>
    cases json with
    | map keys _ => exact gives_of_erase keys given
  | inEntry found _ ih =>
    cases json with
    | map keys parts =>
      exact gives_of_insert found (fun _ => ih (parts _ (mem_of_lookupEntry found))) given

/-- Taking out what is refused adds nothing to what a value gives. -/
lemma IsJson.gives_of_strip {ls : List Location} (json : v.IsJson)
    (given : (v.strip ls).Gives l) : v.Gives l := by
  induction ls generalizing v with
  | nil => exact given
  | cons place ls ih =>
    rw [Value.strip, List.foldl_cons] at given
    cases eq : v.takeOut place with
    | none =>
      rw [eq] at given
      exact ih json given
    | some left =>
      rw [eq] at given
      obtain ⟨above, _, taken⟩ := List.exists_of_findSome?_eq_some eq
      exact json.gives_of_discard taken (ih (json.discard taken) given)

/-- What is given after some passes was given before. -/
lemma IsJson.gives_of_passesTo (json : v.IsJson) (h : v.PassesTo left) (given : left.Gives l) :
    v.Gives l := by
  induction h with
  | here _ => exact given
  | pass _ _ ih =>
    have given := ih (json.discardAll _) given
    rw [discardAll_fst] at given
    exact json.gives_of_strip given

end Gives

/-! ## What is reported -/

section Reported

variable {v : Value} {rejected : List Location} {r : Rejection} {rs : List Rejection} {n : Nat}

/-- What is not suppressed when more was taken out is not suppressed before. -/
lemma not_isSuppressed_of_subset {later : List Location} {l : Location} (subset : rejected ⊆ later)
    (h : isSuppressed later l = false) : isSuppressed rejected l = false := by
  rw [Bool.eq_false_iff] at h ⊢
  intro covered
  obtain ⟨place, mem, covers⟩ := List.any_eq_true.mp covered
  exact h (List.any_eq_true.mpr ⟨place, subset mem, covers⟩)

/-- A place that was taken out is suppressed. -/
lemma isSuppressed_of_mem {l : Location} (mem : l ∈ rejected) : isSuppressed rejected l = true := by
  refine List.any_eq_true.mpr ⟨l, mem, ?_⟩
  rw [FieldPath.covers, beq_self_eq_true, Bool.true_or, Bool.true_or]

/-- What is reported was refused after some passes, at a place that was not suppressed. -/
lemma exists_of_mem_reported (mem : r ∈ (v.salvageFrom rejected n).reported) :
    isSuppressed rejected r.location = false ∧ ∃ left : Value, v.PassesTo left ∧
      r.location ∈ left.refusals (.record .document) := by
  induction n generalizing v rejected with
  | zero => cases mem
  | succ n ih =>
    rw [salvageFrom] at mem
    split at mem
    case h_1 => cases mem
    case h_2 rs refused =>
      rcases List.mem_append.mp mem with mem | mem
      · obtain ⟨isRejection, unsuppressed⟩ := List.mem_filter.mp mem
        refine ⟨by simpa using unsuppressed, v, .here v, ?_⟩
        rw [← Document.ofValue_error refused]
        exact List.mem_map_of_mem isRejection
      · obtain ⟨unsuppressed, left, passes, isRefusal⟩ := ih mem
        exact ⟨not_isSuppressed_of_subset (List.subset_append_left _ _) unsuppressed, left,
          .pass refused passes, isRefusal⟩

/-- A mapping that is to be a record is refused below its keys only. -/
lemma IsJson.ne_nil_of_mem_refusals {entries : List (Scalar × Value)} {name : RecordName}
    {l : Location} (json : (Value.map entries).IsJson)
    (mem : l ∈ (Value.map entries).refusals (.record name)) : l ≠ [] := by
  cases json with
  | map keyed _ =>
    rw [refusals_record keyed, List.mem_flatMap] at mem
    obtain ⟨f, _, mem⟩ := mem
    obtain ⟨key, rest, _, rfl⟩ := Field.step_of_mem_refusals mem
    exact List.cons_ne_nil _ _

/-- The place of a rejection is tried first. -/
lemma location_mem_tried (mem : r ∈ rs) (inside : r.location ≠ []) :
    r.location ∈ (v.discardAll rs).2 := by
  induction rs generalizing v with
  | nil => cases mem
  | cons first rest ih =>
    rw [discardAll]
    rcases List.mem_cons.mp mem with rfl | mem
    · obtain ⟨above, eq⟩ := Location.selfAndAbove_eq_cons inside
      refine List.mem_append_left _ ?_
      rw [eq, discardFirst]
      split <;> exact List.mem_cons_self
    · exact List.mem_append_right _ (ih mem)

end Reported

end Value

/-! ## Errors about a field -/

/-- A fault that is reported is at the place of its finding. -/
lemma Finding.location_of_fault? {f : Finding} {e : Located Fault} (isFault : f.fault? = some e) :
    e.location = f.location := by
  cases f with
  | fault l f =>
    cases isFault
    rfl
  | remark l r => cases isFault

/-- The errors of a report about the field at a location, with whichever keys they spell it. -/
def Report.errorsAbout (r : Report) (l : Location) : List (Located Fault) :=
  r.errors.filter fun e => (Kind.record .document).written e.location =
    (Kind.record .document).written l

/-- The members of a list with the key of one of them are that one, when no two have one key. -/
lemma filter_eq_singleton {α β : Type} [DecidableEq β] {key : α → β} {as : List α} {a : α}
    (nodup : (as.map key).Nodup) (mem : a ∈ as) : as.filter (fun b => key b = key a) = [a] := by
  induction as with
  | nil => cases mem
  | cons b as ih =>
    rw [List.map_cons, List.nodup_cons] at nodup
    rcases List.mem_cons.mp mem with rfl | mem
    · rw [List.filter_cons_of_pos (by simp), List.filter_eq_nil_iff.mpr]
      intro b isMember same
      exact nodup.1 (of_decide_eq_true same ▸ List.mem_map_of_mem isMember)
    · have ne : key b ≠ key a := fun same => nodup.1 (same ▸ List.mem_map_of_mem mem)
      rw [List.filter_cons_of_neg (by simpa using ne), ih nodup.2 mem]

namespace Validation

section Once

variable {entries : List (Scalar × Value)} {rs : List Rejection} {r : Rejection}

/-- Salvaging a JSON object that is refused: its rejections are reported, and salvaging goes on with
what is left. -/
lemma salvage_of_error (json : (Value.map entries).IsJson)
    (refused : Document.ofValue (.map entries) = .error rs) :
    ∃ later : Salvage,
      later = ((Value.map entries).discardAll rs).1.salvageFrom
        ((Value.map entries).discardAll rs).2 (maxPasses - 1) ∧
      (Value.map entries).salvage = { later with reported := rs ++ later.reported } := by
  refine ⟨_, rfl, ?_⟩
  rw [Value.salvage, json.plain_eq, show maxPasses = maxPasses - 1 + 1 from rfl, Value.salvageFrom,
    refused]
  simp [isSuppressed]

/-- What is refused after some passes is given, or it is a field that is missing, whose place is
written with the first key of each field. -/
lemma gives_or_written {left : Value} {l : Location} (json : (Value.map entries).IsJson)
    (passes : (Value.map entries).PassesTo left) (refused : l ∈ left.refusals (.record .document)) :
    (Value.map entries).Gives l ∨ (Kind.record .document).written l = l := by
  rcases ((json.passesTo passes).refuses refused).given_or_required with given | required
  · exact .inl (json.gives_of_passesTo passes given)
  · obtain ⟨p, name, field, leads, isField, required, rfl⟩ := required
    exact .inr (Kind.written_required leads isField required)

/-- The errors about a JSON object that is refused are those of the first pass, and later ones at
places that were not taken out: they are given, or written with the first key of each field. -/
lemma exists_errors (json : (Value.map entries).IsJson)
    (refused : Document.ofValue (.map entries) = .error rs) :
    ∃ later : List (Located Fault), (ofValue (.map entries)).report.errors =
        rs.map (fun r => ⟨r.location, .rejected r.cause⟩) ++ later ∧
      ∀ e ∈ later, isSuppressed ((Value.map entries).discardAll rs).2 e.location = false ∧
        ((Value.map entries).Gives e.location ∨
          (Kind.record .document).written e.location = e.location) := by
  obtain ⟨later, eq, salvaged⟩ := salvage_of_error json refused
  refine ⟨(later.reported.map rejectionFinding ++ ((later.document.map Document.findings).getD
    []).filter fun f => !isSuppressed later.rejected f.location).filterMap Finding.fault?, ?_, ?_⟩
  · rw [ofValue, salvaged, ofSalvage, Report.ofFindings, List.map_append, List.append_assoc,
      List.filterMap_append, List.filterMap_map]
    exact congrArg (· ++ _) (congrFun List.filterMap_eq_map' rs)
  · intro e mem
    obtain ⟨f, mem, isFault⟩ := List.mem_filterMap.mp mem
    -- A later error is a rejection of a later pass, or it comes from the traversal of what is left.
    rcases List.mem_append.mp mem with mem | mem
    · obtain ⟨r, isReported, rfl⟩ := List.mem_map.mp mem
      cases isFault
      rw [eq] at isReported
      obtain ⟨unsuppressed, left, passes, isRefusal⟩ := Value.exists_of_mem_reported isReported
      exact ⟨unsuppressed, gives_or_written json (.pass refused passes) isRefusal⟩
    · obtain ⟨isFinding, unsuppressed⟩ := List.mem_filter.mp mem
      rw [Bool.not_eq_true'] at unsuppressed
      rw [Finding.location_of_fault? isFault]
      constructor
      · refine Value.not_isSuppressed_of_subset ?_ unsuppressed
        rw [eq]
        exact Value.rejected_subset _ _ _
      · cases salvaged : later.document with
        | none =>
          rw [salvaged] at isFinding
          cases isFinding
        | some d =>
          rw [salvaged] at isFinding
          obtain ⟨_, there⟩ := d.writes_findings f isFinding
          exact .inr there.written

/-- No two rejections of the first pass are about one field. -/
lemma nodup_written_rejections (json : (Value.map entries).IsJson)
    (refused : Document.ofValue (.map entries) = .error rs) :
    (rs.map fun r => (Kind.record .document).written r.location).Nodup := by
  have apart := json.nodup_written_refusals (.record .document)
  rw [← Document.ofValue_error refused, List.map_map] at apart
  exact apart

/-- Of the errors of the first pass, only the one about a value that is refused is about its
field. -/
lemma rejections_about (apart : (rs.map fun r => (Kind.record .document).written r.location).Nodup)
    (mem : r ∈ rs) :
    (rs.map fun r => (⟨r.location, .rejected r.cause⟩ : Located Fault)).filter
        (fun e => (Kind.record .document).written e.location =
          (Kind.record .document).written r.location) = [⟨r.location, .rejected r.cause⟩] := by
  rw [List.filter_map]
  exact congrArg (List.map _) (filter_eq_singleton apart mem)

/-- None of the errors of the first pass is at the place with the first key of each field, when a
value that is refused is given at another place of the field. -/
lemma no_rejection_written
    (apart : (rs.map fun r => (Kind.record .document).written r.location).Nodup) (mem : r ∈ rs)
    (differs : (Kind.record .document).written r.location ≠ r.location) :
    (rs.map fun r => (⟨r.location, .rejected r.cause⟩ : Located Fault)).filter
        (fun e => e.location = (Kind.record .document).written r.location) = [] := by
  refine List.filter_eq_nil_iff.mpr fun e isRejection here => ?_
  have here := of_decide_eq_true here
  have isOnly : e ∈ [(⟨r.location, .rejected r.cause⟩ : Located Fault)] := by
    rw [← rejections_about apart mem, List.mem_filter, decide_eq_true_iff, here,
      Kind.written_written]
    exact ⟨isRejection, rfl⟩
  cases List.mem_singleton.mp isOnly
  exact differs here.symm

/-- The errors about a field with a value that is refused in the first pass, and that is given at no
other place of the field, are the one about the value, and those at the place with the first key of
each field when that is another place. So there is one error about a field that is spelled with its
first key, below others that are. -/
theorem errorsAbout_rejected (json : (Value.map entries).IsJson)
    (refused : Document.ofValue (.map entries) = .error rs) (mem : r ∈ rs)
    (once : ∀ l, (Kind.record .document).written l = (Kind.record .document).written r.location →
      (Value.map entries).Gives l → l = r.location) :
    (ofValue (.map entries)).report.errorsAbout r.location =
      ⟨r.location, .rejected r.cause⟩ ::
        if (Kind.record .document).written r.location = r.location then []
        else (ofValue (.map entries)).report.errors.filter fun e =>
          e.location = (Kind.record .document).written r.location := by
  obtain ⟨later, errors, places⟩ := exists_errors json refused
  have apart := nodup_written_rejections json refused
  have taken : r.location ∈ ((Value.map entries).discardAll rs).2 := by
    refine Value.location_mem_tried mem ?_
    exact json.ne_nil_of_mem_refusals (Document.ofValue_error refused ▸ List.mem_map_of_mem mem)
  -- What comes later is not given, and so it is written with first keys.
  have elsewhere : ∀ e ∈ later, (Kind.record .document).written e.location =
      (Kind.record .document).written r.location →
        e.location = (Kind.record .document).written r.location ∧ e.location ≠ r.location := by
    intro e isLater same
    obtain ⟨unsuppressed, place⟩ := places e isLater
    have ne : e.location ≠ r.location := by
      intro eq
      rw [eq, Value.isSuppressed_of_mem taken] at unsuppressed
      cases unsuppressed
    rcases place with given | own
    · exact absurd (once _ same given) ne
    · exact ⟨own.symm.trans same, ne⟩
  rw [Report.errorsAbout, errors, List.filter_append, rejections_about apart mem,
    List.singleton_append]
  refine congrArg (_ :: ·) ?_
  split
  case isTrue own =>
    refine List.filter_eq_nil_iff.mpr fun e isLater same => ?_
    obtain ⟨eq, ne⟩ := elsewhere e isLater (of_decide_eq_true same)
    exact ne (eq.trans own)
  case isFalse differs =>
    rw [List.filter_append, no_rejection_written apart mem differs, List.nil_append]
    refine List.filter_congr fun e isLater => ?_
    rw [decide_eq_decide]
    constructor
    · exact fun same => (elsewhere e isLater same).1
    · intro eq
      rw [eq, Kind.written_written]

end Once

/-- A number in place of the base URL is reported where it is given, and again as a base URL that is
missing, since it was given with the other key. -/
theorem errorsAbout_rejected_baseUrl :
    (ofValue (.object [("base_url", .int 5)])).report.errorsAbout [.key "base_url"] =
      [⟨[.key "base_url"], .rejected .notText⟩, ⟨[.key "baseURL"], .noBaseUrl⟩] := by
  have json : (Value.object [("base_url", .int 5)]).IsJson :=
    .map (.cons nofun .nil) (List.forall_mem_singleton.mpr
      (.scalar (s := .int 5) (show Text.isOversized 5 = false by decide)))
  have refused : Document.ofValue (.object [("base_url", .int 5)]) =
      .error [⟨[.key "base_url"], .notText, .int 5⟩] := rfl
  have once : ∀ l, (Kind.record .document).written l =
      (Kind.record .document).written [.key "base_url"] →
        (Value.object [("base_url", .int 5)]).Gives l → l = [.key "base_url"] := by
    intro l same given
    rcases Value.gives_map_iff.mp given with rfl | ⟨name, rest, v, rfl, found, given⟩
    · exact absurd same (by decide)
    · have entry := mem_of_lookupEntry found
      cases List.mem_singleton.mp entry
      obtain ⟨w, here⟩ := given
      cases rest with
      | nil => rfl
      | cons step rest => cases step <;> cases here
  exact (errorsAbout_rejected json refused List.mem_cons_self once).trans rfl

end Validation

end ClientSynth
