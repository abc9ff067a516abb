import ClientSynth.Proofs.FieldPaths
import ClientSynth.Proofs.Passes
import ClientSynth.Proofs.Written

/-!
# Which endpoints survive

Salvaging takes the whole list of endpoints out when a refused place leads out of it: when an item
that was emptied is to be taken out once more. `Value.StaysIn` says of an item that this does not
happen, and it hangs on the item only. So the list is among the locations that were taken out
exactly when some endpoint does not stay (`Value.endpoints_mem_rejected_iff`), whatever else stands
in the document; and as long as the list is there, an endpoint that conforms is in its place
unchanged (`Value.endpoint_of_salvaged`).

The passes over the list of endpoints are compared with the passes over each endpoint by itself. A
pass over the list keeps the number and the order of the items, so `StaysIn` follows one item
through the passes, and the list is taken out in the first pass in which some item does not stay.
-/

namespace ClientSynth

namespace Value

/-! ## Locations that were tried -/

/-- What is discarded first is one of the locations given. -/
lemma discardFirst_subset (v : Value) (ls : List Location) : (v.discardFirst ls).2 ⊆ ls := by
  induction ls with
  | nil => exact List.Subset.refl _
  | cons l ls ih =>
    rw [discardFirst]
    cases v.discard l with
    | some left => exact List.cons_subset_cons _ (List.nil_subset _)
    | none => exact List.cons_subset_cons _ ih

/-- All tried locations are at and above the ones of rejections. -/
lemma mem_of_mem_tried {v : Value} {rs : List Rejection} {l : Location}
    (mem : l ∈ (v.discardAll rs).2) : ∃ r ∈ rs, l ∈ r.location.selfAndAbove := by
  induction rs generalizing v with
  | nil => cases mem
  | cons r rest ih =>
    rw [discardAll] at mem
    rcases List.mem_append.mp mem with mem | mem
    · exact ⟨r, List.mem_cons_self, discardFirst_subset v _ mem⟩
    · obtain ⟨r, isRest, mem⟩ := ih mem
      exact ⟨r, List.mem_cons_of_mem _ isRest, mem⟩

/-- The last of some locations is tried when there is nothing to take out at the others. -/
lemma last_mem_tried_iff {v : Value} {ls : List Location} {last : Location} (fresh : last ∉ ls) :
    last ∈ (v.discardFirst (ls ++ [last])).2 ↔ ls.findSome? v.discard = none := by
  induction ls with
  | nil =>
    rw [List.nil_append, discardFirst]
    cases v.discard last <;> simp [discardFirst]
  | cons l ls ih =>
    rw [List.mem_cons, not_or] at fresh
    rw [List.cons_append, discardFirst, List.findSome?_cons]
    cases v.discard l with
    | some left => simpa using fresh.1
    | none => simpa [fresh.1] using ih fresh.2

/-- An entry is tried for a location below its key when the location leads out of the value there.
-/
lemma key_mem_tried_iff {entries : List (Scalar × Value)} {name : String} {child : Value}
    (here : lookupText name entries = some child) (rest : Location) :
    [.key name] ∈ ((Value.map entries).discardFirst (Location.selfAndAbove (.key name :: rest))).2 ↔
      child.takeOut rest = none := by
  have fresh : [Step.key name] ∉ (Location.selfAndAbove rest).map (Step.key name :: ·) := by
    rw [List.mem_map]
    rintro ⟨inner, mem, eq⟩
    exact Location.ne_nil_of_mem_selfAndAbove mem (List.cons.inj eq).2
  rw [Location.selfAndAbove_cons, last_mem_tried_iff fresh, List.findSome?_map,
    List.findSome?_eq_none_iff, takeOut, List.findSome?_eq_none_iff]
  refine forall₂_congr fun l mem => ?_
  rw [Function.comp_apply, discard_map_cons entries _ (Location.ne_nil_of_mem_selfAndAbove mem),
    Step.scalar, show lookupEntry (.text name) entries = some child from here, Option.bind_some,
    Option.map_eq_none_iff]

/-- An entry is tried in a pass when a location leads out of the value there. -/
lemma key_mem_tried_all_iff {entries : List (Scalar × Value)} (keyed : TextKeyed entries)
    {name : String} {child : Value} (here : lookupText name entries = some child)
    (rs : List Rejection) :
    [.key name] ∈ ((Value.map entries).discardAll rs).2 ↔
      child.takeOutAll (Location.under (.key name) (rs.map Rejection.location)) = none := by
  induction rs generalizing entries child with
  | nil => simp [discardAll, takeOutAll]
  | cons r rest ih =>
    obtain ⟨after, eqAfter, keyedAfter, same⟩ := takeOut_map_frame keyed r.location
    have there := same name
    rw [here, Option.bind_some] at there
    have later : ∀ left, child.takeOutAll (Location.under (.key name) [r.location]) = some left →
        ([.key name] ∈ ((Value.map after).discardAll rest).2 ↔
          left.takeOutAll (Location.under (.key name) (rest.map Rejection.location)) = none) :=
      fun left eq => ih keyedAfter (there.trans eq)
    have split : Location.under (.key name) ((r :: rest).map Rejection.location) =
        Location.under (.key name) [r.location] ++
          Location.under (.key name) (rest.map Rejection.location) :=
      Location.under_append [_] _
    rw [discardAll, split, takeOutAll_append]
    simp only [discardFirst_fst, List.mem_append]
    rw [show (r.location.selfAndAbove.findSome? (Value.map entries).discard).getD (.map entries) =
      .map after from eqAfter]
    by_cases below : ∃ inner, r.location = .key name :: inner
    -- The rejection is below the key, which is tried when it leads out of the value there.
    · obtain ⟨inner, eq⟩ := below
      rw [eq, Location.under_cons_self, Location.under_nil, takeOutAll_cons] at later ⊢
      rw [key_mem_tried_iff here]
      cases taken : child.takeOut inner with
      | none => simp
      | some left => simpa [takeOutAll_nil] using later left (by rw [taken]; rfl)
    -- The rejection is elsewhere: the value stays as it is, and its key is not tried.
    · have untried : [.key name] ∉
          ((Value.map entries).discardFirst r.location.selfAndAbove).2 :=
        fun mem => below (Location.exists_of_cons_mem_selfAndAbove (discardFirst_subset _ _ mem))
      rw [Location.under_singleton_eq_nil below] at later ⊢
      simpa [untried, takeOutAll_nil] using later child rfl

/-! ## Items that stay -/

section Items

variable {v : Value} {items : List Value} {kind : Kind} {n : Nat}

/-- Whether an item stays in its list over a number of passes. -/
def StaysIn : Nat → Kind → Value → Prop
  | 0, _, _ => True
  | n + 1, kind, v => ∃ left, v.takeOutItemAll (v.refusals kind) = some left ∧ StaysIn n kind left

/-- An item in which nothing is refused stays. -/
lemma StaysIn.of_refusals_nil (h : v.refusals kind = []) : v.StaysIn n kind := by
  induction n with
  | zero => trivial
  | succ n ih => exact ⟨v, by rw [h]; rfl, ih⟩

/-- A pass over a list is one over each of its items. -/
lemma pass_list_iff {left : Value} :
    (Value.list items).pass (.list kind) = some left ↔
      ∃ after : List Value, left = .list after ∧ after.length = items.length ∧
        ∀ (i : Nat) (item : Value), items[i]? = some item →
          item.takeOutItemAll (item.refusals kind) = after[i]? := by
  rw [pass, takeOutAll_list_iff refusals_list_inside]
  refine exists_congr fun after => and_congr_right fun _ => and_congr_right fun _ =>
    forall_congr' fun i => forall_congr' fun item => imp_congr_right fun here => ?_
  rw [under_refusals_list here]

/-- All items stay when all of them stay in the first pass and then for the rest of them. -/
lemma forall_staysIn_succ_iff :
    (∀ v ∈ items, v.StaysIn (n + 1) kind) ↔
      ∃ after : List Value, (Value.list items).pass (.list kind) = some (.list after) ∧
        ∀ v ∈ after, v.StaysIn n kind := by
  constructor
  · intro stays
    refine ⟨items.map fun v => (v.takeOutItemAll (v.refusals kind)).getD v, ?_, ?_⟩
    · refine pass_list_iff.mpr ⟨_, rfl, by rw [List.length_map], fun i item here => ?_⟩
      obtain ⟨left, eq, _⟩ := stays item (List.mem_of_getElem? here)
      rw [List.getElem?_map, here, Option.map_some, eq, Option.getD_some]
    · rw [List.forall_mem_map]
      intro v mem
      obtain ⟨left, eq, later⟩ := stays v mem
      rw [eq, Option.getD_some]
      exact later
  · rintro ⟨after, eq, later⟩ v mem
    obtain ⟨_, ⟨⟩, length, same⟩ := pass_list_iff.mp eq
    obtain ⟨i, lt, rfl⟩ := List.mem_iff_getElem.mp mem
    have here := same i _ (List.getElem?_eq_getElem lt)
    rw [List.getElem?_eq_getElem (by omega)] at here
    exact ⟨_, here, later _ (List.getElem_mem _)⟩

/-- In a list in which nothing is refused nothing is refused in an item. -/
lemma refusals_item_of_list (h : (Value.list items).refusals (.list kind) = []) :
    ∀ v ∈ items, v.refusals kind = [] := by
  rw [refusals_list, List.flatMap_eq_nil_iff] at h
  intro v mem
  obtain ⟨i, here⟩ := List.mem_iff_getElem?.mp mem
  exact List.map_eq_nil_iff.mp (h (v, i) (List.mem_zipIdx_iff_getElem?.mpr here))

/-- A pass over a list leaves an item in its place in which nothing is refused. -/
lemma getElem?_of_pass {after : List Value} {j : Nat}
    (h : (Value.list items).pass (.list kind) = some (.list after)) (here : items[j]? = some v)
    (conforms : v.refusals kind = []) : after[j]? = some v := by
  obtain ⟨_, ⟨⟩, _, same⟩ := pass_list_iff.mp h
  rw [← same j v here, conforms]
  rfl

end Items

/-! ## Passes over a document -/

section Document

variable {entries : List (Scalar × Value)} {items : List Value} {v : Value} {rs : List Rejection}
  {j n : Nat}

/-- What is refused in the list of endpoints is refused below its key. -/
lemma refusals_endpoints (here : lookupText "endpoints" entries = some (.list items)) :
    Field.endpoints.refusals entries =
      ((Value.list items).refusals (.list (.record .endpoint))).map (.key "endpoints" :: ·) :=
  Field.refusals_of_found (Field.found?_endpoints here)

/-- The refused places of a document at its endpoints are those of the field. -/
lemma under_refusals_document (keyed : TextKeyed entries) :
    Location.under (.key "endpoints") ((Value.map entries).refusals (.record .document)) =
      Location.under (.key "endpoints") (Field.endpoints.refusals entries) := by
  have own : "endpoints" = Field.endpoints.key ∨ "endpoints" = Field.endpoints.otherKey := .inl rfl
  rw [refusals_record keyed, RecordName.under_refusals Field.endpoints_mem entries own]

/-- The refused places of a document at its endpoints are those of the list. -/
lemma under_refusals_endpoints (keyed : TextKeyed entries)
    (here : lookupText "endpoints" entries = some (.list items)) :
    Location.under (.key "endpoints") ((Value.map entries).refusals (.record .document)) =
      (Value.list items).refusals (.list (.record .endpoint)) := by
  rw [under_refusals_document keyed, refusals_endpoints here, Location.under_map_self]

/-- A pass over a document is one over its endpoints, and they are taken out when they do not
stay. -/
lemma endpoints_pass (keyed : TextKeyed entries)
    (here : lookupText "endpoints" entries = some (.list items))
    (refused : Document.ofValue (.map entries) = .error rs) :
    ∃ after, ((Value.map entries).discardAll rs).1 = .map after ∧ TextKeyed after ∧
      lookupText "endpoints" after = (Value.list items).pass (.list (.record .endpoint)) ∧
      ([.key "endpoints"] ∈ ((Value.map entries).discardAll rs).2 ↔
        (Value.list items).pass (.list (.record .endpoint)) = none) := by
  have under : Location.under (.key "endpoints") (rs.map Rejection.location) =
      (Value.list items).refusals (.list (.record .endpoint)) := by
    rw [Document.ofValue_error refused, under_refusals_endpoints keyed here]
  obtain ⟨after, eq, keyedAfter, same⟩ := strip_map keyed (rs.map Rejection.location)
  refine ⟨after, by rw [discardAll_fst, eq], keyedAfter, ?_, ?_⟩
  · rw [same, here, Option.bind_some, under]
    rfl
  · rw [key_mem_tried_all_iff keyed here, under]
    rfl

/-- What was rejected before is still rejected. -/
lemma rejected_subset (v : Value) (rejected : List Location) (n : Nat) :
    rejected ⊆ (v.salvageFrom rejected n).rejected := by
  induction n generalizing v rejected with
  | zero => exact List.Subset.refl _
  | succ n ih =>
    rw [salvageFrom]
    split
    · exact List.Subset.refl _
    · exact List.Subset.trans (List.subset_append_left _ _) (ih _ _)

/-- The list of endpoints is taken out exactly when one of them does not stay. -/
theorem endpoints_mem_rejected_iff (keyed : TextKeyed entries)
    (here : lookupText "endpoints" entries = some (.list items)) (rejected : List Location)
    (n : Nat) :
    [.key "endpoints"] ∈ ((Value.map entries).salvageFrom rejected n).rejected ↔
      [.key "endpoints"] ∈ rejected ∨ ¬∀ v ∈ items, v.StaysIn n (.record .endpoint) := by
  induction n generalizing entries items rejected with
  | zero => simp [salvageFrom, StaysIn]
  | succ n ih =>
    rw [salvageFrom]
    cases read : Document.ofValue (.map entries) with
    | ok d =>
      simp only
      refine (or_iff_left (not_not.mpr fun v mem => .of_refusals_nil ?_)).symm
      have none := under_refusals_endpoints keyed here
      rw [Document.refusals_of_ok read, Location.under_nil] at none
      exact refusals_item_of_list none.symm v mem
    | error rs =>
      obtain ⟨after, left, keyedAfter, there, tried⟩ := endpoints_pass keyed here read
      simp only [left]
      cases pass : (Value.list items).pass (.list (.record .endpoint)) with
      | none =>
        -- The list goes in this pass, and what is rejected once stays so.
        have gone := tried.mpr pass
        refine iff_of_true (rejected_subset _ _ _ (List.mem_append_right _ gone)) (.inr ?_)
        rw [forall_staysIn_succ_iff, pass]
        rintro ⟨_, ⟨⟩, _⟩
      | some next =>
        obtain ⟨next, rfl, _⟩ := pass_list_iff.mp pass
        -- The list is there after this pass, so that the later ones decide.
        have stays : [.key "endpoints"] ∉ ((Value.map entries).discardAll rs).2 := by
          rw [tried, pass]
          exact Option.some_ne_none _
        rw [ih keyedAfter (there.trans pass), List.mem_append, or_iff_left stays,
          forall_staysIn_succ_iff, pass]
        simp

/-- As long as all endpoints stay, the salvaged document has one that conforms in its place. -/
theorem endpoint_of_salvaged (keyed : TextKeyed entries)
    (here : lookupText "endpoints" entries = some (.list items)) (at_j : items[j]? = some v)
    (conforms : v.refusals (.record .endpoint) = [])
    (stay : ∀ v ∈ items, v.StaysIn n (.record .endpoint)) {rejected : List Location} {d : Document}
    (salvaged : ((Value.map entries).salvageFrom rejected n).document = some d) :
    ∃ (left : List (Scalar × Value)) (rest : List Value), Document.ofValue (.map left) = .ok d ∧
      lookupText "endpoints" left = some (.list rest) ∧ rest[j]? = some v := by
  induction n generalizing entries items rejected with
  | zero => cases salvaged
  | succ n ih =>
    rw [salvageFrom] at salvaged
    cases read : Document.ofValue (.map entries) with
    | ok d' =>
      rw [read] at salvaged
      cases salvaged
      exact ⟨entries, items, read, here, at_j⟩
    | error rs =>
      obtain ⟨after, left, keyedAfter, there, _⟩ := endpoints_pass keyed here read
      obtain ⟨next, pass, later⟩ := forall_staysIn_succ_iff.mp stay
      rw [read] at salvaged
      simp only [left] at salvaged
      exact ih keyedAfter (there.trans pass) (getElem?_of_pass pass at_j conforms) later salvaged

/-- What stands at the endpoints of a document is a list with a value at an index, if anything
does. -/
def HasEndpoint (entries : List (Scalar × Value)) (j : Nat) (v : Value) : Prop :=
  ∀ w, lookupText "endpoints" entries = some w → ∃ items, w = .list items ∧ items[j]? = some v

/-- What is refused in a document is elsewhere than an endpoint that conforms. -/
lemma elsewhere_of_mem_refusals (keyed : TextKeyed entries) (has : HasEndpoint entries j v)
    (conforms : v.refusals (.record .endpoint) = []) :
    ∀ l ∈ (Value.map entries).refusals (.record .document), Location.Elsewhere j l := by
  intro l mem
  obtain ⟨field, isField, isRefusal⟩ := List.mem_flatMap.mp (refusals_record keyed _ ▸ mem)
  obtain ⟨name, rest, own, rfl⟩ := Field.step_of_mem_refusals isRefusal
  by_cases other : name = "endpoints"
  · subst other
    have inside := Location.mem_under_iff.mpr mem
    cases here : lookupText "endpoints" entries with
    | none =>
      have absent : Field.endpoints.refusals entries = [] := by
        rw [Field.refusals, Field.found?,
          show lookupText Field.endpoints.key entries = none from here,
          show lookupText Field.endpoints.otherKey entries = none from here]
        rfl
      rw [under_refusals_document keyed, absent] at inside
      cases inside
    | some w =>
      obtain ⟨items, rfl, at_j⟩ := has w here
      rw [under_refusals_endpoints keyed here] at inside
      obtain ⟨i, item, more, at_i, isRefusal, rfl⟩ := mem_refusals_list inside
      -- A refusal in the endpoint itself is against its conforming.
      refine .item more ?_
      rintro rfl
      rw [at_i] at at_j
      cases at_j
      rw [conforms] at isRefusal
      cases isRefusal
  · exact .field rest isField own other

/-- No pass over the list of endpoints changes one that conforms. -/
lemma HasEndpoint.after_pass (keyed : TextKeyed entries) (has : HasEndpoint entries j v)
    (conforms : v.refusals (.record .endpoint) = [])
    (read : Document.ofValue (.map entries) = .error rs) {after : List (Scalar × Value)}
    (same : ∀ name, lookupText name after = (lookupText name entries).bind fun v =>
      v.takeOutAll (Location.under (.key name) (rs.map Rejection.location))) :
    HasEndpoint after j v := by
  intro w there
  rw [same] at there
  obtain ⟨u, here, eq⟩ := Option.bind_eq_some_iff.mp there
  obtain ⟨items, rfl, at_j⟩ := has u here
  rw [Document.ofValue_error read, under_refusals_endpoints keyed here] at eq
  obtain ⟨next, rfl, _⟩ := pass_list_iff.mp eq
  exact ⟨next, rfl, getElem?_of_pass eq at_j conforms⟩

/-- Only places elsewhere than an endpoint that conforms are reported, and taken out only with the
list of endpoints. -/
theorem elsewhere_of_salvaged (keyed : TextKeyed entries) (has : HasEndpoint entries j v)
    (conforms : v.refusals (.record .endpoint) = []) (rejected : List Location) (n : Nat) :
    (∀ r ∈ ((Value.map entries).salvageFrom rejected n).reported, Location.Elsewhere j r.location) ∧
      ∀ l ∈ ((Value.map entries).salvageFrom rejected n).rejected,
        l ∈ rejected ∨ l = [.key "endpoints"] ∨ Location.Elsewhere j l := by
  induction n generalizing entries rejected with
  | zero => exact ⟨List.forall_mem_nil _, fun l mem => .inl mem⟩
  | succ n ih =>
    rw [salvageFrom]
    cases read : Document.ofValue (.map entries) with
    | ok d => exact ⟨List.forall_mem_nil _, fun l mem => .inl mem⟩
    | error rs =>
      -- In each pass what is refused is elsewhere, since nothing is refused in the endpoint.
      have places : ∀ r ∈ rs, Location.Elsewhere j r.location := by
        intro r mem
        refine elsewhere_of_mem_refusals keyed has conforms _ ?_
        rw [← Document.ofValue_error read]
        exact List.mem_map_of_mem mem
      obtain ⟨after, left, keyedAfter, same⟩ := strip_map keyed (rs.map Rejection.location)
      simp only [discardAll_fst, left]
      obtain ⟨reported, taken⟩ := ih keyedAfter (has.after_pass keyed conforms read same)
        (rejected ++ ((Value.map entries).discardAll rs).2)
      refine ⟨fun r mem => ?_, fun l mem => ?_⟩
      · rcases List.mem_append.mp mem with mem | mem
        · exact places r (List.mem_filter.mp mem).1
        · exact reported r mem
      · rcases taken l mem with mem | there
        · rcases List.mem_append.mp mem with mem | mem
          · exact .inl mem
          · obtain ⟨r, isRejection, mem⟩ := mem_of_mem_tried mem
            exact .inr ((places r isRejection).of_mem_selfAndAbove mem)
        · exact .inr there

end Document

end Value

end ClientSynth
