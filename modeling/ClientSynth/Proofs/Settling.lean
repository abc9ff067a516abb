import ClientSynth.Proofs.Conform
import ClientSynth.Proofs.TakeOut

/-!
# Settling

Salvaging works in passes: `Value.pass` takes out of a value everything that is refused in it as one
of a kind. A value settles in `n` passes (`Value.SettlesIn`) when it conforms after them, unless it
was taken out itself on the way. How many passes are needed hangs on the kind only: an item is
emptied before its list is taken out, and what stands under the other key of a field is looked at
when nothing is left under the first. `Kind.passes` counts them, and `Value.Keyed.settlesIn` says
that the count holds for every value, whatever its size and depth.

A pass over a list or a table is a pass over each of its parts, since what is refused in a part is
refused below the step to it (`Value.mem_refusals_list`, `Value.under_refusals_table`). Only where
the whole is refused does a pass take out more, and then nothing is left to look at. For a field the
second key comes into play after the first was taken out, so that its passes add up
(`Field.SettlesIn`).
-/

namespace ClientSynth

namespace Value

/-- What is left of a value after one pass, unless a refused place leads out of it. -/
def pass (kind : Kind) (v : Value) : Option Value :=
  v.takeOutAll (v.refusals kind)

/-- A value conforms after a number of passes, unless it is taken out on the way. -/
def SettlesIn : Nat → Kind → Value → Prop
  | 0, kind, v => v.refusals kind = []
  | n + 1, kind, v => ∀ left, v.pass kind = some left → SettlesIn n kind left

/-- An item conforms after a number of passes, unless its list is taken out on the way. -/
def ItemSettlesIn : Nat → Kind → Value → Prop
  | 0, kind, v => v.refusals kind = []
  | n + 1, kind, v =>
    ∀ left, v.takeOutItemAll (v.refusals kind) = some left → ItemSettlesIn n kind left

section Settling

variable {v : Value} {kind : Kind} {n m : Nat}

/-- A pass over a value in which nothing is refused leaves it. -/
lemma pass_of_refusals_nil (h : v.refusals kind = []) : v.pass kind = some v := by
  rw [pass, h, takeOutAll_nil]

/-- A value in which nothing is refused has settled. -/
lemma SettlesIn.of_refusals_nil (h : v.refusals kind = []) : v.SettlesIn n kind := by
  induction n with
  | zero => exact h
  | succ n ih =>
    intro left eq
    rw [pass_of_refusals_nil h] at eq
    cases eq
    exact ih

/-- A value settles at once when it is refused only as a whole. -/
lemma SettlesIn.of_whole (h : v.refusals kind = [] ∨ v.refusals kind = [[]]) (pos : 0 < n) :
    v.SettlesIn n kind := by
  obtain ⟨n, rfl⟩ := Nat.exists_eq_add_one.mpr pos
  rcases h with h | h
  · exact .of_refusals_nil h
  · intro left eq
    rw [pass, h] at eq
    cases eq

/-- A value out of which nothing can be taken settles at once. -/
lemma SettlesIn.of_takeOut (h : ∀ l, v.takeOut l = none) (pos : 0 < n) : v.SettlesIn n kind := by
  obtain ⟨n, rfl⟩ := Nat.exists_eq_add_one.mpr pos
  intro left eq
  cases none : v.refusals kind with
  | nil =>
    rw [pass_of_refusals_nil none] at eq
    cases eq
    exact .of_refusals_nil none
  | cons l ls =>
    rw [pass, none, takeOutAll_cons, h] at eq
    cases eq

/-- An item in which nothing is refused has settled. -/
lemma ItemSettlesIn.of_refusals_nil (h : v.refusals kind = []) : v.ItemSettlesIn n kind := by
  induction n with
  | zero => exact h
  | succ n ih =>
    intro left eq
    rw [h] at eq
    cases eq
    exact ih

/-- An item settles like a value, and the empty mapping in its place may take some more passes. -/
lemma SettlesIn.item (h : v.SettlesIn n kind)
    (empty : ∀ k, m ≤ k → (Value.map []).ItemSettlesIn k kind) : v.ItemSettlesIn (n + m) kind := by
  induction n generalizing v with
  | zero => exact .of_refusals_nil h
  | succ n ih =>
    rw [Nat.add_right_comm]
    intro left eq
    rcases takeOutItemAll_cases eq with inside | rfl
    · exact ih (h left inside)
    · exact empty _ (by omega)

/-- The empty mapping as an item conforms, or its list is taken out. -/
lemma itemSettlesIn_empty (k : Nat) : (Value.map []).ItemSettlesIn (k + 1) kind := by
  intro left eq
  cases none : (Value.map []).refusals kind with
  | nil =>
    rw [none] at eq
    cases eq
    exact .of_refusals_nil none
  | cons l ls =>
    rw [none, takeOutItemAll_cons, takeOutItem_empty] at eq
    cases eq

end Settling

end Value

/-! ## Lists and tables -/

namespace Value

/-- What is refused in a list is refused in one of its items. -/
lemma mem_refusals_list {items : List Value} {kind : Kind} {l : Location}
    (mem : l ∈ (Value.list items).refusals (.list kind)) :
    ∃ (i : Nat) (item : Value) (rest : Location),
      items[i]? = some item ∧ rest ∈ item.refusals kind ∧ l = .index i :: rest := by
  rw [refusals_list, List.mem_flatMap] at mem
  obtain ⟨⟨item, i⟩, isItem, mem⟩ := mem
  obtain ⟨rest, isRefusal, rfl⟩ := List.mem_map.mp mem
  exact ⟨i, item, rest, List.mem_zipIdx_iff_getElem?.mp isItem, isRefusal, rfl⟩

/-- What is refused in a list is refused below an index of the list. -/
lemma refusals_list_inside {items : List Value} {kind : Kind} :
    ∀ l ∈ (Value.list items).refusals (.list kind),
      ∃ (i : Nat) (rest : Location), i < items.length ∧ l = .index i :: rest := by
  intro l mem
  obtain ⟨i, item, rest, here, _, eq⟩ := mem_refusals_list mem
  exact ⟨i, rest, (List.getElem?_eq_some_iff.mp here).1, eq⟩

/-- The refused places at an index of a list are those of the item there. -/
lemma under_refusals_list {items : List Value} {kind : Kind} {i : Nat} {item : Value}
    (h : items[i]? = some item) :
    Location.under (.index i) ((Value.list items).refusals (.list kind)) = item.refusals kind := by
  obtain ⟨lt, rfl⟩ := List.getElem?_eq_some_iff.mp h
  -- The refusals of the items before and after the one at the index lie at other indexes.
  have cut : items.zipIdx =
      (items.take i).zipIdx ++ (items[i], i) :: (items.drop (i + 1)).zipIdx (i + 1) := by
    conv_lhs => rw [← List.take_append_drop i items, List.drop_eq_getElem_cons lt]
    rw [List.zipIdx_append, List.zipIdx_cons, List.length_take_of_le (Nat.le_of_lt lt),
      Nat.zero_add]
  have elsewhere : ∀ (v : Value) (k : Nat), k ≠ i →
      Location.under (.index i) ((v.refusals kind).map (.index k :: ·)) = [] := by
    intro v k ne
    exact Location.under_map_ne (fun eq => ne (Int.ofNat.inj (Step.index.inj eq))) _
  rw [refusals_list, cut, Location.under_flatMap_single, Location.under_map_self]
  · intro e mem
    have := List.snd_lt_of_mem_zipIdx mem
    rw [List.length_take] at this
    exact elsewhere _ _ (by omega)
  · intro e mem
    have := List.le_snd_of_mem_zipIdx mem
    exact elsewhere _ _ (by omega)

/-- Below a key of a table is refused what is refused in the value at the key. -/
lemma under_refusals_table {entries : List (Scalar × Value)} (keyed : TextKeyed entries)
    {kind : Kind} {name : String} {v : Value} (h : lookupText name entries = some v) :
    Location.under (.key name) ((Value.map entries).refusals (.table kind)) = v.refusals kind := by
  obtain ⟨front, back, rfl⟩ := List.append_of_mem (mem_of_lookupEntry h)
  have elsewhere : ∀ e : Scalar × Value, e ∈ front ∨ e ∈ back →
      Location.under (.key name) ((e.2.refusals kind).map (e.1.step :: ·)) = [] := by
    intro e mem
    obtain ⟨other, eq⟩ := keyed.key (e := e) (by
      rw [List.mem_append, List.mem_cons]
      exact mem.imp_right .inr)
    refine Location.under_map_ne (fun same => keyed.ne_of_mem mem ?_) _
    rw [eq] at same ⊢
    rw [Step.key.inj same]
  rw [refusals_table keyed, Location.under_flatMap_single (fun e mem => elsewhere e (.inl mem))
    (fun e mem => elsewhere e (.inr mem))]
  exact Location.under_map_self _

/-- A list settles when its items do. -/
lemma settlesIn_list {items : List Value} {kind : Kind} {n : Nat}
    (h : ∀ v ∈ items, v.ItemSettlesIn n kind) : (Value.list items).SettlesIn n (.list kind) := by
  induction n generalizing items with
  | zero =>
    rw [SettlesIn, refusals_list, List.flatMap_eq_nil_iff]
    intro e mem
    rw [List.map_eq_nil_iff]
    exact h e.1 (List.mem_of_getElem? (List.mem_zipIdx_iff_getElem?.mp mem))
  | succ n ih =>
    intro left eq
    obtain ⟨left, rfl, length, same⟩ := (takeOutAll_list_iff refusals_list_inside).mp eq
    refine ih fun v mem => ?_
    obtain ⟨i, lt, rfl⟩ := List.mem_iff_getElem.mp mem
    have lt' : i < items.length := by omega
    have here := same i _ (List.getElem?_eq_getElem lt')
    rw [under_refusals_list (List.getElem?_eq_getElem lt'), List.getElem?_eq_getElem lt] at here
    exact h _ (List.getElem_mem lt') _ here

/-- A table settles in as many passes as its values do. -/
lemma settlesIn_table {entries : List (Scalar × Value)} (keyed : TextKeyed entries) {kind : Kind}
    {n : Nat} (h : ∀ e ∈ entries, e.2.SettlesIn n kind) :
    (Value.map entries).SettlesIn n (.table kind) := by
  induction n generalizing entries with
  | zero =>
    rw [SettlesIn, refusals_table keyed, List.flatMap_eq_nil_iff]
    intro e mem
    rw [List.map_eq_nil_iff]
    exact h e mem
  | succ n ih =>
    intro left eq
    obtain ⟨left, rfl, keyedLeft, same⟩ := takeOutAll_map keyed eq
    refine ih keyedLeft fun e mem => ?_
    obtain ⟨name, eqName⟩ := keyedLeft.key mem
    obtain ⟨key, w⟩ := e
    cases eqName
    have here := same name
    rw [show lookupText name left = some w from keyedLeft.lookupEntry_of_mem mem] at here
    obtain ⟨v, found, eqLeft⟩ := Option.bind_eq_some_iff.mp here.symm
    rw [under_refusals_table keyed found] at eqLeft
    exact h _ (mem_of_lookupEntry found) _ eqLeft

end Value

/-! ## Fields -/

namespace Field

variable {field : Field} {entries after : List (Scalar × Value)} {key : String} {v : Value}
  {n m : Nat}

/-- One pass as a field sees it: what is at its keys depends on its own refusals only, and it is not
missing where it has to be there. -/
structure Step (field : Field) (entries after : List (Scalar × Value)) : Prop where
  lookup : ∀ name, name = field.key ∨ name = field.otherKey →
    lookupText name after = (lookupText name entries).bind fun v =>
      v.takeOutAll (Location.under (.key name) (field.refusals entries))
  missing : field.found? entries = none → field.default.isSome = true

/-- A field conforms after a number of passes over the entries it is among. -/
def SettlesIn (field : Field) : Nat → List (Scalar × Value) → Prop
  | 0, entries => field.refusals entries = []
  | n + 1, entries => ∀ after, field.Step entries after → SettlesIn field n after

/-- A field in which nothing is refused has settled. -/
lemma SettlesIn.of_refusals_nil (h : field.refusals entries = []) : field.SettlesIn n entries := by
  induction n generalizing entries with
  | zero => exact h
  | succ n ih =>
    intro after step
    refine ih ?_
    have same : field.found? after = field.found? entries := by
      refine found?_congr fun name own => ?_
      rw [step.lookup name own, h, Location.under_nil]
      exact Option.bind_fun_some _
    rw [refusals, same]
    exact h

/-- A field that settles in some passes settles in more. -/
lemma SettlesIn.mono (h : field.SettlesIn n entries) (le : n ≤ m) : field.SettlesIn m entries := by
  induction n generalizing entries m with
  | zero => exact .of_refusals_nil h
  | succ n ih =>
    obtain ⟨m, rfl⟩ := Nat.exists_eq_add_one.mpr (Nat.zero_lt_of_lt le)
    exact fun after step => ih (h after step) (by omega)

/-- A field that is missing settles, when something stands for it or there is a pass to go. -/
lemma SettlesIn.of_missing (h : field.found? entries = none)
    (spare : field.default.isSome = true ∨ 1 ≤ n) : field.SettlesIn n entries := by
  by_cases stands : field.default.isSome = true
  · refine .of_refusals_nil ?_
    simp only [refusals, h, stands, if_true]
  · obtain ⟨n, rfl⟩ := Nat.exists_eq_add_one.mpr (spare.resolve_left stands)
    exact fun after step => absurd (step.missing h) stands

/-- A field settles when its value does, and then what the field is without it. -/
lemma SettlesIn.of_found (h : field.found? entries = some (key, v))
    (inside : v.SettlesIn n field.kind)
    (without : ∀ after, lookupText key after = none →
      (∀ name, name = field.key ∨ name = field.otherKey → name ≠ key →
        lookupText name after = lookupText name entries) → field.SettlesIn m after) :
    field.SettlesIn (n + m) entries := by
  induction n generalizing entries v with
  | zero =>
    refine .of_refusals_nil ?_
    rw [refusals_of_found h, List.map_eq_nil_iff]
    exact (field.valueRefusals_cases v).elim id fun eq => eq.trans inside
  | succ n ih =>
    rcases field.valueRefusals_cases v with refused | refused
    · refine .of_refusals_nil ?_
      rw [refusals_of_found h, refused, List.map_nil]
    -- After a pass the field has what is left of its value, or is looked for without it.
    rw [Nat.add_right_comm]
    intro after step
    have own := key_of_found h
    have here := step.lookup key own
    rw [lookup_of_found h, refusals_of_found h, Location.under_map_self, refused] at here
    have other : ∀ name, name = field.key ∨ name = field.otherKey → name ≠ key →
        lookupText name after = lookupText name entries := by
      intro name own ne
      rw [step.lookup name own, refusals_of_found h,
        Location.under_map_ne (fun eq => ne (Step.key.inj eq).symm)]
      exact Option.bind_fun_some _
    cases eq : v.pass field.kind with
    | none => exact (without after (here.trans eq) other).mono (by omega)
    | some left =>
      refine ih (found?_of_lookup h (here.trans eq) other) (inside left eq) ?_
      intro later gone same
      exact without later gone fun name own ne => (same name own ne).trans (other name own ne)

/-- A field with nothing at its key settles when what is at its other key does, if that is another
one, since nothing is left of the field without it. -/
lemma SettlesIn.of_otherKey {spare : Nat} (gone : lookupText field.key entries = none)
    (second : field.key ≠ field.otherKey →
      ∀ v, lookupText field.otherKey entries = some v → v.SettlesIn n field.kind)
    (last : field.default.isSome = true ∨ 1 ≤ spare) : field.SettlesIn (n + spare) entries := by
  cases found : field.found? entries with
  | none => exact .of_missing found (last.imp_right (by omega))
  | some e =>
    obtain ⟨key, v⟩ := e
    have there := lookup_of_found found
    have other : key ≠ field.key := by
      rintro rfl
      rw [gone] at there
      cases there
    obtain rfl := (key_of_found found).resolve_left other
    refine .of_found found (second other.symm v there) fun later none same => ?_
    refine .of_missing ?_ (last.imp_right id)
    rw [found?, same _ (.inl rfl) other.symm, gone, none]
    rfl

/-- A field settles when what is at its keys does: first the value at its key, then the one at its
other key, if that is another one, and a last pass is for a field that has to be there. -/
lemma SettlesIn.of_lookup {spare : Nat}
    (first : ∀ v, lookupText field.key entries = some v → v.SettlesIn n field.kind)
    (second : field.key ≠ field.otherKey →
      ∀ v, lookupText field.otherKey entries = some v → v.SettlesIn m field.kind)
    (last : field.default.isSome = true ∨ 1 ≤ spare) :
    field.SettlesIn (n + (m + spare)) entries := by
  cases there : lookupText field.key entries with
  | none => exact (SettlesIn.of_otherKey there second last).mono (by omega)
  | some v =>
    refine .of_found (by rw [found?, there]) (first v there) fun after gone same => ?_
    refine .of_otherKey gone (fun ne v here => second ne v ?_) last
    rw [← same _ (.inr rfl) ne.symm]
    exact here

end Field

/-! ## Records -/

/-- The refused places of a record at a key of a field are those of the field. -/
lemma RecordName.under_refusals {name : RecordName} {field : Field} (isField : field ∈ name.fields)
    (entries : List (Scalar × Value)) {key : String}
    (own : key = field.key ∨ key = field.otherKey) :
    Location.under (.key key) (name.fields.flatMap fun f => f.refusals entries) =
      Location.under (.key key) (field.refusals entries) := by
  -- No field before or after this one has a key in common with it.
  obtain ⟨front, back, eq⟩ := List.append_of_mem isField
  have apart := name.fields_apart
  rw [eq, List.pairwise_append, List.pairwise_cons] at apart
  obtain ⟨_, ⟨later, _⟩, earlier⟩ := apart
  have elsewhere : ∀ other : Field, key ≠ other.key → key ≠ other.otherKey →
      Location.under (.key key) (other.refusals entries) = [] := by
    intro other ne ne'
    rw [Location.under, List.filterMap_eq_nil_iff]
    intro l mem
    obtain ⟨found, rest, atKey, rfl⟩ := Field.step_of_mem_refusals mem
    have differs : found ≠ key := by
      rintro rfl
      exact atKey.elim ne ne'
    simp [differs]
  rw [eq]
  refine Location.under_flatMap_single (fun other mem => ?_) (fun other mem => ?_)
  · obtain ⟨⟨a, b⟩, ⟨c, d⟩⟩ := earlier other mem field List.mem_cons_self
    rcases own with rfl | rfl
    · exact elsewhere other a b
    · exact elsewhere other c d
  · obtain ⟨⟨a, b⟩, ⟨c, d⟩⟩ := later other mem
    rcases own with rfl | rfl
    · exact elsewhere other a.symm c.symm
    · exact elsewhere other b.symm d.symm

/-- A pass over a record is a pass for each of its fields. -/
lemma RecordName.step {name : RecordName} {entries after : List (Scalar × Value)} {field : Field}
    (isField : field ∈ name.fields)
    (same : ∀ key, lookupText key after = (lookupText key entries).bind fun v =>
      v.takeOutAll (Location.under (.key key) (name.fields.flatMap fun f => f.refusals entries)))
    (missing : field.found? entries = none → field.default.isSome = true) :
    field.Step entries after where
  lookup key own := by rw [same key, RecordName.under_refusals isField entries own]
  missing := missing

namespace Value

/-- Where nothing leads out of a mapping, something is at the first key of every location. -/
lemma lookup_of_takeOutAll {entries : List (Scalar × Value)} (keyed : TextKeyed entries)
    {ls : List Location} {left : Value} (h : (Value.map entries).takeOutAll ls = some left)
    {key : String} {rest : Location} (mem : .key key :: rest ∈ ls) :
    lookupText key entries ≠ none := by
  induction ls generalizing entries with
  | nil => cases mem
  | cons l ls ih =>
    intro absent
    rw [takeOutAll_cons, Option.bind_eq_some_iff] at h
    obtain ⟨next, eq, h⟩ := h
    rcases List.mem_cons.mp mem with rfl | mem
    · rw [takeOut_map_cons, show lookupEntry (Step.key key).scalar entries = none from absent] at eq
      cases eq
    · obtain ⟨after, eqAfter, keyedAfter, same⟩ := takeOut_map_frame keyed l
      rw [eq] at eqAfter
      cases eqAfter
      exact ih keyedAfter h mem (by rw [same, absent]; rfl)

/-- A record settles when its fields do. -/
lemma settlesIn_record {name : RecordName} {entries : List (Scalar × Value)}
    (keyed : TextKeyed entries) {n : Nat} (h : ∀ field ∈ name.fields, field.SettlesIn n entries) :
    (Value.map entries).SettlesIn n (.record name) := by
  induction n generalizing entries with
  | zero =>
    rw [SettlesIn, refusals_record keyed, List.flatMap_eq_nil_iff]
    exact h
  | succ n ih =>
    intro left eq
    rw [pass, refusals_record keyed] at eq
    obtain ⟨after, rfl, keyedAfter, same⟩ := takeOutAll_map keyed eq
    refine ih keyedAfter fun field isField => h field isField after ?_
    refine RecordName.step isField same fun none => ?_
    -- The key of a missing field would lead out of the record.
    by_contra required
    have refused : [.key field.key] ∈ name.fields.flatMap fun f => f.refusals entries := by
      refine List.mem_flatMap.mpr ⟨field, isField, ?_⟩
      rw [Field.refusals, none]
      simp [required]
    refine lookup_of_takeOutAll keyed eq refused ?_
    unfold Field.found? at none
    split at none
    · cases none
    · assumption

end Value

end ClientSynth
