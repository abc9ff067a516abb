import ClientSynth.Proofs.Entries
import ClientSynth.Validation.Salvage

/-!
# Taking values out

`Value.takeOut` takes out the value at a location, or at the nearest place above it where there is
something to take out, and `Value.takeOutAll` does so for locations in turn until one of them leads
out of the value. What happens at one key or index depends on the locations below it only: the frame
statements are `takeOutAll_map` for mappings, `takeOutAll_list_iff` for lists and `strip_map` for a
whole document, where a location that leads out of the document changes nothing.

Locations below a step are collected by `Location.under`, in their order, and every frame statement
says that taking out all locations does at the step what taking out those under it does. The
statements about a list of locations go by induction on the list, from the lemma about a single one
(`discard_map_single`, `discard_list_single`); that an emptied item is taken out with its list is
what makes lists different from mappings.
-/

namespace ClientSynth

/-- The locations below a step, as seen from there. -/
def Location.under (step : Step) (locations : List Location) : List Location :=
  locations.filterMap fun
    | [] => none
    | first :: rest => if first = step then some rest else none

namespace Location

variable {step other : Step} {rest : Location} {locations : List Location}

@[simp]
lemma under_nil : under step [] = [] :=
  rfl

/-- The root is under no step. -/
@[simp]
lemma under_cons_root : under step ([] :: locations) = under step locations :=
  rfl

/-- A location behind the step is under it without the step. -/
@[simp]
lemma under_cons_self :
    under step ((step :: rest) :: locations) = rest :: under step locations := by
  simp [under]

/-- A location behind another step is not under it. -/
lemma under_cons_ne (ne : other ≠ step) :
    under step ((other :: rest) :: locations) = under step locations := by
  simp [under, ne]

/-- A location that is elsewhere has nothing below a step. -/
lemma under_singleton_eq_nil {location : Location} (elsewhere : ¬∃ rest, location = step :: rest) :
    under step [location] = [] := by
  cases location with
  | nil => rfl
  | cons first rest =>
    refine under_cons_ne ?_
    rintro rfl
    exact elsewhere ⟨rest, rfl⟩

/-- The locations under a step are those of both lists, in order. -/
@[simp]
lemma under_append (locations later : List Location) :
    under step (locations ++ later) = under step locations ++ under step later :=
  List.filterMap_append

/-- The locations below a step go on from it. -/
lemma mem_under_iff : rest ∈ under step locations ↔ step :: rest ∈ locations := by
  induction locations with
  | nil => simp
  | cons l ls ih =>
    cases l with
    | nil => simpa using ih
    | cons first later =>
      by_cases same : first = step
      · subst same
        simp [ih]
      · rw [under_cons_ne same, ih, List.mem_cons]
        simp [Ne.symm same]

/-- Locations that are put below a step are under it. -/
@[simp]
lemma under_map_self (locations : List Location) :
    under step (locations.map (step :: ·)) = locations := by
  induction locations with
  | nil => rfl
  | cons l rest ih => rw [List.map_cons, under_cons_self, ih]

/-- Locations that are put below another step are not under it. -/
lemma under_map_ne (ne : other ≠ step) (locations : List Location) :
    under step (locations.map (other :: ·)) = [] := by
  induction locations with
  | nil => rfl
  | cons l rest ih => rw [List.map_cons, under_cons_ne ne, ih]

/-- Only one member of a list matters when those of all others have nothing below a step. -/
lemma under_flatMap_single {α : Type} {f : α → List Location} {front back : List α} {a : α}
    (before : ∀ b ∈ front, under step (f b) = []) (after : ∀ b ∈ back, under step (f b) = []) :
    under step ((front ++ a :: back).flatMap f) = under step (f a) := by
  have nothing : ∀ {items : List α}, (∀ b ∈ items, under step (f b) = []) →
      under step (items.flatMap f) = [] := by
    intro items h
    rw [under, List.filterMap_flatMap, List.flatMap_eq_nil_iff]
    exact h
  rw [List.flatMap_append, List.flatMap_cons, under_append, under_append, nothing before,
    nothing after, List.nil_append, List.append_nil]

/-- The location itself and those above it, for one below a step. -/
lemma selfAndAbove_cons (step : Step) (rest : Location) :
    selfAndAbove (step :: rest) = (selfAndAbove rest).map (step :: ·) ++ [[step]] := by
  unfold selfAndAbove
  rw [List.length_cons, List.range_succ_eq_map, List.map_cons, List.reverse_cons, List.map_map,
    List.map_reverse, List.map_map]
  rfl

/-- Of a location and those above it none is the root. -/
lemma ne_nil_of_mem_selfAndAbove {location l : Location} (mem : l ∈ selfAndAbove location) :
    l ≠ [] := by
  cases location with
  | nil => cases mem
  | cons step rest =>
    rw [selfAndAbove_cons, List.mem_append, List.mem_map, List.mem_singleton] at mem
    rcases mem with ⟨_, _, rfl⟩ | rfl <;> exact nofun

/-- At and above a location the first step is the same. -/
lemma exists_of_cons_mem_selfAndAbove {location : Location}
    (mem : step :: rest ∈ selfAndAbove location) : ∃ later, location = step :: later := by
  cases location with
  | nil => cases mem
  | cons first later =>
    rw [selfAndAbove_cons, List.mem_append, List.mem_map, List.mem_singleton] at mem
    rcases mem with ⟨_, _, eq⟩ | eq <;> exact ⟨later, by cases eq; rfl⟩

end Location

namespace Value

/-- Entries in plain form, one by one. -/
lemma plainEntries_eq (entries : List (Scalar × Value)) :
    plainEntries entries = entries.map fun e => (e.1, e.2.plain) := by
  induction entries with
  | nil => rfl
  | cons e rest ih => rw [plainEntries, ih, List.map_cons]

/-- Items in plain form, one by one. -/
lemma plainItems_eq (items : List Value) : plainItems items = items.map plain := by
  induction items with
  | nil => rfl
  | cons v rest ih => rw [plainItems, ih, List.map_cons]

/-- What is left of a value when something is taken out at a location, or at the nearest place above
it where that is possible; nothing when the location leads out of the value. -/
def takeOut (v : Value) (location : Location) : Option Value :=
  location.selfAndAbove.findSome? v.discard

/-- What is left of a value when something is taken out at locations in turn, unless one of them
leads out of the value. -/
def takeOutAll (v : Value) : List Location → Option Value
  | [] => some v
  | location :: rest => (v.takeOut location).bind fun left => left.takeOutAll rest

/-- What is left of an item when something is taken out at a location in it: the item is emptied
where the location leads out of it, unless it is empty. -/
def takeOutItem (v : Value) (location : Location) : Option Value :=
  match v.takeOut location with
  | some left => some left
  | none => if v.isEmptyMap then none else some (.map [])

/-- What is left of an item when something is taken out at locations in it in turn. -/
def takeOutItemAll (v : Value) : List Location → Option Value
  | [] => some v
  | location :: rest => (v.takeOutItem location).bind fun left => left.takeOutItemAll rest

/-- What is left of a whole document when something is taken out at locations in turn; one that
leads out of the document changes nothing. -/
def strip (v : Value) (locations : List Location) : Value :=
  locations.foldl (fun v location => (v.takeOut location).getD v) v

/-- Only lists and mappings have something to take out. -/
lemma discard_eq_none {v : Value} (noList : ∀ items, v ≠ .list items)
    (noMap : ∀ entries, v ≠ .map entries) (location : Location) : v.discard location = none := by
  cases v with
  | list items => exact absurd rfl (noList items)
  | map entries => exact absurd rfl (noMap entries)
  | _ => rw [discard] <;> simp

/-- Of a value without parts nothing is taken out. -/
lemma takeOut_eq_none {v : Value} (noList : ∀ items, v ≠ .list items)
    (noMap : ∀ entries, v ≠ .map entries) (location : Location) : v.takeOut location = none :=
  List.findSome?_eq_none_iff.mpr fun l _ => discard_eq_none noList noMap l

/-- A search over a list finds the same with functions that agree on it. -/
lemma findSome?_congr {α β : Type} {f g : α → Option β} {items : List α}
    (h : ∀ a ∈ items, f a = g a) : items.findSome? f = items.findSome? g := by
  induction items with
  | nil => rfl
  | cons a rest ih =>
    rw [List.findSome?_cons, List.findSome?_cons, h a List.mem_cons_self,
      ih fun b mem => h b (List.mem_cons_of_mem _ mem)]

/-- At a key the entry is taken out, if there is one. -/
lemma discard_map_single (entries : List (Scalar × Value)) (step : Step) :
    (Value.map entries).discard [step] =
      (lookupEntry step.scalar entries).map fun _ => .map (eraseEntry step.scalar entries) := by
  rw [discard]

/-- Below a key it is taken out in the value there. -/
lemma discard_map_cons (entries : List (Scalar × Value)) (step : Step) {rest : Location}
    (inside : rest ≠ []) :
    (Value.map entries).discard (step :: rest) =
      (lookupEntry step.scalar entries).bind fun child =>
        (child.discard rest).map fun left => .map (insertEntry step.scalar left entries) := by
  obtain ⟨first, later, rfl⟩ := List.exists_cons_of_ne_nil inside
  rw [discard]
  · cases lookupEntry step.scalar entries with
    | none => rfl
    | some child =>
      cases eq : child.discard (first :: later) <;> simp [eq]
  · exact nofun

/-- Something is taken out of a mapping at or below a key only. -/
lemma exists_of_discard_map {entries : List (Scalar × Value)} (keyed : TextKeyed entries)
    {step : Step} {rest : Location} {left : Value}
    (h : (Value.map entries).discard (step :: rest) = some left) :
    ∃ (name : String) (v : Value), lookupText name entries = some v ∧ step = .key name := by
  have inside : ∃ v, lookupEntry step.scalar entries = some v := by
    by_cases inside : rest = []
    · subst inside
      rw [discard_map_single] at h
      obtain ⟨v, found, _⟩ := Option.map_eq_some_iff.mp h
      exact ⟨v, found⟩
    · rw [discard_map_cons entries step inside] at h
      obtain ⟨v, found, _⟩ := Option.bind_eq_some_iff.mp h
      exact ⟨v, found⟩
  obtain ⟨v, found⟩ := inside
  cases step with
  | key name => exact ⟨name, v, found, rfl⟩
  | index i =>
    rw [Step.scalar, keyed.lookupEntry_int] at found
    cases found

/-- Something is taken out of a list at or below the index of an item only. -/
lemma exists_of_discard_list {items : List Value} {step : Step} {rest : Location} {left : Value}
    (h : (Value.list items).discard (step :: rest) = some left) :
    ∃ (i : Nat) (item : Value), items[i]? = some item ∧ step = .index i := by
  have inside : ∃ i, step.position? items.length = some i := by
    cases rest with
    | nil =>
      rw [discard] at h
      obtain ⟨i, eq, _⟩ := Option.bind_eq_some_iff.mp h
      exact ⟨i, eq⟩
    | cons first later =>
      rw [discard] at h
      · obtain ⟨i, eq, _⟩ := Option.bind_eq_some_iff.mp h
        exact ⟨i, eq⟩
      · exact nofun
  obtain ⟨i, eq⟩ := inside
  cases step with
  | key name => cases eq
  | index k =>
    rw [Step.position?] at eq
    split at eq
    case isTrue range =>
      have lt : k.toNat < items.length := by omega
      refine ⟨k.toNat, items[k.toNat], List.getElem?_eq_getElem lt, ?_⟩
      rw [Int.toNat_of_nonneg range.1]
    case isFalse => cases eq

/-- At an index the item is emptied, unless it is empty already. -/
lemma discard_list_single {items : List Value} {i : Nat} {item : Value}
    (h : items[i]? = some item) :
    (Value.list items).discard [.index i] =
      if item.isEmptyMap then none else some (.list (items.set i (.map []))) := by
  obtain ⟨lt, rfl⟩ := List.getElem?_eq_some_iff.mp h
  simp [discard, Step.position?, lt]

/-- Below an index it is taken out in the item there. -/
lemma discard_list_cons {items : List Value} {i : Nat} {item : Value} (h : items[i]? = some item)
    {rest : Location} (inside : rest ≠ []) :
    (Value.list items).discard (.index i :: rest) =
      (item.discard rest).map fun left => .list (items.set i left) := by
  obtain ⟨lt, rfl⟩ := List.getElem?_eq_some_iff.mp h
  obtain ⟨first, later, rfl⟩ := List.exists_cons_of_ne_nil inside
  rw [discard]
  · cases eq : items[i].discard (first :: later) <;> simp [Step.position?, lt, eq]
  · exact nofun

/-- What taking out leaves: an item is emptied or an entry goes, here or further inside. -/
inductive Discards : Value → Location → Value → Prop where
  | item {items : List Value} {i : Nat} {v : Value} :
    items[i]? = some v → Discards (.list items) [.index i] (.list (items.set i (.map [])))
  | inItem {items : List Value} {i : Nat} {v left : Value} {rest : Location} :
    items[i]? = some v → Discards v rest left →
      Discards (.list items) (.index i :: rest) (.list (items.set i left))
  | entry {entries : List (Scalar × Value)} {name : String} {v : Value} :
    lookupText name entries = some v →
      Discards (.map entries) [.key name] (.map (eraseEntry (.text name) entries))
  | inEntry {entries : List (Scalar × Value)} {name : String} {v left : Value} {rest : Location} :
    lookupText name entries = some v → Discards v rest left →
      Discards (.map entries) (.key name :: rest) (.map (insertEntry (.text name) left entries))

/-- What is discarded from a value with texts for keys is discarded at one place. -/
lemma Keyed.discards {v left : Value} {location : Location} (keyed : v.Keyed)
    (h : v.discard location = some left) : Discards v location left := by
  induction location generalizing v left with
  | nil => cases v <;> cases h
  | cons step rest ih =>
    cases keyed with
    | scalar _ | set _ | pair _ _ =>
      rw [discard_eq_none (by simp) (by simp)] at h
      cases h
    | @list items parts =>
      -- The last step takes the item out, and any other goes into it.
      obtain ⟨i, item, found, rfl⟩ := exists_of_discard_list h
      by_cases last : rest = []
      · subst last
        rw [discard_list_single found] at h
        split at h
        · cases h
        · cases h
          exact .item found
      · rw [discard_list_cons found last] at h
        obtain ⟨next, inItem, rfl⟩ := Option.map_eq_some_iff.mp h
        exact .inItem found (ih (parts _ (List.mem_of_getElem? found)) inItem)
    | @map entries keys parts =>
      -- Likewise for the value at a key.
      obtain ⟨name, child, found, rfl⟩ := exists_of_discard_map keys h
      by_cases last : rest = []
      · subst last
        rw [discard_map_single] at h
        obtain ⟨_, _, rfl⟩ := Option.map_eq_some_iff.mp h
        exact .entry found
      · rw [discard_map_cons entries _ last, Step.scalar,
          show lookupEntry (.text name) entries = some child from found] at h
        obtain ⟨next, inChild, rfl⟩ := Option.map_eq_some_iff.mp h
        exact .inEntry found (ih (parts _ (mem_of_lookupEntry found)) inChild)

/-- Taking out below a key: in its value, or else the entry. -/
lemma takeOut_map_cons (entries : List (Scalar × Value)) (step : Step) (rest : Location) :
    (Value.map entries).takeOut (step :: rest) =
      (lookupEntry step.scalar entries).map fun child =>
        match child.takeOut rest with
        | some left => .map (insertEntry step.scalar left entries)
        | none => .map (eraseEntry step.scalar entries) := by
  -- All locations above this one but the last lie in the value at the key.
  have inside : (Location.selfAndAbove rest).findSome?
        (fun l => (map entries).discard (step :: l)) =
      (lookupEntry step.scalar entries).bind fun child =>
        (child.takeOut rest).map fun left => .map (insertEntry step.scalar left entries) := by
    rw [findSome?_congr fun l mem =>
      discard_map_cons entries step (Location.ne_nil_of_mem_selfAndAbove mem)]
    cases lookupEntry step.scalar entries with
    | none => simp
    | some child => exact (List.map_findSome? ..).symm
  rw [takeOut, Location.selfAndAbove_cons, List.findSome?_append, List.findSome?_map]
  simp only [Function.comp_def, inside, List.findSome?_singleton, discard_map_single]
  cases lookupEntry step.scalar entries with
  | none => rfl
  | some child => cases eq : child.takeOut rest <;> simp [eq]

/-- Taking out below an index: in the item there, or else by emptying it. -/
lemma takeOut_list_cons {items : List Value} {i : Nat} {item : Value} (h : items[i]? = some item)
    (rest : Location) :
    (Value.list items).takeOut (.index i :: rest) =
      (item.takeOutItem rest).map fun left => .list (items.set i left) := by
  have inside : (Location.selfAndAbove rest).findSome?
        (fun l => (list items).discard (.index i :: l)) =
      (item.takeOut rest).map fun left => .list (items.set i left) := by
    rw [findSome?_congr fun l mem =>
      discard_list_cons h (Location.ne_nil_of_mem_selfAndAbove mem)]
    exact (List.map_findSome? ..).symm
  rw [takeOut, Location.selfAndAbove_cons, List.findSome?_append, List.findSome?_map]
  simp only [Function.comp_def, inside, List.findSome?_singleton, discard_list_single h]
  unfold takeOutItem
  cases item.takeOut rest with
  | none => cases item.isEmptyMap <;> rfl
  | some left => rfl

/-! ## In turn -/

lemma takeOutAll_nil (v : Value) : v.takeOutAll [] = some v :=
  rfl

/-- Locations are taken out one by one, until one leads out. -/
lemma takeOutAll_cons (v : Value) (l : Location) (ls : List Location) :
    v.takeOutAll (l :: ls) = (v.takeOut l).bind fun left => left.takeOutAll ls :=
  rfl

/-- Two lists of locations are taken out one after the other. -/
lemma takeOutAll_append (v : Value) (ls later : List Location) :
    v.takeOutAll (ls ++ later) = (v.takeOutAll ls).bind fun left => left.takeOutAll later := by
  induction ls generalizing v with
  | nil => rfl
  | cons l ls ih =>
    rw [List.cons_append, takeOutAll_cons, takeOutAll_cons, Option.bind_assoc]
    simp only [ih]

/-- Where no location leads out of a value, it is stripped. -/
lemma strip_of_takeOutAll {v left : Value} {ls : List Location} (h : v.takeOutAll ls = some left) :
    v.strip ls = left := by
  induction ls generalizing v with
  | nil => exact Option.some.inj h
  | cons l ls ih =>
    rw [takeOutAll_cons, Option.bind_eq_some_iff] at h
    obtain ⟨next, eq, h⟩ := h
    rw [strip, List.foldl_cons, eq]
    exact ih h

/-- When what is at a key is what a location leaves of it, and the other keys stay, then what is at
any key depends on the location only if it is below the key. -/
lemma lookup_of_takeOut {entries left : List (Scalar × Value)} {key : String} {rest : Location}
    (here : lookupText key left = (lookupText key entries).bind fun v => v.takeOut rest)
    (elsewhere : ∀ name, name ≠ key → lookupText name left = lookupText name entries)
    (name : String) :
    lookupText name left = (lookupText name entries).bind fun v =>
      v.takeOutAll (Location.under (.key name) [.key key :: rest]) := by
  by_cases same : name = key
  · subst same
    rw [here, Location.under_cons_self]
    exact Option.bind_congr fun v _ => (Option.bind_fun_some _).symm
  · rw [elsewhere name same, Location.under_cons_ne fun eq => same (Step.key.inj eq).symm]
    exact (Option.bind_fun_some _).symm

/-- One step of stripping a mapping: what is at a key depends on what was there and on the location
below the key, if it is. -/
lemma takeOut_map_frame {entries : List (Scalar × Value)} (keyed : TextKeyed entries)
    (location : Location) :
    ∃ left, ((Value.map entries).takeOut location).getD (.map entries) = .map left ∧
      TextKeyed left ∧
      ∀ name, lookupText name left = (lookupText name entries).bind fun v =>
        v.takeOutAll (Location.under (.key name) [location]) := by
  match location with
  | [] => exact ⟨entries, rfl, keyed, fun name => (Option.bind_fun_some _).symm⟩
  -- No entry is at an index.
  | .index i :: rest =>
    refine ⟨entries, ?_, keyed, fun name => ?_⟩
    · rw [takeOut_map_cons, Step.scalar, keyed.lookupEntry_int]
      rfl
    · simp only [Location.under_cons_ne (show Step.index i ≠ .key name from nofun)]
      exact (Option.bind_fun_some _).symm
  | .key key :: rest =>
    rw [takeOut_map_cons, show lookupEntry (Step.key key).scalar entries = lookupText key entries
      from rfl]
    cases found : lookupText key entries with
    | none =>
      refine ⟨entries, rfl, keyed, lookup_of_takeOut ?_ fun _ _ => rfl⟩
      rw [found]
      rfl
    | some child =>
      cases eq : child.takeOut rest with
      | some left =>
        refine ⟨insertEntry (.text key) left entries, by simp [eq, Step.scalar], keyed.insert,
          lookup_of_takeOut ?_ fun _ ne => lookupEntry_insert_ne ne⟩
        rw [found, Option.bind_some, eq]
        exact lookupEntry_insert_self
      | none =>
        -- The location leads out of the value at its key, so the entry goes.
        refine ⟨eraseEntry (.text key) entries, by simp [eq, Step.scalar], keyed.erase _,
          lookup_of_takeOut ?_ fun _ ne => lookupEntry_erase_ne ne⟩
        rw [found, Option.bind_some, eq]
        exact keyed.lookupEntry_erase_self

/-- What is left at a key of a stripped mapping depends on the locations below the key only. -/
lemma strip_map {entries : List (Scalar × Value)} (keyed : TextKeyed entries)
    (ls : List Location) :
    ∃ left, (Value.map entries).strip ls = .map left ∧ TextKeyed left ∧
      ∀ name, lookupText name left = (lookupText name entries).bind fun v =>
        v.takeOutAll (Location.under (.key name) ls) := by
  induction ls generalizing entries with
  | nil => exact ⟨entries, rfl, keyed, fun name => (Option.bind_fun_some _).symm⟩
  | cons l ls ih =>
    obtain ⟨next, eqNext, keyedNext, atNext⟩ := takeOut_map_frame keyed l
    obtain ⟨left, eqLeft, keyedLeft, atLeft⟩ := ih keyedNext
    refine ⟨left, ?_, keyedLeft, fun name => ?_⟩
    · rw [strip, List.foldl_cons, eqNext]
      exact eqLeft
    · rw [atLeft, atNext, Option.bind_assoc]
      refine Option.bind_congr fun v _ => ?_
      rw [← takeOutAll_append, ← Location.under_append]
      rfl

/-- What is left at a key of a mapping depends on the locations below the key only. -/
lemma takeOutAll_map {entries : List (Scalar × Value)} (keyed : TextKeyed entries)
    {ls : List Location} {v : Value} (h : (Value.map entries).takeOutAll ls = some v) :
    ∃ left, v = .map left ∧ TextKeyed left ∧
      ∀ name, lookupText name left = (lookupText name entries).bind fun v =>
        v.takeOutAll (Location.under (.key name) ls) := by
  obtain ⟨left, eq, keyedLeft, atLeft⟩ := strip_map keyed ls
  exact ⟨left, (strip_of_takeOutAll h).symm.trans eq, keyedLeft, atLeft⟩

/-! ## Items -/

/-- Locations in an item are taken out one by one, until one leads out. -/
lemma takeOutItemAll_cons (v : Value) (l : Location) (ls : List Location) :
    v.takeOutItemAll (l :: ls) = (v.takeOutItem l).bind fun left => left.takeOutItemAll ls :=
  rfl

/-- Of the empty object nothing is taken out. -/
lemma takeOut_empty (l : Location) : (Value.map []).takeOut l = none := by
  cases l with
  | nil => rfl
  | cons step rest =>
    rw [takeOut_map_cons]
    rfl

/-- Of an empty item nothing is taken out. -/
lemma takeOutItem_empty (l : Location) : (Value.map []).takeOutItem l = none := by
  rw [takeOutItem, takeOut_empty]
  rfl

/-- Taking out of an item empties it or leaves what is left of it as a value. -/
lemma takeOutItemAll_cases {v left : Value} {ls : List Location}
    (h : v.takeOutItemAll ls = some left) : v.takeOutAll ls = some left ∨ left = .map [] := by
  induction ls generalizing v with
  | nil => exact .inl h
  | cons l ls ih =>
    rw [takeOutItemAll_cons, Option.bind_eq_some_iff] at h
    obtain ⟨next, eq, h⟩ := h
    unfold takeOutItem at eq
    split at eq
    case h_1 inside =>
      cases eq
      exact (ih h).imp_left fun h => by rw [takeOutAll_cons, inside]; exact h
    case h_2 =>
      split at eq
      · cases eq
      · cases eq
        cases ls with
        | nil => exact .inr (Option.some.inj h).symm
        | cons l ls =>
          rw [takeOutItemAll_cons, takeOutItem_empty] at h
          cases h

/-- One step of taking out of a list: what is at an index depends on what was there and on the
location below the index, if it is. -/
lemma takeOut_list_frame {items : List Value} {i : Nat} (lt : i < items.length) {rest : Location}
    {next : Value} (h : items[i].takeOutItem rest = some next) (k : Nat) (item : Value)
    (at_k : items[k]? = some item) :
    item.takeOutItemAll (Location.under (.index k) [.index i :: rest]) =
      (items.set i next)[k]? := by
  by_cases same : k = i
  · subst same
    rw [List.getElem?_eq_getElem lt] at at_k
    cases at_k
    rw [Location.under_cons_self, Location.under_nil, takeOutItemAll_cons, h,
      List.getElem?_set_self lt]
    rfl
  · have other : Step.index i ≠ .index k := fun eq => same (Int.ofNat.inj (Step.index.inj eq)).symm
    rw [Location.under_cons_ne other, List.getElem?_set_ne (Ne.symm same), at_k]
    rfl

/-- Two lists of locations in an item are taken out one after the other. -/
lemma takeOutItemAll_append (v : Value) (ls later : List Location) :
    v.takeOutItemAll (ls ++ later) =
      (v.takeOutItemAll ls).bind fun left => left.takeOutItemAll later := by
  induction ls generalizing v with
  | nil => rfl
  | cons l ls ih =>
    rw [List.cons_append, takeOutItemAll_cons, takeOutItemAll_cons, Option.bind_assoc]
    simp only [ih]

/-- At an index one location goes first, and the others go on from what it leaves. -/
lemma takeOut_list_frame_iff {items left : List Value} {i : Nat} (lt : i < items.length)
    {rest : Location} {next : Value} (h : items[i].takeOutItem rest = some next)
    (ls : List Location) :
    (∀ (k : Nat) (item : Value), items[k]? = some item →
        item.takeOutItemAll (Location.under (.index k) ((.index i :: rest) :: ls)) = left[k]?) ↔
      ∀ (k : Nat) (item : Value), (items.set i next)[k]? = some item →
        item.takeOutItemAll (Location.under (.index k) ls) = left[k]? := by
  have step : ∀ (k : Nat) (item : Value), items[k]? = some item →
      item.takeOutItemAll (Location.under (.index k) ((.index i :: rest) :: ls)) =
        (items.set i next)[k]?.bind fun v => v.takeOutItemAll (Location.under (.index k) ls) := by
    intro k item at_k
    rw [show (.index i :: rest) :: ls = [.index i :: rest] ++ ls from rfl, Location.under_append,
      takeOutItemAll_append, takeOut_list_frame lt h k item at_k]
  constructor
  · intro same k item at_k
    have lt_k := (List.getElem?_eq_some_iff.mp at_k).1
    rw [List.length_set] at lt_k
    have before := List.getElem?_eq_getElem lt_k
    rw [← same k _ before, step k _ before, at_k, Option.bind_some]
  · intro same k item at_k
    have lt_k := (List.getElem?_eq_some_iff.mp at_k).1
    rw [← List.length_set (i := i) (a := next)] at lt_k
    have after := List.getElem?_eq_getElem lt_k
    rw [step k item at_k, after, Option.bind_some, same k _ after]

/-- What is left at an index of a list depends on the locations below the index only, and something
is left exactly when every item stays. -/
lemma takeOutAll_list_iff {items : List Value} {ls : List Location}
    (inside : ∀ l ∈ ls, ∃ (i : Nat) (rest : Location), i < items.length ∧ l = .index i :: rest)
    {v : Value} :
    (Value.list items).takeOutAll ls = some v ↔
      ∃ left : List Value, v = .list left ∧ left.length = items.length ∧
        ∀ (i : Nat) (item : Value), items[i]? = some item →
          item.takeOutItemAll (Location.under (.index i) ls) = left[i]? := by
  induction ls generalizing items with
  | nil =>
    rw [takeOutAll_nil, Option.some.injEq]
    constructor
    · rintro rfl
      exact ⟨items, rfl, rfl, fun i item h => h.symm⟩
    · rintro ⟨left, rfl, length, same⟩
      rw [Value.list.injEq]
      refine List.ext_getElem? fun i => ?_
      cases h : items[i]? with
      | none =>
        rw [List.getElem?_eq_none_iff] at h
        exact (List.getElem?_eq_none (by omega)).symm
      | some item => exact same i item h
  | cons l ls ih =>
    obtain ⟨i, rest, lt, rfl⟩ := inside l List.mem_cons_self
    have here : items[i]? = some items[i] := List.getElem?_eq_getElem lt
    have later : ∀ l ∈ ls, ∃ (k : Nat) (rest : Location), k < items.length ∧ l = .index k :: rest :=
      fun l mem => inside l (List.mem_cons_of_mem _ mem)
    rw [takeOutAll_cons, takeOut_list_cons here]
    cases eq : items[i].takeOutItem rest with
    | none =>
      -- The location leads out of its item, which is empty, and so out of the list.
      simp only [Option.map_none, Option.bind_none, reduceCtorEq, false_iff]
      rintro ⟨left, rfl, length, same⟩
      have := same i _ here
      rw [Location.under_cons_self, takeOutItemAll_cons, eq, Option.bind_none,
        List.getElem?_eq_getElem (by omega)] at this
      cases this
    | some next =>
      rw [Option.map_some, Option.bind_some, ih (by simpa using later)]
      refine exists_congr fun left => and_congr_right fun _ => ?_
      rw [List.length_set, takeOut_list_frame_iff lt eq]

/-! ## Rejected values -/

/-- Of some locations the first one counts at which there is something to take out. -/
lemma discardFirst_fst (v : Value) (ls : List Location) :
    (v.discardFirst ls).1 = (ls.findSome? v.discard).getD v := by
  induction ls with
  | nil => rfl
  | cons l ls ih =>
    rw [discardFirst, List.findSome?_cons]
    cases v.discard l with
    | some left => rfl
    | none => exact ih

/-- What is discarded is what stripping the locations of the rejections leaves. -/
lemma discardAll_fst (v : Value) (rs : List Rejection) :
    (v.discardAll rs).1 = v.strip (rs.map Rejection.location) := by
  induction rs generalizing v with
  | nil => rfl
  | cons r rest ih =>
    rw [discardAll, List.map_cons, strip, List.foldl_cons]
    simp only [discardFirst_fst]
    exact ih _

end Value

end ClientSynth
