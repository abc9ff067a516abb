import Mathlib.Tactic.Common
import ClientSynth.Value

/-!
# Entries with texts as keys

The entries of an object are keyed by texts, each of which occurs once: `TextKeyed`. Looking up a
key after another one was put in or taken out gives what was there before; the lemmas here say so
for `insertEntry` and `eraseEntry`. `Value.Keyed` asks for such entries in every mapping of a value,
and `Value.induction` is the induction over the parts of a value.

An entry is compared with a key by a test that takes numbers and truth values for the same, which is
why each lemma here starts from keys that are texts: of two texts the test is equality.
-/

namespace ClientSynth

/-- A text is the same key as an equal text only. -/
@[simp]
lemma Scalar.isSameKey_text (key : Scalar) (name : String) :
    key.isSameKey (.text name) = decide (key = .text name) := by
  cases key <;> simp [Scalar.isSameKey, beq_eq_decide]

/-- A text is never the same key as a number. -/
@[simp]
lemma Scalar.isSameKey_text_int {name : String} {i : Int} :
    (Scalar.text name).isSameKey (.int i) = false :=
  rfl

/-- Entries with texts as keys, each of them once. -/
inductive TextKeyed {α : Type} : List (Scalar × α) → Prop where
  | nil : TextKeyed []
  | cons {name a rest} :
    (∀ e ∈ rest, e.1 ≠ .text name) → TextKeyed rest → TextKeyed ((.text name, a) :: rest)

section Entries

variable {α : Type} {entries : List (Scalar × α)} {name other : String} {a b : α}

/-- The first entry is found under its own key. -/
lemma lookupEntry_cons_self {rest : List (Scalar × α)} :
    lookupEntry (.text name) ((.text name, a) :: rest) = some a := by
  simp [lookupEntry]

/-- Another key than the first is looked up in the rest. -/
lemma lookupEntry_cons_ne {key : Scalar} {rest : List (Scalar × α)} (ne : key ≠ .text name) :
    lookupEntry (.text name) ((key, a) :: rest) = lookupEntry (.text name) rest := by
  simp [lookupEntry, ne]

/-- What is found is one of the entries. -/
lemma mem_of_lookupEntry (h : lookupEntry (.text name) entries = some a) :
    (.text name, a) ∈ entries := by
  induction entries with
  | nil => cases h
  | cons e rest ih =>
    obtain ⟨key, b⟩ := e
    by_cases same : key = .text name
    · subst same
      rw [lookupEntry_cons_self] at h
      cases h
      exact List.mem_cons_self
    · rw [lookupEntry_cons_ne same] at h
      exact List.mem_cons_of_mem _ (ih h)

/-- Nothing is found where no entry has the key. -/
lemma lookupEntry_eq_none (h : ∀ e ∈ entries, e.1 ≠ .text name) :
    lookupEntry (.text name) entries = none := by
  induction entries with
  | nil => rfl
  | cons e rest ih =>
    obtain ⟨key, b⟩ := e
    rw [lookupEntry_cons_ne (h _ List.mem_cons_self)]
    exact ih fun e mem => h e (List.mem_cons_of_mem _ mem)

/-- Nothing is at an index among entries with texts as keys. -/
lemma TextKeyed.lookupEntry_int (h : TextKeyed entries) (i : Int) :
    lookupEntry (.int i) entries = none := by
  induction h with
  | nil => rfl
  | cons _ _ ih => simpa [lookupEntry] using ih

/-- Every entry is found under its key. -/
lemma TextKeyed.lookupEntry_of_mem (h : TextKeyed entries) (mem : (.text name, a) ∈ entries) :
    lookupEntry (.text name) entries = some a := by
  induction h with
  | nil => cases mem
  | @cons first b rest fresh _ ih =>
    rcases List.mem_cons.mp mem with eq | mem
    · cases eq
      exact lookupEntry_cons_self
    · have ne : Scalar.text first ≠ .text name := fun same => fresh _ mem same.symm
      rw [lookupEntry_cons_ne ne]
      exact ih mem

/-- Every key is a text. -/
lemma TextKeyed.key (h : TextKeyed entries) {e : Scalar × α} (mem : e ∈ entries) :
    ∃ name, e.1 = .text name := by
  induction h with
  | nil => cases mem
  | cons _ _ ih =>
    rcases List.mem_cons.mp mem with rfl | mem
    · exact ⟨_, rfl⟩
    · exact ih mem

/-- No two entries have the same key. -/
lemma TextKeyed.pairwise (h : TextKeyed entries) : entries.Pairwise fun a b => a.1 ≠ b.1 := by
  induction h with
  | nil => exact .nil
  | cons fresh _ ih => exact .cons (fun e mem => (fresh e mem).symm) ih

/-- No other entry has the key of an entry. -/
lemma TextKeyed.ne_of_mem {front back : List (Scalar × α)}
    (h : TextKeyed (front ++ (.text name, a) :: back)) {e : Scalar × α}
    (mem : e ∈ front ∨ e ∈ back) : e.1 ≠ .text name := by
  induction front with
  | nil =>
    cases h with
    | cons fresh _ => exact fresh e (mem.resolve_left nofun)
  | cons first front ih =>
    cases h with
    | cons fresh keyed =>
      rcases mem with mem | mem
      · rcases List.mem_cons.mp mem with rfl | mem
        · exact fun same => fresh (.text name, a) (by simp) same.symm
        · exact ih keyed (.inl mem)
      · exact ih keyed (.inr mem)

/-- Taking an entry out adds none. -/
lemma mem_of_mem_eraseEntry {key : Scalar} {e : Scalar × α} (mem : e ∈ eraseEntry key entries) :
    e ∈ entries := by
  induction entries with
  | nil => cases mem
  | cons first rest ih =>
    obtain ⟨k, b⟩ := first
    rw [eraseEntry] at mem
    split at mem
    · exact List.mem_cons_of_mem _ mem
    · rcases List.mem_cons.mp mem with rfl | mem
      · exact List.mem_cons_self
      · exact List.mem_cons_of_mem _ (ih mem)

/-- Putting an entry in adds only that one. -/
lemma mem_of_mem_insertEntry {e : Scalar × α} (mem : e ∈ insertEntry (.text name) a entries) :
    e = (.text name, a) ∨ e ∈ entries := by
  induction entries with
  | nil => exact .inl (List.mem_singleton.mp mem)
  | cons first rest ih =>
    obtain ⟨key, b⟩ := first
    rw [insertEntry] at mem
    split at mem
    case isTrue same =>
      cases of_decide_eq_true (Scalar.isSameKey_text key name ▸ same)
      exact (List.mem_cons.mp mem).imp_right (List.mem_cons_of_mem _)
    case isFalse =>
      rcases List.mem_cons.mp mem with rfl | mem
      · exact .inr List.mem_cons_self
      · exact (ih mem).imp_right (List.mem_cons_of_mem _)

/-- Nothing is found under a key that was taken out. -/
lemma TextKeyed.lookupEntry_erase_self (h : TextKeyed entries) :
    lookupEntry (.text name) (eraseEntry (.text name) entries) = none := by
  induction h with
  | nil => rfl
  | @cons first b rest fresh _ ih =>
    by_cases same : first = name
    · subst same
      simpa [eraseEntry] using lookupEntry_eq_none fresh
    · simpa [eraseEntry, lookupEntry, same] using ih

/-- Other keys lead to what they led to when one is taken out. -/
lemma lookupEntry_erase_ne (ne : name ≠ other) :
    lookupEntry (.text name) (eraseEntry (.text other) entries) =
      lookupEntry (.text name) entries := by
  induction entries with
  | nil => rfl
  | cons first rest ih =>
    obtain ⟨key, b⟩ := first
    by_cases same : key = .text other
    · subst same
      have : Scalar.text other ≠ .text name := fun eq => ne (Scalar.text.inj eq).symm
      simp [eraseEntry, lookupEntry_cons_ne this]
    · by_cases found : key = .text name
      · simp [eraseEntry, lookupEntry, found, ne]
      · simpa [eraseEntry, lookupEntry, same, found] using ih

/-- Under a key that was put in is found what was put in. -/
lemma lookupEntry_insert_self :
    lookupEntry (.text name) (insertEntry (.text name) a entries) = some a := by
  induction entries with
  | nil => simp [insertEntry, lookupEntry]
  | cons first rest ih =>
    obtain ⟨key, b⟩ := first
    by_cases same : key = .text name
    · simp [insertEntry, lookupEntry, same]
    · simpa [insertEntry, lookupEntry, same] using ih

/-- Other keys lead to what they led to when one is put in. -/
lemma lookupEntry_insert_ne (ne : name ≠ other) :
    lookupEntry (.text name) (insertEntry (.text other) a entries) =
      lookupEntry (.text name) entries := by
  have flip : Scalar.text other ≠ .text name := fun eq => ne (Scalar.text.inj eq).symm
  induction entries with
  | nil => simp [insertEntry, lookupEntry, flip]
  | cons first rest ih =>
    obtain ⟨key, b⟩ := first
    by_cases same : key = .text other
    · subst same
      simp [insertEntry, lookupEntry, flip]
    · by_cases found : key = .text name
      · simp [insertEntry, lookupEntry, found, ne]
      · simpa [insertEntry, lookupEntry, same, found] using ih

/-- Taking an entry out leaves the keys different texts. -/
lemma TextKeyed.erase (h : TextKeyed entries) (key : Scalar) :
    TextKeyed (eraseEntry key entries) := by
  induction h with
  | nil => exact .nil
  | cons fresh keyed ih =>
    rw [eraseEntry]
    split
    · exact keyed
    · exact .cons (fun e mem => fresh e (mem_of_mem_eraseEntry mem)) ih

/-- Putting an entry in leaves the keys different texts. -/
lemma TextKeyed.insert (h : TextKeyed entries) :
    TextKeyed (insertEntry (.text name) a entries) := by
  induction h with
  | nil => exact .cons nofun .nil
  | @cons first b rest fresh keyed ih =>
    rw [insertEntry]
    split
    · exact .cons fresh keyed
    case isFalse differs =>
      refine .cons (fun e mem same => ?_) ih
      rcases mem_of_mem_insertEntry mem with rfl | mem
      · exact differs (by simpa using same.symm)
      · exact fresh e mem same

/-- Changing the values leaves the keys as they are. -/
lemma TextKeyed.mapValues {β : Type} (h : TextKeyed entries) {f : α → β} :
    TextKeyed (entries.map fun e => (e.1, f e.2)) := by
  induction h with
  | nil => exact .nil
  | cons fresh _ ih =>
    refine .cons (fun e mem => ?_) ih
    obtain ⟨before, isEntry, rfl⟩ := List.mem_map.mp mem
    exact fresh before isEntry

/-- Entries put in one after the other are keyed by texts, and no others are there. -/
lemma textKeyed_distinctEntries (h : ∀ e ∈ entries, ∃ name, e.1 = .text name) :
    TextKeyed (distinctEntries entries) ∧ ∀ e ∈ distinctEntries entries, e ∈ entries := by
  -- The invariant of the fold: the table so far is keyed by texts, and its entries are known.
  have step : ∀ (later table : List (Scalar × α)), TextKeyed table →
      (∀ e ∈ later, ∃ name, e.1 = .text name) →
      TextKeyed (later.foldl (fun table e => insertEntry e.1 e.2 table) table) ∧
        ∀ e ∈ later.foldl (fun table e => insertEntry e.1 e.2 table) table,
          e ∈ table ∨ e ∈ later := by
    intro later
    induction later with
    | nil => exact fun table keyed _ => ⟨keyed, fun e mem => .inl mem⟩
    | cons first rest ih =>
      intro table keyed texts
      obtain ⟨key, a⟩ := first
      obtain ⟨name, rfl⟩ := texts _ List.mem_cons_self
      obtain ⟨keyedAll, origin⟩ := ih (insertEntry (.text name) a table) keyed.insert
        fun e mem => texts e (List.mem_cons_of_mem _ mem)
      refine ⟨keyedAll, fun e mem => ?_⟩
      rcases origin e mem with mem | mem
      · rcases mem_of_mem_insertEntry mem with rfl | mem
        · exact .inr List.mem_cons_self
        · exact .inl mem
      · exact .inr (List.mem_cons_of_mem _ mem)
  obtain ⟨keyed, origin⟩ := step entries [] .nil h
  exact ⟨keyed, fun e mem => (origin e mem).resolve_left nofun⟩

end Entries

/-- A value in which every mapping has texts as keys, each of them once. -/
inductive Value.Keyed : Value → Prop where
  | scalar (s : Scalar) : Keyed (.scalar s)
  | list {items} : (∀ v ∈ items, Keyed v) → Keyed (.list items)
  | map {entries} : TextKeyed entries → (∀ e ∈ entries, Keyed e.2) → Keyed (.map entries)
  | set (members : List Scalar) : Keyed (.set members)
  | pair {a b} : Keyed a → Keyed b → Keyed (.pair a b)

/-- Induction over the parts of a value. -/
theorem Value.induction {motive : Value → Prop}
    (scalar : ∀ s, motive (.scalar s))
    (list : ∀ items, (∀ v ∈ items, motive v) → motive (.list items))
    (map : ∀ entries, (∀ e ∈ entries, motive e.2) → motive (.map entries))
    (set : ∀ members, motive (.set members))
    (pair : ∀ a b, motive a → motive b → motive (.pair a b)) :
    ∀ v, motive v
  | .scalar s => scalar s
  | .list items => list items fun v mem =>
    have := List.sizeOf_lt_of_mem mem
    Value.induction scalar list map set pair v
  | .map entries => map entries fun e mem =>
    have := List.sizeOf_lt_of_mem mem
    Value.induction scalar list map set pair e.2
  | .set members => set members
  | .pair a b => pair a b (Value.induction scalar list map set pair a)
    (Value.induction scalar list map set pair b)
decreasing_by
  · rw [Value.list.sizeOf_spec]
    omega
  · have inside : sizeOf e = 1 + sizeOf e.1 + sizeOf e.2 := rfl
    rw [Value.map.sizeOf_spec]
    omega
  all_goals
    rw [Value.pair.sizeOf_spec]
    omega

end ClientSynth
