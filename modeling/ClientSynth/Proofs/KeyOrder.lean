import ClientSynth.Proofs.Guard
import ClientSynth.Proofs.ReadsAlike

/-!
# The order of keys, and keys of no field

In a record the order of the keys does not matter: values that differ only in it are refused alike,
and what is left when that is taken out differs only in it again (`Value.Reordered.discard`). A key
of no field does not matter either where nothing is refused. So neither changes what validation says
or what is generated (`Artifacts.only_fields_matter`).

Both parts are instances of one relation between values, with what may change about the keys of a
record as a parameter (`Value.EntriesRel`). Reading is shown to look at the entries of a record
through its fields only, so related values are read alike (`Value.Reordered.agree`,
`Value.Extended.agree`), and what is discarded is discarded at the same places on both sides, which
keeps the relation for the next pass.
-/

namespace ClientSynth

/-- The kind of what a record holds at a key; at a key of no field that can be anything. -/
def RecordName.kindAt (name : RecordName) (key : String) : Kind :=
  ((name.fieldAt? key).map Field.kind).getD .any

/-- A value with the keys of its records in another order. -/
inductive Value.Reordered : Kind → Value → Value → Prop where
  | same (kind : Kind) (v : Value) : Reordered kind v v
  | list {kind vs ws} : vs.length = ws.length →
    (∀ (i : Nat) v w, vs[i]? = some v → ws[i]? = some w → Reordered kind v w) →
      Reordered (.list kind) (.list vs) (.list ws)
  | table {kind es fs} : es.map Prod.fst = fs.map Prod.fst →
    (∀ key v w, lookupText key es = some v → lookupText key fs = some w → Reordered kind v w) →
      Reordered (.table kind) (.map es) (.map fs)
  | record {name es fs} : (es.map Prod.fst).Perm (fs.map Prod.fst) →
    (∀ key v w, lookupText key es = some v → lookupText key fs = some w →
      Reordered (name.kindAt key) v w) →
      Reordered (.record name) (.map es) (.map fs)

/-- A value with one more key, of no field, in one of its records. -/
inductive Value.Extended : Kind → Value → Value → Prop where
  | here {name key} {extra : Value} {front back} : name.fieldAt? key = none →
    Extended (.record name) (.map (front ++ back)) (.map (front ++ (.text key, extra) :: back))
  | field {name key v w front back} : Extended (name.kindAt key) v w →
    Extended (.record name) (.map (front ++ (.text key, v) :: back))
      (.map (front ++ (.text key, w) :: back))
  | entry {kind key v w front back} : Extended kind v w →
    Extended (.table kind) (.map (front ++ (.text key, v) :: back))
      (.map (front ++ (.text key, w) :: back))
  | item {kind v w front back} : Extended kind v w →
    Extended (.list kind) (.list (front ++ v :: back)) (.list (front ++ w :: back))

/-! ## Agreement -/

section Keys

variable {α : Type} {es fs : List (Scalar × α)} {key name : String} {a : α}

/-- Something is at a key exactly when it is among the keys. -/
lemma isSome_lookupText_iff : (lookupText key es).isSome ↔ .text key ∈ es.map Prod.fst := by
  unfold lookupText
  induction es with
  | nil => simp [lookupEntry]
  | cons e rest ih =>
    obtain ⟨k, b⟩ := e
    by_cases same : k = .text key
    · subst same
      simp [lookupEntry]
    · rw [lookupEntry_cons_ne same, ih]
      simp [Ne.symm same]

/-- A key is there in both if both have the same keys. -/
lemma isSome_lookupText_congr (h : ∀ key, key ∈ es.map Prod.fst ↔ key ∈ fs.map Prod.fst) :
    (lookupText key es).isSome = (lookupText key fs).isSome := by
  rw [Bool.eq_iff_iff, isSome_lookupText_iff, isSome_lookupText_iff]
  exact h _

/-- Other keys do not notice an entry. -/
lemma lookupText_middle_ne {front back : List (Scalar × α)} (ne : name ≠ key) :
    lookupText name (front ++ (.text key, a) :: back) = lookupText name (front ++ back) := by
  unfold lookupText
  induction front with
  | nil => exact lookupEntry_cons_ne fun same => ne (Scalar.text.inj same).symm
  | cons e front ih =>
    obtain ⟨k, b⟩ := e
    rw [List.cons_append, List.cons_append, lookupEntry, lookupEntry, ih]

/-- An entry is found under its key wherever it stands. -/
lemma TextKeyed.lookupText_middle {front back : List (Scalar × α)}
    (h : TextKeyed (front ++ (.text key, a) :: back)) :
    lookupText key (front ++ (.text key, a) :: back) = some a :=
  h.lookupEntry_of_mem (List.mem_append_right _ List.mem_cons_self)

/-- Entries that differ at one key only are related at every key. -/
lemma lookupText_middle_rel {R : String → α → α → Prop} {b : α} {front back : List (Scalar × α)}
    (keyedL : TextKeyed (front ++ (.text key, a) :: back))
    (keyedR : TextKeyed (front ++ (.text key, b) :: back)) (refl : ∀ name a, R name a a)
    (inside : R key a b) (name : String) (x y : α)
    (l : lookupText name (front ++ (.text key, a) :: back) = some x)
    (r : lookupText name (front ++ (.text key, b) :: back) = some y) : R name x y := by
  by_cases same : name = key
  · subst same
    rw [keyedL.lookupText_middle] at l
    rw [keyedR.lookupText_middle] at r
    cases l
    cases r
    exact inside
  · rw [lookupText_middle_ne same] at l r
    rw [l] at r
    cases r
    exact refl name x

/-- Taking an entry out takes out its key. -/
lemma map_fst_eraseEntry :
    (eraseEntry (.text key) es).map Prod.fst = (es.map Prod.fst).erase (.text key) := by
  induction es with
  | nil => rfl
  | cons e rest ih =>
    obtain ⟨k, b⟩ := e
    by_cases same : k = .text key
    · simp [eraseEntry, same]
    · simp [eraseEntry, same, ih]

/-- A value put in at a key that is there leaves the keys alone. -/
lemma map_fst_insertEntry (here : (lookupText key es).isSome) :
    (insertEntry (.text key) a es).map Prod.fst = es.map Prod.fst := by
  unfold lookupText at here
  induction es with
  | nil => cases here
  | cons e rest ih =>
    obtain ⟨k, b⟩ := e
    by_cases same : k = .text key
    · simp [insertEntry, same]
    · rw [lookupEntry_cons_ne same] at here
      simp [insertEntry, same, ih here]

end Keys

section Items

variable {α : Type} {R : α → α → Prop} {xs ys : List α} {a b : α}

/-- Lists that differ at one place only are related at every place. -/
lemma getElem?_middle_rel (refl : ∀ a, R a a) (inside : R a b) (i : Nat) (x y : α)
    (l : (xs ++ a :: ys)[i]? = some x) (r : (xs ++ b :: ys)[i]? = some y) : R x y := by
  by_cases same : i = xs.length
  · subst same
    rw [List.getElem?_append_right (Nat.le_refl _), Nat.sub_self, List.getElem?_cons_zero] at l r
    cases l
    cases r
    exact inside
  · have elsewhere : (xs ++ b :: ys)[i]? = (xs ++ a :: ys)[i]? := by
      rw [List.getElem?_append, List.getElem?_append]
      split
      · rfl
      · rw [List.getElem?_cons, List.getElem?_cons, if_neg (by omega), if_neg (by omega)]
    rw [elsewhere, l] at r
    cases r
    exact refl x

/-- Related lists stay so when related items are put in at one place. -/
lemma getElem?_set_rel (h : ∀ (i : Nat) x y, xs[i]? = some x → ys[i]? = some y → R x y)
    (place : Nat) (related : R a b) (i : Nat) (x y : α) (l : (xs.set place a)[i]? = some x)
    (r : (ys.set place b)[i]? = some y) : R x y := by
  rw [List.getElem?_set] at l r
  split at l
  case isTrue same =>
    rw [if_pos same] at r
    split at l
    · split at r
      · cases l
        cases r
        exact related
      · cases r
    · cases l
  case isFalse other =>
    rw [if_neg other] at r
    exact h i x y l r

end Items

namespace Value

variable {kind : Kind} {v w : Value}

/-- Values that differ in the order of keys are refused alike and read as the same. -/
lemma Reordered.agree (h : Reordered kind v w) : Agree kind v w := by
  induction h with
  | same kind v => exact .same kind v
  | list length _ ih => exact .list length ih
  | table keys _ ih => exact .table keys ih
  | @record name es fs keys _ ih =>
    refine .record (fun _ _ _ => isSome_lookupText_congr fun _ => keys.mem_iff)
      fun key f v w own here there => ?_
    have agree := ih key v w here there
    rwa [RecordName.kindAt, own] at agree

/-- The entries of a record in another order. -/
lemma Reordered.of_perm {name : RecordName} {es fs : List (Scalar × Value)} (keyed : TextKeyed es)
    (perm : es.Perm fs) : Reordered (.record name) (.map es) (.map fs) := by
  refine .record (perm.map _) fun key v w here there => ?_
  have again := keyed.lookupEntry_of_mem (perm.mem_iff.mpr (mem_of_lookupEntry there))
  rw [show lookupEntry (.text key) es = some v from here] at again
  cases again
  exact .same _ v

/-- A value with keys of no field is refused and read as the value without them. -/
lemma Extended.agree (h : Extended kind v w) (keyedL : v.Keyed) (keyedR : w.Keyed) :
    Agree kind v w := by
  induction h with
  | @here name key extra front back none =>
    -- The key belongs to no field, and nothing changes at the others.
    have elsewhere : ∀ other f, name.fieldAt? other = some f →
        lookupText other (front ++ (.text key, extra) :: back) =
          lookupText other (front ++ back) := by
      intro other f own
      refine lookupText_middle_ne ?_
      rintro rfl
      rw [none] at own
      cases own
    refine .record (fun other f own => by rw [elsewhere other f own]) fun other f v w own l r => ?_
    rw [elsewhere other f own, l] at r
    cases r
    exact .same _ _
  | @field name key v w front back _ ih =>
    have inside := ih (keyedL.of_lookup keyedL.entries.lookupText_middle)
      (keyedR.of_lookup keyedR.entries.lookupText_middle)
    refine .record (fun _ _ _ => isSome_lookupText_congr (by simp)) fun other f a b own l r => ?_
    refine lookupText_middle_rel (R := fun other a b => ∀ f, name.fieldAt? other = some f →
      Agree f.kind a b) keyedL.entries keyedR.entries (fun _ a f _ => .same f.kind a) ?_
      other a b l r f own
    intro f own
    rwa [RecordName.kindAt, own] at inside
  | @entry kind key v w front back _ ih =>
    have inside := ih (keyedL.of_lookup keyedL.entries.lookupText_middle)
      (keyedR.of_lookup keyedR.entries.lookupText_middle)
    exact .table (by simp) (lookupText_middle_rel (R := fun _ => Agree kind) keyedL.entries
      keyedR.entries (fun _ => .same kind) inside)
  | @item kind v w front back _ ih =>
    have inside := ih (keyedL.of_getElem? (i := front.length) (by simp))
      (keyedR.of_getElem? (i := front.length) (by simp))
    exact .list (by simp) (getElem?_middle_rel (.same kind) inside)

/-! ## Taking out -/

/-- Entries that are related at every key, the keys being related as well. -/
structure EntriesRel (K : List Scalar → List Scalar → Prop) (R : String → Value → Value → Prop)
    (es fs : List (Scalar × Value)) : Prop where
  keys : K (es.map Prod.fst) (fs.map Prod.fst)
  values : ∀ key v w, lookupText key es = some v → lookupText key fs = some w → R key v w

section Discard

variable {K : List Scalar → List Scalar → Prop} {R : String → Value → Value → Prop}
  {es fs : List (Scalar × Value)}

/-- Putting related values at a key that both have leaves the entries related. -/
lemma EntriesRel.insert (h : EntriesRel K R es fs) {key : String} {a b : Value}
    (hereL : (lookupText key es).isSome) (hereR : (lookupText key fs).isSome)
    (related : R key a b) :
    EntriesRel K R (insertEntry (.text key) a es) (insertEntry (.text key) b fs) := by
  refine ⟨?_, fun other v w l r => ?_⟩
  · rw [map_fst_insertEntry hereL, map_fst_insertEntry hereR]
    exact h.keys
  · unfold lookupText at l r
    by_cases same : other = key
    · subst same
      rw [lookupEntry_insert_self] at l r
      cases l
      cases r
      exact related
    · rw [lookupEntry_insert_ne same] at l r
      exact h.values other v w l r

/-- Taking a key out of both leaves the entries related. -/
lemma EntriesRel.erase (h : EntriesRel K R es fs) (keyed : TextKeyed es)
    (erase : ∀ ks ls key, K ks ls → K (ks.erase key) (ls.erase key)) (key : String) :
    EntriesRel K R (eraseEntry (.text key) es) (eraseEntry (.text key) fs) := by
  refine ⟨?_, fun other v w l r => ?_⟩
  · rw [map_fst_eraseEntry, map_fst_eraseEntry]
    exact erase _ _ _ h.keys
  · unfold lookupText at l r
    by_cases same : other = key
    · subst same
      rw [keyed.lookupEntry_erase_self] at l
      cases l
    · rw [lookupEntry_erase_ne same] at l r
      exact h.values other v w l r

/-- What is made of related options is related. -/
lemma optionRel_map {α β γ δ : Type} {R : α → β → Prop} {S : γ → δ → Prop} {a : Option α}
    {b : Option β} {f : α → γ} {g : β → δ} (h : Option.Rel R a b)
    (related : ∀ x y, R x y → S (f x) (g y)) : Option.Rel S (a.map f) (b.map g) := by
  cases h with
  | none => exact .none
  | some r => exact .some (related _ _ r)

/-- What related options lead to is related. -/
lemma optionRel_bind {α β γ δ : Type} {R : α → β → Prop} {S : γ → δ → Prop} {a : Option α}
    {b : Option β} {f : α → Option γ} {g : β → Option δ} (h : Option.Rel R a b)
    (related : ∀ x y, R x y → Option.Rel S (f x) (g y)) :
    Option.Rel S (a.bind f) (b.bind g) := by
  cases h with
  | none => exact .none
  | some r => exact related _ _ r

/-- A weaker relation relates the same options. -/
lemma optionRel_imp {α β : Type} {R S : α → β → Prop} {a : Option α} {b : Option β}
    (h : Option.Rel R a b) (related : ∀ x y, R x y → S x y) : Option.Rel S a b := by
  simpa using optionRel_map (f := id) (g := id) h related

/-- From related entries the same is taken out. -/
lemma EntriesRel.discard (h : EntriesRel K R es fs) (keyedL : TextKeyed es) (keyedR : TextKeyed fs)
    (mem : ∀ ks ls, K ks ls → ∀ key, key ∈ ks ↔ key ∈ ls)
    (erase : ∀ ks ls key, K ks ls → K (ks.erase key) (ls.erase key))
    (inside : ∀ key v w, lookupText key es = some v → lookupText key fs = some w →
      ∀ l, Option.Rel (R key) (v.discard l) (w.discard l)) (l : Location) :
    Option.Rel (fun a b => ∃ es' fs', a = .map es' ∧ b = .map fs' ∧ EntriesRel K R es' fs')
      ((map es).discard l) ((map fs).discard l) := by
  match l with
  | [] => exact .none
  | .index i :: rest =>
    -- No entry is at an index.
    have nothing {es : List (Scalar × Value)} (keyed : TextKeyed es) :
        (map es).discard (.index i :: rest) = none := by
      rw [Option.eq_none_iff_forall_ne_some]
      intro left eq
      obtain ⟨_, _, _, absurd⟩ := exists_of_discard_map keyed eq
      cases absurd
    rw [nothing keyedL, nothing keyedR]
    exact .none
  | .key key :: rest =>
    have same : (lookupText key es).isSome = (lookupText key fs).isSome :=
      isSome_lookupText_congr (mem _ _ h.keys)
    have found : Option.Rel (fun v w => lookupText key es = some v ∧ lookupText key fs = some w)
        (lookupText key es) (lookupText key fs) := optionRel_of_isSome same fun v w l r => ⟨l, r⟩
    by_cases last : rest = []
    · subst last
      rw [discard_map_single, discard_map_single]
      exact optionRel_map found fun v w _ => ⟨_, _, rfl, rfl, h.erase keyedL erase key⟩
    · rw [discard_map_cons _ _ last, discard_map_cons _ _ last]
      refine optionRel_bind found fun v w ⟨l, r⟩ => optionRel_map (inside key v w l r rest) ?_
      exact fun a b related => ⟨_, _, rfl, rfl,
        h.insert (by rw [l, Option.isSome_some]) (by rw [r, Option.isSome_some]) related⟩

end Discard

/-- The order of keys does not matter to whether there are any. -/
lemma Reordered.isEmptyMap_eq (h : Reordered kind v w) : v.isEmptyMap = w.isEmptyMap := by
  have empty {es fs : List (Scalar × Value)} (length : es.length = fs.length) :
      (map es).isEmptyMap = (map fs).isEmptyMap := by
    cases es with
    | nil => rw [List.eq_nil_of_length_eq_zero length.symm]
    | cons e rest =>
      cases fs with
      | nil => cases length
      | cons f rest => rfl
  cases h with
  | same _ _ => rfl
  | list _ _ => rfl
  | table keys _ => exact empty (by simpa using congrArg List.length keys)
  | record keys _ => exact empty (by simpa using keys.length_eq)

/-- From lists of related items the same is taken out. -/
lemma discard_list_rel {R : Value → Value → Prop} {vs ws : List Value}
    (length : vs.length = ws.length)
    (inside : ∀ (i : Nat) v w, vs[i]? = some v → ws[i]? = some w →
      R v w ∧ v.isEmptyMap = w.isEmptyMap ∧ ∀ l, Option.Rel R (v.discard l) (w.discard l))
    (empty : R (map []) (map [])) (l : Location) :
    Option.Rel (fun a b => ∃ vs' ws', a = .list vs' ∧ b = .list ws' ∧ vs'.length = ws'.length ∧
      ∀ (i : Nat) v w, vs'[i]? = some v → ws'[i]? = some w → R v w)
      ((list vs).discard l) ((list ws).discard l) := by
  match l with
  | [] => exact .none
  | step :: rest =>
    have set {i : Nat} {a b : Value} (related : R a b) :
        ∃ vs' ws', Value.list (vs.set i a) = .list vs' ∧ Value.list (ws.set i b) = .list ws' ∧
          vs'.length = ws'.length ∧
          ∀ (i : Nat) v w, vs'[i]? = some v → ws'[i]? = some w → R v w :=
      ⟨_, _, rfl, rfl, by simpa using length,
        getElem?_set_rel (fun j v w l r => (inside j v w l r).1) i related⟩
    -- Only an index of the list leads into it, and it does so in both lists or in neither.
    by_cases item : ∃ i : Nat, step = .index i ∧ i < vs.length
    · obtain ⟨i, rfl, lt⟩ := item
      have l : vs[i]? = some vs[i] := List.getElem?_eq_getElem lt
      have r : ws[i]? = some ws[i] := List.getElem?_eq_getElem (length ▸ lt)
      obtain ⟨related, empties, outcomes⟩ := inside i _ _ l r
      by_cases last : rest = []
      · subst last
        rw [discard_list_single l, discard_list_single r, ← empties]
        split
        · exact .none
        · exact .some (set empty)
      · rw [discard_list_cons l last, discard_list_cons r last]
        exact optionRel_map (outcomes rest) fun a b => set
    · have nothing {us : List Value} (same : us.length = vs.length) :
          (list us).discard (step :: rest) = none := by
        rw [Option.eq_none_iff_forall_ne_some]
        intro left eq
        obtain ⟨i, _, found, rfl⟩ := exists_of_discard_list eq
        exact item ⟨i, rfl, same ▸ (List.getElem?_eq_some_iff.mp found).1⟩
      rw [nothing rfl, nothing length.symm]
      exact .none

/-- Of a value with the keys of its records in another order the same is left when something is
taken out, up to that order. -/
lemma Reordered.discard (h : Reordered kind v w) (keyedL : v.Keyed) (keyedR : w.Keyed)
    (l : Location) : Option.Rel (Reordered kind) (v.discard l) (w.discard l) := by
  induction h generalizing l with
  | same kind v =>
    cases v.discard l with
    | none => exact .none
    | some left => exact .some (.same kind left)
  | @list kind vs ws length items ih =>
    refine optionRel_imp (discard_list_rel length (R := Reordered kind) ?_ (.same _ _) l) ?_
    · exact fun i v w l r => ⟨items i v w l r, (items i v w l r).isEmptyMap_eq,
        ih i v w l r (keyedL.of_getElem? l) (keyedR.of_getElem? r)⟩
    · rintro _ _ ⟨vs', ws', rfl, rfl, length, items⟩
      exact .list length items
  | @table kind es fs keys values ih =>
    have entries : EntriesRel Eq (fun _ => Reordered kind) es fs := ⟨keys, values⟩
    refine optionRel_imp (entries.discard keyedL.entries keyedR.entries (by rintro _ _ rfl; simp)
      (by rintro _ _ _ rfl; rfl) ?_ l) ?_
    · exact fun key v w l r => ih key v w l r (keyedL.of_lookup l) (keyedR.of_lookup r)
    · rintro _ _ ⟨es', fs', rfl, rfl, keys, values⟩
      exact .table keys values
  | @record name es fs keys values ih =>
    have entries : EntriesRel List.Perm (fun key => Reordered (name.kindAt key)) es fs :=
      ⟨keys, values⟩
    refine optionRel_imp (entries.discard keyedL.entries keyedR.entries
      (fun _ _ perm _ => perm.mem_iff) (fun _ _ key perm => perm.erase key) ?_ l) ?_
    · exact fun key v w l r => ih key v w l r (keyedL.of_lookup l) (keyedR.of_lookup r)
    · rintro _ _ ⟨es', fs', rfl, rfl, keys, values⟩
      exact .record keys values

/-! ## Salvage -/

/-- JSON values that differ in the order of keys. -/
structure ReorderedJson (kind : Kind) (v w : Value) : Prop where
  reordered : Reordered kind v w
  left : v.IsJson
  right : w.IsJson

namespace ReorderedJson

/-- At the first of some locations where there is something the same is taken out. -/
lemma discardFirst (h : ReorderedJson kind v w) (ls : List Location) :
    (v.discardFirst ls).2 = (w.discardFirst ls).2 ∧
      ReorderedJson kind (v.discardFirst ls).1 (w.discardFirst ls).1 := by
  induction ls with
  | nil => exact ⟨rfl, h⟩
  | cons l ls ih =>
    have related := h.reordered.discard h.left.keyed h.right.keyed l
    unfold Value.discardFirst
    cases eqL : v.discard l with
    | none =>
      cases eqR : w.discard l with
      | none => exact ⟨congrArg (l :: ·) ih.1, ih.2⟩
      | some b =>
        rw [eqL, eqR] at related
        cases related
    | some a =>
      cases eqR : w.discard l with
      | none =>
        rw [eqL, eqR] at related
        cases related
      | some b =>
        rw [eqL, eqR] at related
        cases related with
        | some related => exact ⟨rfl, related, h.left.discard eqL, h.right.discard eqR⟩

/-- Rejections for the same reasons discard the same from both values. -/
lemma discardAll (h : ReorderedJson kind v w) {rs ss : List Rejection}
    (same : rs.map Rejection.reason = ss.map Rejection.reason) :
    (v.discardAll rs).2 = (w.discardAll ss).2 ∧
      ReorderedJson kind (v.discardAll rs).1 (w.discardAll ss).1 := by
  induction rs generalizing v w ss with
  | nil =>
    rw [List.map_nil, eq_comm, List.map_eq_nil_iff] at same
    rw [same]
    exact ⟨rfl, h⟩
  | cons r rs ih =>
    rw [List.map_cons, eq_comm, List.map_eq_cons_iff] at same
    obtain ⟨s, ss, rfl, atReason, same⟩ := same
    have atLocation : s.location = r.location := congrArg Prod.fst atReason
    unfold Value.discardAll
    rw [atLocation]
    obtain ⟨tried, next⟩ := h.discardFirst r.location.selfAndAbove
    obtain ⟨later, left⟩ := ih next same.symm
    exact ⟨congrArg₂ (· ++ ·) tried later, left⟩

end ReorderedJson

end Value

/-- Salvages with the same document, after reports for the same reasons. -/
structure Salvage.SameReasons (s t : Salvage) : Prop where
  document : s.document = t.document
  reported : s.reported.map Rejection.reason = t.reported.map Rejection.reason
  rejected : s.rejected = t.rejected

namespace Validation

variable {v w : Value} {es fs : List (Scalar × Value)}

/-- Whether a rejection is reported depends on its location. -/
lemma map_reason_filter (rejected : List Location) (rs : List Rejection) :
    (rs.filter fun r => !isSuppressed rejected r.location).map Rejection.reason =
      (rs.map Rejection.reason).filter fun e => !isSuppressed rejected e.1 := by
  rw [List.filter_map]
  rfl

/-- The passes over both values reject for the same reasons and leave related values. -/
lemma sameReasons_salvageFrom (h : Value.ReorderedJson (.record .document) v w)
    (rejected : List Location) (passes : Nat) :
    (v.salvageFrom rejected passes).SameReasons (w.salvageFrom rejected passes) := by
  induction passes generalizing v w rejected with
  | zero => exact ⟨rfl, rfl, rfl⟩
  | succ passes ih =>
    have documents := h.reordered.agree.document h.left.keyed h.right.keyed
    unfold Value.salvageFrom
    generalize Document.ofValue v = a, Document.ofValue w = b at documents
    cases documents with
    | ok same =>
      rw [same]
      exact ⟨rfl, rfl, rfl⟩
    | @error rs ss same =>
      obtain ⟨tried, left⟩ := h.discardAll same
      have later := ih left (rejected ++ (v.discardAll rs).2)
      simp only [← tried]
      refine ⟨later.document, ?_, later.rejected⟩
      rw [List.map_append, List.map_append, map_reason_filter, map_reason_filter, same,
        later.reported]

/-- Passes that reject for the same reasons give the same validation. -/
lemma ofSalvage_congr {s t : Salvage} (h : s.SameReasons t) : ofSalvage s = ofSalvage t := by
  have findings (rs : List Rejection) : rs.map rejectionFinding =
      (rs.map Rejection.reason).map fun e => .fault e.1 (.rejected e.2) := by
    rw [List.map_map]
    rfl
  rw [ofSalvage, ofSalvage, findings, findings, h.document, h.reported, h.rejected]

/-- The order of keys in records does not change what validation says. -/
lemma ofValue_reordered (h : Value.ReorderedJson (.record .document) (.map es) (.map fs)) :
    ofValue (.map es) = ofValue (.map fs) := by
  rw [ofValue, ofValue, Value.salvage, Value.salvage, h.left.plain_eq, h.right.plain_eq]
  exact ofSalvage_congr (sameReasons_salvageFrom h [] maxPasses)

end Validation

/-- Where validation says the same of what is the same document, the same is generated. -/
lemma Artifacts.ofValue_congr {es fs : List (Scalar × Value)} (jsonL : (Value.map es).IsJson)
    (jsonR : (Value.map fs).IsJson)
    (validations : Validation.ofValue (.map es) = Validation.ofValue (.map fs))
    (documents : OutcomeRel Eq (Document.ofValue (.map es)) (Document.ofValue (.map fs)))
    (s : Settings) : Artifacts.ofValue (.map es) s = Artifacts.ofValue (.map fs) s := by
  by_cases none : (Validation.ofValue (.map es)).report.errors = []
  · obtain ⟨d, read, made⟩ := (Artifacts.guarded jsonL s).generated none
    obtain ⟨d', read', made'⟩ := (Artifacts.guarded jsonR s).generated (validations ▸ none)
    rw [read, read'] at documents
    cases documents with
    | ok same => rw [made, made', same]
  · rw [(Artifacts.guarded jsonL s).blocked.mpr none,
      (Artifacts.guarded jsonR s).blocked.mpr (validations ▸ none), validations]

/-- Of a JSON object only what is at the fields of its records matters: neither the order of the
keys in them nor, when nothing in it is refused, a key of no field changes what validation says or
what is generated. -/
theorem Artifacts.only_fields_matter {es fs : List (Scalar × Value)}
    (jsonL : (Value.map es).IsJson) (jsonR : (Value.map fs).IsJson)
    (h : Value.Reordered (.record .document) (.map es) (.map fs) ∨
      (∃ d, Document.ofValue (.map es) = .ok d) ∧
        Value.Extended (.record .document) (.map es) (.map fs)) :
    (Value.map es).validate = (Value.map fs).validate ∧
      ∀ s, Artifacts.ofValue (.map es) s = Artifacts.ofValue (.map fs) s := by
  have conclude (validations : Validation.ofValue (.map es) = Validation.ofValue (.map fs))
      (agree : Value.Agree (.record .document) (.map es) (.map fs)) :
      (Value.map es).validate = (Value.map fs).validate ∧
        ∀ s, Artifacts.ofValue (.map es) s = Artifacts.ofValue (.map fs) s := by
    rw [Validation.validate_eq jsonL, Validation.validate_eq jsonR, validations]
    exact ⟨rfl, ofValue_congr jsonL jsonR validations (agree.document jsonL.keyed jsonR.keyed)⟩
  rcases h with reordered | ⟨⟨d, read⟩, extended⟩
  · exact conclude (Validation.ofValue_reordered ⟨reordered, jsonL, jsonR⟩) reordered.agree
  · have agree := extended.agree jsonL.keyed jsonR.keyed
    have documents := agree.document jsonL.keyed jsonR.keyed
    refine conclude ?_ agree
    -- The extended document is the same one, and nothing in it is refused either.
    rw [read] at documents
    generalize eq : Document.ofValue (.map fs) = b at documents
    cases documents with
    | ok same =>
      rw [Validation.ofValue_of_ok jsonL read, Validation.ofValue_of_ok jsonR eq, same]

/-- A number for the endpoints is refused wherever its key stands, and a note in a document is not
read. -/
theorem Artifacts.only_fields_matter_note :
    ((Value.map [(.text "title", .text "T"), (.text "endpoints", .int 42)]).validate =
        (Value.map [(.text "endpoints", .int 42), (.text "title", .text "T")]).validate ∧
      ∀ s, Artifacts.ofValue (.map [(.text "title", .text "T"), (.text "endpoints", .int 42)]) s =
        Artifacts.ofValue (.map [(.text "endpoints", .int 42), (.text "title", .text "T")]) s) ∧
    ((Value.map [(.text "title", .text "T")]).validate =
        (Value.map [(.text "title", .text "T"), (.text "note", .int 42)]).validate ∧
      ∀ s, Artifacts.ofValue (.map [(.text "title", .text "T")]) s =
        Artifacts.ofValue (.map [(.text "title", .text "T"), (.text "note", .int 42)]) s) := by
  have title : (Value.text "T").IsJson := .scalar trivial
  have number : (Value.int 42).IsJson := .scalar (show Text.isOversized 42 = false by decide)
  have one : (Value.map [(.text "title", .text "T")]).IsJson :=
    .map (.cons nofun .nil) (by simpa using title)
  have two {a b : String} {v w : Value} (ne : b ≠ a) (first : v.IsJson) (second : w.IsJson) :
      (Value.map [(.text a, v), (.text b, w)]).IsJson :=
    .map (.cons (by simpa using ne) (.cons nofun .nil)) (by simpa using ⟨first, second⟩)
  have note : Value.Extended (.record .document) (.map ([(.text "title", .text "T")] ++ []))
      (.map ([(.text "title", .text "T")] ++ (.text "note", .int 42) :: [])) :=
    .here (by decide)
  have json := two (show "endpoints" ≠ "title" by decide) title number
  have turned := two (show "title" ≠ "endpoints" by decide) number title
  have noted := two (show "note" ≠ "title" by decide) title number
  constructor
  · exact only_fields_matter json turned (.inl (.of_perm json.keyed.entries (.swap _ _ _)))
  · exact only_fields_matter one noted (.inr ⟨⟨_, rfl⟩, note⟩)

end ClientSynth
