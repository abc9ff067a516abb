import Mathlib.Data.List.TakeWhile
import ClientSynth.Proofs.Entries
import ClientSynth.Proofs.Lines
import ClientSynth.Proofs.ReadScalars

/-!
# Reading back what is written

`Value.IsExact` holds of the JSON values without doubles. What is written of one, in every style, is
read back as the value (`Json.parse_render`). The rules of the reader come first: each says what is
read where the parts of a value are read. What is written has the form that they ask for.

`Json.ReadsBack` is the statement of the induction: the text of a value is read back as the value
whatever follows it, as long as no number goes on there. The induction is over the parts of a value,
for lists and objects through the rules for items and members (`Json.ReadsItems.cons`,
`Json.ReadsMembers.cons`), with a gap between the parts that depends on the style and is skipped.
-/

namespace ClientSynth

/-- A scalar that JSON has a form for, doubles apart. -/
def Scalar.IsExact : Scalar → Prop
  | .null | .bool _ | .text _ => True
  | .int n => Text.isOversized n = false
  | .float _ | .date _ | .moment _ | .bytes _ => False

/-- A JSON value without doubles. -/
inductive Value.IsExact : Value → Prop where
  | scalar {s} : s.IsExact → IsExact (.scalar s)
  | list {items} : (∀ v ∈ items, IsExact v) → IsExact (.list items)
  | map {entries} : TextKeyed entries → (∀ e ∈ entries, IsExact e.2) → IsExact (.map entries)

/-- Members with different keys are entries that are keyed by texts. -/
lemma textKeyed_of_nodup {α : Type} {members : List (String × α)}
    (nodup : (members.map Prod.fst).Nodup) :
    TextKeyed (members.map fun e => (Scalar.text e.1, e.2)) := by
  induction members with
  | nil => exact .nil
  | cons e rest ih =>
    obtain ⟨new, later⟩ := List.nodup_cons.mp nodup
    refine .cons (List.forall_mem_map.mpr fun other mem same => new ?_) (ih later)
    exact List.mem_map.mpr ⟨other, mem, Scalar.text.inj same⟩

/-- An object of values without doubles under different names is one. -/
lemma Value.isExact_object {members : List (String × Value)}
    (nodup : (members.map Prod.fst).Nodup) (exact : ∀ e ∈ members, e.2.IsExact) :
    (Value.object members).IsExact :=
  .map (textKeyed_of_nodup nodup) (List.forall_mem_map.mpr exact)

namespace Json

/-! ## Rules of the reader -/

section Rules

variable {text inner behind next rest : List Char} {v : Value} {vs : List Value} {name : String}
  {es : List (Scalar × Value)}

/-- A text starts with a value. -/
def ReadsValue (text : List Char) (v : Value) (rest : List Char) : Prop :=
  Leaves (value text) v rest

/-- A text goes on with the items of a list, up to its closing bracket. -/
def ReadsItems (text : List Char) (vs : List Value) (rest : List Char) : Prop :=
  Leaves (items text) vs rest

/-- A text goes on with the members of an object, up to its closing brace. -/
def ReadsMembers (text : List Char) (es : List (Scalar × Value)) (rest : List Char) : Prop :=
  Leaves (members text) es rest

/-- A value that is neither quoted nor in brackets is read as a word or a number. -/
lemma readsValue_plain {c : Char} (quote : c ≠ '"') (brace : c ≠ '{') (bracket : c ≠ '[')
    (h : Leaves (plain (c :: text)) v rest) : ReadsValue (c :: text) v rest := by
  unfold ReadsValue
  rwa [value.eq_4 _ (fun _ eq => quote (List.cons.inj eq).1)
    (fun _ eq => brace (List.cons.inj eq).1) (fun _ eq => bracket (List.cons.inj eq).1)]

/-- A value that starts with a quote is read as a text. -/
lemma readsValue_text (h : Leaves (quoted text) name rest) :
    ReadsValue ('"' :: text) (.text name) rest := by
  obtain ⟨left, eq, same⟩ := h
  refine ⟨left.within (by simp only [List.length_cons]; omega), ?_, same⟩
  rw [value, eq]

/-- Brackets around a gap are read as the empty list. -/
lemma readsValue_nil (close : skipGap text = ']' :: rest) :
    ReadsValue ('[' :: text) (.list []) rest := by
  have := skipGap_length_le text
  refine ⟨⟨(skipGap text).tail, by simp; omega⟩, ?_, congrArg List.tail close⟩
  rw [value, dif_pos (by rw [close]; rfl)]

/-- Brackets around items are read as their list. -/
lemma readsValue_list (opened : (skipGap text).head? ≠ some ']')
    (h : ReadsItems (skipGap text) vs rest) : ReadsValue ('[' :: text) (.list vs) rest := by
  obtain ⟨left, eq, same⟩ := h
  have := skipGap_length_le text
  refine ⟨left.within (by simp only [List.length_cons]; omega), ?_, same⟩
  rw [value, dif_neg opened, eq]

/-- Braces around a gap are read as the empty object. -/
lemma readsValue_empty (close : skipGap text = '}' :: rest) :
    ReadsValue ('{' :: text) (.map []) rest := by
  have := skipGap_length_le text
  refine ⟨⟨(skipGap text).tail, by simp; omega⟩, ?_, congrArg List.tail close⟩
  rw [value, dif_pos (by rw [close]; rfl)]

/-- Braces around members are read as their object. -/
lemma readsValue_map (opened : (skipGap text).head? ≠ some '}')
    (h : ReadsMembers (skipGap text) es rest) :
    ReadsValue ('{' :: text) (.map (distinctEntries es)) rest := by
  obtain ⟨left, eq, same⟩ := h
  have := skipGap_length_le text
  refine ⟨left.within (by simp only [List.length_cons]; omega), ?_, same⟩
  rw [value, dif_neg opened, eq]

/-- The last item is followed by the closing bracket. -/
lemma ReadsItems.last (h : ReadsValue text v behind) (close : skipGap behind = ']' :: rest) :
    ReadsItems text [v] rest := by
  obtain ⟨left, eq, rfl⟩ := h
  have inside := left.2
  have gap := skipGap_length_le left.1
  refine ⟨⟨rest, ?_⟩, ?_, rfl⟩
  · rw [close, List.length_cons] at gap
    omega
  rw [items, eq]
  dsimp only
  split
  case h_1 rest' close' =>
    rw [close] at close'
    cases close'
    rfl
  case h_2 next comma =>
    rw [close] at comma
    cases comma
  case h_3 other _ => exact (other _ close).elim

/-- Any other item is followed by a comma and more items. -/
lemma ReadsItems.cons (h : ReadsValue text v behind) (comma : skipGap behind = ',' :: next)
    (later : ReadsItems (skipGap next) vs rest) : ReadsItems text (v :: vs) rest := by
  obtain ⟨left, eq, rfl⟩ := h
  obtain ⟨last, eqLater, rfl⟩ := later
  have inside := left.2
  have gap := skipGap_length_le left.1
  have gap' := skipGap_length_le next
  have shorter : (skipGap next).length < text.length := by
    rw [comma, List.length_cons] at gap
    omega
  refine ⟨last.within shorter, ?_, rfl⟩
  rw [items, eq]
  dsimp only
  split
  case h_1 rest' close =>
    rw [comma] at close
    cases close
  case h_2 next' comma' =>
    rw [comma] at comma'
    cases comma'
    simp only [eqLater]
  case h_3 _ other => exact (other _ comma).elim

/-- The last member is followed by the closing brace. -/
lemma ReadsMembers.last (key : Leaves (quoted inner) name behind)
    (colon : skipGap behind = ':' :: next) {after : List Char}
    (h : ReadsValue (skipGap next) v after) (close : skipGap after = '}' :: rest) :
    ReadsMembers ('"' :: inner) [(.text name, v)] rest := by
  obtain ⟨left, eq, rfl⟩ := key
  obtain ⟨left', eqValue, rfl⟩ := h
  have := left.2
  have := skipGap_length_le left.1
  have := left'.2
  have := skipGap_length_le left'.1
  have := skipGap_length_le next
  refine ⟨⟨rest, by simp_all; omega⟩, ?_, rfl⟩
  rw [members, eq]
  dsimp only
  split
  case h_1 next' colon' =>
    obtain rfl : next = next' := by simpa [colon] using colon'
    rw [eqValue]
    dsimp only
    split
    case h_1 rest' close' =>
      obtain rfl : rest = rest' := by simpa [close] using close'
      rfl
    case h_2 comma =>
      rw [close] at comma
      cases comma
    case h_3 other _ => exact (other _ close).elim
  case h_2 other => exact (other _ colon).elim

/-- Any other member is followed by a comma and more members. -/
lemma ReadsMembers.cons (key : Leaves (quoted inner) name behind)
    (colon : skipGap behind = ':' :: next) {after : List Char}
    (h : ReadsValue (skipGap next) v after) {next' : List Char}
    (comma : skipGap after = ',' :: next') (later : ReadsMembers (skipGap next') es rest) :
    ReadsMembers ('"' :: inner) ((.text name, v) :: es) rest := by
  obtain ⟨left, eq, rfl⟩ := key
  obtain ⟨left', eqValue, rfl⟩ := h
  obtain ⟨last, eqLater, rfl⟩ := later
  have := left.2
  have := skipGap_length_le left.1
  have := left'.2
  have := skipGap_length_le left'.1
  have := skipGap_length_le next
  have := skipGap_length_le next'
  have shorter : (skipGap next').length < ('"' :: inner).length := by simp_all; omega
  refine ⟨last.within shorter, ?_, rfl⟩
  rw [members, eq]
  dsimp only
  split
  case h_1 _ colon' =>
    obtain rfl : next = _ := by simpa [colon] using colon'
    rw [eqValue]
    dsimp only
    split
    case h_1 close =>
      rw [comma] at close
      cases close
    case h_2 _ comma' =>
      obtain rfl : next' = _ := by simpa [comma] using comma'
      simp only [eqLater]
    case h_3 _ other => exact (other _ comma).elim
  case h_2 other => exact (other _ colon).elim

end Rules

/-! ## What is written -/

section Written

variable {text gap gap' rest : List Char} {c : Char}

/-- Blanks and line feeds, as they are written between the parts of a value. -/
def IsGap (text : List Char) : Prop :=
  ∀ c ∈ text, c = ' ' ∨ c = '\n'

/-- A character that neither stands in a gap, nor closes something, nor marks the byte order. -/
def IsSolid (c : Char) : Prop :=
  isGap c = false ∧ c ≠ ']' ∧ c ≠ '}' ∧ c ≠ '\uFEFF'

instance (c : Char) : Decidable (IsSolid c) :=
  inferInstanceAs (Decidable (_ ∧ _))

/-- A text that starts with a value. -/
def StartsValue (text : List Char) : Prop :=
  ∃ c later, text = c :: later ∧ IsSolid c

/-- A gap is skipped up to the first character that is none of it. -/
lemma skipGap_gap (h : IsGap gap) (solid : isGap c = false) :
    skipGap (gap ++ c :: rest) = c :: rest := by
  have all : ∀ x ∈ gap, isGap x = true := fun x mem => by rcases h x mem with rfl | rfl <;> rfl
  rw [skipGap, List.dropWhile_append_of_pos all, List.dropWhile_cons_of_neg (by simp [solid])]

/-- A gap before a value is skipped. -/
lemma StartsValue.skipGap_gap (starts : StartsValue text) (h : IsGap gap) (rest : List Char) :
    skipGap (gap ++ (text ++ rest)) = text ++ rest := by
  obtain ⟨c, later, rfl, solid⟩ := starts
  exact Json.skipGap_gap h solid.1

/-- No value starts like the end of a list or of an object. -/
lemma StartsValue.head?_ne (starts : StartsValue text) (rest : List Char) :
    (text ++ rest).head? ≠ some ']' ∧ (text ++ rest).head? ≠ some '}' := by
  obtain ⟨c, later, rfl, _, bracket, brace, _⟩ := starts
  exact ⟨fun eq => bracket (Option.some.inj eq), fun eq => brace (Option.some.inj eq)⟩

/-- No number goes on behind a gap. -/
lemma endsNumber_gap (h : IsGap gap) (ends : EndsNumber (c :: rest)) :
    EndsNumber (gap ++ c :: rest) := by
  cases gap with
  | nil => exact ends
  | cons first gap =>
    intro x eq
    cases eq
    rcases h first List.mem_cons_self with rfl | rfl <;> decide

/-- No number goes on behind a mark. -/
lemma endsNumber_mark (letter : c.isDigit = false ∧ c ≠ '.' ∧ c ≠ 'e' ∧ c ≠ 'E') :
    EndsNumber (c :: rest) := by
  rintro x ⟨⟩
  exact letter

/-- A line break with its indentation is a gap. -/
lemma isGap_lineBreak (style : Style) (depth : Nat) : IsGap (lineBreak style depth).toList := by
  unfold lineBreak
  split
  · intro c mem
    simp only [String.toList_append, String.toList_ofList, List.mem_append] at mem
    exact mem.symm.imp List.eq_of_mem_replicate List.mem_singleton.mp
  · exact nofun

/-- A comma is followed by a gap. -/
lemma exists_comma (style : Style) : ∃ gap, IsGap gap ∧ (comma style).toList = ',' :: gap := by
  unfold comma
  split
  · exact ⟨[], nofun, rfl⟩
  · exact ⟨[' '], fun c mem => .inl (List.mem_singleton.mp mem), rfl⟩

/-- Nothing in brackets is written as the brackets. -/
lemma toList_bracket_nil (style : Style) (depth : Nat) (opening closing : String) :
    (bracket style depth opening closing []).toList = opening.toList ++ closing.toList := by
  rw [bracket, List.isEmpty_nil, if_pos rfl, String.toList_append]

/-- Items between brackets: the first one, each later one after a comma, and gaps. -/
lemma toList_bracket (style : Style) (depth : Nat) (opening closing first : String)
    (texts : List String) :
    ∃ gap gap' gap'', IsGap gap ∧ IsGap gap' ∧ IsGap gap'' ∧
      (bracket style depth opening closing (first :: texts)).toList =
        opening.toList ++ (gap ++ (first.toList ++
          ((texts.flatMap fun t => ',' :: (gap' ++ t.toList)) ++ (gap'' ++ closing.toList)))) := by
  obtain ⟨gap, isGap, comma⟩ := exists_comma style
  refine ⟨_, gap ++ (lineBreak style (depth + 1)).toList, _, isGap_lineBreak style (depth + 1), ?_,
    isGap_lineBreak style depth, ?_⟩
  · intro c mem
    rcases List.mem_append.mp mem with mem | mem
    · exact isGap c mem
    · exact isGap_lineBreak _ _ c mem
  · rw [bracket, List.isEmpty_cons, if_neg Bool.false_ne_true]
    simp only [String.toList_append, Text.toList_intercalate_cons, comma, List.append_assoc,
      List.cons_append]

variable {write : Value → List Char} {v : Value} {vs : List Value}

/-- A value is written so that it is read where a number ends. -/
structure ReadsBack (text : List Char) (v : Value) : Prop where
  starts : StartsValue text
  reads : ∀ rest, EndsNumber rest → ReadsValue (text ++ rest) v rest

/-- Items that are read back are so in a list. -/
lemma readsItems_written (write : Value → List Char) (isGap : IsGap gap) (isGap' : IsGap gap')
    (back : ∀ w ∈ v :: vs, ReadsBack (write w) w) (rest : List Char) :
    ReadsItems (write v ++ ((vs.flatMap fun w => ',' :: (gap ++ write w)) ++
      (gap' ++ ']' :: rest))) (v :: vs) rest := by
  have close : EndsNumber (gap' ++ ']' :: rest) :=
    endsNumber_gap isGap' (endsNumber_mark (by decide))
  induction vs generalizing v with
  | nil => exact .last ((back v List.mem_cons_self).reads _ close) (skipGap_gap isGap' rfl)
  | cons w ws ih =>
    have later := ih fun u mem => back u (List.mem_cons_of_mem _ mem)
    have starts := (back w (by simp)).starts
    rw [List.flatMap_cons, List.cons_append, List.cons_append, List.append_assoc, List.append_assoc]
    refine .cons ((back v List.mem_cons_self).reads _ (endsNumber_mark (by decide))) rfl ?_
    rwa [starts.skipGap_gap isGap]

/-- An entry of an object as it is written. -/
def entryChars (ascii : Bool) (write : Value → List Char) (e : String × Value) : List Char :=
  '"' :: (e.1.toList.flatMap (quotedChar ascii) ++ '"' :: ':' :: ' ' :: write e.2)

section Members

variable {ascii : Bool} {name : String} {after next : List Char} {entries : List (Scalar × Value)}

/-- A member is read up to what follows its value. -/
lemma leaves_key (ascii : Bool) (name : String) (written after : List Char) :
    Leaves (quoted (name.toList.flatMap (quotedChar ascii) ++
      '"' :: ':' :: ' ' :: (written ++ after))) name (':' :: ' ' :: (written ++ after)) :=
  leaves_quoted ascii name _

/-- The value of a member is read behind the blank after its colon. -/
lemma ReadsBack.member (back : ReadsBack (write v) v) (ends : EndsNumber after) :
    ReadsValue (skipGap (' ' :: (write v ++ after))) v after := by
  have blank : IsGap [' '] := fun c mem => .inl (List.mem_singleton.mp mem)
  rw [← List.singleton_append, back.starts.skipGap_gap blank]
  exact back.reads after ends

/-- The last member is read up to the closing brace. -/
lemma ReadsBack.members_last (back : ReadsBack (write v) v) (ends : EndsNumber after)
    (close : skipGap after = '}' :: rest) :
    ReadsMembers (entryChars ascii write (name, v) ++ after) [(.text name, v)] rest := by
  rw [entryChars, List.cons_append, List.append_assoc]
  exact .last (leaves_key ascii name (write v) after) rfl (back.member ends) close

/-- Any other member is read up to the comma, and then the others. -/
lemma ReadsBack.members_cons (back : ReadsBack (write v) v) (ends : EndsNumber after)
    (comma : skipGap after = ',' :: next) (later : ReadsMembers (skipGap next) entries rest) :
    ReadsMembers (entryChars ascii write (name, v) ++ after) ((.text name, v) :: entries) rest := by
  rw [entryChars, List.cons_append, List.append_assoc]
  exact .cons (leaves_key ascii name (write v) after) rfl (back.member ends) comma later

/-- Members that are read back are so in an object. -/
lemma readsMembers_written {e : String × Value} {es : List (String × Value)}
    (isGap : IsGap gap) (isGap' : IsGap gap')
    (back : ∀ e' ∈ e :: es, ReadsBack (write e'.2) e'.2) (rest : List Char) :
    ReadsMembers (entryChars ascii write e ++
        ((es.flatMap fun e => ',' :: (gap ++ entryChars ascii write e)) ++ (gap' ++ '}' :: rest)))
      ((e :: es).map fun e => (.text e.1, e.2)) rest := by
  have close : EndsNumber (gap' ++ '}' :: rest) :=
    endsNumber_gap isGap' (endsNumber_mark (by decide))
  induction es generalizing e with
  | nil => exact (back e List.mem_cons_self).members_last close (skipGap_gap isGap' rfl)
  | cons e' es ih =>
    have later := ih fun u mem => back u (List.mem_cons_of_mem _ mem)
    rw [List.flatMap_cons, List.cons_append, List.cons_append, List.append_assoc, List.append_assoc]
    refine (back e List.mem_cons_self).members_cons (endsNumber_mark (by decide)) rfl ?_
    rwa [entryChars, List.cons_append, skipGap_gap isGap rfl]

end Members

end Written

/-! ## Values -/

/-- Items are written one by one. -/
lemma renderItems_eq (style : Style) (depth : Nat) (items : List Value) :
    renderItems style depth items = items.map (renderAt style depth) := by
  induction items with
  | nil => rfl
  | cons v rest ih => rw [renderItems, ih, List.map_cons]

/-- Entries are written one by one, each as its key and its value. -/
lemma renderEntries_eq (style : Style) (depth : Nat) (entries : List (Scalar × Value)) :
    renderEntries style depth entries =
      entries.map fun e =>
        quote style.ascii (keyText e.1) ++ ": " ++ renderAt style depth e.2 := by
  induction entries with
  | nil => rfl
  | cons e rest ih => rw [renderEntries, ih, List.map_cons]

end Json

section Entries

variable {α : Type} {entries table : List (Scalar × α)} {key : Scalar} {a : α}

/-- An entry under a new key is put at the end. -/
lemma insertEntry_new (new : ∀ e ∈ entries, e.1.isSameKey key = false) :
    insertEntry key a entries = entries ++ [(key, a)] := by
  induction entries with
  | nil => rfl
  | cons e rest ih =>
    rw [List.forall_mem_cons] at new
    rw [insertEntry, new.1, if_neg Bool.false_ne_true, ih new.2, List.cons_append]

/-- Entries with a text as key, each of them once, are already distinct. -/
lemma TextKeyed.distinctEntries_eq (h : TextKeyed entries) : distinctEntries entries = entries := by
  have step (table : List (Scalar × α)) (keyed : TextKeyed (table ++ entries)) :
      entries.foldl (fun table e => insertEntry e.1 e.2 table) table = table ++ entries := by
    induction entries generalizing table with
    | nil => rw [List.foldl_nil, List.append_nil]
    | cons e rest ih =>
      obtain ⟨name, eq⟩ := keyed.key (List.mem_append_right table List.mem_cons_self)
      have new : ∀ e' ∈ table, e'.1.isSameKey e.1 = false := by
        intro e' mem
        rw [eq, Scalar.isSameKey_text, decide_eq_false_iff_not, ← eq]
        exact (List.pairwise_append.mp keyed.pairwise).2.2 e' mem e List.mem_cons_self
      cases h with
      | cons _ later =>
        rw [List.foldl_cons, insertEntry_new new, ih later, List.append_assoc,
          List.singleton_append]
        rwa [List.append_assoc, List.singleton_append]
  exact step [] h

/-- Entries keyed by texts, with their texts. -/
lemma TextKeyed.exists_names (h : TextKeyed entries) :
    ∃ es : List (String × α), entries = es.map fun e => (.text e.1, e.2) := by
  induction h with
  | nil => exact ⟨[], rfl⟩
  | @cons name a _ _ _ ih =>
    obtain ⟨es, rfl⟩ := ih
    exact ⟨(name, a) :: es, rfl⟩

end Entries

namespace Json

variable {style : Style} {v : Value}

/-- A text that starts like a word or a number is read back if the reader of these reads it. -/
lemma readsBack_of_plain {text : List Char} {c : Char} {later : List Char} (eq : text = c :: later)
    (solid : IsSolid c) (mark : c ≠ '"' ∧ c ≠ '{' ∧ c ≠ '[')
    (reads : ∀ rest, EndsNumber rest → Leaves (plain (text ++ rest)) v rest) :
    ReadsBack text v := by
  subst eq
  obtain ⟨quote, opening, opening'⟩ := mark
  exact ⟨⟨c, later, rfl, solid⟩, fun rest ends =>
    readsValue_plain quote opening opening' (reads rest ends)⟩

/-- A word is read back. -/
lemma readsBack_word (word : String) {c : Char} {later : List Char} (eq : word.toList = c :: later)
    (solid : IsSolid c) (mark : c ≠ '"' ∧ c ≠ '{' ∧ c ≠ '[')
    (found : ∀ rest, word? (word.toList ++ rest) = some (v, word.length)) :
    ReadsBack word.toList v := by
  refine readsBack_of_plain eq solid mark fun rest _ => ?_
  have length : word.toList.length = word.length := String.length_toList
  have left : (word.toList ++ rest).drop word.length = rest := by
    rw [← length, List.drop_left]
  have shorter :
      ((word.toList ++ rest).drop word.length).length < (word.toList ++ rest).length := by
    rw [left, eq]
    simp only [List.cons_append, List.length_cons, List.length_append]
    omega
  refine ⟨⟨_, shorter⟩, ?_, left⟩
  rw [plain, found]
  exact dif_pos shorter

/-- The digits of an integer are read back as the integer. -/
lemma readsBack_int {n : Int} (fits : Text.isOversized n = false) :
    ReadsBack (Text.ofInt n).toList (.int n) := by
  obtain ⟨c, later, digits, digit⟩ := (isWhole_toDigits n.natAbs).exists_cons
  have other (x : Char) (letter : x.isDigit = false) : c ≠ x := by
    rintro rfl
    rw [digit] at letter
    cases letter
  have eq := toList_ofInt n
  rw [digits] at eq
  cases negative : decide (n < 0) with
  | true =>
    rw [negative] at eq
    exact readsBack_of_plain eq (by decide) (by decide) fun rest ends => leaves_plain_int fits ends
  | false =>
    rw [negative] at eq
    have noGap : isGap c = false := by
      simp only [isGap, Bool.or_eq_false_iff, beq_eq_false_iff_ne]
      exact ⟨⟨⟨other _ rfl, other _ rfl⟩, other _ rfl⟩, other _ rfl⟩
    exact readsBack_of_plain eq ⟨noGap, other _ rfl, other _ rfl, other _ rfl⟩
      ⟨other _ rfl, other _ rfl, other _ rfl⟩ fun rest ends => leaves_plain_int fits ends

/-- A scalar is read back. -/
lemma readsBack_scalar (ascii : Bool) {s : Scalar} (h : s.IsExact) :
    ReadsBack (scalar ascii s).toList (.scalar s) := by
  cases s with
  | null => exact readsBack_word "null" rfl (by decide) (by decide) fun _ => rfl
  | bool b =>
    cases b with
    | false => exact readsBack_word "false" rfl (by decide) (by decide) fun _ => rfl
    | true => exact readsBack_word "true" rfl (by decide) (by decide) fun _ => rfl
  | int n => exact readsBack_int h
  | text s =>
    have written : (scalar ascii (.text s)).toList =
        '"' :: (s.toList.flatMap (quotedChar ascii) ++ ['"']) := by
      show (quote ascii s).toList = _
      rw [quote, String.toList_ofList, List.cons_append]
    rw [written]
    refine ⟨⟨'"', _, rfl, by decide⟩, fun rest _ => ?_⟩
    rw [List.cons_append, List.append_assoc]
    exact readsValue_text (leaves_quoted ascii s rest)
  | float | date | moment | bytes => cases h

/-- A list is read back if its items are. -/
lemma readsBack_list {depth : Nat} {items : List Value}
    (back : ∀ v ∈ items, ReadsBack (renderAt style (depth + 1) v).toList v) :
    ReadsBack (renderAt style depth (.list items)).toList (.list items) := by
  rw [renderAt, renderItems_eq]
  cases items with
  | nil =>
    rw [List.map_nil, toList_bracket_nil]
    exact ⟨⟨'[', [']'], rfl, by decide⟩, fun rest _ => readsValue_nil rfl⟩
  | cons first items =>
    obtain ⟨gap, gap', gap'', isGap, isGap', isGap'', eq⟩ := toList_bracket style depth "[" "]"
      (renderAt style (depth + 1) first) (items.map (renderAt style (depth + 1)))
    rw [List.map_cons, eq, List.flatMap_map]
    refine ⟨⟨'[', _, rfl, by decide⟩, fun rest _ => ?_⟩
    have starts := (back first List.mem_cons_self).starts
    simp only [List.append_assoc]
    change ReadsValue ('[' :: (gap ++ _)) _ rest
    refine readsValue_list ?_ ?_
    · rw [starts.skipGap_gap isGap]
      exact (starts.head?_ne _).1
    · rw [starts.skipGap_gap isGap]
      exact readsItems_written (fun v => (renderAt style (depth + 1) v).toList) isGap' isGap'' back
        rest

/-- An object is read back if its values are. -/
lemma readsBack_map {depth : Nat} {entries : List (Scalar × Value)} (keyed : TextKeyed entries)
    (back : ∀ e ∈ entries, ReadsBack (renderAt style (depth + 1) e.2).toList e.2) :
    ReadsBack (renderAt style depth (.map entries)).toList (.map entries) := by
  have distinct := keyed.distinctEntries_eq
  obtain ⟨es, rfl⟩ := keyed.exists_names
  rw [List.forall_mem_map] at back
  have written (e : String × Value) :
      (quote style.ascii e.1 ++ ": " ++ renderAt style (depth + 1) e.2).toList =
        entryChars style.ascii (fun v => (renderAt style (depth + 1) v).toList) e := by
    rw [quote, entryChars, String.toList_append, String.toList_append, String.toList_ofList]
    simp
  rw [renderAt, renderEntries_eq, List.map_map]
  cases es with
  | nil =>
    rw [List.map_nil, List.map_nil, toList_bracket_nil]
    exact ⟨⟨'{', ['}'], rfl, by decide⟩, fun rest _ => readsValue_empty rfl⟩
  | cons first es =>
    obtain ⟨gap, gap', gap'', isGap, isGap', isGap'', eq⟩ := toList_bracket style depth
      "\x7b" "\x7d" (quote style.ascii first.1 ++ ": " ++ renderAt style (depth + 1) first.2)
      (es.map fun e => quote style.ascii e.1 ++ ": " ++ renderAt style (depth + 1) e.2)
    rw [List.map_cons]
    simp only [Function.comp_def, keyText]
    rw [eq, List.flatMap_map]
    simp only [written]
    refine ⟨⟨'{', _, rfl, by decide⟩, fun rest _ => ?_⟩
    have gone (later : List Char) :
        skipGap (gap ++ (entryChars style.ascii (fun v => (renderAt style (depth + 1) v).toList)
          first ++ later)) = entryChars style.ascii
            (fun v => (renderAt style (depth + 1) v).toList) first ++ later := by
      rw [entryChars, List.cons_append]
      exact skipGap_gap isGap rfl
    -- The reader drops entries whose key comes again; written keys are different already.
    rw [← distinct]
    simp only [List.append_assoc]
    change ReadsValue ('{' :: (gap ++ _)) _ rest
    refine readsValue_map ?_ ?_
    · rw [gone, entryChars, List.cons_append, List.head?_cons]
      exact nofun
    · rw [gone]
      exact readsMembers_written isGap' isGap'' back rest

/-- A value is read back wherever it stands. -/
lemma readsBack_renderAt (h : v.IsExact) (depth : Nat) :
    ReadsBack (renderAt style depth v).toList v := by
  induction h generalizing depth with
  | scalar exact =>
    rw [renderAt]
    exact readsBack_scalar style.ascii exact
  | list _ ih => exact readsBack_list fun v mem => ih v mem (depth + 1)
  | map keyed _ ih => exact readsBack_map keyed fun e mem => ih e mem (depth + 1)

/-- A text is read as a value if the value is read behind its first gap, and only a gap follows. -/
lemma parseChars_of_reads {text rest : List Char} (noMark : text.head? ≠ some '\uFEFF')
    (reads : ReadsValue (skipGap text) v rest) (last : skipGap rest = []) :
    parseChars text = .ok v := by
  obtain ⟨left, eq, rfl⟩ := reads
  rw [parseChars, if_neg noMark, eq]
  simp only [last, List.isEmpty_nil, if_true]

/-- What is written is read back, also with white space at its end. -/
theorem parse_render (h : v.IsExact) {gap : String} (isGap : IsGap gap.toList) :
    parse (render style v ++ gap) = .ok v := by
  obtain ⟨starts, reads⟩ : ReadsBack (renderAt style 0 v).toList v := readsBack_renderAt h 0
  have ends : EndsNumber gap.toList := by
    cases eq : gap.toList with
    | nil => exact nofun
    | cons c later =>
      rw [eq] at isGap
      rcases isGap c List.mem_cons_self with rfl | rfl <;> exact endsNumber_mark (by decide)
  have last : skipGap gap.toList = [] := by
    rw [skipGap, List.dropWhile_eq_nil_iff]
    intro c mem
    rcases isGap c mem with rfl | rfl <;> rfl
  have front : skipGap ((renderAt style 0 v).toList ++ gap.toList) =
      (renderAt style 0 v).toList ++ gap.toList := starts.skipGap_gap (show IsGap [] from nofun) _
  have noMark : ((renderAt style 0 v).toList ++ gap.toList).head? ≠ some '\uFEFF' := by
    obtain ⟨c, later, text, _, _, _, noMark⟩ := starts
    rw [text]
    exact fun mark => noMark (Option.some.inj mark)
  have chars : parseChars (render style v ++ gap).toList = .ok v := by
    rw [render, String.toList_append]
    exact parseChars_of_reads noMark (by rw [front]; exact reads _ ends) last
  rw [parse, chars]

/-! ## Line ends -/

/-- An escape by a number has no carriage return in it. -/
lemma return_not_mem_unitEscape {n : Nat} (h : n < 0x10000) : '\r' ∉ unitEscape n := by
  obtain ⟨a, b, c, d, digits, code⟩ := hexUnit_eq h
  simp only [hexCode?, Option.bind_eq_bind, Option.bind_eq_some_iff] at code
  obtain ⟨_, ha, _, hb, _, hc, _, hd, _⟩ := code
  have other {x : Char} {k : Nat} (digit : hexDigit? x = some k) : '\r' ≠ x := by
    rintro rfl
    cases digit
  rw [unitEscape, digits]
  simp [other ha, other hb, other hc, other hd]

/-- A quoted character has no carriage return in it, as that is escaped itself. -/
lemma return_not_mem_quotedChar (ascii : Bool) (c : Char) : '\r' ∉ quotedChar ascii c := by
  obtain ⟨letter, named, -, eq⟩ | eq | ⟨⟨-, -, printable⟩, eq⟩ := quotedChar_cases ascii c
  · rw [eq]
    intro mem
    have letter_eq : letter = '\r' := by simpa [eq_comm] using mem
    rw [letter_eq] at named
    cases named
  · rw [eq, codeEscape]
    have valid := toNat_valid c
    split
    case isTrue small => exact return_not_mem_unitEscape small
    case isFalse =>
      rw [List.mem_append, not_or]
      exact ⟨return_not_mem_unitEscape (by omega), return_not_mem_unitEscape (by omega)⟩
  · rw [eq, List.mem_singleton]
    rintro rfl
    exact absurd printable (by decide)

/-- A quoted text has no carriage return in it. -/
lemma return_not_mem_quote (ascii : Bool) (s : String) : '\r' ∉ (quote ascii s).toList := by
  rw [quote, String.toList_ofList]
  simp [return_not_mem_quotedChar]

/-- No gap that is written has a carriage return in it. -/
lemma IsGap.return_not_mem {gap : List Char} (h : IsGap gap) : '\r' ∉ gap := by
  intro mem
  rcases h _ mem with eq | eq <;> cases eq

/-- What is written in brackets has no carriage return in it if its parts have none. -/
lemma return_not_mem_bracket {depth : Nat} {opening closing : String} {items : List String}
    (apart : '\r' ∉ opening.toList ∧ '\r' ∉ closing.toList)
    (parts : ∀ item ∈ items, '\r' ∉ item.toList) :
    '\r' ∉ (bracket style depth opening closing items).toList := by
  cases items with
  | nil =>
    rw [toList_bracket_nil, List.mem_append, not_or]
    exact apart
  | cons first items =>
    obtain ⟨gap, gap', gap'', isGap, isGap', isGap'', eq⟩ :=
      toList_bracket style depth opening closing first items
    rw [List.forall_mem_cons] at parts
    rw [eq]
    simp only [List.mem_append, List.mem_flatMap, List.mem_cons, not_or, not_exists, not_and]
    refine ⟨apart.1, isGap.return_not_mem, parts.1, fun item mem => ⟨by decide, ?_⟩,
      isGap''.return_not_mem, apart.2⟩
    exact ⟨isGap'.return_not_mem, parts.2 item mem⟩

/-- No scalar is written with a carriage return. -/
lemma return_not_mem_scalar (ascii : Bool) {s : Scalar} (h : s.IsExact) :
    '\r' ∉ (scalar ascii s).toList := by
  cases s with
  | null => exact (by decide : '\r' ∉ "null".toList)
  | bool b =>
    cases b with
    | false => exact (by decide : '\r' ∉ "false".toList)
    | true => exact (by decide : '\r' ∉ "true".toList)
  | int n =>
    show '\r' ∉ (Text.ofInt n).toList
    have digit : '\r' ∉ Nat.toDigits 10 n.natAbs := fun mem =>
      nomatch Nat.isDigit_of_mem_toDigits (by decide) (by decide) mem
    rw [toList_ofInt, List.mem_append, not_or]
    exact ⟨by cases decide (n < 0) <;> decide, digit⟩
  | text s => exact return_not_mem_quote ascii s
  | float | date | moment | bytes => cases h

/-- What is written of a value has no carriage returns. -/
lemma return_not_mem_render (h : v.IsExact) : '\r' ∉ (render style v).toList := by
  unfold render
  generalize 0 = depth
  induction h generalizing depth with
  | scalar exact =>
    rw [renderAt]
    exact return_not_mem_scalar style.ascii exact
  | list _ ih =>
    rw [renderAt, renderItems_eq]
    refine return_not_mem_bracket (by decide) ?_
    rw [List.forall_mem_map]
    exact fun v mem => ih v mem (depth + 1)
  | map _ _ ih =>
    rw [renderAt, renderEntries_eq]
    refine return_not_mem_bracket (by decide) ?_
    rw [List.forall_mem_map]
    intro e mem
    simp only [String.toList_append, List.mem_append, not_or]
    exact ⟨⟨return_not_mem_quote _ _, by decide⟩, ih e mem (depth + 1)⟩

end Json

namespace Text

/-- A text without carriage returns has line feeds only. -/
lemma lineFeeds_eq_self {text : List Char} (h : '\r' ∉ text) : lineFeeds text = text := by
  fun_induction lineFeeds text with
  | case1 => rfl
  | case2 rest ih => simp at h
  | case3 c rest other ih =>
    rw [List.mem_cons, not_or] at h
    rw [ih h.2, if_neg (Ne.symm h.1)]

end Text

end ClientSynth
