import Mathlib
import ClientSynth.Proofs.Collisions

/-!
# Keys of queries

The key of a query has a character for each one of the name in lower case, while its hook is called
after the ASCII words of the name as it is written. Two characters beyond ASCII become ASCII letters
in lower case (`Naming.isForeign_iff`). Where these stand at the same places of two names, one key
means one hook (`Naming.queryHook_eq_of_queryKey_eq`); else two queries may be cached under one key
(`Naming.queryKey_eq_kelvin`).

Key and hook are each made character by character, so each is a concatenation of images
(`Naming.queryKey_eq_iff`, `Naming.queryHook_eq_iff`), and what two names have in common is read off
the images of their characters. What is lower-cased to ASCII is found in the table of cases by
looking at its ranges once (`Text.lowerRuns_ge_or`).
-/

namespace ClientSynth

/-! ## Lower case -/

namespace Text

/-- Each range of the table is below ASCII's end, is the Kelvin sign alone, or leads beyond ASCII.
-/
lemma lowerRuns_ge_or : ∀ r ∈ lowerRuns,
    r.last < 128 ∨ (r.first = 0x212A ∧ r.last = 0x212A) ∨ 128 ≤ (r.first : Int) + r.shift := by
  decide +kernel

/-- Beyond ASCII, only the sign for kelvins is mapped into ASCII. -/
lemma image_lowerRuns_lt {n : Nat} (h : CaseRun.image lowerRuns n < 128) :
    n < 128 ∨ n = 0x212A := by
  unfold CaseRun.image at h
  split at h
  case h_1 r found =>
    have isRun := List.mem_of_find?_eq_some found
    have inRun := List.find?_some found
    simp only [Bool.and_eq_true, decide_eq_true_iff] at inRun
    rcases lowerRuns_ge_or r isRun with low | kelvin | high <;> omega
  case h_2 => exact .inl h

end Text

namespace Naming

open Text

variable {c : Char} {e e' : Endpoint}

/-- Whether a character is no ASCII letter or digit, but has one in lower case. -/
def isForeign (c : Char) : Bool :=
  !isAlnum c && (lowerChar c).any isKeyChar

/-- What stands for a character of a name in lower case. -/
def keyChar (c : Char) : Char :=
  if isKeyChar c then c else '-'

/-- What a key has for a character of the name. -/
def keyImage (c : Char) : List Char :=
  (lowerChar c).map keyChar

/-- What a key would have for a character of the name if no other than an ASCII letter gave one. -/
def slugImage (c : Char) : List Char :=
  if isAlnum c then [c.toLower] else (keyImage c).map fun _ => '-'

/-- A character of keys is a letter or a digit. -/
lemma isAlnum_of_isKeyChar (h : isKeyChar c = true) : isAlnum c = true := by
  have : (c.isLower || c.isDigit) = true := h
  have : isAlnum c = (c.isUpper || c.isLower || c.isDigit) := rfl
  grind

/-- The letters and digits of a key are those of the text, in lower case. -/
lemma isKeyChar_toLower (c : Char) : isKeyChar c.toLower = isAlnum c := by
  rw [isAlnum, Char.isAlphanum, Char.isAlpha]
  by_cases upper : c.isUpper
  · rw [isKeyChar, Char.isLower_toLower_eq_isAlpha, Char.isAlpha, upper]
    rfl
  · rw [Char.toLower_eq_of_not_isUpper upper, Bool.not_eq_true] at *
    rw [isKeyChar, upper, Bool.false_or]

/-- Beyond ASCII there are no letters and digits for names. -/
lemma isAlnum_beyond (beyond : ¬c.toNat < 128) : isAlnum c = false :=
  Bool.eq_false_iff.mpr fun alnum => beyond (toNat_of_isAlnum alnum)

/-- Beyond ASCII there are no characters of keys. -/
lemma isKeyChar_beyond (beyond : ¬c.toNat < 128) : isKeyChar c = false :=
  Bool.eq_false_iff.mpr fun isKey => beyond (toNat_of_isAlnum (isAlnum_of_isKeyChar isKey))

/-- A code point that is none stands for no letter either. -/
lemma isKeyChar_ofNat {n : Nat} (beyond : 128 ≤ n) : isKeyChar (Char.ofNat n) = false := by
  by_cases valid : n.isValidChar
  · rw [Char.ofNat, dif_pos valid]
    exact isKeyChar_beyond (show ¬n < 128 from not_lt.mpr beyond)
  · rw [Char.ofNat, dif_neg valid]
    decide

/-- Beyond ASCII there are two characters with an ASCII letter in lower case: the capital I with a
dot, and the sign for kelvins. -/
lemma lowerChar_beyond (beyond : ¬c.toNat < 128) (other : c ≠ '\u0130' ∧ c ≠ '\u212a') :
    ∃ x, lowerChar c = [x] ∧ isKeyChar x = false := by
  have ne : c.toNat ≠ 0x130 ∧ c.toNat ≠ 0x212A :=
    ⟨fun same => other.1 (Char.toNat_inj.mp (same.trans (by decide))),
      fun same => other.2 (Char.toNat_inj.mp (same.trans (by decide)))⟩
  have special : lowerSpecials.lookup c.toNat = none := by
    unfold lowerSpecials
    rw [List.lookup_cons, beq_eq_false_iff_ne.mpr ne.1]
    rfl
  have image : 128 ≤ CaseRun.image lowerRuns c.toNat := by
    by_contra low
    rcases image_lowerRuns_lt (not_le.mp low) with ascii | kelvin
    · exact beyond ascii
    · exact ne.2 kelvin
  unfold lowerChar
  rw [if_neg beyond, special]
  exact ⟨_, rfl, isKeyChar_ofNat image⟩

/-- An ASCII character has its ASCII form in lower case. -/
lemma lowerChar_ascii (ascii : c.toNat < 128) : lowerChar c = [c.toLower] :=
  if_pos ascii

/-- The dotted capital becomes two characters, the first of which is an ASCII letter. -/
lemma lowerChar_dotted : lowerChar '\u0130' = ['i', '\u0307'] := by
  decide

/-- The Kelvin sign becomes an ASCII letter. -/
lemma lowerChar_kelvin : lowerChar '\u212a' = ['k'] := by
  decide

/-- Two characters beyond ASCII become ASCII letters in lower case. -/
lemma isForeign_iff : isForeign c = true ↔ c = '\u0130' ∨ c = '\u212a' := by
  constructor
  · intro foreign
    by_contra other
    rw [isForeign] at foreign
    by_cases ascii : c.toNat < 128
    · rw [lowerChar_ascii ascii, List.any_cons, isKeyChar_toLower, List.any_nil, Bool.or_false,
        Bool.not_and_self] at foreign
      cases foreign
    · obtain ⟨x, image, letter⟩ := lowerChar_beyond ascii (not_or.mp other)
      rw [image, List.any_cons, letter, List.any_nil, Bool.or_false, Bool.and_false] at foreign
      cases foreign
  · rintro (rfl | rfl)
    · rw [isForeign, lowerChar_dotted]
      rfl
    · rw [isForeign, lowerChar_kelvin]
      rfl

/-- One of the two letters has one letter in the key. -/
lemma keyImage_foreign (foreign : isForeign c = true) :
    keyImage c = ['i', '-'] ∨ keyImage c = ['k'] := by
  rcases isForeign_iff.mp foreign with rfl | rfl
  · rw [keyImage, lowerChar_dotted]
    exact .inl rfl
  · rw [keyImage, lowerChar_kelvin]
    exact .inr rfl

/-- Any other character has one character in the key, a letter or digit only for its own. -/
lemma keyImage_native (native : isForeign c = false) :
    ∃ x, keyImage c = [x] ∧ slugImage c = [x] ∧ isKeyChar x = isAlnum c := by
  by_cases ascii : c.toNat < 128
  · have image : keyImage c = [keyChar c.toLower] := by
      rw [keyImage, lowerChar_ascii ascii, List.map_singleton]
    rw [slugImage, image, keyChar, isKeyChar_toLower]
    cases alnum : isAlnum c with
    | true => exact ⟨c.toLower, rfl, rfl, (isKeyChar_toLower c).trans alnum⟩
    | false => exact ⟨'-', rfl, rfl, rfl⟩
  · have other : c ≠ '\u0130' ∧ c ≠ '\u212a' := by
      rw [← not_or, ← isForeign_iff, native]
      exact Bool.false_ne_true
    obtain ⟨x, image, letter⟩ := lowerChar_beyond ascii other
    have image : keyImage c = ['-'] := by
      rw [keyImage, image, List.map_singleton, keyChar, letter]
      rfl
    refine ⟨'-', image, ?_⟩
    rw [slugImage, isAlnum_beyond ascii, image]
    exact ⟨rfl, rfl⟩

/-- Every character leaves something in the key. -/
lemma keyImage_ne_nil (c : Char) : keyImage c ≠ [] := by
  cases foreign : isForeign c with
  | true => rcases keyImage_foreign foreign with image | image <;> rw [image] <;> exact nofun
  | false =>
    obtain ⟨x, image, _⟩ := keyImage_native foreign
    rw [image]
    exact List.cons_ne_nil x []

/-- A letter or a digit is kept in lower case. -/
lemma slugImage_alnum (alnum : isAlnum c = true) : slugImage c = [c.toLower] :=
  if_pos alnum

/-- Any other character leaves something without letters and digits. -/
lemma slugImage_other (other : isAlnum c = false) :
    slugImage c ≠ [] ∧ ∀ x ∈ slugImage c, isAlnum x = false := by
  rw [slugImage, other]
  refine ⟨fun none => keyImage_ne_nil c (List.map_eq_nil_iff.mp none), fun x mem => ?_⟩
  obtain ⟨_, _, rfl⟩ := List.mem_map.mp mem
  rfl

/-- The key of a text is made from one character after the other. -/
lemma map_keyChar_lowerAfter (before text : List Char) :
    (lowerAfter before text).map keyChar = text.flatMap keyImage := by
  induction text generalizing before with
  | nil => rfl
  | cons c rest ih =>
    rw [lowerAfter, List.map_append, ih, List.flatMap_cons]
    congr 1
    split
    case isTrue sigma =>
      -- Both small sigmas are beyond ASCII.
      subst sigma
      split <;> decide
    case isFalse => rfl

/-- Keys are equal exactly if what the characters leave in them is. -/
lemma queryKey_eq_iff : queryKey e = queryKey e' ↔
    (e.name.getD "").toList.flatMap keyImage = (e'.name.getD "").toList.flatMap keyImage := by
  have key (e : Endpoint) :
      queryKey e = String.ofList ((e.name.getD "").toList.flatMap keyImage) :=
    congrArg String.ofList (map_keyChar_lowerAfter [] _)
  rw [key, key, String.ofList_inj]

/-! ## Hooks -/

/-- A word is capitalised the same in lower case. -/
lemma capitalised_lower (word : List Char) :
    capitalised (word.map Char.toLower) = capitalised word := by
  cases word with
  | nil => rfl
  | cons c rest =>
    rw [List.map_cons, capitalised, capitalised, Char.toUpper_toLower_eq_toUpper, List.map_map]
    exact congrArg _ (List.map_congr_left fun x _ => Char.toLower_toLower_eq_toLower x)

/-- The words of a slug are those of the text, in lower case. -/
lemma words_slug (text : List Char) :
    words (text.flatMap slugImage) = (words text).map (List.map Char.toLower) := by
  have wanted (c : Char) (alnum : isAlnum c = true) :
      slugImage c = [c.toLower] ∧ isAlnum c.toLower = true :=
    ⟨slugImage_alnum alnum, (isAlnum_cased alnum).2⟩
  exact runs_flatMap wanted (fun _ other => slugImage_other other) text

/-- A text in PascalCase can be made from its slug. -/
lemma pascalChars_slug (text : List Char) :
    pascalChars (text.flatMap slugImage) = pascalChars text := by
  rw [pascalChars, words_slug, List.flatMap_map, pascalChars]
  exact List.flatMap_congr fun word _ => capitalised_lower word

/-- Hooks have one name exactly if their words, capitalised, are the same text. -/
lemma queryHook_eq_iff : queryHook e = queryHook e' ↔
    pascalChars (e.name.getD "").toList = pascalChars (e'.name.getD "").toList := by
  rw [queryHook, queryHook, String.append_right_inj, base, base, pascal, pascal, String.ofList_inj]

/-- The two letters in a text, with their places. -/
def foreignFrom (place : Nat) (text : List Char) : List (Char × Nat) :=
  (text.zipIdx place).filter fun e => isForeign e.1

/-- A foreign letter is listed with its place. -/
lemma foreignFrom_foreign (place : Nat) (text : List Char) (foreign : isForeign c = true) :
    foreignFrom place (c :: text) = (c, place) :: foreignFrom (place + 1) text := by
  unfold foreignFrom
  exact List.filter_cons_of_pos foreign

/-- Any other character is passed over. -/
lemma foreignFrom_native (place : Nat) (text : List Char) (native : isForeign c = false) :
    foreignFrom place (c :: text) = foreignFrom (place + 1) text := by
  unfold foreignFrom
  exact List.filter_cons_of_neg (by simpa using native)

/-- A letter at the first place stands at none of the later ones. -/
lemma foreignFrom_ne_cons (place : Nat) (text : List Char) (later : List (Char × Nat)) :
    foreignFrom (place + 1) text ≠ (c, place) :: later := by
  intro same
  have mem : (c, place) ∈ foreignFrom (place + 1) text := same ▸ List.mem_cons_self
  have := List.le_snd_of_mem_zipIdx (List.mem_filter.mp mem).1
  omega

/-- Two texts with one key have one slug if the two letters are at the same places. -/
lemma slug_eq_of_places {a b : List Char} {place : Nat}
    (letters : foreignFrom place a = foreignFrom place b)
    (same : a.flatMap keyImage = b.flatMap keyImage) :
    a.flatMap slugImage = b.flatMap slugImage := by
  induction a generalizing b place with
  | nil =>
    cases b with
    | nil => rfl
    | cons c b => exact absurd (List.append_eq_nil_iff.mp same.symm).1 (keyImage_ne_nil c)
  | cons c a ih =>
    cases b with
    | nil => exact absurd (List.append_eq_nil_iff.mp same).1 (keyImage_ne_nil c)
    | cons d b =>
      rw [List.flatMap_cons, List.flatMap_cons] at same ⊢
      cases here : isForeign c with
      -- Both characters are foreign, so they are equal, or the places differ.
      | true =>
        rw [foreignFrom_foreign place a here] at letters
        cases there : isForeign d with
        | true =>
          rw [foreignFrom_foreign place b there] at letters
          obtain ⟨first, later⟩ := List.cons.inj letters
          obtain rfl := (Prod.mk.inj first).1
          rw [ih later (List.append_cancel_left same)]
        | false =>
          rw [foreignFrom_native place b there] at letters
          exact absurd letters.symm (foreignFrom_ne_cons place b _)
      | false =>
        rw [foreignFrom_native place a here] at letters
        cases there : isForeign d with
        | true =>
          rw [foreignFrom_foreign place b there] at letters
          exact absurd letters (foreignFrom_ne_cons place a _)
        | false =>
          rw [foreignFrom_native place b there] at letters
          -- A native character has one character in the key, which is the one in the slug.
          obtain ⟨x, image, slug, _⟩ := keyImage_native here
          obtain ⟨y, image', slug', _⟩ := keyImage_native there
          rw [image, image'] at same
          obtain ⟨rfl, rest⟩ := List.cons.inj same
          rw [slug, slug', ih letters rest]

/-! ## Letters in a key -/

/-- Capitalising keeps the number of characters. -/
lemma length_capitalised (word : List Char) : (capitalised word).length = word.length := by
  cases word with
  | nil => rfl
  | cons c rest => rw [capitalised, List.length_cons, List.length_map, List.length_cons]

/-- Of a name as many characters are kept as it has letters and digits. -/
lemma length_pascalChars (text : List Char) :
    (pascalChars text).length = text.countP isAlnum := by
  rw [pascalChars, List.length_flatMap, List.countP_eq_length_filter, ← flatten_runs,
    List.length_flatten]
  simp only [length_capitalised]
  rfl

/-- How many characters of the key are letters and digits: those of the name, and the foreign
letters. -/
lemma countP_keyImage (c : Char) :
    (keyImage c).countP isKeyChar =
      (if isAlnum c then 1 else 0) + if isForeign c then 1 else 0 := by
  cases foreign : isForeign c with
  | true =>
    have alnum : isAlnum c = false := by
      rcases isForeign_iff.mp foreign with rfl | rfl <;> rfl
    rw [alnum]
    rcases keyImage_foreign foreign with image | image <;> rw [image] <;> rfl
  | false =>
    obtain ⟨x, image, _, letter⟩ := keyImage_native foreign
    rw [image, List.countP_singleton, letter]
    rfl

/-- Of the letters and digits in a key each stands for one of the text or for one of the two
letters. -/
lemma countP_key (text : List Char) :
    (text.flatMap keyImage).countP isKeyChar = text.countP isAlnum + text.countP isForeign := by
  induction text with
  | nil => rfl
  | cons c rest ih =>
    rw [List.flatMap_cons, List.countP_append, countP_keyImage, ih, List.countP_cons,
      List.countP_cons]
    omega

/-- With foreign letters at the same places one key means one hook. -/
lemma queryHook_eq_of_places (same : queryKey e = queryKey e')
    (letters : foreignFrom 0 (e.name.getD "").toList = foreignFrom 0 (e'.name.getD "").toList) :
    queryHook e = queryHook e' := by
  rw [queryHook_eq_iff, ← pascalChars_slug, slug_eq_of_places letters (queryKey_eq_iff.mp same),
    pascalChars_slug]

/-- With one key and one hook there are as many foreign letters in either name. -/
lemma countP_isForeign_eq (same : queryKey e = queryKey e') (hook : queryHook e = queryHook e') :
    (e.name.getD "").toList.countP isForeign = (e'.name.getD "").toList.countP isForeign := by
  have keys := congrArg (List.countP isKeyChar) (queryKey_eq_iff.mp same)
  have hooks := congrArg List.length (queryHook_eq_iff.mp hook)
  rw [countP_key, countP_key] at keys
  rw [length_pascalChars, length_pascalChars] at hooks
  omega

/-- There are no foreign letters exactly if none is counted. -/
lemma foreignFrom_eq_nil_iff {place : Nat} {text : List Char} :
    foreignFrom place text = [] ↔ text.countP isForeign = 0 := by
  induction text generalizing place with
  | nil => simp [foreignFrom]
  | cons c rest ih =>
    cases foreign : isForeign c with
    | true => simp [foreignFrom_foreign place rest foreign, foreign]
    | false => simp [foreignFrom_native place rest foreign, foreign, ih]

/-- The two letters in an endpoint's name, with their places. -/
def foreignLetters (e : Endpoint) : List (Char × Nat) :=
  foreignFrom 0 (e.name.getD "").toList

/-- Two queries that are cached under one key have hooks of one name if the letters that are ASCII
in lower case only stand at the same places of their names. Where one name has no such letter that
is needed: the hooks are called differently as soon as the other name has one. -/
theorem queryHook_eq_of_queryKey_eq (same : queryKey e = queryKey e') :
    (foreignLetters e = foreignLetters e' → queryHook e = queryHook e') ∧
      (foreignLetters e = [] → (queryHook e = queryHook e' ↔ foreignLetters e' = [])) := by
  refine ⟨queryHook_eq_of_places same, fun none => ⟨fun hook => ?_, fun none' => ?_⟩⟩
  · have counts := countP_isForeign_eq same hook
    rw [foreignFrom_eq_nil_iff.mp none] at counts
    exact foreignFrom_eq_nil_iff.mpr counts.symm
  · exact queryHook_eq_of_places same (none.trans none'.symm)

/-- Names that differ in case and punctuation have one key and one hook. -/
theorem queryHook_eq_of_queryKey_eq_getUsers :
    queryKey (.named "GET" "Get Users\u212a") = queryKey (.named "GET" "get-uSERS\u212a") ∧
      queryHook (.named "GET" "Get Users\u212a") = queryHook (.named "GET" "get-uSERS\u212a") := by
  have same :
      queryKey (.named "GET" "Get Users\u212a") = queryKey (.named "GET" "get-uSERS\u212a") := by
    decide +kernel
  exact ⟨same, (queryHook_eq_of_queryKey_eq same).1 (by decide +kernel)⟩

/-- The sign for kelvins is a letter in the key only, so that two queries share a key. -/
theorem queryKey_eq_kelvin :
    (Endpoint.named "GET" "k").isQuery = true ∧ (Endpoint.named "GET" "\u212a").isQuery = true ∧
      queryKey (.named "GET" "k") = queryKey (.named "GET" "\u212a") ∧
      queryHook (.named "GET" "k") ≠ queryHook (.named "GET" "\u212a") := by
  decide +kernel

end Naming

end ClientSynth
