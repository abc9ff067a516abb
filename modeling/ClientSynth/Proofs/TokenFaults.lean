import Mathlib.Data.List.Basic
import ClientSynth.Yaml.Node

/-!
# Faults of YAML tokens and nodes

What a text can be refused for while it is cut into tokens (`Yaml.IsLexical`): it breaks a rule of
the format, a version has too many digits, or an escape has a code beyond all characters. Building
nodes from tokens adds broken rules only (`Yaml.lexes_ofText?`). `Fails`, `Ends` and `Keeps` say for
what reasons a step may fail, and what is true after it when it does not.

The three notions have rules for everything that the readers are built with, results, faults, one
step after another, conditions and loops, tagged for `simp` where they are equivalences. A reader is
then handled by unfolding it and applying the rules, and readers that call each other by induction
on the depth that is left, all at once (`Build.BuildsNodes`).
-/

namespace ClientSynth.Yaml

variable {α β : Type} {P : Fault → Prop}

/-! ## Steps that fail -/

/-- A step fails for some reasons only. -/
def Fails (P : Fault → Prop) (o : Except Fault α) : Prop :=
  ∀ fault, o = .error fault → P fault

section Fails

variable {o : Except Fault α} {fault : Fault}

@[simp] lemma fails_ok (a : α) : Fails P (.ok a) := nofun

/-- A fault may occur if it is one of those in question. -/
@[simp] lemma fails_error_iff : Fails P (.error fault : Except Fault α) ↔ P fault :=
  ⟨fun h => h fault rfl, fun h _ eq => Except.error.inj eq ▸ h⟩

/-- A fault that is thrown may occur if it is one of those in question. -/
@[simp] lemma fails_throw_iff : Fails P (throw fault : Except Fault α) ↔ P fault :=
  fails_error_iff

@[simp] lemma fails_map_iff {f : α → β} : Fails P (o.map f) ↔ Fails P o := by
  cases o with
  | ok a => exact iff_of_true (fails_ok _) (fails_ok a)
  | error fault => exact fails_error_iff.trans fails_error_iff.symm

@[simp] lemma fails_fmap_iff {f : α → β} : Fails P (f <$> o) ↔ Fails P o :=
  fails_map_iff

/-- Two steps may fail as the first does, or as the second does after a result of the first. -/
@[simp] lemma fails_bind_iff {k : α → Except Fault β} :
    Fails P (o >>= k) ↔ Fails P o ∧ ∀ a, o = .ok a → Fails P (k a) := by
  cases o with
  | ok a =>
    refine ⟨fun h => ⟨fails_ok a, fun b eq => Except.ok.inj eq ▸ h⟩, fun h => h.2 a rfl⟩
  | error fault =>
    exact ⟨fun h => ⟨fails_error_iff.mpr (h fault rfl), nofun⟩,
      fun h => fails_error_iff.mpr (fails_error_iff.mp h.1)⟩

@[simp] lemma fails_ite_iff {c : Prop} [Decidable c] {o o' : Except Fault α} :
    Fails P (if c then o else o') ↔ (c → Fails P o) ∧ (¬c → Fails P o') := by
  split <;> simp [*]

/-- A list may fail as its elements do. -/
lemma fails_mapM {f : α → Except Fault β} (h : ∀ a, Fails P (f a)) (as : List α) :
    Fails P (as.mapM f) := by
  induction as with
  | nil => exact fails_ok _
  | cons a as ih => simp [List.mapM_cons, h, ih]

end Fails

/-- A step fails for some reasons only, and else ends well. -/
def Ends (Q : α → Prop) (P : Fault → Prop) (o : Except Fault α) : Prop :=
  Fails P o ∧ ∀ a, o = .ok a → Q a

namespace Ends

variable {Q : α → Prop} {R : β → Prop} {o : Except Fault α}

/-- A result ends well if it is as it should be. -/
lemma ok {a : α} (h : Q a) : Ends Q P (.ok a) :=
  ⟨fails_ok a, by rintro _ ⟨⟩; exact h⟩

/-- A fault ends well if it is one of those in question. -/
lemma error {fault : Fault} (h : P fault) : Ends Q P (.error fault) :=
  ⟨fails_error_iff.mpr h, nofun⟩

/-- A step ends well after one that ends well. -/
lemma bind {k : α → Except Fault β} (first : Ends Q P o) (later : ∀ a, Q a → Ends R P (k a)) :
    Ends R P (o >>= k) := by
  cases o with
  | ok a => exact later a (first.2 a rfl)
  | error fault => exact error (first.1 fault rfl)

/-- What ends with some faults ends with weaker ones. -/
lemma mono {P' : Fault → Prop} (h : Ends Q P o) (weaker : ∀ fault, P fault → P' fault) :
    Ends Q P' o :=
  ⟨fun fault eq => weaker fault (h.1 fault eq), h.2⟩

/-- What is made of a good result is a good one. -/
lemma map {f : α → β} (h : Ends Q P o) (later : ∀ a, Q a → R (f a)) : Ends R P (o.map f) :=
  bind h fun a good => ok (later a good)

end Ends

/-! ## Steps with a state -/

section Keeps

variable {σ : Type} {I : σ → Prop} {x : StateT σ (Except Fault) α}

/-- A step keeps what is true of the state, and fails for some reasons only. -/
def Keeps (I : σ → Prop) (P : Fault → Prop) (x : StateT σ (Except Fault) α) : Prop :=
  ∀ s, I s → Ends (fun p => I p.2) P (x s)

namespace Keeps

/-- Giving a result keeps the state as it is. -/
lemma pure (a : α) : Keeps I P (Pure.pure a : StateT σ (Except Fault) α) :=
  fun _ holds => .ok holds

/-- Throwing one of the faults in question leaves no state. -/
lemma throw {fault : Fault} (h : P fault) :
    Keeps I P (MonadExcept.throw fault : StateT σ (Except Fault) α) :=
  fun _ _ => .error h

/-- Nothing is done after a step that fails. -/
lemma throw_bind {fault : Fault} {k : α → StateT σ (Except Fault) β} (h : P fault) :
    Keeps I P ((MonadExcept.throw fault : StateT σ (Except Fault) α) >>= k) :=
  fun _ _ => .error h

/-- Two steps keep what each of them keeps. -/
lemma bind {k : α → StateT σ (Except Fault) β} (first : Keeps I P x)
    (later : ∀ a, Keeps I P (k a)) : Keeps I P (x >>= k) :=
  fun s holds => .bind (first s holds) fun p kept => later p.1 p.2 kept

/-- What is made of a result keeps what was kept. -/
lemma map {f : α → β} (h : Keeps I P x) : Keeps I P (StateT.map f x) :=
  bind h fun a => pure (f a)

/-- What is done with the state may use what is true of it. -/
lemma get_bind {k : σ → StateT σ (Except Fault) β} (h : ∀ s, I s → Keeps I P (k s)) :
    Keeps I P (MonadState.get >>= k) :=
  fun s holds => h s holds s holds

/-- A state that is put has to be a good one. -/
lemma set {s : σ} (h : I s) : Keeps I P (MonadStateOf.set s : StateT σ (Except Fault) PUnit) :=
  fun _ _ => .ok h

/-- A change keeps what it leads from good states to. -/
lemma update {f : σ → σ} (h : ∀ s, I s → I (f s)) :
    Keeps I P (modify f : StateT σ (Except Fault) PUnit) :=
  fun s holds => .ok (h s holds)

/-- A step that does not look at the state keeps it. -/
lemma lift {o : Except Fault α} (h : Fails P o) :
    Keeps I P (liftM o : StateT σ (Except Fault) α) := by
  intro s holds
  cases o with
  | ok a => exact .ok holds
  | error fault => exact .error (h fault rfl)

/-- What is done after a step without a state may use what the step gives. -/
lemma lift_bind {Q : α → Prop} {o : Except Fault α} {k : α → StateT σ (Except Fault) β}
    (first : Ends Q P o) (later : ∀ a, Q a → Keeps I P (k a)) :
    Keeps I P ((liftM o : StateT σ (Except Fault) α) >>= k) := by
  intro s holds
  cases o with
  | ok a => exact later a (first.2 a rfl) s holds
  | error fault => exact .error (first.1 fault rfl)

/-- A choice keeps what either branch keeps. -/
lemma ite {c : Prop} [Decidable c] {y : StateT σ (Except Fault) α} (yes : c → Keeps I P x)
    (no : ¬c → Keeps I P y) : Keeps I P (if c then x else y) := by
  split
  · exact yes ‹_›
  · exact no ‹_›

/-- A loop over a list keeps what each step keeps. -/
lemma mapM {f : α → StateT σ (Except Fault) β} (h : ∀ a, Keeps I P (f a)) (as : List α) :
    Keeps I P (as.mapM f) := by
  induction as with
  | nil => exact pure _
  | cons a as ih =>
    rw [List.mapM_cons]
    exact bind (h a) fun _ => bind ih fun _ => pure _

/-- A loop without results keeps what each step keeps. -/
lemma forM {f : α → StateT σ (Except Fault) PUnit} (h : ∀ a, Keeps I P (f a)) (as : List α) :
    Keeps I P (as.forM f) := by
  induction as with
  | nil => exact pure _
  | cons a as ih => exact bind (h a) fun _ => ih

/-- A fold keeps what each step keeps. -/
lemma foldlM {f : β → α → StateT σ (Except Fault) β} (h : ∀ b a, Keeps I P (f b a)) (b : β)
    (as : List α) : Keeps I P (as.foldlM f b) := by
  induction as generalizing b with
  | nil => exact pure _
  | cons a as ih => exact bind (h b a) fun b => ih b

end Keeps

end Keeps

/-! ## Cutting a text into tokens -/

/-- The reasons that a text is not cut into tokens for. -/
def IsLexical : Fault → Prop
  | .malformed => True
  | .tooManyDigits digits => Text.maxDigits < digits
  | .badCharacter code => 0x10FFFF < code
  | _ => False

/-- A broken rule of the format is a lexical fault. -/
@[simp] lemma isLexical_malformed : IsLexical .malformed := trivial

/-- A step of cutting a text into tokens fails for the reasons that there are for it. -/
abbrev Lexes (o : Except Fault α) : Prop :=
  Fails IsLexical o

section Scalars

variable (c : Cursor) (n : Nat)

/-- The character of a code is found, or the code is beyond all characters. -/
@[simp] lemma lexes_codeChar : Lexes (codeChar n) := by
  rw [codeChar]
  split
  case isTrue beyond => exact fails_error_iff.mpr beyond
  case isFalse => exact fails_ok _

@[simp] lemma lexes_quotedBreaks : Lexes (quotedBreaks c n) := by
  induction n generalizing c with
  | zero => exact fails_ok _
  | succ n ih =>
    rw [quotedBreaks]
    split
    · simp
    · dsimp only
      split <;> simp [ih]

@[simp] lemma lexes_quotedGap : Lexes (quotedGap c) := by
  unfold quotedGap
  dsimp only
  split <;> simp

@[simp] lemma lexes_quotedEscape : Lexes (quotedEscape c) := by
  unfold quotedEscape
  split
  case h_1 => simp
  case h_2 => split <;> simp
  case h_3 => split <;> simp

@[simp] lemma lexes_quotedFrom (double : Bool) : Lexes (quotedFrom double c n) := by
  induction n generalizing c with
  | zero => simp [quotedFrom]
  | succ n ih =>
    rw [quotedFrom]
    split <;> simp [ih]

@[simp] lemma lexes_quoted (double : Bool) : Lexes (quoted double c) :=
  lexes_quotedFrom _ _ _

@[simp] lemma lexes_indentation? : Lexes (indentation? c) := by
  unfold indentation?
  split <;> simp

@[simp] lemma lexes_blockMarks : Lexes (blockMarks c) := by
  unfold blockMarks
  split <;> simp only [fails_bind_iff, lexes_indentation?, true_and]
  · rintro (_ | _) _ <;> simp
  · rintro (_ | _) _
    · simp
    · dsimp only
      split <;> simp

@[simp] lemma lexes_skipIgnoredLine : Lexes (skipIgnoredLine c) := by
  simp [skipIgnoredLine]

@[simp] lemma lexes_block (folded : Bool) (level : Int) : Lexes (block folded level c) := by
  simp [block]

end Scalars

section Tokens

variable (c : Cursor) (n : Nat)

/-- The number of a version is read, or it has too many digits. -/
@[simp] lemma lexes_directiveNumber : Lexes (directiveNumber c) := by
  simp only [directiveNumber]
  split
  · simp
  split
  case isTrue many => exact fails_error_iff.mpr many
  case isFalse => simp

@[simp] lemma lexes_percentBytes : Lexes (percentBytes c n) := by
  induction n generalizing c with
  | zero => exact fails_ok _
  | succ n ih =>
    rw [percentBytes]
    split
    · split
      · split <;> simp [ih]
      · simp
    · simp

@[simp] lemma lexes_tagPartsFrom : Lexes (tagPartsFrom c n) := by
  induction n generalizing c with
  | zero => exact fails_ok _
  | succ n ih =>
    simp only [tagPartsFrom, fails_ite_iff, fails_bind_iff, lexes_percentBytes, true_and, fails_ok,
      implies_true, and_true]
    rintro _ ⟨bytes, after⟩ _
    dsimp only
    split <;> simp [ih]

@[simp] lemma lexes_tagPart : Lexes (tagPart c) := by
  simp [tagPart]

@[simp] lemma lexes_tagHandle : Lexes (tagHandle c) := by
  simp [tagHandle]

@[simp] lemma lexes_directive : Lexes (directive c) := by
  simp [directive]

@[simp] lemma lexes_anchorName : Lexes (anchorName c) := by
  simp [anchorName]

@[simp] lemma lexes_tag : Lexes (tag c) := by
  simp [tag]

end Tokens

/-! ## Reading the tokens of a text -/

namespace Reading

variable (r : Reading)

@[simp] lemma lexes_dropStale : Lexes r.dropStale := by
  simp [dropStale]

@[simp] lemma lexes_dropPlace : Lexes r.dropPlace := by
  simp [dropPlace]

@[simp] lemma lexes_savePlace : Lexes r.savePlace := by
  simp [savePlace]

/-- A token by itself fails as its reader does. -/
@[simp] lemma lexes_fetchSeparate {read : Cursor → Except Fault (Token × Cursor)}
    (h : ∀ c, Lexes (read c)) : Lexes (r.fetchSeparate read) := by
  simp [fetchSeparate, h]

/-- A token that starts something fails as its reader does. -/
@[simp] lemma lexes_fetchStart {read : Cursor → Except Fault (Token × Cursor)}
    (h : ∀ c, Lexes (read c)) : Lexes (r.fetchStart read) := by
  simp [fetchStart, h]

@[simp] lemma lexes_fetchValue : Lexes r.fetchValue := by
  unfold fetchValue
  split <;> simp

/-- The next token is read by the character that it starts with. -/
@[simp] lemma lexes_fetch (c : Char) : Lexes (r.fetch c) := by
  simp [fetch, fetchOpening, fetchClosing, fetchFlowEntry, fetchBlockEntry, fetchKey,
    fetchBlockScalar, fetchPlain]

@[simp] lemma lexes_step : Lexes r.step := by
  simp only [step, fails_bind_iff, lexes_dropStale, true_and]
  intro r _
  split <;> simp

/-- The fault at which the tokens end. -/
lemma isLexical_finish (n : Nat) {ts : List Token} {fault : Fault}
    (h : r.finish n = (ts, some fault)) : IsLexical fault := by
  induction n generalizing r with
  | zero =>
    cases h
    trivial
  | succ n ih =>
    rw [finish] at h
    split at h
    case h_1 eq =>
      cases h
      exact r.lexes_step _ eq
    case h_2 => exact ih _ h
    case h_3 => cases h

end Reading

/-- What stops a text from being cut into tokens is a lexical fault. -/
lemma isLexical_tokens {text : List Char} {ts : List Token} {fault : Fault}
    (h : tokens text = (ts, some fault)) : IsLexical fault := by
  unfold tokens at h
  split at h
  · exact Reading.isLexical_finish _ _ h
  · cases h
    trivial

/-! ## Building nodes -/

namespace Build

variable {stop : Fault} {t : Token} {x : Build α}

/-- A step of building nodes fails where a rule is broken, or at the end of the tokens. -/
abbrev Builds (stop : Fault) (x : Build α) : Prop :=
  Keeps (fun s => s.stop = stop) (fun fault => fault = .malformed ∨ fault = stop) x

/-- A broken rule is one of these faults. -/
lemma builds_malformed : Builds stop (malformed : Build α) :=
  .throw (.inl rfl)

/-- Looking at the next token fails where there is none. -/
lemma builds_peek : Builds stop peek := by
  refine .get_bind fun s holds => ?_
  split
  · exact .throw (.inr holds)
  · exact .pure _

lemma builds_advance : Builds stop advance :=
  .update fun _ => id

/-- Expecting a token fails where another one is next. -/
lemma builds_expect : Builds stop (expect t) :=
  .bind builds_peek fun _ => .ite (fun _ => builds_advance) fun _ => builds_malformed

/-- Accepting a token fails only where there is none at all. -/
lemma builds_accept : Builds stop (accept t) :=
  .bind builds_peek fun _ => .ite (fun _ => .bind builds_advance fun _ => .pure _) fun _ => .pure _

lemma builds_isNext {ts : List Token} : Builds stop (isNext ts) :=
  .bind builds_peek fun _ => .pure _

lemma builds_properties : Builds stop properties := by
  refine .bind builds_peek fun next => ?_
  split
  case h_1 | h_2 =>
    refine .bind builds_advance fun _ => .bind builds_peek fun _ => ?_
    split
    · exact .bind builds_advance fun _ => .pure _
    · exact .pure _
  case h_3 => exact .pure _

/-- A tag is completed, unless its handle is unknown, which breaks a rule. -/
lemma builds_fullTag (written : Option (Option String × String)) :
    Builds stop (fullTag written) := by
  unfold fullTag
  split
  · exact .pure _
  · exact .pure _
  · refine .get_bind fun _ _ => ?_
    split
    · exact builds_malformed
    · exact .pure _

lemma builds_add (anchor : Option String) (node : Node) : Builds stop (add anchor node) :=
  .get_bind fun _ holds => .bind (.set holds) fun _ => .pure _

lemma builds_addCollection {content : Build Content} (h : Builds stop content)
    (anchor : Option String) (tag : Tag) : Builds stop (addCollection anchor tag content) :=
  .bind (builds_add _ _) fun _ => .bind h fun _ => .bind (.update fun _ => id) fun _ => .pure _

/-- An anchor that is there already breaks a rule. -/
lemma builds_newAnchor (name : Option String) : Builds stop (newAnchor name) := by
  unfold newAnchor
  split
  · exact .pure _
  · exact .get_bind fun _ _ => .ite (fun _ => builds_malformed) fun _ => .pure _

/-- An alias without an anchor breaks a rule. -/
lemma builds_aliased (name : String) : Builds stop (aliased name) := by
  refine .get_bind fun _ _ => ?_
  split
  · exact .pure _
  · exact builds_malformed

lemma builds_addUnwritten (anchor : Option String) (written : Option (Option String × String))
    (tag : Option String) : Builds stop (addUnwritten anchor written tag) :=
  .ite (fun _ => builds_malformed) fun _ => builds_add _ _

/-- The steps that read nodes with so much fuel. -/
structure BuildsNodes (stop : Fault) (n : Nat) : Prop where
  node : ∀ isBlock isIndentless, Builds stop (node isBlock isIndentless n)
  nodeUnless : ∀ ends isBlock isIndentless, Builds stop (nodeUnless ends isBlock isIndentless n)
  blockItems : Builds stop (blockItems n)
  indentlessItems : Builds stop (indentlessItems n)
  blockPairs : Builds stop (blockPairs n)
  flowPair : ∀ ends, Builds stop (flowPair ends n)
  flowItems : ∀ isFirst, Builds stop (flowItems isFirst n)
  flowPairs : ∀ isFirst, Builds stop (flowPairs isFirst n)

section BuildsNodes

variable {n : Nat} (less : BuildsNodes stop n)
include less

/-- A node is built from nodes at a smaller depth. -/
lemma builds_node (isBlock isIndentless : Bool) :
    Builds stop (node isBlock isIndentless (n + 1)) := by
  unfold node
  refine .bind builds_peek fun _ => ?_
  split
  · exact .bind builds_advance fun _ => builds_aliased _
  refine .bind builds_properties fun (anchor, written) => .bind (builds_fullTag written) fun tag =>
    .bind builds_peek fun _ => .bind (builds_newAnchor anchor) fun _ => ?_
  have unwritten : Builds stop (addUnwritten anchor written tag) :=
    builds_addUnwritten anchor written tag
  split
  case h_1 =>
    exact .ite (fun _ => builds_addCollection (.map less.indentlessItems) _ _) fun _ => unwritten
  case h_2 => exact .bind builds_advance fun _ => builds_add _ _
  case h_3 =>
    exact .bind builds_advance fun _ => builds_addCollection (.map (less.flowItems true)) _ _
  case h_4 =>
    exact .bind builds_advance fun _ => builds_addCollection (.map (less.flowPairs true)) _ _
  case h_5 =>
    exact .ite (fun _ => .bind builds_advance fun _ =>
      builds_addCollection (.map less.blockItems) _ _) fun _ => unwritten
  case h_6 =>
    exact .ite (fun _ => .bind builds_advance fun _ =>
      builds_addCollection (.map less.blockPairs) _ _) fun _ => unwritten
  case h_7 => exact unwritten

lemma builds_nodeUnless (ends : List Token) (isBlock isIndentless : Bool) :
    Builds stop (nodeUnless ends isBlock isIndentless (n + 1)) := by
  unfold nodeUnless
  exact .bind builds_isNext fun _ => .ite (fun _ => builds_add _ _) fun _ => less.node _ _

lemma builds_blockItems : Builds stop (blockItems (n + 1)) := by
  unfold blockItems
  exact .bind builds_accept fun _ => .ite
    (fun _ => .bind (less.nodeUnless _ _ _) fun _ => .bind less.blockItems fun _ => .pure _)
    fun _ => .bind builds_expect fun _ => .pure _

lemma builds_indentlessItems : Builds stop (indentlessItems (n + 1)) := by
  unfold indentlessItems
  exact .bind builds_accept fun _ => .ite
    (fun _ => .bind (less.nodeUnless _ _ _) fun _ => .bind less.indentlessItems fun _ => .pure _)
    fun _ => .pure _

lemma builds_blockPairs : Builds stop (blockPairs (n + 1)) := by
  have later (key value : Nat) : Builds stop (do pure ((key, value) :: (← blockPairs n))) :=
    .bind less.blockPairs fun _ => .pure _
  unfold blockPairs
  refine .bind builds_accept fun _ => .ite (fun _ => ?_) fun _ =>
    .bind builds_expect fun _ => .pure _
  exact .bind (less.nodeUnless _ _ _) fun key => .bind builds_accept fun _ => .ite
    (fun _ => .bind (less.nodeUnless _ _ _) (later key)) fun _ =>
    .bind (builds_add _ _) (later key)

lemma builds_flowPair (ends : List Token) : Builds stop (flowPair ends (n + 1)) := by
  unfold flowPair
  exact .bind (less.nodeUnless _ _ _) fun key => .bind builds_accept fun _ => .ite
    (fun _ => .bind (less.nodeUnless _ _ _) fun _ => .pure _) fun _ =>
    .bind (builds_add _ _) fun _ => .pure _

lemma builds_flowItems (isFirst : Bool) : Builds stop (flowItems isFirst (n + 1)) := by
  have later (first : Nat) : Builds stop (do pure (first :: (← flowItems false n))) :=
    .bind (less.flowItems false) fun _ => .pure _
  have item : Builds stop (do
      if ← accept .key then
        let pair := flowPair [.flowEntry, .flowSequenceEnd] n
        let first ← addCollection none .mapping do pure (.mapping [← pair])
        pure (first :: (← flowItems false n))
      else if ← accept .flowSequenceEnd then pure []
      else
        let first ← node false false n
        pure (first :: (← flowItems false n))) :=
    .bind builds_accept fun _ => .ite
      (fun _ => .bind (builds_addCollection (.bind (less.flowPair _) fun _ => .pure _) _ _) later)
      fun _ => .bind builds_accept fun _ => .ite (fun _ => .pure _) fun _ =>
        .bind (less.node _ _) later
  unfold flowItems
  exact .bind builds_accept fun _ => .ite (fun _ => .pure _) fun _ => .ite
    (fun _ => .bind builds_expect fun _ => item) fun _ => item

lemma builds_flowPairs (isFirst : Bool) : Builds stop (flowPairs isFirst (n + 1)) := by
  have pair : Builds stop (do
      if ← accept .key then
        let first ← flowPair [.flowEntry, .flowMappingEnd] n
        pure (first :: (← flowPairs false n))
      else if ← accept .flowMappingEnd then pure []
      else
        let key ← node false false n
        pure ((key, ← addEmpty) :: (← flowPairs false n))) :=
    .bind builds_accept fun _ => .ite
      (fun _ => .bind (less.flowPair _) fun _ => .bind (less.flowPairs false) fun _ => .pure _)
      fun _ => .bind builds_accept fun _ => .ite (fun _ => .pure _) fun _ =>
        .bind (less.node _ _) fun _ => .bind (builds_add _ _) fun _ =>
        .bind (less.flowPairs false) fun _ => .pure _
  unfold flowPairs
  exact .bind builds_accept fun _ => .ite (fun _ => .pure _) fun _ => .ite
    (fun _ => .bind builds_expect fun _ => pair) fun _ => pair

end BuildsNodes

/-- Every node is read by steps with less fuel, and without fuel a rule counts as broken. -/
lemma buildsNodes (stop : Fault) (n : Nat) : BuildsNodes stop n := by
  induction n with
  | zero =>
    constructor <;> intros <;> exact builds_malformed
  | succ n less =>
    exact ⟨builds_node less, builds_nodeUnless less, builds_blockItems less,
      builds_indentlessItems less, builds_blockPairs less, builds_flowPair less,
      builds_flowItems less, builds_flowPairs less⟩

lemma builds_directives (hasVersion : Bool) (handles : List (String × String)) (n : Nat) :
    Builds stop (directives hasVersion handles n) := by
  induction n generalizing hasVersion handles with
  | zero => exact builds_malformed
  | succ n ih =>
    rw [directives]
    refine .bind builds_peek fun _ => ?_
    split
    · exact .bind builds_advance fun _ => .ite (fun _ => builds_malformed) fun _ => ih _ _
    · exact .bind builds_advance fun _ => .ite (fun _ => builds_malformed) fun _ => ih _ _
    · exact .bind builds_advance fun _ => ih _ _
    · exact .pure _

lemma builds_skipEnds (n : Nat) : Builds stop (skipEnds n) := by
  induction n with
  | zero => exact .pure _
  | succ n ih =>
    rw [skipEnds]
    exact .bind builds_accept fun _ => .ite (fun _ => ih) fun _ => .pure _

/-- A document is built, or there is a fault of one of these kinds. -/
lemma builds_document (fuel : Nat) : Builds stop (document fuel) := by
  have nodes := (buildsNodes stop fuel).node
  have ending (root : Nat) : Builds stop (do
      skipEnds fuel
      if (← peek) != .streamEnd then
        let _ ← directives false [] fuel
        malformed
      pure (some root)) :=
    .bind (builds_skipEnds fuel) fun _ => .bind builds_peek fun _ => .ite
      (fun _ => .bind (builds_directives _ _ _) fun _ => .bind builds_malformed fun _ => .pure _)
      fun _ => .pure _
  unfold document
  refine .bind builds_peek fun _ => .ite (fun _ => .pure _) fun _ => .ite (fun _ => ?_) fun _ =>
    .bind (nodes _ _) ending
  refine .bind (builds_directives _ _ _) fun _ => .bind (.update fun _ => id) fun _ =>
    .bind builds_expect fun _ => .bind builds_peek fun _ => .ite
      (fun _ => .bind (builds_add _ _) ending) fun _ => .bind (nodes _ _) ending

end Build

/-- A text without nodes breaks a rule of the format, or is not cut into tokens. -/
lemma lexes_ofText? (text : List Char) : Lexes (Graph.ofText? text) := by
  rcases eq : tokens text with ⟨ts, stop⟩
  simp only [Graph.ofText?, eq, fails_map_iff]
  have lexical : IsLexical (stop.getD .malformed) := by
    cases stop with
    | none => trivial
    | some fault => exact isLexical_tokens eq
  intro fault broken
  rcases (Build.builds_document _ _ rfl).1 fault broken with rfl | rfl
  · trivial
  · exact lexical

end ClientSynth.Yaml
