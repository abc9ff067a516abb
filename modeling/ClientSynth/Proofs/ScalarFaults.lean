import Mathlib.Data.List.Basic
import ClientSynth.Proofs.TokenFaults
import ClientSynth.Yaml.Content

/-!
# Faults of YAML scalars and nodes

What nodes that were read can still be refused for. A scalar can lack what its tag asks for
(`Tag.MayLack`), and a mapping can stand where a text is wanted. Merging changes pairs and makes
texts of some keys (`Nodes.Settled`), so that what a node lacks is lacking in the nodes as they were
written (`Graph.Lacks`, `Yaml.fails_parse`).

`Fails` says with which faults a computation may end. Each reader of scalars may only end with the
fault that its tag stands for; then the steps that work on nodes keep the tags and contents that
this depends on, up to what merging does to pairs and keys. `Reckons` is the invariant of the last
stage, which gives nodes their meanings: everything that it has learned, and every fault that it
ends with, is about the graph as it was settled.
-/

namespace ClientSynth.Yaml

variable {α β : Type}

/-! ## Scalars of a tag -/

/-- What the text of a scalar can be wrong in, by the tag of the scalar. -/
def Tag.MayLack : Tag → Fault → Prop
  | .bool, .badBool _ | .int, .badInteger _ _ | .int, .emptyNumber | .float, .badFloat _
  | .float, .emptyNumber | .float, .tooManyParts | .timestamp, .badTimestamp
  | .timestamp, .calendar _ | _, .malformed => True
  | .int, .tooManyDigits digits => Text.maxDigits < digits
  | _, _ => False

/-- A value that goes on without an end is no fault of a tag. -/
lemma Tag.not_mayLack_endless {tag : Tag} {isMapping : Bool} :
    ¬tag.MayLack (.endless isMapping) := by
  cases tag <;> exact id

section Texts

variable (text : List Char)

lemma fails_integerIn (base : Nat) : Fails (Tag.MayLack .int) (integerIn base text) := by
  simp only [integerIn]
  split
  case isTrue many => exact fails_error_iff.mpr many.2
  case isFalse =>
    split
    · exact fails_error_iff.mpr trivial
    · exact fails_ok _

lemma fails_integer : Fails (Tag.MayLack .int) (integer text) := by
  simp only [integer, fails_map_iff]
  unfold integerSize
  split
  case h_1 => exact fails_error_iff.mpr trivial
  case h_2 => exact fails_ok _
  case h_3 | h_4 | h_5 => exact fails_integerIn _ _
  case h_6 => exact fails_map_iff.mpr (fails_mapM (fun part => fails_integerIn part 10) _)

lemma fails_double : Fails (Tag.MayLack .float) (double text) := by
  unfold double
  split
  · exact fails_ok _
  · exact fails_error_iff.mpr trivial

/-- A number in sixties fails with faults of numbers only, as when it has too many parts. -/
lemma fails_sixties (parts : List Binary64) : Fails (Tag.MayLack .float) (sixties parts) := by
  simp only [sixties]
  split
  · exact fails_ok _
  · exact fails_error_iff.mpr trivial

lemma fails_numberSize (node : Nat) : Fails (Tag.MayLack .float) (numberSize node text) := by
  simp only [numberSize, fails_ite_iff, fails_ok, implies_true, true_and]
  intro _ _
  split
  · exact fails_map_iff.mpr (fails_double _)
  · simp [fails_mapM fails_double, fails_sixties]

lemma fails_number (node : Nat) : Fails (Tag.MayLack .float) (number node text) := by
  unfold number
  split
  · exact fails_error_iff.mpr trivial
  · exact fails_map_iff.mpr (fails_numberSize _ _)

/-- A truth value fails where its word is none of the known ones. -/
lemma fails_truth : Fails (Tag.MayLack .bool) (truth text) := by
  simp [truth, Tag.MayLack]

lemma fails_timestampScalar : Fails (Tag.MayLack .timestamp) (timestampScalar text) := by
  have calendar {α : Type} {o : Except CalendarFault α} :
      Fails (Tag.MayLack .timestamp) (o.mapError .calendar) := by
    cases o with
    | ok => exact fails_ok _
    | error => exact fails_error_iff.mpr trivial
  unfold timestampScalar
  split
  · exact fails_error_iff.mpr trivial
  · split
    · exact fails_map_iff.mpr calendar
    · exact fails_map_iff.mpr calendar

end Texts

/-- The text of a scalar stands for something, or lacks what its tag asks for. -/
lemma fails_tagScalar (tag : Tag) (node : Nat) (text : String) :
    Fails tag.MayLack (tag.scalar node text) := by
  cases tag <;> unfold Tag.scalar
  case bool => exact fails_map_iff.mpr (fails_truth _)
  case int => exact fails_map_iff.mpr (fails_integer _)
  case float => exact fails_map_iff.mpr (fails_number _ _)
  case timestamp => exact fails_timestampScalar _
  case binary =>
    dsimp only
    split
    · exact fails_ok _
    · exact fails_error_iff.mpr trivial
  case null | text => exact fails_ok _
  all_goals exact fails_error_iff.mpr trivial

/-! ## Nodes whose keys are settled -/

namespace Nodes

variable {nodes nodes' nodes'' : Nodes} {number : Nat}

/-- Where content was put it is found, and elsewhere nothing changes. -/
lemma node_put (nodes : Nodes) (number i : Nat) (content : Content) :
    (nodes.put number content).node i =
      if i = number ∧ i < nodes.size then { nodes.node i with content } else nodes.node i := by
  by_cases inside : i < nodes.toArray.size
  · by_cases same : number = i <;>
      simp [put, node, size, inside, Array.getElem_modify, same, eq_comm]
  · simp [put, node, size, inside]

/-- Putting content changes no tag. -/
lemma tag_put (nodes : Nodes) (number i : Nat) (content : Content) :
    ((nodes.put number content).node i).tag = (nodes.node i).tag := by
  rw [node_put]
  split <;> rfl

/-- Changing a tag changes no content. -/
lemma content_retag (nodes : Nodes) (number i : Nat) (tag : Tag) :
    ((nodes.retag number tag).node i).content = (nodes.node i).content := by
  by_cases inside : i < nodes.toArray.size
  · by_cases same : number = i <;> simp [retag, node, inside, Array.getElem_modify, same]
  · simp [retag, node, inside]

/-- A tag is changed at one node at most. -/
lemma tag_retag (nodes : Nodes) (number i : Nat) (tag : Tag) :
    ((nodes.retag number tag).node i).tag = (nodes.node i).tag ∨
      number = i ∧ ((nodes.retag number tag).node i).tag = tag := by
  by_cases inside : i < nodes.toArray.size
  · by_cases same : number = i <;> simp [retag, node, inside, Array.getElem_modify, same]
  · simp [retag, node, inside]

/-- What settling keys leaves of nodes: they hold what they held, but for the pairs of mappings, and
have the tags that they had, but for keys that became texts. -/
structure Settled (nodes nodes' : Nodes) : Prop where
  tag : ∀ i, (nodes'.node i).tag = (nodes.node i).tag ∨
    (nodes.node i).tag = .value ∧ (nodes'.node i).tag = .text
  isMapping : ∀ i, nodes'.isMapping i = nodes.isMapping i
  scalar : ∀ i text, (nodes'.node i).content = .scalar text → (nodes.node i).content = .scalar text

namespace Settled

lemma refl (nodes : Nodes) : nodes.Settled nodes :=
  ⟨fun _ => .inl rfl, fun _ => rfl, fun _ _ => id⟩

lemma trans (h : nodes.Settled nodes') (h' : nodes'.Settled nodes'') : nodes.Settled nodes'' where
  tag i := by
    rcases h'.tag i with eq | ⟨value, text⟩
    · rw [eq]
      exact h.tag i
    · rcases h.tag i with eq | ⟨_, text'⟩
      · exact .inr ⟨eq ▸ value, text⟩
      · rw [text'] at value
        cases value
  isMapping i := (h'.isMapping i).trans (h.isMapping i)
  scalar i text eq := h.scalar i text (h'.scalar i text eq)

/-- New pairs for a mapping. -/
lemma put (h : nodes.isMapping number = true) (pairs : List (Nat × Nat)) :
    nodes.Settled (nodes.put number (.mapping pairs)) where
  tag i := .inl (tag_put nodes number i _)
  isMapping i := by
    by_cases same : i = number ∧ i < nodes.size
    · rw [Nodes.isMapping, node_put, if_pos same, same.1, h]
    · rw [Nodes.isMapping, node_put, if_neg same, Nodes.isMapping]
  scalar i text eq := by
    rw [node_put] at eq
    split at eq
    · cases eq
    · exact eq

/-- A key `=` that becomes a text. -/
lemma retag (h : (nodes.node number).tag = .value) :
    nodes.Settled (nodes.retag number .text) where
  tag i := by
    rcases tag_retag nodes number i .text with same | ⟨rfl, text⟩
    · exact .inl same
    · exact .inr ⟨h, text⟩
  isMapping i := by rw [Nodes.isMapping, content_retag, Nodes.isMapping]
  scalar i text eq := by rwa [content_retag] at eq

end Settled

/-- Settling keys changes tags of keys only. -/
lemma settled_settleKeys (nodes : Nodes) (pairs : List (Nat × Nat)) :
    nodes.Settled (nodes.settleKeys pairs) := by
  unfold settleKeys
  induction pairs generalizing nodes with
  | nil => exact .refl nodes
  | cons p pairs ih =>
    rw [List.foldl_cons]
    refine Settled.trans ?_ (ih _)
    dsimp only
    split
    case isTrue value => exact .retag value
    case isFalse => exact .refl _

/-- Merging fails where a rule is broken, and else settles keys. -/
structure MergesWell (n : Nat) : Prop where
  into : ∀ number merged (nodes : Nodes), nodes.isMapping number = true →
    Ends nodes.Settled (· = .malformed) (mergeInto number merged nodes n)
  value : ∀ value (nodes : Nodes),
    Ends (fun p => nodes.Settled p.2) (· = .malformed) (mergeValue value nodes n)

section MergesWell

variable {n : Nat} (less : MergesWell n)
include less

/-- Merging pairs into a mapping settles nodes, or ends where the value is malformed. -/
lemma ends_mergeInto (merged : List (Nat × Nat)) (isMapping : nodes.isMapping number = true) :
    Ends nodes.Settled (· = .malformed) (mergeInto number merged nodes (n + 1)) := by
  unfold mergeInto
  dsimp only
  split
  case h_1 =>
    have keys := nodes.settled_settleKeys (nodes.pairs number)
    exact .ok (keys.trans (.put ((keys.isMapping number).trans isMapping) _))
  case h_2 value others _ =>
    have put := Settled.put isMapping others
    refine .bind (less.value value _) fun (front, nodes') settled => ?_
    have before := put.trans settled
    obtain ⟨fails, ends⟩ := less.into number (merged ++ front) nodes'
      ((before.isMapping number).trans isMapping)
    exact ⟨fails, fun _ eq => before.trans (ends _ eq)⟩

/-- The mappings of a sequence are merged one after the other. -/
lemma ends_mergeItems (items : List Nat) (front : List (Nat × Nat)) (nodes : Nodes) :
    Ends (fun p => nodes.Settled p.2) (· = .malformed)
      (items.foldlM (fun (front, (nodes : Nodes)) item =>
        if nodes.isMapping item then
          (mergeInto item [] nodes n).map fun nodes => (nodes.pairs item ++ front, nodes)
        else .error .malformed) (front, nodes)) := by
  induction items generalizing front nodes with
  | nil => exact .ok (.refl nodes)
  | cons item items ih =>
    rw [List.foldlM_cons]
    refine .bind (Q := fun p => nodes.Settled p.2) ?_ fun (front, nodes') settled => ?_
    · dsimp only
      split
      case isTrue isMapping => exact .map (less.into item [] nodes isMapping) fun _ => id
      case isFalse => exact .error rfl
    · obtain ⟨fails, ends⟩ := ih front nodes'
      exact ⟨fails, fun _ eq => settled.trans (ends _ eq)⟩

/-- Merging a value settles nodes, or ends where the value is malformed. -/
lemma ends_mergeValue (value : Nat) (nodes : Nodes) :
    Ends (fun p => nodes.Settled p.2) (· = .malformed) (mergeValue value nodes (n + 1)) := by
  unfold mergeValue
  split
  case h_1 => exact .error rfl
  case h_2 pairs eq =>
    exact .map (less.into value [] nodes (by rw [isMapping, eq])) fun _ => id
  case h_3 items _ => exact ends_mergeItems less items [] nodes

end MergesWell

/-- Merging is settling, by induction on the depth that is left. -/
lemma mergesWell (n : Nat) : MergesWell n := by
  induction n with
  | zero => exact ⟨fun _ _ nodes _ => .ok (.refl nodes), fun _ nodes => .ok (.refl nodes)⟩
  | succ n less =>
    exact ⟨fun _ merged _ => ends_mergeInto less merged, ends_mergeValue less⟩

/-- The text of a node is that of a scalar; only a mapping can fail to come to one. -/
lemma ends_scalarText (nodes : Nodes) (n number : Nat) :
    Ends (fun text => ∃ leaf, (nodes.node leaf).content = .scalar text)
      (fun fault => fault = .malformed ∨
        fault = .endlessText ∧ (n = 0 ∨ nodes.isMapping number = true))
      (nodes.scalarText n number) := by
  induction n generalizing number with
  | zero => exact .error (.inr ⟨rfl, .inl rfl⟩)
  | succ n ih =>
    unfold scalarText
    split
    case h_1 text eq => exact .ok ⟨number, eq⟩
    case h_2 => exact .error (.inl rfl)
    case h_3 pairs eq =>
      -- The text is sought in a node below; if it does not end, this one is a mapping already.
      split
      · have isMapping : nodes.isMapping number = true := by rw [isMapping, eq]
        exact (ih _).mono fun _ => Or.imp_right fun h => ⟨h.1, .inr isMapping⟩
      · exact .error (.inl rfl)

end Nodes

/-! ## What nodes stand for -/

/-- What nodes can be refused for: a rule that they break, a scalar that lacks what its tag asks
for, and mappings where a text is wanted. -/
inductive Graph.Lacks (g : Graph) : Fault → Prop where
  | malformed : Lacks g .malformed
  | scalar {number leaf : Nat} {text : String} {fault : Fault} :
    (g.nodes.node leaf).content = .scalar text →
    (g.nodes.node number).tag.scalar number text = .error fault →
    (g.nodes.node number).tag.MayLack fault → Lacks g fault
  | mappedTimestamp {number : Nat} :
    (g.nodes.node number).tag = .timestamp → g.nodes.isMapping number = true →
    Lacks g .mappedTimestamp
  | endlessText {number : Nat} :
    (g.nodes.node number).tag.isScalar = true ∨ (g.nodes.node number).tag = .value →
    g.nodes.isMapping number = true → Lacks g .endlessText

namespace Reckon

variable {g : Graph} {x : Reckon α}

/-- A step of finding out what the nodes of a graph stand for fails for what they lack, and leaves
them settled. -/
abbrev Reckons (g : Graph) (x : Reckon α) : Prop :=
  Keeps (fun s => g.nodes.Settled s.nodes) g.Lacks x

lemma reckons_learn (number : Nat) (m : Meaning) : Reckons g (learn number m) :=
  .update fun _ => id

lemma reckons_wait (number : Nat) (empty : Meaning) : Reckons g (wait number empty) :=
  .bind (.update fun _ => id) fun _ => .pure _

/-- The scalar of a node, whose tag is the one that was written unless it became a text. -/
lemma reckons_scalar {number : Nat} {tag : Tag}
    (origin : tag = (g.nodes.node number).tag ∨
      (g.nodes.node number).tag = .value ∧ tag = .text) : Reckons g (scalar number tag) := by
  unfold scalar
  refine .get_bind fun s settled => .ite (fun isScalar => ?_) fun _ => .throw .malformed
  have text : Ends (fun text => ∃ leaf, (g.nodes.node leaf).content = .scalar text) g.Lacks
      (s.nodes.scalarText s.nodes.size.succ number) := by
    obtain ⟨fails, ends⟩ := Nodes.ends_scalarText s.nodes s.nodes.size.succ number
    refine ⟨fun fault eq => ?_, fun text eq => ?_⟩
    · rcases fails fault eq with rfl | ⟨rfl, none | isMapping⟩
      · exact .malformed
      · -- There is always fuel for the node itself.
        cases none
      · refine .endlessText ?_ ((settled.isMapping number).symm.trans isMapping)
        rcases origin with rfl | ⟨value, _⟩
        · exact .inl isScalar
        · exact .inr value
    · obtain ⟨leaf, content⟩ := ends text eq
      exact ⟨leaf, settled.scalar leaf text content⟩
  refine .lift_bind text fun text ⟨leaf, content⟩ => ?_
  rcases origin with rfl | ⟨_, rfl⟩
  · refine .ite (fun mapped => ?_) fun _ => .lift fun fault eq =>
      .scalar content eq (fails_tagScalar _ _ _ fault eq)
    rw [Bool.and_eq_true, decide_eq_true_eq, settled.isMapping] at mapped
    exact .throw_bind (.mappedTimestamp mapped.1 mapped.2)
  · exact .lift (fails_ok _)

/-- Finding a meaning keeps to the graph. -/
lemma reckons_meaning (number : Nat) : Reckons g (meaning number) := by
  unfold meaning
  refine .get_bind fun s settled => ?_
  split
  · exact .pure _
  have learns (m : Meaning) : Reckons g (do learn number m; pure m) :=
    .bind (reckons_learn number m) fun _ => .pure _
  dsimp only
  split
  case h_6 => exact .bind (.map (reckons_scalar (settled.tag number))) learns
  all_goals exact .bind (reckons_wait _ _) learns

lemma reckons_onePair (number : Nat) : Reckons g (onePair number) := by
  refine .get_bind fun s _ => ?_
  split
  · exact .bind (reckons_meaning _) fun _ => .bind (reckons_meaning _) fun _ => .pure _
  · exact .throw .malformed

lemma reckons_entries (number : Nat) : Reckons g (entries number) := by
  refine .get_bind fun s settled => ?_
  dsimp only
  split
  case isTrue => exact .throw_bind .malformed
  case isFalse isMapping =>
    have merged := (Nodes.mergesWell s.merges).into number [] s.nodes (by simpa using isMapping)
    refine .lift_bind (merged.mono fun fault eq => eq ▸ .malformed) fun nodes' settled' => ?_
    refine .bind (.set (settled.trans settled')) fun _ => .foldlM (fun table p => ?_) _ _
    refine .bind (reckons_meaning _) fun _ => ?_
    split
    · exact .bind (reckons_meaning _) fun _ => .pure _
    · exact .throw .malformed

/-- Filling in a meaning keeps to the graph. -/
lemma reckons_fill (number : Nat) : Reckons g (fill number) := by
  refine .get_bind fun s _ => ?_
  dsimp only
  split
  · exact .bind (.forM (fun item => .map (reckons_meaning item)) _) fun _ =>
      .bind (.pure _) fun _ => reckons_learn _ _
  · exact .bind (.map (.mapM reckons_onePair _)) fun _ => reckons_learn _ _
  · exact .bind (.map (.mapM reckons_onePair _)) fun _ => reckons_learn _ _
  · exact .bind (.map (reckons_entries _)) fun _ => reckons_learn _ _
  · exact .bind (.map (reckons_entries _)) fun _ => reckons_learn _ _
  · exact .throw_bind .malformed

lemma reckons_fillAll (n : Nat) : Reckons g (fillAll n) := by
  induction n with
  | zero => exact .pure _
  | succ n ih =>
    refine .get_bind fun s settled => .ite (fun _ => ?_) fun _ => .pure _
    exact .bind (.set settled) fun _ => .bind (.forM reckons_fill _) fun _ => ih

end Reckon

/-- Nodes stand for a value, lack something, or are within themselves. -/
lemma Graph.fails_value (order : SetOrder) (g : Graph) :
    Fails (fun fault => g.Lacks fault ∨ ∃ isMapping, fault = .endless isMapping)
      (g.value order) := by
  have reckons : Reckon.Reckons g (do
      let outer ← Reckon.meaning g.root
      Reckon.fillAll g.nodes.size.succ
      pure outer) :=
    .bind (Reckon.reckons_meaning _) fun _ => .bind (Reckon.reckons_fillAll _) fun _ => .pure _
  unfold Graph.value
  simp only [fails_bind_iff]
  refine ⟨fun fault eq => .inl ((reckons _ (.refl _)).1 fault eq), fun p _ => ?_⟩
  split
  · exact fails_ok _
  · exact fails_error_iff.mpr (.inr ⟨_, rfl⟩)

/-- Why a text cannot be read: it is not cut into tokens, its nodes lack something, or are within
themselves. -/
theorem fails_parse (order : SetOrder) (text : String) :
    Fails (fun fault => IsLexical fault ∨ (∃ isMapping, fault = .endless isMapping) ∨
      ∃ g, Graph.ofText? text.toList = .ok (some g) ∧ g.Lacks fault) (parse order text) := by
  unfold parse
  simp only [fails_bind_iff]
  refine ⟨fun fault eq => .inl (lexes_ofText? _ fault eq), fun found eq => ?_⟩
  split
  · exact fails_ok _
  case h_2 g =>
    intro fault broken
    rcases g.fails_value order fault broken with lacks | endless
    · exact .inr (.inr ⟨g, eq, lacks⟩)
    · exact .inr (.inl endless)

end ClientSynth.Yaml
