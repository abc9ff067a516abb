import ClientSynth.Record.Scalars
import ClientSynth.Text.Quoted

/-!
# Conforming values

`Value.conform` reads a value as one of a kind. It gives the value in written form, in which scalars
have the kind asked for and each record has all its fields, in order and under their first keys,
followed by the keys of no field that it keeps; or all rejections, in the order of the fields, items
and entries.
-/

namespace ClientSynth

/-- The written form of a value, or the rejections in it. -/
abbrev Outcome := Except (List Rejection) Value

/-- The rejection of a whole value. -/
def reject (cause : Cause) (found : Value) : Except (List Rejection) α :=
  .error [⟨[], cause, found⟩]

/-- An outcome as seen from a collection one step above. -/
def Outcome.below (step : Step) : Except (List Rejection) α → Except (List Rejection) α
  | .ok a => .ok a
  | .error rs => .error (rs.map (Rejection.below step))

/-- All results, or all rejections in order. -/
def gather : List (Except (List Rejection) α) → Except (List Rejection) (List α)
  | [] => .ok []
  | .ok a :: rest => match gather rest with
    | .ok as => .ok (a :: as)
    | .error rs => .error rs
  | .error rs :: rest => match gather rest with
    | .ok _ => .error rs
    | .error later => .error (rs ++ later)

/-- Two results, or all rejections in order. -/
def both (first : Except (List Rejection) α) (second : Except (List Rejection) β) :
    Except (List Rejection) (α × β) :=
  match first, second with
  | .ok a, .ok b => .ok (a, b)
  | .ok _, .error rs => .error rs
  | .error rs, .ok _ => .error rs
  | .error rs, .error later => .error (rs ++ later)

/-- The step to the value at a key. A number that fits into 64 bits is an index, and one with too
many digits has no text of its own. -/
def Scalar.step : Scalar → Step
  | .text s => .key s
  | .bool b => .index b.toInt
  | .int n =>
    if isWord n then .index n
    else .key (if Text.isOversized n then "<unprintable int object>" else Text.ofInt n)
  | s => .key s.shown

/-- A scalar as one of a kind, or why it is none. -/
def Scalar.toKind (s : Scalar) : Kind → Except Cause Scalar
  | .any => .ok s
  | .text => s.toText.map .text
  | .integer => s.toInteger.map .int
  | .number => s.toNumber.map .float
  | .flag => s.toFlag.map .bool
  | .faultCode => match s with
    | .text w => if faultCodes.contains w then .ok s else .error .notFaultCode
    | _ => .error .notFaultCode
  | .severity => if s = .text "error" then .ok s else .error .notSeverity
  | .list _ => .error .notList
  | .table _ => .error .notTable
  | .record name => .error (.notRecord name)

/-- The outcome of a scalar. -/
def conformScalar (kind : Kind) (s : Scalar) : Outcome :=
  match s.toKind kind with
  | .ok s => .ok (.scalar s)
  | .error cause => reject cause (.scalar s)

/-- The outcome for a collection of another kind than the one asked for. -/
def Kind.refuse (kind : Kind) (found : Value) : Outcome :=
  match kind with
  | .any => .ok found
  | .text => reject .notText found
  | .integer => reject .notInteger found
  | .number => reject .notNumber found
  | .flag => reject .notFlag found
  | .faultCode => reject .notFaultCode found
  | .severity => reject .notSeverity found
  | .list _ => reject .notList found
  | .table _ => reject .notTable found
  | .record name => reject (.notRecord name) found

/-- The written form of a list, from its items' outcomes. -/
def listOutcome (outcomes : List Outcome) : Outcome :=
  (gather (outcomes.mapIdx fun i o => Outcome.below (.index i) o)).map .list

/-- An entry of a mapping whose value waits for its kind. -/
structure PendingEntry where
  key : Scalar
  value : Value
  conform : Kind → Outcome

/-- The key of a table, or its rejection. -/
def tableKey (key : Scalar) : Except (List Rejection) Scalar :=
  match key.toText with
  | .ok s => .ok (.text s)
  | .error cause =>
    Outcome.below key.step (Outcome.below (.key "[key]") (reject cause (.scalar key)))

/-- The outcome of one entry of a table: a key that is no text does not hide its value. -/
def tableEntry (kind : Kind) (e : PendingEntry) : Except (List Rejection) (Scalar × Value) :=
  both (tableKey e.key) (Outcome.below e.key.step (e.conform kind))

/-- The written form of a table. -/
def tableOutcome (kind : Kind) (entries : List PendingEntry) : Outcome :=
  (gather (entries.map (tableEntry kind))).map fun es => .map (distinctEntries es)

/-- The entry at a key that is a text. -/
def pendingAt (entries : List PendingEntry) (key : String) : Option PendingEntry :=
  entries.find? fun e => e.key.isSameKey (.text key)

/-- The key that a field is found at, and its entry. -/
def Field.find? (field : Field) (entries : List PendingEntry) : Option (String × PendingEntry) :=
  match pendingAt entries field.key with
  | some e => some (field.key, e)
  | none => (pendingAt entries field.otherKey).map fun e => (field.otherKey, e)

/-- The outcome of a field; `whole` is the record it is missing from. -/
def Field.outcome (whole : Value) (entries : List PendingEntry) (field : Field) :
    Except (List Rejection) (String × Value) :=
  match field.find? entries with
  | some (key, e) =>
    match field.nullable, e.value with
    | true, .null => .ok (field.key, .null)
    | _, _ => (Outcome.below (.key key) (e.conform field.kind)).map fun v => (field.key, v)
  | none => match field.default with
    | some v => .ok (field.key, v)
    | none => Outcome.below (.key field.key) (reject .missing whole)

/-- The outcome of an entry at no field. -/
def extraOutcome (e : PendingEntry) : Except (List Rejection) (String × Value) :=
  match e.key with
  | .text s => .ok (s, e.value)
  | key => Outcome.below key.step (reject .keyNotText (.scalar key))

/-- The entries at no field. -/
def extraEntries (fields : List Field) (entries : List PendingEntry) : List PendingEntry :=
  let used := fields.filterMap fun f => (f.find? entries).map Prod.fst
  entries.filter fun e => !used.any fun key => e.key.isSameKey (.text key)

/-- The written form of a record. -/
def recordOutcome (name : RecordName) (whole : Value) (entries : List PendingEntry) : Outcome :=
  let fields := name.fields.map (Field.outcome whole entries)
  let extras :=
    if name.keepsExtras then (extraEntries name.fields entries).map extraOutcome else []
  (gather (fields ++ extras)).map .object

/-- The outcome of a mapping whose values wait for their kinds. -/
def mapOutcome (kind : Kind) (whole : Value) (entries : List PendingEntry) : Outcome :=
  match kind with
  | .table item => tableOutcome item entries
  | .record name => recordOutcome name whole entries
  | kind => kind.refuse whole

namespace Value

mutual

/-- The written form of a value as one of a kind, or all rejections in it. -/
def conform : Value → Kind → Outcome
  | .scalar s, kind => conformScalar kind s
  | .list items, kind => match kind with
    | .list item => listOutcome ((pendingItems items).map fun conform => conform item)
    | kind => kind.refuse (.list items)
  | .map entries, kind => mapOutcome kind (.map entries) (pendingEntries entries)
  | .set members, kind => match kind with
    | .list item => listOutcome (members.map (conformScalar item))
    | kind => kind.refuse (.set members)
  | .pair a b, kind => match kind with
    | .list item => listOutcome [conform a item, conform b item]
    | kind => kind.refuse (.pair a b)

/-- The items of a list, each waiting for its kind. -/
def pendingItems : List Value → List (Kind → Outcome)
  | [] => []
  | v :: rest => conform v :: pendingItems rest

/-- The entries of a mapping, each value waiting for its kind. -/
def pendingEntries : List (Scalar × Value) → List PendingEntry
  | [] => []
  | (k, v) :: rest => ⟨k, v, conform v⟩ :: pendingEntries rest

end

end Value

end ClientSynth
