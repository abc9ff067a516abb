import ClientSynth.Proofs.Commands
import ClientSynth.Proofs.ReadScalars

/-!
# The table of diagnostics

Validation shows diagnostics as rows of cells, with tabs between the cells and a line feed after
each row, and with nothing escaped. So what is shown is read back as the table exactly if no cell
has a tab or a line feed in it (`Text.readTable_unlines_iff`). The texts that diagnostics take from
a document are the only cause of such a cell (`Report.isCell_table_iff`), which gives the reports
that are read back as they are (`Session.validate_readTable_iff`).

What a cell may hold is a condition on single characters, so it holds of a text put together from
parts exactly if it holds of each of them (`Text.isCell_append`): words and numbers of a message
drop out, and what is left are the texts that it repeats. Rows and lines go apart in the same way.
What was joined by a mark that none of the parts has in it is given back by cutting at the mark
(`Text.cellsOf_intercalate`), and nothing else is, because no piece that is cut out has the mark
(`Text.of_mem_of_mem_splitAt`).
-/

namespace ClientSynth

/-! ## Tables of texts -/

namespace Text

variable {mark c : Char} {xs piece : List Char} {s t text : String} {cells row : List String}
  {table : List (List String)}

/-- Every piece has characters of the text in it, and never the mark. -/
lemma of_mem_of_mem_splitAt (mem : piece ∈ splitAt mark xs) (inside : c ∈ piece) :
    c ∈ xs ∧ c ≠ mark := by
  induction xs generalizing piece with
  | nil =>
    cases List.mem_singleton.mp mem
    cases inside
  | cons d rest ih =>
    have later {piece : List Char} (mem : piece ∈ splitAt mark rest) (inside : c ∈ piece) :
        c ∈ d :: rest ∧ c ≠ mark :=
      (ih mem inside).imp_left (List.mem_cons_of_mem _)
    rw [splitAt] at mem
    split at mem
    case isTrue =>
      rcases List.mem_cons.mp mem with rfl | mem
      · cases inside
      · exact later mem inside
    case isFalse other =>
      cases eq : splitAt mark rest with
      | nil => exact absurd eq (splitAt_ne_nil mark rest)
      | cons first others =>
        rw [eq] at mem later
        rcases List.mem_cons.mp mem with rfl | mem
        · rcases List.mem_cons.mp inside with rfl | inside
          · exact ⟨List.mem_cons_self, other⟩
          · exact later List.mem_cons_self inside
        · exact later (List.mem_cons_of_mem _ mem) inside

/-- A text without tabs and line feeds. -/
def IsCell (text : String) : Prop :=
  '\t' ∉ text.toList ∧ '\n' ∉ text.toList

instance (text : String) : Decidable (IsCell text) :=
  inferInstanceAs (Decidable (_ ∧ _))

/-- The parts of a line between its tabs. -/
def cellsOf (line : String) : List String :=
  (splitAt '\t' line.toList).map String.ofList

/-- The cells of the lines of a text. What follows the last line feed is no line. -/
def readTable (text : String) : List (List String) :=
  (rows text).dropLast.map cellsOf

/-- Texts that are written out are looked at character by character. -/
lemma isCell_ofList {chars : List Char} (clean : '\t' ∉ chars ∧ '\n' ∉ chars) :
    IsCell (String.ofList chars) := by
  rwa [IsCell, String.toList_ofList]

lemma isCell_empty : IsCell "" :=
  ⟨List.not_mem_nil, List.not_mem_nil⟩

/-- A text put together from two is a cell exactly if both of them are. -/
lemma isCell_append : IsCell (s ++ t) ↔ IsCell s ∧ IsCell t := by
  simp only [IsCell, String.toList_append, List.mem_append, not_or]
  exact and_and_and_comm

/-- What stands behind a cell decides whether the whole is one. -/
lemma isCell_after (front : IsCell s) : IsCell (s ++ t) ↔ IsCell t :=
  isCell_append.trans (and_iff_right front)

/-- What stands before a cell decides whether the whole is one. -/
lemma isCell_before (back : IsCell t) : IsCell (s ++ t) ↔ IsCell s :=
  isCell_append.trans (and_iff_left back)

/-- Texts joined by a cell make up a cell exactly if each of them is one. -/
lemma isCell_intercalate (apart : IsCell s) :
    IsCell (s.intercalate cells) ↔ ∀ cell ∈ cells, IsCell cell := by
  cases cells with
  | nil => exact iff_of_true isCell_empty (List.forall_mem_nil _)
  | cons first rest =>
    induction rest generalizing first with
    | nil => simp
    | cons next rest ih =>
      rw [String.intercalate_cons_cons, isCell_append, isCell_append, ih, and_iff_left apart]
      exact List.forall_mem_cons.symm

/-- Digits and a sign fit into a cell. -/
lemma isCell_ofInt (n : Int) : IsCell (Text.ofInt n) := by
  have other {c : Char} (noSign : c ≠ '-') (noDigit : c.isDigit = false) :
      c ∉ (Text.ofInt n).toList := by
    rw [Json.toList_ofInt, List.mem_append]
    rintro (sign | digit)
    · unfold Json.signChars at sign
      split at sign
      · exact noSign (List.mem_singleton.mp sign)
      · cases sign
    · rw [Nat.isDigit_of_mem_toDigits (by decide) (by decide) digit] at noDigit
      cases noDigit
  exact ⟨other (by decide) (by decide), other (by decide) (by decide)⟩

/-- A row is read back from its line if no cell has a tab in it. -/
lemma cellsOf_intercalate (ne : row ≠ []) (apart : ∀ cell ∈ row, '\t' ∉ cell.toList) :
    cellsOf ("\t".intercalate row) = row := by
  obtain ⟨first, rest, rfl⟩ := List.exists_cons_of_ne_nil ne
  induction rest generalizing first with
  | nil =>
    rw [String.intercalate_singleton, cellsOf,
      splitAt_eq_self (apart first List.mem_cons_self)]
    simp
  | cons next rest ih =>
    obtain ⟨here, later⟩ := List.forall_mem_cons.mp apart
    have rest := ih next (List.cons_ne_nil _ _) later
    rw [cellsOf] at rest
    rw [cellsOf, toList_intercalate_cons_cons '\t' rfl, splitAt_append, splitAt_eq_self here,
      List.map_append, rest]
    simp

/-- Nothing that is read from a text has a tab or a line feed in it. -/
lemma isCell_of_mem_readTable (mem : row ∈ readTable text) {cell : String} (inside : cell ∈ row) :
    IsCell cell := by
  obtain ⟨line, isLine, rfl⟩ := List.mem_map.mp mem
  obtain ⟨chars, isRow, rfl⟩ := List.mem_map.mp (List.dropLast_subset _ isLine)
  obtain ⟨piece, isPiece, rfl⟩ := List.mem_map.mp inside
  rw [String.toList_ofList] at isPiece
  rw [IsCell, String.toList_ofList]
  refine ⟨fun tab => (of_mem_of_mem_splitAt isPiece tab).2 rfl, fun feed => ?_⟩
  exact (of_mem_of_mem_splitAt isRow (of_mem_of_mem_splitAt isPiece feed).1).2 rfl

/-- A table is read back from its lines exactly if no cell has a tab or a line feed in it. -/
lemma readTable_unlines_iff (filled : ∀ row ∈ table, row ≠ []) :
    readTable (unlines (table.map "\t".intercalate)) = table ↔
      ∀ row ∈ table, ∀ cell ∈ row, IsCell cell := by
  constructor
  · intro same row mem cell inside
    rw [← same] at mem
    exact isCell_of_mem_readTable mem inside
  · intro clean
    -- Without line feeds in cells the lines are the rows, and without tabs their parts are the
    -- cells.
    have lines : ∀ line ∈ table.map "\t".intercalate, '\n' ∉ line.toList := by
      rw [List.forall_mem_map]
      exact fun row mem => not_mem_intercalate (by decide) fun cell inside =>
        (clean row mem cell inside).2
    rw [readTable, rows_unlines lines, List.dropLast_concat, List.map_map]
    refine (List.map_congr_left fun row mem => ?_).trans (List.map_id table)
    exact cellsOf_intercalate (filled row mem) fun cell inside => (clean row mem cell inside).1

end Text

/-! ## Texts of a document in diagnostics -/

namespace Location

/-- The keys among the steps of a location. -/
def names (location : Location) : List String :=
  location.filterMap fun
    | .key name => some name
    | .index _ => none

/-- A place is written as a cell exactly if the names on the way to it are cells. -/
lemma isCell_textAfter (before : String) (location : Location) :
    Text.IsCell (location.textAfter before) ↔
      Text.IsCell before ∧ ∀ name ∈ location.names, Text.IsCell name := by
  induction location generalizing before with
  | nil => simp [textAfter, names]
  | cons step rest ih =>
    cases step with
    | index i =>
      have here : Text.IsCell (before ++ "[" ++ Text.ofInt i ++ "]") ↔ Text.IsCell before := by
        rw [Text.isCell_before (by decide), Text.isCell_before (Text.isCell_ofInt i),
          Text.isCell_before (by decide)]
      rw [textAfter, ih, here]
      rfl
    | key name =>
      have here : Text.IsCell (if before.isEmpty then name else before ++ "." ++ name) ↔
          Text.IsCell before ∧ Text.IsCell name := by
        split
        case isTrue isEmpty =>
          rw [String.isEmpty_iff.mp isEmpty, and_iff_right Text.isCell_empty]
        case isFalse => rw [Text.isCell_append, Text.isCell_before (by decide)]
      rw [textAfter, ih, here, and_assoc, ← List.forall_mem_cons]
      rfl

/-- A location fits into a cell if its keys do. -/
lemma isCell_text (location : Location) :
    Text.IsCell location.text ↔ ∀ name ∈ location.names, Text.IsCell name := by
  rw [text, isCell_textAfter, and_iff_right Text.isCell_empty]

end Location

section Messages

open Text

/-- The word for a code is a cell. -/
lemma FaultCode.isCell_word (code : FaultCode) : IsCell code.word := by
  cases code <;> exact isCell_ofList (by decide)

/-- The suggestion for a code is a cell. -/
lemma FaultCode.isCell_suggestion (code : FaultCode) : IsCell code.suggestion := by
  cases code <;> exact isCell_ofList (by decide)

/-- Words in quotes and what joins them are cells if the words are. -/
lemma Cause.isCell_alternatives {words : List String} (clean : ∀ word ∈ words, IsCell word) :
    IsCell (alternatives words) := by
  induction words with
  | nil => exact isCell_empty
  | cons word rest ih =>
    obtain ⟨here, later⟩ := List.forall_mem_cons.mp clean
    have quoted {t : String} (back : IsCell t) : IsCell ("'" ++ word ++ t) :=
      (isCell_before back).mpr ((isCell_after (by decide)).mpr here)
    match rest with
    | [] => exact quoted (by decide)
    | [last] =>
      obtain ⟨isLast, _⟩ := List.forall_mem_cons.mp later
      exact (isCell_before (by decide)).mpr (isCell_append.mpr ⟨quoted (by decide), isLast⟩)
    | _ :: _ :: _ => exact isCell_append.mpr ⟨quoted (by decide), ih later⟩

/-- What is said about a rejected value repeats nothing of it. -/
lemma Cause.isCell_message (cause : Cause) : IsCell cause.message := by
  cases cause with
  | notRecord name =>
    refine (isCell_after (isCell_ofList (by decide))).mpr ?_
    cases name <;> exact isCell_ofList (by decide)
  | notFaultCode =>
    exact (isCell_after (isCell_ofList (by decide))).mpr (isCell_alternatives (by decide +kernel))
  | _ => exact isCell_ofList (by decide)

/-- The texts of a document that the message of a fault repeats. -/
def Fault.quotes : Fault → List String
  | .undeclaredToken name => [name]
  | .repeatedId id => [id]
  | .repeatedRoute method path => [method, path]
  | _ => []

/-- A listing of words is a cell if the words are. -/
lemma isCell_listed {words : List String} (clean : ∀ word ∈ words, IsCell word) :
    IsCell (Fault.listed words) :=
  (isCell_intercalate (by decide)).mpr clean

/-- The message of a fault is a cell exactly if all that it repeats is. -/
lemma Fault.isCell_message (f : Fault) :
    IsCell f.message ↔ ∀ text ∈ f.quotes, IsCell text := by
  -- Three messages repeat texts; the words and numbers in the others have neither of the marks.
  cases f with
  | undeclaredToken name =>
    refine (isCell_before (isCell_ofList (by decide))).trans ?_
    exact (isCell_after (isCell_ofList (by decide))).trans List.forall_mem_singleton.symm
  | repeatedId id =>
    refine (isCell_before (isCell_ofList (by decide))).trans ?_
    exact (isCell_after (isCell_ofList (by decide))).trans List.forall_mem_singleton.symm
  | repeatedRoute method path =>
    refine (isCell_before (isCell_ofList (by decide))).trans (isCell_append.trans ?_)
    have opened : IsCell ("Method and path \"" ++ method) ↔ IsCell method :=
      isCell_after (isCell_ofList (by decide))
    rw [isCell_before (by decide), opened]
    simp [quotes]
  | repeatedStatus code =>
    refine iff_of_true ?_ (List.forall_mem_nil _)
    refine (isCell_before (isCell_ofList (by decide))).mpr ?_
    exact (isCell_after (isCell_ofList (by decide))).mpr (isCell_ofInt code)
  | badStatus code =>
    refine iff_of_true ?_ (List.forall_mem_nil _)
    exact (isCell_before (isCell_ofList (by decide))).mpr (isCell_ofInt code)
  | rejected cause => exact iff_of_true cause.isCell_message (List.forall_mem_nil _)
  | badAuthenticationType | badMethod | badParameterLocation | badParameterType | badBodyType
  | badSchemaType =>
    refine iff_of_true ?_ (List.forall_mem_nil _)
    exact (isCell_after (isCell_ofList (by decide))).mpr (isCell_listed (by decide +kernel))
  | _ => exact iff_of_true (isCell_ofList (by decide)) (List.forall_mem_nil _)

/-- The texts of a document, or of the code made from it, that the message of a remark repeats. -/
def Remark.quotes : Remark → List String
  | .sharedFunction name _ | .sharedRoute name _ | .badFunctionName name | .notExported name
  | .noPromise name | .anyInSignature name | .noErrorHandling name | .noComment name => [name]
  | .deprecated endpoint => endpoint.toList
  | .repeatedInterfaces names => names
  | _ => []

/-- A listing of endpoints has numbers only. -/
lemma Remark.isCell_endpointsText (indexes : List Nat) : IsCell (endpointsText indexes) := by
  rw [endpointsText, isCell_intercalate (by decide), List.forall_mem_map]
  intro i _
  exact (isCell_before (by decide)).mpr ((isCell_after (by decide)).mpr (isCell_ofInt i))

/-- The message of a remark is a cell exactly if all that it repeats is. -/
lemma Remark.isCell_message (r : Remark) :
    IsCell r.message ↔ ∀ text ∈ r.quotes, IsCell text := by
  cases r with
  | sharedFunction name endpoints | sharedRoute name endpoints =>
    refine (isCell_before (isCell_endpointsText endpoints)).trans ?_
    refine (isCell_before (isCell_ofList (by decide))).trans ?_
    exact (isCell_after (isCell_ofList (by decide))).trans List.forall_mem_singleton.symm
  | badFunctionName name =>
    refine (isCell_before (isCell_ofList (by decide))).trans ?_
    exact (isCell_after (isCell_ofList (by decide))).trans List.forall_mem_singleton.symm
  | notExported name | noPromise name | anyInSignature name | noErrorHandling name
  | noComment name =>
    exact (isCell_before (isCell_ofList (by decide))).trans List.forall_mem_singleton.symm
  | deprecated endpoint =>
    refine (isCell_before (isCell_ofList (by decide))).trans ?_
    refine (isCell_after (isCell_ofList (by decide))).trans ?_
    cases endpoint with
    | none => exact iff_of_true (by decide) (List.forall_mem_nil _)
    | some id => exact List.forall_mem_singleton.symm
  | repeatedInterfaces names =>
    exact (isCell_after (isCell_ofList (by decide))).trans (isCell_intercalate (by decide))
  | _ => exact iff_of_true (isCell_ofList (by decide)) (List.forall_mem_nil _)

/-- The suggestion that goes with a remark is a fixed text. -/
lemma Remark.isCell_suggestion (r : Remark) : IsCell (r.suggestion.getD "") := by
  cases r <;> exact isCell_ofList (by decide)

end Messages

namespace Report

variable {r : Report}

/-- The texts of a document, or of the code made from it, that the diagnostics of a report repeat:
keys in places and texts in messages. -/
def quotes (r : Report) : List String :=
  r.errors.flatMap (fun f => f.location.names ++ f.what.quotes) ++
    r.warnings.flatMap fun r => r.location.names ++ r.what.quotes

/-- The cells of a row, one by one. -/
lemma isCell_cells {severity field code message : String} {suggestion : Option String} :
    (∀ cell ∈ cells severity field code message suggestion, Text.IsCell cell) ↔
      Text.IsCell severity ∧ Text.IsCell field ∧ Text.IsCell code ∧ Text.IsCell message ∧
        Text.IsCell (suggestion.getD "") := by
  have place : Text.IsCell (if field.isEmpty then "-" else field) ↔ Text.IsCell field := by
    split
    case isTrue isEmpty =>
      rw [String.isEmpty_iff.mp isEmpty]
      exact iff_of_true (by decide) Text.isCell_empty
    case isFalse => exact Iff.rfl
  rw [cells, List.forall_mem_cons, List.forall_mem_cons, place, List.forall_mem_cons,
    List.forall_mem_cons, List.forall_mem_singleton]

/-- The row of a fault is readable exactly if its place and its message are. -/
lemma isCell_faultCells (f : Located Fault) : (∀ cell ∈ faultCells f, Text.IsCell cell) ↔
    ∀ text ∈ f.location.names ++ f.what.quotes, Text.IsCell text := by
  have severity : Text.IsCell "error" := by decide
  rw [faultCells, isCell_cells, List.forall_mem_append, f.location.isCell_text,
    f.what.isCell_message]
  simp [severity, f.what.code.isCell_word, f.what.code.isCell_suggestion]

/-- The row of a remark is readable exactly if its place and its message are. -/
lemma isCell_remarkCells (r : Located Remark) : (∀ cell ∈ remarkCells r, Text.IsCell cell) ↔
    ∀ text ∈ r.location.names ++ r.what.quotes, Text.IsCell text := by
  have severity : Text.IsCell "warning" := by decide
  rw [remarkCells, isCell_cells, List.forall_mem_append, r.location.isCell_text,
    r.what.isCell_message]
  simp [severity, Text.isCell_empty, r.what.isCell_suggestion]

/-- The cells of a report have no tabs and line feeds if the texts that it repeats have none. -/
lemma isCell_table_iff (r : Report) : (∀ row ∈ r.table, ∀ cell ∈ row, Text.IsCell cell) ↔
    ∀ text ∈ r.quotes, Text.IsCell text := by
  have top : ∀ cell ∈ headers, Text.IsCell cell := by decide +kernel
  rw [table, List.forall_mem_cons, and_iff_right top, List.forall_mem_append,
    List.forall_mem_map, List.forall_mem_map, quotes, List.forall_mem_append,
    List.forall_mem_flatMap, List.forall_mem_flatMap]
  simp only [isCell_faultCells, isCell_remarkCells]

/-- No row is empty, since each has a cell for the severity. -/
lemma ne_nil_of_mem_table {row : List String} (mem : row ∈ r.table) : row ≠ [] := by
  simp only [table, List.mem_cons, List.mem_append, List.mem_map] at mem
  rcases mem with rfl | ⟨_, _, rfl⟩ | ⟨_, _, rfl⟩
  all_goals exact List.cons_ne_nil _ _

/-- What a report is shown as in plain form. -/
structure IsShownIn (r : Report) (output : String) : Prop where
  /-- Without diagnostics nothing is shown. -/
  silent : r.errors = [] → r.warnings = [] → output = ""
  /-- Otherwise the headers and the cells of each diagnostic are shown, with tabs between them and a
  line feed after each row. -/
  written : r.errors ≠ [] ∨ r.warnings ≠ [] →
    output = Text.unlines (r.table.map "\t".intercalate)
  /-- The table is read back exactly if no text that is repeated brings a tab or a line feed in. -/
  readable : r.errors ≠ [] ∨ r.warnings ≠ [] →
    (Text.readTable output = r.table ↔ ∀ text ∈ r.quotes, Text.IsCell text)

end Report

namespace Session

variable {c : Console} {w : Workspace} {source input : String} {entries : Source.Entries}
  {v : Validation}

/-- What a plain console shows of a report. -/
lemma isShownIn_reportText (plain : c.format = .plain) (r : Report) :
    r.IsShownIn ((reportText c r).toOption.getD "") := by
  have shown : (reportText c r).toOption.getD "" =
      if r.errors.isEmpty && r.warnings.isEmpty then ""
      else Text.unlines (r.table.map "\t".intercalate) := by
    rw [reportText_plain plain]
    rfl
  have written (some : r.errors ≠ [] ∨ r.warnings ≠ []) :
      (reportText c r).toOption.getD "" = Text.unlines (r.table.map "\t".intercalate) := by
    rw [shown, if_neg]
    simpa [← not_or, or_iff_not_imp_left] using some
  refine ⟨fun noErrors noWarnings => ?_, written, fun some => ?_⟩
  · rw [shown, noErrors, noWarnings]
    rfl
  · rw [written some, Text.readTable_unlines_iff fun _ => Report.ne_nil_of_mem_table,
      Report.isCell_table_iff]

/-- The diagnostics of a document are shown as a table of their cells, faults before remarks, which
is read back from the output exactly if no text that a diagnostic repeats has a tab or a line feed
in it. With an audit there may be more remarks than those about the document. -/
theorem validate_readTable_iff (plain : c.format = .plain) (withNames : Bool)
    (loaded : Source.load w source input = .ok entries)
    (checked : (Value.map entries).validate = .ok v) :
    ∃ more, (withNames = false → more = []) ∧
      ({ v.report with warnings := v.report.warnings ++ more } : Report).IsShownIn
        (Completion.ofInvocation ⟨c, .validate source withNames⟩ input w).output := by
  have ends := Completion.is_ofInvocation ⟨c, .validate source withNames⟩ input
    (does_validate (c := c) withNames loaded checked)
  obtain ⟨more, unnamed, report⟩ := exists_auditedReport_eq (.map entries) v.report withNames
  refine ⟨more, unnamed, ?_⟩
  rw [ends.output_eq, report]
  exact isShownIn_reportText plain _

/-- A document with two endpoints that have one id, with a tab in it. -/
def tabbedTwins : List (String × Value) :=
  let endpoint (path : String) : Value := .object
    [("id", .text "a\tb"), ("name", .text "x"), ("method", .text "GET"), ("path", .text path),
     ("responses", .list [.object [("statusCode", .text "200")]])]
  [("title", .text "A"), ("version", .text "1.0.0"), ("baseURL", .text "http://a.b"),
   ("endpoints", .list [endpoint "/a", endpoint "/b"])]

/-- The document with a tab in the identifiers of its endpoints is written without loss. -/
lemma isExact_tabbedTwins : (Value.object tabbedTwins).IsExact := by
  refine Value.isExact_object (by simp [tabbedTwins]) ?_
  have endpoint (path : String) : (Value.object
      [("id", .text "a\tb"), ("name", .text "x"), ("method", .text "GET"), ("path", .text path),
       ("responses", .list [.object [("statusCode", .text "200")]])]).IsExact := by
    refine Value.isExact_object (by simp) ?_
    simp only [List.forall_mem_cons]
    refine ⟨.scalar trivial, .scalar trivial, .scalar trivial, .scalar trivial,
      .list (List.forall_mem_singleton.mpr (Value.isExact_object (by simp) ?_)),
      List.forall_mem_nil _⟩
    exact List.forall_mem_singleton.mpr (.scalar trivial)
  simp only [tabbedTwins, List.forall_mem_cons]
  exact ⟨.scalar trivial, .scalar trivial, .scalar trivial,
    .list (List.forall_mem_cons.mpr ⟨endpoint _, List.forall_mem_singleton.mpr (endpoint _)⟩),
    List.forall_mem_nil _⟩

/-- The tab in the message about an id that is used twice is taken for one between cells. -/
theorem validate_readTable_iff_tabbedTwins : ∃ v, (Value.object tabbedTwins).validate = .ok v ∧
    Text.readTable (Completion.ofInvocation
      ⟨.colourless .plain false false, .validate "-" false⟩ (Console.jsonText (.object tabbedTwins))
      ⟨[], [], [], [], "", .asWritten⟩).output ≠ v.report.table := by
  have checked : (Value.object tabbedTwins).validate =
      .ok (Validation.ofValue (.object tabbedTwins)) :=
    Value.validate_of_fits (by decide +kernel)
  refine ⟨_, checked, ?_⟩
  obtain ⟨more, unnamed, shown⟩ := validate_readTable_iff (c := .colourless .plain false false)
    rfl false (w := ⟨[], [], [], [], "", .asWritten⟩) (Source.load_jsonText isExact_tabbedTwins)
    checked
  cases unnamed rfl
  rw [List.append_nil] at shown
  have faulty : (Validation.ofValue (.object tabbedTwins)).report.errors ≠ [] := by
    rw [← List.isEmpty_eq_false_iff]
    decide +kernel
  intro same
  exact absurd ((shown.readable (.inl faulty)).mp same) (by decide +kernel)

end Session

end ClientSynth
