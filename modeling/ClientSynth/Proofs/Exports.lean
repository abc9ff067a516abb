import ClientSynth.Client.Artifacts
import ClientSynth.Proofs.HookCalls
import ClientSynth.Proofs.ImportedTypes
import ClientSynth.Proofs.Lines

/-!
# Exports

The index of a client and the file of hooks only name what was emitted. What a file exports and
declares is read off its lines: `exportBlocks` reads the names that an index exports from each
module, and `between?` reads the name of a constant. `Artifacts.names_emitted` puts together what is
read from all files.

Both files are lists of lines, and a line is told apart by how it starts: an exported block opens
and closes with lines of its own and has one line per name between them
(`exportBlocks_exportLines`), and all other lines are passed over (`exportBlocks_plain`). That the
lines put in are the lines read out takes names without line feeds, which is what `Hook.Regular` and
`Naming.IsSymbol` are for. The lines of a hook other than its first start with one of four
characters (`Hook.StartsInner`), none of which starts an import or an export.
-/

namespace ClientSynth

/-! ## Reading lines -/

namespace Text

/-- What a text holds between an opening and a close. -/
def between? (opening close text : String) : Option String :=
  let inside := text.toList.drop opening.toList.length
  let middle := inside.take (inside.length - close.toList.length)
  if text.toList = opening.toList ++ middle ++ close.toList then some (String.ofList middle)
  else none

/-- A text occurs only where all its characters do. -/
lemma occursIn_eq_false {c : Char} {part text : List Char} (mem : c ∈ part) (absent : c ∉ text) :
    occursIn part text = false := by
  induction text with
  | nil => simpa [occursIn] using List.ne_nil_of_mem mem
  | cons x text ih =>
    have noPrefix : part.isPrefixOf (x :: text) = false := by
      rw [Bool.eq_false_iff]
      intro h
      exact absent ((List.isPrefixOf_iff_prefix.mp h).subset mem)
    rw [occursIn, noPrefix, ih fun isRest => absent (List.mem_cons_of_mem _ isRest)]
    rfl

/-- A literal starts with the character that it starts with. -/
lemma head?_ne_ofList {chars : List Char} {c : Char} (other : chars.head? ≠ some c) :
    (String.ofList chars).toList.head? ≠ some c := by
  rwa [String.toList_ofList]

/-- What does not occur in a literal is found by searching it. -/
lemma occursIn_ofList {part text : List Char} (absent : occursIn part text = false) :
    occursIn (String.ofList part).toList (String.ofList text).toList = false := by
  rwa [String.toList_ofList, String.toList_ofList]

section Between

variable {opening close text middle : String}

/-- What stands between an opening and a closing makes up the text with them. -/
lemma between?_eq_some_iff :
    between? opening close text = some middle ↔ text = opening ++ middle ++ close := by
  unfold between?
  dsimp only
  constructor
  · intro h
    split at h
    case isTrue eq =>
      cases h
      rw [← String.toList_inj, String.toList_append, String.toList_append, String.toList_ofList]
      exact eq
    case isFalse => cases h
  · rintro rfl
    -- The rest of the text but for the length of the close is the middle.
    have taken : ((opening ++ middle ++ close).toList.drop opening.toList.length).take
        (((opening ++ middle ++ close).toList.drop opening.toList.length).length -
          close.toList.length) = middle.toList := by
      simp
    rw [taken, if_pos (by simp), String.ofList_toList]

/-- What was put between an opening and a closing is read back. -/
lemma between?_append : between? opening close (opening ++ middle ++ close) = some middle :=
  between?_eq_some_iff.mpr rfl

/-- Nothing is read from a text that starts otherwise than the opening. -/
lemma between?_eq_none {c : Char} (starts : opening.toList.head? = some c)
    (other : text.toList.head? ≠ some c) : between? opening close text = none := by
  rw [Option.eq_none_iff_forall_ne_some]
  intro middle found
  rw [between?_eq_some_iff] at found
  rw [found] at other
  exact other (head?_append (head?_append starts))

end Between

end Text

/-! ## The index -/

/-- The names that an index exports from each module, in order. `names` holds the names of a block
that is open. -/
def exportBlocks (names : Option (List String)) : List String → List (String × List String)
  | [] => []
  | row :: rows => match names with
    | none =>
      if row = "export \x7b" then exportBlocks (some []) rows
      else match Text.between? "export \x7b\x7d from '" "';" row with
        | some module => (module, []) :: exportBlocks none rows
        | none => exportBlocks none rows
    | some names =>
      match Text.between? "\x7d from '" "';" row with
        | some module => (module, names) :: exportBlocks none rows
        | none => exportBlocks (some (names ++ (Text.between? "  " "," row).toList)) rows

section ExportBlocks

variable {rows rest names : List String} {module : String}

/-- A line outside a block that exports no names. -/
def IsPlain (row : String) : Prop :=
  row ≠ "export \x7b" ∧ Text.between? "export \x7b\x7d from '" "';" row = none

/-- A line that does not start like an export is passed over. -/
lemma isPlain_of_head? {row : String} (other : row.toList.head? ≠ some 'e') : IsPlain row := by
  refine ⟨?_, Text.between?_eq_none rfl other⟩
  rintro rfl
  exact other rfl

/-- Lines that are passed over make no difference to what is exported. -/
lemma exportBlocks_plain (plain : ∀ row ∈ rows, IsPlain row) :
    exportBlocks none (rows ++ rest) = exportBlocks none rest := by
  induction rows with
  | nil => rfl
  | cons row rows ih =>
    rw [List.forall_mem_cons] at plain
    rw [List.cons_append, exportBlocks, if_neg plain.1.1, plain.1.2]
    exact ih plain.2

/-- Inside a block each line adds its name to those read so far. -/
lemma exportBlocks_names (read : List String) :
    exportBlocks (some read) (names.map (fun n => "  " ++ n ++ ",") ++ rest) =
      exportBlocks (some (read ++ names)) rest := by
  induction names generalizing read with
  | nil => rw [List.map_nil, List.nil_append, List.append_nil]
  | cons n names ih =>
    have inside : Text.between? "\x7d from '" "';" ("  " ++ n ++ ",") = none :=
      Text.between?_eq_none (c := '\x7d') rfl
        (by rw [Text.head?_append (Text.head?_append (c := ' ') rfl)]; decide)
    rw [List.map_cons, List.cons_append, exportBlocks, inside, Text.between?_append]
    exact (ih _).trans (by rw [Option.toList_some, List.append_assoc, List.singleton_append])

/-- A block is read back as its names with the module that they come from. -/
lemma exportBlocks_exportLines :
    exportBlocks none (exportLines names module ++ rest) =
      (module, names) :: exportBlocks none rest := by
  rw [exportLines, List.append_assoc, List.append_assoc, List.singleton_append, exportBlocks,
    if_pos rfl, exportBlocks_names, List.singleton_append, exportBlocks, Text.between?_append,
    List.nil_append]

end ExportBlocks

section Index

variable {functions hooks rest : List String} {s : Settings}

/-- The lines of an index that export the hooks. -/
def hooksExport (hooks : List String) : List String :=
  if hooks.isEmpty then ["export \x7b\x7d from './hooks';"] else exportLines hooks "./hooks"

/-- The export of hooks is read back as a block, behind its label. -/
lemma exportBlocks_hooksExport :
    exportBlocks none (hooksExport hooks ++ rest) =
      ("./hooks", hooks) :: exportBlocks none rest := by
  unfold hooksExport
  split
  case isTrue none =>
    have parts : "export \x7b\x7d from './hooks';" =
      "export \x7b\x7d from '" ++ "./hooks" ++ "';" := rfl
    rw [List.isEmpty_iff.mp none, List.singleton_append, exportBlocks, if_neg (by decide), parts,
      Text.between?_append]
  case isFalse => exact exportBlocks_exportLines

/-- The lines of an index before the functions. -/
def headLines : List String :=
  ["/**", " * API services and hooks", " * Generated file. Do not edit by hand.", " */", "",
    "// Service functions"]

/-- The lines of an index before the hooks. -/
def hooksLabel : List String :=
  ["", "// React hooks"]

/-- The lines of an index that export the types. -/
def typesExport : List String :=
  ["", "// Type definitions", "export * from './types';"]

/-- The lines of an index. -/
def indexLines (functions hooks : List String) (s : Settings) : List String :=
  headLines ++ exportLines functions "./services" ++
    (if s.includeHooks then hooksLabel ++ hooksExport hooks else []) ++
    (if s.includeTypes then typesExport else [])

/-- The index is made of the names of functions and hooks and of the settings only. -/
lemma indexFile_eq (services : List Service) (s : Settings) :
    indexFile services s = Text.unlines (indexLines (services.map Service.functionName)
      (services.filterMap fun s => s.endpoint.hookName?) s) :=
  rfl

lemma isPlain_headLines : ∀ row ∈ headLines, IsPlain row := by
  simp only [headLines, List.forall_mem_cons]
  refine ⟨?_, ?_, ?_, ?_, ?_, ?_, List.forall_mem_nil _⟩
  all_goals exact isPlain_of_head? (Text.head?_ne_ofList (by decide))

lemma isPlain_hooksLabel : ∀ row ∈ hooksLabel, IsPlain row := by
  simp only [hooksLabel, List.forall_mem_cons]
  refine ⟨?_, ?_, List.forall_mem_nil _⟩
  all_goals exact isPlain_of_head? (Text.head?_ne_ofList (by decide))

/-- Types are exported without names, so no block is read from that line. -/
lemma isPlain_typesExport : ∀ row ∈ typesExport ++ [""], IsPlain row := by
  simp only [typesExport, List.forall_mem_append, List.forall_mem_cons]
  refine ⟨⟨?_, ?_, ⟨by decide, rfl⟩, List.forall_mem_nil _⟩, ?_, List.forall_mem_nil _⟩
  all_goals exact isPlain_of_head? (Text.head?_ne_ofList (by decide))

/-- The index exports the functions and, if there are hooks, the hooks, each in one block. -/
lemma exportBlocks_indexLines :
    exportBlocks none (indexLines functions hooks s ++ [""]) =
      ("./services", functions) :: if s.includeHooks then [("./hooks", hooks)] else [] := by
  have plain : ∀ row ∈ (if s.includeTypes then typesExport else []) ++ [""], IsPlain row := by
    intro row mem
    refine isPlain_typesExport row ?_
    split at mem
    · exact mem
    · exact List.mem_append_right _ mem
  have types : exportBlocks none ((if s.includeTypes then typesExport else []) ++ [""]) = [] := by
    rw [← List.append_nil (_ ++ [""]), exportBlocks_plain plain, exportBlocks]
  rw [indexLines, List.append_assoc, List.append_assoc, List.append_assoc,
    exportBlocks_plain isPlain_headLines, exportBlocks_exportLines]
  split
  · rw [List.append_assoc, exportBlocks_plain isPlain_hooksLabel, exportBlocks_hooksExport, types]
  · rw [List.nil_append, types]

/-- What holds of every line of a block holds of its opening, its names and its closing. -/
lemma forall_mem_exportLines {names : List String} {module : String} {P : String → Prop} :
    (∀ row ∈ exportLines names module, P row) ↔
      (P "export \x7b" ∧ ∀ n ∈ names, P ("  " ++ n ++ ",")) ∧
        P ("\x7d from '" ++ module ++ "';") := by
  rw [exportLines, List.forall_mem_append, List.forall_mem_append, List.forall_mem_singleton,
    List.forall_mem_singleton, List.forall_mem_map]

/-- The lines around the functions, whatever these are. -/
def functionsFrame : List String :=
  headLines ++ ["export \x7b", "\x7d from './services';"]

/-- The lines around the hooks, whatever these are. -/
def hooksFrame : List String :=
  hooksLabel ++ ["export \x7b\x7d from './hooks';", "export \x7b", "\x7d from './hooks';"]

/-- A line of an index belongs to a frame, or it holds a name. -/
lemma forall_mem_indexLines {P : String → Prop} (base : ∀ row ∈ functionsFrame, P row)
    (frame : s.includeHooks = true → ∀ row ∈ hooksFrame, P row)
    (types : s.includeTypes = true → ∀ row ∈ typesExport, P row)
    (names : ∀ n ∈ functions ++ hooks, P ("  " ++ n ++ ",")) :
    ∀ row ∈ indexLines functions hooks s, P row := by
  rw [functionsFrame, List.forall_mem_append, List.forall_mem_cons, List.forall_mem_singleton]
    at base
  rw [List.forall_mem_append] at names
  simp only [indexLines, List.forall_mem_append]
  refine ⟨⟨⟨base.1, ?functions⟩, ?hooks⟩, ?types⟩
  case functions => exact forall_mem_exportLines.mpr ⟨⟨base.2.1, names.1⟩, base.2.2⟩
  case hooks =>
    split
    case isTrue on =>
      have := frame on
      rw [hooksFrame, List.forall_mem_append, List.forall_mem_cons, List.forall_mem_cons,
        List.forall_mem_singleton] at this
      obtain ⟨label, empty, opens, closes⟩ := this
      refine List.forall_mem_append.mpr ⟨label, ?_⟩
      unfold hooksExport
      split
      · exact List.forall_mem_singleton.mpr empty
      · exact forall_mem_exportLines.mpr ⟨⟨opens, names.2⟩, closes⟩
    case isFalse => exact List.forall_mem_nil _
  case types =>
    split
    case isTrue on => exact types on
    case isFalse => exact List.forall_mem_nil _

lemma apart_functionsFrame :
    ∀ row ∈ functionsFrame, '\n' ∉ row.toList ∧
      Text.occursIn "./hooks".toList row.toList = false ∧
        Text.occursIn "./types".toList row.toList = false := by
  simp only [functionsFrame, headLines, List.forall_mem_append, List.forall_mem_cons]
  refine ⟨⟨?_, ?_, ?_, ?_, ?_, ?_, List.forall_mem_nil _⟩, ?_, ?_, List.forall_mem_nil _⟩
  all_goals exact ⟨Text.not_mem_ofList (by decide), Text.occursIn_ofList rfl,
    Text.occursIn_ofList rfl⟩

lemma apart_hooksFrame :
    ∀ row ∈ hooksFrame, '\n' ∉ row.toList ∧
      Text.occursIn "./types".toList row.toList = false := by
  simp only [hooksFrame, hooksLabel, List.forall_mem_append, List.forall_mem_cons]
  refine ⟨⟨?_, ?_, List.forall_mem_nil _⟩, ?_, ?_, ?_, List.forall_mem_nil _⟩
  all_goals exact ⟨Text.not_mem_ofList (by decide), Text.occursIn_ofList rfl⟩

lemma apart_typesExport :
    ∀ row ∈ typesExport, '\n' ∉ row.toList ∧
      Text.occursIn "./hooks".toList row.toList = false := by
  simp only [typesExport, List.forall_mem_cons]
  refine ⟨?_, ?_, ?_, List.forall_mem_nil _⟩
  all_goals exact ⟨Text.not_mem_ofList (by decide), Text.occursIn_ofList rfl⟩

section Rows

variable (symbols : ∀ n ∈ functions ++ hooks, Naming.IsSymbol n)
include symbols

/-- A character that is in no name and in nothing around it is not in the line of a name. -/
lemma not_mem_member {c : Char} {n : String} (isName : n ∈ functions ++ hooks)
    (other : Text.isAlnum c = false) (foreign : c ∉ "  ,".toList) :
    c ∉ ("  " ++ n ++ ",").toList := by
  have := (symbols n isName).not_mem other
  rw [String.toList_append, String.toList_append, List.mem_append, List.mem_append]
  rintro ((mem | mem) | mem)
  · exact foreign (List.mem_append_left [','] mem)
  · exact this mem
  · exact foreign (List.mem_append_right [' ', ' '] mem)

/-- The lines of the index are read back, since no name has a line feed in it. -/
lemma rows_indexLines :
    Text.rows (Text.unlines (indexLines functions hooks s)) =
      indexLines functions hooks s ++ [""] :=
  Text.rows_unlines <| forall_mem_indexLines (fun row mem => (apart_functionsFrame row mem).1)
    (fun _ row mem => (apart_hooksFrame row mem).1) (fun _ row mem => (apart_typesExport row mem).1)
    fun _ isName => not_mem_member symbols isName (by decide) (by decide)

/-- A module is not mentioned in the line of a name, since no name has a dot in it. -/
lemma not_occursIn_member {module n : String} (dotted : '.' ∈ module.toList)
    (isName : n ∈ functions ++ hooks) :
    Text.occursIn module.toList ("  " ++ n ++ ",").toList = false :=
  Text.occursIn_eq_false dotted (not_mem_member symbols isName (by decide) (by decide))

/-- An index without hooks does not mention their module. -/
lemma not_occursIn_of_withoutHooks (off : s.includeHooks = false) :
    ∀ row ∈ indexLines functions hooks s ++ [""],
      Text.occursIn "./hooks".toList row.toList = false := by
  rw [List.forall_mem_append, List.forall_mem_singleton]
  refine ⟨forall_mem_indexLines (fun row mem => (apart_functionsFrame row mem).2.1) ?_
    (fun _ row mem => (apart_typesExport row mem).2)
    fun _ isName => not_occursIn_member symbols (by decide) isName, Text.occursIn_ofList rfl⟩
  rw [off]
  exact fun on => absurd on Bool.false_ne_true

/-- An index without types does not mention their module. -/
lemma not_occursIn_of_withoutTypes (off : s.includeTypes = false) :
    ∀ row ∈ indexLines functions hooks s ++ [""],
      Text.occursIn "./types".toList row.toList = false := by
  rw [List.forall_mem_append, List.forall_mem_singleton]
  refine ⟨forall_mem_indexLines (fun row mem => (apart_functionsFrame row mem).2.2)
    (fun _ row mem => (apart_hooksFrame row mem).2) ?_
    fun _ isName => not_occursIn_member symbols (by decide) isName, Text.occursIn_ofList rfl⟩
  rw [off]
  exact fun on => absurd on Bool.false_ne_true

end Rows

end Index

/-! ## The file of hooks -/

/-- The name of the constant that a line opens the declaration of. -/
def constant? (line : String) : Option String :=
  Text.between? "export const " " = (" line

/-- A line is an import. -/
def isImport (line : String) : Bool :=
  "import ".toList.isPrefixOf line.toList

/-- A line that does not start like an import is none. -/
lemma isImport_eq_false {line : String} (other : line.toList.head? ≠ some 'i') :
    isImport line = false := by
  rw [isImport, Bool.eq_false_iff, ne_eq, List.isPrefixOf_iff_prefix]
  rintro ⟨rest, eq⟩
  rw [← eq] at other
  exact other rfl

/-- The lines of the file of hooks that import the query library, for what the hooks use of it. -/
def libraryImports (hooks : List Hook) (s : Settings) : List String :=
  if hooks.isEmpty then []
  else
    [Hook.importLine "import" (Hook.runtimeNames hooks) s.queryLibrary,
     Hook.importLine "import type" (Hook.typeNames hooks) s.queryLibrary]

/-- The lines of the file of hooks that import the service functions, one for each hook. -/
def functionImports (hooks : List Hook) : List String :=
  hooks.map fun h => Hook.importLine "import" [h.functionName] "./services"

/-- The lines of the file of hooks before the imports. -/
def hooksComment : List String :=
  ["/**", " * API React hooks", " * Data fetching and mutation hooks built on react-query.", " */",
    ""]

/-- The lines of the file of hooks before the hooks. -/
def hooksHead (hooks : List Hook) (s : Settings) : List String :=
  hooksComment ++ libraryImports hooks s ++ functionImports hooks

/-- The lines of the file of hooks from the first hook on. -/
def hooksBody (hooks : List Hook) : List String :=
  hooks.flatMap fun h => "" :: h.lines

/-- The file of hooks is its head and the hooks, one after the other. -/
lemma hooksFile_eq (services : List Service) (s : Settings) :
    hooksFile services s =
      Text.unlines (hooksHead (hooksOf services) s ++ hooksBody (hooksOf services)) :=
  rfl

namespace Hook

variable {h : Hook}

/-- A line that starts no statement: it is indented, or it starts with a closing bracket or as a
comment does. -/
def StartsInner (line : String) : Prop :=
  ∀ c ∈ line.toList.head?, c ∈ [' ', ')', '\x7d', '/']

/-- A line inside a hook starts with none of the other characters. -/
lemma StartsInner.head?_ne {line : String} {d : Char} (inner : StartsInner line)
    (other : d ∉ [' ', ')', '\x7d', '/']) : line.toList.head? ≠ some d :=
  fun starts => other (inner d starts)

/-- How a literal starts is found by looking at its first character. -/
lemma startsInner_ofList {chars : List Char}
    (inner : chars.head?.all [' ', ')', '\x7d', '/'].contains = true) :
    StartsInner (String.ofList chars) := by
  intro c first
  rw [String.toList_ofList, Option.mem_def] at first
  rw [first] at inner
  exact List.contains_iff_mem.mp inner

/-- How a line starts that starts with a literal. -/
lemma startsInner_literal {chars : List Char} {c : Char} (starts : chars.head? = some c)
    (inner : c ∈ [' ', ')', '\x7d', '/']) (t : String) :
    StartsInner (String.ofList chars ++ t) := by
  intro d first
  rw [Text.head?_append (Text.head?_ofList starts)] at first
  exact Option.some.inj first ▸ inner

/-- Only the first line of a hook's code starts a statement. -/
lemma codeLines_eq (h : Hook) :
    ∃ rest, h.codeLines = ("export const " ++ h.name ++ " = (") :: rest ∧
      ∀ line ∈ rest, StartsInner line := by
  unfold codeLines
  cases h.kind with
  | query =>
    refine ⟨_, rfl, ?_⟩
    simp only [List.forall_mem_cons, String.append_assoc]
    refine ⟨?params, startsInner_literal rfl (by decide) _, ?_, ?_,
      startsInner_literal rfl (by decide) _, startsInner_literal rfl (by decide) _, ?_, ?_, ?_,
      List.forall_mem_nil _⟩
    case params => split <;> exact startsInner_literal rfl (by decide) _
    all_goals exact startsInner_ofList (by decide)
  | mutation =>
    refine ⟨_, rfl, ?_⟩
    simp only [List.forall_mem_cons, String.append_assoc]
    refine ⟨?_, startsInner_literal rfl (by decide) _, ?_, startsInner_literal rfl (by decide) _,
      ?_, ?_, ?_, ?_, ?_, startsInner_literal rfl (by decide) _,
      startsInner_literal rfl (by decide) _, ?_, ?_, ?_, ?_, ?_, ?_, List.forall_mem_nil _⟩
    all_goals exact startsInner_ofList (by decide)

/-- Of the lines of a hook only the one that opens its declaration starts a statement. -/
lemma lines_eq (h : Hook) :
    ∃ comment rest, "" :: h.lines = comment ++ ("export const " ++ h.name ++ " = (") :: rest ∧
      ∀ line ∈ comment ++ rest, StartsInner line := by
  obtain ⟨rest, eq, others⟩ := h.codeLines_eq
  have lines : "" :: h.lines = ["", "/**", " * " ++ h.description, " */"] ++ h.codeLines := rfl
  refine ⟨["", "/**", " * " ++ h.description, " */"], rest, eq ▸ lines, ?_⟩
  rw [List.forall_mem_append]
  refine ⟨?_, others⟩
  simp only [List.forall_mem_cons]
  refine ⟨?_, ?_, startsInner_literal rfl (by decide) _, ?_, List.forall_mem_nil _⟩
  all_goals exact startsInner_ofList (by decide)

/-- Of the lines of a hook just one declares a constant, which is the hook. -/
lemma constants_lines (h : Hook) : ("" :: h.lines).filterMap constant? = [h.name] := by
  -- A constant's line starts with an `e`, and of all lines of a hook only one does.
  have none {lines : List String} (others : ∀ line ∈ lines, StartsInner line) :
      lines.filterMap constant? = [] :=
    List.filterMap_eq_nil_iff.mpr fun line mem =>
      Text.between?_eq_none rfl ((others line mem).head?_ne (by decide))
  obtain ⟨comment, rest, eq, others⟩ := h.lines_eq
  rw [List.forall_mem_append] at others
  have named : constant? ("export const " ++ h.name ++ " = (") = some h.name :=
    Text.between?_append
  rw [eq, List.filterMap_append, none others.1, List.nil_append, List.filterMap_cons_some named,
    none others.2]

/-- A hook imports nothing. -/
lemma not_isImport_lines (h : Hook) : ∀ line ∈ "" :: h.lines, isImport line = false := by
  obtain ⟨comment, rest, eq, others⟩ := h.lines_eq
  rw [List.forall_mem_append] at others
  rw [eq, List.forall_mem_append, List.forall_mem_cons]
  refine ⟨fun line mem => ?_, ?_, fun line mem => ?_⟩
  · exact isImport_eq_false ((others.1 line mem).head?_ne (by decide))
  · apply isImport_eq_false
    rw [Text.head?_append (Text.head?_append (c := 'e') rfl)]
    decide
  · exact isImport_eq_false ((others.2 line mem).head?_ne (by decide))

/-- No line of a hook has a line feed in it. -/
lemma single_lines (regular : h.Regular) : ∀ line ∈ "" :: h.lines, '\n' ∉ line.toList := by
  have name : '\n' ∉ h.name.toList := regular.name.not_mem (by decide)
  have function : '\n' ∉ h.functionName.toList := regular.function.not_mem (by decide)
  have key : '\n' ∉ h.key.toList := fun mem => by
    rcases regular.key _ mem with isKey | isHyphen
    · exact absurd isKey (by decide)
    · exact absurd isHyphen (by decide)
  -- The comment of a hook quotes its description, the code its three names, and the rest is fixed.
  have lines : "" :: h.lines = ["", "/**", " * " ++ h.description, " */"] ++ h.codeLines := rfl
  rw [lines, List.forall_mem_append]
  constructor
  · simp only [List.forall_mem_cons]
    refine ⟨?_, ?_, Text.not_mem_append ?_ regular.description, ?_, List.forall_mem_nil _⟩
    all_goals exact Text.not_mem_ofList (by decide)
  · unfold codeLines
    cases h.kind with
    | query =>
      unfold queryLines
      simp only [List.forall_mem_cons]
      refine ⟨?name, ?params, ?options, ?_, ?_, ?key, ?run, ?_, ?_, ?_, List.forall_mem_nil _⟩
      case name => exact Text.not_mem_around (by decide) name (by decide)
      case key => exact Text.not_mem_around (by decide) key (by decide)
      case options => exact Text.not_mem_around (by decide) function (by decide)
      case params | run => split <;> exact Text.not_mem_around (by decide) function (by decide)
      all_goals exact Text.not_mem_ofList (by decide)
    | mutation =>
      unfold mutationLines
      simp only [List.forall_mem_cons]
      refine ⟨?name, ?_, ?result, ?_, ?params, ?_, ?_, ?_, ?_, ?_, ?args, ?run, ?_, ?_, ?_, ?_, ?_,
        ?_, List.forall_mem_nil _⟩
      case name => exact Text.not_mem_around (by decide) name (by decide)
      case result | params | args | run =>
        exact Text.not_mem_around (by decide) function (by decide)
      all_goals exact Text.not_mem_ofList (by decide)

end Hook

/-- The file of hooks declares the hooks, and takes what they use from the services and from the
query library. -/
structure HooksEmitted (hooks : List Hook) (functions : List String) (s : Settings)
    (file : String) : Prop where
  /-- From the first hook on, the constants of the file are the hooks. -/
  parts : file = Text.unlines (hooksHead hooks s) ++ Text.unlines (hooksBody hooks)
  constants : (Text.rows (Text.unlines (hooksBody hooks))).filterMap constant? = hooks.map Hook.name
  declared : ∀ h ∈ hooks,
    ∃ row ∈ Text.rows file, ("export const " ++ h.name ++ " = (").toList <+: row.toList
  imported : ∀ h ∈ hooks, h.functionName ∈ functions ∧
    Text.StandsIn (Hook.importLine "import" [h.functionName] "./services") file
  called : ∀ h ∈ hooks, ∀ n ∈ h.calls,
    n ∈ functions ∨ n ∈ Hook.runtimeNames hooks ∨ n = "queryClient.invalidateQueries"
  /-- What is imported from the query library is what some hook uses of it. -/
  library : hooks ≠ [] →
    Text.StandsIn (Hook.importLine "import" (Hook.runtimeNames hooks) s.queryLibrary) file ∧
      Text.StandsIn (Hook.importLine "import type" (Hook.typeNames hooks) s.queryLibrary) file
  /-- From a query library on one line nothing else is imported: the imports of the file are those
  two, if there is a hook, and those of the functions. -/
  imports : '\n' ∉ s.queryLibrary.toList →
    (Text.rows file).filter isImport = libraryImports hooks s ++ functionImports hooks
  runtime : ∀ n, n ∈ Hook.runtimeNames hooks ↔ n ∈ libraryFunctions ∧ ∃ h ∈ hooks, n ∈ h.calls
  options : ∀ n, n ∈ Hook.typeNames hooks ↔ n ∈ libraryTypes ∧ ∃ h ∈ hooks, n ∈ h.generics

section Hooks

variable {services : List Service} {s : Settings} {h : Hook}

/-- A hook calls the function of one of the services. -/
lemma functionName_mem (isHook : h ∈ hooksOf services) :
    h.functionName ∈ services.map Service.functionName := by
  obtain ⟨service, isService, hook⟩ := List.mem_filterMap.mp isHook
  obtain ⟨kind, _, rfl⟩ := Option.map_eq_some_iff.mp hook
  exact List.mem_map_of_mem isService

/-- The hooks are named after the endpoints that have one, in their order. -/
lemma map_name_hooksOf (services : List Service) :
    (hooksOf services).map Hook.name = services.filterMap fun s => s.endpoint.hookName? := by
  rw [hooksOf, List.map_filterMap]
  refine List.filterMap_congr fun service _ => ?_
  rw [Service.hook?, Option.map_map, Endpoint.hookName?]
  rfl

/-- The function that a hook calls is imported at the head. -/
lemma importLine_mem_hooksHead {hooks : List Hook} (isHook : h ∈ hooks) :
    Hook.importLine "import" [h.functionName] "./services" ∈ hooksHead hooks s :=
  List.mem_append_right _ (List.mem_map_of_mem isHook)

/-- If there are hooks, what they use of the library is imported at the head. -/
lemma library_mem_hooksHead {hooks : List Hook} (some : hooks ≠ []) :
    Hook.importLine "import" (Hook.runtimeNames hooks) s.queryLibrary ∈ hooksHead hooks s ∧
      Hook.importLine "import type" (Hook.typeNames hooks) s.queryLibrary ∈ hooksHead hooks s := by
  have none : hooks.isEmpty = false := List.isEmpty_eq_false_iff.mpr some
  rw [hooksHead, libraryImports, none, if_neg Bool.false_ne_true]
  exact ⟨List.mem_append_left _ (List.mem_append_right _ List.mem_cons_self),
    List.mem_append_left _ (List.mem_append_right _
      (List.mem_cons_of_mem _ (List.mem_singleton_self _)))⟩

/-- Each hook is exported in a line of its own. -/
lemma nameLine_mem_hooksBody {hooks : List Hook} (isHook : h ∈ hooks) :
    "export const " ++ h.name ++ " = (" ∈ hooksBody hooks := by
  obtain ⟨rest, eq, _⟩ := h.codeLines_eq
  have lines : h.lines = TypeScript.blockComment [h.description] ++ h.codeLines := rfl
  refine List.mem_flatMap.mpr ⟨h, isHook, List.mem_cons_of_mem _ ?_⟩
  rw [lines, eq]
  exact List.mem_append_right _ List.mem_cons_self

/-- An import of names without line feeds is on one line. -/
lemma single_importLine {keyword module : String} {names : List String}
    (isKeyword : keyword = "import" ∨ keyword = "import type")
    (inside : ∀ n ∈ names, '\n' ∉ n.toList) (single : '\n' ∉ module.toList) :
    '\n' ∉ (Hook.importLine keyword names module).toList ∧
      isImport (Hook.importLine keyword names module) = true := by
  have joined : '\n' ∉ (", ".intercalate names).toList :=
    Text.not_mem_intercalate (by decide) inside
  rw [Hook.importLine]
  constructor
  · refine Text.not_mem_append (Text.not_mem_append (Text.not_mem_append (Text.not_mem_append
      (Text.not_mem_append ?_ (by decide)) joined) (by decide)) single) (by decide)
    rcases isKeyword with rfl | rfl <;> decide
  · rw [isImport, List.isPrefixOf_iff_prefix]
    rcases isKeyword with rfl | rfl
    all_goals
      simp only [String.toList_append, List.append_assoc]
      exact ⟨_, rfl⟩

section Regular

variable (regular : ∀ h ∈ hooksOf services, h.Regular)
include regular

/-- No line of the hooks has a line feed in it. -/
lemma single_hooksBody : ∀ line ∈ hooksBody (hooksOf services), '\n' ∉ line.toList := by
  intro line mem
  obtain ⟨h, isHook, isLine⟩ := List.mem_flatMap.mp mem
  exact Hook.single_lines (regular h isHook) line isLine

/-- The constants that are read from the hooks are the hooks. -/
lemma constants_hooksBody :
    (Text.rows (Text.unlines (hooksBody (hooksOf services)))).filterMap constant? =
      (hooksOf services).map Hook.name := by
  have final : constant? "" = none := Text.between?_eq_none rfl (Text.head?_ne_ofList (by decide))
  rw [Text.rows_unlines (single_hooksBody regular), List.filterMap_append,
    List.filterMap_cons_none final, List.filterMap_nil, List.append_nil, hooksBody,
    List.filterMap_flatMap, List.map_eq_flatMap]
  exact List.flatMap_congr fun h _ => h.constants_lines

/-- The imports of a file of hooks are each on one line. -/
lemma single_imports (single : '\n' ∉ s.queryLibrary.toList) :
    ∀ line ∈ libraryImports (hooksOf services) s ++ functionImports (hooksOf services),
      '\n' ∉ line.toList ∧ isImport line = true := by
  have runtime : ∀ n ∈ Hook.runtimeNames (hooksOf services), '\n' ∉ n.toList := by
    have all : ∀ n ∈ libraryFunctions, '\n' ∉ n.toList := by decide
    exact fun n mem => all n ((Hook.mem_runtimeNames_iff regular).mp mem).1
  have types : ∀ n ∈ Hook.typeNames (hooksOf services), '\n' ∉ n.toList := by
    have all : ∀ n ∈ libraryTypes, '\n' ∉ n.toList := by decide
    exact fun n mem => all n ((Hook.mem_typeNames_iff regular).mp mem).1
  rw [List.forall_mem_append]
  constructor
  · unfold libraryImports
    split
    · exact List.forall_mem_nil _
    · rw [List.forall_mem_cons, List.forall_mem_singleton]
      exact ⟨single_importLine (.inl rfl) runtime single,
        single_importLine (.inr rfl) types single⟩
  · refine List.forall_mem_map.mpr fun h isHook => ?_
    have function : '\n' ∉ h.functionName.toList :=
      (regular h isHook).function.not_mem (by decide)
    exact single_importLine (.inl rfl) (List.forall_mem_singleton.mpr function) (by decide)

/-- The imports of the file of hooks are the lines that are meant as such. -/
lemma filter_isImport_rows (single : '\n' ∉ s.queryLibrary.toList) :
    (Text.rows (hooksFile services s)).filter isImport =
      libraryImports (hooksOf services) s ++ functionImports (hooksOf services) := by
  have comment : ∀ line ∈ hooksComment, '\n' ∉ line.toList ∧ isImport line = false := by decide
  have imports := single_imports regular single
  have body : ∀ line ∈ hooksBody (hooksOf services), isImport line = false := by
    intro line mem
    obtain ⟨h, _, isLine⟩ := List.mem_flatMap.mp mem
    exact h.not_isImport_lines line isLine
  have head : hooksHead (hooksOf services) s =
      hooksComment ++ (libraryImports (hooksOf services) s ++ functionImports (hooksOf services)) :=
    List.append_assoc ..
  have lines : ∀ line ∈ hooksHead (hooksOf services) s ++ hooksBody (hooksOf services),
      '\n' ∉ line.toList := by
    rw [head, List.forall_mem_append, List.forall_mem_append]
    exact ⟨⟨fun line mem => (comment line mem).1, fun line mem => (imports line mem).1⟩,
      single_hooksBody regular⟩
  have none {lines : List String} (others : ∀ line ∈ lines, isImport line = false) :
      lines.filter isImport = [] :=
    List.filter_eq_nil_iff.mpr fun line mem => by rw [others line mem]; exact Bool.false_ne_true
  have all := List.filter_eq_self.mpr fun line mem => (imports line mem).2
  have final : [""].filter isImport = [] := none (by decide)
  rw [hooksFile_eq, Text.rows_unlines lines, head, List.filter_append, List.filter_append,
    List.filter_append, none fun line mem => (comment line mem).2, none body, all,
    final, List.nil_append, List.append_nil, List.append_nil]

/-- All that is read off the file of hooks, for services whose hooks are regular. -/
lemma hooksEmitted (s : Settings) :
    HooksEmitted (hooksOf services) (services.map Service.functionName) s
      (hooksFile services s) where
  parts := (hooksFile_eq services s).trans (Text.unlines_append _ _)
  constants := constants_hooksBody regular
  declared h isHook := by
    have isLine := nameLine_mem_hooksBody isHook
    exact Text.exists_row (Text.standsIn_unlines (List.mem_append_right _ isLine))
      (List.prefix_refl _) (single_hooksBody regular _ isLine)
  imported h isHook := ⟨functionName_mem isHook,
    Text.standsIn_unlines (List.mem_append_left _ (importLine_mem_hooksHead isHook))⟩
  called h isHook n called := by
    rcases Hook.mem_calls regular isHook called with rfl | other
    · exact .inl (functionName_mem isHook)
    · exact .inr other
  library some := by
    obtain ⟨runtime, types⟩ := library_mem_hooksHead (s := s) some
    exact ⟨Text.standsIn_unlines (List.mem_append_left _ runtime),
      Text.standsIn_unlines (List.mem_append_left _ types)⟩
  imports := filter_isImport_rows regular
  runtime _ := Hook.mem_runtimeNames_iff regular
  options _ := Hook.mem_typeNames_iff regular

end Regular

end Hooks

/-- A document with an endpoint for each of some methods. -/
def Document.withMethods (methods : List String) : Document where
  title := some "Items"
  version := some "1.0.0"
  description := none
  baseUrl := some "https://api.example.com"
  authentication := none
  globalHeaders := none
  timeout := none
  endpoints := methods.map fun method =>
    { id := some method, name := some "item", method := some method, path := some "/item"
      summary := none, description := none, tags := [], parameters := none, requestBody := none
      responses := [⟨some 200, none, none, none, .null⟩], deprecated := false }
  models := none
  environments := none
  metadata := none

namespace Artifacts

/-- The file of hooks and the index only name what was emitted. -/
structure NamesEmitted (d : Document) (s : Settings) (a : Artifacts) : Prop where
  services : a.services.map Service.functionName = d.endpoints.map Naming.function
  functions : ∀ n ∈ a.services.map Service.functionName,
    ∃ row ∈ Text.rows a.servicesCode, ("export const " ++ n ++ " = async (").toList <+: row.toList
  index : exportBlocks none (Text.rows a.index) =
    ("./services", a.services.map Service.functionName) ::
      if s.includeHooks then [("./hooks", (hooksOf a.services).map Hook.name)] else []
  hooks : s.includeHooks = true →
    HooksEmitted (hooksOf a.services) (a.services.map Service.functionName) s a.hooks
  withoutHooks : s.includeHooks = false →
    ∀ row ∈ Text.rows a.index, Text.occursIn "./hooks".toList row.toList = false
  withoutTypes : s.includeTypes = false →
    ∀ row ∈ Text.rows a.index, Text.occursIn "./types".toList row.toList = false

section Valid

variable {d : Document} (wellFormed : d.WellFormed) (s : Settings)
include wellFormed

/-- The hooks of a well-formed document are regular. -/
lemma regular_hooksOf : ∀ h ∈ hooksOf (ofDocument d s).services, h.Regular := by
  intro h isHook
  obtain ⟨_, isService, isHook⟩ := List.mem_filterMap.mp isHook
  obtain ⟨e, isEndpoint, rfl⟩ := List.mem_map.mp isService
  exact Service.regular_hook (wellFormed.endpoints e isEndpoint).method isHook

/-- Functions and hooks of a well-formed document are named by symbols. -/
lemma isSymbol_names :
    ∀ n ∈ (ofDocument d s).services.map Service.functionName ++
      (hooksOf (ofDocument d s).services).map Hook.name, Naming.IsSymbol n := by
  intro n mem
  rcases List.mem_append.mp mem with function | hook
  · obtain ⟨_, isService, rfl⟩ := List.mem_map.mp function
    obtain ⟨e, isEndpoint, rfl⟩ := List.mem_map.mp isService
    exact Naming.isSymbol_function (wellFormed.endpoints e isEndpoint).method
  · obtain ⟨h, isHook, rfl⟩ := List.mem_map.mp hook
    exact (regular_hooksOf wellFormed s h isHook).name

/-- The lines of the index of a well-formed document. -/
lemma rows_index :
    Text.rows (ofDocument d s).index =
      indexLines ((ofDocument d s).services.map Service.functionName)
        ((hooksOf (ofDocument d s).services).map Hook.name) s ++ [""] := by
  have index : (ofDocument d s).index = indexFile (ofDocument d s).services s := rfl
  rw [index, indexFile_eq, ← map_name_hooksOf]
  exact rows_indexLines (isSymbol_names wellFormed s)

/-- Every function of a well-formed document is exported in a line of the services. -/
lemma exists_functionRow {n : String}
    (mem : n ∈ (ofDocument d s).services.map Service.functionName) :
    ∃ row ∈ Text.rows (ofDocument d s).servicesCode,
      ("export const " ++ n ++ " = async (").toList <+: row.toList := by
  obtain ⟨_, isService, rfl⟩ := List.mem_map.mp mem
  obtain ⟨e, isEndpoint, rfl⟩ := List.mem_map.mp isService
  have symbol : Naming.IsSymbol (Naming.function e) :=
    Naming.isSymbol_function (wellFormed.endpoints e isEndpoint).method
  have head : Text.StandsIn e.functionHead (ofDocument d s).servicesCode :=
    functionLine_standsIn isEndpoint Endpoint.functionHead_mem
  refine Text.exists_row head ?_ ?_
  · refine ⟨(", ".intercalate (e.signature.map Binding.text) ++ "): " ++ e.resultType ++
      " => \x7b").toList, ?_⟩
    rw [Endpoint.functionHead_eq, ← String.toList_append]
    simp only [String.append_assoc]
    rfl
  · exact Text.not_mem_append (Text.not_mem_append (by decide) (symbol.not_mem (by decide)))
      (by decide)

end Valid

/-- The client of a valid document only names what was emitted. -/
theorem names_emitted {d : Document} (valid : d.report.isValid = true) (s : Settings) :
    NamesEmitted d s (ofDocument d s) := by
  have wellFormed : d.WellFormed :=
    Document.faultFree_findings_iff.mp (Report.ofFindings_isValid.mp valid)
  have symbols := isSymbol_names wellFormed s
  exact {
    services := List.map_map
    functions := fun n mem => exists_functionRow wellFormed s mem
    index := by rw [rows_index wellFormed, exportBlocks_indexLines]
    hooks := fun on => by
      rw [show (ofDocument d s).hooks = hooksFile (ofDocument d s).services s from if_pos on]
      exact hooksEmitted (regular_hooksOf wellFormed s) s
    withoutHooks := fun off => by
      rw [rows_index wellFormed]
      exact not_occursIn_of_withoutHooks symbols off
    withoutTypes := fun off => by
      rw [rows_index wellFormed]
      exact not_occursIn_of_withoutTypes symbols off }

/-- A query, a mutation, and an endpoint without a hook. -/
theorem names_emitted_item :
    (Document.withMethods ["GET", "POST", "HEAD"]).report.isValid = true ∧
      NamesEmitted (.withMethods ["GET", "POST", "HEAD"]) Settings.default
        (ofDocument (.withMethods ["GET", "POST", "HEAD"]) Settings.default) := by
  have valid : (Document.withMethods ["GET", "POST", "HEAD"]).report.isValid = true := by
    decide +kernel
  exact ⟨valid, names_emitted valid Settings.default⟩

end Artifacts

end ClientSynth
