import ClientSynth.Proofs.FilledPaths
import ClientSynth.Proofs.ImportedTypes
import ClientSynth.Proofs.Searches

/-!
# Comments at the head of a file

Files of types and of services start with a comment that quotes the title and the version of the
document, and the file of types has a comment of one line before the types of each endpoint, which
quotes its path. Other than documentation comments, these take the texts as they are. So the first
mark that ends a comment is the one on the fourth line exactly when what is quoted holds neither
such a mark nor a line terminator, and a path with a line terminator leaves its comment
(`Artifacts.headsClosed`).

The head of a file is a front, which quotes the document, with the mark that ends it and the rest of
the file behind. Searching it for the mark is split at the seams of the front
(`Document.closeMark_infix_headFront`): the fixed texts and the version cannot take part in a mark,
the first for what they are and the second because a version has no slash in it, so the title
decides. Line terminators are counted instead, part by part (`Document.lineBreaks_headFront`).
-/

namespace ClientSynth

/-! ## Line terminators -/

namespace TypeScript

/-- A character that ends a line of source, and with it a comment of one line. -/
def isLineTerminator (c : Char) : Bool :=
  c == '\n' || c == '\r' || c == '\u2028' || c == '\u2029'

/-- A text without line terminators. -/
def IsLine (text : List Char) : Prop :=
  ∀ c ∈ text, isLineTerminator c = false

instance (text : List Char) : Decidable (IsLine text) :=
  decidable_of_iff (text.all fun c => !isLineTerminator c) (by simp [IsLine])

/-- The number of line breaks in a text; a carriage return and the line feed after it are one. -/
def lineBreaks : List Char → Nat
  | [] => 0
  | '\r' :: '\n' :: rest => lineBreaks rest + 1
  | c :: rest => lineBreaks rest + if isLineTerminator c then 1 else 0

section LineBreaks

variable {xs ys text : List Char} {c : Char}

lemma lineBreaks_cons (plain : c ≠ '\r') (rest : List Char) :
    lineBreaks (c :: rest) = lineBreaks rest + if isLineTerminator c then 1 else 0 := by
  rw [lineBreaks]
  intro _ carriage
  exact absurd carriage plain

/-- Line breaks add up where no line feed is cut off from a carriage return. -/
lemma lineBreaks_append (kept : ys.head? ≠ some '\n') :
    lineBreaks (xs ++ ys) = lineBreaks xs + lineBreaks ys := by
  induction xs using lineBreaks.induct with
  | case1 => rw [List.nil_append, lineBreaks, Nat.zero_add]
  | case2 rest ih =>
    rw [List.cons_append, List.cons_append, lineBreaks, lineBreaks, ih]
    omega
  | case3 c rest other ih =>
    have alone : lineBreaks (c :: (rest ++ ys)) =
        lineBreaks (rest ++ ys) + if isLineTerminator c then 1 else 0 := by
      rw [lineBreaks]
      intro next carriage feed
      cases rest with
      | nil =>
        rw [List.nil_append] at feed
        rw [feed] at kept
        exact kept rfl
      | cons x rest =>
        rw [List.cons_append] at feed
        cases feed
        exact other rest carriage rfl
    rw [List.cons_append, alone, lineBreaks.eq_3 c rest other, ih]
    omega

/-- A text has no line breaks exactly if it is on one line. -/
lemma lineBreaks_eq_zero_iff : lineBreaks text = 0 ↔ IsLine text := by
  unfold IsLine
  induction text using lineBreaks.induct with
  | case1 => simp [lineBreaks]
  | case2 rest ih =>
    rw [lineBreaks, List.forall_mem_cons]
    exact iff_of_false (Nat.succ_ne_zero _) fun h => absurd h.1 (by decide)
  | case3 c rest other ih =>
    rw [lineBreaks.eq_3 c rest other, List.forall_mem_cons, ← ih]
    cases isLineTerminator c with
    | true => simp
    | false => simp

end LineBreaks

end TypeScript

/-! ## The first place of a mark -/

namespace Text

variable {front part text : List Char}

/-- A part stands in a text after some characters, and after no fewer. -/
def FirstAfter (front part text : List Char) : Prop :=
  front ++ part <+: text ∧
    ∀ shorter : List Char, shorter ++ part <+: text → front.length ≤ shorter.length

/-- Where a part stands, it stands first if it does not come up before its last character. -/
lemma firstAfter_iff (nonempty : part ≠ []) (stands : front ++ part <+: text) :
    FirstAfter front part text ↔ ¬part <:+: front ++ part.dropLast := by
  have some : 0 < part.length := List.length_pos_iff.mpr nonempty
  have before : front ++ part.dropLast <+: text :=
    ((List.prefix_append_right_inj front).mpr part.dropLast_prefix).trans stands
  constructor
  · rintro ⟨_, first⟩ ⟨shorter, rest, eq⟩
    have early : shorter ++ part <+: text :=
      (List.prefix_append (shorter ++ part) rest).trans (eq ▸ before)
    have lengths := congrArg List.length eq
    simp only [List.length_append, List.length_dropLast] at lengths
    have := first shorter early
    omega
  · intro absent
    refine ⟨stands, fun shorter early => ?_⟩
    by_contra less
    apply absent
    have within : shorter ++ part <+: front ++ part.dropLast := by
      apply List.prefix_of_prefix_length_le early before
      simp only [List.length_append, List.length_dropLast]
      omega
    exact (List.suffix_append shorter part).isInfix.trans within.isInfix

end Text

/-! ## Versions -/

namespace Version

variable {text : List Char}

/-- A version holds digits, letters, points and hyphens, and a line feed at its end only. -/
lemma Matches.chars (version : Matches text) :
    ∃ body ending, text = body ++ ending ∧ (ending = [] ∨ ending = ['\n']) ∧
      ∀ c ∈ body, Text.isDecimalDigit c = true ∨ isLabelChar c = true ∨ c = '.' := by
  obtain ⟨major, minor, patch, tail, ending, eq, isMajor, isMinor, isPatch, isTail, isEnding⟩ :=
    version
  refine ⟨_, ending, eq, isEnding, fun c mem => ?_⟩
  simp only [List.mem_append, List.mem_cons] at mem
  rcases mem with digit | rfl | digit | rfl | digit | inTail
  · exact .inl (isMajor.2 c digit)
  · exact .inr (.inr rfl)
  · exact .inl (isMinor.2 c digit)
  · exact .inr (.inr rfl)
  · exact .inl (isPatch.2 c digit)
  · rcases isTail with rfl | ⟨label, rfl, _, chars⟩
    · cases inTail
    · rcases List.mem_cons.mp inTail with rfl | inLabel
      · exact .inr (.inl (by decide))
      · exact .inr (.inl (chars c inLabel))

/-- No other character than these is in a version. -/
lemma Matches.not_mem (version : Matches text) {c : Char} (noDigit : Text.isDecimalDigit c = false)
    (noLabel : isLabelChar c = false) (other : c ≠ '.' ∧ c ≠ '\n') : c ∉ text := by
  obtain ⟨body, ending, rfl, isEnding, chars⟩ := version.chars
  rw [List.mem_append]
  rintro (mem | mem)
  · rcases chars c mem with digit | label | dot
    · rw [noDigit] at digit
      cases digit
    · rw [noLabel] at label
      cases label
    · exact other.1 dot
  · rcases isEnding with rfl | rfl
    · cases mem
    · exact other.2 (List.mem_singleton.mp mem)

/-- A version leaves its line by a line feed at its end, if at all. -/
lemma Matches.isLine_iff (version : Matches text) :
    TypeScript.IsLine text ↔ text.getLast? ≠ some '\n' := by
  constructor
  · intro line last
    exact absurd (line '\n' (List.mem_of_getLast? last)) (by decide)
  · intro other
    obtain ⟨body, ending, rfl, isEnding, chars⟩ := version.chars
    rcases isEnding with rfl | rfl
    · rw [List.append_nil] at other ⊢
      intro c mem
      rw [Bool.eq_false_iff]
      intro terminator
      have := chars c mem
      simp only [TypeScript.isLineTerminator, Bool.or_eq_true, beq_iff_eq] at terminator
      rcases terminator with ((rfl | rfl) | rfl) | rfl
      all_goals
        revert this
        decide
    · rw [List.getLast?_concat] at other
      exact absurd rfl other

end Version

/-! ## Heads -/

/-- The mark that ends a comment. -/
def closeMark : List Char :=
  ['*', '/']

namespace Document

variable {d : Document} {e : Endpoint} {subject file : String}

/-- What the head of a file says before the mark that ends it. -/
def headFront (d : Document) (subject : String) : String :=
  Text.unlines (d.fileHead subject).dropLast ++ " "

/-- What a head says before the title of the document. -/
def headOpening (subject : String) : String :=
  "/**" ++ "\n" ++ (" * " ++ subject) ++ "\n" ++ " * Generated from"

/-- What a head says after the version of the document, up to its mark. -/
def headEnding : String :=
  ". Do not edit by hand." ++ "\n" ++ " "

/-- The front of a head, with the title and the version in it. -/
lemma headFront_eq (d : Document) (subject : String) :
    d.headFront subject =
      headOpening subject ++ " " ++ d.titleText ++ " v" ++ d.version.getD "" ++ headEnding := by
  have lines : (d.fileHead subject).dropLast = ["/**", " * " ++ subject,
      " * Generated from " ++ d.titleText ++ " v" ++ d.version.getD "" ++
        ". Do not edit by hand."] := rfl
  have blank : " * Generated from " = " * Generated from" ++ " " := rfl
  have none : Text.unlines [] = "" := rfl
  rw [headFront, lines, blank]
  unfold headOpening headEnding
  simp only [Text.unlines_cons, none, String.append_assoc, String.empty_append]

lemma toList_headFront (d : Document) (subject : String) :
    (d.headFront subject).toList =
      (headOpening subject).toList ++ ' ' ::
        (d.titleText.toList ++ ' ' :: 'v' ::
          ((d.version.getD "").toList ++ headEnding.toList)) := by
  have blank : " ".toList = [' '] := rfl
  have letter : " v".toList = [' ', 'v'] := rfl
  rw [headFront_eq]
  simp only [String.toList_append, blank, letter, List.append_assoc, List.cons_append,
    List.nil_append]

/-- The first mark in a file that ends a comment is that of its head, on the fourth line. -/
structure ClosesHead (d : Document) (subject file : String) : Prop where
  first : Text.FirstAfter (d.headFront subject).toList closeMark file.toList
  line : TypeScript.lineBreaks (d.headFront subject).toList = 3

/-- What a head quotes can neither end its comment nor leave its line. -/
structure QuotesInline (d : Document) : Prop where
  title : ∀ title ∈ d.title,
    ¬closeMark <:+: title.toList ∧ TypeScript.IsLine title.toList
  version : ∀ version ∈ d.version, version.toList.getLast? ≠ some '\n'

/-- A subject of a head on one line, without a mark in it. -/
def IsSubject (subject : String) : Prop :=
  ¬closeMark <:+: (headOpening subject).toList ∧
    TypeScript.lineBreaks (headOpening subject).toList = 2

/-- A mark in the front of a head is one in the title. -/
lemma closeMark_infix_headFront (isSubject : IsSubject subject)
    (version : '/' ∉ (d.version.getD "").toList) :
    closeMark <:+: (d.headFront subject).toList ++ closeMark.dropLast ↔
      closeMark <:+: d.titleText.toList := by
  have blank : ' ' ∉ closeMark := by decide
  -- After the title there is a star at most, and no slash.
  have ending : ¬closeMark <:+:
      'v' :: ((d.version.getD "").toList ++ headEnding.toList) ++ closeMark.dropLast := by
    apply Text.not_infix_of_not_mem (c := '/') (by decide)
    simp only [List.cons_append, List.mem_cons, List.mem_append, version]
    decide
  rw [toList_headFront, List.append_assoc, List.cons_append, List.append_assoc, List.cons_append,
    Text.infix_append_cons_iff blank, Text.infix_append_cons_iff blank]
  constructor
  · rintro (opening | title | after)
    · exact absurd opening isSubject.1
    · exact title
    · exact absurd after ending
  · intro title
    exact .inr (.inl title)

/-- The line breaks of the front: three of its own, those of the title and those of the version. -/
lemma lineBreaks_headFront (isSubject : IsSubject subject) :
    TypeScript.lineBreaks (d.headFront subject).toList =
      3 + TypeScript.lineBreaks d.titleText.toList +
        TypeScript.lineBreaks (d.version.getD "").toList := by
  have ending : TypeScript.lineBreaks headEnding.toList = 1 := by decide
  rw [toList_headFront, TypeScript.lineBreaks_append (by simp), isSubject.2,
    TypeScript.lineBreaks_cons (by decide), TypeScript.lineBreaks_append (by simp),
    TypeScript.lineBreaks_cons (by decide), TypeScript.lineBreaks_cons (by decide),
    TypeScript.lineBreaks_append (by decide), ending]
  simp only [show TypeScript.isLineTerminator ' ' = false by decide,
    show TypeScript.isLineTerminator 'v' = false by decide, Bool.false_eq_true, if_false]
  omega

/-- A file starts with the front of its head and the mark. -/
lemma headFront_prefix (d : Document) (subject : String) (parts : List String) :
    (d.headFront subject).toList ++ closeMark <+:
      (Text.unlines (d.fileHead subject ++ parts)).toList := by
  have lines : d.fileHead subject = (d.fileHead subject).dropLast ++ [" */"] := rfl
  refine ⟨('\n' :: (Text.unlines parts).toList), ?_⟩
  rw [lines, Text.unlines_append, Text.unlines_append, headFront]
  simp [Text.unlines, closeMark]

variable (wellFormed : d.WellFormed)
include wellFormed

/-- What is quoted stays in the comment and on its line, in terms of title and version. -/
lemma quotesInline_iff :
    d.QuotesInline ↔ ¬closeMark <:+: d.titleText.toList ∧
      TypeScript.lineBreaks d.titleText.toList = 0 ∧
        TypeScript.lineBreaks (d.version.getD "").toList = 0 := by
  obtain ⟨title, isTitle, c, mem, _⟩ := wellFormed.title
  obtain ⟨version, isVersion, isMatch⟩ := wellFormed.numbered
  have some : title.isEmpty = false := by
    rw [Bool.eq_false_iff, ne_eq, String.isEmpty_iff]
    rintro rfl
    exact absurd mem List.not_mem_nil
  have text : d.titleText = title := by
    rw [titleText, isTitle]
    simp [some]
  rw [text, isVersion, Option.getD_some, TypeScript.lineBreaks_eq_zero_iff,
    TypeScript.lineBreaks_eq_zero_iff, isMatch.isLine_iff]
  constructor
  · intro inline
    obtain ⟨free, line⟩ := inline.title title isTitle
    exact ⟨free, line, inline.version version isVersion⟩
  · rintro ⟨free, line, last⟩
    refine ⟨fun t isT => ?_, fun v isV => ?_⟩
    · cases isTitle.symm.trans isT
      exact ⟨free, line⟩
    · cases isVersion.symm.trans isV
      exact last

/-- The head of a file closes where it should exactly when what it quotes stays inside. -/
lemma closesHead_iff (isSubject : IsSubject subject) (parts : List String) :
    d.ClosesHead subject (Text.unlines (d.fileHead subject ++ parts)) ↔ d.QuotesInline := by
  obtain ⟨version, isVersion, isMatch⟩ := wellFormed.numbered
  have slash : '/' ∉ (d.version.getD "").toList := by
    rw [isVersion]
    exact isMatch.not_mem (by decide) (by decide) (by decide)
  have first := Text.firstAfter_iff (by decide) (d.headFront_prefix subject parts)
  rw [closeMark_infix_headFront isSubject slash] at first
  have line := lineBreaks_headFront (d := d) isSubject
  rw [quotesInline_iff wellFormed]
  constructor
  · intro closes
    have := closes.line
    exact ⟨first.mp closes.first, by omega, by omega⟩
  · rintro ⟨free, title, version⟩
    exact ⟨first.mpr free, by omega⟩

omit wellFormed

/-! ## Labels -/

/-- The label of each endpoint stands in the file of types. -/
lemma endpointLabel_standsIn (isEndpoint : e ∈ d.endpoints) :
    Text.StandsIn (endpointLabel e) d.typesFile := by
  rw [typesFile_eq]
  apply Text.standsIn_unlines
  apply List.mem_append_right
  apply List.mem_flatMap.mpr
  exact ⟨e, isEndpoint, List.mem_append_left _ (List.mem_cons_of_mem _ List.mem_cons_self)⟩

/-- A label stands on one line exactly when the path does. -/
lemma isLine_endpointLabel_iff {path : String}
    (known : IsWord (Method.all.map Method.word) e.method) (isPath : e.path = some path) :
    TypeScript.IsLine (endpointLabel e).toList ↔ TypeScript.IsLine path.toList := by
  have words : ∀ word ∈ Method.all.map Method.word, TypeScript.IsLine word.toList := by decide
  have slashes : TypeScript.IsLine "// ".toList := by decide
  obtain ⟨word, isWord, isMethod⟩ := known
  have label : (endpointLabel e).toList = "// ".toList ++ word.toList ++ ' ' :: path.toList := by
    rw [endpointLabel, isMethod, isPath]
    simp
  rw [label]
  constructor
  · intro line c mem
    exact line c (List.mem_append_right _ (List.mem_cons_of_mem _ mem))
  · intro line c mem
    rcases List.mem_append.mp mem with before | after
    · rcases List.mem_append.mp before with slash | inWord
      · exact slashes c slash
      · exact words word isWord c inWord
    · rcases List.mem_cons.mp after with rfl | inPath
      · decide
      · exact line c inPath

end Document

namespace Artifacts

/-- The comments at the head of the files and the labels of endpoints end where they should exactly
when what they quote stays inside. -/
structure HeadsClosed (d : Document) (s : Settings) (a : Artifacts) : Prop where
  types : s.includeTypes = true →
    (d.ClosesHead "API type definitions" a.types ↔ d.QuotesInline)
  services : d.ClosesHead "API service functions" a.servicesCode ↔ d.QuotesInline
  labels : s.includeTypes = true → ∀ e ∈ d.endpoints,
    Text.StandsIn (Document.endpointLabel e) a.types ∧
      ∀ path ∈ e.path, TypeScript.IsLine (Document.endpointLabel e).toList ↔
        TypeScript.IsLine path.toList

/-- In the files of a valid document the first mark that ends a comment is that of the head, on the
fourth line, exactly when neither the title nor the version ends the comment or its line before it.
The label of an endpoint is one line exactly when its path is. -/
theorem headsClosed {d : Document} (valid : d.report.isValid = true) (s : Settings) :
    HeadsClosed d s (ofDocument d s) := by
  have wellFormed : d.WellFormed :=
    Document.faultFree_findings_iff.mp (Report.ofFindings_isValid.mp valid)
  have typesOf (on : s.includeTypes = true) : (ofDocument d s).types = d.typesFile := if_pos on
  constructor
  case types =>
    intro on
    rw [typesOf on, Document.typesFile_eq]
    simp only [List.append_assoc]
    exact Document.closesHead_iff wellFormed ⟨by decide, by decide⟩ _
  case services =>
    rw [servicesCode_eq, Document.servicesParts]
    simp only [List.append_assoc]
    exact Document.closesHead_iff wellFormed ⟨by decide, by decide⟩ _
  case labels =>
    intro on e isEndpoint
    rw [typesOf on]
    refine ⟨Document.endpointLabel_standsIn isEndpoint, fun path isPath => ?_⟩
    exact Document.isLine_endpointLabel_iff (wellFormed.endpoints e isEndpoint).method isPath

/-- A document whose title ends a comment and whose path is on two lines. -/
def openHead : Document :=
  { Document.withPath "/item\nlist" [] with title := some "Items */ list" }

/-- A valid document whose title ends the comments at the head of both files before their mark, and
whose path leaves the comment that quotes it. -/
theorem headsClosed_openHead :
    openHead.report.isValid = true ∧
      ¬openHead.ClosesHead "API type definitions" (ofDocument openHead Settings.default).types ∧
      ¬openHead.ClosesHead "API service functions"
        (ofDocument openHead Settings.default).servicesCode ∧
      ∀ e ∈ openHead.endpoints, Text.StandsIn (Document.endpointLabel e)
          (ofDocument openHead Settings.default).types ∧
        ¬TypeScript.IsLine (Document.endpointLabel e).toList := by
  have valid : openHead.report.isValid = true := by decide +kernel
  have closed := headsClosed valid Settings.default
  have quotes : ¬openHead.QuotesInline := by
    intro inline
    have := (inline.title "Items */ list" rfl).1
    revert this
    decide
  refine ⟨valid, ?_, ?_, fun e isEndpoint => ?_⟩
  · exact fun closes => quotes ((closed.types rfl).mp closes)
  · exact fun closes => quotes (closed.services.mp closes)
  · obtain ⟨stands, line⟩ := closed.labels rfl e isEndpoint
    cases List.mem_singleton.mp isEndpoint
    refine ⟨stands, fun isLine => ?_⟩
    exact absurd ((line "/item\nlist" rfl).mp isLine) (by decide)

end Artifacts

end ClientSynth
