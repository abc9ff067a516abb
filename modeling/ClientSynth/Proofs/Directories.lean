import Mathlib.Data.List.Basic
import ClientSynth.Proofs.Loading
import ClientSynth.Workspace.Settings

/-!
# Directories and files

How a workspace changes. It only grows (`Workspace.Grows`): directories are made and files are
written, and a path that led to a place still leads there. `Workspace.Keeps` says of a change which
files it leaves as they are, whatever comes of it.

Changes are computations that may fail half-way, so each lemma about one speaks of the workspace
afterwards, whatever the result. `Keeps` is closed under doing one thing after the other
(`Keeps.bind`), and `Grows` is reflexive and transitive, so both go up from the single steps, a
directory made or a file put, to making all directories of a path and writing a file below them.
-/

namespace ClientSynth.Workspace

variable {w w' w'' : Workspace} {p : Path} {place : Place} {name : String}

/-! ## Growth -/

/-- A workspace with at least the directories of another one, in the same working directory and
environment, and with the same order of sets. -/
structure Grows (w w' : Workspace) : Prop where
  current : w'.current = w.current
  environment : w'.environment = w.environment
  setOrder : w'.setOrder = w.setOrder
  directory : ∀ {place}, w.isDirectory place = true → w'.isDirectory place = true

/-- A workspace that does not change grows trivially. -/
lemma Grows.refl (w : Workspace) : w.Grows w := ⟨rfl, rfl, rfl, id⟩

/-- What grows twice grows. -/
lemma Grows.trans (h : w.Grows w') (later : w'.Grows w'') : w.Grows w'' :=
  ⟨later.current.trans h.current, later.environment.trans h.environment,
    later.setOrder.trans h.setOrder, fun inside => later.directory (h.directory inside)⟩

/-- A step that led somewhere leads there when there is more. -/
lemma Grows.stepsTo (h : w.Grows w') {start next : Place} {part : String}
    (step : w.StepsTo start part next) : w'.StepsTo start part next := by
  cases step with
  | up inside => exact .up (h.directory inside)
  | down inside down short => exact .down (h.directory inside) down short

/-- What is on the way to a place stays there. -/
lemma Grows.follow (h : w.Grows w') {path : String} {start : Place} {parts : List String}
    (way : w.follow path start parts = .ok place) : w'.follow path start parts = .ok place := by
  induction parts generalizing start with
  | nil => exact way
  | cons part rest ih =>
    obtain ⟨next, step, way⟩ := follow_cons_eq_ok.mp way
    exact follow_cons_eq_ok.mpr ⟨next, h.stepsTo step, ih way⟩

/-- A path that led to a place leads there when there is more. -/
lemma Grows.placeOf (h : w.Grows w') (found : w.placeOf p = .ok place) :
    w'.placeOf p = .ok place := by
  unfold Workspace.placeOf at found ⊢
  split at found
  · cases found
  case isFalse short =>
    rw [if_neg short, origin, h.current]
    exact h.follow found

/-- Where settings are looked for does not change. -/
lemma Grows.settingsDirectory (h : w.Grows w') : w'.settingsDirectory = w.settingsDirectory := by
  simp only [Workspace.settingsDirectory, baseDirectory, home, valueOf?, currentPath, h.current,
    h.environment]

/-! ## Making directories -/

section Steps

variable {α β : Type} {x : Change α} {f : α → Change β} {kept : Place → Prop}

/-- Doing one thing after the other, as a workspace goes through both. -/
lemma run_bind (x : Change α) (f : α → Change β) (w : Workspace) :
    (x >>= f).run.run w = match x.run.run w with
      | (.ok a, w') => (f a).run.run w'
      | (.error fault, w') => (.error fault, w') := by
  simp only [ExceptT.run_bind, StateT.run_bind]
  rcases x.run.run w with ⟨_ | _, w'⟩ <;> rfl

/-- A change that keeps the directories and the files at some places, whatever comes of it. -/
def Keeps (kept : Place → Prop) (x : Change α) : Prop :=
  ∀ w, w.Grows (x.run.run w).2 ∧
    ∀ place, kept place → (x.run.run w).2.fileAt? place = w.fileAt? place

/-- What two steps keep is kept by doing them one after the other. -/
lemma Keeps.bind (h : Keeps kept x) (later : ∀ a, Keeps kept (f a)) : Keeps kept (x >>= f) := by
  intro w
  obtain ⟨grows, files⟩ := h w
  rw [run_bind]
  rcases eq : x.run.run w with ⟨_ | a, w'⟩
  · rw [eq] at grows files
    exact ⟨grows, files⟩
  · rw [eq] at grows files
    obtain ⟨grows', files'⟩ := later a w'
    exact ⟨grows.trans grows', fun place mem => (files' place mem).trans (files place mem)⟩

end Steps

/-- Looking at the workspace goes on with it. -/
lemma run_get (f : Workspace → Change Unit) (w : Workspace) :
    (get >>= f).run.run w = (f w).run.run w :=
  rfl

/-- The last directory of a path is made, or it is there already, or there is a failure. -/
lemma makeLast_run (p : Path) (w : Workspace) :
    (makeLast p).run.run w = match w.withDirectory p with
      | .ok w' => (.ok (), w')
      | .error fault => (if w.isMade p fault then .ok () else .error fault, w) := by
  unfold makeLast
  rw [run_get]
  cases w.withDirectory p with
  | ok w' => rfl
  | error fault => cases made : w.isMade p fault <;> simp only [made] <;> rfl

/-- A directory whose way is missing comes after those on the way to it. -/
lemma makeAll_run (start : Path.Start) (part : String) (rest : List String) (w : Workspace) :
    (makeAll start (part :: rest)).run.run w =
      match w.withDirectory ⟨start, (part :: rest).reverse⟩ with
      | .error (.missing _) => (makeAll start rest >>= fun _ =>
          makeLast ⟨start, (part :: rest).reverse⟩).run.run w
      | _ => (makeLast ⟨start, (part :: rest).reverse⟩).run.run w := by
  rw [makeAll, run_get]
  cases w.withDirectory ⟨start, (part :: rest).reverse⟩ with
  | ok w' => rfl
  | error fault => cases fault <;> rfl

/-- A directory is made at the place that its path leads to. -/
lemma withDirectory_eq_ok (h : w.withDirectory p = .ok w') :
    ∃ place, w.placeOf p = .ok place ∧ w' = { w with directories := w.directories ++ [place] } := by
  unfold withDirectory at h
  cases found : w.placeOf p with
  | error fault => rw [found] at h; cases h
  | ok place =>
    rw [found] at h
    change (if _ then _ else _) = _ at h
    split at h
    · cases h
    · cases h
      exact ⟨place, rfl, rfl⟩

/-- Making a directory only adds to the workspace. -/
lemma grows_withDirectory (h : w.withDirectory p = .ok w') : w.Grows w' := by
  obtain ⟨place, _, rfl⟩ := withDirectory_eq_ok h
  refine ⟨rfl, rfl, rfl, fun {other} inside => ?_⟩
  simp only [isDirectory, List.any_append, Bool.or_eq_true] at inside ⊢
  tauto

section Keeping

variable {kept : Place → Prop}

/-- Making one directory writes no file. -/
lemma keeps_makeLast (p : Path) : Keeps kept (makeLast p) := by
  intro w
  rw [makeLast_run]
  cases made : w.withDirectory p with
  | ok w' =>
    obtain ⟨place, _, rfl⟩ := withDirectory_eq_ok made
    exact ⟨grows_withDirectory made, fun _ _ => rfl⟩
  | error fault => exact ⟨.refl w, fun _ _ => rfl⟩

/-- Making all directories of a path writes no file. -/
lemma keeps_makeAll (start : Path.Start) (parts : List String) :
    Keeps kept (makeAll start parts) := by
  induction parts with
  | nil => exact keeps_makeLast _
  | cons part rest ih =>
    intro w
    rw [makeAll_run]
    split
    · exact ih.bind (fun _ => keeps_makeLast _) w
    · exact keeps_makeLast _ w

/-- Making a directory leaves all that is there as it is. -/
lemma keeps_makeDirectory (p : Path) : Keeps kept (makeDirectory p) :=
  keeps_makeAll _ _

end Keeping

/-- A path that leads to a directory. -/
def LeadsTo (w : Workspace) (p : Path) (place : Place) : Prop :=
  w.placeOf p = .ok place ∧ w.isDirectory place = true

/-- A path that leads somewhere leads there when there is more. -/
lemma Grows.leadsTo (h : w.Grows w') (there : w.LeadsTo p place) : w'.LeadsTo p place :=
  ⟨h.placeOf there.1, h.directory there.2⟩

/-- After the directory at a path was made, the path leads to one. -/
lemma leadsTo_of_makeLast (h : (makeLast p).run.run w = (.ok (), w')) :
    ∃ place, w'.LeadsTo p place := by
  rw [makeLast_run] at h
  split at h
  case h_1 made =>
    cases h
    have grows := grows_withDirectory made
    obtain ⟨place, found, rfl⟩ := withDirectory_eq_ok made
    refine ⟨place, grows.placeOf found, ?_⟩
    simp [isDirectory]
  case h_2 fault failed =>
    split at h
    case isTrue made =>
      cases h
      unfold isMade at made
      split at made
      · cases made
      · split at made
        case h_1 place found => exact ⟨place, found, made⟩
        case h_2 => cases made
    case isFalse => cases h

/-- When all directories of a path were made, the path leads to one. -/
lemma leadsTo_of_makeAll {start : Path.Start} {parts : List String}
    (h : (makeAll start parts).run.run w = (.ok (), w')) :
    ∃ place, w'.LeadsTo ⟨start, parts.reverse⟩ place := by
  cases parts with
  | nil => exact leadsTo_of_makeLast h
  | cons part rest =>
    rw [makeAll_run] at h
    split at h
    · rw [run_bind] at h
      split at h
      · exact leadsTo_of_makeLast h
      · cases h
    · exact leadsTo_of_makeLast h

/-- When a directory was made, its path leads to it. -/
lemma leadsTo_of_makeDirectory (h : (makeDirectory p).run.run w = (.ok (), w')) :
    ∃ place, w'.LeadsTo p place := by
  have there := leadsTo_of_makeAll h
  rwa [List.reverse_reverse] at there

/-- Nothing is to be done about a directory that is there. -/
lemma makeDirectory_run_of_leadsTo (there : w.LeadsTo p place) :
    (makeDirectory p).run.run w = (.ok (), w) := by
  obtain ⟨found, inside⟩ := there
  have taken : w.withDirectory p = .error (.exists p.text) := by
    unfold withDirectory
    rw [found]
    change (if _ then _ else _) = _
    rw [if_pos (by rw [inside, Bool.true_or])]
  have last : (makeLast p).run.run w = (.ok (), w) := by
    rw [makeLast_run, taken]
    simp only [isMade, found, inside, if_true]
  unfold makeDirectory
  cases eq : p.parts.reverse with
  | nil =>
    have nothing : p = ⟨p.start, []⟩ := by rw [← List.reverse_eq_nil_iff.mp eq]
    rw [makeAll, ← nothing, last]
  | cons part rest =>
    have whole : (⟨p.start, (part :: rest).reverse⟩ : Path) = p := by
      rw [← eq, List.reverse_reverse]
    rw [makeAll_run, whole, taken, last]

/-! ## Places -/

/-- The workspace with a file at a place. -/
def withFile (w : Workspace) (place : Place) (bytes : List UInt8) : Workspace :=
  { w with files := putFile place bytes w.files }

/-- A file that was put has the bytes that were put. -/
lemma fileAt?_withFile_self {bytes : List UInt8} :
    (w.withFile place bytes).fileAt? place = some bytes := by
  unfold fileAt? withFile
  induction w.files with
  | nil => simp [putFile]
  | cons f rest ih =>
    rw [putFile]
    split
    · simp
    case isFalse other =>
      obtain ⟨key, b⟩ := f
      have ne : (place == key) = false := by simpa using fun same => other same.symm
      simpa [List.lookup_cons, ne] using ih

/-- After a file was put, the files are those before and that one. -/
lemma exists_mem_putFile_iff (q : Place → Prop) {bytes : List UInt8}
    {files : List (Place × List UInt8)} :
    (∃ f ∈ putFile place bytes files, q f.1) ↔ q place ∨ ∃ f ∈ files, q f.1 := by
  induction files with
  | nil => simp [putFile]
  | cons f rest ih =>
    rw [putFile]
    split
    case isTrue same =>
      simp only [List.mem_cons, exists_eq_or_imp, same]
      tauto
    case isFalse =>
      simp only [List.mem_cons, exists_eq_or_imp, ih]
      tauto

/-- A file that is put somewhere makes directories of the places above it. -/
lemma isDirectory_withFile_iff {bytes : List UInt8} {other : Place} :
    (w.withFile place bytes).isDirectory other = true ↔
      w.isDirectory other = true ∨ other <+: place ∧ other ≠ place := by
  have files : (∃ f ∈ putFile place bytes w.files, other <+: f.1 ∧ other ≠ f.1) ↔
      (other <+: place ∧ other ≠ place) ∨ ∃ f ∈ w.files, other <+: f.1 ∧ other ≠ f.1 :=
    exists_mem_putFile_iff fun key => other <+: key ∧ other ≠ key
  simp only [isDirectory, withFile, Bool.or_eq_true, List.isPrefixOf_iff_prefix, List.any_eq_true,
    Bool.and_eq_true, bne_iff_ne, files]
  exact (or_congr_right or_comm).trans or_assoc.symm

/-- A file more only adds to the workspace. -/
lemma grows_withFile (w : Workspace) (place : Place) (bytes : List UInt8) :
    w.Grows (w.withFile place bytes) :=
  ⟨rfl, rfl, rfl, fun inside => isDirectory_withFile_iff.mpr (.inl inside)⟩

/-- At the place that a path leads to is read what the file there holds. -/
lemma read?_of_placeOf (noNull : p.text.contains '\x00' = false) (h : w.placeOf p = .ok place) :
    w.read? p = .ok (w.fileAt? place) := by
  rw [read?, noNull, if_neg Bool.false_ne_true, h]

/-- At a place without a file nothing is read. -/
lemma read?_of_noFile (h : w.placeOf p = .ok place) (noFile : w.fileAt? place = none) :
    w.read? p = .ok none := by
  rw [read?, h]
  dsimp only
  rw [noFile]
  exact ite_self _

/-- At a path that leads nowhere nothing is read. -/
lemma read?_of_missing {path : String} (h : w.placeOf p = .error (.missing path)) :
    w.read? p = .ok none := by
  rw [read?, h]
  exact ite_self _

/-! ## The directory of the user's settings -/

/-- The directory of settings is made at its path, if the workspace has a place for it. -/
lemma makeSettingsDirectory_run (w : Workspace) :
    makeSettingsDirectory.run.run w = match w.settingsDirectory with
      | .ok directory => (makeDirectory directory).run.run w
      | .error fault => (.error fault, w) := by
  unfold makeSettingsDirectory
  rw [run_get]
  cases w.settingsDirectory <;> rfl

/-- Making the directory of the user's settings leaves all that is there as it is, and then the
directory is there. -/
lemma of_makeSettingsDirectory (made : makeSettingsDirectory.run.run w = (.ok (), w')) :
    w.Grows w' ∧ (∀ place, w'.fileAt? place = w.fileAt? place) ∧
      ∃ directory base, w'.settingsDirectory = .ok directory ∧ w'.LeadsTo directory base := by
  rw [makeSettingsDirectory_run] at made
  split at made
  case h_1 directory found =>
    have keeps : Keeps (fun _ => True) (makeDirectory directory) := keeps_makeDirectory directory
    obtain ⟨grows, files⟩ := keeps w
    rw [made] at grows files
    obtain ⟨base, there⟩ := leadsTo_of_makeDirectory made
    exact ⟨grows, fun place => files place trivial, directory, base,
      grows.settingsDirectory.trans found, there⟩
  case h_2 => cases made

end ClientSynth.Workspace
