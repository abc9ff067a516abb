import Mathlib.Data.List.Basic
import ClientSynth.Command.Run

/-!
# What steps of a session do

`Session.Does` says of a step what it ends with, which workspace it leaves and what it adds to the
standard output. There is a rule for each step that commands are made of, and what a longer step
does is put together from its parts: `Does.bind` goes on after a step that comes to its end, and
`Does.halt` passes over all that would come after one that stops. What is told on the standard error
is left open, so that the many steps that only record something are all alike (`Talks`).

Telling a message is another matter, since a console in colours may refuse it. The end of telling
messages is `Session.toldAll`, which is a crash exactly where a message is refused
(`Session.toldAll_eq_ok_iff`, `Session.exists_crash_of_writtenAll`). `Does.andThen` puts such ends
together, and where a console tells all messages they are as if nothing had been told
(`does_say_of_tells`).

`Completion.Is` says of a whole command what `Session.Does` says of a step.
-/

namespace ClientSynth

namespace Console

/-- A console tells a message, or leaves it out: nothing in it is refused. -/
def Tells (c : Console) (m : Message) : Prop :=
  (c.messageText m).isOk = true

/-- Without colours there is nothing to refuse. -/
lemma tells_of_colourless {c : Console} (colourless : c.colours = none) (m : Message) :
    c.Tells m := by
  unfold Tells messageText
  split
  · rfl
  · rw [colourless]
    rfl

end Console

namespace Session

/-- The end of writing a text: it is a crash if the text is refused. -/
def written : Except Crash String → Except Stop Unit
  | .ok _ => .ok ()
  | .error crash => .error (.crash crash)

/-- The end of writing texts one after the other. -/
def writtenAll (texts : List (Except Crash String)) : Except Stop Unit :=
  texts.forM written

/-- The end of telling messages one after the other. -/
def toldAll (c : Console) (messages : List Message) : Except Stop Unit :=
  writtenAll (messages.map c.messageText)

section Written

variable {c : Console} {text : Except Crash String} {texts : List (Except Crash String)}
  {messages : List Message}

/-- A text is written unless writing it crashes. -/
lemma written_eq_ok_iff : written text = .ok () ↔ text.isOk = true := by
  cases text with
  | ok _ => exact iff_of_true rfl rfl
  | error _ => exact iff_of_false nofun nofun

/-- Texts are written to their end exactly if none of them is refused. -/
lemma writtenAll_eq_ok_iff : writtenAll texts = .ok () ↔ ∀ text ∈ texts, text.isOk = true := by
  induction texts with
  | nil => exact iff_of_true rfl (List.forall_mem_nil _)
  | cons text rest ih =>
    rw [List.forall_mem_cons, ← written_eq_ok_iff, ← ih]
    change (written text >>= fun _ => writtenAll rest) = _ ↔ _
    cases written text with
    | ok _ => exact (and_iff_right rfl).symm
    | error _ => exact iff_of_false nofun (fun h => nomatch h.1)

/-- Only a crash keeps texts from being written. -/
lemma exists_crash_of_writtenAll (refused : ¬∀ text ∈ texts, text.isOk = true) :
    ∃ crash, writtenAll texts = .error (.crash crash) := by
  induction texts with
  | nil => exact absurd (List.forall_mem_nil _) refused
  | cons text rest ih =>
    change ∃ crash, (written text >>= fun _ => writtenAll rest) = _
    cases text with
    | error crash => exact ⟨crash, rfl⟩
    | ok _ => exact ih fun others => refused (List.forall_mem_cons.mpr ⟨rfl, others⟩)

/-- Messages are told to the end exactly if the console tells each of them. -/
lemma toldAll_eq_ok_iff : toldAll c messages = .ok () ↔ ∀ m ∈ messages, c.Tells m := by
  rw [toldAll, writtenAll_eq_ok_iff, List.forall_mem_map]
  rfl

/-- Messages are told one list after the other. -/
lemma toldAll_append (first second : List Message) :
    toldAll c (first ++ second) = toldAll c first >>= fun _ => toldAll c second := by
  rw [toldAll, List.map_append]
  exact List.forM_append

end Written

/-- What a step does in a console and a workspace, whatever was written before: it comes to an end,
leaves a workspace, and adds a text to the standard output. -/
def Does {α : Type} (x : Run α) (c : Console) (w : Workspace) (r : Except Stop α) (w' : Workspace)
    (added : String) : Prop :=
  ∀ output messages, ∃ messages',
    x.run.run ⟨c, w, output, messages⟩ = (r, ⟨c, w', output ++ added, messages'⟩)

/-- A step that only tells something on the standard error. -/
def Talks (x : Run Unit) : Prop :=
  ∀ c w, Does x c w (.ok ()) w ""

section Rules

variable {α β : Type} {x : Run α} {f : α → Run β} {c : Console} {w w' w₁ w₂ : Workspace}
  {r : Except Stop β} {a : α} {stop : Stop} {added text text' : String}

/-- Giving a result does nothing else. -/
lemma does_pure (a : α) : Does (pure a) c w (.ok a) w "" := fun _ messages =>
  ⟨messages, by rw [String.append_empty]; rfl⟩

/-- Stopping does nothing else. -/
lemma does_throw (stop : Stop) : Does (throw stop : Run α) c w (.error stop) w "" :=
  fun _ messages => ⟨messages, by rw [String.append_empty]; rfl⟩

/-- A step goes on after one that comes to its end, with what both print. -/
lemma Does.bind (h : Does x c w (.ok a) w₁ text) (later : Does (f a) c w₁ r w₂ text') :
    Does (x >>= f) c w r w₂ (text ++ text') := by
  intro output messages
  obtain ⟨messages₁, eq⟩ := h output messages
  obtain ⟨messages₂, eq'⟩ := later (output ++ text) messages₁
  refine ⟨messages₂, ?_⟩
  rw [← String.append_assoc, ← eq']
  simp only [ExceptT.run_bind, StateT.run_bind, eq]
  rfl

/-- What stops a step stops all that would come after it. -/
lemma Does.halt (h : Does x c w (.error stop) w₁ text) :
    Does (x >>= f) c w (.error stop) w₁ text := by
  intro output messages
  obtain ⟨messages₁, eq⟩ := h output messages
  refine ⟨messages₁, ?_⟩
  simp only [ExceptT.run_bind, StateT.run_bind, eq]
  rfl

/-- A step goes on after one that prints nothing. -/
lemma Does.after (h : Does x c w (.ok a) w₁ "") (later : Does (f a) c w₁ r w₂ text) :
    Does (x >>= f) c w r w₂ text := by
  have both := h.bind later
  rwa [String.empty_append] at both

/-- A step that prints nothing ends as the one before it did. -/
lemma Does.last (h : Does x c w (.ok a) w₁ text) (later : Does (f a) c w₁ r w₂ "") :
    Does (x >>= f) c w r w₂ text := by
  have both := h.bind later
  rwa [String.append_empty] at both

/-- A step that looks around sees the console and the workspace. -/
lemma does_get {f : Session → Run β}
    (h : ∀ s, s.console = c → s.workspace = w → Does (f s) c w r w' added) :
    Does (get >>= f) c w r w' added := by
  intro output messages
  obtain ⟨messages', eq⟩ := h ⟨c, w, output, messages⟩ rfl rfl output messages
  exact ⟨messages', eq⟩

/-- Printing adds its text to the output. -/
lemma does_print (text : String) : Does (print text) c w (.ok ()) w text :=
  fun _ messages => ⟨messages, rfl⟩

/-- Writing to the other stream only talks. -/
lemma talks_write (text : String) : Talks (write text) := fun _ _ _ messages =>
  ⟨messages ++ text, by rw [String.append_empty]; rfl⟩

/-- A result that is there is given. -/
lemma does_orCrash_ok (a : α) : Does (orCrash (.ok a)) c w (.ok a) w "" :=
  does_pure a

/-- A crash ends the command. -/
lemma does_orCrash_error (crash : Crash) :
    Does (orCrash (.error crash) : Run α) c w (.error (.crash crash)) w "" :=
  does_throw _

/-- Telling a message only writes it, or stops the command. -/
lemma does_say (m : Message) : Does (say m) c w (written (c.messageText m)) w "" :=
  does_get fun s here _ => by
    rw [here]
    cases c.messageText m with
    | ok text => exact (does_orCrash_ok text).after (talks_write text c w)
    | error crash => exact (does_orCrash_error crash).halt

/-- Two steps that leave the workspace and the output: the second one counts only if the first one
comes to its end. -/
lemma Does.andThen {x : Run Unit} {y : Run β} {r' : Except Stop Unit} (h : Does x c w r' w "")
    (later : Does y c w r w "") : Does (x >>= fun _ => y) c w (r' >>= fun _ => r) w "" := by
  cases r' with
  | ok _ => exact h.after later
  | error stop => exact h.halt

/-- A message that is told before others. -/
lemma Does.afterSaying {x : Run β} {m : Message} {messages : List Message}
    (later : Does x c w (toldAll c messages >>= fun _ => r) w "") :
    Does (say m >>= fun _ => x) c w (toldAll c (m :: messages) >>= fun _ => r) w "" := by
  have both := (does_say m).andThen later
  rwa [← bind_assoc] at both

/-- The last message that is told. -/
lemma does_say_last (m : Message) :
    Does (say m) c w (toldAll c [m] >>= fun _ => .ok ()) w "" := by
  have tells := does_say (c := c) (w := w) m
  rw [toldAll, List.map_singleton]
  cases eq : c.messageText m with
  | ok _ => rwa [eq] at tells
  | error _ => rwa [eq] at tells

/-- Telling a message for each of some things. -/
lemma does_forM_say (messageOf : α → Message) (items : List α) :
    Does (items.forM fun item => say (messageOf item)) c w (toldAll c (items.map messageOf)) w
      "" := by
  induction items with
  | nil => exact does_pure ()
  | cons item rest ih => exact (does_say (messageOf item)).andThen ih

/-- The end of a step that tells why it stops with a status. -/
def failed (c : Console) (text : String) (status : Nat) : Except Stop α :=
  written (c.messageText (.error text)) >>= fun _ => .error (.status status)

/-- A failure tells its message and ends with its status, or crashes on the message. -/
lemma does_fail (text : String) (status : Nat) :
    Does (fail text status : Run α) c w (failed c text status) w "" :=
  (does_say _).andThen (does_throw _)

/-- The end of a step that changes the workspace. -/
def afterChange (result : Except StorageFault Unit) : Except Stop Unit :=
  result.mapError fun fault => .crash (.storage fault)

/-- A change of the workspace ends as the change does. -/
lemma does_update {change : Workspace.Change Unit} {result : Except StorageFault Unit}
    (h : change.run.run w = (result, w')) :
    Does (update change) c w (afterChange result) w' "" := by
  intro output messages
  refine ⟨messages, ?_⟩
  have step : (update change).run.run ⟨c, w, output, messages⟩ =
      ((orCrash ((change.run.run w).1.mapError .storage)).run.run
        ⟨c, (change.run.run w).2, output, messages⟩ : Except Stop Unit × Session) := rfl
  rw [step, h, String.append_empty]
  cases result <;> rfl

/-- Telling something of each of some things is telling something. -/
lemma talks_forM {items : List α} {tell : α → Run Unit} (h : ∀ item ∈ items, Talks (tell item)) :
    Talks (items.forM tell) := by
  induction items with
  | nil => exact fun _ _ => does_pure ()
  | cons item rest ih =>
    intro c w
    exact (h item List.mem_cons_self c w).after
      (ih (fun item mem => h item (List.mem_cons_of_mem _ mem)) c w)

/-- Two steps that only talk, one after the other, only talk. -/
lemma Talks.bind {x y : Run Unit} (hx : Talks x) (hy : Talks y) : Talks (x >>= fun _ => y) :=
  fun c w => (hx c w).after (hy c w)

/-- Recording a fact only talks. -/
lemma talks_record (part text : String) : Talks (record part text) := fun c w =>
  does_get fun s _ _ => by
    split
    · exact talks_write _ c w
    · exact does_pure ()

lemma talks_alert (part text : String) : Talks (alert part text) := fun c w =>
  does_get fun s _ _ => by
    split
    · exact talks_record part text c w
    · exact talks_write _ c w

lemma talks_recordValidation (v : Validation) : Talks (recordValidation v) := by
  unfold recordValidation
  split
  · exact (talks_alert _ _).bind (talks_record _ _)
  · exact talks_record _ _

lemma talks_recordUnknownTypes (schemas : List Schema) : Talks (recordUnknownTypes schemas) :=
  talks_forM fun _ _ => talks_record _ _

lemma talks_recordService (s : Service) : Talks (recordService s) :=
  (talks_recordUnknownTypes _).bind ((talks_record _ _).bind (talks_recordUnknownTypes _))

lemma talks_recordGeneration (d : Document) (s : Settings) (a : Artifacts) :
    Talks (recordGeneration d s a) := by
  unfold recordGeneration
  refine (talks_forM fun _ _ => talks_recordService _).bind ?_
  split
  · exact (talks_recordUnknownTypes _).bind (talks_record _ _)
  · exact talks_record _ _

end Rules

/-! ## Documents and settings -/

section Sources

variable {c : Console} {w w' : Workspace}

/-- The end of a step that reads a document. -/
def afterLoad (c : Console) : Except Source.Fault Source.Entries → Except Stop Value
  | .ok entries => .ok (.map entries)
  | .error (.refused refusal) => failed c refusal.message sourceStatus
  | .error (.crashed crash) => .error (.crash crash)

/-- Reading a document gives its entries, or fails as loading does. -/
lemma does_document (source input : String) :
    Does (document source input) c w (afterLoad c (Source.load w source input)) w "" :=
  does_get fun s _ here => by
    rw [here]
    cases Source.load w source input with
    | ok entries => exact does_pure _
    | error fault =>
      cases fault with
      | refused refusal => exact does_fail _ _
      | crashed crash => exact does_throw _

/-- The end of a step that finds settings. -/
def afterSettings (c : Console) : Except SettingsFault Settings → Except Stop Settings
  | .ok settings => .ok settings
  | .error (.storage fault) => .error (.crash (.storage fault))
  | .error fault => failed c fault.message settingsStatus

/-- Settings that were found are given, or the command fails. -/
lemma does_orFail (found : Except SettingsFault Settings) :
    Does (orFail found) c w (afterSettings c found) w "" := by
  cases found with
  | ok settings => exact does_pure _
  | error fault =>
    cases fault with
    | storage fault => exact does_throw _
    | _ => exact does_fail _ _

/-- Finding settings makes their directory and resolves them. -/
lemma does_settings (request : Settings.Request)
    (made : Workspace.makeSettingsDirectory.run.run w = (.ok (), w')) :
    Does (settings request) c w (afterSettings c (Settings.resolve w' request)) w' "" :=
  (does_update made).after (does_get fun s _ here => by rw [here]; exact does_orFail _)

end Sources

end Session

/-! ## Completions -/

/-- A completion with a status, an output and a workspace, whatever it tells. -/
def Completion.Is (c : Completion) (status : Nat) (output : String) (w : Workspace) : Prop :=
  ∃ messages, c = ⟨status, output, messages, w⟩

section Parts

variable {c : Completion} {status : Nat} {output : String} {w : Workspace}

/-- What a completion is has its status. -/
lemma Completion.Is.status_eq (h : c.Is status output w) : c.status = status := by
  obtain ⟨_, rfl⟩ := h
  rfl

/-- What a completion is has its output. -/
lemma Completion.Is.output_eq (h : c.Is status output w) : c.output = output := by
  obtain ⟨_, rfl⟩ := h
  rfl

end Parts

namespace Completion

open Session

variable {output : String} {w w' : Workspace}

/-- The status that a command ends with. -/
def statusOf : Except Stop Unit → Nat
  | .ok _ => 0
  | .error (.status status) => status
  | .error (.crash _) => 1

/-- The workspace that a command leaves: after a crash there may be a file about it. -/
def workspaceAfter (w : Workspace) : Except Stop Unit → Workspace
  | .error (.crash crash) => ((logCrash crash).run.run w).2
  | _ => w

/-- What a command does comes of its invocation. -/
lemma is_ofInvocation (i : Invocation) (input : String) {r : Except Stop Unit}
    (h : Does (perform input i.command) i.console w r w' output) :
    (ofInvocation i input w).Is (statusOf r) output (workspaceAfter w' r) := by
  obtain ⟨messages, eq⟩ := h "" ""
  rw [String.empty_append] at eq
  unfold ofInvocation
  rw [eq]
  match r with
  | .ok _ => exact ⟨_, rfl⟩
  | .error (.status status) => exact ⟨_, rfl⟩
  | .error (.crash crash) => exact ⟨_, rfl⟩

end Completion

end ClientSynth
