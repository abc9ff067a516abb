import ClientSynth.Crash
import ClientSynth.Naming
import ClientSynth.Validation.Salvage
import ClientSynth.Validation.Traversal

/-!
# Validation

`Validation.ofValue` reports everything that is wrong with a value as a document: the values of the
wrong kind, and what the traversal of the rest finds, except about places that were taken out.
`Document.validation` reports on a document as it is. Either way the traversal puts status codes
into messages, which can hold no integer of too many digits: `Validation.checked` is the step that
both ways to a report share, and that stops there.
-/

namespace ClientSynth

/-- All that is found in a document, as a report. It is the report on the document where messages
can hold its status codes; see `Document.validate`. -/
def Document.report (d : Document) : Report :=
  .ofFindings d.findings

/-- Whether a status code of a document has too many digits for a message. -/
def Document.hasOversizedStatus (d : Document) : Bool :=
  d.endpoints.any fun e => e.responses.any fun r => r.statusCode.any Text.isOversized

/-- A report, and what is to be known about the way to it. -/
structure Validation where
  report : Report
  /-- Whether the document was given up before the traversal. -/
  gaveUp : Bool
  /-- Whether the traversal met a status code that no message can hold. -/
  isOversized : Bool

namespace Validation

/-- A reported rejection as a finding. -/
def rejectionFinding (r : Rejection) : Finding :=
  .fault r.location (.rejected r.cause)

/-- What is to say about a salvaged value. -/
def ofSalvage (s : Salvage) : Validation where
  report := .ofFindings (s.reported.map rejectionFinding ++
    (((s.document.map Document.findings).getD []).filter
      fun f => !isSuppressed s.rejected f.location))
  gaveUp := s.document.isNone
  isOversized := s.document.any Document.hasOversizedStatus

/-- What is to say about a value as a document. -/
def ofValue (v : Value) : Validation :=
  match v with
  | .map entries => ofSalvage (Value.salvage (.map entries))
  | _ => ⟨.ofFindings [.fault [] .notAnObject], false, false⟩

end Validation

/-- A validation that came to its end. It stops at a status code that no message can hold. -/
def Validation.checked (v : Validation) : Except Crash Validation :=
  if v.isOversized then .error .oversized else .ok v

/-- A validation comes to its end exactly where no status code has too many digits. -/
theorem Validation.checked_eq_ok_iff {v v' : Validation} :
    v.checked = .ok v' ↔ v.isOversized = false ∧ v = v' := by
  unfold checked
  cases v.isOversized <;> simp

/-- The validation of a value as a document. -/
def Value.validate (v : Value) : Except Crash Validation :=
  (Validation.ofValue v).checked

/-- What is to say about a document as it is. -/
def Document.validation (d : Document) : Validation :=
  ⟨d.report, false, d.hasOversizedStatus⟩

/-- The validation of a document as it is. -/
def Document.validate (d : Document) : Except Crash Validation :=
  d.validation.checked

/-- Where a document is validated, what is said is all that is found in it. -/
theorem Document.validate_eq_ok_iff {d : Document} {v : Validation} :
    d.validate = .ok v ↔ d.hasOversizedStatus = false ∧ d.validation = v :=
  Validation.checked_eq_ok_iff

/-- The places at which a text stands in a list. -/
def positions (x : String) (xs : List String) : List Nat :=
  (xs.zipIdx.filter fun e => e.1 == x).map Prod.snd

/-- Each text that stands at several places, with its places, by first occurrence. -/
def repeatedTexts (xs : List String) : List (String × List Nat) :=
  (xs.eraseDups.map fun x => (x, positions x xs)).filter fun e => 2 ≤ e.2.length

/-- The second of the places that a text stands at. -/
def secondPlace (places : List Nat) : Location :=
  Location.index [.key "endpoints"] (places.getD 1 0)

/-- The remarks about function names that several endpoints have. -/
def functionNameRemarks (endpoints : List Endpoint) : List (Located Remark) :=
  (repeatedTexts (endpoints.map Naming.function)).map fun (name, places) =>
    ⟨(secondPlace places).key "name", .sharedFunction name places⟩

end ClientSynth
