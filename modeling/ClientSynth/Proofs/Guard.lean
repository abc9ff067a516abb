import ClientSynth.Client.Artifacts
import ClientSynth.Proofs.StatusCodes

/-!
# Guarded generation

Validation works on a copy from which it takes out what is refused, while artifacts are generated
from the value itself. The two agree: the first pass reports everything that a direct reading of the
value refuses, so that a value without faults is a document as it stands, and validation says of it
what it says of that document.

Validation of a value differs from that of a document by what salvaging takes out first, so the
proofs look at its first pass: what a direct reading refuses is what that pass rejects
(`Validation.errors_prefix`). Where there are no errors it had nothing to reject
(`Validation.exists_of_errors_nil`), and the document that is traversed is the one that is read
directly (`Validation.ofValue_of_ok`).
-/

namespace ClientSynth

/-- A fault as it is reported for a rejection: where it is, what the message is, and the code. -/
def Rejection.reported (r : Rejection) : String × String × FaultCode :=
  (r.location.text, r.cause.message, if r.cause = .missing then .requiredField else .invalidValue)

/-- A fault as it is reported: where it is, what the message is, and the code. -/
def Located.reported (f : Located Fault) : String × String × FaultCode :=
  (f.location.text, f.what.message, f.what.code)

namespace Value

variable {v : Value}

/-- The document that is salvaged from a JSON value was read from one. -/
lemma IsJson.document_salvageFrom (json : v.IsJson) {rejected : List Location} {passes : Nat}
    {d : Document} (h : (v.salvageFrom rejected passes).document = some d) :
    ∃ left : Value, left.IsJson ∧ Document.ofValue left = .ok d := by
  induction passes generalizing v rejected with
  | zero => cases h
  | succ passes ih =>
    rw [salvageFrom] at h
    cases eq : Document.ofValue v with
    | ok read =>
      rw [eq] at h
      cases h
      exact ⟨v, json, eq⟩
    | error rs =>
      rw [eq] at h
      simp only [discardAll_fst] at h
      exact ih (json.strip _) h

/-- The salvage of a document as it stands takes nothing out. -/
lemma salvage_of_ok (json : v.IsJson) {d : Document} (h : Document.ofValue v = .ok d) :
    v.salvage = ⟨some d, [], []⟩ := by
  rw [salvage, json.plain_eq, maxPasses, salvageFrom, h]

/-- The salvage of a value that is refused reports all that is refused first. -/
lemma reported_salvage_of_error (json : v.IsJson) {rs : List Rejection}
    (h : Document.ofValue v = .error rs) : rs <+: v.salvage.reported := by
  have all : rs.filter (fun r => !isSuppressed [] r.location) = rs :=
    List.filter_eq_self.mpr fun _ _ => rfl
  rw [salvage, json.plain_eq, maxPasses, salvageFrom, h]
  simp only [all]
  exact List.prefix_append _ _

/-- A value is never refused as a document without a reason. -/
lemma ofValue_ne_error_nil : Document.ofValue v ≠ .error [] :=
  (v.reasoned_conform _).map _

end Value

/-- Rejections that become findings are reported as they were. -/
lemma reported_rejections (rs : List Rejection) :
    ((rs.map Validation.rejectionFinding).filterMap Finding.fault?).map Located.reported =
      rs.map Rejection.reported := by
  induction rs with
  | nil => rfl
  | cons r rest ih => exact congrArg _ ih

namespace Validation

variable {entries : List (Scalar × Value)}

/-- Values read from JSON have no number that a message cannot hold, so validation comes to its end.
-/
lemma validate_eq (json : (Value.map entries).IsJson) :
    (Value.map entries).validate = .ok (ofValue (.map entries)) := by
  have fits : (ofValue (.map entries)).isOversized = false := by
    rw [ofValue, ofSalvage, Option.any_eq_false]
    intro d salvaged
    rw [Value.salvage, json.plain_eq] at salvaged
    obtain ⟨left, jsonLeft, read⟩ := json.document_salvageFrom salvaged
    rw [Document.hasOversizedStatus_eq_false jsonLeft read]
  exact checked_eq_ok_iff.mpr ⟨fits, rfl⟩

/-- The errors start with those of a direct reading. -/
lemma errors_prefix (json : (Value.map entries).IsJson) :
    (rejectionsOf (Document.ofValue (.map entries))).map Rejection.reported <+:
      (ofValue (.map entries)).report.errors.map Located.reported := by
  cases eq : Document.ofValue (.map entries) with
  | ok d => exact List.nil_prefix
  | error rs =>
    obtain ⟨later, same⟩ := Value.reported_salvage_of_error json eq
    rw [rejectionsOf_error, ofValue, ofSalvage, Report.ofFindings, ← same, List.map_append,
      List.append_assoc, List.filterMap_append, List.map_append, reported_rejections]
    exact List.prefix_append _ _

/-- A document as it stands is reported on as such. -/
lemma ofValue_of_ok (json : (Value.map entries).IsJson) {d : Document}
    (h : Document.ofValue (.map entries) = .ok d) :
    ofValue (.map entries) = d.validation := by
  have all : d.findings.filter (fun f => !isSuppressed [] f.location) = d.findings :=
    List.filter_eq_self.mpr fun _ _ => rfl
  rw [ofValue, Value.salvage_of_ok json h, ofSalvage]
  simp only [List.map_nil, List.nil_append, Option.map_some, Option.getD_some, all]
  rfl

/-- A value in which no errors are reported is a document as it stands. -/
lemma exists_of_errors_nil (json : (Value.map entries).IsJson)
    (h : (ofValue (.map entries)).report.errors = []) :
    ∃ d, Document.ofValue (.map entries) = .ok d := by
  cases eq : Document.ofValue (.map entries) with
  | ok d => exact ⟨d, rfl⟩
  | error rs =>
    -- A refusal has a reason, and each reason is an error at the front of the report.
    have first := errors_prefix json
    rw [eq, rejectionsOf_error, h, List.map_nil, List.prefix_nil, List.map_eq_nil_iff] at first
    exact absurd (first ▸ eq) Value.ofValue_ne_error_nil

end Validation

/-- What the guarded way to artifacts keeps to: how validation of a value, a direct reading of it
and the generation of artifacts from it go together. -/
structure Artifacts.Guarded (v : Value) (s : Settings) (validation : Validation) : Prop where
  /-- Validation goes through. -/
  validated : v.validate = .ok validation
  /-- The errors start with what a direct reading refuses, in its order. -/
  refused : (rejectionsOf (Document.ofValue v)).map Rejection.reported <+:
    validation.report.errors.map Located.reported
  /-- A valid value is a document as it stands, nothing of which is taken out, and validation says
  of it what it says of that document. -/
  built : validation.report.isValid = true →
    ∃ d, Document.ofValue v = .ok d ∧ v.salvage = ⟨some d, [], []⟩ ∧ validation.report = d.report
  /-- Generation is blocked, with the validation, exactly when there are errors. -/
  blocked : Artifacts.ofValue v s = .error (.blocked validation) ↔ validation.report.errors ≠ []
  /-- Otherwise the artifacts are those of the document. -/
  generated : validation.report.errors = [] →
    ∃ d, Document.ofValue v = .ok d ∧ Artifacts.ofValue v s = .ok (Artifacts.ofDocument d s)

/-- The way to artifacts is guarded for every JSON object, under all settings. -/
theorem Artifacts.guarded {entries : List (Scalar × Value)} (json : (Value.map entries).IsJson)
    (s : Settings) : Artifacts.Guarded (.map entries) s (Validation.ofValue (.map entries)) := by
  have validated := Validation.validate_eq json
  -- Without errors the value is a document as it stands, and so generation is not blocked.
  have generated : (Validation.ofValue (.map entries)).report.errors = [] →
      ∃ d, Document.ofValue (.map entries) = .ok d ∧
        Artifacts.ofValue (.map entries) s = .ok (Artifacts.ofDocument d s) := by
    intro none
    obtain ⟨d, read⟩ := Validation.exists_of_errors_nil json none
    refine ⟨d, read, ?_⟩
    have valid : (Validation.ofValue (.map entries)).report.isValid = true := by
      rw [Report.isValid, none, List.isEmpty_nil]
    rw [Artifacts.ofValue, validated]
    simp only [valid, if_true, read]
  refine ⟨validated, Validation.errors_prefix json, fun valid => ?_, ⟨fun blocked none => ?_,
    fun some => ?_⟩, generated⟩
  · obtain ⟨d, read⟩ := Validation.exists_of_errors_nil json (List.isEmpty_iff.mp valid)
    exact ⟨d, read, Value.salvage_of_ok json read,
      congrArg Validation.report (Validation.ofValue_of_ok json read)⟩
  · obtain ⟨d, _, made⟩ := generated none
    rw [made] at blocked
    cases blocked
  · have invalid : (Validation.ofValue (.map entries)).report.isValid = false := by
      rw [Report.isValid, List.isEmpty_eq_false_iff]
      exact some
    rw [Artifacts.ofValue, validated]
    simp only [invalid, Bool.false_eq_true, if_false]

/-- A number in place of the endpoints is refused, and generation is blocked. -/
theorem Artifacts.guarded_numberedEndpoints :
    (Value.map [(.text "endpoints", .int 42)]).IsJson ∧
      Artifacts.Guarded (.map [(.text "endpoints", .int 42)]) Settings.default
        (Validation.ofValue (.map [(.text "endpoints", .int 42)])) := by
  have small : (Scalar.int 42).IsJson := show Text.isOversized 42 = false by decide
  have json : (Value.map [(.text "endpoints", .int 42)]).IsJson :=
    .map (.cons nofun .nil) (List.forall_mem_singleton.mpr (.scalar small))
  exact ⟨json, Artifacts.guarded json Settings.default⟩

end ClientSynth
