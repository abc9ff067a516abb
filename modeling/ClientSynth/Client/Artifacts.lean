import ClientSynth.Client.Hook
import ClientSynth.Validation.Report

/-!
# Artifacts

The four files of a client, and the guarded way to them: `Artifacts.ofValue` generates only from a
document without faults.
-/

namespace ClientSynth

/-- The lines of an index that export names from a module. -/
def exportLines (names : List String) (module : String) : List String :=
  ["export \x7b"] ++ names.map (fun n => "  " ++ n ++ ",") ++ ["\x7d from '" ++ module ++ "';"]

/-- The text of the index, which exports everything that was generated. -/
def indexFile (services : List Service) (s : Settings) : String :=
  let hooks := services.filterMap fun s => s.endpoint.hookName?
  Text.unlines (["/**", " * API services and hooks", " * Generated file. Do not edit by hand.",
      " */", "", "// Service functions"] ++
    exportLines (services.map Service.functionName) "./services" ++
    (if s.includeHooks then
      ["", "// React hooks"] ++
        (if hooks.isEmpty then ["export \x7b\x7d from './hooks';"] else exportLines hooks "./hooks")
    else []) ++
    (if s.includeTypes then ["", "// Type definitions", "export * from './types';"] else []))

/-- Everything that is generated for a document. The text of a disabled artifact is empty. -/
structure Artifacts where
  services : List Service
  types : String
  servicesCode : String
  hooks : String
  index : String
  totalFunctions : Int

namespace Artifacts

/-- The artifacts for a document. -/
def ofDocument (d : Document) (s : Settings) : Artifacts :=
  let services := d.endpoints.map fun e => e.service s
  { services
    types := if s.includeTypes then d.typesFile else ""
    servicesCode := servicesFile d services s
    hooks := if s.includeHooks then hooksFile services s else ""
    index := indexFile services s
    totalFunctions := services.length }

/-- The artifacts that a record is. -/
def read (v : Value) : Artifacts where
  services := (v.field "services").items.map Service.read
  types := (v.field "types").text?.getD ""
  servicesCode := (v.field "servicesCode").text?.getD ""
  hooks := (v.field "hooks").text?.getD ""
  index := (v.field "index").text?.getD ""
  totalFunctions := (v.field "totalFunctions").int?.getD 0

/-- Why nothing was generated for a value. -/
inductive Refusal where
  /-- Validation found faults. -/
  | blocked (validation : Validation)
  /-- The value is no document although validation found no fault in it. -/
  | rejected (rejections : List Rejection)
  /-- Validation stopped. -/
  | crashed (crash : Crash)

/-- The message of blocked generation. -/
def blockedMessage (r : Report) : String :=
  let count := r.errors.length
  "Generation blocked: documentation has " ++ Text.ofNat count ++ " validation " ++
    (if count = 1 then "error" else "errors")

/-- The artifacts for a value, if validation finds no fault in it. -/
def ofValue (v : Value) (s : Settings) : Except Refusal Artifacts :=
  match v.validate with
  | .error crash => .error (.crashed crash)
  | .ok validation =>
    if validation.report.isValid then
      match Document.ofValue v with
      | .ok d => .ok (ofDocument d s)
      | .error rs => .error (.rejected rs)
    else .error (.blocked validation)

end Artifacts

end ClientSynth
