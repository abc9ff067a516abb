import ClientSynth.Proofs.Bindings
import ClientSynth.Proofs.ImportedTypes

/-!
# Calls of the client

What a service function passes to the client is a list of arguments, in which names of bindings
stand in the URL and on their own. Signature and call are made from different conditions, but every
name in an argument is that of a parameter of the function (`Endpoint.callBound`). The converse
holds of the request's configuration only: a request body is passed unless the method is `GET` or
`DELETE`, and query parameters are when it is `GET` or `HEAD` (`Document.passesOn`).

Calls are looked at as lists of arguments rather than as texts, and one lemma says that the text is
made of these (`ClientCall.map_text_request` for the general request). What is bound and what is
passed are then two conditions on the method and on the endpoint, which are compared case by case.
-/

namespace ClientSynth

/-! ## Arguments -/

/-- The name that a piece of a URL is filled with. -/
def UrlPiece.slot? : UrlPiece → Option String
  | .text _ => none
  | .slot name => some name

/-- An argument of a call of the client, or one of its options. -/
inductive Argument where
  /-- The template literal of the URL, after a label if it is an option. -/
  | url (label : String) (pieces : List UrlPiece)
  | method (word : String)
  | undefined
  | binding (name : String)
  /-- All options in what is bound to a name. -/
  | spread (name : String)

namespace Argument

/-- The text of an argument. -/
def text : Argument → String
  | .url label pieces => label ++ String.ofList ('`' :: pieces.flatMap UrlPiece.chars ++ ['`'])
  | .method word => "method: '" ++ word ++ "'"
  | .undefined => "undefined"
  | .binding name => name
  | .spread name => "..." ++ name

/-- The names of bindings in an argument. -/
def names : Argument → List String
  | .url _ pieces => pieces.filterMap UrlPiece.slot?
  | .method _ => []
  | .undefined => []
  | .binding name => [name]
  | .spread name => [name]

/-- A name that is passed, or nothing in its place. -/
def passedIf (isPassed : Bool) (name : String) : Argument :=
  if isPassed then .binding name else .undefined

/-- An argument that is passed under a condition is written under that condition. -/
lemma text_passedIf (isPassed : Bool) (name : String) :
    (passedIf isPassed name).text = argument isPassed name := by
  cases isPassed <;> rfl

end Argument

namespace ClientCall

/-- The method of the client that is called. -/
def member : ClientCall → String
  | .get _ => "get"
  | .send method _ => Text.lowerString method
  | .delete => "delete"
  | .request _ _ _ => "request"

/-- What opens the arguments and what closes them. Options stand in braces. -/
def brackets : ClientCall → String × String
  | .request _ _ _ => ("(\x7b ", " \x7d)")
  | _ => ("(", ")")

/-- The arguments of a call. -/
def arguments (pieces : List UrlPiece) : ClientCall → List Argument
  | .get params => [.url "" pieces, .passedIf params "params", .binding "config"]
  | .send _ data => [.url "" pieces, .passedIf data "data", .binding "config"]
  | .delete => [.url "" pieces, .binding "config"]
  | .request method params data =>
    [.method method, .url "url: " pieces] ++ (if params then [.binding "params"] else []) ++
      (if data then [.binding "data"] else []) ++ [.spread "config"]

/-- The names that are passed on their own. -/
def passed : ClientCall → List String
  | .get params => (if params then ["params"] else []) ++ ["config"]
  | .send _ data => (if data then ["data"] else []) ++ ["config"]
  | .delete => ["config"]
  | .request _ params data =>
    (if params then ["params"] else []) ++ (if data then ["data"] else []) ++ ["config"]

variable (call : ClientCall) (pieces : List UrlPiece)

/-- The arguments of a method that has a place for one name besides the configuration. -/
lemma intercalate_passedIf (url name : String) (isPassed : Bool) :
    ", ".intercalate [url, (Argument.passedIf isPassed name).text, "config"] ++ ")" =
      url ++ (", " ++ (argument isPassed name ++ ", config)")) := by
  rw [Argument.text_passedIf, String.intercalate_cons_cons, String.intercalate_cons_cons,
    String.intercalate_singleton, show ", config)" = ", " ++ ("config" ++ ")") from rfl]
  simp only [String.append_assoc]

/-- The arguments of the general request, as they are written. -/
lemma map_text_request (method : String) (params data : Bool) :
    ((request method params data).arguments pieces).map Argument.text =
      ["method: '" ++ method ++ "'", "url: " ++ (Argument.url "" pieces).text] ++
        (if params then ["params"] else []) ++ (if data then ["data"] else []) ++
        ["...config"] := by
  have label : (Argument.url "url: " pieces).text = "url: " ++ (Argument.url "" pieces).text := by
    rw [Argument.text, Argument.text, String.empty_append]
  have options : ((request method params data).arguments pieces).map Argument.text =
      ["method: '" ++ method ++ "'", (Argument.url "url: " pieces).text] ++
        (if params then ["params"] else []) ++ (if data then ["data"] else []) ++
        ["...config"] := by
    cases params <;> cases data <;> rfl
  rw [options, label]

/-- The text of a call, by its arguments. -/
lemma text_eq_arguments (client type : String) :
    call.text client type (Argument.url "" pieces).text =
      client ++ "." ++ call.member ++ "<" ++ type ++ ">" ++ call.brackets.1 ++
        ", ".intercalate ((call.arguments pieces).map Argument.text) ++ call.brackets.2 := by
  have opens : ">(" = ">" ++ "(" := rfl
  -- Each of the four forms prints its arguments in brackets of its own.
  cases call with
  | get params =>
    show client ++ ".get<" ++ type ++ ">(" ++ _ ++ ", " ++ argument params "params" ++
      ", config)" = client ++ "." ++ "get" ++ "<" ++ type ++ ">" ++ "(" ++
        ", ".intercalate [_, (Argument.passedIf params "params").text, "config"] ++ ")"
    rw [show ".get<" = "." ++ ("get" ++ "<") from rfl, opens]
    simp only [String.append_assoc, intercalate_passedIf]
  | send method data =>
    show client ++ "." ++ Text.lowerString method ++ "<" ++ type ++ ">(" ++ _ ++ ", " ++
      argument data "data" ++ ", config)" =
        client ++ "." ++ Text.lowerString method ++ "<" ++ type ++ ">" ++ "(" ++
          ", ".intercalate [_, (Argument.passedIf data "data").text, "config"] ++ ")"
    rw [opens]
    simp only [String.append_assoc, intercalate_passedIf]
  | delete =>
    show client ++ ".delete<" ++ type ++ ">(" ++ _ ++ ", config)" =
      client ++ "." ++ "delete" ++ "<" ++ type ++ ">" ++ "(" ++ ", ".intercalate [_, "config"] ++
        ")"
    rw [String.intercalate_cons_cons, String.intercalate_singleton, opens,
      show ".delete<" = "." ++ ("delete" ++ "<") from rfl,
      show ", config)" = ", " ++ ("config" ++ ")") from rfl]
    simp only [String.append_assoc]
  | request method params data =>
    rw [map_text_request]
    show client ++ ".request<" ++ type ++ ">(\x7b " ++ ", ".intercalate _ ++ " \x7d)" =
      client ++ "." ++ "request" ++ "<" ++ type ++ ">" ++ "(\x7b " ++ ", ".intercalate _ ++ " \x7d)"
    rw [show ".request<" = "." ++ ("request" ++ "<") from rfl,
      show ">(\x7b " = ">" ++ "(\x7b " from rfl]
    simp only [String.append_assoc]

/-- The names in the arguments of a call are those that the URL is filled with and those that are
passed on their own. -/
lemma flatMap_names_arguments :
    (call.arguments pieces).flatMap Argument.names =
      pieces.filterMap UrlPiece.slot? ++ call.passed := by
  cases call with
  | get params => cases params <;> rfl
  | send method data => cases data <;> rfl
  | delete => rfl
  | request method params data => cases params <;> cases data <;> rfl

/-- All that a call may pass on besides the URL. -/
lemma passed_subset : call.passed ⊆ ["params", "data", "config"] := by
  cases call with
  | get params => cases params <;> simp [passed]
  | send method data => cases data <;> simp [passed]
  | delete => simp [passed]
  | request method params data => cases params <;> cases data <;> simp [passed]

/-- Every call passes on the request's configuration. -/
lemma config_mem_passed : "config" ∈ call.passed := by
  cases call <;> simp [passed]

/-- A name is passed as an argument, or as one option or many. -/
lemma mem_passed_iff {name : String} :
    name ∈ call.passed ↔
      .binding name ∈ call.arguments pieces ∨ .spread name ∈ call.arguments pieces := by
  cases call with
  | get params => cases params <;> simp [passed, arguments, Argument.passedIf]
  | send method data => cases data <;> simp [passed, arguments, Argument.passedIf]
  | delete => simp [passed, arguments]
  | request method params data =>
    cases params <;> cases data <;> simp [passed, arguments, or_assoc]

end ClientCall

namespace Endpoint

variable {e : Endpoint} {s : Settings} {name : String}

/-- The arguments of the call of the client. -/
def arguments (e : Endpoint) : List Argument :=
  e.clientCall.arguments e.urlPieces

/-- The line of the service function that calls the client. -/
def callLine (e : Endpoint) (s : Settings) : String :=
  "    const response = await " ++ (s.clientName ++ "." ++ e.clientCall.member ++ "<" ++
    Naming.responseType e ++ ">" ++ e.clientCall.brackets.1 ++
    ", ".intercalate (e.arguments.map Argument.text) ++ e.clientCall.brackets.2) ++ ";"

/-- The line is the one that is written with the text of the call. -/
lemma callLine_eq (e : Endpoint) (s : Settings) :
    e.callLine s = "    const response = await " ++
      e.clientCall.text s.clientName (Naming.responseType e) e.urlLiteral ++ ";" := by
  have literal : e.urlLiteral = (Argument.url "" e.urlPieces).text := by
    rw [Argument.text, String.empty_append, urlLiteral]
  rw [literal, ClientCall.text_eq_arguments]
  rfl

lemma callLine_mem : e.callLine s ∈ e.functionLines s :=
  e.callLine_eq s ▸ e.call_mem

/-- The five shapes of a call, by the method. -/
lemma clientCall_cases (e : Endpoint) :
    (e.upperMethod = "GET" ∧ e.clientCall = .get e.hasQuery) ∨
      (e.upperMethod ∈ ["POST", "PUT", "PATCH"] ∧
        e.clientCall = .send e.upperMethod e.hasBody) ∨
      (e.upperMethod = "DELETE" ∧ e.clientCall = .delete) ∨
      (e.upperMethod ∉ ["GET", "POST", "PUT", "PATCH", "DELETE"] ∧
        e.clientCall =
          .request e.upperMethod (e.upperMethod == "HEAD" && e.hasQuery) e.hasBody) := by
  unfold clientCall
  dsimp only
  split
  case isTrue get => exact .inl ⟨get, rfl⟩
  case isFalse get =>
    split
    case isTrue send => exact .inr (.inl ⟨by simpa using send, rfl⟩)
    case isFalse send =>
      split
      case isTrue delete => exact .inr (.inr (.inl ⟨delete, rfl⟩))
      case isFalse delete =>
        refine .inr (.inr (.inr ⟨?_, rfl⟩))
        simp only [not_or] at send
        simp [get, send, delete]

/-- When the query parameters are passed on. -/
lemma params_mem_passed_iff :
    "params" ∈ e.clientCall.passed ↔
      e.hasQuery = true ∧ (e.upperMethod = "GET" ∨ e.upperMethod = "HEAD") := by
  rcases e.clientCall_cases with ⟨method, call⟩ | ⟨method, call⟩ | ⟨method, call⟩ | ⟨method, call⟩
  all_goals rw [call, ClientCall.passed]
  · simp [method]
  · simp only [List.mem_cons, List.not_mem_nil, or_false] at method
    rcases method with method | method | method <;> simp [method]
  · simp [method]
  · simp only [List.mem_cons, not_or] at method
    by_cases head : e.upperMethod = "HEAD"
    · simp [head]
    · simp [head, method]

/-- When the request body is passed on. -/
lemma data_mem_passed_iff :
    "data" ∈ e.clientCall.passed ↔
      e.hasBody = true ∧ e.upperMethod ≠ "GET" ∧ e.upperMethod ≠ "DELETE" := by
  rcases e.clientCall_cases with ⟨method, call⟩ | ⟨method, call⟩ | ⟨method, call⟩ | ⟨method, call⟩
  all_goals rw [call, ClientCall.passed]
  · simp [method]
  · simp only [List.mem_cons, List.not_mem_nil, or_false] at method
    rcases method with method | method | method <;> simp [method]
  · simp [method]
  · simp only [List.mem_cons, not_or] at method
    simp [method]

/-- When the function has each of the names that it may have of its own. -/
lemma mem_ownNames_iff :
    ("params" ∈ e.ownNames ↔ e.hasQuery = true) ∧ ("data" ∈ e.ownNames ↔ e.hasBody = true) ∧
      "config" ∈ e.ownNames := by
  rw [ownNames]
  cases e.hasQuery <;> cases e.hasBody <;> decide

/-- Nothing is passed but what the function takes. -/
lemma passed_subset : e.clientCall.passed ⊆ e.ownNames := by
  obtain ⟨params, data, config⟩ := e.mem_ownNames_iff
  intro name passes
  have known := e.clientCall.passed_subset passes
  simp only [List.mem_cons, List.not_mem_nil, or_false] at known
  rcases known with rfl | rfl | rfl
  · exact params.mpr (params_mem_passed_iff.mp passes).1
  · exact data.mpr (data_mem_passed_iff.mp passes).1
  · exact config

/-- What a function has a name of its own for it has a parameter for. -/
lemma exists_binding_of_ownName (own : name ∈ e.ownNames) : ∃ b ∈ e.signature, b.name = name := by
  rw [← List.mem_map, map_name_signature]
  exact List.mem_append_right _ own

/-- The URL is filled with identifiers of declared names only. -/
lemma exists_binding_of_slot (slot : name ∈ e.urlPieces.filterMap UrlPiece.slot?) :
    ∃ b ∈ e.signature, b.name = name := by
  obtain ⟨piece, isPiece, isSlot⟩ := List.mem_filterMap.mp slot
  obtain ⟨part, _, rfl⟩ := List.mem_map.mp isPiece
  cases part with
  | plain c => cases isSlot
  | token token =>
    rw [urlPiece] at isSlot
    split at isSlot
    case isTrue declared =>
      cases isSlot
      exact exists_binding (List.contains_iff_mem.mp declared)
    case isFalse => cases isSlot

/-- Every name in the call of the client is bound by the signature of its function. -/
structure CallBound (e : Endpoint) (s : Settings) : Prop where
  head : "export const " ++ Naming.function e ++ " = async (" ++
    ", ".intercalate (e.signature.map Binding.text) ++ "): Promise<APIResponse<" ++
    Naming.responseType e ++ ">> => \x7b" ∈ e.functionLines s
  call : e.callLine s ∈ e.functionLines s
  url : ∃ label, .url label e.urlPieces ∈ e.arguments
  bound : ∀ a ∈ e.arguments, ∀ name ∈ a.names, ∃ b ∈ e.signature, b.name = name

/-- Whatever an endpoint is and whichever shape its call has, the call uses no name that is not
that of a parameter of the service function. -/
theorem callBound (e : Endpoint) (s : Settings) : e.CallBound s where
  head := functionHead_mem
  call := callLine_mem
  url := by
    rw [arguments]
    cases e.clientCall with
    | request => exact ⟨"url: ", by simp [ClientCall.arguments]⟩
    | _ => exact ⟨"", List.mem_cons_self⟩
  bound a isArgument name mem := by
    have inCall : name ∈ e.arguments.flatMap Argument.names :=
      List.mem_flatMap.mpr ⟨a, isArgument, mem⟩
    rw [arguments, ClientCall.flatMap_names_arguments, List.mem_append] at inCall
    rcases inCall with slot | passes
    · exact exists_binding_of_slot slot
    · exact exists_binding_of_ownName (passed_subset passes)

/-- A name is passed on its own in the call of the client. -/
def Passes (e : Endpoint) (name : String) : Prop :=
  .binding name ∈ e.arguments ∨ .spread name ∈ e.arguments

/-- A function passes a name on exactly if its call has it as an argument. -/
lemma passes_iff : e.Passes name ↔ name ∈ e.clientCall.passed :=
  (e.clientCall.mem_passed_iff e.urlPieces).symm

/-- What a function takes besides the parameters of the path, and what of it is passed on. -/
structure PassesOn (e : Endpoint) : Prop where
  names : e.signature.map Binding.name = e.pathParameters.map bindingName ++ e.ownNames
  call : ∀ s, e.callLine s ∈ e.functionLines s
  takesData : "data" ∈ e.ownNames ↔ e.requestBody.isSome = true
  data : e.Passes "data" ↔
    "data" ∈ e.ownNames ∧ e.method ≠ some "GET" ∧ e.method ≠ some "DELETE"
  params : e.Passes "params" ↔
    "params" ∈ e.ownNames ∧ (e.method = some "GET" ∨ e.method = some "HEAD")
  config : "config" ∈ e.ownNames ∧ e.Passes "config"

/-- Of a known method the spelling in capitals is the spelling itself. -/
lemma upperMethod_of_known (known : IsWord (Method.all.map Method.word) e.method) :
    e.method = some e.upperMethod := by
  have upper : ∀ word ∈ Method.all.map Method.word, Text.upperString word = word := by decide
  obtain ⟨word, mem, eq⟩ := known
  rw [upperMethod, eq, Option.getD_some, upper word mem]

end Endpoint

namespace Document

variable {d : Document} {e : Endpoint}

/-- In a valid document, the service functions pass the query parameters on when they read, and the
configuration always; but a request body is dropped when the method is `GET` or `DELETE`. -/
theorem passesOn (valid : d.report.isValid = true) (mem : e ∈ d.endpoints) : e.PassesOn := by
  have wellFormed : d.WellFormed :=
    faultFree_findings_iff.mp (Report.ofFindings_isValid.mp valid)
  have method := Endpoint.upperMethod_of_known (wellFormed.endpoints e mem).method
  obtain ⟨takesParams, takesData, takesConfig⟩ := e.mem_ownNames_iff
  refine ⟨e.map_name_signature, fun _ => Endpoint.callLine_mem, takesData, ?_, ?_, takesConfig,
    Endpoint.passes_iff.mpr e.clientCall.config_mem_passed⟩
  · rw [Endpoint.passes_iff, Endpoint.data_mem_passed_iff, takesData, method]
    simp only [ne_eq, Option.some.injEq]
  · rw [Endpoint.passes_iff, Endpoint.params_mem_passed_iff, takesParams, method]
    simp only [Option.some.injEq]

end Document

/-- The endpoint `item` with a method and a request body. -/
def Endpoint.sending (method : String) : Endpoint :=
  let schema : Schema := ⟨some "object", none, .null, none, none, none, none, none⟩
  { withPath "/item" [] with
    method := some method
    requestBody := some ⟨some "application/json", some schema, .null⟩ }

/-- A document with one endpoint, which has a request body. -/
def Document.sending (method : String) : Document :=
  { withPath "/item" [] with endpoints := [.sending method] }

/-- Two valid documents with an endpoint whose function takes a request body and drops it. -/
theorem Document.passesOn_sending :
    (sending "DELETE").report.isValid = true ∧ (sending "GET").report.isValid = true ∧
      ("data" ∈ (Endpoint.sending "DELETE").ownNames ∧
        ¬(Endpoint.sending "DELETE").Passes "data") ∧
      ("data" ∈ (Endpoint.sending "GET").ownNames ∧ ¬(Endpoint.sending "GET").Passes "data") := by
  have validDelete : (sending "DELETE").report.isValid = true := by decide +kernel
  have validGet : (sending "GET").report.isValid = true := by decide +kernel
  have delete := passesOn validDelete List.mem_cons_self
  have get := passesOn validGet List.mem_cons_self
  refine ⟨validDelete, validGet, ⟨delete.takesData.mpr rfl, fun passes => ?_⟩,
    get.takesData.mpr rfl, fun passes => ?_⟩
  · exact (delete.data.mp passes).2.2 rfl
  · exact (get.data.mp passes).2.1 rfl

end ClientSynth
