import Mathlib.Data.Set.List
import ClientSynth.Proofs.Audited
import ClientSynth.Proofs.ClientCalls
import ClientSynth.Proofs.Collisions

/-!
# Names and routes that several endpoints have

Remarks about what several endpoints have in common are made group by group: `SharedTexts` says
which groups a list of texts has. Both kinds of remark, on names of functions and on routes, tell
just these groups (`Audit.tells_shared`). In a valid document no two endpoints have one route, since
known methods are in upper case and end before the colon, so nothing is told about routes there
(`Artifacts.routes_apart`).

Groups are collected from the first text to the last, and each is listed where its text first
stands, with the places in order (`positions`). What is said about a group is said by its text and
its places alone, so the theorem for both kinds of remark is one lemma about lists of texts
(`tellsShared`) with the name of a function or the text of a route put in.
-/

namespace ClientSynth

/-! ## Groups of places -/

/-- A text that stands at several places: the first two of them, and those after. -/
structure Shared where
  text : String
  first : Nat
  second : Nat
  later : List Nat

/-- The places of a shared text, in order. -/
def Shared.places (g : Shared) : List Nat :=
  g.first :: g.second :: g.later

/-- The texts that stand at several places of a list. The order tells them apart, too, since a text
has one first place. -/
structure SharedTexts (xs : List String) (groups : List Shared) : Prop where
  places : ∀ g ∈ groups, ∀ i : Nat, i ∈ g.places ↔ xs[i]? = some g.text
  increasing : ∀ g ∈ groups, g.places.Pairwise (· < ·)
  complete : ∀ (x : String) (i j : Nat), i < j → xs[i]? = some x → xs[j]? = some x →
    ∃ g ∈ groups, g.text = x
  ordered : groups.Pairwise fun g h => g.first < h.first

section Places

variable {x y : String} {xs : List String} {i : Nat}

/-- The positions of a text are the places where it stands. -/
lemma mem_positions : i ∈ positions x xs ↔ xs[i]? = some x := by
  rw [positions, List.mem_map]
  constructor
  · rintro ⟨⟨z, j⟩, mem, rfl⟩
    obtain ⟨isPair, same⟩ := List.mem_filter.mp mem
    rw [← eq_of_beq same]
    exact List.mem_zipIdx_iff_getElem?.mp isPair
  · intro here
    refine ⟨(x, i), List.mem_filter.mpr ⟨?_, beq_self_eq_true x⟩, rfl⟩
    exact List.mem_zipIdx_iff_getElem?.mpr here

/-- Positions are in order, each of them once. -/
lemma pairwise_positions (x : String) (xs : List String) : (positions x xs).Pairwise (· < ·) := by
  have indexes : (positions x xs).Sublist (List.range' 0 xs.length) := by
    rw [← List.zipIdx_map_snd]
    exact List.filter_sublist.map Prod.snd
  exact List.Pairwise.sublist indexes List.pairwise_lt_range'

/-- One text stands in a list before another one does. -/
def Precedes (xs : List String) (x y : String) : Prop :=
  ∃ i : Nat, xs[i]? = some x ∧ ∀ j : Nat, xs[j]? = some y → i < j

/-- A place with a text is one of the list. -/
lemma lt_of_getElem? (here : xs[i]? = some x) : i < xs.length :=
  (List.getElem?_eq_some_iff.mp here).1

/-- Which of two texts comes first does not change when the list goes on. -/
lemma Precedes.append_singleton (before : Precedes xs x y) (z : String) :
    Precedes (xs ++ [z]) x y := by
  obtain ⟨i, here, first⟩ := before
  have inside := lt_of_getElem? here
  refine ⟨i, by rw [List.getElem?_append_left inside, here], fun j there => ?_⟩
  by_cases old : j < xs.length
  · rw [List.getElem?_append_left old] at there
    exact first j there
  · omega

/-- What is in a list stands before what is not. -/
lemma precedes_of_not_mem (mem : x ∈ xs) (new : y ∉ xs) : Precedes xs x y := by
  obtain ⟨i, here⟩ := List.mem_iff_getElem?.mp mem
  exact ⟨i, here, fun _ there => absurd (List.mem_of_getElem? there) new⟩

/-- Without its repetitions, a list has its members by first place. -/
lemma pairwise_eraseDups (xs : List String) : xs.eraseDups.Pairwise (Precedes xs) := by
  induction xs using List.reverseRecOn with
  | nil => exact .nil
  | append_singleton xs x ih =>
    have kept : xs.eraseDups.Pairwise (Precedes (xs ++ [x])) :=
      ih.imp fun before => before.append_singleton x
    rw [List.eraseDups_append]
    by_cases old : x ∈ xs
    · have none : [x].removeAll xs = [] := by simp [List.removeAll, old]
      rw [none, List.eraseDups_nil, List.append_nil]
      exact kept
    · have new : [x].removeAll xs = [x] := by simp [List.removeAll, old]
      rw [new, List.eraseDups_cons, List.filter_nil, List.eraseDups_nil]
      refine List.pairwise_append.mpr ⟨kept, List.pairwise_singleton _ _, ?_⟩
      intro y mem z isLast
      rw [List.mem_singleton.mp isLast]
      exact (precedes_of_not_mem (List.mem_eraseDups.mp mem) old).append_singleton x

/-- A text is repeated with its positions if there are two of them at least. -/
lemma mem_repeatedTexts {places : List Nat} :
    (x, places) ∈ repeatedTexts xs ↔ places = positions x xs ∧ 2 ≤ places.length := by
  rw [repeatedTexts, List.mem_filter, List.mem_map]
  constructor
  · rintro ⟨⟨y, _, same⟩, several⟩
    cases same
    exact ⟨rfl, by simpa using several⟩
  · rintro ⟨rfl, several⟩
    obtain ⟨i, isPlace⟩ : ∃ i, i ∈ positions x xs :=
      List.exists_mem_of_length_pos (by omega)
    have mem := List.mem_of_getElem? (mem_positions.mp isPlace)
    exact ⟨⟨x, List.mem_eraseDups.mpr mem, rfl⟩, by simpa using several⟩

/-- Repeated texts are in the order in which they first stand. -/
lemma pairwise_repeatedTexts (xs : List String) :
    (repeatedTexts xs).Pairwise fun e e' => Precedes xs e.1 e'.1 := by
  apply List.Pairwise.filter
  rw [List.pairwise_map]
  exact pairwise_eraseDups xs

/-- A list with two places in it has at least two. -/
lemma two_le_length {places : List Nat} {i j : Nat} (before : i < j) (here : i ∈ places)
    (there : j ∈ places) : 2 ≤ places.length := by
  match places with
  | [] => cases here
  | [k] =>
    rw [List.mem_singleton] at here there
    omega
  | _ :: _ :: rest => exact Nat.le_add_left 2 rest.length

/-- A text with all its places, which are two at least. -/
lemma exists_shared {e : String × List Nat} (mem : e ∈ repeatedTexts xs) :
    ∃ g : Shared, (g.text, g.places) = e := by
  obtain ⟨x, places⟩ := e
  obtain ⟨_, several⟩ := mem_repeatedTexts.mp mem
  match places with
  | [] => cases several
  | [_] => exact absurd several (by simp)
  | first :: second :: later => exact ⟨⟨x, first, second, later⟩, rfl⟩

/-- The repeated texts are groups of their texts and places. -/
lemma exists_groups (xs : List String) :
    ∃ groups : List Shared, repeatedTexts xs = groups.map fun g => (g.text, g.places) := by
  have range : repeatedTexts xs ∈ Set.range (List.map fun g : Shared => (g.text, g.places)) := by
    rw [Set.range_list_map]
    exact fun e mem => exists_shared mem
  obtain ⟨groups, eq⟩ := range
  exact ⟨groups, eq.symm⟩

/-- The groups that are found are the shared texts. -/
lemma sharedTexts {groups : List Shared}
    (found : repeatedTexts xs = groups.map fun g => (g.text, g.places)) :
    SharedTexts xs groups := by
  have ofGroup : ∀ g ∈ groups, g.places = positions g.text xs := fun g isGroup =>
    (mem_repeatedTexts.mp (found ▸ List.mem_map_of_mem isGroup)).1
  constructor
  case places =>
    intro g isGroup i
    rw [ofGroup g isGroup, mem_positions]
  case increasing =>
    intro g isGroup
    rw [ofGroup g isGroup]
    exact pairwise_positions _ _
  case complete =>
    intro x i j before here there
    have several := two_le_length before (mem_positions.mpr here) (mem_positions.mpr there)
    have mem : (x, positions x xs) ∈ repeatedTexts xs := mem_repeatedTexts.mpr ⟨rfl, several⟩
    rw [found] at mem
    obtain ⟨g, isGroup, same⟩ := List.mem_map.mp mem
    exact ⟨g, isGroup, congrArg Prod.fst same⟩
  case ordered =>
    -- The groups come in the order in which their texts first stand, and a first place is a least
    -- one.
    have precede : groups.Pairwise fun g h => Precedes xs g.text h.text := by
      have texts := pairwise_repeatedTexts xs
      rwa [found, List.pairwise_map] at texts
    refine precede.imp_of_mem fun {g h} isGroup isLater before => ?_
    obtain ⟨i, here, first⟩ := before
    have isPlace : i ∈ g.places := by rwa [ofGroup g isGroup, mem_positions]
    have least : g.first ≤ i := by
      rcases List.mem_cons.mp isPlace with rfl | later
      · exact le_rfl
      · have increasing := pairwise_positions g.text xs
        rw [← ofGroup g isGroup, Shared.places, List.pairwise_cons] at increasing
        exact (increasing.1 i later).le
    have there : h.first ∈ h.places := List.mem_cons_self
    rw [ofGroup h isLater, mem_positions] at there
    exact least.trans_lt (first _ there)

example : repeatedTexts ["b", "a", "c", "a", "b", "a"] = [("b", [0, 4]), ("a", [1, 3, 5])] := by
  decide +kernel

/-- There is nothing to group exactly when the texts differ. -/
lemma repeatedTexts_eq_nil_iff : repeatedTexts xs = [] ↔ xs.Nodup := by
  obtain ⟨groups, found⟩ := exists_groups xs
  have shared := sharedTexts found
  rw [found, List.map_eq_nil_iff, List.nodup_iff_getElem?_ne_getElem?]
  constructor
  · rintro rfl i j before inside same
    have there := List.getElem?_eq_getElem inside
    obtain ⟨g, isGroup, _⟩ := shared.complete xs[j] i j before (same.trans there) there
    cases isGroup
  · intro apart
    rw [List.eq_nil_iff_forall_not_mem]
    intro g isGroup
    have here := (shared.places g isGroup g.first).mp List.mem_cons_self
    have there := (shared.places g isGroup g.second).mp (List.mem_cons_of_mem _ List.mem_cons_self)
    have before := (List.pairwise_cons.mp (shared.increasing g isGroup)).1 _ List.mem_cons_self
    exact apart _ _ before (lt_of_getElem? there) (here.trans there.symm)

end Places

/-! ## What is told about them -/

/-- The field that a remark is about, and its message. -/
def Located.told (r : Located Remark) : String × String :=
  (r.location.text, r.what.message)

/-- What is told about a text that endpoints share: it is about the second one, and lists all. -/
def Shared.told (noun field : String) (g : Shared) : String × String :=
  ("endpoints[" ++ Text.ofNat g.second ++ "]" ++ field,
    noun ++ " \"" ++ g.text ++ "\" is generated for " ++
      ", ".intercalate (g.places.map fun i => "endpoints[" ++ Text.ofNat i ++ "]"))

/-- Remarks tell which of some texts, one for each endpoint, are shared: there is one for each
shared text, in order, which is about the second endpoint with it and lists all of them. -/
structure TellsShared (xs : List String) (noun field : String) (remarks : List (Located Remark)) :
    Prop where
  told : ∃ groups, SharedTexts xs groups ∧
    remarks.map Located.told = groups.map (Shared.told noun field)
  silent : remarks = [] ↔ xs.Nodup

/-- Remarks on the repeated texts tell just the groups that there are. -/
lemma tellsShared {xs : List String} {noun field : String}
    {remark : String × List Nat → Located Remark}
    (told : ∀ g : Shared, (remark (g.text, g.places)).told = g.told noun field) :
    TellsShared xs noun field ((repeatedTexts xs).map remark) := by
  constructor
  case told =>
    obtain ⟨groups, found⟩ := exists_groups xs
    refine ⟨groups, sharedTexts found, ?_⟩
    rw [found, List.map_map, List.map_map]
    exact List.map_congr_left fun g _ => told g
  case silent =>
    rw [List.map_eq_nil_iff, repeatedTexts_eq_nil_iff]

/-- Whether a remark is about a route that several endpoints have. -/
def Remark.isAboutRoute : Remark → Bool
  | .sharedRoute _ _ => true
  | _ => false

namespace Audit

variable {a : Artifacts}

/-- What is remarked about a service is about a service. -/
lemma isAboutService_of_mem {s : Service} {r : Remark} (mem : r ∈ serviceRemarks s) :
    IsAboutService r := by
  simp only [serviceRemarks, List.mem_append, mem_remarkIf] at mem
  rcases mem with (((⟨_, rfl⟩ | signature) | ⟨_, rfl⟩) | ⟨_, rfl⟩) | ⟨_, rfl⟩
  case inl.inl.inl.inr =>
    cases line : exportLine? s.code.toList with
    | none =>
      rw [line] at signature
      cases List.mem_singleton.mp signature
      trivial
    | some opening =>
      rw [line, signatureRemarks, List.mem_append, mem_remarkIf, mem_remarkIf] at signature
      rcases signature with ⟨_, rfl⟩ | ⟨_, rfl⟩
      all_goals trivial
  all_goals trivial

/-- What is about a service is not about a route. -/
lemma isAboutRoute_of_service {r : Remark} (about : IsAboutService r) : r.isAboutRoute = false := by
  cases r with
  | sharedRoute route places => cases about
  | _ => rfl

/-- Of all remarks of an audit, those about routes are the ones on routes that are shared. -/
lemma filter_isAboutRoute (a : Artifacts) :
    (remarks a).filter (fun r => r.what.isAboutRoute) =
      routeRemarks (a.services.map Service.endpoint) := by
  have services : (servicesRemarks 0 a.services).filter (fun r => r.what.isAboutRoute) = [] := by
    apply List.filter_eq_nil_iff.mpr
    rintro ⟨l, r⟩ mem
    obtain ⟨_, service, _, _, isRemark⟩ := mem_servicesRemarks.mp mem
    exact Bool.eq_false_iff.mp (isAboutRoute_of_service (isAboutService_of_mem isRemark))
  have functions (es : List Endpoint) :
      (functionNameRemarks es).filter (fun r => r.what.isAboutRoute) = [] := by
    apply List.filter_eq_nil_iff.mpr
    intro r mem
    obtain ⟨_, _, rfl⟩ := List.mem_map.mp mem
    exact Bool.false_ne_true
  have routes (es : List Endpoint) :
      (routeRemarks es).filter (fun r => r.what.isAboutRoute) = routeRemarks es := by
    apply List.filter_eq_self.mpr
    intro r mem
    obtain ⟨_, _, rfl⟩ := List.mem_map.mp mem
    rfl
  have types (text : String) :
      ((typesRemarks text).map fun q => (⟨[.key "types"], q⟩ : Located Remark)).filter
        (fun r => r.what.isAboutRoute) = [] := by
    apply List.filter_eq_nil_iff.mpr
    intro r mem
    obtain ⟨q, isRemark, rfl⟩ := List.mem_map.mp mem
    rcases typesRemarks_cases isRemark with rfl | ⟨_, rfl⟩ | rfl | rfl
    all_goals exact Bool.false_ne_true
  -- Of the four groups of remarks only one is about routes.
  rw [remarks, List.filter_append, List.filter_append, List.filter_append, services, functions,
    routes, apply_ite (List.filter _), types]
  simp

/-- The names of functions and the routes that several endpoints have are told, each once, and
nothing else is told about them. -/
theorem tells_shared (endpoints : List Endpoint) (a : Artifacts) :
    TellsShared (endpoints.map Naming.function) "Function name" ".name"
        (functionNameRemarks endpoints) ∧
      TellsShared
        (a.services.map fun s => s.endpoint.upperMethod ++ ":" ++ s.endpoint.path.getD "None")
        "Route" "" ((remarks a).filter fun r => r.what.isAboutRoute) := by
  constructor
  · apply tellsShared
    intro g
    have place : ((secondPlace g.places).key "name").text =
        "endpoints[" ++ Text.ofNat g.second ++ "]" ++ ".name" :=
      Location.text_endpoint g.second [.key "name"]
    rw [Located.told, place]
    rfl
  · rw [filter_isAboutRoute, routeRemarks, List.map_map]
    apply tellsShared
    intro g
    have place : (secondPlace g.places).text = "endpoints[" ++ Text.ofNat g.second ++ "]" ++ "" :=
      Location.text_endpoint g.second []
    rw [Located.told, place]
    rfl

end Audit

/-! ## Valid documents -/

namespace Endpoint

variable {e e' : Endpoint}

/-- No known method has a colon in it. -/
lemma ne_colon_of_mem_upperMethod (known : IsWord (Method.all.map Method.word) e.method) :
    ∀ c ∈ e.upperMethod.toList, (c != ':') = true := by
  have words : ∀ word ∈ Method.all.map Method.word, word.toList.all (· != ':') = true := by decide
  have method := upperMethod_of_known known
  obtain ⟨word, mem, eq⟩ := known
  rw [Option.some.inj (method.symm.trans eq)]
  exact List.all_eq_true.mp (words word mem)

/-- A route is the method up to its first colon, and the path behind that. -/
lemma route_parts (wellFormed : e.WellFormed) :
    ∃ path, e.path = some path ∧
      (Audit.routeText e).toList.takeWhile (· != ':') = e.upperMethod.toList ∧
      (Audit.routeText e).toList.dropWhile (· != ':') = ':' :: path.toList := by
  obtain ⟨path, eqPath, _⟩ := wellFormed.path
  have chars : (Audit.routeText e).toList = e.upperMethod.toList ++ ':' :: path.toList := by
    rw [Audit.routeText, eqPath]
    exact Text.toList_append_separator ':' rfl _ path
  have run := ne_colon_of_mem_upperMethod wellFormed.method
  have stop : ∀ c ∈ (':' :: path.toList).head?, (c != ':') = false := by
    intro c first
    cases first
    rfl
  rw [chars]
  exact ⟨path, eqPath, takeWhile_run run stop, dropWhile_run run stop⟩

/-- Two endpoints with known methods and with paths have one route only if they have one method and
one path. -/
lemma eq_of_routeText_eq (wellFormed : e.WellFormed) (wellFormed' : e'.WellFormed)
    (same : Audit.routeText e = Audit.routeText e') :
    (e.method, e.path) = (e'.method, e'.path) := by
  obtain ⟨path, eqPath, method, rest⟩ := route_parts wellFormed
  obtain ⟨path', eqPath', method', rest'⟩ := route_parts wellFormed'
  rw [same, method'] at method
  rw [same, rest'] at rest
  rw [upperMethod_of_known wellFormed.method, upperMethod_of_known wellFormed'.method, eqPath,
    eqPath', String.toList_inj.mp method, String.toList_inj.mp (List.cons.inj rest).2]

end Endpoint

namespace Naming

/-- A function's name starts with a lower-case letter. -/
lemma exists_head?_function {e : Endpoint} (known : IsWord (Method.all.map Method.word) e.method) :
    ∃ c, (function e).toList.head? = some c ∧ c.isLower = true := by
  have starts : ∀ v ∈ verbs, ∃ c, v.toList.head? = some c ∧ c.isLower = true := by
    simp only [verbs, List.forall_mem_cons]
    refine ⟨⟨'g', rfl, rfl⟩, ⟨'c', rfl, rfl⟩, ⟨'u', rfl, rfl⟩, ⟨'d', rfl, rfl⟩, ⟨'p', rfl, rfl⟩,
      ⟨'h', rfl, rfl⟩, ⟨'o', rfl, rfl⟩, List.forall_mem_nil _⟩
  obtain ⟨c, first, lower⟩ := starts _ (verb_mem_verbs known)
  exact ⟨c, Text.head?_append first, lower⟩

end Naming

/-- A message that starts otherwise is not about a route. -/
lemma ne_route_of_head? {message rest : String} {c : Char} (head : message.toList.head? = some c)
    (other : c ≠ 'R') : message ≠ "Route " ++ rest := by
  rintro rfl
  have route : ("Route " ++ rest).toList.head? = some 'R' := Text.head?_append rfl
  exact other (Option.some.inj (head.symm.trans route))

namespace Artifacts

variable {d : Document} {s : Settings} {r : Located Remark}

/-- The routes of a valid document differ when they are written out. -/
lemma nodup_routeTexts (valid : d.report.isValid = true) :
    (d.endpoints.map Audit.routeText).Nodup := by
  have wellFormed : d.WellFormed :=
    Document.faultFree_findings_iff.mp (Report.ofFindings_isValid.mp valid)
  refine List.pairwise_map.mpr (wellFormed.routes.imp_of_mem ?_)
  intro e e' mem mem' differ same
  apply differ
  exact Endpoint.eq_of_routeText_eq (wellFormed.endpoints e mem) (wellFormed.endpoints e' mem') same

/-- The services of a document belong to its endpoints, in their order. -/
lemma endpoints_ofDocument (d : Document) (s : Settings) :
    (ofDocument d s).services.map Service.endpoint = d.endpoints := by
  rw [ofDocument, List.map_map]
  exact List.map_id _

/-- In a valid document nothing is remarked about routes. -/
lemma routeRemarks_ofDocument (valid : d.report.isValid = true) (s : Settings) :
    Audit.routeRemarks ((ofDocument d s).services.map Service.endpoint) = [] := by
  rw [endpoints_ofDocument, Audit.routeRemarks,
    repeatedTexts_eq_nil_iff.mpr (nodup_routeTexts valid), List.map_nil]

/-- What is remarked on in the artifacts for a valid document is one function, a name that functions
share, or the file of types. -/
lemma mem_remarks_cases (valid : d.report.isValid = true)
    (mem : r ∈ Audit.remarks (ofDocument d s)) :
    (∃ e ∈ d.endpoints, r.what = .noPromise (Naming.function e) ∨
        r.what = .anyInSignature (Naming.function e) ∨ r.what = .deprecated e.name) ∨
      (∃ name places, r.what = .sharedFunction name places) ∨
      r.what ∈ Audit.typesRemarks (ofDocument d s).types := by
  have parts := mem
  rw [Audit.remarks, routeRemarks_ofDocument valid, List.append_nil, List.mem_append,
    List.mem_append] at parts
  rcases parts with (service | functions) | types
  · left
    obtain ⟨l, what⟩ := r
    obtain ⟨_, _, _, _, isRemark⟩ := Audit.mem_servicesRemarks.mp service
    have about := Audit.isAboutService_of_mem isRemark
    obtain ⟨i, e, here, _, said⟩ := (Document.mem_remarks_iff valid about).mp mem
    refine ⟨e, List.mem_of_getElem? here, ?_⟩
    rcases said with ⟨_, what⟩ | ⟨_, what⟩ | ⟨_, what⟩
    · exact .inl what
    · exact .inr (.inl what)
    · exact .inr (.inr what)
  · right
    left
    obtain ⟨⟨name, places⟩, _, rfl⟩ := List.mem_map.mp functions
    exact ⟨name, places, rfl⟩
  · right
    right
    split at types
    · cases types
    · obtain ⟨what, isRemark, rfl⟩ := List.mem_map.mp types
      exact isRemark

/-- No two endpoints have one route as an audit writes it, and the audit tells of none. -/
structure RoutesApart (d : Document) (s : Settings) : Prop where
  nodup : (d.endpoints.map fun e => e.upperMethod ++ ":" ++ e.path.getD "None").Nodup
  none : (Audit.remarks (ofDocument d s)).filter (fun r => r.what.isAboutRoute) = []
  untold : ∀ r ∈ Audit.remarks (ofDocument d s), ∀ rest, r.what.message ≠ "Route " ++ rest

/-- That methods and paths differ in a valid document carries over to the routes that an audit
compares, so that it has nothing to say about them. -/
theorem routes_apart (valid : d.report.isValid = true) (s : Settings) : RoutesApart d s := by
  have wellFormed : d.WellFormed :=
    Document.faultFree_findings_iff.mp (Report.ofFindings_isValid.mp valid)
  constructor
  case nodup => exact nodup_routeTexts valid
  case none =>
    rw [Audit.filter_isAboutRoute, routeRemarks_ofDocument valid]
  case untold =>
    intro r mem rest
    -- No other message starts like one about a route.
    rcases mem_remarks_cases valid mem with ⟨e, isEndpoint, what⟩ | ⟨name, places, what⟩ | types
    · obtain ⟨c, first, lower⟩ :=
        Naming.exists_head?_function (wellFormed.endpoints e isEndpoint).method
      have other : c ≠ 'R' := by
        rintro rfl
        cases lower
      rcases what with what | what | what
      · rw [what]
        exact ne_route_of_head? (Text.head?_append first) other
      · rw [what]
        exact ne_route_of_head? (Text.head?_append first) other
      · rw [what]
        exact ne_route_of_head? (Text.head?_append (Text.head?_append rfl)) (by decide)
    · rw [what]
      exact ne_route_of_head? (Text.head?_append (Text.head?_append (Text.head?_append rfl)))
        (by decide)
    · rcases Audit.typesRemarks_cases types with what | ⟨_, what⟩ | what | what
      all_goals rw [what]
      · exact ne_route_of_head? rfl (by decide)
      · exact ne_route_of_head? (Text.head?_append rfl) (by decide)
      · exact ne_route_of_head? rfl (by decide)
      · exact ne_route_of_head? rfl (by decide)

/-- A document with an endpoint for each of some methods and paths. -/
def withRoutes (routes : List (String × String)) : Document :=
  { Document.withPath "/item" [] with
    endpoints := routes.map fun (method, path) =>
      { Endpoint.named method (method ++ path) with path := some path } }

/-- Two methods on one path with a colon in it, and a path that differs from it in case only. -/
theorem routes_apart_colon :
    (withRoutes [("GET", "/a:b"), ("POST", "/a:b"), ("GET", "/A:b")]).report.isValid = true ∧
      RoutesApart (withRoutes [("GET", "/a:b"), ("POST", "/a:b"), ("GET", "/A:b")])
        Settings.default := by
  have valid :
      (withRoutes [("GET", "/a:b"), ("POST", "/a:b"), ("GET", "/A:b")]).report.isValid = true := by
    decide +kernel
  exact ⟨valid, routes_apart valid Settings.default⟩

end Artifacts

end ClientSynth
