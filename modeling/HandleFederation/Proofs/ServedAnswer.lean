/-
This file says what one service gets when it asks another. A URL asks the service at its
host with its path and its query, and what comes back over the network are the status and
the bytes of the body. An endpoint that only reads the tables answers everybody alike
while they stay what they are, whenever it is asked and whatever else is counted; so what
such a request brings is known from the tables alone, and a document in it is read back.
-/

import HandleFederation.Http.Server
import HandleFederation.Proofs.ContactedHost
import HandleFederation.Proofs.DomainIsolation
import HandleFederation.Proofs.EncodedText
import HandleFederation.Proofs.Reachable
import HandleFederation.Proofs.RoundTrip

namespace HandleFederation

open Program Text

/-! ### Texts and their bytes -/

/-- A text has as many bytes as characters, or more. -/
theorem Text.Utf8.length_le_length_encode (letters : List Char) : letters.length ≤ (encode letters).length := by
  induction letters with
  | nil => exact Nat.le_refl 0
  | cons letter rest inductionHypothesis =>
    have positive : 0 < (String.utf8EncodeChar letter).length := by
      rw [String.length_utf8EncodeChar]
      exact letter.utf8Size_pos
    rw [encode, List.flatMap_cons, List.length_append, List.length_cons]
    rw [encode] at inductionHypothesis
    omega

/-- The text of a document is read from its bytes. -/
theorem Json.ofBytes?_toText (document : Json) :
    ofBytes? (Utf8.bytes document.toText) = ofLetters? document.write := by
  rw [ofBytes?, Utf8.bytes, toText, String.toList_ofList, Utf8.decode?_encode, Option.bind_some]

/-- A profile is read from the text of its document. -/
theorem Profile.reads_toText (profile : Profile) :
    (Json.ofBytes? (Utf8.bytes profile.toJson.toText)).bind ofJson? = some profile := by
  rw [Json.ofBytes?_toText, ofLetters?_write]

/-- A declaration is read from the text of its document. -/
theorem Declaration.reads_toText (declaration : Declaration) :
    (Json.ofBytes? (Utf8.bytes declaration.toJson.toText)).bind ofJson? = some declaration := by
  rw [Json.ofBytes?_toText, ofLetters?_write]

theorem length_hexDigits_le {number count : Nat} (positive : 0 < count) (isBelow : number < 16 ^ count) :
    (hexDigits number).length ≤ count :=
  (Nat.length_toDigits_le_iff (by decide) positive).mpr isBelow

/-- Identifiers have as many characters as random ones of version 4, or a few more after very many. -/
theorem length_identifier_le {number : Nat} (isBelow : number < 16 ^ 104) :
    0 < (identifier number).length ∧ (identifier number).length ≤ 128 := by
  have digits : (hexDigits number).length ≤ 104 := length_hexDigits_le (by decide) isBelow
  have length_eq : (identifier number).length =
      24 + (List.replicate (12 - (hexDigits number).length) '0' ++ hexDigits number).length :=
    calc (identifier number).length
      _ = "00000000-0000-4000-8000-".length + (String.ofList _).length := String.length_append _ _
      _ = _ := congrArg₂ (· + ·) (by decide) String.length_ofList
  rw [length_eq, List.length_append, List.length_replicate]
  omega

/-- An identifier that was issued has some characters, and not too many of them. -/
theorem IsIssued.length_le {issued : Nat} {id : String} (isIssued : IsIssued issued id)
    (numbered : issued ≤ 16 ^ 104) : 0 < id.length ∧ id.length ≤ 128 := by
  obtain ⟨number, isBelow, rfl⟩ := isIssued
  exact length_identifier_le (Nat.lt_of_lt_of_le isBelow numbered)

/-! ### Requests over the network -/

/-- What a URL asks of the service at its host. -/
def Url.request (url : Url) (headers : List (String × String)) : HttpRequest :=
  ⟨"GET", String.ofList url.path.write, String.ofList (url.query.getD []), headers⟩

/-- What comes of a response on the other side, where compression is undone. -/
def HttpResponse.received (response : HttpResponse) : Response :=
  ⟨response.status, Utf8.bytes response.body⟩

/-- What is asked of the domain of a service is answered by it, at any time at which its tables are what
they are here. -/
def Surroundings.Reaches (surroundings : Surroundings) (service : Service) (tables : Tables) : Prop :=
  ∀ requested url path, url.Asks service.domain path →
    ∃ (there : Surroundings) (world : World) (headers : List (String × String)),
      world.isDatabaseOpen = true ∧ world.tables = tables ∧
      ∀ response, ((service.answer (url.request headers)).run there world).1 = some response →
        surroundings.transport requested url = .ok response.received

/-- Surroundings in which a service, as it is now, answers all that is asked. -/
def Surroundings.facing (service : Service) (world : World) : Surroundings :=
  { silent with
    transport := fun _ url =>
      match ((service.answer (url.request [])).run silent world).1 with
      | some response => .ok response.received
      | none => .error .timeout }

theorem Surroundings.reaches_facing (service : Service) {world : World} (isOpen : world.isDatabaseOpen = true) :
    (facing service world).Reaches service world.tables := by
  refine fun requested url path asks => ⟨silent, world, [], isOpen, rfl, fun response answered => ?_⟩
  simp only [facing, answered]

/-! ### Endpoints -/

/-- An endpoint is found at its path. -/
theorem Endpoint.ofPath?_path (endpoint : Endpoint) : ofPath? endpoint.path = some endpoint := by
  cases endpoint <;> decide

/-- A request to an endpoint is answered as the endpoint answers its query, and is counted. -/
theorem Service.run_answer (service : Service) (surroundings : Surroundings) (request : HttpRequest)
    (isGet : request.method = "GET") (endpoint : Endpoint) (isPath : request.path = endpoint.path)
    {answer : Answer} {world after : World}
    (answers : (endpoint.answer service request.query.toList).run surroundings world = (some answer, after)) :
    ∃ event, (service.answer request).run surroundings world =
      (some (.ofAnswer request answer []), { after with metrics := after.metrics.record event }) := by
  have notOptions : ¬ request.method = "OPTIONS" := by
    rw [isGet]
    decide
  have notHead : ¬ request.method = "HEAD" := by
    rw [isGet]
    decide
  refine ⟨.requestServed request.method endpoint.path answer.status
    (inSeconds (world.time.elapsed after.time)), ?_⟩
  unfold Service.answer
  rw [isPath, Endpoint.ofPath?_path]
  dsimp only
  rw [if_neg notOptions]
  simp only [Endpoint.serve, Endpoint.answerMethod, timed, if_pos (Or.inl isGet), bind_eq_andThen, perform,
    step_andThen, done_andThen, pure_eq_done, run_step, World.carryOut_clock, run_andThen, answers, run_done,
    if_neg notHead]
  rfl

/-- What the service at a domain is asked for brings the answer of the endpoint, if that depends on the
tables alone. -/
theorem Surroundings.Reaches.transport_eq {surroundings : Surroundings} {service : Service} {tables : Tables}
    (reaches : surroundings.Reaches service tables) {url : Url} {endpoint : Endpoint}
    (asks : url.Asks service.domain endpoint.path) {answer : Answer}
    (answers : ∀ (there : Surroundings) (world : World), world.isDatabaseOpen = true → world.tables = tables →
      ∃ after, (endpoint.answer service (url.query.getD [])).run there world = (some answer, after))
    (requested : List Url) :
    surroundings.transport requested url = .ok ⟨answer.status, Utf8.bytes answer.body⟩ := by
  obtain ⟨there, world, headers, isOpen, sameTables, brings⟩ := reaches requested url endpoint.path asks
  have isPath : (url.request headers).path = endpoint.path := by
    show String.ofList url.path.write = endpoint.path
    rw [asks.path, String.ofList_toList]
  obtain ⟨after, answered⟩ := answers there world isOpen sameTables
  have answeredHere : (endpoint.answer service (url.request headers).query.toList).run there world =
      (some answer, after) := by
    rw [Url.request, String.toList_ofList]
    exact answered
  obtain ⟨event, run⟩ := service.run_answer there (url.request headers) rfl endpoint isPath answeredHere
  exact brings _ (congrArg Prod.fst run)

end HandleFederation
