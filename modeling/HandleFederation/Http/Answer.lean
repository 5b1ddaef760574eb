/-
This file holds what the server can be asked for over HTTP and what it answers. Each
endpoint has one path; some read a field from the query. A failure is answered with
its kind and its wording, but the wording of a failure of the server itself is kept
from the caller.
-/

import HandleFederation.Form
import HandleFederation.Http.Health
import HandleFederation.Resolution

namespace HandleFederation

open Program

/-! ### Answers -/

/-- An answer before the server adds what every answer carries. -/
structure Answer where
  status : Nat
  contentType : Option String
  body : String
deriving DecidableEq, Repr

namespace Answer

/-- An answer with a document. -/
def json (status : Nat) (value : Json) : Answer :=
  ⟨status, some "application/json", value.toText⟩

/-- An answer with a plain text. -/
def text (status : Nat) (body : String) : Answer :=
  ⟨status, some "text/plain; charset=utf-8", body⟩

/-- An answer with nothing but a status. -/
def empty (status : Nat) : Answer :=
  ⟨status, none, ""⟩

/-- The answer that reports a failure. -/
def ofFailure (failure : Failure) : Answer :=
  json failure.status failure.body

/-- The answer of an action, or the one that reports its failure. -/
def ofAction (action : Action Answer) : Program Answer := do
  match ← action.toProgram with
  | .ok answer => return answer
  | .error failure => return ofFailure failure

/-- The answer that nothing is to be found at a path. -/
def notFound : Answer :=
  json 404 (.object [("error", .string "not_found"), ("message", .string "Endpoint not found")])

end Answer

/-! ### Endpoints -/

/-- What the server can be asked for. -/
inductive Endpoint where
  | declaration
  | lookup
  | resolve
  | health
  | live
  | ready
  | detailed
  | metrics
deriving DecidableEq, Repr

namespace Endpoint

/-- All endpoints. -/
def all : List Endpoint :=
  [.declaration, .lookup, .resolve, .health, .live, .ready, .detailed, .metrics]

/-- The path of an endpoint. -/
def path : Endpoint → String
  | .declaration => declarationPath
  | .lookup => lookupPath
  | .resolve => "/api/v1/resolve"
  | .health => "/health"
  | .live => "/health/live"
  | .ready => "/health/ready"
  | .detailed => "/health/detailed"
  | .metrics => "/metrics"

/-- The endpoint of a path. -/
def ofPath? (path : String) : Option Endpoint :=
  all.find? fun endpoint => endpoint.path == path

/-! ### What the endpoints answer -/

/-- The declaration of this instance, with its present mode. -/
def answerDeclaration (service : Service) : Action Answer := do
  let mode ← .ofProgram (perform (.readMode service.home.id))
  let home := service.home
  let declaration : Declaration :=
    ⟨home.id, home.domain, home.publicKey, home.name, home.software, mode⟩
  return .json 200 declaration.toJson

/-- The profile of an account as other instances are shown it. -/
def profileOf (user : User) : Profile :=
  ⟨user.id, user.username, user.displayName, user.avatarId, user.bio,
    some user.createdAt.toWholeSecondsText⟩

/-- The profile of an account of this instance, unless the instance is closed. -/
def answerLookup (service : Service) (username : String) : Action Answer := do
  let mode ← .ofProgram (perform (.readMode service.home.id))
  if mode = .closed then throw .federationDisabled
  else
    .ofExcept (Username.validate username)
    match ← service.findAccount username with
    | some user => return .json 200 (profileOf user).toJson
    | none => return .empty 404

/-- The answer to a resolution. -/
def answerResolve (service : Service) (handle : String) : Action Answer := do
  let resolved ← service.resolve handle
  return .json 200 resolved.toJson

/-- A sign of life. -/
def answerHealth : Answer :=
  .json 200 (.object [("status", .string "ok"), ("version", .string serverVersion)])

/-- Whether the server can do its work. -/
def answerReady (service : Service) : Program Answer := do
  match ← Service.checkHealth.toProgram with
  | .ok () =>
    return .json 200 (.object [("domain", .string service.domain), ("status", .string "ready")])
  | .error _ => return .empty 503

/-- How the server is doing in detail. -/
def answerDetailed (service : Service) : Program Answer := do
  let report ← Health.report service
  return .json (if report.status = .unhealthy then 503 else 200) report.toJson

/-- Answers with the value of a field of the query, or reports that it cannot be read. -/
def withField (name : String) (query : List Char) (answer : String → Action Answer) :
    Program Answer :=
  match Form.field name query with
  | .ok value => Answer.ofAction (answer value)
  | .error fault => return .text 400 fault.message

/-- What an endpoint answers to a query. -/
def answer (service : Service) (query : List Char) : Endpoint → Program Answer
  | .declaration => Answer.ofAction (answerDeclaration service)
  | .lookup => withField "username" query (answerLookup service)
  | .resolve => withField "handle" query (answerResolve service)
  | .health => return answerHealth
  | .live => return answerHealth
  | .ready => answerReady service
  | .detailed => answerDetailed service
  | .metrics => do return .text 200 (Metrics.textOfLines (← perform .readMetrics))

end Endpoint

end HandleFederation
