/-
This file reports how the server is doing. The database and the store for short-lived
values are probed; without the first the server is unhealthy, without the second it
only forgets sooner and is degraded. The report also says how open the instance is at
the moment and how many peers it has.
-/

import HandleFederation.Service

namespace HandleFederation

open Program

/-- How a component is doing, from best to worst. -/
inductive ComponentStatus where
  | healthy
  | degraded
  | unhealthy
deriving DecidableEq, Repr

namespace ComponentStatus

/-- The word for a status. -/
def word : ComponentStatus → String
  | .healthy => "healthy"
  | .degraded => "degraded"
  | .unhealthy => "unhealthy"

/-- How bad a status is. -/
def badness : ComponentStatus → Nat
  | .healthy => 0
  | .degraded => 1
  | .unhealthy => 2

/-- The worse of two statuses. -/
def worse (first second : ComponentStatus) : ComponentStatus :=
  if first.badness ≤ second.badness then second else first

end ComponentStatus

/-- What probing a component showed. -/
structure ComponentReport where
  name : String
  status : ComponentStatus
  milliseconds : Nat
  fault : Option String

/-- What is reported of the whole server. -/
structure HealthReport where
  components : List ComponentReport
  domain : String
  mode : Option FederationMode
  peers : Option Nat

namespace ComponentReport

/-- A report as a document. -/
def toJson (report : ComponentReport) : Json :=
  .object ([("name", .string report.name), ("status", .string report.status.word),
    ("latency_ms", .ofNat report.milliseconds)]
      ++ match report.fault with
        | some fault => [("error", Json.string fault)]
        | none => [])

end ComponentReport

namespace HealthReport

/-- The worst status of all components. -/
def status (report : HealthReport) : ComponentStatus :=
  (report.components.map ComponentReport.status).foldl ComponentStatus.worse .healthy

/-- A report as a document. What could not be read is left out. -/
def toJson (report : HealthReport) : Json :=
  .object [("status", .string report.status.word), ("version", .string serverVersion),
    ("components", .array (report.components.map ComponentReport.toJson)),
    ("federation", .object ([("domain", .string report.domain)]
      ++ (match report.mode with
        | some mode => [("mode", Json.string mode.word)]
        | none => [])
      ++ match report.peers with
        | some peers => [("peers", Json.ofNat peers)]
        | none => []))]

end HealthReport

namespace Health

/-- The key of the value by which the store is probed. -/
def probeKey : String := "health:probe"

/-- Keeps a value for a moment, asks for it and forgets it. -/
def probeStore : Action Unit := do
  .ofProgram (perform (.remember probeKey "1" 5))
  let _ ← (.ofProgram (perform (.recall probeKey)) : Action (Option String))
  .ofProgram (perform (.forget probeKey))

/-- Probes a component and reports on it. -/
def probe (name : String) (onFailure : ComponentStatus) (action : Action Unit) :
    Program ComponentReport := do
  let started ← perform .clock
  let result ← action.toProgram
  let stopped ← perform .clock
  let milliseconds := started.elapsed stopped / 1000000
  match result with
  | .ok () => return ⟨name, .healthy, milliseconds, none⟩
  | .error failure => return ⟨name, onFailure, milliseconds, some failure.message⟩

/-- Probes all components and reports on the whole server. -/
def report (service : Service) : Program HealthReport := do
  let database ← probe "database" .unhealthy Service.checkHealth
  let store ← probe "ttl_store" .degraded probeStore
  let mode ← perform (.readMode service.home.id)
  let peers ← perform (.listPeers service.home.id)
  return ⟨[database, store], service.domain, mode.toOption, peers.toOption.map List.length⟩

end Health

end HandleFederation
