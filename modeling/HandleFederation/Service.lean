/-
This file holds a running service and how it starts: it writes the row that describes
this instance and approves the peers in its settings. It also holds what the service
does about its own accounts, and its work in the background.
-/

import HandleFederation.Command
import HandleFederation.Configuration.Basic
import HandleFederation.DomainName
import HandleFederation.Handle
import HandleFederation.Text.Quoted

namespace HandleFederation

open Program

/-- A running service: its settings, and the row of this instance as it was at the start. -/
structure Service where
  configuration : Configuration
  home : Instance
deriving DecidableEq, Repr

/-! ### Steps -/

/-- The present time. -/
def currentTime : Action Timestamp :=
  .ofProgram do return .ok (← perform .clock)

/-- A number of nanoseconds in seconds. -/
def inSeconds (nanoseconds : Nat) : Float :=
  Float.ofNat (nanoseconds / 1000000000) + Float.ofNat (nanoseconds % 1000000000) / 1000000000.0

/-- Runs a program and gives the seconds it took with its result. -/
def timed {Result : Type} (program : Program Result) : Program (Result × Float) := do
  let started ← perform .clock
  let result ← program
  let stopped ← perform .clock
  return (result, inSeconds (started.elapsed stopped))

namespace Service

/-- The domain of this instance. -/
def domain (service : Service) : String :=
  service.home.domain

/-- The suffixes that the operator blocks. -/
def blocked (service : Service) : List String :=
  DomainName.blockedSuffixes service.configuration.federation.blockedDomains

/-- The windows of time after which things are asked for again. -/
def windows (service : Service) : Windows :=
  service.configuration.federation.windows

/-! ### Starting -/

/-- What settings say about this instance. -/
def localSettings (configuration : Configuration) : LocalSettings :=
  { domain := configuration.service.domain
    publicKey := configuration.service.publicKey
    name := configuration.service.name
    software := softwareName configuration.service.version
    mode := configuration.federation.mode }

/-- Writes how far a domain is approved as a peer of an instance. -/
def approve (instanceId domain : String) (status : PeerStatus) : Action Peer := do
  let now ← currentTime
  .ofProgram (perform (.writePeer instanceId domain status now))

/-- Writes the row of this instance. -/
def writeHome (settings : LocalSettings) : Action Instance := do
  let now ← currentTime
  .ofProgram (perform (.writeLocal settings now))

/-- Approves domains as active peers of an instance. -/
def approveAll (instanceId : String) : List String → Action Unit
  | [] => pure ()
  | domain :: rest => do
    let _ ← approve instanceId domain .active
    approveAll instanceId rest

/-- Starts a service over tables that are ready. -/
def start (configuration : Configuration) : Action Service := do
  let home ← writeHome (localSettings configuration)
  approveAll home.id configuration.federation.allowedPeers
  return ⟨configuration, home⟩

/-- Makes ready what a service is started over: accepts the settings, makes its directory, and checks
what its client calls itself. -/
def prepare (configuration : Configuration) : Action Unit := do
  .ofExcept configuration.validate
  let directory := configuration.storage.dataDirectory
  .ofProgram do
    match ← perform (.makeDirectory directory) with
    | .ok () => return .ok ()
    | .error fault =>
      return .error (.internal s!"Failed to create directory {Text.quote directory}: {fault}")
  match acceptUserAgent configuration.federation.userAgent with
  | .ok () => pure ()
  | .error fault => throw (.configuration fault.message)

/-- Starts to listen at an address and a port. -/
def listen (bindAddress : String) (port : Nat) : Action Unit :=
  .ofProgram do
    let address := s!"{bindAddress}:{port}"
    match ← perform (.listen address) with
    | .ok () => return .ok ()
    | .error fault => return .error (.internal s!"Failed to bind to {address}: {fault}")

/-! ### Accounts of this instance -/

/-- The account with a username, if there is one. -/
def findAccount (service : Service) (username : String) : Action (Option User) :=
  .ofProgram (perform (.findUser service.home.id username))

/-- The answer to a resolution of an account of this instance. -/
def resolveAccount (service : Service) (username : String) : Action Resolved := do
  match ← service.findAccount username with
  | some user => return ⟨user, service.domain, .home⟩
  | none => throw (.userNotFound username)

/-- Adds a user to an instance without any check of the username. -/
def addUser (instanceId username : String) (displayName : Option String) : Action User := do
  let now ← currentTime
  .ofProgram (perform (.writeAccount instanceId username displayName now))

/-- Registers an account of this instance. -/
def register (service : Service) (username : String) (displayName : Option String) : Action User := do
  .ofExcept (Username.validate username)
  addUser service.home.id username displayName

/-! ### Work in the background -/

/-- Forgets the short-lived values that have expired, and gives their number. -/
def sweep : Action Nat :=
  .ofProgram (perform .purge)

/-- Checks that the database answers and knows this instance. -/
def checkHealth : Action Unit := do
  .ofProgram (perform .ping)
  let _ ← (.ofProgram (perform .readLocal) : Action Instance)

/-- Runs a job and counts how it came to its end. -/
def runJob {Result : Type} (kind : String) (job : Action Result) : Program Unit := do
  let (result, seconds) ← timed job.toProgram
  let status := match result with
    | .ok _ => "success"
    | .error _ => "failure"
  perform (.count (.job kind status seconds))

/-- Runs both jobs once. -/
def runJobs : Program Unit := do
  runJob "ttl_sweep" sweep
  runJob "health_check" checkHealth

end Service

end HandleFederation
