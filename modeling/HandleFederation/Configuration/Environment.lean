/-
This file reads the settings of a server from its environment. Only the domain and
the public key have to be set. A port, a mode and a backend must be well formed
where they are set; a window of time that is not well formed counts as not set.
-/

import HandleFederation.Configuration.Basic
import HandleFederation.Text.Number

namespace HandleFederation

open Text

/-- The variables of an environment that are set. -/
abbrev Environment := List (String × String)

namespace Environment

/-! ### Domains -/

/-- Brings a domain to the form that settings keep it in: trimmed, without any trailing dots, and in
lower case. -/
def settledDomain (text : String) : String :=
  lower (String.ofList (dropTrailing (· == '.') (trimLetters text.toList)))

/-- The domains of a list with commas between them, without those that are empty. -/
def readDomains (text : String) : List String :=
  ((text.toList.splitOn ',').map fun entry => settledDomain (String.ofList entry)).filter
    fun domain => !domain.isEmpty

/-! ### Paths -/

/-- The path of a file in a directory. -/
def pathIn (directory file : String) : String :=
  if directory.isEmpty || directory.toList.getLast? = some '/' then directory ++ file
  else directory ++ "/" ++ file

/-! ### Variables -/

/-- The value of a variable, or a given one where it is not set. -/
def valueOr (environment : Environment) (name standard : String) : String :=
  (environment.lookup name).getD standard

/-- The value of a variable that has to be set. -/
def required (environment : Environment) (name : String) : Except Failure String :=
  match environment.lookup name with
  | some value => .ok value
  | none => .error (.configuration s!"{name} is required")

/-- A number of seconds, or a given one where the variable is not set to one. -/
def secondsOr (environment : Environment) (name : String) (standard : Nat) : Nat :=
  ((environment.lookup name).bind fun value => readBelow bound64 value.toList).getD standard

/-- The port to listen on. -/
def port (environment : Environment) : Except Failure Nat :=
  match readBelow bound16 (environment.valueOr "INSTANCE_PORT" "8080").toList with
  | some port => .ok port
  | none => .error (.configuration "Invalid port number")

/-- The mode to start in. -/
def mode (environment : Environment) : Except Failure FederationMode :=
  match environment.lookup "FEDERATION_MODE" with
  | none => .ok FederationSettings.standard.mode
  | some value =>
    match FederationMode.read value with
    | .ok mode => .ok mode
    | .error unknown => .error (.configuration s!"Invalid FEDERATION_MODE: {unknown.message}")

/-- Where short-lived answers are to be kept. -/
def backend (environment : Environment) : Except Failure CacheBackend :=
  let word := lower (environment.valueOr "CACHE_BACKEND" "memory")
  match CacheBackend.ofWord? word with
  | some backend => .ok backend
  | none => .error (.configuration s!"Unknown CACHE_BACKEND: {word}")

/-! ### Settings -/

/-- The settings that an environment describes. -/
def configuration (environment : Environment) : Except Failure Configuration := do
  let domain := settledDomain (← environment.required "INSTANCE_DOMAIN")
  let port ← environment.port
  let publicKey ← environment.required "INSTANCE_PUBLIC_KEY"
  let dataDirectory := environment.valueOr "INSTANCE_DATA_DIRECTORY" "./data"
  let standard := FederationSettings.standard
  let mode ← environment.mode
  let backend ← environment.backend
  return {
    service := {
      domain := domain
      bindAddress := environment.valueOr "INSTANCE_BIND_ADDRESS" "0.0.0.0"
      port := port
      name := environment.valueOr "INSTANCE_NAME" domain
      publicKey := publicKey
      version := serverVersion }
    storage := {
      dataDirectory := dataDirectory
      database := environment.valueOr "INSTANCE_DATABASE" (pathIn dataDirectory "federation.sqlite") }
    federation := {
      mode := mode
      allowedPeers := readDomains (environment.valueOr "FEDERATION_ALLOWED_PEERS" "")
      blockedDomains := readDomains (environment.valueOr "FEDERATION_BLOCKED_DOMAINS" "")
      userAgent := environment.valueOr "FEDERATION_USER_AGENT" standard.userAgent
      stubLifetime := environment.secondsOr "FEDERATION_STUB_TTL" standard.stubLifetime
      missLifetime := environment.secondsOr "FEDERATION_NEGATIVE_TTL" standard.missLifetime
      discoveryCooldown :=
        environment.secondsOr "FEDERATION_DISCOVERY_COOLDOWN" standard.discoveryCooldown }
    cache := {
      backend := backend
      redisUrl := environment.valueOr "REDIS_URL" CacheSettings.standard.redisUrl
      keyPrefix := environment.valueOr "CACHE_KEY_PREFIX" CacheSettings.standard.keyPrefix }
    logLevel := environment.valueOr "RUST_LOG" "federated_identity=debug,tower_http=debug" }

end Environment

end HandleFederation
