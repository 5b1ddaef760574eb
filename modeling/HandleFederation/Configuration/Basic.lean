/-
This file holds the settings of a server, what has to hold of them before it can
start, and their form as a document. It also gives the three windows of time that
follow from them: how long a cached profile is fresh, how long a missing user stays
missing, and how long an instance that could not be discovered is left alone.
-/

import HandleFederation.Failure
import HandleFederation.Json.Fields
import HandleFederation.Mode

namespace HandleFederation

open Text

/-! ### Settings -/

/-- What the server is called and where it listens. -/
structure ServiceSettings where
  domain : String
  bindAddress : String
  port : Nat
  name : String
  publicKey : String
  version : String
deriving DecidableEq, Repr

/-- Where the server keeps its data. -/
structure StorageSettings where
  dataDirectory : String
  database : String
deriving DecidableEq, Repr

/-- How the server deals with other instances. -/
structure FederationSettings where
  mode : FederationMode
  allowedPeers : List String
  blockedDomains : List String
  userAgent : String
  /-- Seconds for which a cached profile is fresh; zero is for ever. -/
  stubLifetime : Nat
  /-- Seconds for which a missing user is remembered. -/
  missLifetime : Nat
  /-- Seconds for which an instance is left alone after it could not be discovered. -/
  discoveryCooldown : Nat
deriving DecidableEq, Repr

/-- Where short-lived answers are kept. -/
structure CacheSettings where
  backend : CacheBackend
  redisUrl : String
  keyPrefix : String
deriving DecidableEq, Repr

/-- The settings of a server. -/
structure Configuration where
  service : ServiceSettings
  storage : StorageSettings
  federation : FederationSettings
  cache : CacheSettings
  logLevel : String
deriving DecidableEq, Repr

/-- The version of this server. -/
def serverVersion : String := "0.1.0"

/-- What this server and its software are called. -/
def softwareName (version : String) : String :=
  s!"federated-identity/{version}"

/-- The settings for other instances where none are given. -/
def FederationSettings.standard : FederationSettings :=
  ⟨.anyone, [], [], softwareName serverVersion, 86400, 60, 30⟩

/-- The settings for short-lived answers where none are given. -/
def CacheSettings.standard : CacheSettings :=
  ⟨.memory, "redis://localhost:6379", "federation:"⟩

namespace Configuration

/-! ### Validity -/

/-- Accepts settings with which a server can start. -/
def validate (configuration : Configuration) : Except Failure Unit :=
  if configuration.service.domain.isEmpty then .error (.configuration "Domain cannot be empty")
  else if (trim configuration.service.publicKey).isEmpty then
    .error (.configuration "Public key cannot be empty")
  else if (trim configuration.federation.userAgent).isEmpty then
    .error (.configuration "User agent cannot be empty")
  else .ok ()

end Configuration

/-! ### Documents -/

/-- A list of texts as a document. -/
def textsToJson (texts : List String) : Json :=
  .array (texts.map .string)

/-- The settings as a document. -/
def Configuration.toJson (configuration : Configuration) : Json :=
  let service := configuration.service
  let storage := configuration.storage
  let federation := configuration.federation
  let cache := configuration.cache
  .object [
    ("service", .object [("domain", .string service.domain),
      ("bind_address", .string service.bindAddress), ("port", .ofNat service.port),
      ("name", .string service.name), ("public_key", .string service.publicKey),
      ("version", .string service.version)]),
    ("storage", .object [("data_directory", .string storage.dataDirectory),
      ("database", .string storage.database)]),
    ("federation", .object [("mode", .string federation.mode.word),
      ("allowed_peers", textsToJson federation.allowedPeers),
      ("blocked_domains", textsToJson federation.blockedDomains),
      ("user_agent", .string federation.userAgent), ("stub_ttl", .ofNat federation.stubLifetime),
      ("negative_ttl", .ofNat federation.missLifetime),
      ("discovery_cooldown", .ofNat federation.discoveryCooldown)]),
    ("cache", .object [("backend", .string cache.backend.word),
      ("redis_url", .string cache.redisUrl), ("key_prefix", .string cache.keyPrefix)]),
    ("logging", .object [("level", .string configuration.logLevel)])]

/-- Reads what the server is called and where it listens. -/
def ServiceSettings.ofJson? (value : Json) : Option ServiceSettings := do
  match ← value.fields? false ["domain", "bind_address", "port", "name", "public_key", "version"] with
  | [domain, bindAddress, port, name, publicKey, version] =>
    return ⟨← Json.requiredText? domain, ← Json.requiredText? bindAddress,
      ← Json.requiredNat? bound16 port, ← Json.requiredText? name, ← Json.requiredText? publicKey,
      ← Json.requiredText? version⟩
  | _ => none

/-- Reads where the server keeps its data. -/
def StorageSettings.ofJson? (value : Json) : Option StorageSettings := do
  match ← value.fields? false ["data_directory", "database"] with
  | [dataDirectory, database] =>
    return ⟨← Json.requiredText? dataDirectory, ← Json.requiredText? database⟩
  | _ => none

/-- Reads how the server deals with other instances. -/
def FederationSettings.ofJson? (value : Json) : Option FederationSettings := do
  match ← value.fields? false ["mode", "allowed_peers", "blocked_domains", "user_agent", "stub_ttl",
    "negative_ttl", "discovery_cooldown"] with
  | [mode, allowedPeers, blockedDomains, userAgent, stubLifetime, missLifetime, cooldown] =>
    return ⟨← mode.bind FederationMode.ofJson?, ← Json.requiredTexts? allowedPeers,
      ← Json.requiredTexts? blockedDomains, ← Json.requiredText? userAgent,
      ← Json.requiredNat? bound64 stubLifetime, ← Json.requiredNat? bound64 missLifetime,
      ← Json.requiredNat? bound64 cooldown⟩
  | _ => none

/-- Reads where short-lived answers are kept. -/
def CacheSettings.ofJson? (value : Json) : Option CacheSettings := do
  match ← value.fields? false ["backend", "redis_url", "key_prefix"] with
  | [backend, redisUrl, keyPrefix] =>
    return ⟨← backend.bind CacheBackend.ofJson?, ← Json.requiredText? redisUrl,
      ← Json.requiredText? keyPrefix⟩
  | _ => none

/-- Reads settings from a document. Unknown fields do not matter; every known one has to be there. -/
def Configuration.ofJson? (value : Json) : Option Configuration := do
  match ← value.fields? false ["service", "storage", "federation", "cache", "logging"] with
  | [service, storage, federation, cache, logging] =>
    match ← (← logging).fields? false ["level"] with
    | [level] =>
      return ⟨← service.bind ServiceSettings.ofJson?, ← storage.bind StorageSettings.ofJson?,
        ← federation.bind FederationSettings.ofJson?, ← cache.bind CacheSettings.ofJson?,
        ← Json.requiredText? level⟩
    | _ => none
  | _ => none

/-! ### Windows of time -/

/-- The windows of time, in seconds, after which things are asked for again. -/
structure Windows where
  /-- How long a cached profile is fresh; without it, for ever. -/
  stubLifetime : Option Nat
  /-- How long a missing user is remembered. -/
  missLifetime : Nat
  /-- How long an instance is left alone after it could not be discovered. -/
  discoveryCooldown : Nat
deriving DecidableEq, Repr

/-- The windows that settings describe. -/
def FederationSettings.windows (settings : FederationSettings) : Windows :=
  ⟨if settings.stubLifetime = 0 then none else some settings.stubLifetime, settings.missLifetime,
    settings.discoveryCooldown⟩

end HandleFederation
