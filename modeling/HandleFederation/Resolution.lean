/-
This file resolves handles. A handle without a domain, or with the domain of this
instance, is an account here. Any other needs, in this order, permission by the mode
of this instance, an acceptable domain, and a profile: a fresh one that is cached, or
one fetched from the other instance, or else a cached one that is no longer fresh.
Where a user was missing, or an instance could not be discovered, a moment ago, it is
not asked again.
-/

import HandleFederation.Profile
import HandleFederation.Service

namespace HandleFederation

open Program Text

namespace Resolution

/-! ### What is remembered for a while -/

/-- The key under which a missing user is remembered. -/
def missKey (username domain : String) : String :=
  s!"lookup:miss:{domain}/{lower username}"

/-- The key under which an instance is remembered that could not be discovered. -/
def cooldownKey (domain : String) : String :=
  s!"discovery:fail:{domain}"

/-- Whether something is remembered. A store that fails remembers nothing. -/
def isRemembered (key : String) : Program Bool := do
  match ← perform (.recall key) with
  | .ok value => return value.isSome
  | .error _ => return false

/-- Remembers something for some seconds, if for any at all. -/
def remember (key : String) (seconds : Nat) : Program Unit := do
  if seconds = 0 then return ()
  else
    let _ ← perform (.remember key "1" seconds)

/-! ### Cached profiles -/

/-- What is known of a user of another instance. -/
inductive Cached where
  | fresh (user : User)
  | stale (user : User)
  | missing
deriving DecidableEq, Repr

/-- Whether a cached profile is fresh: its age is less than its lifetime, where a profile from the
future has no age. -/
def Cached.ofUser (lifetime : Option Nat) (now : Timestamp) (user : User) : Cached :=
  match lifetime with
  | none => .fresh user
  | some seconds =>
    if user.updatedAt.elapsed now < seconds * Timestamp.perSecond then .fresh user else .stale user

/-- Whether what is known is fresh. -/
def Cached.isFresh : Cached → Bool
  | .fresh _ => true
  | _ => false

/-- What is known now of a user of another instance. -/
def readStub (lifetime : Option Nat) (username domain : String) : Action Cached := do
  match ← (.ofProgram (perform (.findStub username domain)) : Action (Option User)) with
  | some user => return Cached.ofUser lifetime (← currentTime) user
  | none => return .missing

/-- Looks for a cached profile, and counts whether there was a fresh one. -/
def lookForStub (lifetime : Option Nat) (username domain : String) : Action Cached := do
  let cached ← readStub lifetime username domain
  .ofProgram do
    perform (.count (.cacheAccess "user_stub" cached.isFresh))
    return .ok ()
  return cached

/-! ### Asking other instances -/

/-- Asks for the declaration of the instance of a domain. -/
def askDeclaration (domain : String) : Program (Except DiscoveryFault Declaration) := do
  match declarationUrl domain with
  | .error fault => return .error (.transport fault)
  | .ok url => return Declaration.ofExchange domain (← perform (.request url))

/-- Discovers the instance of a domain, which must take part in the federation. Unless it was found
impossible a moment ago, in which case nothing is asked. -/
def discover (windows : Windows) (domain : String) : Action Declaration :=
  .ofProgram do
    if ← isRemembered (cooldownKey domain) then return .error (.remoteLookupFailed domain)
    let (result, seconds) ← timed (askDeclaration domain)
    match result with
    | .error _ =>
      perform (.count (.requestMade "discovery" "error" seconds))
      remember (cooldownKey domain) windows.discoveryCooldown
      return .error (.remoteLookupFailed domain)
    | .ok declaration =>
      perform (.count (.requestMade "discovery" "ok" seconds))
      if declaration.mode = .closed then
        remember (cooldownKey domain) windows.discoveryCooldown
        return .error (.remoteLookupFailed domain)
      else return .ok declaration

/-- How the outcome of a lookup is counted: by its status where there is one. -/
def lookupOutcome : Exchange → String
  | .ok response => toString response.status
  | .error _ => "error"

/-- Looks up a user at the instance of a domain. Usernames are asked for in lower case. -/
def askProfile (username domain : String) : Action Profile.Answer := do
  let url ← .ofExcept (Profile.lookupUrl domain (lower username))
  .ofProgram do
    let (exchange, seconds) ← timed (perform (.request url))
    perform (.count (.requestMade "lookup" (lookupOutcome exchange) seconds))
    return .ok (Profile.Answer.ofExchange username exchange)

/-! ### Fetching profiles -/

/-- The row of an instance that declared itself. -/
def remoteSettings (domain : String) (declaration : Declaration) : RemoteSettings :=
  { domain := domain
    remoteInstanceId := declaration.instanceId
    publicKey := declaration.publicKey
    name := declaration.name
    software := declaration.software
    mode := declaration.mode }

/-- The fields of a cached profile. -/
def stubFields (profile : Profile) : StubFields :=
  { remoteId := profile.id
    username := profile.username
    displayName := profile.displayName
    avatarId := profile.avatarId
    bio := profile.bio
    createdAt := profile.createdAt.bind Timestamp.ofText? }

/-- The name of a user with the domain. -/
def fullName (username domain : String) : String :=
  s!"{username}@{domain}"

/-- Fetches the profile of a user from the instance of a domain and keeps both. -/
def fetch (windows : Windows) (username domain : String) : Action User := do
  let declaration ← discover windows domain
  match ← askProfile username domain with
  | .found profile =>
    let now ← currentTime
    .ofProgram (perform
      (.writeRemoteUser (remoteSettings domain declaration) (stubFields profile) now))
  | .missing =>
    .ofProgram do
      remember (missKey username domain) windows.missLifetime
      return .error (.userNotFound (fullName username domain))
  | .unusable => throw (.remoteLookupFailed domain)

/-- Fetches a profile, or falls back on the cached one when the other instance is of no use. -/
def fetchOr (windows : Windows) (username domain : String) (cached : Option User) :
    Action Resolved :=
  .ofProgram do
    match ← (fetch windows username domain).toProgram, cached with
    | .ok user, _ => return .ok ⟨user, domain, .remote⟩
    | .error (.remoteLookupFailed _), some user => return .ok ⟨user, domain, .staleCache⟩
    | .error failure, _ => return .error failure

/-- Resolves a user at another instance. That the domain may be asked has been made sure of. -/
def resolveRemote (windows : Windows) (username domain : String) : Action Resolved := do
  let cached ← lookForStub windows.stubLifetime username domain
  match cached with
  | .fresh user => return ⟨user, domain, .cache⟩
  | _ =>
    let remembered ← .ofProgram do return .ok (← isRemembered (missKey username domain))
    if remembered then throw (.userNotFound (fullName username domain))
    else
      match cached with
      | .stale user => fetchOr windows username domain (some user)
      | _ => fetchOr windows username domain none

/-! ### Permission -/

/-- Whether this instance may have to do with a domain at all, which its mode decides. The mode is
read every time, so that a change takes effect at once. -/
def authorize (instanceId domain : String) : Action Unit := do
  let mode ← .ofProgram (perform (.readMode instanceId))
  let name := DomainName.normalize domain
  match mode with
  | .closed => throw .federationDisabled
  | .allowlist =>
    let isActive ← (.ofProgram (perform (.isActivePeer instanceId name)) : Action Bool)
    if isActive then pure () else throw (.peerNotAllowed name)
  | .anyone => pure ()

/-- Accepts a domain that may be asked. -/
def acceptDomain (blocked : List String) (domain : String) : Except Failure String :=
  match DomainName.validate blocked domain with
  | .ok name => .ok name
  | .error fault => .error (.invalidDomain fault.message)

/-! ### Handles -/

/-- The domain of another instance in a handle, if it has one. -/
def foreignDomain? (service : Service) (handle : Handle) : Option String :=
  handle.domain.filter fun domain => DomainName.normalize domain != service.domain

/-- Resolves a handle, without counting it. -/
def resolveHandle (service : Service) (handle : Handle) : Action Resolved := do
  .ofExcept (Username.validate handle.username)
  match foreignDomain? service handle with
  | none => service.resolveAccount handle.username
  | some domain =>
    authorize service.home.id domain
    let name ← .ofExcept (acceptDomain service.blocked domain)
    resolveRemote service.windows handle.username name

/-- How a resolution is counted. -/
def resolutionEvent (isForeign : Bool) : Except Failure Resolved → Event
  | .ok resolved => .resolution resolved.source.word "success"
  | .error failure => .resolution (if isForeign then "remote" else "local") failure.kind

end Resolution

/-- Resolves a handle as a user wrote it. -/
def Service.resolve (service : Service) (text : String) : Action Resolved :=
  .ofProgram do
    let handle := Handle.read text
    let result ← (Resolution.resolveHandle service handle).toProgram
    perform (.count
      (Resolution.resolutionEvent (Resolution.foreignDomain? service handle).isSome result))
    return result

end HandleFederation
