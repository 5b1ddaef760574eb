/-
This file says what a resolution does to the world, one equation for each of its
parts: which command comes next, what is found out by it, and in which world it
leaves off. Each equation is a case distinction over the world at the start, so
that a proof about resolutions never runs a program: it looks at the cases. Time
stands still while a program runs, so the seconds that are counted for a request
are those between an instant and itself.
-/

import HandleFederation.Proofs.Program
import HandleFederation.Resolution

namespace HandleFederation

open Program Text

/-! ### Small changes of the world -/

namespace World

/-- The world after an event was counted. -/
def counted (event : Event) (world : World) : World :=
  { world with metrics := world.metrics.record event }

/-- The world after another instance was asked. -/
def asked (url : Url) (world : World) : World :=
  { world with requested := url :: world.requested }

/-- The world after an operation of the store that changed nothing there. -/
def called (world : World) : World :=
  { world with storeCalls := world.storeCalls + 1 }

/-- The world after a request was counted. -/
def countedRequest (kind outcome : String) (world : World) : World :=
  world.counted (.requestMade kind outcome (inSeconds (world.time.elapsed world.time)))

/-- Whether a look at the store finds something. A store that fails finds nothing. -/
def recalls (surroundings : Surroundings) (key : String) (world : World) : Bool :=
  (surroundings.storeFailure .get world.storeCalls).isNone && (world.store.get? world.now key).isSome

theorem recalls_of_get?_eq_none (surroundings : Surroundings) {key : String} {world : World}
    (isNone : world.store.get? world.now key = none) : world.recalls surroundings key = false := by
  rw [recalls, isNone]
  exact Bool.and_false _

/-- What becomes of the world when something is to be remembered for some seconds, and whether the
server survives it. -/
def remembering (surroundings : Surroundings) (key : String) (seconds : Nat) (world : World) :
    Option Unit × World :=
  if seconds = 0 then (some (), world)
  else
    match surroundings.storeFailure .set world.storeCalls with
    | some _ => (some (), world.called)
    | none =>
      match world.store.set? world.now key "1" seconds with
      | some store => (some (), { world.called with store := store })
      | none => (none, world.called)

/-- What the instance of a domain declares when it is asked, and the world afterwards. -/
def declaring (surroundings : Surroundings) (domain : String) (world : World) :
    Except DiscoveryFault Declaration × World :=
  match declarationUrl domain with
  | .error fault => (.error (.transport fault), world)
  | .ok url => (Declaration.ofExchange domain (surroundings.transport world.requested url), world.asked url)

/-- The stub of a user and what can be said about its freshness, unless the tables cannot be read. -/
def stubFound (lifetime : Option Nat) (username domain : String) (world : World) :
    Except Failure Resolution.Cached :=
  (world.readTables fun tables => .ok (tables.stub? username domain)).map fun stub =>
    match stub with
    | some user => .ofUser lifetime world.time user
    | none => .missing

/-- Whether an instance may have to do with a domain, as its mode and its peers are now. -/
def permission (instanceId domain : String) (world : World) : Except Failure Unit :=
  (world.readTables (modeOf instanceId)).bind fun mode =>
    match mode with
    | .closed => .error .federationDisabled
    | .allowlist =>
      (world.readTables fun tables =>
          .ok (tables.hasActivePeer instanceId (DomainName.normalize domain))).bind fun isActive =>
        if isActive then .ok () else .error (.peerNotAllowed (DomainName.normalize domain))
    | .anyone => .ok ()

/-- The answer to a resolution of an account of this instance. -/
def accountAnswer (service : Service) (username : String) (world : World) : Except Failure Resolved :=
  (world.readTables fun tables => .ok (tables.user? service.home.id username)).bind fun account =>
    match account with
    | some user => .ok ⟨user, service.domain, .home⟩
    | none => .error (.userNotFound username)

theorem carryOut_count (surroundings : Surroundings) (event : Event) (world : World) :
    world.carryOut surroundings (.count event) = (some (), world.counted event) := rfl

theorem carryOut_request (surroundings : Surroundings) (url : Url) (world : World) :
    world.carryOut surroundings (.request url) =
      (some (surroundings.transport world.requested url), world.asked url) := rfl

/-! ### What the small changes leave alone -/

@[simp] theorem requested_counted (event : Event) (world : World) :
    (world.counted event).requested = world.requested := rfl

@[simp] theorem requested_called (world : World) : world.called.requested = world.requested := rfl

@[simp] theorem requested_asked (url : Url) (world : World) :
    (world.asked url).requested = url :: world.requested := rfl

@[simp] theorem requested_countedRequest (kind outcome : String) (world : World) :
    (world.countedRequest kind outcome).requested = world.requested := rfl

@[simp] theorem requested_remembering (surroundings : Surroundings) (key : String) (seconds : Nat)
    (world : World) : (world.remembering surroundings key seconds).2.requested = world.requested := by
  unfold remembering
  split
  · rfl
  · split
    · rfl
    · split <;> rfl

@[simp] theorem requested_changeTables {Result : Type} (identifiers : Nat)
    (change : Tables → Except Failure (Result × Tables)) (world : World) :
    (world.changeTables identifiers change).2.requested = world.requested := by
  unfold changeTables
  split
  · dsimp only
    split <;> rfl
  · rfl

@[simp] theorem time_counted (event : Event) (world : World) : (world.counted event).time = world.time :=
  rfl

@[simp] theorem time_asked (url : Url) (world : World) : (world.asked url).time = world.time := rfl

end World

namespace Resolution

variable (surroundings : Surroundings)

/-! ### What is remembered for a while -/

theorem run_isRemembered (key : String) (world : World) :
    (isRemembered key).run surroundings world =
      (some (world.recalls surroundings key), world.called) := by
  simp only [isRemembered, bind_eq_andThen, perform, step_andThen, done_andThen, run_step, World.carryOut,
    World.useStore, World.recalls]
  cases surroundings.storeFailure .get world.storeCalls <;> rfl

theorem run_remember (key : String) (seconds : Nat) (world : World) :
    (remember key seconds).run surroundings world = world.remembering surroundings key seconds := by
  unfold remember World.remembering
  split
  · rfl
  · simp only [bind_eq_andThen, perform, step_andThen, done_andThen, run_step, World.carryOut, World.useStore]
    cases surroundings.storeFailure .set world.storeCalls with
    | some failure => rfl
    | none => cases world.store.set? world.now key "1" seconds <;> rfl

/-- Remembering something and then giving a result, which there is none of if the server breaks down. -/
theorem run_remember_andThen_done {Result : Type} (key : String) (seconds : Nat) (result : Result)
    (world : World) :
    ((remember key seconds).andThen fun _ => .done result).run surroundings world =
      ((world.remembering surroundings key seconds).1.map fun _ => result,
        (world.remembering surroundings key seconds).2) := by
  rw [run_andThen, run_remember]
  rcases world.remembering surroundings key seconds with ⟨_ | _, left⟩ <;> rfl

/-! ### Asking other instances -/

theorem run_timed {Result : Type} (program : Program Result) (world : World) :
    (timed program).run surroundings world =
      match program.run surroundings world with
      | (some result, after) => (some (result, inSeconds (world.time.elapsed after.time)), after)
      | (none, after) => (none, after) := by
  simp only [timed, bind_eq_andThen, perform, step_andThen, done_andThen, run_step, run_andThen,
    World.carryOut_clock]
  rcases program.run surroundings world with ⟨_ | result, after⟩ <;> rfl

theorem run_askDeclaration (domain : String) (world : World) :
    (askDeclaration domain).run surroundings world =
      (some (world.declaring surroundings domain).1, (world.declaring surroundings domain).2) := by
  unfold askDeclaration World.declaring
  cases declarationUrl domain with
  | error fault => rfl
  | ok url => rfl

/-- Asking takes no time. -/
@[simp] theorem time_declaring (domain : String) (world : World) :
    (world.declaring surroundings domain).2.time = world.time := by
  unfold World.declaring
  split <;> rfl

/-- Discovering an instance: nothing is asked where that failed a moment ago; otherwise a fault and a
closed instance are remembered. -/
theorem run_discover (windows : Windows) (domain : String) (world : World) :
    (discover windows domain).toProgram.run surroundings world =
      if world.recalls surroundings (cooldownKey domain) then
        (some (.error (.remoteLookupFailed domain)), world.called)
      else
        match world.called.declaring surroundings domain with
        | (.error _, after) =>
          let left := (after.countedRequest "discovery" "error").remembering surroundings
            (cooldownKey domain) windows.discoveryCooldown
          (left.1.map fun _ => .error (.remoteLookupFailed domain), left.2)
        | (.ok declaration, after) =>
          if declaration.mode = .closed then
            let left := (after.countedRequest "discovery" "ok").remembering surroundings
              (cooldownKey domain) windows.discoveryCooldown
            (left.1.map fun _ => .error (.remoteLookupFailed domain), left.2)
          else (some (.ok declaration), after.countedRequest "discovery" "ok") := by
  simp only [discover, Action.toProgram_ofProgram, bind_eq_andThen, run_andThen, run_isRemembered]
  cases world.recalls surroundings (cooldownKey domain) with
  | true => rfl
  | false =>
    have instant := time_declaring surroundings domain world.called
    simp only [Bool.false_eq_true, if_false, run_andThen, run_timed, run_askDeclaration]
    generalize world.called.declaring surroundings domain = declared at instant ⊢
    obtain ⟨fault | declaration, after⟩ := declared
    · simp only at instant
      simp only [perform, step_andThen, done_andThen, run_step, World.carryOut_count, pure_eq_done,
        run_remember_andThen_done, World.countedRequest, instant]
    · simp only at instant
      simp only [perform, step_andThen, done_andThen, run_step, World.carryOut_count, pure_eq_done,
        World.countedRequest, instant]
      split
      · rw [run_remember_andThen_done]
      · rfl

/-- Looking a user up at an instance. -/
theorem run_askProfile (username domain : String) (world : World) :
    (askProfile username domain).toProgram.run surroundings world =
      match Profile.lookupUrl domain (lower username) with
      | .error failure => (some (.error failure), world)
      | .ok url =>
        let exchange := surroundings.transport world.requested url
        (some (.ok (Profile.Answer.ofExchange username exchange)),
          (world.asked url).countedRequest "lookup" (lookupOutcome exchange)) := by
  simp only [askProfile, Action.toProgram_bind, Action.toProgram_ofExcept, done_andThen]
  cases Profile.lookupUrl domain (lower username) with
  | error failure => rfl
  | ok url =>
    simp only [Action.toProgram_ofProgram, bind_eq_andThen, run_andThen, run_timed, perform,
      run_step, World.carryOut_request, run_done, step_andThen, done_andThen, World.carryOut_count,
      pure_eq_done, World.time_asked, World.countedRequest]

/-! ### Fetching profiles -/

/-- Fetching a profile: the instance is discovered first, then the user is looked up there, and a
profile that was found is written with its instance. -/
theorem run_fetch (windows : Windows) (username domain : String) (world : World) :
    (fetch windows username domain).toProgram.run surroundings world =
      match (discover windows domain).toProgram.run surroundings world with
      | (none, found) => (none, found)
      | (some (.error failure), found) => (some (.error failure), found)
      | (some (.ok declaration), found) =>
        match (askProfile username domain).toProgram.run surroundings found with
        | (none, answered) => (none, answered)
        | (some (.error failure), answered) => (some (.error failure), answered)
        | (some (.ok .unusable), answered) => (some (.error (.remoteLookupFailed domain)), answered)
        | (some (.ok .missing), answered) =>
          let left := answered.remembering surroundings (missKey username domain) windows.missLifetime
          (left.1.map fun _ => .error (.userNotFound (fullName username domain)), left.2)
        | (some (.ok (.found profile)), answered) =>
          let written := answered.changeTables 2
            (Tables.putRemoteUser (remoteSettings domain declaration) (stubFields profile)
              (identifier answered.issued) (identifier (answered.issued + 1)) answered.time)
          (some written.1, written.2) := by
  simp only [fetch, Action.toProgram_bind, run_andThen]
  rcases (discover windows domain).toProgram.run surroundings world
    with ⟨_ | failure | declaration, found⟩
  · rfl
  · rfl
  · simp only [run_andThen]
    rcases (askProfile username domain).toProgram.run surroundings found
      with ⟨_ | failure | profile | _ | _, answered⟩
    · rfl
    · rfl
    · rfl
    · simp only [Action.toProgram_ofProgram, bind_eq_andThen, pure_eq_done,
        run_remember_andThen_done]
    · rfl

/-! ### Cached profiles -/

/-- Looking for a stub: whether there was a fresh one is counted. -/
theorem run_lookForStub (lifetime : Option Nat) (username domain : String) (world : World) :
    (lookForStub lifetime username domain).toProgram.run surroundings world =
      match world.stubFound lifetime username domain with
      | .error failure => (some (.error failure), world)
      | .ok cached => (some (.ok cached), world.counted (.cacheAccess "user_stub" cached.isFresh)) := by
  simp only [lookForStub, readStub, World.stubFound, Action.toProgram_bind,
    Action.toProgram_ofProgram, perform, step_andThen, done_andThen, run_step, World.carryOut]
  cases world.readTables fun tables => .ok (tables.stub? username domain) with
  | error failure => rfl
  | ok stub => cases stub <;> rfl

/-- The stub that is left to fall back on when there is no fresh one. -/
def Cached.stale? : Cached → Option User
  | .stale user => some user
  | _ => none

/-- The answer to a resolution after a fetch, which may fall back on a stub that is not fresh. -/
def settle (domain : String) (stale : Option User) : Except Failure User → Except Failure Resolved
  | .ok user => .ok ⟨user, domain, .remote⟩
  | .error (.remoteLookupFailed name) =>
    match stale with
    | some user => .ok ⟨user, domain, .staleCache⟩
    | none => .error (.remoteLookupFailed name)
  | .error failure => .error failure

theorem run_fetchOr (windows : Windows) (username domain : String) (stale : Option User)
    (world : World) :
    (fetchOr windows username domain stale).toProgram.run surroundings world =
      (((fetch windows username domain).toProgram.run surroundings world).1.map (settle domain stale),
        ((fetch windows username domain).toProgram.run surroundings world).2) := by
  simp only [fetchOr, Action.toProgram_ofProgram, bind_eq_andThen, run_andThen]
  rcases (fetch windows username domain).toProgram.run surroundings world
    with ⟨_ | failure | user, after⟩
  · rfl
  · cases failure <;> cases stale <;> rfl
  · rfl

/-- Resolving a user of another instance: a fresh stub is the answer, and otherwise, unless the user
was missing a moment ago, a fetch decides. -/
theorem run_resolveRemote (windows : Windows) (username domain : String) (world : World) :
    (resolveRemote windows username domain).toProgram.run surroundings world =
      match world.stubFound windows.stubLifetime username domain with
      | .error failure => (some (.error failure), world)
      | .ok (.fresh user) =>
        (some (.ok ⟨user, domain, .cache⟩), world.counted (.cacheAccess "user_stub" true))
      | .ok cached =>
        let missed := world.counted (.cacheAccess "user_stub" false)
        if missed.recalls surroundings (missKey username domain) then
          (some (.error (.userNotFound (fullName username domain))), missed.called)
        else
          let fetched := (fetch windows username domain).toProgram.run surroundings missed.called
          (fetched.1.map (settle domain cached.stale?), fetched.2) := by
  simp only [resolveRemote, Action.toProgram_bind, run_andThen, run_lookForStub]
  cases world.stubFound windows.stubLifetime username domain with
  | error failure => rfl
  | ok cached =>
    cases cached with
    | fresh user => rfl
    | stale user =>
      simp only [Action.toProgram_bind, Action.toProgram_ofProgram, bind_eq_andThen, run_andThen,
        run_isRemembered, pure_eq_done, run_done, Cached.isFresh]
      split
      · rfl
      · rw [run_fetchOr]
        rfl
    | missing =>
      simp only [Action.toProgram_bind, Action.toProgram_ofProgram, bind_eq_andThen, run_andThen,
        run_isRemembered, pure_eq_done, run_done, Cached.isFresh]
      split
      · rfl
      · rw [run_fetchOr]
        rfl

/-! ### Permission -/

/-- Asking for permission changes nothing. -/
theorem run_authorize (instanceId domain : String) (world : World) :
    (authorize instanceId domain).toProgram.run surroundings world =
      (some (world.permission instanceId domain), world) := by
  simp only [authorize, World.permission, Action.toProgram_bind, Action.toProgram_ofProgram, perform,
    step_andThen, done_andThen, run_step, World.carryOut]
  cases world.readTables (World.modeOf instanceId) with
  | error failure => rfl
  | ok mode =>
    cases mode with
    | anyone => rfl
    | closed => rfl
    | allowlist =>
      simp only [Action.toProgram_bind, Action.toProgram_ofProgram, step_andThen, done_andThen,
        run_step, World.carryOut, Except.bind]
      rcases world.readTables fun tables =>
        .ok (tables.hasActivePeer instanceId (DomainName.normalize domain)) with failure | _ | _
        <;> rfl

/-! ### Handles -/

/-- Resolving an account of this instance only looks. -/
theorem run_resolveAccount (service : Service) (username : String) (world : World) :
    (service.resolveAccount username).toProgram.run surroundings world =
      (some (world.accountAnswer service username), world) := by
  simp only [Service.resolveAccount, Service.findAccount, World.accountAnswer, Action.toProgram_bind,
    Action.toProgram_ofProgram, perform, step_andThen, done_andThen, run_step, World.carryOut]
  rcases world.readTables fun tables => .ok (tables.user? service.home.id username)
    with failure | _ | user <;> rfl

/-- Resolving a handle: the username is looked at first, an account of this instance needs nothing
more, and any other domain needs permission before it is looked at itself. -/
theorem run_resolveHandle (service : Service) (handle : Handle) (world : World) :
    (resolveHandle service handle).toProgram.run surroundings world =
      match Username.validate handle.username with
      | .error failure => (some (.error failure), world)
      | .ok () =>
        match foreignDomain? service handle with
        | none => (some (world.accountAnswer service handle.username), world)
        | some domain =>
          match world.permission service.home.id domain with
          | .error failure => (some (.error failure), world)
          | .ok () =>
            match acceptDomain service.blocked domain with
            | .error failure => (some (.error failure), world)
            | .ok name =>
              (resolveRemote service.windows handle.username name).toProgram.run surroundings
                world := by
  simp only [resolveHandle, Action.toProgram_bind, Action.toProgram_ofExcept, done_andThen]
  cases Username.validate handle.username with
  | error failure => rfl
  | ok _ =>
    cases foreignDomain? service handle with
    | none => exact run_resolveAccount surroundings service handle.username world
    | some domain =>
      simp only [Action.toProgram_bind, run_andThen, run_authorize, Action.toProgram_ofExcept,
        done_andThen]
      cases world.permission service.home.id domain with
      | error failure => rfl
      | ok _ =>
        simp only
        cases acceptDomain service.blocked domain <;> rfl

/-- Resolving a handle as a user wrote it: the result is counted. -/
theorem run_resolve (service : Service) (text : String) (world : World) :
    (service.resolve text).toProgram.run surroundings world =
      match (resolveHandle service (Handle.read text)).toProgram.run surroundings world with
      | (some result, after) =>
        (some result,
          after.counted (resolutionEvent (foreignDomain? service (Handle.read text)).isSome result))
      | (none, after) => (none, after) := by
  simp only [Service.resolve, Action.toProgram_ofProgram, bind_eq_andThen, run_andThen]
  rcases (resolveHandle service (Handle.read text)).toProgram.run surroundings world
    with ⟨_ | result, after⟩ <;> rfl

end Resolution

end HandleFederation
