/-
This file proves that nothing passes the gate unless this instance permits it. A
resolution either stays at home, where it reads an account and changes nothing, or
it is let through to the instance of one domain, and then the handle was valid,
the domain foreign and acceptable, and the mode and the peers of this instance
permitted it at that call. Everything behind the gate, the cached profiles
included, is only reached in the second case. There the URLs that are requested
are the first of two, in their order.
-/

import HandleFederation.Proofs.ResolutionRun

namespace HandleFederation

open Text

/-! ### What the gate asks for -/

/-- A peer of an instance is active under the normal form of a domain. -/
def World.HasActivePeer (instanceId domain : String) (world : World) : Prop :=
  ∃ peer ∈ world.tables.peers, peer.instanceId = instanceId ∧
    sameName peer.domain (DomainName.normalize domain) = true ∧ peer.status = .active

/-- The mode of an instance, as it is read from the tables. -/
def World.HasMode (instanceId : String) (mode : FederationMode) (world : World) : Prop :=
  world.readTables (modeOf instanceId) = .ok mode

/-- The mode and the peers of an instance permit it to have to do with a domain. -/
def World.IsGranted (instanceId domain : String) (world : World) : Prop :=
  world.HasMode instanceId .anyone ∨
    world.HasMode instanceId .allowlist ∧ world.HasActivePeer instanceId domain

/-- All that has to hold before a handle is resolved at another instance, whose domain in normal form
is given last. -/
structure Resolution.IsLetThrough (service : Service) (handle : Handle) (world : World)
    (domain name : String) : Prop where
  validUsername : Username.validate handle.username = .ok ()
  namesDomain : handle.domain = some domain
  isForeign : DomainName.normalize domain ≠ service.domain
  isGranted : world.IsGranted service.home.id domain
  isAccepted : DomainName.validate service.blocked domain = .ok name

namespace World

/-- A peer that is found to be active is one. -/
theorem hasActivePeer_of_eq_true {instanceId domain : String} {world : World}
    (active : world.tables.hasActivePeer instanceId (DomainName.normalize domain) = true) :
    world.HasActivePeer instanceId domain := by
  unfold Tables.hasActivePeer Tables.peer? at active
  split at active
  · rename_i peer found
    have isPeer := List.find?_some found
    simp only [Tables.isPeer, Bool.and_eq_true, beq_iff_eq] at isPeer active
    exact ⟨peer, List.mem_of_find?_eq_some found, isPeer.1, isPeer.2, active⟩
  · cases active

/-- Tables that were read can be read again. -/
theorem isDatabaseOpen_of_hasMode {instanceId : String} {mode : FederationMode} {world : World}
    (hasMode : world.HasMode instanceId mode) : world.isDatabaseOpen = true := by
  unfold HasMode readTables at hasMode
  split at hasMode
  · assumption
  · cases hasMode

/-- Permission is only given where it is granted. -/
theorem isGranted_of_permission {instanceId domain : String} {world : World}
    (permitted : world.permission instanceId domain = .ok ()) : world.IsGranted instanceId domain := by
  unfold permission at permitted
  cases mode : world.readTables (modeOf instanceId) with
  | error failure => simp [mode, Except.bind] at permitted
  | ok found =>
    cases found with
    | anyone => exact Or.inl mode
    | closed => simp [mode, Except.bind] at permitted
    | allowlist =>
      refine Or.inr ⟨mode, hasActivePeer_of_eq_true ?_⟩
      have isOpen := isDatabaseOpen_of_hasMode mode
      refine Bool.not_eq_false _ ▸ fun inactive => ?_
      rw [mode] at permitted
      simp [readTables, Except.bind, isOpen, inactive] at permitted

/-- Nobody is permitted where the mode is closed. -/
theorem permission_of_closed {instanceId : String} {world : World} (domain : String)
    (closed : world.HasMode instanceId .closed) :
    world.permission instanceId domain = .error .federationDisabled := by
  rw [permission, closed]
  rfl

/-- Only active peers are permitted where the mode is that of an allow-list. -/
theorem permission_of_inactive {instanceId domain : String} {world : World}
    (allowlist : world.HasMode instanceId .allowlist)
    (inactive : ¬ world.HasActivePeer instanceId domain) :
    world.permission instanceId domain = .error (.peerNotAllowed (DomainName.normalize domain)) := by
  have isOpen := isDatabaseOpen_of_hasMode allowlist
  have notFound : world.tables.hasActivePeer instanceId (DomainName.normalize domain) = false :=
    Bool.eq_false_iff.mpr fun active => inactive (hasActivePeer_of_eq_true active)
  rw [permission, allowlist]
  simp [readTables, isOpen, notFound, Except.bind]

/-- The answer about an account is one of this instance. -/
theorem isHome_of_accountAnswer {service : Service} {username : String} {world : World}
    {resolved : Resolved} (answer : world.accountAnswer service username = .ok resolved) :
    resolved.source = .home ∧ resolved.user.instanceId = service.home.id := by
  unfold accountAnswer readTables at answer
  split at answer
  · simp only [Except.bind] at answer
    split at answer
    · rename_i user found
      cases answer
      have isUser := List.find?_some found
      simp only [Tables.isUser, Bool.and_eq_true, beq_iff_eq] at isUser
      exact ⟨rfl, isUser.1⟩
    · cases answer
  · cases answer

end World

namespace Resolution

/-! ### The two ways of a resolution -/

/-- The domain of a handle is foreign when it is there and is not the one of this instance. -/
theorem foreignDomain?_eq_some_iff {service : Service} {handle : Handle} {domain : String} :
    foreignDomain? service handle = some domain ↔
      handle.domain = some domain ∧ DomainName.normalize domain ≠ service.domain := by
  simp [foreignDomain?, Option.filter_eq_some_iff]

theorem acceptDomain_eq_ok_iff {blocked : List String} {domain name : String} :
    acceptDomain blocked domain = .ok name ↔ DomainName.validate blocked domain = .ok name := by
  unfold acceptDomain
  split <;> simp_all

/-- A resolution is let through to one domain, or it stays at home and changes nothing. -/
theorem run_resolveHandle_cases (surroundings : Surroundings) (service : Service) (handle : Handle)
    (world : World) :
    (∃ domain name, IsLetThrough service handle world domain name ∧
      (resolveHandle service handle).toProgram.run surroundings world =
        (resolveRemote service.windows handle.username name).toProgram.run surroundings world) ∨
    ∃ result, (resolveHandle service handle).toProgram.run surroundings world = (some result, world) ∧
      ∀ resolved, result = .ok resolved →
        resolved.source = .home ∧ resolved.user.instanceId = service.home.id := by
  rw [run_resolveHandle]
  split
  · exact Or.inr ⟨_, rfl, by simp⟩
  · rename_i valid
    split
    · exact Or.inr ⟨_, rfl, fun resolved answer => World.isHome_of_accountAnswer answer⟩
    · rename_i domain foreign
      split
      · exact Or.inr ⟨_, rfl, by simp⟩
      · rename_i permitted
        split
        · exact Or.inr ⟨_, rfl, by simp⟩
        · rename_i name accepted
          obtain ⟨names, isForeign⟩ := foreignDomain?_eq_some_iff.mp foreign
          exact Or.inl ⟨domain, name, ⟨valid, names, isForeign,
            World.isGranted_of_permission permitted, acceptDomain_eq_ok_iff.mp accepted⟩, rfl⟩

/-- A foreign handle that is refused permission gets that as its answer, whatever its domain is. -/
theorem run_resolveHandle_of_refused (surroundings : Surroundings) {service : Service}
    {handle : Handle} {world : World} {domain : String} {failure : Failure}
    (valid : Username.validate handle.username = .ok ()) (names : handle.domain = some domain)
    (isForeign : DomainName.normalize domain ≠ service.domain)
    (refused : world.permission service.home.id domain = .error failure) :
    (resolveHandle service handle).toProgram.run surroundings world =
      (some (.error failure), world) := by
  rw [run_resolveHandle, valid, foreignDomain?_eq_some_iff.mpr ⟨names, isForeign⟩]
  simp only [refused]

/-! ### What is requested -/

/-- The URLs at which another instance may be asked for one of its users, in the order in which it is
asked: for its declaration, and then for the user. -/
def contacts (username domain : String) : List Url :=
  match declarationUrl domain with
  | .error _ => []
  | .ok declaration =>
    declaration ::
      match Profile.lookupUrl domain (lower username) with
      | .error _ => []
      | .ok lookup => [lookup]

variable (surroundings : Surroundings)

/-- An instance that declares something was asked for it. -/
theorem requested_declaring (domain : String) (world : World) :
    (∃ fault, (world.declaring surroundings domain).1 = .error fault ∧
      (world.declaring surroundings domain).2.requested = world.requested) ∨
    ∃ url, declarationUrl domain = .ok url ∧
      (world.declaring surroundings domain).2.requested = url :: world.requested := by
  unfold World.declaring
  cases declarationUrl domain with
  | error fault => exact Or.inl ⟨_, rfl, rfl⟩
  | ok url => exact Or.inr ⟨url, rfl, rfl⟩

/-- Discovering an instance asks it for its declaration, or asks nothing and fails. -/
theorem requested_run_discover (windows : Windows) (domain : String) (world : World) :
    let outcome := (discover windows domain).toProgram.run surroundings world
    (outcome.2.requested = world.requested ∧ ∀ declaration, outcome.1 ≠ some (.ok declaration)) ∨
      ∃ url, declarationUrl domain = .ok url ∧ outcome.2.requested = url :: world.requested := by
  dsimp only
  rw [run_discover]
  split
  · exact Or.inl ⟨rfl, by simp⟩
  · have asked := requested_declaring surroundings domain world.called
    split
    · rename_i fault after declared
      rw [declared] at asked
      rcases asked with ⟨_, _, same⟩ | more
      · refine Or.inl ⟨by simpa using same, fun declaration => ?_⟩
        simp
      · exact Or.inr (by simpa using more)
    · rename_i declaration after declared
      rw [declared] at asked
      rcases asked with ⟨_, failed, _⟩ | more
      · cases failed
      · refine Or.inr ?_
        split <;> simpa using more

/-- Fetching a profile asks at the first of the two URLs, in their order. -/
theorem requested_run_fetch (windows : Windows) (username domain : String) (world : World) :
    ∃ asked, asked <+: contacts username domain ∧
      ((fetch windows username domain).toProgram.run surroundings world).2.requested =
        asked.reverse ++ world.requested := by
  have discovered := requested_run_discover surroundings windows domain world
  rw [run_fetch]
  generalize (discover windows domain).toProgram.run surroundings world = outcome at discovered ⊢
  obtain ⟨result, found⟩ := outcome
  rcases discovered with ⟨same, undiscovered⟩ | ⟨url, declared, asked⟩
  · refine ⟨[], List.nil_prefix, ?_⟩
    rcases result with _ | failure | declaration
    · simpa using same
    · simpa using same
    · exact absurd rfl (undiscovered declaration)
  · simp only at asked
    have first : [url] <+: contacts username domain := by
      rw [contacts, declared]
      exact List.prefix_cons_iff.mpr (Or.inr ⟨[], rfl, List.nil_prefix⟩)
    rcases result with _ | failure | declaration
    · exact ⟨[url], first, by simpa using asked⟩
    · exact ⟨[url], first, by simpa using asked⟩
    · dsimp only
      rw [run_askProfile]
      cases lookedUp : Profile.lookupUrl domain (lower username) with
      | error failure => exact ⟨[url], first, by simpa using asked⟩
      | ok lookup =>
        refine ⟨[url, lookup], ?_, ?_⟩
        · simp only [contacts, declared, lookedUp, List.prefix_rfl]
        · dsimp only
          cases Profile.Answer.ofExchange username (surroundings.transport found.requested lookup)
            <;> simp [asked]

/-- Resolving a user of another instance asks at the first of the two URLs, in their order. -/
theorem requested_run_resolveRemote (windows : Windows) (username domain : String) (world : World) :
    ∃ asked, asked <+: contacts username domain ∧
      ((resolveRemote windows username domain).toProgram.run surroundings world).2.requested =
        asked.reverse ++ world.requested := by
  rw [run_resolveRemote]
  split
  · exact ⟨[], List.nil_prefix, rfl⟩
  · exact ⟨[], List.nil_prefix, rfl⟩
  · dsimp only
    split
    · exact ⟨[], List.nil_prefix, rfl⟩
    · exact requested_run_fetch surroundings windows username domain _

end Resolution

open Resolution

/-- The run of a resolution changes no more than that of the handle, the counts apart. -/
theorem Service.run_resolve_counts (surroundings : Surroundings) (service : Service) (text : String)
    (world : World) :
    let handled := (resolveHandle service (Handle.read text)).toProgram.run surroundings world
    let resolved := (service.resolve text).toProgram.run surroundings world
    resolved.1 = handled.1 ∧ resolved.2.requested = handled.2.requested ∧
      resolved.2.tables = handled.2.tables ∧ resolved.2.store = handled.2.store := by
  dsimp only
  rw [run_resolve]
  rcases (resolveHandle service (Handle.read text)).toProgram.run surroundings world
    with ⟨_ | result, after⟩ <;> exact ⟨rfl, rfl, rfl, rfl⟩

/-- Nothing is requested, changed or answered from another instance unless the handle is let through
to it. A valid foreign handle is refused where the mode is closed, and where it is that of an
allow-list without the domain as an active peer, whatever is cached; a refusal of any kind requests and
changes nothing. In every case the URLs requested are the first of those at which the instance of the
domain is asked for its declaration and for the user. -/
theorem Service.resolve_only_lets_through (surroundings : Surroundings) (service : Service)
    (text : String) (world : World) :
    let handle := Handle.read text
    let outcome := (service.resolve text).toProgram.run surroundings world
    ((outcome.2.requested ≠ world.requested ∨
        ∃ resolved, outcome.1 = some (.ok resolved) ∧
          (resolved.user.instanceId ≠ service.home.id ∨ resolved.source ≠ .home)) →
      ∃ domain name, IsLetThrough service handle world domain name) ∧
    (∀ domain, Username.validate handle.username = .ok () → handle.domain = some domain →
      DomainName.normalize domain ≠ service.domain →
      (world.HasMode service.home.id .closed →
        outcome.1 = some (.error .federationDisabled)) ∧
      (world.HasMode service.home.id .allowlist → ¬ world.HasActivePeer service.home.id domain →
        outcome.1 = some (.error (.peerNotAllowed (DomainName.normalize domain))))) ∧
    ((¬ ∃ domain name, IsLetThrough service handle world domain name) →
      outcome.2.requested = world.requested ∧ outcome.2.tables = world.tables ∧
        outcome.2.store = world.store) ∧
    (outcome.2.requested = world.requested ∨
      ∃ domain name asked, IsLetThrough service handle world domain name ∧
        asked <+: contacts handle.username name ∧
        outcome.2.requested = asked.reverse ++ world.requested) := by
  have counts := Service.run_resolve_counts surroundings service text world
  dsimp only at counts ⊢
  obtain ⟨sameResult, sameRequested, sameTables, sameStore⟩ := counts
  rw [sameResult, sameRequested, sameTables, sameStore]
  refine ⟨?_, ?_, ?_, ?_⟩
  · rcases run_resolveHandle_cases surroundings service (Handle.read text) world with
      ⟨domain, name, through, -⟩ | ⟨result, stays, isHome⟩
    · exact fun _ => ⟨domain, name, through⟩
    · rw [stays]
      rintro (requested | ⟨resolved, answer, elsewhere⟩)
      · exact absurd rfl requested
      · obtain ⟨source, instanceId⟩ := isHome resolved (Option.some_inj.mp answer)
        rcases elsewhere with other | other
        · exact absurd instanceId other
        · exact absurd source other
  · intro domain valid names isForeign
    refine ⟨fun closed => ?_, fun allowlist inactive => ?_⟩
    · rw [run_resolveHandle_of_refused surroundings valid names isForeign
        (World.permission_of_closed domain closed)]
    · rw [run_resolveHandle_of_refused surroundings valid names isForeign
        (World.permission_of_inactive allowlist inactive)]
  · intro kept
    rcases run_resolveHandle_cases surroundings service (Handle.read text) world with
      ⟨domain, name, through, -⟩ | ⟨result, stays, -⟩
    · exact absurd ⟨domain, name, through⟩ kept
    · rw [stays]
      exact ⟨rfl, rfl, rfl⟩
  · rcases run_resolveHandle_cases surroundings service (Handle.read text) world with
      ⟨domain, name, through, run⟩ | ⟨result, stays, -⟩
    · rw [run]
      obtain ⟨asked, isPrefix, requested⟩ :=
        requested_run_resolveRemote surroundings service.windows (Handle.read text).username name world
      exact Or.inr ⟨domain, name, asked, through, isPrefix, requested⟩
    · rw [stays]
      exact Or.inl rfl

end HandleFederation
