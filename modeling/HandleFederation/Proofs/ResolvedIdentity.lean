/-
This file says whose record an answer is. There are four ways to come by one: an account
of this instance, a stub that is fresh, a stub that is not, and a profile that was just
fetched. In each of them the record is a row of the tables afterwards, the username is
that of the handle, and the instance it belongs to is the only one of the domain, which
is this instance just when the record is an account. What the other instance says goes
into the rows that are told apart by its domain and by the username that was asked for,
and it has no say in the identifiers of these rows: they are settled by the tables and
the number of identifiers before the fetch.
-/

import HandleFederation.Proofs.ServedQuery

namespace HandleFederation

open Program Resolution Text

/-! ### The row of this instance -/

namespace Tables

variable {issued : Nat} {tables changed : Tables} {id domain : String}

/-- A row of this instance stands under an identifier and a domain. -/
def HasLocal (id domain : String) (tables : Tables) : Prop :=
  ∃ row ∈ tables.instances, row.id = id ∧ row.domain = domain ∧ row.isLocal = true

namespace HasLocal

theorem of_instances (hasLocal : tables.HasLocal id domain)
    (same : changed.instances = tables.instances) : changed.HasLocal id domain := by
  rw [HasLocal, same]
  exact hasLocal

/-- A row of this instance may change in all but that it is one, its identifier and its domain. -/
theorem changeInstance (hasLocal : tables.HasLocal id domain) (test : InstanceRow → Bool)
    (change : InstanceRow → InstanceRow) (sameId : ∀ row, (change row).id = row.id)
    (sameDomain : ∀ row, (change row).domain = row.domain)
    (staysLocal : ∀ row, row.isLocal = true → (change row).isLocal = true) :
    HasLocal id domain { tables with instances := changeFirst test change tables.instances } := by
  obtain ⟨row, isRow, isId, isDomain, isLocal⟩ := hasLocal
  rcases mem_changeFirst_or_change_mem isRow with kept | ⟨-, moved⟩
  · exact ⟨row, kept, isId, isDomain, isLocal⟩
  · exact ⟨change row, moved, (sameId row).trans isId, (sameDomain row).trans isDomain,
      staysLocal row isLocal⟩

theorem addInstance (hasLocal : tables.HasLocal id domain) (row : InstanceRow) :
    HasLocal id domain { tables with instances := tables.instances ++ [row] } := by
  obtain ⟨old, isRow, isOld⟩ := hasLocal
  exact ⟨old, List.mem_append_left _ isRow, isOld⟩

theorem putRemote (hasLocal : tables.HasLocal id domain) {settings : RemoteSettings} {newId : String}
    {now : Timestamp} {row : InstanceRow}
    (written : tables.putRemote settings newId now = .ok (row, changed)) : changed.HasLocal id domain := by
  unfold Tables.putRemote at written
  split at written
  · split at written
    · cases written
    · cases written
      exact hasLocal.changeInstance _ _ (fun _ => rfl) (fun _ => rfl) fun _ isLocal => isLocal
  · cases written
    exact hasLocal.addInstance _

/-- No write takes a row of this instance away. -/
theorem canBecome (hasLocal : tables.HasLocal id domain) {command : Command}
    (becomes : tables.CanBecome issued command changed) : changed.HasLocal id domain := by
  cases becomes with
  | same command => exact hasLocal
  | home settings now =>
    unfold putLocal
    split
    · exact hasLocal.changeInstance _ _ (fun _ => rfl) (fun _ => rfl) fun _ _ => rfl
    · exact hasLocal.addInstance _
  | remote written => exact hasLocal.putRemote written
  | mode instanceId mode =>
    exact hasLocal.changeInstance _ (fun row => { row with mode := mode.word }) (fun _ => rfl)
      (fun _ => rfl) fun _ isLocal => isLocal
  | peer written => exact hasLocal.of_instances (instances_putPeer written)
  | account written => exact hasLocal.of_instances (instances_register written)
  | stub written => exact hasLocal.of_instances (instances_putStub written)
  | remoteUser written =>
    unfold putRemoteUser at written
    split at written
    · cases written
    · rename_i row between first
      exact (hasLocal.putRemote first).of_instances (instances_putStub written)

end HasLocal

/-- The row that a start writes is one of this instance. -/
theorem hasLocal_putLocal (settings : LocalSettings) (newId : String) (now : Timestamp) :
    (tables.putLocal settings newId now).2.HasLocal (tables.putLocal settings newId now).1.id
      (tables.putLocal settings newId now).1.domain := by
  have isLocal : (tables.putLocal settings newId now).1.isLocal = true := by
    unfold putLocal
    split <;> rfl
  exact ⟨_, mem_putLocal tables settings newId now, rfl, rfl, isLocal⟩

end Tables

/-- The row of a service is always one of this instance. -/
theorem Service.IsReachable.hasLocal {service : Service} {world : World}
    (reachable : service.IsReachable world) :
    world.tables.HasLocal service.home.id service.domain := by
  induction reachable with
  | started reachable surroundings now wrote =>
    rw [World.carryOut_writeLocal, Prod.mk.injEq, Option.some_inj] at wrote
    obtain ⟨changed, written, rfl⟩ := World.changeTables_eq_ok (Prod.ext wrote.1 wrote.2)
    obtain ⟨read, rfl⟩ := World.readChanged_eq_ok written
    obtain ⟨sameId, sameDomain⟩ := World.readRow_eq_ok read
    rw [Service.domain, sameId, sameDomain]
    exact Tables.hasLocal_putLocal _ _ _
  | carriedOut _ surroundings command inductionHypothesis =>
    exact inductionHypothesis.canBecome (World.canBecome_carryOut surroundings command)
  | later _ _ _ inductionHypothesis => exact inductionHypothesis

/-! ### The four ways to come by an answer -/

namespace Resolution

variable {username domain : String} {world : World}

/-- An account that is the answer was found under its username. -/
theorem user?_of_accountAnswer {service : Service} {resolved : Resolved}
    (answer : world.accountAnswer service username = .ok resolved) :
    world.tables.user? service.home.id username = some resolved.user ∧
      resolved.domain = service.domain ∧ resolved.source = .home := by
  unfold World.accountAnswer World.readTables at answer
  split at answer
  · dsimp only at answer
    cases found : world.tables.user? service.home.id username with
    | none =>
      rw [found] at answer
      cases answer
    | some user =>
      rw [found] at answer
      cases answer
      exact ⟨rfl, rfl, rfl⟩
  · cases answer

/-- A profile that is cached, fresh or not, is the stub of the user. -/
theorem stub?_of_stubFound {lifetime : Option Nat} {cached : Cached} {user : User}
    (found : world.stubFound lifetime username domain = .ok cached)
    (isCached : cached = .fresh user ∨ cached = .stale user) :
    world.tables.stub? username domain = some user := by
  unfold World.stubFound World.readTables at found
  split at found
  · dsimp only at found
    cases stub : world.tables.stub? username domain with
    | none =>
      rw [stub] at found
      cases found
      rcases isCached with isFresh | isStale
      · cases isFresh
      · cases isStale
    | some known =>
      rw [stub] at found
      rw [← Except.ok.inj found] at isCached
      rw [Query.eq_of_ofUser isCached]
  · cases found

variable (surroundings : Surroundings)

/-- An answer from another instance is at the domain that was asked for, and the stub of the user there
unless it was fetched. -/
theorem stub?_of_run_resolveRemote {windows : Windows} {resolved : Resolved}
    (answer : ((resolveRemote windows username domain).toProgram.run surroundings world).1 =
      some (.ok resolved)) :
    resolved.domain = domain ∧ resolved.source ≠ .home ∧
      (resolved.source ≠ .remote → world.tables.stub? username domain = some resolved.user) := by
  rw [run_resolveRemote] at answer
  split at answer
  · cases answer
  · rename_i user found
    cases answer
    exact ⟨rfl, nofun, fun _ => stub?_of_stubFound found (Or.inl rfl)⟩
  · rename_i cached notFresh found
    dsimp only at answer
    split at answer
    · cases answer
    · obtain ⟨outcome, -, settled⟩ := Option.map_eq_some_iff.mp answer
      rcases outcome with failure | user
      · cases failure with
        | remoteLookupFailed name =>
          cases cached with
          | fresh user => exact absurd rfl (notFresh user)
          | stale user =>
            cases settled
            exact ⟨rfl, nofun, fun _ => stub?_of_stubFound found (Or.inr rfl)⟩
          | missing => cases settled
        | _ => cases settled
      · cases settled
        exact ⟨rfl, nofun, fun notRemote => absurd rfl notRemote⟩

/-- An answer is an account of this instance, for a handle that names no other one, or it comes from the
instance that the handle was let through to. -/
theorem run_resolveHandle_eq_ok {service : Service} {handle : Handle} {resolved : Resolved}
    {after : World}
    (answer : (resolveHandle service handle).toProgram.run surroundings world =
      (some (.ok resolved), after)) :
    (Username.validate handle.username = .ok () ∧ foreignDomain? service handle = none ∧
      world.accountAnswer service handle.username = .ok resolved ∧ after = world) ∨
    ∃ domainText domain, IsLetThrough service handle world domainText domain ∧
      (resolveRemote service.windows handle.username domain).toProgram.run surroundings world =
        (some (.ok resolved), after) := by
  rw [run_resolveHandle] at answer
  split at answer
  · cases answer
  · rename_i valid
    split at answer
    · rename_i noForeign
      rw [Prod.mk.injEq, Option.some_inj] at answer
      exact Or.inl ⟨valid, noForeign, answer.1, answer.2.symm⟩
    · rename_i domainText foreign
      split at answer
      · cases answer
      · rename_i permitted
        split at answer
        · cases answer
        · rename_i domain accepted
          obtain ⟨names, isForeign⟩ := foreignDomain?_eq_some_iff.mp foreign
          exact Or.inr ⟨domainText, domain, ⟨valid, names, isForeign,
            World.isGranted_of_permission permitted, acceptDomain_eq_ok_iff.mp accepted⟩, answer⟩

/-- A profile that was fetched was asked for at both of the URLs. -/
theorem requested_run_fetch_of_ok {windows : Windows} {user : User}
    (fetched : ((fetch windows username domain).toProgram.run surroundings world).1 =
      some (.ok user)) :
    ((fetch windows username domain).toProgram.run surroundings world).2.requested =
      (contacts username domain).reverse ++ world.requested := by
  rw [run_fetch] at fetched ⊢
  generalize discovers : (discover windows domain).toProgram.run surroundings world = outcome
    at fetched ⊢
  rcases outcome with ⟨_ | failure | declaration, found⟩
  · cases fetched
  · cases fetched
  · obtain ⟨first, declaredAt, -, -, asked⟩ := run_discover_eq_ok surroundings discovers
    dsimp only at fetched ⊢
    rw [run_askProfile] at fetched ⊢
    cases lookedUpAt : Profile.lookupUrl domain (lower username) with
    | error failure =>
      rw [lookedUpAt] at fetched
      cases fetched
    | ok second =>
      have both : contacts username domain = [first, second] := by
        rw [contacts, declaredAt, lookedUpAt]
      rw [lookedUpAt] at fetched
      rw [both]
      dsimp only at fetched ⊢
      generalize Profile.Answer.ofExchange username (surroundings.transport found.requested second) =
        answer at fetched ⊢
      cases answer with
      | found profile =>
        rw [World.requested_changeTables]
        exact congrArg (second :: ·) asked
      | missing =>
        obtain ⟨_, -, isError⟩ := Option.map_eq_some_iff.mp fetched
        cases isError
      | unusable => cases fetched

/-- So was the profile in an answer that was fetched. -/
theorem requested_run_resolveRemote_of_remote {windows : Windows} {resolved : Resolved}
    (answer : ((resolveRemote windows username domain).toProgram.run surroundings world).1 =
      some (.ok resolved)) (isRemote : resolved.source = .remote) :
    ((resolveRemote windows username domain).toProgram.run surroundings world).2.requested =
      (contacts username domain).reverse ++ world.requested := by
  rw [run_resolveRemote] at answer ⊢
  split at answer
  · cases answer
  · cases answer
    cases isRemote
  · dsimp only at answer
    split at answer
    · cases answer
    · rename_i notMissed
      obtain ⟨outcome, isOutcome, settled⟩ := Option.map_eq_some_iff.mp answer
      dsimp only
      rw [if_neg notMissed]
      rcases outcome with failure | user
      · have noUser : ∀ user, (.error failure : Except Failure User) ≠ .ok user := fun _ => nofun
        exact absurd isRemote (source_settle noUser settled)
      · exact requested_run_fetch_of_ok surroundings isOutcome

end Resolution

/-! ### What the other instance said -/

/-- The row of an instance carries what the instance declared about itself. -/
structure InstanceRow.Carries (declaration : Declaration) (row : InstanceRow) : Prop where
  remoteInstanceId : row.remoteInstanceId = some declaration.instanceId
  publicKey : row.publicKey = declaration.publicKey
  name : row.name = declaration.name
  software : row.software = declaration.software
  mode : row.mode = declaration.mode.word

/-- The row of a user carries what the instance of the user answered. -/
structure User.Carries (profile : Profile) (user : User) : Prop where
  remoteUserId : user.remoteUserId = some profile.id
  displayName : user.displayName = profile.displayName
  avatarId : user.avatarId = profile.avatarId
  bio : user.bio = profile.bio

namespace Tables

variable {issued : Nat} {tables changed : Tables} {username domain : String} {declaration : Declaration}
  {profile : Profile} {now : Timestamp} {row : InstanceRow} {user : User}

/-- The identifiers that the instance of a domain and one of its users have, or will have once they are
written when so many were issued before. -/
def identityOf (issued : Nat) (username domain : String) (tables : Tables) : Identity where
  instanceId := ((tables.instanceAt? domain).map InstanceRecord.id).getD (identifier issued)
  userId := ((tables.stub? username domain).map User.id).getD (identifier (issued + 1))

/-- A user who is written has the identifiers that the tables settled. -/
theorem HasTakenIn.isOf_identityOf (takenIn : HasTakenIn domain username declaration profile issued now
      tables changed row user) (named : lower profile.username = lower username)
    (sound : tables.IsSound issued) (distinct : tables.HasDistinctDomains) :
    (tables.identityOf issued username domain).IsOf user := by
  have isUser := takenIn.users.meant (fun _ meant => meant) ⟨rfl, nameKey_eq_of_lower_eq named⟩
  have rowId : row.id = ((tables.instanceAt? domain).map InstanceRecord.id).getD (identifier issued) := by
    cases atDomain : tables.instanceAt? domain with
    | none =>
      have isFresh := takenIn.instances.eq_fresh fun old isOld named =>
        List.find?_eq_none.mp atDomain old isOld ((sameName_iff _ _).mpr named)
      rw [isFresh]
      rfl
    | some old =>
      obtain ⟨isOld, oldNamed⟩ := mem_of_instanceAt? atDomain
      rw [takenIn.instances.eq_renew isOld oldNamed]
      rfl
  refine ⟨isUser.1.trans rowId, ?_⟩
  rw [identityOf]
  cases found : tables.stub? username domain with
  | some known => exact (takenIn.isOf sound distinct found).2
  | none =>
    rw [takenIn.eq_newStub sound distinct found]
    rfl

end Tables

/-- A declaration that is accepted names the domain at which it was asked for. -/
theorem Declaration.lower_domain_of_ofExchange {domain : String} {exchange : Exchange}
    {declaration : Declaration} (accepted : ofExchange domain exchange = .ok declaration) :
    lower declaration.domain = lower domain := by
  rcases exchange with fault | response
  · cases accepted
  · unfold ofExchange at accepted
    dsimp only at accepted
    split at accepted
    · cases accepted
    · unfold ofBody at accepted
      split at accepted
      · cases accepted
      · split at accepted
        · cases accepted
        · split at accepted
          · cases accepted
          · rename_i notOther
            cases accepted
            rw [Bool.not_eq_true', Bool.not_eq_false] at notOther
            exact (sameUpToCase_iff _ _).mp notOther

namespace Tables.HasTakenIn

variable {issued : Nat} {tables changed : Tables} {username domain : String} {declaration : Declaration}
  {profile : Profile} {now : Timestamp} {row : InstanceRow} {user : User}

/-- The rows that were written carry what the instance said. -/
theorem carries (takenIn : HasTakenIn domain username declaration profile issued now tables changed row
      user) : row.Carries declaration ∧ user.Carries profile :=
  ⟨takenIn.instances.holds (InstanceRow.Carries declaration) (fun _ => ⟨rfl, rfl, rfl, rfl, rfl⟩)
      ⟨rfl, rfl, rfl, rfl, rfl⟩,
    takenIn.users.holds (User.Carries profile) (fun _ => ⟨rfl, rfl, rfl, rfl⟩) ⟨rfl, rfl, rfl, rfl⟩⟩

end Tables.HasTakenIn

/-! ### Answers at a site -/

/-- The domain that a handle names, in normal form; a handle without one is for this instance. -/
def Service.domainOf (service : Service) (handle : Handle) : String :=
  (handle.domain.map DomainName.normalize).getD service.domain

theorem Service.domainOf_of_isLetThrough {service : Service} {handle : Handle} {world : World}
    {domainText domain : String} (through : IsLetThrough service handle world domainText domain) :
    service.domainOf handle = domain := by
  rw [domainOf, through.namesDomain]
  exact DomainName.normalize_of_validate through.isAccepted

theorem Service.domainOf_of_foreignDomain?_eq_none {service : Service} {handle : Handle}
    (noForeign : foreignDomain? service handle = none) : service.domainOf handle = service.domain := by
  cases names : handle.domain with
  | none =>
    rw [domainOf, names]
    rfl
  | some domainText =>
    rw [domainOf, names]
    by_contra isForeign
    have foreign := foreignDomain?_eq_some_iff.mpr ⟨names, isForeign⟩
    rw [noForeign] at foreign
    cases foreign

/-- An answer is about a user of the instance with a row, the only one of the domain in the tables,
which is this instance just when the user has an account. -/
structure Resolved.IsAt (home : Instance) (tables : Tables) (row : InstanceRow) (resolved : Resolved) :
    Prop where
  isUser : resolved.user ∈ tables.users
  isAlone : tables.instances.filter (fun other => sameName other.domain resolved.domain) = [row]
  domain : row.domain = resolved.domain
  instanceId : resolved.user.instanceId = row.id
  isLocal : resolved.source = .home ↔ row.isLocal = true
  isHome : resolved.source = .home ↔ row.id = home.id

theorem Resolved.IsAt.eq_row {home : Instance} {tables : Tables} {row other : InstanceRow}
    {resolved : Resolved} (isAt : resolved.IsAt home tables row) (isRow : other ∈ tables.instances)
    (named : nameKey other.domain = nameKey resolved.domain) : other = row := by
  have isAlone : other ∈ tables.instances.filter fun other => sameName other.domain resolved.domain :=
    List.mem_filter.mpr ⟨isRow, (sameName_iff _ _).mpr named⟩
  rwa [isAt.isAlone, List.mem_singleton] at isAlone

theorem Tables.IsSound.isAt {issued : Nat} {tables : Tables} (sound : tables.IsSound issued)
    (distinct : tables.HasDistinctDomains) {home : Instance}
    (hasLocal : tables.HasLocal home.id home.domain) {resolved : Resolved} {row : InstanceRow}
    (isRow : row ∈ tables.instances) (domain : row.domain = resolved.domain)
    (isUser : resolved.user ∈ tables.users) (instanceId : resolved.user.instanceId = row.id)
    (isOwn : resolved.source = .home → row.id = home.id)
    (isForeign : resolved.source ≠ .home → row.isLocal = false) :
    resolved.IsAt home tables row := by
  obtain ⟨homeRow, isHomeRow, homeId, -, homeLocal⟩ := hasLocal
  have localOfOwn : row.id = home.id → row.isLocal = true := by
    intro sameId
    rw [List.inj_on_of_nodup_map sound.instancesDistinct isRow isHomeRow (sameId.trans homeId.symm)]
    exact homeLocal
  have homeOfLocal : row.isLocal = true → resolved.source = .home := by
    intro isLocal
    by_contra notHome
    rw [isForeign notHome] at isLocal
    cases isLocal
  exact ⟨isUser, distinct.filter_eq_singleton sound isRow (congrArg nameKey domain), domain, instanceId,
    ⟨fun isHome => localOfOwn (isOwn isHome), homeOfLocal⟩,
    ⟨isOwn, fun sameId => homeOfLocal (localOfOwn sameId)⟩⟩

namespace Site

variable {site : Site} {text : String} {resolved : Resolved}

/-- A resolution leaves the tables alone, or its answer was fetched and was written with its instance. -/
theorem resolve_effect (reachable : site.IsReachable) (text : String) :
    ((∀ resolved, (site.resolve text).1 = some (.ok resolved) → resolved.source ≠ .remote) ∧
      (site.resolve text).2.tables = site.world.tables) ∨
    ∃ domain declaration profile row user,
      (site.resolve text).1 = some (.ok ⟨user, domain, .remote⟩) ∧
      IsAnswered site.surroundings domain (Handle.read text).username site.world.requested declaration
        profile ∧
      Tables.HasTakenIn domain (Handle.read text).username declaration profile site.world.issued
        site.world.time site.world.tables (site.resolve text).2.tables row user := by
  have isReachable := Service.IsReachable.isReachable reachable
  obtain ⟨sameResult, -, sameTables, -⟩ :=
    Service.run_resolve_counts site.surroundings site.service text site.world
  rw [Site.resolve, sameResult, sameTables]
  refine (run_resolveHandle_effect site.surroundings site.service (Handle.read text) site.world).imp_right ?_
  rintro ⟨domainText, domain, declaration, profile, user, -, answered, isUser, written⟩
  obtain ⟨_, _, -, -, -, found⟩ := answered.asked
  obtain ⟨row, takenIn⟩ := Tables.hasTakenIn_putRemoteUser isReachable.isSound.tables
    isReachable.hasDistinctDomains (lower_username_of_found found) written
  exact ⟨domain, declaration, profile, row, user, isUser, answered, takenIn⟩

/-- An answer that was fetched was written with its instance. -/
theorem exists_hasTakenIn (reachable : site.IsReachable)
    (answer : (site.resolve text).1 = some (.ok resolved)) (isRemote : resolved.source = .remote) :
    ∃ declaration profile row,
      IsAnswered site.surroundings resolved.domain (Handle.read text).username site.world.requested
        declaration profile ∧
      Tables.HasTakenIn resolved.domain (Handle.read text).username declaration profile
        site.world.issued site.world.time site.world.tables (site.resolve text).2.tables row
        resolved.user := by
  rcases resolve_effect reachable text with
    ⟨notRemote, -⟩ | ⟨domain, declaration, profile, row, user, isUser, answered, takenIn⟩
  · exact absurd isRemote (notRemote resolved answer)
  · rw [isUser] at answer
    cases answer
    exact ⟨declaration, profile, row, answered, takenIn⟩

/-- What an answer that was fetched says about the identifiers was settled before the fetch. -/
theorem isOf_identityOf (reachable : site.IsReachable)
    (answer : (site.resolve text).1 = some (.ok resolved)) (isRemote : resolved.source = .remote) :
    (site.world.tables.identityOf site.world.issued (Handle.read text).username resolved.domain).IsOf
      resolved.user := by
  have isReachable := Service.IsReachable.isReachable reachable
  obtain ⟨declaration, profile, row, answered, takenIn⟩ := exists_hasTakenIn reachable answer isRemote
  obtain ⟨_, _, -, -, -, found⟩ := answered.asked
  exact takenIn.isOf_identityOf (lower_username_of_found found) isReachable.isSound.tables
    isReachable.hasDistinctDomains

/-- An answer about an account of this instance. -/
theorem isAt_of_account (reachable : site.IsReachable) {username : String} (nulFree : IsNulFree username)
    (found : site.world.accountAnswer site.service username = .ok resolved) :
    lower resolved.user.username = lower username ∧
      ∃ row, resolved.IsAt site.service.home site.world.tables row := by
  have isReachable := Service.IsReachable.isReachable reachable
  have sound := isReachable.isSound.tables
  have hasLocal := Service.IsReachable.hasLocal reachable
  obtain ⟨homeRow, isRow, sameId, sameDomain, -⟩ := id hasLocal
  obtain ⟨isAccount, domain, isHome⟩ := user?_of_accountAnswer found
  obtain ⟨isUser, place⟩ := (Tables.user?_eq_some_iff sound).mp isAccount
  obtain ⟨atHome, sameKey⟩ := Prod.ext_iff.mp place
  refine ⟨(nameKey_eq_iff_of_isNulFree nulFree).mp sameKey, homeRow, ?_⟩
  exact sound.isAt isReachable.hasDistinctDomains hasLocal isRow (sameDomain.trans domain.symm) isUser
    (atHome.trans sameId.symm) (fun _ => sameId) fun notHome => absurd isHome notHome

/-- An answer about a user of another instance is found in the tables that it was given from. -/
theorem isAt_of_stub? {world : World} (sound : world.IsSound) (distinct : world.tables.HasDistinctDomains)
    {home : Instance} (hasLocal : world.tables.HasLocal home.id home.domain) {username : String}
    (nulFree : IsNulFree username) (nulFreeDomain : IsNulFree resolved.domain)
    (isNormal : lower resolved.domain = resolved.domain) (notHome : resolved.source ≠ .home)
    (found : world.tables.stub? username resolved.domain = some resolved.user) :
    lower resolved.user.username = lower username ∧
      ∃ row, resolved.IsAt home world.tables row := by
  obtain ⟨row, isRow, named, isForeign, isUser, place⟩ :=
    (Tables.stub?_eq_some_iff sound.tables distinct).mp found
  rw [nameKey_eq_iff_of_isNulFree nulFreeDomain, sound.tables.domainsLower row isRow, isNormal] at named
  obtain ⟨isThere, sameKey⟩ := Prod.ext_iff.mp place
  refine ⟨(nameKey_eq_iff_of_isNulFree nulFree).mp sameKey, row, ?_⟩
  exact sound.tables.isAt distinct hasLocal isRow named isUser isThere
    (fun isHome => absurd isHome notHome) fun _ => isForeign

/-- An answer is an account that was there, or it is the stub of the user in the tables afterwards. -/
theorem account_or_stub_of_answer (reachable : site.IsReachable)
    (answer : (site.resolve text).1 = some (.ok resolved)) :
    (Username.validate (Handle.read text).username = .ok () ∧
      foreignDomain? site.service (Handle.read text) = none ∧
      site.world.accountAnswer site.service (Handle.read text).username = .ok resolved ∧
      (site.resolve text).2.tables = site.world.tables) ∨
    ∃ domainText, IsLetThrough site.service (Handle.read text) site.world domainText resolved.domain ∧
      resolved.source ≠ .home ∧
      (site.resolve text).2.tables.stub? (Handle.read text).username resolved.domain =
        some resolved.user ∧
      (resolved.source = .remote → (site.resolve text).2.requested =
        (contacts (Handle.read text).username resolved.domain).reverse ++ site.world.requested) := by
  have isReachable := Service.IsReachable.isReachable reachable
  have counts := Service.run_resolve_counts site.surroundings site.service text site.world
  have effect := run_resolveHandle_effect site.surroundings site.service (Handle.read text) site.world
  dsimp only at counts effect
  have handled := answer
  rw [Site.resolve, counts.1] at handled
  rw [Site.resolve, counts.2.1, counts.2.2.1]
  generalize ran : (resolveHandle site.service (Handle.read text)).toProgram.run site.surroundings
    site.world = outcome at handled effect ⊢
  obtain ⟨result, after⟩ := outcome
  obtain rfl : result = some (.ok resolved) := handled
  rcases run_resolveHandle_eq_ok site.surroundings ran with
    ⟨valid, noForeign, isAccount, unchanged⟩ | ⟨domainText, domain, through, run⟩
  · rw [unchanged]
    exact Or.inl ⟨valid, noForeign, isAccount, rfl⟩
  · have remote := congrArg Prod.fst run
    obtain ⟨rfl, notHome, isStub⟩ := stub?_of_run_resolveRemote site.surroundings remote
    refine Or.inr ⟨domainText, through, notHome, ?_, fun isRemote => ?_⟩
    · rcases effect with ⟨notRemote, unchanged⟩ |
        ⟨_, _, declaration, profile, user, -, answered, isUser, written⟩
      · rw [unchanged]
        exact isStub (notRemote resolved rfl)
      · cases isUser
        obtain ⟨_, _, -, -, -, found⟩ := answered.asked
        have named := lower_username_of_found found
        have sound := isReachable.isSound.tables
        have distinct := isReachable.hasDistinctDomains
        obtain ⟨row, takenIn⟩ := Tables.hasTakenIn_putRemoteUser sound distinct named written
        exact takenIn.stub?_eq named (sound.putRemoteUser written) (distinct.canBecome (.remoteUser written))
    · have asked := requested_run_resolveRemote_of_remote site.surroundings remote isRemote
      rw [run] at asked
      exact asked

/-- The domain of an answer is the one that the handle names. -/
theorem domain_of_answer (reachable : site.IsReachable)
    (answer : (site.resolve text).1 = some (.ok resolved)) :
    resolved.domain = site.service.domainOf (Handle.read text) := by
  rcases account_or_stub_of_answer reachable answer with
    ⟨-, noForeign, isAccount, -⟩ | ⟨domainText, through, -⟩
  · rw [Service.domainOf_of_foreignDomain?_eq_none noForeign]
    exact (user?_of_accountAnswer isAccount).2.1
  · exact (Service.domainOf_of_isLetThrough through).symm

end Site

/-- Whose record an answer is: a row of the tables under the username of the handle, of the only instance
of its domain, which is this instance just when the record is an account. A record that was fetched
carries what the instance answered in the course of it, and its instance what it declared; the
identifiers of both were settled by the tables before, so that no other answers would have come to
others. -/
theorem Site.answer_is_of_handle {site : Site} (reachable : site.IsReachable) {text : String}
    {resolved : Resolved} (answer : (site.resolve text).1 = some (.ok resolved)) :
    let username := (Handle.read text).username
    let after := (site.resolve text).2
    lower resolved.user.username = lower username ∧
    resolved.domain = site.service.domainOf (Handle.read text) ∧
    (∃ row, resolved.IsAt site.service.home after.tables row ∧
      (resolved.source = .remote → ∃ declaration profile,
        IsAnswered site.surroundings resolved.domain username site.world.requested declaration profile ∧
        after.requested = (contacts username resolved.domain).reverse ++ site.world.requested ∧
        lower declaration.domain = resolved.domain ∧ row.Carries declaration ∧
        resolved.user.Carries profile)) ∧
    (resolved.source = .remote →
      (site.world.tables.identityOf site.world.issued username resolved.domain).IsOf resolved.user ∧
      ∀ (surroundings : Surroundings) (other : Resolved),
        ({ site with surroundings := surroundings }.resolve text).1 = some (.ok other) →
        other.source = .remote →
        other.user.instanceId = resolved.user.instanceId ∧ other.user.id = resolved.user.id) := by
  have reachableThen : site.service.IsReachable (site.resolve text).2 :=
    Service.IsReachable.run reachable site.surroundings _
  have isReachableThen := reachableThen.isReachable
  have domain := domain_of_answer reachable answer
  dsimp only
  rcases account_or_stub_of_answer reachable answer with
    ⟨valid, -, isAccount, unchanged⟩ | ⟨domainText, through, notHome, isStub, asked⟩
  · obtain ⟨named, row, isAt⟩ :=
      isAt_of_account reachable (Username.isNulFree_of_validate valid) isAccount
    have notRemote : resolved.source ≠ .remote := by
      rw [(user?_of_accountAnswer isAccount).2.2]
      exact nofun
    rw [unchanged]
    exact ⟨named, domain, ⟨row, isAt, fun isRemote => absurd isRemote notRemote⟩,
      fun isRemote => absurd isRemote notRemote⟩
  · have isNormal : lower resolved.domain = resolved.domain := by
      rw [← DomainName.normalize_of_validate through.isAccepted, DomainName.lower_normalize]
    obtain ⟨named, row, isAt⟩ := isAt_of_stub? isReachableThen.isSound isReachableThen.hasDistinctDomains
      reachableThen.hasLocal (Username.isNulFree_of_validate through.validUsername)
      (DomainName.isNulFree_of_validate through.isAccepted) isNormal notHome isStub
    refine ⟨named, domain, ⟨row, isAt, fun isRemote => ?_⟩, fun isRemote => ?_⟩
    · obtain ⟨declaration, profile, written, answered, takenIn⟩ :=
        exists_hasTakenIn reachable answer isRemote
      obtain ⟨_, _, -, -, declared, -⟩ := answered.asked
      have isInstance := takenIn.instances.meant (fun _ meant => meant) (nameKey_lower resolved.domain)
      have carries := takenIn.carries
      rw [isAt.eq_row takenIn.instances.mem isInstance] at carries
      exact ⟨declaration, profile, answered, asked isRemote,
        (Declaration.lower_domain_of_ofExchange declared).trans isNormal, carries⟩
    · have settled := isOf_identityOf reachable answer isRemote
      refine ⟨settled, fun surroundings other answered alsoRemote => ?_⟩
      have reachableThere : IsReachable { site with surroundings := surroundings } := reachable
      have settledThere := isOf_identityOf reachableThere answered alsoRemote
      have sameDomain := (domain_of_answer reachableThere answered).trans domain.symm
      rw [sameDomain] at settledThere
      exact ⟨settledThere.1.trans settled.1.symm, settledThere.2.trans settled.2.symm⟩

/-- At a site where another instance answers for its user, the answer is a new row of a new instance. -/
theorem Site.answer_is_of_alice :
    Site.elsewhere.IsReachable ∧
    ∃ user, (Site.elsewhere.resolve "alice@other.example").1 =
        some (.ok ⟨user, "other.example", .remote⟩) ∧
      lower user.username = lower (Handle.read "alice@other.example").username ∧
      user.instanceId = identifier 1 ∧ user.id = identifier 2 := by
  have reachable : Site.elsewhere.IsReachable := isReachable_atStart _ _ _ _
  obtain ⟨user, answer⟩ := Site.exists_resolve_answered
  obtain ⟨named, -, -, settled⟩ := Site.answer_is_of_handle reachable answer
  have nobody : Site.elsewhere.world.tables.instanceAt? "other.example" = none := by decide
  have isNew : ∀ username, Site.elsewhere.world.tables.identityOf 1 username "other.example" =
      ⟨identifier 1, identifier 2⟩ := by
    intro username
    rw [Tables.identityOf, Tables.stub?, nobody]
    rfl
  have isOf := (settled rfl).1
  rw [show Site.elsewhere.world.issued = 1 from rfl, isNew] at isOf
  exact ⟨reachable, user, answer, named, isOf.1, isOf.2⟩

end HandleFederation
