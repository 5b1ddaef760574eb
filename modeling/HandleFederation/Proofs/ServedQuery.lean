/-
This file says what resolutions of one user of another instance have to do with each
other when the instance answers all of them alike. None of them locks anything, and each
may have looked for the user before another one wrote the row. What they rely on is a
contract with respect to a pair of identifiers, that of the instance and that of the
user: whoever finds or writes the user finds or writes that one. A resolution keeps the
contract for every pair, and under it succeeds with the user who has the pair.
-/

import HandleFederation.Proofs.AtomicEffect
import HandleFederation.Proofs.Contract
import HandleFederation.Proofs.NameCase

namespace HandleFederation

open Program Resolution Text

/-! ### One row for one user -/

/-- The identifiers that another instance and one of its users have here. -/
@[ext] structure Identity where
  instanceId : String
  userId : String

/-- A user has the identifiers. -/
def Identity.IsOf (identity : Identity) (user : User) : Prop :=
  user.instanceId = identity.instanceId ∧ user.id = identity.userId

theorem Identity.IsOf.unique {first second : Identity} {user : User} (isFirst : first.IsOf user)
    (isSecond : second.IsOf user) : first = second := by
  obtain ⟨sameInstance, sameUser⟩ := isFirst
  obtain ⟨alsoInstance, alsoUser⟩ := isSecond
  exact Identity.ext (sameInstance.symm.trans alsoInstance) (sameUser.symm.trans alsoUser)

namespace Tables

variable {issued : Nat} {tables changed : Tables} {username domain : String}

/-- The tables have one row for the instance of a domain and one for a user of it, with the
identifiers. -/
structure HoldOnce (username domain : String) (identity : Identity) (tables : Tables) : Prop where
  oneInstance : ∃ row : InstanceRow,
    tables.instances.filter (fun row => sameName row.domain domain) = [row] ∧ row.id = identity.instanceId
  oneUser : ∃ user, tables.users.filter (isUser identity.instanceId username) = [user] ∧
    user.id = identity.userId

/-- A user is found who has the name at the instance. -/
theorem user?_eq_some_iff (sound : tables.IsSound issued) {instanceId : String} {user : User} :
    tables.user? instanceId username = some user ↔
      user ∈ tables.users ∧ user.place = (instanceId, nameKey username) := by
  constructor
  · intro found
    exact ⟨List.mem_of_find?_eq_some found, (isUser_iff_place _ _ _).mp (List.find?_some found)⟩
  · rintro ⟨isUser, place⟩
    obtain ⟨other, found⟩ : ∃ other, tables.user? instanceId username = some other :=
      Option.isSome_iff_exists.mp
        (List.find?_isSome.mpr ⟨user, isUser, (isUser_iff_place _ _ _).mpr place⟩)
    have otherPlace := (isUser_iff_place _ _ _).mp (List.find?_some found)
    rw [found, List.inj_on_of_nodup_map sound.usersDistinct (List.mem_of_find?_eq_some found) isUser
      (otherPlace.trans place.symm)]

/-- A stub is the user with a name of an instance that is not this one. -/
theorem stub?_eq_some_iff (sound : tables.IsSound issued) (distinct : tables.HasDistinctDomains)
    {user : User} : tables.stub? username domain = some user ↔
      ∃ row ∈ tables.instances, nameKey row.domain = nameKey domain ∧ row.isLocal = false ∧
        user ∈ tables.users ∧ user.place = (row.id, nameKey username) := by
  constructor
  · intro found
    unfold stub? at found
    split at found
    · rename_i row atDomain
      obtain ⟨isRow, named⟩ := mem_of_instanceAt? atDomain
      split at found
      · cases found
      · rename_i isOther
        exact ⟨row, isRow, named, Bool.eq_false_iff.mpr isOther, (user?_eq_some_iff sound).mp found⟩
    · cases found
  · rintro ⟨row, isRow, named, isOther, found⟩
    rw [stub?, distinct.instanceAt?_eq_some_iff.mpr ⟨isRow, named⟩]
    exact (if_neg (Bool.eq_false_iff.mp isOther)).trans ((user?_eq_some_iff sound).mpr found)

/-- Where a stub is found there is one row for it and one for its instance. -/
theorem holdOnce_of_stub? (sound : tables.IsSound issued) (distinct : tables.HasDistinctDomains)
    {user : User} (found : tables.stub? username domain = some user) :
    tables.HoldOnce username domain ⟨user.instanceId, user.id⟩ := by
  obtain ⟨row, isRow, named, -, isUser, place⟩ := (stub?_eq_some_iff sound distinct).mp found
  have isThere : user.instanceId = row.id := congrArg Prod.fst place
  refine ⟨⟨row, distinct.filter_eq_singleton sound isRow named, isThere.symm⟩, ⟨user, ?_, rfl⟩⟩
  · rw [← isThere] at place
    refine filter_eq_singleton (sound.usersDistinct.of_map _) isUser
      ((isUser_iff_place _ _ _).mpr place) fun other isOther alsoThere => ?_
    exact List.inj_on_of_nodup_map sound.usersDistinct isOther isUser
      (((isUser_iff_place _ _ _).mp alsoThere).trans place.symm)

/-- The tables admit the identifiers for a user: no row of the user has others. -/
def Admit (username domain : String) (tables : Tables) (identity : Identity) : Prop :=
  ∀ user, tables.stub? username domain = some user → identity.IsOf user

section

variable {declaration : Declaration} {profile : Profile} {now : Timestamp} {row : InstanceRow} {user : User}

/-- An instance that is not this one can be written with one of its users. -/
theorem exists_putRemoteUser (sound : tables.IsSound issued)
    (isOther : ∀ row ∈ tables.instances, nameKey row.domain = nameKey domain → row.isLocal = false)
    (declaration : Declaration) (profile : Profile) (now : Timestamp) :
    ∃ user changed, tables.putRemoteUser (remoteSettings domain declaration) (stubFields profile)
      (identifier issued) (identifier (issued + 1)) now = .ok (user, changed) := by
  have first : ∃ row between, tables.putRemote (remoteSettings domain declaration) (identifier issued)
      now = .ok (row, between) := by
    cases found : tables.instanceAt? (remoteSettings domain declaration).domain with
    | none => exact ⟨_, _, putRemote_of_none found _ now⟩
    | some row =>
      obtain ⟨isRow, named⟩ := mem_of_instanceAt? found
      exact ⟨_, _, putRemote_of_found found (isOther row isRow named) _ now⟩
  obtain ⟨row, between, first⟩ := first
  obtain ⟨soundBetween, isThere⟩ := sound.putRemote first
  obtain ⟨changed, written, -⟩ := putStub_eq_mergeStub soundBetween (hasInstance_of_mem isThere)
    (stubFields profile) (identifier (issued + 1)) now
  have whole : tables.putRemoteUser (remoteSettings domain declaration) (stubFields profile)
      (identifier issued) (identifier (issued + 1)) now =
      between.putStub row.id (stubFields profile) (identifier (issued + 1)) now := by
    rw [putRemoteUser, first]
  exact ⟨_, changed, whole.trans written⟩

/-- The user who was written is found. -/
theorem HasTakenIn.stub?_eq (takenIn : HasTakenIn domain username declaration profile issued now tables
      changed row user) (named : lower profile.username = lower username) {later : Nat}
    (sound : changed.IsSound later) (distinct : changed.HasDistinctDomains) :
    changed.stub? username domain = some user := by
  have atDomain := takenIn.instances.meant (fun _ meant => meant) (nameKey_lower domain)
  have isUser := takenIn.users.meant (fun _ meant => meant) ⟨rfl, nameKey_eq_of_lower_eq named⟩
  exact (stub?_eq_some_iff sound distinct).mpr ⟨row, takenIn.instances.mem, atDomain,
    takenIn.isForeign, takenIn.users.mem, Prod.ext isUser.1 isUser.2⟩

/-- The user who was found before is the one who was written, on top of what was known. -/
theorem HasTakenIn.eq_refreshStub (takenIn : HasTakenIn domain username declaration profile issued now
      tables changed row user) (sound : tables.IsSound issued) (distinct : tables.HasDistinctDomains)
    {old : User} (found : tables.stub? username domain = some old) :
    user = refreshStub (stubFields profile) now old := by
  obtain ⟨oldRow, isRow, atDomain, -, isUser, place⟩ := (stub?_eq_some_iff sound distinct).mp found
  have sameRow := takenIn.instances.eq_renew isRow atDomain
  have sameId : row.id = oldRow.id := by rw [sameRow]
  obtain ⟨isThere, named⟩ := Prod.ext_iff.mp place
  have meant : old.instanceId = row.id ∧ nameKey old.username = nameKey username :=
    ⟨isThere.trans sameId.symm, named⟩
  have notSuperseded : (!IsSuperseded row.id username profile old) = true := by
    rw [decide_eq_false fun superseded => superseded.2.2 meant.2]
    rfl
  exact takenIn.users.eq_renew (List.mem_filter.mpr ⟨isUser, notSuperseded⟩) meant

/-- A user who was not found before is new. -/
theorem HasTakenIn.eq_newStub (takenIn : HasTakenIn domain username declaration profile issued now tables
      changed row user) (sound : tables.IsSound issued) (distinct : tables.HasDistinctDomains)
    (notFound : tables.stub? username domain = none) :
    user = newStub row.id (stubFields profile) (identifier (issued + 1)) now := by
  refine takenIn.users.eq_fresh fun old isOld meant => ?_
  obtain ⟨isUser, -⟩ := List.mem_filter.mp isOld
  rcases takenIn.instances.renewed_or_fresh with ⟨oldRow, isRow, atDomain, sameRow⟩ | isFresh
  · have isForeign := takenIn.isForeign
    rw [sameRow] at isForeign meant
    have isStub := (stub?_eq_some_iff sound distinct).mpr
      ⟨oldRow, isRow, atDomain, isForeign, isUser, Prod.ext meant.1 meant.2⟩
    rw [notFound] at isStub
    cases isStub
  · obtain ⟨other, isOther, sameId⟩ := List.mem_map.mp (sound.usersSettled old isUser)
    refine (sound.instancesIssued other isOther).ne_identifier (Nat.le_refl issued) ?_
    rw [sameId, meant.1, isFresh]

/-- The user who was found before has kept the identifiers. -/
theorem HasTakenIn.isOf (takenIn : HasTakenIn domain username declaration profile issued now tables
      changed row user) (sound : tables.IsSound issued) (distinct : tables.HasDistinctDomains) {old : User}
    (found : tables.stub? username domain = some old) :
    user.instanceId = old.instanceId ∧ user.id = old.id := by
  rw [takenIn.eq_refreshStub sound distinct found]
  exact ⟨rfl, rfl⟩

/-- A user who is known can be written on top of what is known, and is found as written. -/
theorem exists_putRemoteUser_of_stub? (sound : tables.IsSound issued)
    (distinct : tables.HasDistinctDomains) {old : User} (found : tables.stub? username domain = some old)
    (named : lower profile.username = lower username) (declaration : Declaration) (now : Timestamp) :
    ∃ changed, tables.putRemoteUser (remoteSettings domain declaration) (stubFields profile)
        (identifier issued) (identifier (issued + 1)) now =
        .ok (refreshStub (stubFields profile) now old, changed) ∧
      changed.stub? username domain = some (refreshStub (stubFields profile) now old) := by
  have isOther : ∀ row ∈ tables.instances, nameKey row.domain = nameKey domain → row.isLocal = false := by
    intro row isRow atDomain
    obtain ⟨oldRow, isOld, oldThere, isForeign, -⟩ := (stub?_eq_some_iff sound distinct).mp found
    rwa [distinct.eq_of_nameKey_eq isRow isOld (atDomain.trans oldThere.symm)]
  obtain ⟨user, changed, written⟩ := exists_putRemoteUser sound isOther declaration profile now
  obtain ⟨row, takenIn⟩ := hasTakenIn_putRemoteUser sound distinct named written
  obtain rfl := takenIn.eq_refreshStub sound distinct found
  exact ⟨changed, written, takenIn.stub?_eq named (sound.putRemoteUser written)
    (distinct.canBecome (.remoteUser written))⟩

/-- What is admitted after the write was admitted before, and is what the write gives back. -/
theorem HasTakenIn.admit (takenIn : HasTakenIn domain username declaration profile issued now tables
      changed row user) (named : lower profile.username = lower username) (sound : tables.IsSound issued)
    (distinct : tables.HasDistinctDomains) (soundThen : changed.IsSound (issued + 2))
    (distinctThen : changed.HasDistinctDomains) {identity : Identity}
    (admitted : changed.Admit username domain identity) :
    tables.Admit username domain identity ∧ identity.IsOf user := by
  obtain ⟨isInstance, isUser⟩ := admitted user (takenIn.stub?_eq named soundThen distinctThen)
  refine ⟨fun old found => ?_, isInstance, isUser⟩
  obtain ⟨sameInstance, sameUser⟩ := takenIn.isOf sound distinct found
  exact ⟨sameInstance.symm.trans isInstance, sameUser.symm.trans isUser⟩

/-- The instance that was written is not this one. -/
theorem HasTakenIn.isLocal_eq_false (takenIn : HasTakenIn domain username declaration profile issued now
      tables changed row user) (distinctThen : changed.HasDistinctDomains) {other : InstanceRow}
    (isRow : other ∈ changed.instances) (atDomain : nameKey other.domain = nameKey domain) :
    other.isLocal = false := by
  have alsoThere : nameKey row.domain = nameKey domain :=
    takenIn.instances.meant (fun _ meant => meant) (nameKey_lower domain)
  rw [distinctThen.eq_of_nameKey_eq isRow takenIn.instances.mem (atDomain.trans alsoThere.symm)]
  exact takenIn.isForeign

end

end Tables

/-! ### A site that asks and is answered -/

/-- A user of another instance for whom a site asks, and what the instance has to say. -/
structure Query where
  site : Site
  username : String
  domain : String
  declaration : Declaration
  profile : Profile

namespace Query

/-- The instance answers whenever it is asked, always with one declaration, according to which it takes
part in the federation, and with one profile. -/
structure IsServed (query : Query) : Prop where
  declares : ∃ url, declarationUrl query.domain = .ok url ∧ ∀ requested,
    Declaration.ofExchange query.domain (query.site.surroundings.transport requested url) =
      .ok query.declaration
  answers : ∃ url, Profile.lookupUrl query.domain (lower query.username) = .ok url ∧ ∀ requested,
    Profile.Answer.ofExchange query.username (query.site.surroundings.transport requested url) =
      .found query.profile
  takesPart : query.declaration.mode ≠ .closed

/-- The site is reached, its mode and its peers permit it to have to do with the domain, it accepts the
domain, and it has given up neither the instance there nor the user for the moment; and it is
answered. -/
structure IsOpen (query : Query) : Prop where
  reachable : query.site.IsReachable
  permitted : query.site.world.permission query.site.service.home.id query.domain = .ok ()
  accepted : DomainName.validate query.site.service.blocked query.domain = .ok query.domain
  notCooling : query.site.world.store.get? query.site.world.now (cooldownKey query.domain) = none
  notMissed : query.site.world.store.get? query.site.world.now (missKey query.username query.domain) = none
  served : query.IsServed

theorem IsOpen.lower_domain {query : Query} (isOpen : query.IsOpen) : lower query.domain = query.domain := by
  rw [← DomainName.normalize_of_validate isOpen.accepted, DomainName.lower_normalize]

theorem IsOpen.isNulFree {query : Query} (isOpen : query.IsOpen) : IsNulFree query.domain :=
  DomainName.isNulFree_of_validate isOpen.accepted

/-- A text is a handle for the user at the domain, in any case, as there may be one if the username is
valid. -/
def IsHandle (query : Query) (text : String) : Prop :=
  Username.validate query.username = .ok () ∧
    ∃ name domainText, Handle.read text = ⟨name, some domainText⟩ ∧ lower name = lower query.username ∧
      DomainName.normalize domainText = query.domain

/-- An action is a resolution of the user: of a handle at the site, or of the name at the domain, once the
domain was let through. -/
inductive IsResolution (query : Query) : Action Resolved → Prop
  | ofHandle {text : String} (isHandle : query.IsHandle text) :
    IsResolution query (query.site.service.resolve text)
  | direct (windows : Windows) {name : String} (same : lower name = lower query.username) :
    IsResolution query (resolveRemote windows name query.domain)

/-- What a resolution does and what it relies on, when the instance and the user are to have certain
identifiers. -/
def contract (query : Query) (identity : Identity) : Contract where
  allows
    | .clock => True
    | .count _ => True
    | .readMode instanceId => instanceId = query.site.service.home.id
    | .isActivePeer instanceId domain =>
      instanceId = query.site.service.home.id ∧ domain = query.domain
    | .findStub name domain => lower name = lower query.username ∧ domain = query.domain
    | .recall key => key ∈ ownKeys query.username query.domain
    | .request url => url ∈ contacts query.username query.domain
    | .writeRemoteUser settings fields _ =>
      settings = remoteSettings query.domain query.declaration ∧ fields = stubFields query.profile
    | _ => False
  promises
    | .readMode instanceId => fun reply =>
      reply = query.site.world.readTables (World.modeOf instanceId)
    | .isActivePeer instanceId domain => fun reply =>
      reply = query.site.world.readTables fun tables => .ok (tables.hasActivePeer instanceId domain)
    | .findStub _ _ => fun reply =>
      ∃ stub, reply = .ok stub ∧ ∀ user, stub = some user → identity.IsOf user
    | .recall _ => fun reply => ∀ value, reply = .ok value → value = none
    | .request url => fun exchange =>
      (declarationUrl query.domain = .ok url →
        Declaration.ofExchange query.domain exchange = .ok query.declaration) ∧
      (Profile.lookupUrl query.domain (lower query.username) = .ok url →
        Profile.Answer.ofExchange query.username exchange = .found query.profile)
    | .writeRemoteUser _ _ _ => fun reply => ∃ user, reply = .ok user ∧ identity.IsOf user
    | _ => fun _ => True

/-- The answer to a resolution is the user with the identifiers at the domain. -/
def IsAnswer (query : Query) (identity : Identity) (outcome : Except Failure Resolved) : Prop :=
  ∃ resolved, outcome = .ok resolved ∧ resolved.domain = query.domain ∧ identity.IsOf resolved.user

end Query

/-! ### Resolutions keep the contract -/

namespace Query

variable {query : Query} {identity : Identity} {name : String}

theorem keeps_isRemembered {key : String} (isOwn : key ∈ ownKeys query.username query.domain) :
    (isRemembered key).Keeps (query.contract identity) (· = false) := by
  refine .step isOwn fun reply promised => ?_
  cases reply with
  | error failure => exact .done rfl
  | ok value =>
    rw [promised value rfl]
    exact .done rfl

/-- Discovering the instance comes to its declaration. -/
theorem keeps_discover (served : query.IsServed) (windows : Windows) :
    (discover windows query.domain).toProgram.Keeps (query.contract identity)
      (· = .ok query.declaration) := by
  obtain ⟨url, address, -⟩ := served.declares
  have isContact : url ∈ contacts query.username query.domain := by
    rw [contacts, address]
    exact List.mem_cons_self
  have asks : (askDeclaration query.domain).Keeps (query.contract identity)
      (· = .ok query.declaration) := by
    unfold askDeclaration
    rw [address]
    exact .step isContact fun exchange promised => .done (promised.1 address)
  refine (keeps_isRemembered (cooldownKey_mem_ownKeys _ _)).andThen fun remembered isFalse => ?_
  obtain rfl := isFalse
  refine (keeps_timed trivial asks).andThen fun outcome declared => ?_
  obtain ⟨result, seconds⟩ := outcome
  obtain rfl := declared
  refine .step trivial fun _ _ => ?_
  dsimp only [done_andThen]
  split
  · rename_i isClosed
    exact absurd isClosed served.takesPart
  · exact .done rfl

/-- Asking for the user, in any case, comes to the profile. -/
theorem keeps_askProfile (served : query.IsServed) (same : lower name = lower query.username) :
    (askProfile name query.domain).toProgram.Keeps (query.contract identity)
      (· = .ok (.found query.profile)) := by
  obtain ⟨first, declaredAt, -⟩ := served.declares
  obtain ⟨second, address, -⟩ := served.answers
  have isContact : second ∈ contacts query.username query.domain := by
    rw [contacts, declaredAt, address]
    exact List.mem_cons_of_mem _ List.mem_cons_self
  have asks : (perform (.request second)).Keeps (query.contract identity) fun exchange =>
      Profile.Answer.ofExchange name exchange = .found query.profile := by
    refine .step isContact fun exchange promised => .done ?_
    rw [Profile.ofExchange_eq_of_lower_eq same]
    exact promised.2 address
  rw [askProfile, same, address]
  refine (keeps_timed trivial asks).andThen fun outcome found => ?_
  exact .step trivial fun _ _ => .done (congrArg Except.ok found)

/-- Fetching the user comes to one with the identifiers. -/
theorem keeps_fetch (served : query.IsServed) (windows : Windows)
    (same : lower name = lower query.username) :
    (fetch windows name query.domain).toProgram.Keeps (query.contract identity) fun outcome =>
      ∃ user, outcome = .ok user ∧ identity.IsOf user := by
  refine Action.keeps_bind (keeps_discover served windows) (fun _ isError => nomatch isError)
    fun declaration declared => ?_
  refine Action.keeps_bind (keeps_askProfile served same) (fun _ isError => nomatch isError)
    fun answer answered => ?_
  cases declared
  cases answered
  refine Action.keeps_bind (keeps_currentTime trivial) (fun _ ⟨_, isError⟩ => nomatch isError)
    fun now _ => ?_
  exact .step ⟨rfl, rfl⟩ fun reply promised => .done promised

theorem keeps_fetchOr (served : query.IsServed) (windows : Windows)
    (same : lower name = lower query.username) (stale : Option User) :
    (fetchOr windows name query.domain stale).toProgram.Keeps (query.contract identity)
      (query.IsAnswer identity) := by
  refine (keeps_fetch served windows same).andThen fun outcome fetched => ?_
  obtain ⟨user, rfl, isOf⟩ := fetched
  exact .done ⟨_, rfl, rfl, isOf⟩

/-- What is cached of a user is that user. -/
theorem eq_of_ofUser {lifetime : Option Nat} {now : Timestamp} {user other : User}
    (isCached : Cached.ofUser lifetime now user = .fresh other ∨
      Cached.ofUser lifetime now user = .stale other) : user = other := by
  unfold Cached.ofUser at isCached
  split at isCached
  · exact isCached.elim Cached.fresh.inj nofun
  · split at isCached
    · exact isCached.elim Cached.fresh.inj nofun
    · exact isCached.elim nofun Cached.stale.inj

/-- Looking for the stub comes to one with the identifiers, if to any. -/
theorem keeps_lookForStub (lifetime : Option Nat) (same : lower name = lower query.username) :
    (lookForStub lifetime name query.domain).toProgram.Keeps (query.contract identity) fun outcome =>
      ∃ cached, outcome = .ok cached ∧
        ∀ user, cached = .fresh user ∨ cached = .stale user → identity.IsOf user := by
  have found : (perform (.findStub name query.domain)).Keeps (query.contract identity) _ :=
    .perform ⟨same, rfl⟩
  have reads : (readStub lifetime name query.domain).toProgram.Keeps (query.contract identity)
      fun outcome => ∃ cached, outcome = .ok cached ∧
        ∀ user, cached = .fresh user ∨ cached = .stale user → identity.IsOf user := by
    refine Action.keeps_bind found (fun _ ⟨_, isError, _⟩ => nomatch isError) fun stub isFound => ?_
    obtain ⟨_, isStub, isOf⟩ := isFound
    cases isStub
    cases stub with
    | none => exact .done ⟨_, rfl, fun _ isCached => nomatch isCached⟩
    | some user =>
      refine Action.keeps_bind (keeps_currentTime trivial) (fun _ ⟨_, isError⟩ => nomatch isError)
        fun now _ => .done ⟨_, rfl, fun other isCached => ?_⟩
      obtain rfl := eq_of_ofUser isCached
      exact isOf user rfl
  refine Action.keeps_bind reads (fun _ ⟨_, isError, _⟩ => nomatch isError) fun cached isCached => ?_
  have counts : (perform (.count (.cacheAccess "user_stub" cached.isFresh))).Keeps
      (query.contract identity) fun _ => True := .step trivial fun _ _ => .done trivial
  exact .step trivial fun _ _ => .done isCached

/-- Resolving the user at the instance comes to the one with the identifiers. -/
theorem keeps_resolveRemote (served : query.IsServed) (windows : Windows)
    (same : lower name = lower query.username) :
    (resolveRemote windows name query.domain).toProgram.Keeps (query.contract identity)
      (query.IsAnswer identity) := by
  have isOwn : missKey name query.domain ∈ ownKeys query.username query.domain := by
    rw [missKey_eq_of_lower_eq same]
    exact missKey_mem_ownKeys _ _
  have recalls : (Action.ofProgram do
      return .ok (← isRemembered (missKey name query.domain)) : Action Bool).toProgram.Keeps
        (query.contract identity) (· = .ok false) :=
    (keeps_isRemembered isOwn).andThen fun _ isFalse => .done (congrArg Except.ok isFalse)
  refine Action.keeps_bind (keeps_lookForStub _ same) (fun _ ⟨_, isError, _⟩ => nomatch isError)
    fun cached isCached => ?_
  obtain ⟨_, isOk, isOf⟩ := isCached
  cases isOk
  split
  · rename_i user
    exact .done ⟨_, rfl, rfl, isOf user (Or.inl rfl)⟩
  · refine Action.keeps_bind recalls (fun _ isError => nomatch isError) fun remembered isFalse => ?_
    cases isFalse
    rw [if_neg Bool.false_ne_true]
    split
    · exact keeps_fetchOr served windows same _
    · exact keeps_fetchOr served windows same none

/-- The instance is permitted as it was at the start. -/
theorem keeps_authorize (isOpen : query.IsOpen) {domainText : String}
    (same : DomainName.normalize domainText = query.domain) :
    (authorize query.site.service.home.id domainText).toProgram.Keeps (query.contract identity)
      (· = .ok ()) := by
  have permitted := isOpen.permitted
  rw [World.permission, DomainName.normalize_of_validate isOpen.accepted] at permitted
  have readsMode : (perform (.readMode query.site.service.home.id)).Keeps (query.contract identity) _ :=
    .perform rfl
  have readsPeer : (perform (.isActivePeer query.site.service.home.id query.domain)).Keeps
      (query.contract identity) _ := .perform ⟨rfl, rfl⟩
  refine Action.keeps_bind readsMode (fun failure isError => ?_) fun mode isMode => ?_
  · rw [← isError] at permitted
    cases permitted
  · rw [← isMode] at permitted
    cases mode with
    | anyone => exact .done rfl
    | closed => cases permitted
    | allowlist =>
      dsimp only
      rw [same]
      refine Action.keeps_bind readsPeer (fun failure isError => ?_) fun isActive isRead => ?_
      · rw [← isError] at permitted
        cases permitted
      · rw [← isRead] at permitted
        cases isActive with
        | true => exact .done rfl
        | false => cases permitted

theorem keeps_resolve (isOpen : query.IsOpen) (isForeign : query.domain ≠ query.site.service.domain)
    {text : String} (isHandle : query.IsHandle text) :
    (query.site.service.resolve text).toProgram.Keeps (query.contract identity)
      (query.IsAnswer identity) := by
  obtain ⟨validThere, name, domainText, reads, same, sameDomain⟩ := isHandle
  have valid : Username.validate name = .ok () :=
    (Username.validate_eq_of_lower_eq same).trans validThere
  have foreign : foreignDomain? query.site.service ⟨name, some domainText⟩ = some domainText :=
    foreignDomain?_eq_some_iff.mpr ⟨rfl, sameDomain.symm ▸ isForeign⟩
  have sameNormal : DomainName.normalize domainText = DomainName.normalize query.domain :=
    sameDomain.trans (DomainName.normalize_of_validate isOpen.accepted).symm
  have accepted : acceptDomain query.site.service.blocked domainText = .ok query.domain :=
    acceptDomain_eq_ok_iff.mpr
      ((DomainName.validate_eq_of_normalize_eq sameNormal).trans isOpen.accepted)
  have handled : (resolveHandle query.site.service ⟨name, some domainText⟩).toProgram.Keeps
      (query.contract identity) (query.IsAnswer identity) := by
    have checks : (Action.ofExcept (Username.validate name)).toProgram.Keeps (query.contract identity)
        (· = .ok ()) := .done valid
    have accepts : (Action.ofExcept (acceptDomain query.site.service.blocked domainText)).toProgram.Keeps
        (query.contract identity) (· = .ok query.domain) := .done accepted
    refine Action.keeps_bind checks (fun _ isError => nomatch isError) fun _ _ => ?_
    rw [foreign]
    refine Action.keeps_bind (keeps_authorize isOpen sameDomain) (fun _ isError => nomatch isError)
      fun _ _ => ?_
    refine Action.keeps_bind accepts (fun _ isError => nomatch isError) fun domain isDomain => ?_
    cases isDomain
    exact keeps_resolveRemote isOpen.served _ same
  unfold Service.resolve
  rw [Action.toProgram_ofProgram, reads]
  refine handled.andThen fun outcome isAnswer => ?_
  exact .step trivial fun _ _ => .done isAnswer

/-- A resolution of the user comes to the one with the identifiers. -/
theorem IsResolution.keeps {action : Action Resolved} (isResolution : query.IsResolution action)
    (isOpen : query.IsOpen) (isForeign : query.domain ≠ query.site.service.domain) :
    action.toProgram.Keeps (query.contract identity) (query.IsAnswer identity) := by
  cases isResolution with
  | ofHandle isHandle => exact keeps_resolve isOpen isForeign isHandle
  | direct windows same => exact keeps_resolveRemote isOpen.served windows same

end Query

end HandleFederation
