/-
This file says that what one service has registered is what another one is shown. A
service answers a lookup from its accounts, with a profile or with nothing; the other one
reads the profile as it was written, and accepts it if the display name is not longer than
it allows, which is all that a registration leaves open. So it resolves a handle of an account
to a copy of the account, and one of nobody to nobody. The service that asks must not have
a row of its own at the domain, since from such a row it answers by itself.
-/

import HandleFederation.Proofs.AskedUsername
import HandleFederation.Proofs.RegisteredAccounts
import HandleFederation.Proofs.ServedDeclaration
import HandleFederation.Proofs.StaleFallback
import HandleFederation.Proofs.WrittenTime

namespace HandleFederation

open Program Resolution Text

/-! ### What is answered -/

/-- The answer to a lookup that has found an account or none. -/
def Answer.ofLookup : Option User → Answer
  | some user => .json 200 (Endpoint.profileOf user).toJson
  | none => .empty 404

/-- The answer to a lookup of a username in a mode, where it stands for an account or none. -/
def Answer.toLookup (mode : FederationMode) (username : String) (account : Option User) : Answer :=
  if mode = .closed then .ofFailure .federationDisabled
  else
    match Username.validate username with
    | .error failure => .ofFailure failure
    | .ok () => .ofLookup account

/-- A service answers a lookup from its mode and its accounts. -/
theorem Service.run_lookup {service : Service} {world : World} {mode : FederationMode}
    (hasMode : world.HasMode service.home.id mode) {query : List Char} {username : String}
    (asked : Form.field "username" query = .ok username) (surroundings : Surroundings) :
    (Endpoint.lookup.answer service query).run surroundings world =
      (some (.toLookup mode username (world.tables.user? service.home.id username)), world) := by
  have isOpen := World.isDatabaseOpen_of_hasMode hasMode
  have reads : world.carryOut surroundings (.readMode service.home.id) = (some (.ok mode), world) := by
    rw [← hasMode]
    rfl
  have finds : world.carryOut surroundings (.findUser service.home.id username) =
      (some (.ok (world.tables.user? service.home.id username)), world) := by
    rw [World.carryOut, World.readTables, if_pos isOpen]
  simp only [Endpoint.answer, Endpoint.withField, asked, Answer.ofAction, Endpoint.answerLookup,
    Action.toProgram_bind, Action.toProgram_ofProgram, bind_eq_andThen, perform, step_andThen, done_andThen,
    pure_eq_done, run_step, reads]
  unfold Answer.toLookup
  split
  · rfl
  · simp only [Action.toProgram_bind, Action.toProgram_ofExcept, done_andThen]
    cases Username.validate username with
    | error failure => rfl
    | ok _ =>
      simp only [Service.findAccount, perform, Action.toProgram_ofProgram, step_andThen, done_andThen, run_step,
        finds]
      cases world.tables.user? service.home.id username <;> rfl

/-- What the service at a domain is asked about a user brings what it has found. -/
theorem Surroundings.Reaches.transport_lookup {client : Surroundings} {service : Service} {world : World}
    (reaches : client.Reaches service world.tables) {mode : FederationMode}
    (hasMode : world.HasMode service.home.id mode) (takesPart : mode ≠ .closed)
    (plain : DomainName.IsPlain service.domain.toList)
    (notHexadecimal : DomainName.endsInHexadecimal service.domain.toList = false) {username : String}
    (isValid : Username.validate username = .ok ()) {url : Url}
    (isLookup : Profile.lookupUrl service.domain username = .ok url) (requested : List Url) :
    client.transport requested url =
      let answer := Answer.ofLookup (world.tables.user? service.home.id username)
      .ok ⟨answer.status, Utf8.bytes answer.body⟩ := by
  have asks : url.Asks service.domain Endpoint.lookup.path :=
    DomainName.asks_of_lookupUrl plain notHexadecimal isLookup
  have asked := DomainName.field_of_lookupUrl plain isLookup
  refine reaches.transport_eq asks (fun there other isOpen sameTables => ?_) requested
  refine ⟨other, ?_⟩
  rw [← sameTables]
  have hasModeThere := hasMode.of_instances isOpen (congrArg Tables.instances sameTables)
  rw [service.run_lookup hasModeThere asked there, Answer.toLookup, if_neg takesPart, isValid]

/-! ### What is accepted -/

/-- A profile that is received as it was written is accepted within its bounds. -/
theorem Profile.ofExchange_toText {profile : Profile} {username : String}
    (named : lower profile.username = lower username) :
    Answer.ofExchange username (.ok ⟨200, Utf8.bytes profile.toJson.toText⟩) =
      if profile.isWithinBounds then .found profile else .unusable := by
  have isNamed : sameUpToCase profile.username username = true := (sameUpToCase_iff _ _).mpr named
  simp only [Answer.ofExchange, ofBody?, profile.reads_toText, isNamed, if_true]
  cases profile.isWithinBounds <;> rfl

/-- A valid username has some characters, and not too many of them. -/
theorem Username.length_le_of_validate {username : String} (isValid : validate username = .ok ()) :
    1 ≤ username.length ∧ username.length ≤ 32 := by
  have noFault : fault? username = none := by
    unfold validate at isValid
    split at isValid
    · cases isValid
    · assumption
  unfold fault? at noFault
  split at noFault
  · cases noFault
  · rename_i notEmpty
    split at noFault
    · cases noFault
    · rename_i notTooLong
      rw [String.isEmpty_iff, ← String.toList_eq_nil_iff] at notEmpty
      have positive := List.length_pos_of_ne_nil notEmpty
      rw [← String.length_toList]
      exact ⟨positive, Nat.not_lt.mp notTooLong⟩

/-- The profile of an account is within the bounds if the display name is. -/
theorem User.IsAccount.isWithinBounds_eq {user : User} (isAccount : user.IsAccount) {issued : Nat}
    (isIssued : IsIssued issued user.id) (numbered : issued ≤ 16 ^ 104) :
    (Endpoint.profileOf user).isWithinBounds = Profile.absentOrWithin 128 user.displayName := by
  have idFits : Declaration.lengthWithin 1 128 user.id = true :=
    (Declaration.lengthWithin_iff 1 128 user.id).mpr (isIssued.length_le numbered)
  have usernameFits : Declaration.lengthWithin 1 32 user.username = true :=
    (Declaration.lengthWithin_iff 1 32 user.username).mpr
      (Username.length_le_of_validate isAccount.validUsername)
  simp only [Profile.isWithinBounds, Endpoint.profileOf, idFits, usernameFits, isAccount.noAvatar,
    isAccount.noBio, Profile.absentOrWithin, Bool.true_and, Bool.and_true]

/-! ### What is found out -/

/-- A stub says of a user what the account says, and when it was created to the second. -/
structure User.IsCopyOf (account stub : User) : Prop where
  remoteUserId : stub.remoteUserId = some account.id
  username : stub.username = account.username
  displayName : stub.displayName = account.displayName
  avatarId : stub.avatarId = account.avatarId
  bio : stub.bio = account.bio
  createdAt : account.createdAt.IsInFourDigits → stub.createdAt = ⟨account.createdAt.seconds, 0⟩

theorem User.IsAccount.isCopyOf {user : User} (isAccount : user.IsAccount) (instanceId id : String)
    (now : Timestamp) :
    user.IsCopyOf (Tables.newStub instanceId (stubFields (Endpoint.profileOf user)) id now) where
  remoteUserId := rfl
  username := rfl
  displayName := rfl
  avatarId := rfl
  bio := rfl
  createdAt isInFourDigits := by
    have isRead := Timestamp.ofText?_toWholeSecondsText isInFourDigits isAccount.notLeap
    simp only [Tables.newStub, stubFields, Endpoint.profileOf, Option.bind_some, isRead, Option.getD_some]

/-- A site that may ask the service of another instance, as that is in a world, and has not given it up for
the moment: it is permitted to have to do with the domain, accepts it, reaches the service there, which
takes part in the federation, and accepts its declaration. -/
structure Site.IsOpenTo (site : Site) (host : Service) (there : World) : Prop where
  reachable : site.IsReachable
  permitted : site.world.permission site.service.home.id host.domain = .ok ()
  accepted : DomainName.validate site.service.blocked host.domain = .ok host.domain
  notCooling : site.world.called.recalls site.surroundings (cooldownKey host.domain) = false
  reaches : site.surroundings.Reaches host there.tables
  takesPart : ∃ mode, there.HasMode host.home.id mode ∧ mode ≠ .closed
  declares : ∃ declaration,
    ((askDeclaration host.domain).run site.surroundings site.world).1 = some (.ok declaration)

namespace Site.IsOpenTo

variable {site : Site} {host : Service} {there : World}

/-- What the service has to say about a user is what it answers to the lookup. -/
theorem inquiry_eq (isOpen : site.IsOpenTo host there)
    (notHexadecimal : DomainName.endsInHexadecimal host.domain.toList = false) {username : String}
    (isValid : Username.validate username = .ok ()) :
    ∃ declaration, site.world.called.inquiry site.surroundings username host.domain =
      let answer := Answer.ofLookup (there.tables.user? host.home.id username)
      match Profile.Answer.ofExchange username (.ok ⟨answer.status, Utf8.bytes answer.body⟩) with
      | .unusable => .unusable
      | .missing => .missing
      | .found profile => .found declaration profile := by
  have plain := DomainName.isPlain_of_validate isOpen.accepted
  obtain ⟨mode, hasMode, takesPart⟩ := isOpen.takesPart
  obtain ⟨declaration, asked⟩ := isOpen.declares
  obtain ⟨first, declaredAt, declared⟩ : ∃ first, declarationUrl host.domain = .ok first ∧
      Declaration.ofExchange host.domain (site.surroundings.transport site.world.called.requested first) =
        .ok declaration := by
    cases declaredAt : declarationUrl host.domain with
    | error fault =>
      rw [askDeclaration, declaredAt] at asked
      cases asked
    | ok first =>
      rw [askDeclaration, declaredAt] at asked
      exact ⟨first, rfl, Option.some_inj.mp asked⟩
  have asksFirst := DomainName.asks_of_declarationUrl plain notHexadecimal declaredAt
  rw [isOpen.reaches.run_askDeclaration hasMode declaredAt asksFirst, Option.some_inj] at asked
  have sameMode : declaration.mode = mode := by
    split at asked
    · cases asked
      rfl
    · cases asked
  obtain ⟨second, lookedUpAt⟩ := DomainName.exists_lookupUrl plain declaredAt (lower username)
  have brings := isOpen.reaches.transport_lookup hasMode takesPart plain notHexadecimal
    ((Username.validate_lower username).trans isValid) lookedUpAt (first :: site.world.called.requested)
  rw [Tables.user?_eq_of_lower_eq (lower_lower username)] at brings
  have said := World.inquiry_of_declared declaredAt lookedUpAt declared (sameMode ▸ takesPart)
  rw [brings] at said
  exact ⟨declaration, said⟩

/-- What a resolution finds out about a user of whom nothing is known is what the service has to say. -/
theorem finding_eq (isOpen : site.IsOpenTo host there) {username : String}
    (noStub : site.world.tables.stub? username host.domain = none)
    (notMissed : site.world.recalls site.surroundings (missKey username host.domain) = false) :
    site.world.finding site.surroundings site.service.windows username host.domain =
      site.world.called.inquiry site.surroundings username host.domain := by
  rw [World.finding_of_not_isFresh (fun user isStub => by rw [noStub] at isStub; cases isStub), notMissed,
    if_neg Bool.false_ne_true, World.attempt, isOpen.notCooling, if_neg Bool.false_ne_true]

/-- An account that is found is what is found out, if its display name is not too long. -/
theorem inquiry_of_account (isOpen : site.IsOpenTo host there)
    (notHexadecimal : DomainName.endsInHexadecimal host.domain.toList = false) {username : String} {user : User}
    (found : there.tables.user? host.home.id username = some user)
    (named : lower user.username = lower username)
    (isAccount : user.IsAccount) {issued : Nat} (isIssued : IsIssued issued user.id)
    (numbered : issued ≤ 16 ^ 104) :
    ∃ declaration, site.world.called.inquiry site.surroundings username host.domain =
      if Profile.absentOrWithin 128 user.displayName then .found declaration (Endpoint.profileOf user)
      else .unusable := by
  have isValid := (Username.validate_eq_of_lower_eq named).symm.trans isAccount.validUsername
  obtain ⟨declaration, said⟩ := isOpen.inquiry_eq notHexadecimal isValid
  refine ⟨declaration, said.trans ?_⟩
  have namedHere : lower (Endpoint.profileOf user).username = lower username := named
  have answered : Profile.Answer.ofExchange username (.ok ⟨200,
      Utf8.bytes (Endpoint.profileOf user).toJson.toText⟩) =
      if Profile.absentOrWithin 128 user.displayName then .found (Endpoint.profileOf user) else .unusable := by
    rw [Profile.ofExchange_toText namedHere, isAccount.isWithinBounds_eq isIssued numbered]
  rw [found]
  simp only [Answer.ofLookup, Answer.json, answered]
  cases Profile.absentOrWithin 128 user.displayName <;> rfl

/-- Where no account is found, the user is missing. -/
theorem inquiry_of_none (isOpen : site.IsOpenTo host there)
    (notHexadecimal : DomainName.endsInHexadecimal host.domain.toList = false) {username : String}
    (isValid : Username.validate username = .ok ())
    (notFound : there.tables.user? host.home.id username = none) :
    site.world.called.inquiry site.surroundings username host.domain = .missing := by
  obtain ⟨declaration, said⟩ := isOpen.inquiry_eq notHexadecimal isValid
  rw [said, notFound]
  rfl

end Site.IsOpenTo

/-! ### What is resolved -/

namespace Site

variable {site : Site} {host : Service} {there : World} {text username domainText : String}

theorem IsOpenTo.admits (isOpen : site.IsOpenTo host there)
    (isOther : ∀ row ∈ site.world.tables.instances, lower row.domain = lower host.domain → row.isLocal = false)
    (reads : Handle.read text = ⟨username, some domainText⟩)
    (atDomain : DomainName.normalize domainText = host.domain)
    (isValid : Username.validate username = .ok ()) :
    site.service.Admits site.world text username host.domain where
  reads := ⟨domainText, reads, atDomain⟩
  valid := isValid
  isForeign := by
    intro isOwn
    obtain ⟨row, isRow, -, isDomain, isLocal⟩ := Service.IsReachable.hasLocal isOpen.reachable
    rw [isOther row isRow (by rw [isDomain, isOwn])] at isLocal
    cases isLocal
  permitted := isOpen.permitted
  accepted := isOpen.accepted

/-- What is found out about a user of whom nothing is known settles what the site comes to. -/
theorem IsOpenTo.settles (isOpen : site.IsOpenTo host there)
    (admits : site.service.Admits site.world text username host.domain)
    (noStub : site.world.tables.stub? username host.domain = none)
    (notMissed : site.world.recalls site.surroundings (missKey username host.domain) = false)
    {finding : Finding}
    (said : site.world.called.inquiry site.surroundings username host.domain = finding) :
    finding.Settles site.surroundings site.service.windows username host.domain site.world
      site.world.called.called (finding.answer username host.domain site.world) (site.resolve text) := by
  rw [← said, ← isOpen.finding_eq noStub notMissed]
  exact Service.settles_run_resolve site.surroundings
    (Service.IsReachable.isReachable isOpen.reachable).isSound.isOpen admits

end Site

section

variable {site : Site} {there : World} {latest : Tenure} {earlier : List Tenure} {accounts : List User}
  {text username domainText : String} {user : User}
  (isOpen : site.IsOpenTo latest.service there) (registered : there.HasRegistered (latest :: earlier) accounts)
  (numbered : there.issued ≤ 16 ^ 104)
  (notHexadecimal : DomainName.endsInHexadecimal latest.service.domain.toList = false)
  (isOther : ∀ row ∈ site.world.tables.instances, lower row.domain = lower latest.service.domain →
    row.isLocal = false)
  (reads : Handle.read text = ⟨username, some domainText⟩)
  (atDomain : DomainName.normalize domainText = latest.service.domain)
  (noStub : site.world.tables.stub? username latest.service.domain = none)
  (notMissed : site.world.recalls site.surroundings (missKey username latest.service.domain) = false)
  (isAccount : user ∈ accounts) (atHome : user.instanceId = latest.service.home.id)
  (named : lower user.username = lower username)

include isOpen registered numbered notHexadecimal isOther reads atDomain noStub notMissed isAccount atHome named

/-- An account for which a site asks settles what the site comes to: it is found or cannot be used. -/
theorem Site.IsOpenTo.settles_of_account :
    ∃ (declaration : Declaration) (finding : Finding),
      finding = (if Profile.absentOrWithin 128 user.displayName then
        .found declaration (Endpoint.profileOf user) else .unusable) ∧
      finding.Settles site.surroundings site.service.windows username latest.service.domain site.world
        site.world.called.called (finding.answer username latest.service.domain site.world)
        (site.resolve text) := by
  have holds := registered.holdsAccounts
  have asRegistered := holds.asRegistered user isAccount
  have isIssued := registered.hosted.invariant.1.tables.usersIssued user (holds.kept user isAccount)
  obtain ⟨declaration, said⟩ := isOpen.inquiry_of_account notHexadecimal
    (registered.user?_eq_some isAccount atHome named) named asRegistered isIssued numbered
  have isValid := (Username.validate_eq_of_lower_eq named).symm.trans asRegistered.validUsername
  exact ⟨declaration, _, rfl,
    isOpen.settles (isOpen.admits isOther reads atDomain isValid) noStub notMissed said⟩

/-- An account with a longer display name is not accepted. -/
theorem Site.longer_name_is_not_accepted {name : String} (isName : user.displayName = some name)
    (isLong : 128 < name.length) :
    (site.resolve text).1 = some (.error (.remoteLookupFailed latest.service.domain)) := by
  obtain ⟨declaration, finding, isUnusable, settles⟩ := isOpen.settles_of_account registered numbered
    notHexadecimal isOther reads atDomain noStub notMissed isAccount atHome named
  have notShort : ¬ Profile.absentOrWithin 128 user.displayName = true := by
    rw [isName, Profile.absentOrWithin, decide_eq_true_iff]
    exact Nat.not_le.mpr isLong
  rw [if_neg notShort] at isUnusable
  subst isUnusable
  refine settles.result.trans ?_
  rw [Finding.answer_eq_settle .unusable (fun _ => Finding.noConfusion), noStub]
  rfl

end

/-- What a site comes to that resolves a handle at the domain of a service of which it has no row of its own,
and knows nothing of the user. An account that was registered there is given as fetched, as a copy of the
account, whatever the case of the handle, if the display name has at most 128 characters. Nobody is given
under a username that was not registered, and the tables stay what they are. -/
theorem Site.accounts_are_shared {site : Site} {there : World} {latest : Tenure} {earlier : List Tenure}
    {accounts : List User} (registered : there.HasRegistered (latest :: earlier) accounts)
    (noStubs : latest.inherited = []) (numbered : there.issued ≤ 16 ^ 104)
    (isOpen : site.IsOpenTo latest.service there)
    (notHexadecimal : DomainName.endsInHexadecimal latest.service.domain.toList = false)
    (isOther : ∀ row ∈ site.world.tables.instances, lower row.domain = lower latest.service.domain →
      row.isLocal = false)
    {text username domainText : String} (reads : Handle.read text = ⟨username, some domainText⟩)
    (atDomain : DomainName.normalize domainText = latest.service.domain)
    (noStub : site.world.tables.stub? username latest.service.domain = none)
    (notMissed : site.world.recalls site.surroundings (missKey username latest.service.domain) = false) :
    (∀ user ∈ accounts, user.instanceId = latest.service.home.id → lower user.username = lower username →
      (∀ name ∈ user.displayName, name.length ≤ 128) →
      ∃ stub, (site.resolve text).1 = some (.ok ⟨stub, latest.service.domain, .remote⟩) ∧
        user.IsCopyOf stub) ∧
    (Username.validate username = .ok () →
      (∀ user ∈ accounts, user.instanceId = latest.service.home.id → lower user.username ≠ lower username) →
      site.world.CanKeep site.service.windows.missLifetime →
      (site.resolve text).1 = some (.error (.userNotFound (fullName username latest.service.domain))) ∧
        (site.resolve text).2.tables = site.world.tables) := by
  have isReachable := Service.IsReachable.isReachable isOpen.reachable
  have sound := isReachable.isSound
  constructor
  · intro user isAccount atHome named fits
    have short : Profile.absentOrWithin 128 user.displayName = true := by
      cases displayName : user.displayName with
      | none => rfl
      | some name => exact decide_eq_true (fits name displayName)
    obtain ⟨declaration, finding, isFound, settles⟩ := isOpen.settles_of_account registered numbered
      notHexadecimal isOther reads atDomain noStub notMissed isAccount atHome named
    rw [if_pos short] at isFound
    subst isFound
    have isOtherRow : ∀ row ∈ site.world.tables.instances,
        nameKey row.domain = nameKey latest.service.domain → row.isLocal = false :=
      fun row isRow same => isOther row isRow ((DomainName.nameKey_eq_iff isOpen.accepted).mp same)
    obtain ⟨stub, changed, written⟩ := Tables.exists_putRemoteUser sound.tables isOtherRow declaration
      (Endpoint.profileOf user) site.world.time
    have isNamed : lower (Endpoint.profileOf user).username = lower username := named
    obtain ⟨row, takenIn⟩ :=
      Tables.hasTakenIn_putRemoteUser sound.tables isReachable.hasDistinctDomains isNamed written
    have isNew := takenIn.eq_newStub sound.tables isReachable.hasDistinctDomains noStub
    refine ⟨stub, settles.result.trans ?_, ?_⟩
    · rw [Finding.answer_eq_settle (.found declaration (Endpoint.profileOf user))
        (fun _ => Finding.noConfusion), Finding.profile, World.written, written, noStub]
      rfl
    · rw [isNew]
      exact (registered.holdsAccounts.asRegistered user isAccount).isCopyOf _ _ _
  · intro isValid notRegistered canKeep
    have said := isOpen.inquiry_of_none notHexadecimal isValid (registered.user?_eq_none noStubs notRegistered)
    have settles := isOpen.settles (isOpen.admits isOther reads atDomain isValid) noStub notMissed said
    have keeps : (site.world.called.called.keeping site.surroundings
        (Finding.missing.memo site.service.windows username latest.service.domain)).1 = some () :=
      World.keeping_eq_some fun kept isMemo => by
        cases isMemo
        exact canKeep
    refine ⟨settles.result.trans ?_, settles.tables⟩
    rw [keeps, Finding.answer_eq_settle .missing (fun _ => Finding.noConfusion), noStub]
    rfl

/-! ### A service that is asked -/

namespace Site

/-- An account with a display name. -/
def alice (displayName : Option String) : User :=
  ⟨identifier 1, identifier 0, none, "Alice", displayName, none, none, .ofNanoseconds 0, .ofNanoseconds 0⟩

/-- A site at which just that account is registered. -/
def hosting (displayName : Option String) : Site :=
  let site := atStart (.plain "other.example") .silent (.memory .empty) 0
  { site with
    world := { site.world with
      tables := { site.world.tables with users := [alice displayName] }
      issued := 2 } }

theorem domain_hosting (displayName : Option String) : (hosting displayName).service.domain = "other.example" :=
  (by decide : lower "other.example" = "other.example")

theorem hasRegistered_hosting (displayName : Option String) :
    (hosting displayName).world.HasRegistered [⟨(hosting displayName).service, []⟩] [alice displayName] := by
  let site := atStart (.plain "other.example") .silent (.memory .empty) 0
  have started : site.world.HasRegistered
      [⟨site.service, (World.fresh (.memory .empty) 0).tables.stubsOf site.service.home.id⟩] [] :=
    (World.HasRegistered.fresh (.memory .empty) 0).started (.memory .empty) .silent (.ofNanoseconds 0)
      (carryOut_writeLocal_fresh _ _ _ _)
  have noStubs : (World.fresh (.memory .empty) 0).tables.stubsOf site.service.home.id = [] := rfl
  rw [noStubs] at started
  have isValid : Username.validate "Alice" = .ok () := by decide
  have written : site.world.tables.register site.service.home.id "Alice" displayName
      (identifier site.world.issued) site.world.time =
      .ok (alice displayName, (hosting displayName).world.tables) := by
    have isThere : site.world.tables.hasInstance site.service.home.id = true :=
      Tables.hasInstance_of_mem List.mem_cons_self
    unfold Tables.register
    exact if_pos isThere
  have ran : (site.service.register "Alice" displayName).toProgram.run .silent site.world =
      (some (.ok (alice displayName)), (hosting displayName).world) := by
    rw [Service.run_register, isValid]
    dsimp only
    rw [World.carryOut_writeAccount, World.changeTables_of_ok rfl written]
    rfl
  exact started.accepted .silent "Alice" displayName ran

/-- A site that has just started and is answered by the one with the account. -/
def visiting (domain : String) (displayName : Option String) : Site :=
  atStart (.plain domain) (.facing (hosting displayName).service (hosting displayName).world) (.memory .empty) 0

theorem isOpenTo_visiting (domain : String) (displayName : Option String) :
    (visiting domain displayName).IsOpenTo (hosting displayName).service (hosting displayName).world := by
  have isAccepted : DomainName.validate [] "other.example" = .ok "other.example" := by decide
  have isNamed : (HostName.toAscii? "other.example".toList).isSome = true :=
    HostName.isSome_toAscii?_of_validate isAccepted (by decide)
  have hostDomain := domain_hosting displayName
  have hasMode : (hosting displayName).world.HasMode (hosting displayName).service.home.id .anyone :=
    (hasMode_atStart (.plain "other.example") .silent (.memory .empty) 0).of_instances rfl rfl
  have within : ((hosting displayName).service.declared .anyone).isWithinBounds = true :=
    (by decide : ((atStart (.plain "other.example") .silent (.memory .empty) 0).service.declared
      .anyone).isWithinBounds = true)
  have reaches := Surroundings.reaches_facing (hosting displayName).service
    (rfl : (hosting displayName).world.isDatabaseOpen = true)
  obtain ⟨url, declaredAt, asks⟩ := Service.asks_of_isNamed (hostDomain.symm ▸ isAccepted)
    (hostDomain.symm ▸ by decide) (hostDomain.symm ▸ isNamed)
  refine ⟨isReachable_atStart _ _ _ _, ?_, hostDomain.symm ▸ isAccepted, World.recalls_of_get?_eq_none _ rfl,
    reaches, ⟨.anyone, hasMode, by decide⟩, ⟨(hosting displayName).service.declared .anyone, ?_⟩⟩
  · have isOpenMode : (visiting domain displayName).world.HasMode
        (visiting domain displayName).service.home.id .anyone := hasMode_atStart _ _ _ _
    rw [World.permission, isOpenMode]
    rfl
  · refine (reaches.run_askDeclaration hasMode declaredAt asks _).trans ?_
    rw [if_pos within]

/-- At home there is no row for the domain of the service that is asked. -/
theorem isOther_visiting (displayName : Option String) :
    ∀ row ∈ (visiting "home.example" displayName).world.tables.instances,
      lower row.domain = lower (hosting displayName).service.domain → row.isLocal = false :=
  (by decide : ∀ row ∈ (atStart (.plain "home.example") .silent (.memory .empty) 0).world.tables.instances,
    lower row.domain = lower (lower "other.example") → row.isLocal = false)

/-- That site knows nobody. -/
theorem isStrange_visiting (domain : String) (displayName : Option String) (username place : String) :
    (visiting domain displayName).world.tables.stub? username place = none ∧
      (visiting domain displayName).world.recalls (visiting domain displayName).surroundings
        (missKey username place) = false := by
  refine ⟨?_, World.recalls_of_get?_eq_none _ rfl⟩
  unfold Tables.stub?
  split
  · split <;> rfl
  · rfl

/-- The handle of the account in capital letters is resolved to a copy of it, and that of somebody else to
nobody. -/
theorem alice_is_shared :
    let host := hosting (some "Alice A.")
    let site := visiting "home.example" (some "Alice A.")
    let account := alice (some "Alice A.")
    host.world.HasRegistered [⟨host.service, []⟩] [account] ∧ site.IsOpenTo host.service host.world ∧
      (∃ stub, (site.resolve "ALICE@Other.Example").1 = some (.ok ⟨stub, "other.example", .remote⟩) ∧
        account.IsCopyOf stub) ∧
      (site.resolve "bob@other.example").1 = some (.error (.userNotFound "bob@other.example")) ∧
      (site.resolve "bob@other.example").2.tables = site.world.tables := by
  intro host site account
  have registered : host.world.HasRegistered [⟨host.service, []⟩] [account] := hasRegistered_hosting _
  have isOpen : site.IsOpenTo host.service host.world := isOpenTo_visiting _ _
  have isOther := isOther_visiting (some "Alice A.")
  have hostDomain : host.service.domain = "other.example" := domain_hosting _
  have readsAlice : Handle.read "ALICE@Other.Example" = ⟨"ALICE", some "Other.Example"⟩ := by decide
  have readsBob : Handle.read "bob@other.example" = ⟨"bob", some "other.example"⟩ := by decide
  have atHost : DomainName.normalize "Other.Example" = host.service.domain := hostDomain.symm ▸ by decide
  have atHostToo : DomainName.normalize "other.example" = host.service.domain := hostDomain.symm ▸ by decide
  have noHexadecimal : DomainName.endsInHexadecimal host.service.domain.toList = false :=
    hostDomain.symm ▸ by decide
  have aliceIsStrange := isStrange_visiting "home.example" (some "Alice A.") "ALICE" host.service.domain
  have bobIsStrange := isStrange_visiting "home.example" (some "Alice A.") "bob" host.service.domain
  refine ⟨registered, isOpen, ?_, ?_⟩
  · obtain ⟨isShared, -⟩ := accounts_are_shared registered rfl (by decide) isOpen noHexadecimal isOther
      readsAlice atHost aliceIsStrange.1 aliceIsStrange.2
    rw [← hostDomain]
    exact isShared account List.mem_cons_self rfl (by decide) (by decide)
  · obtain ⟨-, isMissing⟩ := accounts_are_shared registered rfl (by decide) isOpen noHexadecimal isOther
      readsBob atHostToo bobIsStrange.1 bobIsStrange.2
    have notRegistered : ∀ user ∈ [account], user.instanceId = host.service.home.id →
        lower user.username ≠ lower "bob" := by
      intro user isAccount _
      rw [List.mem_singleton.mp isAccount]
      decide
    have canKeep : site.world.CanKeep site.service.windows.missLifetime :=
      World.canKeep_of_isSome_expiry? rfl (by decide)
    have isNobody := isMissing (by decide) notRegistered canKeep
    rw [hostDomain] at isNobody
    exact isNobody

/-- Two sites that may ask a service for an account and are not given it. For the first one the display name
is too long. The second one has the same domain as the service, and answers from its own accounts. -/
theorem accounts_not_shared :
    (∃ name : String, name.length = 129 ∧
      let host := hosting (some name)
      let site := visiting "home.example" (some name)
      host.world.HasRegistered [⟨host.service, []⟩] [alice (some name)] ∧
      site.IsOpenTo host.service host.world ∧
      site.world.tables.stub? "alice" "other.example" = none ∧
      site.world.recalls site.surroundings (missKey "alice" "other.example") = false ∧
      (site.resolve "alice@other.example").1 = some (.error (.remoteLookupFailed "other.example"))) ∧
    let host := hosting none
    let site := visiting "other.example" none
    host.world.HasRegistered [⟨host.service, []⟩] [alice none] ∧ site.IsOpenTo host.service host.world ∧
      site.world.tables.stub? "alice" "other.example" = none ∧
      site.world.recalls site.surroundings (missKey "alice" "other.example") = false ∧
      (site.resolve "alice@other.example").1 = some (.error (.userNotFound "alice")) := by
  have reads : Handle.read "alice@other.example" = ⟨"alice", some "other.example"⟩ := by decide
  refine ⟨⟨String.ofList (List.replicate 129 'n'), ?_, ?_⟩, ?_⟩
  · rw [String.length_ofList, List.length_replicate]
  · generalize isName : String.ofList (List.replicate 129 'n') = name
    have isLong : 128 < name.length := by
      rw [← isName, String.length_ofList, List.length_replicate]
      decide
    intro host site
    have registered : host.world.HasRegistered [⟨host.service, []⟩] [alice (some name)] :=
      hasRegistered_hosting _
    have isOpen : site.IsOpenTo host.service host.world := isOpenTo_visiting _ _
    have isStrange := isStrange_visiting "home.example" (some name) "alice" "other.example"
    have hostDomain : host.service.domain = "other.example" := domain_hosting _
    have numbered : host.world.issued ≤ 16 ^ 104 := (by decide : 2 ≤ 16 ^ 104)
    have isUnknown := longer_name_is_not_accepted isOpen registered numbered (hostDomain.symm ▸ by decide)
      (isOther_visiting _) reads (hostDomain.symm ▸ by decide) (hostDomain.symm ▸ isStrange.1)
      (hostDomain.symm ▸ isStrange.2)
      List.mem_cons_self rfl (by decide : lower "Alice" = lower "alice") rfl isLong
    rw [hostDomain] at isUnknown
    exact ⟨registered, isOpen, isStrange.1, isStrange.2, isUnknown⟩
  · intro host site
    have isStrange := isStrange_visiting "other.example" none "alice" "other.example"
    have valid : Username.validate "alice" = .ok () := by decide
    have atHome : foreignDomain? site.service ⟨"alice", some "other.example"⟩ = none :=
      (by decide : foreignDomain? (atStart (.plain "other.example") .silent (.memory .empty) 0).service
        ⟨"alice", some "other.example"⟩ = none)
    have counts := (Service.run_resolve_counts site.surroundings site.service "alice@other.example"
      site.world).1
    rw [reads, run_resolveHandle, valid] at counts
    dsimp only at counts
    rw [atHome] at counts
    exact ⟨hasRegistered_hosting _, isOpenTo_visiting _ _, isStrange.1, isStrange.2, counts⟩

end Site

end HandleFederation
