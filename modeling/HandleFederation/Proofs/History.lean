/-
This file says what a history of a service is. From a world that it came to, handles are
resolved and chores are done one after another, and time passes. Each resolution is noted
with the world in which it began, the latest one first, so that what comes later can be
told from what was noted. Only resolutions have a say in stubs: a chore leaves every one
of them as it is, and a profile that was fetched touches no stub but the one of its user,
and one of the same instance with the same identifier there, under whatever name.
-/

import HandleFederation.Http.Health
import HandleFederation.Proofs.Finding
import HandleFederation.Proofs.Interleaving
import HandleFederation.Proofs.ResolvedIdentity

namespace HandleFederation

open Program Resolution Text

/-! ### The clock -/

namespace World

/-- The world some nanoseconds later, when nothing was done. -/
def waited (span : Nat) (world : World) : World :=
  { world with now := world.now + span }

@[simp] theorem now_waited (span : Nat) (world : World) : (world.waited span).now = world.now + span := rfl

@[simp] theorem tables_waited (span : Nat) (world : World) : (world.waited span).tables = world.tables :=
  rfl

@[simp] theorem requested_waited (span : Nat) (world : World) :
    (world.waited span).requested = world.requested := rfl

variable (surroundings : Surroundings) (world : World)

/-- A change of the tables leaves everything else as it is but the number of identifiers. -/
theorem exists_changeTables_eq {Result : Type} (identifiers : Nat)
    (change : Tables → Except Failure (Result × Tables)) :
    ∃ tables issued, (world.changeTables identifiers change).2 =
      { world with tables := tables, issued := issued } := by
  unfold changeTables
  split
  · dsimp only
    split <;> exact ⟨_, _, rfl⟩
  · exact ⟨_, _, rfl⟩

theorem now_changeTables {Result : Type} (identifiers : Nat)
    (change : Tables → Except Failure (Result × Tables)) :
    (world.changeTables identifiers change).2.now = world.now := by
  obtain ⟨tables, issued, same⟩ := world.exists_changeTables_eq identifiers change
  rw [same]

theorem store_changeTables {Result : Type} (identifiers : Nat)
    (change : Tables → Except Failure (Result × Tables)) :
    (world.changeTables identifiers change).2.store = world.store := by
  obtain ⟨tables, issued, same⟩ := world.exists_changeTables_eq identifiers change
  rw [same]

theorem now_useStore {Result : Type} (operation : StoreOperation)
    (use : World → Option (Result × ShortTermStore)) :
    (world.useStore surroundings operation use).2.now = world.now := by
  unfold useStore
  dsimp only
  split
  · rfl
  · split <;> rfl

/-- No command turns the clock. -/
theorem now_carryOut (command : Command) : (world.carryOut surroundings command).2.now = world.now := by
  cases command with
  | writeLocal settings now =>
    rw [carryOut_writeLocal]
    exact now_changeTables world _ _
  | writeRemote settings now =>
    rw [carryOut_writeRemote]
    exact now_changeTables world _ _
  | writeMode instanceId mode =>
    rw [carryOut_writeMode]
    exact now_changeTables world _ _
  | writePeer instanceId domain status now =>
    rw [carryOut_writePeer]
    exact now_changeTables world _ _
  | writeAccount instanceId username displayName now =>
    rw [carryOut_writeAccount]
    exact now_changeTables world _ _
  | writeStub instanceId fields now =>
    rw [carryOut_writeStub]
    exact now_changeTables world _ _
  | writeRemoteUser settings fields now =>
    rw [carryOut_writeRemoteUser]
    exact now_changeTables world _ _
  | «recall» key => exact now_useStore surroundings world _ _
  | remember key value seconds => exact now_useStore surroundings world _ _
  | forget key => exact now_useStore surroundings world _ _
  | purge => exact now_useStore surroundings world _ _
  | _ => rfl

end World

theorem Program.now_run {Result : Type} (surroundings : Surroundings) (program : Program Result)
    (world : World) : (program.run surroundings world).2.now = world.now := by
  induction program generalizing world with
  | done result => rfl
  | step command next inductionHypothesis =>
    have stepped := World.now_carryOut surroundings world command
    rw [run_step]
    generalize world.carryOut surroundings command = outcome at stepped ⊢
    rcases outcome with ⟨_ | reply, after⟩
    · exact stepped
    · exact (inductionHypothesis reply after).trans stepped

/-! ### Chores -/

/-- What a service does besides resolving handles. -/
inductive Chore where
  /-- Registering an account. -/
  | register (username : String) (displayName : Option String)
  /-- Writing how far a peer is approved. -/
  | approve (instanceId domain : String) (status : PeerStatus)
  /-- Changing the mode of an instance. -/
  | setMode (instanceId : String) (mode : FederationMode)
  /-- Forgetting the short-lived values that have expired. -/
  | sweep
  /-- Reporting how the server is doing, which probes the store for short-lived values. -/
  | reportHealth

/-- What a service does about a chore. -/
def Chore.program (service : Service) : Chore → Program Unit
  | .register username displayName =>
    (service.register username displayName).toProgram.andThen fun _ => .done ()
  | .approve instanceId domain status =>
    (Service.approve instanceId domain status).toProgram.andThen fun _ => .done ()
  | .setMode instanceId mode => (perform (.writeMode instanceId mode)).andThen fun _ => .done ()
  | .sweep => Service.sweep.toProgram.andThen fun _ => .done ()
  | .reportHealth => (Health.report service).andThen fun _ => .done ()

/-- A chore writes modes, peers and accounts of this instance, and no short-lived value but the one by
which the store is probed. -/
def Contract.ofChore (home : Instance) : Contract where
  allows
    | .writeLocal _ _ | .writeRemote _ _ | .writeStub _ _ _ | .writeRemoteUser _ _ _ => False
    | .writeAccount instanceId _ _ _ => instanceId = home.id
    | .remember key _ _ | .forget key => key = Health.probeKey
    | _ => True
  promises _ _ := True

section

variable {contract : Contract}

theorem Health.keeps_probe (allowsClock : contract.allows .clock) {name : String}
    {onFailure : ComponentStatus} {action : Action Unit}
    (keeps : action.toProgram.Keeps contract fun _ => True) :
    (probe name onFailure action).Keeps contract fun _ => True := by
  refine .step allowsClock fun started _ => keeps.andThen fun result _ => ?_
  refine .step allowsClock fun stopped _ => ?_
  cases result with
  | error failure => exact .done trivial
  | ok done => exact .done trivial

end

/-- The commands that chores consist of. -/
def Command.IsOfChore (home : Instance) : Command → Prop
  | .clock | .ping | .readMode _ | .readLocal | .listPeers _ | .writeMode _ _ | .writePeer _ _ _ _
  | .recall _ | .purge => True
  | .writeAccount instanceId _ _ _ => instanceId = home.id
  | .remember key _ _ | .forget key => key = Health.probeKey
  | _ => False

/-- A chore keeps every contract that allows what chores consist of. -/
theorem Chore.keeps_of {contract : Contract} (service : Service) (chore : Chore)
    (allows : ∀ command : Command, command.IsOfChore service.home → contract.allows command) :
    (chore.program service).Keeps contract fun _ => True := by
  have nothing : (Program.done ()).Keeps contract fun _ => True := .done trivial
  have allowsClock : contract.allows .clock := allows .clock trivial
  cases chore with
  | register username displayName =>
    have keeps : (service.register username displayName).toProgram.Keeps contract fun _ => True :=
      Service.keeps_register allowsClock fun now => allows (.writeAccount _ _ _ now) rfl
    exact keeps.andThen fun _ _ => nothing
  | approve instanceId domain status =>
    have keeps : (Service.approve instanceId domain status).toProgram.Keeps contract fun _ => True :=
      Service.keeps_approve allowsClock fun now => allows (.writePeer _ _ _ now) trivial
    exact keeps.andThen fun _ _ => nothing
  | setMode instanceId mode =>
    exact .step (allows (.writeMode instanceId mode) trivial) fun _ _ => nothing
  | sweep => exact .step (allows .purge trivial) fun _ _ => nothing
  | reportHealth =>
    have database : Service.checkHealth.toProgram.Keeps contract fun _ => True := by
      refine Action.keeps_bind (.step (allows .ping trivial) fun _ _ => .done trivial)
        (fun _ _ => trivial) fun _ _ => ?_
      exact Action.keeps_bind (.step (allows .readLocal trivial) fun _ _ => .done trivial)
        (fun _ _ => trivial) fun _ _ => .done trivial
    have store : Health.probeStore.toProgram.Keeps contract fun _ => True := by
      refine Action.keeps_bind (.step (allows (.remember _ _ _) rfl) fun _ _ => .done trivial)
        (fun _ _ => trivial) fun _ _ => ?_
      refine Action.keeps_bind (.step (allows (.recall _) trivial) fun _ _ => .done trivial)
        (fun _ _ => trivial) fun _ _ => ?_
      exact .step (allows (.forget _) rfl) fun _ _ => .done trivial
    have report : (Health.report service).Keeps contract fun _ => True := by
      refine (Health.keeps_probe allowsClock database).andThen fun _ _ => ?_
      refine (Health.keeps_probe allowsClock store).andThen fun _ _ => ?_
      exact .step (allows (.readMode _) trivial) fun _ _ =>
        .step (allows (.listPeers _) trivial) fun _ _ => .done trivial
    exact report.andThen fun _ _ => nothing

theorem Chore.keeps (service : Service) (chore : Chore) :
    (chore.program service).Keeps (.ofChore service.home) fun _ => True := by
  refine chore.keeps_of service fun command isOfChore => ?_
  cases command with
  | writeLocal settings now => exact isOfChore
  | writeRemote settings now => exact isOfChore
  | writeStub instanceId fields now => exact isOfChore
  | writeRemoteUser settings fields now => exact isOfChore
  | writeAccount instanceId username displayName now => exact isOfChore
  | remember key value seconds => exact isOfChore
  | forget key => exact isOfChore
  | _ => trivial

/-! ### Stubs that a write leaves alone -/

/-- What tells where an instance stands, and whether it is this one. -/
def InstanceRecord.standing {Mode : Type} (record : InstanceRecord Mode) : String × String × Bool :=
  (record.id, record.domain, record.isLocal)

namespace Tables

variable {issued : Nat} {tables changed : Tables} {home : Instance}

/-- A stub depends on the users and on where the instances stand. -/
theorem stub?_eq_of_standing
    (sameInstances : changed.instances.map InstanceRecord.standing =
      tables.instances.map InstanceRecord.standing) (sameUsers : changed.users = tables.users)
    (username domain : String) : changed.stub? username domain = tables.stub? username domain := by
  have standing : ∀ tables : Tables, (tables.instanceAt? domain).map InstanceRecord.standing =
      (tables.instances.map InstanceRecord.standing).find? fun place => sameName place.2.1 domain := by
    intro tables
    rw [List.find?_map]
    rfl
  have same : (changed.instanceAt? domain).map InstanceRecord.standing =
      (tables.instanceAt? domain).map InstanceRecord.standing := by
    rw [standing, standing, sameInstances]
  unfold stub? user?
  rw [sameUsers]
  cases before : tables.instanceAt? domain with
  | none =>
    rw [before, Option.map_none, Option.map_eq_none_iff] at same
    rw [same]
  | some row =>
    rw [before, Option.map_some, Option.map_eq_some_iff] at same
    obtain ⟨other, after, sameStanding⟩ := same
    simp only [InstanceRecord.standing, Prod.mk.injEq] at sameStanding
    obtain ⟨sameId, -, sameKind⟩ := sameStanding
    rw [after]
    dsimp only
    rw [sameId, sameKind]

/-- An account of this instance is no stub. -/
theorem stub?_register (sound : tables.IsSound issued) {id name newId : String}
    (hasLocal : tables.HasLocal id name) {accountName : String} {displayName : Option String}
    {now : Timestamp} {user : User}
    (written : tables.register id accountName displayName newId now = .ok (user, changed))
    (username domain : String) : changed.stub? username domain = tables.stub? username domain := by
  unfold register at written
  split at written
  · cases written
  · split at written
    · cases written
      have sameInstance : ∀ users, instanceAt? { tables with users := users } domain =
          tables.instanceAt? domain := fun _ => rfl
      unfold stub?
      rw [sameInstance]
      split
      · rename_i row found
        split
        · rfl
        · rename_i isForeign
          obtain ⟨homeRow, isHomeRow, rfl, -, isLocal⟩ := hasLocal
          have isOther : homeRow.id ≠ row.id := by
            intro sameId
            have same := List.inj_on_of_nodup_map sound.instancesDistinct isHomeRow
              (mem_of_instanceAt? found).1 sameId
            exact isForeign (same ▸ isLocal)
          unfold user?
          rw [List.find?_append, List.find?_singleton, if_neg, Option.or_none]
          simp [isUser, isOther]
      · rfl
    · cases written

/-- What a chore writes leaves all stubs as they are. -/
theorem stub?_of_chore (sound : tables.IsSound issued) (hasLocal : tables.HasLocal home.id home.domain)
    {command : Command} (allowed : (Contract.ofChore home).allows command)
    (becomes : tables.CanBecome issued command changed) (username domain : String) :
    changed.stub? username domain = tables.stub? username domain := by
  cases becomes with
  | same command => rfl
  | home settings now => cases allowed
  | remote written => cases allowed
  | mode instanceId mode =>
    have sameUsers : (tables.putMode instanceId mode.word).2.users = tables.users := rfl
    have keeps : ∀ row : InstanceRow, InstanceRecord.standing { row with mode := mode.word } =
        row.standing := fun _ => rfl
    exact stub?_eq_of_standing (map_changeFirst _ keeps _) sameUsers username domain
  | peer written =>
    refine stub?_eq_of_standing ?_ (users_putPeer written) username domain
    rw [instances_putPeer written]
  | account written =>
    obtain rfl := allowed
    exact stub?_register sound hasLocal written username domain
  | stub written => cases allowed
  | remoteUser written => cases allowed

namespace HasTakenIn

variable {username domain : String} {declaration : Declaration} {profile : Profile} {now : Timestamp}
  {row : InstanceRow} {written : User}

/-- An instance that was there before is the one of the domain if its identifier is that of the one that was
written. -/
theorem named_of_id_eq (takenIn : HasTakenIn domain username declaration profile issued now tables changed
      row written) (sound : tables.IsSound issued) {other : InstanceRow}
    (wasThere : other ∈ tables.instances) (sameId : other.id = row.id) :
    nameKey other.domain = nameKey domain := by
  rcases takenIn.instances.renewed_or_fresh with ⟨old, isOld, named, isRenewed⟩ | isFresh
  · rw [isRenewed] at sameId
    rw [List.inj_on_of_nodup_map sound.instancesDistinct wasThere isOld sameId]
    exact named
  · rw [isFresh] at sameId
    exact absurd sameId ((sound.instancesIssued other wasThere).ne_identifier (Nat.le_refl issued))

variable {later : Nat} {name place : String} {user : User}

/-- A stub that is there after a write was there before, unless it is that of the user who was written. -/
theorem stub?_of_changed (takenIn : HasTakenIn domain username declaration profile issued now tables
      changed row written) (named : lower profile.username = lower username)
    (sound : tables.IsSound issued) (distinct : tables.HasDistinctDomains)
    (soundThen : changed.IsSound later) (distinctThen : changed.HasDistinctDomains)
    (isOther : nameKey place = nameKey domain → nameKey name ≠ nameKey username)
    (found : changed.stub? name place = some user) : tables.stub? name place = some user := by
  obtain ⟨other, isRow, atPlace, isForeign, isUser, stands⟩ :=
    (stub?_eq_some_iff soundThen distinctThen).mp found
  have atDomain : nameKey row.domain = nameKey domain :=
    takenIn.instances.meant (fun _ meant => meant) (nameKey_lower domain)
  rcases takenIn.users.eq_or_mem isUser with rfl | isKept
  · have meant := takenIn.users.meant (fun _ meant => meant) ⟨rfl, nameKey_eq_of_lower_eq named⟩
    obtain rfl : other = row := List.inj_on_of_nodup_map soundThen.instancesDistinct isRow
      takenIn.instances.mem ((congrArg Prod.fst stands).symm.trans meant.1)
    exact absurd ((congrArg Prod.snd stands).symm.trans meant.2) (isOther (atPlace.symm.trans atDomain))
  · have wasUser := (List.mem_filter.mp isKept).1
    refine (stub?_eq_some_iff sound distinct).mpr ?_
    rcases takenIn.instances.eq_or_mem isRow with rfl | wasRow
    · rcases takenIn.instances.renewed_or_fresh with ⟨old, isOld, oldNamed, isRenewed⟩ | isFresh
      · rw [isRenewed] at isForeign stands
        exact ⟨old, isOld, oldNamed.trans (atDomain.symm.trans atPlace), isForeign, wasUser, stands⟩
      · obtain ⟨settled, isSettled, sameId⟩ := List.mem_map.mp (sound.usersSettled user wasUser)
        have isNew : other.id = identifier issued := by rw [isFresh]
        have sameNew : settled.id = identifier issued :=
          sameId.trans ((congrArg Prod.fst stands).trans isNew)
        exact absurd sameNew ((sound.instancesIssued settled isSettled).ne_identifier (Nat.le_refl issued))
    · exact ⟨other, wasRow, atPlace, isForeign, wasUser, stands⟩

/-- A stub stays when another user is written, unless it has the identifier of that user at the same
instance. -/
theorem stub?_of_tables (takenIn : HasTakenIn domain username declaration profile issued now tables
      changed row written) (sound : tables.IsSound issued) (distinct : tables.HasDistinctDomains)
    (soundThen : changed.IsSound later) (distinctThen : changed.HasDistinctDomains)
    (isOther : nameKey place = nameKey domain → nameKey name ≠ nameKey username)
    (keepsId : nameKey place = nameKey domain → user.remoteUserId ≠ some profile.id)
    (found : tables.stub? name place = some user) : changed.stub? name place = some user := by
  obtain ⟨other, wasRow, atPlace, isForeign, wasUser, stands⟩ :=
    (stub?_eq_some_iff sound distinct).mp found
  have atDomain : user.instanceId = row.id → nameKey place = nameKey domain := fun same =>
    atPlace.symm.trans (takenIn.named_of_id_eq sound wasRow ((congrArg Prod.fst stands).symm.trans same))
  have notSuperseded : ¬ IsSuperseded row.id username profile user := fun superseded =>
    keepsId (atDomain superseded.1) superseded.2.1
  have notMeant : ¬ (user.instanceId = row.id ∧ nameKey user.username = nameKey username) := fun meant =>
    isOther (atDomain meant.1) ((congrArg Prod.snd stands).symm.trans meant.2)
  have isUser : user ∈ changed.users :=
    takenIn.users.mem_of_not_meant (List.mem_filter.mpr ⟨wasUser, by simp [notSuperseded]⟩) notMeant
  refine (stub?_eq_some_iff soundThen distinctThen).mpr ?_
  by_cases isMeant : nameKey other.domain = nameKey domain
  · have isRenewed := takenIn.instances.eq_renew wasRow isMeant
    have sameId : row.id = other.id := by rw [isRenewed]
    have sameDomain : row.domain = other.domain := by rw [isRenewed]
    exact ⟨row, takenIn.instances.mem, sameDomain ▸ atPlace, takenIn.isForeign, isUser, sameId ▸ stands⟩
  · exact ⟨other, takenIn.instances.mem_of_not_meant wasRow isMeant, atPlace, isForeign, isUser, stands⟩

end HasTakenIn

end Tables

/-- Doing a chore leaves all stubs as they are. -/
theorem Service.IsReachable.stub?_run_chore {service : Service} {world : World}
    (reachable : service.IsReachable world) (surroundings : Surroundings) (chore : Chore)
    (username domain : String) :
    ((chore.program service).run surroundings world).2.tables.stub? username domain =
      world.tables.stub? username domain := by
  have honoured : ∀ between : World, (service.IsReachable between ∧
      between.tables.stub? username domain = world.tables.stub? username domain) →
      (Contract.ofChore service.home).IsHonoured surroundings between := fun _ _ _ _ _ _ => trivial
  refine ((chore.keeps service).run honoured (fun between holds command allowed => ?_)
    ⟨reachable, rfl⟩).1.2
  obtain ⟨isReachable, same⟩ := holds
  refine ⟨isReachable.carriedOut surroundings command, ?_⟩
  rw [Tables.stub?_of_chore isReachable.isReachable.isSound.tables isReachable.hasLocal allowed
    (World.canBecome_carryOut surroundings command), same]

/-! ### Resolutions -/

namespace Resolution

theorem settle_eq_ok {domain : String} {stale : Option User} {outcome : Except Failure User}
    {resolved : Resolved} (settled : settle domain stale outcome = .ok resolved) :
    resolved.domain = domain ∧ resolved.source ≠ .cache := by
  rcases outcome with failure | user
  · cases failure with
    | remoteLookupFailed name =>
      cases stale with
      | none => cases settled
      | some user =>
        cases settled
        exact ⟨rfl, nofun⟩
    | _ => cases settled
  · cases settled
    exact ⟨rfl, nofun⟩

end Resolution

theorem Finding.answer_eq_ok {finding : Finding} {username domain : String} {world : World}
    {resolved : Resolved} (answer : finding.answer username domain world = .ok resolved) :
    resolved.domain = domain ∧ (resolved.source = .cache → finding = .fresh resolved.user) := by
  by_cases isFresh : ∃ user, finding = .fresh user
  · obtain ⟨user, rfl⟩ := isFresh
    cases answer
    exact ⟨rfl, fun _ => rfl⟩
  · rw [finding.answer_eq_settle fun user same => isFresh ⟨user, same⟩] at answer
    obtain ⟨sameDomain, notCached⟩ := settle_eq_ok answer
    exact ⟨sameDomain, fun isCached => absurd isCached notCached⟩


/-- A resolution of a handle: the world in which it began, with its surroundings, and the text. -/
structure Call where
  surroundings : Surroundings
  world : World
  text : String

namespace Call

variable (service : Service) (call : Call)

/-- What came of a resolution, and the world afterwards. -/
def outcome : Option (Except Failure Resolved) × World :=
  (service.resolve call.text).toProgram.run call.surroundings call.world

theorem outcome_eq : call.outcome service =
    (service.resolve call.text).toProgram.run call.surroundings call.world := rfl

-- What comes of a resolution is told from what it finds out, not by running it.
attribute [irreducible] outcome

theorem now_outcome : (call.outcome service).2.now = call.world.now := by
  rw [outcome_eq, now_run]

variable {service call}

/-- What a resolution of a handle that is admitted finds out settles it. -/
theorem settles (isOpen : call.world.isDatabaseOpen = true) {username domain : String}
    (admits : service.Admits call.world call.text username domain) {finding : Finding}
    (said : call.world.finding call.surroundings service.windows username domain = finding) :
    finding.Settles call.surroundings service.windows username domain call.world call.world.called.called
      (finding.answer username domain call.world) (call.outcome service) := by
  have settles := Service.settles_run_resolve call.surroundings isOpen admits
  dsimp only at settles
  rw [said] at settles
  rw [outcome_eq]
  exact settles

variable (service call)

/-- The same resolution over another store. -/
def withStore (store : ShortTermStore) : Call :=
  ⟨call.surroundings, call.world.withStore store, call.text⟩

theorem outcome_withStore (store : ShortTermStore) : (call.withStore store).outcome service =
    (service.resolve call.text).toProgram.run call.surroundings (call.world.withStore store) := by
  rw [outcome_eq, withStore]

variable {service call}

/-- A handle that is not admitted changes nothing and is not answered from another instance, whatever is
remembered. -/
theorem exists_answer_of_not_admits
    (notAdmitted : ¬ ∃ username domain, service.Admits call.world call.text username domain) :
    ∃ result, (∀ resolved, result = .ok resolved → resolved.source = .home) ∧ ∀ store,
      ((call.withStore store).outcome service).1 = some result ∧
        ((call.withStore store).outcome service).2.requested = call.world.requested ∧
        ((call.withStore store).outcome service).2.tables = call.world.tables ∧
        ((call.withStore store).outcome service).2.store = store := by
  obtain ⟨result, isHome, stays⟩ := Service.run_resolve_of_not_admits call.surroundings notAdmitted
  refine ⟨result, isHome, fun store => ?_⟩
  rw [outcome_withStore]
  exact stays store

theorem withStore_store : call.withStore call.world.store = call := rfl

/-- In particular it changes nothing over the store that there is. -/
theorem exists_own_answer_of_not_admits
    (notAdmitted : ¬ ∃ username domain, service.Admits call.world call.text username domain) :
    ∃ result, (∀ resolved, result = .ok resolved → resolved.source = .home) ∧
      (call.outcome service).1 = some result ∧ (call.outcome service).2.requested = call.world.requested ∧
      (call.outcome service).2.tables = call.world.tables ∧
      (call.outcome service).2.store = call.world.store := by
  obtain ⟨result, isHome, stays⟩ := exists_answer_of_not_admits notAdmitted
  have own := stays call.world.store
  rw [withStore_store] at own
  exact ⟨result, isHome, own⟩

/-- An answer about a user of another instance is one to a handle that was admitted. -/
theorem admits_of_answer (isOpen : call.world.isDatabaseOpen = true) {resolved : Resolved}
    (answer : (call.outcome service).1 = some (.ok resolved)) (notHome : resolved.source ≠ .home) :
    service.Admits call.world call.text (Handle.read call.text).username resolved.domain := by
  by_cases isAdmitted : ∃ username domain, service.Admits call.world call.text username domain
  · obtain ⟨username, domain, admits⟩ := isAdmitted
    obtain ⟨domainText, reads, -⟩ := admits.reads
    have result := (settles isOpen admits rfl).result
    rw [answer] at result
    obtain ⟨_, -, isAnswer⟩ := Option.map_eq_some_iff.mp result.symm
    rw [(Finding.answer_eq_ok isAnswer).1, reads]
    exact admits
  · obtain ⟨result, isHome, isResult, -⟩ := exists_own_answer_of_not_admits isAdmitted
    rw [answer, Option.some_inj] at isResult
    exact absurd (isHome resolved isResult.symm) notHome

/-- The world that a resolution leaves is one of the service. -/
theorem isReachable_outcome (reachable : service.IsReachable call.world) :
    service.IsReachable (call.outcome service).2 := by
  rw [outcome_eq]
  exact reachable.run call.surroundings (service.resolve call.text).toProgram

/-- A resolution leaves the tables alone, or its answer was fetched and was written with its instance. -/
theorem effect (reachable : service.IsReachable call.world) :
    ((∀ resolved, (call.outcome service).1 = some (.ok resolved) → resolved.source ≠ .remote) ∧
      (call.outcome service).2.tables = call.world.tables) ∨
    ∃ domain declaration profile row user,
      (call.outcome service).1 = some (.ok ⟨user, domain, .remote⟩) ∧
      lower profile.username = lower (Handle.read call.text).username ∧
      Tables.HasTakenIn domain (Handle.read call.text).username declaration profile call.world.issued
        call.world.time call.world.tables (call.outcome service).2.tables row user := by
  have siteReachable : Site.IsReachable ⟨service, call.surroundings, call.world⟩ := reachable
  have effects := Site.resolve_effect siteReachable call.text
  rw [Site.resolve] at effects
  dsimp only at effects
  rw [outcome_eq]
  rcases effects with unchanged | ⟨domain, declaration, profile, row, user, isUser, answered, takenIn⟩
  · exact Or.inl unchanged
  · obtain ⟨_, _, -, -, -, found⟩ := answered.asked
    have named := lower_username_of_found found
    exact Or.inr ⟨domain, declaration, profile, row, user, isUser, named, takenIn⟩

end Call

/-! ### Histories -/

/-- What a service did since it came to a world: the resolutions that it was asked for, the latest one
first, and the world that it came to. All of its surroundings were of a kind. -/
inductive Service.Ran (service : Service) (fits : Surroundings → Prop) (first : World) :
    List Call → World → Prop
  | started : Ran service fits first [] first
  | resolved {calls : List Call} {call : Call} (ran : Ran service fits first calls call.world)
    (suits : fits call.surroundings) : Ran service fits first (call :: calls) (call.outcome service).2
  | did {calls : List Call} {world : World} (ran : Ran service fits first calls world)
    {surroundings : Surroundings} (suits : fits surroundings) (chore : Chore) :
    Ran service fits first calls ((chore.program service).run surroundings world).2
  | waited {calls : List Call} {world : World} (ran : Ran service fits first calls world) (span : Nat) :
    Ran service fits first calls (world.waited span)

namespace Service

/-- A start writes the row of this instance and its peers. -/
def startContract : Contract where
  allows
    | .clock | .writeLocal _ _ | .writePeer _ _ _ _ => True
    | _ => False
  promises _ _ := True

theorem keeps_startContract (configuration : Configuration) :
    (start configuration).toProgram.Keeps startContract fun _ => True := by
  have writes : (writeHome (localSettings configuration)).toProgram.Keeps startContract fun _ => True :=
    Action.keeps_bind (keeps_currentTime trivial) (fun _ _ => trivial) fun _ _ =>
      .step trivial fun _ _ => .done trivial
  refine Action.keeps_bind writes (fun _ _ => trivial) fun home _ => ?_
  exact Action.keeps_bind (keeps_approveAll trivial (fun _ _ _ => trivial) _) (fun _ _ => trivial)
    fun _ _ => .done trivial

/-- A start over an empty database finds and adds no users. -/
theorem users_of_run_start_fresh {configuration : Configuration} {surroundings : Surroundings}
    {store : ShortTermStore} {now : Nat} {outcome : Option (Except Failure Service)} {after : World}
    (started : (start configuration).toProgram.run surroundings (.fresh store now) = (outcome, after)) :
    after.tables.users = [] := by
  have honoured : ∀ between : World, between.tables.users = [] →
      startContract.IsHonoured surroundings between := fun _ _ _ _ _ _ => trivial
  have same : after = ((start configuration).toProgram.run surroundings (.fresh store now)).2 := by
    rw [started]
  rw [same]
  refine ((keeps_startContract configuration).run honoured (fun between noUsers command allowed => ?_)
    rfl).1
  have becomes : between.tables.CanBecome between.issued command
      (between.carryOut surroundings command).2.tables := World.canBecome_carryOut surroundings command
  cases command with
  | clock => exact noUsers
  | writeLocal settings instant =>
    rw [World.carryOut_writeLocal] at becomes ⊢
    generalize (World.changeTables _ _ between).2.tables = changed at becomes
    cases becomes with
    | same => exact noUsers
    | home => exact (Tables.users_putLocal settings _ instant).trans noUsers
  | writePeer instanceId domain status instant =>
    rw [World.carryOut_writePeer] at becomes ⊢
    generalize (World.changeTables _ _ between).2.tables = changed at becomes
    cases becomes with
    | same => exact noUsers
    | peer written => exact (Tables.users_putPeer written).trans noUsers
  | _ => cases allowed

namespace Ran

variable {service : Service} {fits : Surroundings → Prop} {first : World} {calls : List Call} {world : World}

/-- What a service comes to is reached by it. -/
theorem isReachable (ran : service.Ran fits first calls world) (reachable : service.IsReachable first) :
    service.IsReachable world := by
  induction ran with
  | started => exact reachable
  | resolved _ _ inductionHypothesis => exact Call.isReachable_outcome inductionHypothesis
  | did _ _ chore inductionHypothesis => exact inductionHypothesis.run _ _
  | waited _ span inductionHypothesis => exact inductionHypothesis.later _ (Nat.le_add_right _ span)

/-- A resolution that was noted began at a time not later than now, in a world of the service. -/
theorem of_mem (ran : service.Ran fits first calls world) (reachable : service.IsReachable first)
    {call : Call} (isCall : call ∈ calls) :
    service.IsReachable call.world ∧ call.world.now ≤ world.now := by
  induction ran with
  | started => cases isCall
  | resolved ran suits inductionHypothesis =>
    rw [Call.now_outcome]
    rcases List.mem_cons.mp isCall with rfl | isEarlier
    · exact ⟨ran.isReachable reachable, Nat.le_refl _⟩
    · exact inductionHypothesis isEarlier
  | did _ _ chore inductionHypothesis =>
    rw [now_run]
    exact inductionHypothesis isCall
  | waited _ span inductionHypothesis =>
    obtain ⟨isReachable, le⟩ := inductionHypothesis isCall
    exact ⟨isReachable, Nat.le_trans le (Nat.le_add_right _ span)⟩

/-- What holds after a resolution holds in the end, if later resolutions, chores and waiting keep it. -/
theorem since (ran : service.Ran fits first calls world) (reachable : service.IsReachable first)
    {later earlier : List Call} {call : Call} (isCall : calls = later ++ call :: earlier)
    {motive : World → Prop} (after : motive (call.outcome service).2)
    (resolves : ∀ other ∈ later, service.IsReachable other.world → call.world.now ≤ other.world.now →
      motive other.world → motive (other.outcome service).2)
    (does : ∀ (chore : Chore) (surroundings : Surroundings) (between : World), service.IsReachable between →
      motive between → motive ((chore.program service).run surroundings between).2)
    (waits : ∀ (span : Nat) (between : World), motive between → motive (between.waited span)) :
    motive world := by
  induction ran generalizing later with
  | started => simp at isCall
  | resolved ran suits inductionHypothesis =>
    cases later with
    | nil =>
      rw [List.nil_append, List.cons.injEq] at isCall
      obtain ⟨rfl, -⟩ := isCall
      exact after
    | cons other later =>
      rw [List.cons_append, List.cons.injEq] at isCall
      obtain ⟨rfl, isCall⟩ := isCall
      have le := (ran.of_mem reachable (isCall ▸ List.mem_append_right _ List.mem_cons_self)).2
      refine resolves _ List.mem_cons_self (ran.isReachable reachable) le
        (inductionHypothesis isCall fun another isLater => ?_)
      exact resolves another (List.mem_cons_of_mem _ isLater)
  | did ran suits chore inductionHypothesis =>
    exact does chore _ _ (ran.isReachable reachable) (inductionHypothesis isCall resolves)
  | waited ran span inductionHypothesis => exact waits span _ (inductionHypothesis isCall resolves)

end Ran

end Service

end HandleFederation
