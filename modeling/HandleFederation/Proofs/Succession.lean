/-
This file says what becomes of a database over which services are started one after
another, under one domain or several. A start makes the row of its domain its own: a new
one, its own from before, or that of another instance, with the stubs that are kept there.
No row is ever given up again. So the rows of this instance are those of all the domains
under which it was ever started; there is one only if that was always the same domain,
and otherwise it is the oldest of them that is found as the row of this instance. The users of
its row are accounts, but for stubs that were there when the row was taken over.
-/

import HandleFederation.Proofs.Convergence
import HandleFederation.Proofs.History
import HandleFederation.Proofs.Start

namespace HandleFederation

open Program Resolution Text

/-! ### One service after another -/

/-- The stubs among the users of an instance: those that have an identifier of another one. -/
def Tables.stubsOf (instanceId : String) (tables : Tables) : List User :=
  tables.users.filter fun user => user.instanceId == instanceId && user.remoteUserId.isSome

/-- A service that was started, and the stubs that it found in the row that became its own. -/
structure Tenure where
  service : Service
  inherited : List User

/-- What is done between starts: no row is made one of this instance, and no stub is written without its
instance. -/
def Contract.atWork : Contract where
  allows
    | .writeLocal _ _ | .writeStub _ _ _ => False
    | _ => True
  promises _ _ := True

/-- A world over whose database services were started, the latest one first, each in place of the former
one and with a store of its own, and were at work in between in whatever order of their commands. -/
inductive World.HasHosted : List Tenure → World → Prop
  | fresh (store : ShortTermStore) (now : Nat) : HasHosted [] (.fresh store now)
  | started {tenures : List Tenure} {world after : World} {service : Service}
      (hosted : HasHosted tenures world) (store : ShortTermStore) (surroundings : Surroundings)
      (now : Timestamp)
      (wrote : { world with store := store }.carryOut surroundings
        (.writeLocal (Service.localSettings service.configuration) now) = (some (.ok service.home), after)) :
      HasHosted (⟨service, world.tables.stubsOf service.home.id⟩ :: tenures) after
  | carriedOut {latest : Tenure} {earlier : List Tenure} {world : World}
      (hosted : HasHosted (latest :: earlier) world) (surroundings : Surroundings) {command : Command}
      (allowed : Contract.atWork.allows command) :
      HasHosted (latest :: earlier) (world.carryOut surroundings command).2
  | later {tenures : List Tenure} {world : World} (hosted : HasHosted tenures world) (now : Nat)
      (le : world.now ≤ now) : HasHosted tenures { world with now := now }

/-- What a service declares about its row when it starts, and what stays true of it. -/
structure InstanceRow.IsRowOf (service : Service) (row : InstanceRow) : Prop where
  id : row.id = service.home.id
  domain : row.domain = service.domain
  isLocal : row.isLocal = true
  publicKey : row.publicKey = service.configuration.service.publicKey
  name : row.name = service.configuration.service.name
  software : row.software = softwareName service.configuration.service.version
  mode : ∃ mode : FederationMode, row.mode = mode.word

/-! ### What a service does at work -/

/-- A program that keeps a contract keeps one that allows more and promises as much. -/
theorem Program.Keeps.mono {Result : Type} {contract other : Contract} {ends : Result → Prop}
    (allows : ∀ command, contract.allows command → other.allows command)
    (promises : ∀ command reply, other.promises command reply → contract.promises command reply)
    {program : Program Result} (keeps : program.Keeps contract ends) : program.Keeps other ends := by
  induction keeps with
  | done isEnd => exact .done isEnd
  | step allowed _ inductionHypothesis =>
    exact .step (allows _ allowed) fun reply promised => inductionHypothesis reply (promises _ reply promised)

theorem Contract.allows_atWork_of_isQuiet {command : Command} (isQuiet : command.isQuiet = true) :
    atWork.allows command := by
  cases command with
  | writeLocal _ _ => cases isQuiet
  | writeStub _ _ _ => cases isQuiet
  | _ => trivial

theorem Contract.allows_atWork_of_isRemoteWrite {command : Command} (isWrite : IsRemoteWrite command) :
    atWork.allows command := by
  obtain ⟨settings, fields, now, rfl⟩ := isWrite
  trivial

theorem Contract.allows_atWork_of_ofChore {home : Instance} {command : Command}
    (allowed : (ofChore home).allows command) : atWork.allows command := by
  cases command with
  | writeLocal _ _ => exact allowed
  | writeStub _ _ _ => exact allowed
  | _ => trivial

namespace World.HasHosted

variable {world : World} {latest : Tenure} {earlier tenures : List Tenure}

/-- Whatever a program does that keeps to the work between starts belongs to that work. -/
theorem run {Result : Type} {ends : Result → Prop} (hosted : world.HasHosted (latest :: earlier))
    (surroundings : Surroundings) {program : Program Result} (keeps : program.Keeps .atWork ends) :
    (program.run surroundings world).2.HasHosted (latest :: earlier) := by
  have honoured : ∀ between : World, between.HasHosted (latest :: earlier) →
      Contract.atWork.IsHonoured surroundings between := fun _ _ _ _ _ _ => trivial
  exact (keeps.run honoured (fun _ before _ allowed => before.carriedOut surroundings allowed) hosted).1

theorem run_resolve (hosted : world.HasHosted (latest :: earlier)) (surroundings : Surroundings)
    (service : Service) (text : String) :
    ((service.resolve text).toProgram.run surroundings world).2.HasHosted (latest :: earlier) :=
  hosted.run surroundings ((writesOnce_resolve service text).keeps
    (fun _ => Contract.allows_atWork_of_isQuiet) fun _ => Contract.allows_atWork_of_isRemoteWrite)

theorem run_chore (hosted : world.HasHosted (latest :: earlier)) (surroundings : Surroundings)
    (service : Service) (chore : Chore) :
    ((chore.program service).run surroundings world).2.HasHosted (latest :: earlier) :=
  hosted.run surroundings ((Chore.keeps service chore).mono
    (fun _ => Contract.allows_atWork_of_ofChore) fun _ _ promised => promised)

end World.HasHosted

/-! ### The rows of all starts -/

/-- Tables over which services were started: the rows of this instance are those of the domains under which
that was done, each of them is still there, and its users are accounts or were inherited. -/
structure Tables.Hosts (tenures : List Tenure) (tables : Tables) : Prop where
  settled : ∀ row ∈ tables.instances, row.isLocal = true →
    ∃ tenure ∈ tenures, row.domain = tenure.service.domain
  kept : ∀ tenure ∈ tenures, tables.HasLocal tenure.service.home.id tenure.service.domain
  users : ∀ tenure ∈ tenures, ∀ user ∈ tables.users, user.instanceId = tenure.service.home.id →
    user.remoteUserId = none ∨ user ∈ tenure.inherited
  declared : ∀ tenure ∈ tenures.head?, ∃ row ∈ tables.instances, row.IsRowOf tenure.service

namespace Tables

variable {issued : Nat} {tables changed : Tables} {tenures : List Tenure}

theorem hosts_empty : empty.Hosts [] where
  settled _ isRow _ := absurd isRow List.not_mem_nil
  kept _ isTenure := absurd isTenure List.not_mem_nil
  users _ isTenure := absurd isTenure List.not_mem_nil
  declared _ isLatest := absurd isLatest (Option.not_mem_none _)

/-- A user of an instance is an account or one of its stubs. -/
theorem eq_none_or_mem_stubsOf {instanceId : String} {user : User} (isUser : user ∈ tables.users)
    (isThere : user.instanceId = instanceId) :
    user.remoteUserId = none ∨ user ∈ tables.stubsOf instanceId := by
  cases identified : user.remoteUserId with
  | none => exact Or.inl rfl
  | some remoteUserId =>
    refine Or.inr (List.mem_filter.mpr ⟨isUser, ?_⟩)
    rw [identified, Option.isSome_some, Bool.and_true]
    exact beq_iff_eq.mpr isThere

/-- Another instance that was written is not this one, and the rows of this one are what they were. -/
theorem isLocal_putRemote {settings : RemoteSettings} {id : String} {now : Timestamp} {written : InstanceRow}
    (distinct : tables.HasDistinctDomains)
    (put : tables.putRemote settings id now = .ok (written, changed)) :
    written ∈ changed.instances ∧ written.isLocal = false ∧
      ∀ row : InstanceRow, row.isLocal = true → (row ∈ changed.instances ↔ row ∈ tables.instances) := by
  unfold putRemote at put
  split at put
  · rename_i old found
    split at put
    · cases put
    · rename_i isForeign
      have isOther := Bool.eq_false_iff.mpr isForeign
      obtain ⟨isOld, named⟩ := mem_of_instanceAt? found
      have sameRow : ∀ row ∈ tables.instances, sameName row.domain settings.domain = true → row = old :=
        fun row isRow passes =>
          distinct.eq_of_nameKey_eq isRow isOld (((sameName_iff _ _).mp passes).trans named.symm)
      cases put
      refine ⟨?_, isOther, fun row isLocal => ⟨fun member => ?_, fun member => ?_⟩⟩
      · rw [distinct.changeFirst_eq settings.domain]
        exact List.mem_map.mpr ⟨old, isOld, if_pos ((sameName_iff _ _).mpr named)⟩
      · rcases mem_or_exists_of_mem_changeFirst member with before | ⟨older, isOlder, passes, rfl⟩
        · exact before
        · rw [sameRow older isOlder passes] at isLocal
          exact absurd isLocal isForeign
      · rcases mem_changeFirst_or_change_mem member with stays | ⟨passes, -⟩
        · exact stays
        · rw [sameRow row member passes] at isLocal
          exact absurd isLocal isForeign
  · cases put
    refine ⟨List.mem_append_right _ (List.mem_singleton_self _), rfl, fun row isLocal => ?_⟩
    rw [List.mem_append, List.mem_singleton]
    constructor
    · rintro (before | rfl)
      · exact before
      · cases isLocal
    · exact Or.inl

namespace Hosts

/-- Only the rows of this instance count, and the users. -/
theorem of_local (hosts : tables.Hosts tenures)
    (sameRows : ∀ row : InstanceRow, row.isLocal = true → (row ∈ changed.instances ↔ row ∈ tables.instances))
    (users : ∀ tenure ∈ tenures, ∀ user ∈ changed.users, user.instanceId = tenure.service.home.id →
      user.remoteUserId = none ∨ user ∈ tables.users) : changed.Hosts tenures where
  settled row isRow isLocal := hosts.settled row ((sameRows row isLocal).mp isRow) isLocal
  kept tenure isTenure := by
    obtain ⟨row, isRow, sameId, sameDomain, isLocal⟩ := hosts.kept tenure isTenure
    exact ⟨row, (sameRows row isLocal).mpr isRow, sameId, sameDomain, isLocal⟩
  users tenure isTenure user isUser isThere := by
    rcases users tenure isTenure user isUser isThere with isAccount | wasUser
    · exact Or.inl isAccount
    · exact hosts.users tenure isTenure user wasUser isThere
  declared tenure isLatest := by
    obtain ⟨row, isRow, isRowOf⟩ := hosts.declared tenure isLatest
    exact ⟨row, (sameRows row isRowOf.isLocal).mpr isRow, isRowOf⟩

theorem of_instances (hosts : tables.Hosts tenures) (same : changed.instances = tables.instances)
    (users : ∀ tenure ∈ tenures, ∀ user ∈ changed.users, user.instanceId = tenure.service.home.id →
      user.remoteUserId = none ∨ user ∈ tables.users) : changed.Hosts tenures :=
  hosts.of_local (fun row _ => by rw [same]) users

/-- Another mode leaves a row what it is. -/
theorem putMode (hosts : tables.Hosts tenures) (instanceId : String) (mode : FederationMode) :
    (tables.putMode instanceId mode.word).2.Hosts tenures where
  settled row isRow isLocal := by
    rcases mem_or_exists_of_mem_changeFirst isRow with before | ⟨old, isOld, -, rfl⟩
    · exact hosts.settled row before isLocal
    · exact hosts.settled old isOld isLocal
  kept tenure isTenure := by
    have becomes : tables.CanBecome 0 (.writeMode instanceId mode)
        (tables.putMode instanceId mode.word).2 := .mode instanceId mode
    exact (hosts.kept tenure isTenure).canBecome becomes
  users := hosts.users
  declared tenure isLatest := by
    obtain ⟨row, isRow, isRowOf⟩ := hosts.declared tenure isLatest
    rcases mem_changeFirst_or_change_mem isRow with stays | ⟨-, moved⟩
    · exact ⟨row, stays, isRowOf⟩
    · exact ⟨_, moved, { isRowOf with mode := ⟨mode, rfl⟩ }⟩

/-- No write that is allowed at work touches a row of this instance but in its mode, or adds users to it
that are no accounts. -/
theorem canBecome (hosts : tables.Hosts tenures) (sound : tables.IsSound issued)
    (distinct : tables.HasDistinctDomains) {command : Command} (allowed : Contract.atWork.allows command)
    (becomes : tables.CanBecome issued command changed) : changed.Hosts tenures := by
  have keeps : ∀ {changed : Tables}, changed.users = tables.users → ∀ tenure ∈ tenures,
      ∀ user ∈ changed.users, user.instanceId = tenure.service.home.id →
      user.remoteUserId = none ∨ user ∈ tables.users :=
    fun same _ _ user isUser _ => Or.inr (same ▸ isUser)
  cases becomes with
  | same command => exact hosts
  | home settings now => cases allowed
  | remote written =>
    exact hosts.of_local (isLocal_putRemote distinct written).2.2 (keeps (users_putRemote written).1)
  | mode instanceId mode => exact hosts.putMode instanceId mode
  | peer written => exact hosts.of_instances (instances_putPeer written) (keeps (users_putPeer written))
  | account written =>
    refine hosts.of_instances (instances_register written) fun tenure _ user isUser _ => ?_
    unfold register at written
    split at written
    · cases written
    · split at written
      · cases written
        rcases List.mem_append.mp isUser with before | added
        · exact Or.inr before
        · rw [List.mem_singleton.mp added]
          exact Or.inl rfl
      · cases written
  | stub written => cases allowed
  | remoteUser written =>
    unfold putRemoteUser at written
    split at written
    · cases written
    · rename_i row between first
      obtain ⟨isRow, isOther, sameRows⟩ := isLocal_putRemote distinct first
      have soundBetween := (sound.putRemote first).1
      rw [← instances_putStub written] at isRow
      refine hosts.of_local (fun row isLocal => ?_) fun tenure isTenure user isUser isThere => ?_
      · rw [instances_putStub written]
        exact sameRows row isLocal
      · rcases mem_of_mem_putStub written isUser with before | ⟨atRow, -, -⟩
        · rw [← (users_putRemote first).1]
          exact Or.inr (List.mem_filter.mp before).1
        · obtain ⟨homeRow, isHome, sameId, -, isLocal⟩ := hosts.kept tenure isTenure
          have isHomeThen := (sameRows homeRow isLocal).mpr isHome
          rw [instances_putStub written] at isRow
          have same : homeRow = row := List.inj_on_of_nodup_map soundBetween.instancesDistinct isHomeThen
            isRow (sameId.trans (isThere.symm.trans atRow))
          rw [same, isOther] at isLocal
          cases isLocal

/-- A start makes the row of its domain one of this instance, whatever row that is. -/
theorem putLocal (hosts : tables.Hosts tenures) {settings : LocalSettings} {now : Timestamp}
    {service : Service}
    (distinctThen : (tables.putLocal settings (identifier issued) now).2.HasDistinctDomains)
    (isRowOf : (tables.putLocal settings (identifier issued) now).1.IsRowOf service) :
    (tables.putLocal settings (identifier issued) now).2.Hosts
      (⟨service, tables.stubsOf service.home.id⟩ :: tenures) := by
  have isNamed := (address_putLocal tables settings (identifier issued) now).2
  have isThere := mem_putLocal tables settings (identifier issued) now
  have becomes : ∀ row ∈ (tables.putLocal settings (identifier issued) now).2.instances,
      row ∈ tables.instances ∨ nameKey row.domain = nameKey settings.domain := by
    intro row isRow
    unfold Tables.putLocal at isRow
    split at isRow
    · rcases mem_or_exists_of_mem_changeFirst isRow with before | ⟨old, isOld, passes, rfl⟩
      · exact Or.inl before
      · exact Or.inr ((sameName_iff _ _).mp passes)
    · rcases List.mem_append.mp isRow with before | added
      · exact Or.inl before
      · rw [List.mem_singleton.mp added]
        exact Or.inr (nameKey_lower settings.domain)
  have sameUsers : (tables.putLocal settings (identifier issued) now).2.users = tables.users :=
    users_putLocal settings (identifier issued) now
  refine ⟨fun row isRow isLocal => ?_, List.forall_mem_cons.mpr ⟨?_, fun tenure isTenure => ?_⟩,
    List.forall_mem_cons.mpr ⟨fun user isUser atHome => ?_, fun tenure isTenure user isUser atHome => ?_⟩,
    fun tenure isLatest => ?_⟩
  · rcases becomes row isRow with before | named
    · obtain ⟨tenure, isTenure, sameDomain⟩ := hosts.settled row before isLocal
      exact ⟨tenure, List.mem_cons_of_mem _ isTenure, sameDomain⟩
    · rw [distinctThen.eq_of_nameKey_eq isRow isThere (named.trans isNamed.symm)]
      exact ⟨_, List.mem_cons_self, isRowOf.domain⟩
  · exact ⟨_, isThere, isRowOf.id, isRowOf.domain, isRowOf.isLocal⟩
  · exact (hosts.kept tenure isTenure).canBecome (.home settings now)
  · rw [sameUsers] at isUser
    exact eq_none_or_mem_stubsOf isUser atHome
  · rw [sameUsers] at isUser
    exact hosts.users tenure isTenure user isUser atHome
  · rw [List.head?_cons, Option.mem_some_iff] at isLatest
    obtain rfl := isLatest
    exact ⟨_, isThere, isRowOf⟩

end Hosts

end Tables

/-- What a start knows about its row is what it wrote. -/
theorem isRowOf_putLocal {tables : Tables} {id : String} {now : Timestamp} {service : Service}
    (isHome : { (tables.putLocal (Service.localSettings service.configuration) id now).1 with
      mode := (Service.localSettings service.configuration).mode } = service.home) :
    (tables.putLocal (Service.localSettings service.configuration) id now).1.IsRowOf service := by
  have sameId := congrArg InstanceRecord.id isHome
  have sameDomain := congrArg InstanceRecord.domain isHome
  suffices declared : ∀ row : InstanceRow, row =
      (tables.putLocal (Service.localSettings service.configuration) id now).1 →
      row.isLocal = true ∧ row.publicKey = service.configuration.service.publicKey ∧
      row.name = service.configuration.service.name ∧
      row.software = softwareName service.configuration.service.version ∧
      row.mode = service.configuration.federation.mode.word by
    obtain ⟨isLocal, publicKey, name, software, mode⟩ := declared _ rfl
    exact ⟨sameId, sameDomain, isLocal, publicKey, name, software, _, mode⟩
  rintro row rfl
  unfold Tables.putLocal
  split <;> exact ⟨rfl, rfl, rfl, rfl, rfl⟩

namespace World.HasHosted

variable {world : World} {tenures : List Tenure}

/-- What holds of every world over whose database services were started. -/
theorem invariant (hosted : world.HasHosted tenures) :
    world.IsSound ∧ world.tables.HasDistinctDomains ∧ world.tables.Hosts tenures := by
  induction hosted with
  | fresh store now =>
    have reachable : (World.fresh store now).IsReachable := .fresh store now
    exact ⟨reachable.isSound, reachable.hasDistinctDomains, Tables.hosts_empty⟩
  | @started tenures world after service _ store surroundings now wrote inductionHypothesis =>
    obtain ⟨sound, distinct, hosts⟩ := inductionHypothesis
    have soundHere : IsSound { world with store := store } := ⟨sound.isOpen, sound.tables⟩
    have soundThen := isSound_carryOut soundHere surroundings
      (.writeLocal (Service.localSettings service.configuration) now)
    rw [wrote] at soundThen
    rw [carryOut_writeLocal_of_isSound soundHere, Prod.mk.injEq, Option.some_inj, Except.ok.injEq] at wrote
    obtain ⟨isHome, rfl⟩ := wrote
    have becomes : world.tables.CanBecome world.issued _ _ :=
      .home (Service.localSettings service.configuration) now
    have distinctThen := distinct.canBecome becomes
    exact ⟨soundThen, distinctThen, hosts.putLocal distinctThen (isRowOf_putLocal isHome)⟩
  | @carriedOut latest earlier world _ surroundings command allowed inductionHypothesis =>
    obtain ⟨sound, distinct, hosts⟩ := inductionHypothesis
    have becomes : world.tables.CanBecome world.issued command
        (world.carryOut surroundings command).2.tables := canBecome_carryOut surroundings command
    exact ⟨isSound_carryOut sound surroundings command, distinct.canBecome becomes,
      hosts.canBecome sound.tables distinct allowed becomes⟩
  | later _ now le inductionHypothesis =>
    obtain ⟨sound, distinct, hosts⟩ := inductionHypothesis
    exact ⟨⟨sound.isOpen, sound.tables⟩, distinct, hosts⟩

/-- A start succeeds over any database over which services were started, and its service takes over. -/
theorem run_start (hosted : world.HasHosted tenures) (store : ShortTermStore) (surroundings : Surroundings)
    (configuration : Configuration) :
    ∃ service after, (Service.start configuration).toProgram.run surroundings { world with store := store } =
        (some (.ok service), after) ∧
      service.configuration = configuration ∧
      after.HasHosted (⟨service, world.tables.stubsOf service.home.id⟩ :: tenures) := by
  have sound := hosted.invariant.1
  have soundHere : IsSound { world with store := store } := ⟨sound.isOpen, sound.tables⟩
  obtain ⟨home, between, after, wrote, run, holds⟩ := soundHere.run_start surroundings configuration
  refine ⟨_, after, run, rfl, ?_⟩
  refine holds (fun _ world => world.HasHosted _) ?_ fun _ before domain peer after hostedBefore carried => ?_
  · have hostedThen : between.HasHosted (⟨⟨configuration, home⟩, world.tables.stubsOf home.id⟩ :: tenures) :=
      hosted.started store surroundings _ wrote
    exact hostedThen
  · have allowed : Contract.atWork.allows (.writePeer home.id domain .active before.time) := trivial
    have later := hostedBefore.carriedOut surroundings allowed
    rwa [carried] at later

/-- Before the first start the tables are empty. -/
theorem users_of_nil (hosted : world.HasHosted []) : world.tables.users = [] := by
  generalize same : ([] : List Tenure) = tenures at hosted
  induction hosted with
  | fresh store now => rfl
  | started => cases same
  | carriedOut => cases same
  | later _ now le inductionHypothesis => exact inductionHypothesis same

/-- Starts under one domain are about one row. -/
theorem id_eq_of_domain_eq (hosted : world.HasHosted tenures) {tenure other : Tenure}
    (isTenure : tenure ∈ tenures) (isOther : other ∈ tenures)
    (sameDomain : tenure.service.domain = other.service.domain) :
    tenure.service.home.id = other.service.home.id := by
  obtain ⟨-, distinct, hosts⟩ := hosted.invariant
  obtain ⟨row, isRow, sameId, isDomain, -⟩ := hosts.kept tenure isTenure
  obtain ⟨otherRow, isOtherRow, otherId, otherDomain, -⟩ := hosts.kept other isOther
  have sameRow : row = otherRow := by
    refine distinct.eq_of_nameKey_eq isRow isOtherRow ?_
    rw [isDomain, otherDomain, sameDomain]
  rw [← sameId, ← otherId, sameRow]

/-- Where all starts were under one domain, none of them has found stubs in its row. -/
theorem inherited_eq_nil (hosted : world.HasHosted tenures) {domain : String}
    (sameDomain : ∀ tenure ∈ tenures, tenure.service.domain = domain) :
    ∀ tenure ∈ tenures, tenure.inherited = [] := by
  induction hosted with
  | fresh store now => exact fun _ isTenure => absurd isTenure List.not_mem_nil
  | @started tenures world after service hosted store surroundings now wrote inductionHypothesis =>
    obtain ⟨isDomain, before⟩ := List.forall_mem_cons.mp sameDomain
    refine List.forall_mem_cons.mpr ⟨?_, inductionHypothesis before⟩
    refine List.filter_eq_nil_iff.mpr fun user isUser isStub => ?_
    rw [Bool.and_eq_true, beq_iff_eq, Option.isSome_iff_ne_none] at isStub
    cases tenures with
    | nil =>
      rw [hosted.users_of_nil] at isUser
      cases isUser
    | cons latest earlier =>
      have hostedThen := hosted.started store surroundings now wrote
      have sameId : service.home.id = latest.service.home.id :=
        hostedThen.id_eq_of_domain_eq List.mem_cons_self (List.mem_cons_of_mem _ List.mem_cons_self)
          (isDomain.trans (before latest List.mem_cons_self).symm)
      rcases hosted.invariant.2.2.users latest List.mem_cons_self user isUser (isStub.1.trans sameId) with
        isAccount | isInherited
      · exact isStub.2 isAccount
      · rw [inductionHypothesis before latest List.mem_cons_self] at isInherited
        cases isInherited
  | carriedOut _ _ _ inductionHypothesis => exact inductionHypothesis sameDomain
  | later _ _ _ inductionHypothesis => exact inductionHypothesis sameDomain

/-- The domain of a service and the one in its settings are names of one row. -/
theorem nameKey_domain (hosted : world.HasHosted tenures) : ∀ tenure ∈ tenures,
    nameKey tenure.service.domain = nameKey tenure.service.configuration.service.domain := by
  induction hosted with
  | fresh store now => exact fun _ isTenure => absurd isTenure List.not_mem_nil
  | @started tenures world after service hosted store surroundings now wrote inductionHypothesis =>
    exact List.forall_mem_cons.mpr ⟨(Service.address_of_writeLocal wrote).2, inductionHypothesis⟩
  | carriedOut _ _ _ inductionHypothesis => exact inductionHypothesis
  | later _ _ _ inductionHypothesis => exact inductionHypothesis

/-- An account that is found is a user of the row of the service. -/
theorem of_run_findAccount {service : Service} {surroundings : Surroundings} {username : String} {user : User}
    {after : World} (found : (service.findAccount username).toProgram.run surroundings world =
      (some (.ok (some user)), after)) :
    user ∈ world.tables.users ∧ user.instanceId = service.home.id := by
  simp only [Service.findAccount, Action.toProgram_ofProgram, perform, run_step, carryOut, run_done,
    Prod.mk.injEq, Option.some_inj, readTables] at found
  split at found
  · have isFound := List.find?_some (Except.ok.inj found.1)
    have isThere := congrArg Prod.fst ((isUser_iff_place _ _ _).mp isFound)
    exact ⟨List.mem_of_find?_eq_some (Except.ok.inj found.1), isThere⟩
  · cases found.1

/-- Whose rows there are after any number of starts under any domains, and whatever was done in between.
The rows of this instance are those of all the domains, and one of them is that of the latest settings.
Its users are accounts, but for those that every start under its domain has found there as stubs. Only
where that was the domain of all starts, there is no other row of this instance, it is found as such,
and no stub is ever found as an account. -/
theorem homes {latest : Tenure} {earlier : List Tenure} (hosted : world.HasHosted (latest :: earlier))
    (surroundings : Surroundings) :
    (∀ row ∈ world.tables.instances, row.isLocal = true ↔
      ∃ tenure ∈ latest :: earlier, row.domain = tenure.service.domain) ∧
    (∃ row : InstanceRow, row.IsRowOf latest.service ∧ world.tables.instances.filter
      (fun row => sameName row.domain latest.service.configuration.service.domain) = [row]) ∧
    (∀ username user after, (latest.service.findAccount username).toProgram.run surroundings world =
      (some (.ok (some user)), after) → user.remoteUserId = none ∨
        ∀ tenure ∈ latest :: earlier, tenure.service.domain = latest.service.domain →
          user ∈ tenure.inherited) ∧
    ((∀ tenure ∈ earlier, tenure.service.domain = latest.service.domain) →
      (∃ (row : InstanceRow) (mode : FederationMode), row.IsRowOf latest.service ∧ row.mode = mode.word ∧
        world.tables.instances.filter InstanceRecord.isLocal = [row] ∧
        (perform .readLocal).run surroundings world = (some (.ok { row with mode := mode }), world)) ∧
      (∀ user ∈ world.tables.users, user.instanceId = latest.service.home.id → user.remoteUserId = none) ∧
      ∀ username user after, (latest.service.findAccount username).toProgram.run surroundings world =
        (some (.ok (some user)), after) → user.remoteUserId = none) := by
  obtain ⟨sound, distinct, hosts⟩ := hosted.invariant
  obtain ⟨row, isRow, isRowOf⟩ := hosts.declared latest rfl
  have accounts : ∀ user ∈ world.tables.users, user.instanceId = latest.service.home.id →
      user.remoteUserId = none ∨ ∀ tenure ∈ latest :: earlier,
        tenure.service.domain = latest.service.domain → user ∈ tenure.inherited := by
    intro user isUser isThere
    by_cases isAccount : user.remoteUserId = none
    · exact Or.inl isAccount
    · refine Or.inr fun tenure isTenure sameDomain => ?_
      have sameId := hosted.id_eq_of_domain_eq isTenure List.mem_cons_self sameDomain
      exact (hosts.users tenure isTenure user isUser (isThere.trans sameId.symm)).resolve_left isAccount
  have locals : ∀ row ∈ world.tables.instances, row.isLocal = true ↔
      ∃ tenure ∈ latest :: earlier, row.domain = tenure.service.domain := by
    refine fun row isRow => ⟨hosts.settled row isRow, fun ⟨tenure, isTenure, sameDomain⟩ => ?_⟩
    obtain ⟨home, isHome, -, homeDomain, isLocal⟩ := hosts.kept tenure isTenure
    rw [distinct.eq_of_nameKey_eq isRow isHome (by rw [sameDomain, homeDomain])]
    exact isLocal
  refine ⟨locals, ⟨row, isRowOf, distinct.filter_eq_singleton sound.tables isRow ?_⟩,
    fun username user after found => ?_, fun sameDomain => ?_⟩
  · rw [isRowOf.domain, hosted.nameKey_domain latest List.mem_cons_self]
  · obtain ⟨isUser, isThere⟩ := of_run_findAccount found
    exact accounts user isUser isThere
  · have sameDomains : ∀ tenure ∈ latest :: earlier, tenure.service.domain = latest.service.domain :=
      List.forall_mem_cons.mpr ⟨rfl, sameDomain⟩
    have noStubs := hosted.inherited_eq_nil sameDomains latest List.mem_cons_self
    have allAccounts : ∀ user ∈ world.tables.users, user.instanceId = latest.service.home.id →
        user.remoteUserId = none := by
      intro user isUser isThere
      refine (accounts user isUser isThere).resolve_right fun isInherited => ?_
      have isStub := isInherited latest List.mem_cons_self rfl
      rw [noStubs] at isStub
      cases isStub
    have alone : world.tables.instances.filter InstanceRecord.isLocal = [row] := by
      refine Tables.filter_eq_singleton (sound.tables.instancesDistinct.of_map _) isRow isRowOf.isLocal
        fun other isOther isLocal => ?_
      obtain ⟨tenure, isTenure, otherDomain⟩ := hosts.settled other isOther isLocal
      refine distinct.eq_of_nameKey_eq isOther isRow ?_
      rw [otherDomain, sameDomains tenure isTenure, isRowOf.domain]
    obtain ⟨mode, isMode⟩ := isRowOf.mode
    refine ⟨⟨row, mode, isRowOf, isMode, alone, ?_⟩, allAccounts, fun username user after found => ?_⟩
    · have isFirst : world.tables.localInstance? = some row := by
        rw [Tables.localInstance?, ← List.head?_filter, alone]
        rfl
      have answer : world.readTables localOf = .ok { row with mode := mode } := by
        rw [readTables, if_pos sound.isOpen, localOf, isFirst]
        exact readRow_of_mode_eq isMode
      rw [perform, run_step, carryOut, answer]
      rfl
    · obtain ⟨isUser, isThere⟩ := of_run_findAccount found
      exact allAccounts user isUser isThere

end World.HasHosted

/-! ### Sites that were started again -/

namespace Site

/-- The first service of a site has found nothing. -/
theorem hasHosted_atStart (configuration : Configuration) (surroundings : Surroundings)
    (store : ShortTermStore) (now : Nat) :
    (atStart configuration surroundings store now).world.HasHosted
      [⟨(atStart configuration surroundings store now).service, []⟩] := by
  let service := (atStart configuration surroundings store now).service
  have hosted : (atStart configuration surroundings store now).world.HasHosted
      [⟨service, (World.fresh store now).tables.stubsOf service.home.id⟩] :=
    (World.HasHosted.fresh store now).started store surroundings (Timestamp.ofNanoseconds now)
      (carryOut_writeLocal_fresh configuration surroundings store now)
  have noStubs : (World.fresh store now).tables.stubsOf service.home.id = [] := rfl
  rwa [noStubs] at hosted

/-- A service that was started in place of the former one takes over. -/
theorem hasHosted_restarted {site : Site} {tenures : List Tenure} (hosted : site.world.HasHosted tenures)
    (configuration : Configuration) :
    (site.restarted configuration).world.HasHosted
      (⟨(site.restarted configuration).service,
        site.world.tables.stubsOf (site.restarted configuration).service.home.id⟩ :: tenures) :=
  hosted.started site.world.store site.surroundings site.world.time
    (World.carryOut_writeLocal_of_isSound hosted.invariant.1 site.surroundings _ _)

/-- A site that was started again under its domain in another spelling. -/
def respelled : Site :=
  empty.restarted (.plain "HOME.example")

/-- That site still has one row, which is found as its own. -/
theorem home_of_respelled :
    ∃ latest first : Tenure, respelled.world.HasHosted [latest, first] ∧ latest.service = respelled.service ∧
      first.service = empty.service ∧
      ∃ (row : InstanceRow) (mode : FederationMode), row.IsRowOf respelled.service ∧
        respelled.world.tables.instances.filter InstanceRecord.isLocal = [row] ∧
        (perform .readLocal).run .silent respelled.world =
          (some (.ok { row with mode := mode }), respelled.world) := by
  have hosted : respelled.world.HasHosted
      [⟨respelled.service, empty.world.tables.stubsOf respelled.service.home.id⟩, ⟨empty.service, []⟩] := by
    have first : empty.world.HasHosted [⟨empty.service, []⟩] := hasHosted_atStart _ _ _ _
    rw [respelled]
    exact hasHosted_restarted first (.plain "HOME.example")
  have sameDomain : empty.service.domain = respelled.service.domain := by decide +kernel
  generalize isLatest : (⟨respelled.service, _⟩ : Tenure) = latest at hosted
  have sameService : latest.service = respelled.service := by rw [← isLatest]
  rw [← sameService] at sameDomain
  obtain ⟨-, -, -, always⟩ := World.HasHosted.homes hosted .silent
  obtain ⟨⟨row, mode, isRowOf, -, alone, found⟩, -⟩ :=
    always (List.forall_mem_cons.mpr ⟨sameDomain, fun _ isTenure => absurd isTenure List.not_mem_nil⟩)
  exact ⟨latest, _, hosted, sameService, rfl, row, mode, sameService ▸ isRowOf, alone, found⟩

/-- A service that was started under the domain of another instance finds the stubs of that instance as its
accounts. -/
theorem run_findAccount_restarted {site : Site} (isOpen : site.world.isDatabaseOpen = true)
    {configuration : Configuration} {username : String} {user : User}
    (isStub : site.world.tables.stub? username configuration.service.domain = some user)
    (surroundings : Surroundings) :
    ((site.restarted configuration).service.findAccount username).toProgram.run surroundings
        (site.restarted configuration).world =
      (some (.ok (some user)), (site.restarted configuration).world) := by
  unfold Tables.stub? at isStub
  split at isStub
  · rename_i row found
    split at isStub
    · cases isStub
    · have sameId : (site.restarted configuration).service.home.id = row.id := by
        rw [restarted, Tables.putLocal, Service.localSettings, found]
        rfl
      have sameUsers : (site.restarted configuration).world.tables.users = site.world.tables.users :=
        Tables.users_putLocal _ _ _
      have isFound : (site.restarted configuration).world.tables.user?
          (site.restarted configuration).service.home.id username = some user := by
        rw [Tables.user?, sameUsers, sameId]
        exact isStub
      have stillOpen : (site.restarted configuration).world.isDatabaseOpen = true := isOpen
      simp only [Service.findAccount, Action.toProgram_ofProgram, perform, run_step, World.carryOut, run_done,
        World.readTables, stillOpen, if_true, isFound]
  · cases isStub

/-- A site that was started under another domain has two rows, and the one that is found as its own is the
former one. One that was started under the domain of an instance whose user it has cached finds the
profile as an account. -/
theorem homes_left_behind :
    (∃ latest first : Tenure, Query.movedSite.world.HasHosted [latest, first] ∧
      latest.service = Query.movedSite.service ∧ latest.service.domain = "home.example" ∧
      (Query.movedSite.world.tables.instances.filter InstanceRecord.isLocal).length = 2 ∧
      ∃ record, (perform .readLocal).run .silent Query.movedSite.world =
        (some (.ok record), Query.movedSite.world) ∧ record.domain = "other.example") ∧
    ∃ (latest first : Tenure) (world : World) (user : User), world.HasHosted [latest, first] ∧
      latest.service.configuration.service.domain = "other.example" ∧
      (latest.service.findAccount "alice").toProgram.run .silent world = (some (.ok (some user)), world) ∧
      user.remoteUserId ≠ none := by
  constructor
  · have hosted : Query.movedSite.world.HasHosted
        [⟨Query.movedSite.service,
          Query.ownSite.world.tables.stubsOf Query.movedSite.service.home.id⟩, ⟨Query.ownSite.service, []⟩] :=
      hasHosted_restarted (hasHosted_atStart _ _ _ _) (.plain "home.example")
    exact ⟨_, _, hosted, rfl, by decide, by decide, _, rfl, by decide⟩
  · have reads : (Handle.read "alice@other.example").username = "alice" := by decide
    have reachable : elsewhere.IsReachable := isReachable_atStart _ _ _ _
    have hosted : elsewhere.world.HasHosted [⟨elsewhere.service, []⟩] := hasHosted_atStart _ _ _ _
    obtain ⟨user, answer⟩ := exists_resolve_answered
    obtain ⟨_, profile, _, -, takenIn⟩ := exists_hasTakenIn reachable answer rfl
    rcases account_or_stub_of_answer reachable answer with ⟨-, -, isAccount, -⟩ | ⟨-, -, -, isStub, -⟩
    · cases (user?_of_accountAnswer isAccount).2.2
    · rw [reads] at isStub
      have identified : user.remoteUserId ≠ none := by
        rw [takenIn.carries.2.remoteUserId]
        exact nofun
      have hostedThen : (elsewhere.resolve "alice@other.example").2.HasHosted [⟨elsewhere.service, []⟩] :=
        hosted.run_resolve elsewhere.surroundings elsewhere.service "alice@other.example"
      obtain ⟨site, sameWorld⟩ : ∃ site : Site, site.world = (elsewhere.resolve "alice@other.example").2 :=
        ⟨⟨elsewhere.service, .silent, _⟩, rfl⟩
      rw [← sameWorld] at isStub hostedThen
      have place : (Configuration.plain "other.example").service.domain = "other.example" := rfl
      dsimp only at isStub
      have isAccount : ((site.restarted (.plain "other.example")).service.findAccount "alice").toProgram.run
          .silent (site.restarted (.plain "other.example")).world =
          (some (.ok (some user)), (site.restarted (.plain "other.example")).world) :=
        run_findAccount_restarted hostedThen.invariant.1.isOpen (place ▸ isStub) .silent
      exact ⟨_, _, _, user, hasHosted_restarted hostedThen (.plain "other.example"), rfl, isAccount, identified⟩

end Site

end HandleFederation
