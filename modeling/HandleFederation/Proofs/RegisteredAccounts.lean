/-
This file says which accounts there are at an instance: those that its services have
registered, and no others. A registration that succeeds adds one user as it was asked for,
and nothing that is done besides adds a user without an identifier of another instance, or
touches the users of a row of this one. So the accounts that were registered are all there,
as they were registered, and who is not among them is not found, unless the row was taken
over with the stubs of another instance.
-/

import HandleFederation.Proofs.ServedQuery
import HandleFederation.Proofs.Succession

namespace HandleFederation

open Program Resolution Text

/-! ### Registrations -/

/-- A user is an account as it is registered, under a valid username and at a time that is no leap second. -/
structure User.IsAccount (user : User) : Prop where
  noRemoteId : user.remoteUserId = none
  noAvatar : user.avatarId = none
  noBio : user.bio = none
  validUsername : Username.validate user.username = .ok ()
  notLeap : user.createdAt.nanoseconds < Timestamp.perSecond

theorem Timestamp.nanoseconds_ofNanoseconds_lt (nanoseconds : Int) :
    (ofNanoseconds nanoseconds).nanoseconds < perSecond := by
  have isRest : nanoseconds.fmod perSecond < perSecond := Int.fmod_lt_of_pos nanoseconds (by decide)
  have notNegative : 0 ≤ nanoseconds.fmod perSecond := Int.fmod_nonneg_of_pos nanoseconds (by decide)
  rw [ofNanoseconds]
  dsimp only
  omega

namespace Service

variable {service : Service} {world after : World} {surroundings : Surroundings} {username : String}
  {displayName : Option String}

/-- A registration checks the username and writes the account at once. -/
theorem run_register (service : Service) (surroundings : Surroundings) (username : String)
    (displayName : Option String) (world : World) :
    (service.register username displayName).toProgram.run surroundings world =
      match Username.validate username with
      | .error failure => (some (.error failure), world)
      | .ok () => world.carryOut surroundings
        (.writeAccount service.home.id username displayName world.time) := by
  simp only [register, addUser, currentTime, Action.toProgram_bind, Action.toProgram_ofExcept, done_andThen]
  cases Username.validate username with
  | error failure => rfl
  | ok _ =>
    simp only [Action.toProgram_ofProgram, bind_eq_andThen, perform, step_andThen,
      done_andThen, pure_eq_done, run_step, World.carryOut_clock]
    rcases world.carryOut surroundings (.writeAccount service.home.id username displayName world.time) with
      ⟨_ | reply, after⟩
    · rfl
    · rfl

/-- A registration that succeeds adds the account that was asked for to the users. -/
theorem run_register_eq_ok {user : User}
    (ran : (service.register username displayName).toProgram.run surroundings world =
      (some (.ok user), after)) :
    user = ⟨identifier world.issued, service.home.id, none, username, displayName, none, none, world.time,
      world.time⟩ ∧ user.IsAccount ∧ after.tables.users = world.tables.users ++ [user] := by
  rw [run_register] at ran
  split at ran
  · cases ran
  · rename_i isValid
    rw [World.carryOut_writeAccount, Prod.mk.injEq, Option.some_inj] at ran
    obtain ⟨tables, written, rfl⟩ := World.changeTables_eq_ok (Prod.ext ran.1 ran.2)
    unfold Tables.register at written
    split at written
    · cases written
    · split at written
      · cases written
        exact ⟨rfl, ⟨rfl, rfl, rfl, isValid, Timestamp.nanoseconds_ofNanoseconds_lt _⟩, rfl⟩
      · cases written

/-- One that fails leaves the tables as they are. -/
theorem run_register_eq_error {failure : Failure}
    (ran : (service.register username displayName).toProgram.run surroundings world =
      (some (.error failure), after)) : after.tables = world.tables := by
  rw [run_register] at ran
  split at ran
  · cases ran
    rfl
  · rw [World.carryOut_writeAccount, Prod.mk.injEq, Option.some_inj] at ran
    obtain ⟨failed, rfl⟩ := ran
    unfold World.changeTables at failed ⊢
    split
    · rename_i isOpen
      rw [if_pos isOpen] at failed
      dsimp only at failed ⊢
      split at failed
      · cases failed
      · rfl
    · rfl

end Service

/-! ### Starts and registrations -/

/-- What is done between starts besides registering: no account is added. -/
def Contract.besidesAccounts : Contract where
  allows
    | .writeAccount _ _ _ _ => False
    | command => atWork.allows command
  promises _ _ := True

theorem Contract.allows_atWork_of_besidesAccounts {command : Command}
    (allowed : besidesAccounts.allows command) : atWork.allows command := by
  cases command with
  | writeAccount _ _ _ _ => trivial
  | _ => exact allowed

/-- A world over whose database services were started one after another, and the accounts that they have
registered there so far, the latest one first. -/
inductive World.HasRegistered : List Tenure → List User → World → Prop
  | fresh (store : ShortTermStore) (now : Nat) : HasRegistered [] [] (.fresh store now)
  | started {tenures : List Tenure} {accounts : List User} {world after : World} {service : Service}
      (registered : HasRegistered tenures accounts world) (store : ShortTermStore)
      (surroundings : Surroundings) (now : Timestamp)
      (wrote : { world with store := store }.carryOut surroundings
        (.writeLocal (Service.localSettings service.configuration) now) = (some (.ok service.home), after)) :
      HasRegistered (⟨service, world.tables.stubsOf service.home.id⟩ :: tenures) accounts after
  | accepted {latest : Tenure} {earlier : List Tenure} {accounts : List User} {world after : World}
      {user : User} (registered : HasRegistered (latest :: earlier) accounts world)
      (surroundings : Surroundings) (username : String) (displayName : Option String)
      (ran : (latest.service.register username displayName).toProgram.run surroundings world =
        (some (.ok user), after)) : HasRegistered (latest :: earlier) (user :: accounts) after
  | refused {latest : Tenure} {earlier : List Tenure} {accounts : List User} {world after : World}
      {failure : Failure} (registered : HasRegistered (latest :: earlier) accounts world)
      (surroundings : Surroundings) (username : String) (displayName : Option String)
      (ran : (latest.service.register username displayName).toProgram.run surroundings world =
        (some (.error failure), after)) : HasRegistered (latest :: earlier) accounts after
  | carriedOut {latest : Tenure} {earlier : List Tenure} {accounts : List User} {world : World}
      (registered : HasRegistered (latest :: earlier) accounts world) (surroundings : Surroundings)
      {command : Command} (allowed : Contract.besidesAccounts.allows command) :
      HasRegistered (latest :: earlier) accounts (world.carryOut surroundings command).2
  | later {tenures : List Tenure} {accounts : List User} {world : World}
      (registered : HasRegistered tenures accounts world) (now : Nat) (le : world.now ≤ now) :
      HasRegistered tenures accounts { world with now := now }

namespace World.HasRegistered

variable {world : World} {latest : Tenure} {earlier tenures : List Tenure} {accounts : List User}

/-- Registering belongs to the work between starts. -/
theorem hosted (registered : world.HasRegistered tenures accounts) : world.HasHosted tenures := by
  have registering : ∀ {latest : Tenure} {earlier : List Tenure} {world after : World} {username : String}
      {displayName : Option String} {surroundings : Surroundings} {result : Option (Except Failure User)},
      world.HasHosted (latest :: earlier) →
      (latest.service.register username displayName).toProgram.run surroundings world = (result, after) →
      after.HasHosted (latest :: earlier) := by
    intro latest earlier world after username displayName surroundings result hosted ran
    have keeps : (latest.service.register username displayName).toProgram.Keeps .atWork fun _ => True :=
      Service.keeps_register trivial fun _ => trivial
    have later := hosted.run surroundings keeps
    rwa [ran] at later
  induction registered with
  | fresh store now => exact .fresh store now
  | started _ store surroundings now wrote inductionHypothesis =>
    exact inductionHypothesis.started store surroundings now wrote
  | accepted _ _ _ _ ran inductionHypothesis => exact registering inductionHypothesis ran
  | refused _ _ _ _ ran inductionHypothesis => exact registering inductionHypothesis ran
  | carriedOut _ surroundings allowed inductionHypothesis =>
    exact inductionHypothesis.carriedOut surroundings (Contract.allows_atWork_of_besidesAccounts allowed)
  | later _ now le inductionHypothesis => exact inductionHypothesis.later now le

/-- Resolving handles goes on in between. -/
theorem run_resolve (registered : world.HasRegistered (latest :: earlier) accounts)
    (surroundings : Surroundings) (service : Service) (text : String) :
    ((service.resolve text).toProgram.run surroundings world).2.HasRegistered (latest :: earlier) accounts := by
  have honoured : ∀ between : World, between.HasRegistered (latest :: earlier) accounts →
      Contract.besidesAccounts.IsHonoured surroundings between := fun _ _ _ _ _ _ => trivial
  have keeps : (service.resolve text).toProgram.Keeps .besidesAccounts fun _ => True := by
    refine (writesOnce_resolve service text).keeps (fun command isQuiet => ?_) fun command isWrite => ?_
    · cases command with
      | writeLocal _ _ => cases isQuiet
      | writeStub _ _ _ => cases isQuiet
      | writeAccount _ _ _ _ => cases isQuiet
      | _ => trivial
    · obtain ⟨settings, fields, now, rfl⟩ := isWrite
      trivial
  exact (keeps.run honoured (fun _ before _ allowed => before.carriedOut surroundings allowed) registered).1

end World.HasRegistered

/-! ### The accounts that are there -/

/-- Tables with just these accounts, each at the row of one of the starts. -/
structure Tables.HoldsAccounts (tenures : List Tenure) (accounts : List User) (tables : Tables) : Prop where
  kept : ∀ user ∈ accounts, user ∈ tables.users
  whole : ∀ user ∈ tables.users, user.remoteUserId = none → user ∈ accounts
  settled : ∀ user ∈ accounts, ∃ tenure ∈ tenures, user.instanceId = tenure.service.home.id
  asRegistered : ∀ user ∈ accounts, user.IsAccount

namespace Tables

variable {issued : Nat} {tables changed : Tables} {tenures : List Tenure} {accounts : List User}

/-- Nothing that is done besides registering touches the users of a row of this instance. -/
theorem usersOf_canBecome (sound : tables.IsSound issued) (distinct : tables.HasDistinctDomains)
    {id domain : String} (hasLocal : tables.HasLocal id domain) {command : Command}
    (allowed : Contract.besidesAccounts.allows command) (becomes : tables.CanBecome issued command changed) :
    changed.usersOf id = tables.usersOf id := by
  cases becomes with
  | same command => rfl
  | home settings now => cases allowed
  | remote written => rw [usersOf, usersOf, (users_putRemote written).1]
  | mode instanceId mode => rfl
  | peer written => rw [usersOf, usersOf, users_putPeer written]
  | account written => cases allowed
  | stub written => cases allowed
  | remoteUser written =>
    unfold putRemoteUser at written
    split at written
    · cases written
    · rename_i row between first
      obtain ⟨isRow, isOther, -⟩ := isLocal_putRemote distinct first
      obtain ⟨home, isHome, rfl, -, isLocal⟩ := hasLocal.putRemote first
      have differs : home.id ≠ row.id := by
        intro sameId
        have sameRow : home = row :=
          List.inj_on_of_nodup_map (sound.putRemote first).1.instancesDistinct isHome isRow sameId
        rw [sameRow, isOther] at isLocal
        cases isLocal
      rw [usersOf_putStub differs written, usersOf, usersOf, (users_putRemote first).1]

/-- Nothing of it adds an account. -/
theorem mem_of_canBecome {command : Command} (allowed : Contract.besidesAccounts.allows command)
    (becomes : tables.CanBecome issued command changed) {user : User} (isUser : user ∈ changed.users)
    (noRemoteId : user.remoteUserId = none) : user ∈ tables.users := by
  cases becomes with
  | same command => exact isUser
  | home settings now => cases allowed
  | remote written => rwa [(users_putRemote written).1] at isUser
  | mode instanceId mode => exact isUser
  | peer written => rwa [users_putPeer written] at isUser
  | account written => cases allowed
  | stub written => cases allowed
  | remoteUser written =>
    unfold putRemoteUser at written
    split at written
    · cases written
    · rename_i row between first
      rcases mem_of_mem_putStub written isUser with before | isStub
      · rw [← (users_putRemote first).1]
        exact (List.mem_filter.mp before).1
      · rw [isStub.remoteUserId] at noRemoteId
        cases noRemoteId

namespace HoldsAccounts

theorem of_users (holds : tables.HoldsAccounts tenures accounts) (sameUsers : changed.users = tables.users) :
    changed.HoldsAccounts tenures accounts :=
  { holds with
    kept := sameUsers ▸ holds.kept
    whole := sameUsers ▸ holds.whole }

/-- The row of a start has room for accounts. -/
theorem mono (holds : tables.HoldsAccounts tenures accounts) (latest : Tenure) :
    tables.HoldsAccounts (latest :: tenures) accounts :=
  { holds with
    settled := fun user isAccount => by
      obtain ⟨tenure, isTenure, atHome⟩ := holds.settled user isAccount
      exact ⟨tenure, List.mem_cons_of_mem _ isTenure, atHome⟩ }

theorem canBecome (holds : tables.HoldsAccounts tenures accounts) (hosts : tables.Hosts tenures)
    (sound : tables.IsSound issued) (distinct : tables.HasDistinctDomains) {command : Command}
    (allowed : Contract.besidesAccounts.allows command) (becomes : tables.CanBecome issued command changed) :
    changed.HoldsAccounts tenures accounts :=
  { holds with
    kept := fun user isAccount => by
      obtain ⟨tenure, isTenure, atHome⟩ := holds.settled user isAccount
      have sameUsers := usersOf_canBecome sound distinct (hosts.kept tenure isTenure) allowed becomes
      have isThere : user ∈ tables.usersOf tenure.service.home.id :=
        List.mem_filter.mpr ⟨holds.kept user isAccount, beq_iff_eq.mpr atHome⟩
      rw [← sameUsers] at isThere
      exact (List.mem_filter.mp isThere).1
    whole := fun user isUser noRemoteId =>
      holds.whole user (mem_of_canBecome allowed becomes isUser noRemoteId) noRemoteId }

/-- An account of the latest start is added. -/
theorem addAccount {latest : Tenure} {earlier : List Tenure} {user : User}
    (holds : tables.HoldsAccounts (latest :: earlier) accounts) (isAccount : user.IsAccount)
    (atHome : user.instanceId = latest.service.home.id) (added : changed.users = tables.users ++ [user]) :
    changed.HoldsAccounts (latest :: earlier) (user :: accounts) where
  kept other isOther := by
    rw [added, List.mem_append, List.mem_singleton]
    rcases List.mem_cons.mp isOther with rfl | before
    · exact Or.inr rfl
    · exact Or.inl (holds.kept other before)
  whole other isOther noRemoteId := by
    rw [added, List.mem_append, List.mem_singleton] at isOther
    rcases isOther with before | rfl
    · exact List.mem_cons_of_mem _ (holds.whole other before noRemoteId)
    · exact List.mem_cons_self
  settled := List.forall_mem_cons.mpr ⟨⟨latest, List.mem_cons_self, atHome⟩, holds.settled⟩
  asRegistered := List.forall_mem_cons.mpr ⟨isAccount, holds.asRegistered⟩

end HoldsAccounts

end Tables

namespace World.HasRegistered

variable {world : World} {latest : Tenure} {earlier tenures : List Tenure} {accounts : List User}

/-- The accounts that were registered are those that are there. -/
theorem holdsAccounts (registered : world.HasRegistered tenures accounts) :
    world.tables.HoldsAccounts tenures accounts := by
  induction registered with
  | fresh store now =>
    exact ⟨fun _ none => absurd none List.not_mem_nil, fun _ none => absurd none List.not_mem_nil,
      fun _ none => absurd none List.not_mem_nil, fun _ none => absurd none List.not_mem_nil⟩
  | @started tenures accounts world after service registered store surroundings now wrote inductionHypothesis =>
    have sound := registered.hosted.invariant.1
    have soundHere : IsSound { world with store := store } := ⟨sound.isOpen, sound.tables⟩
    rw [carryOut_writeLocal_of_isSound soundHere, Prod.mk.injEq] at wrote
    obtain ⟨-, rfl⟩ := wrote
    exact (inductionHypothesis.of_users (Tables.users_putLocal _ _ _)).mono _
  | accepted _ _ _ _ ran inductionHypothesis =>
    obtain ⟨rfl, isAccount, added⟩ := Service.run_register_eq_ok ran
    exact inductionHypothesis.addAccount isAccount rfl added
  | refused _ _ _ _ ran inductionHypothesis =>
    rw [Service.run_register_eq_error ran]
    exact inductionHypothesis
  | carriedOut registered surroundings allowed inductionHypothesis =>
    obtain ⟨sound, distinct, hosts⟩ := registered.hosted.invariant
    exact inductionHypothesis.canBecome hosts sound.tables distinct allowed
      (canBecome_carryOut surroundings _)
  | later _ now le inductionHypothesis => exact inductionHypothesis

/-- An account is found under every spelling of its username. -/
theorem user?_eq_some (registered : world.HasRegistered (latest :: earlier) accounts) {user : User}
    (isAccount : user ∈ accounts) (atHome : user.instanceId = latest.service.home.id) {username : String}
    (named : lower user.username = lower username) :
    world.tables.user? latest.service.home.id username = some user :=
  (Tables.user?_eq_some_iff registered.hosted.invariant.1.tables).mpr
    ⟨registered.holdsAccounts.kept user isAccount, Prod.ext atHome (nameKey_eq_of_lower_eq named)⟩

/-- Nobody is found under a username that was not registered, unless the start has found stubs in its row. -/
theorem user?_eq_none (registered : world.HasRegistered (latest :: earlier) accounts)
    (noStubs : latest.inherited = []) {username : String}
    (notRegistered : ∀ user ∈ accounts, user.instanceId = latest.service.home.id →
      lower user.username ≠ lower username) : world.tables.user? latest.service.home.id username = none := by
  obtain ⟨sound, -, hosts⟩ := registered.hosted.invariant
  refine Option.eq_none_iff_forall_ne_some.mpr fun user found => ?_
  obtain ⟨isUser, place⟩ := (Tables.user?_eq_some_iff sound.tables).mp found
  have atHome : user.instanceId = latest.service.home.id := congrArg Prod.fst place
  rcases hosts.users latest List.mem_cons_self user isUser atHome with noRemoteId | isInherited
  · have isAccount := registered.holdsAccounts.whole user isUser noRemoteId
    have valid := (registered.holdsAccounts.asRegistered user isAccount).validUsername
    have sameName := ((Username.nameKey_eq_iff valid).mp (congrArg Prod.snd place).symm).symm
    exact notRegistered user isAccount atHome sameName
  · rw [noStubs] at isInherited
    cases isInherited

end World.HasRegistered

end HandleFederation
