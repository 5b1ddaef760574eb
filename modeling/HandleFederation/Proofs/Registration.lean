/-
This file says what becomes of the accounts of an instance while calls run together there.
Each call leaves a report when it has come to its end, so that at every moment the programs
tell what was asked for and what came of it. The accounts are then those that were reported as
registered, each by one call: a registration looks for the name and adds the account in one
command, and it is the only kind of call that touches the users of the row of this instance,
since profiles of other instances are written at rows that are not its own.
-/

import HandleFederation.Proofs.Interleaving
import HandleFederation.Proofs.RegisteredAccounts

namespace HandleFederation

open Program Resolution Text

/-! ### Calls and what comes of them -/

/-- What a service is called for: to do something, or just to look for an account. -/
inductive Errand where
  | toDo (activity : Activity)
  | toFind (username : String)

/-- What comes of a call, with what the call was about. -/
inductive Report where
  | resolved (text : String) (result : Except Failure Resolved)
  | resolvedRemote (username domain : String) (result : Except Failure Resolved)
  | registered (username : String) (displayName : Option String) (result : Except Failure User)
  | found (username : String) (result : Except Failure (Option User))
  | approved (result : Except Failure Peer)
  | modeSet (result : Except Failure Unit)
  | started (result : Except Failure Service)

namespace Errand

/-- What a service does when it is called, and reports in the end. -/
def program (service : Service) : Errand → Program Report
  | .toDo (.resolve text) =>
    (service.resolve text).toProgram.andThen fun result => .done (.resolved text result)
  | .toDo (.resolveRemote windows username domain) =>
    (Resolution.resolveRemote windows username domain).toProgram.andThen fun result =>
      .done (.resolvedRemote username domain result)
  | .toDo (.register username displayName) =>
    (service.register username displayName).toProgram.andThen fun result =>
      .done (.registered username displayName result)
  | .toDo (.approve instanceId domain status) =>
    (Service.approve instanceId domain status).toProgram.andThen fun result => .done (.approved result)
  | .toDo (.setMode instanceId mode) =>
    (perform (.writeMode instanceId mode)).andThen fun result => .done (.modeSet result)
  | .toDo (.start configuration) =>
    (Service.start configuration).toProgram.andThen fun result => .done (.started result)
  | .toFind username =>
    (service.findAccount username).toProgram.andThen fun result => .done (.found username result)

/-- What is left of a start when it has written the row of its instance. -/
def approving (configuration : Configuration) (home : Instance) : Program Report :=
  (do
    Service.approveAll home.id configuration.federation.allowedPeers
    return ⟨configuration, home⟩ : Action Service).toProgram.andThen fun result => .done (.started result)

/-- A start is one under the domain of this instance. -/
def KeepsDomain (home : Instance) : Errand → Prop
  | .toDo activity => activity.KeepsDomain home
  | .toFind _ => True

/-- An errand that needs no service yet. -/
def IsStart : Errand → Prop
  | .toDo (.start _) => True
  | _ => False

end Errand

namespace Threads

/-- A call has come to its end, and left a report. -/
def Ended (threads : Threads Report) (place : Nat) (report : Report) : Prop :=
  threads.programs[place]? = some (some (.done report))

/-- A service has been started. -/
def HasStarted (threads : Threads Report) (service : Service) : Prop :=
  ∃ place, threads.Ended place (.started (.ok service))

/-- The threads with one more program. -/
def add (threads : Threads Report) (program : Program Report) : Threads Report :=
  ⟨threads.programs ++ [some program], threads.world⟩

/-- A start has just written the row of its instance into an empty database. -/
inductive IsFirst : Instance → Threads Report → Prop
  | wrote {configuration : Configuration} {surroundings : Surroundings} {store : ShortTermStore} {now : Nat}
    {time : Timestamp} {home : Instance} {world : World}
    (wrote : (World.fresh store now).carryOut surroundings
      (.writeLocal (Service.localSettings configuration) time) = (some (.ok home), world)) :
    IsFirst home ⟨[some (Errand.approving configuration home)], world⟩

/-- What may happen at an instance from one moment to the next: a start is begun under its domain, or a
service that was started is called; a call goes on by one command, with other instances answering what they
like; or time goes by, and what is in no table changes. -/
inductive GoesOn (home : Instance) : Threads Report → Threads Report → Prop
  | called {threads : Threads Report} {service : Service} (errand : Errand)
    (keepsDomain : errand.KeepsDomain home) (hasStarted : ¬ errand.IsStart → threads.HasStarted service) :
    GoesOn home threads (threads.add (errand.program service))
  | advanced (threads : Threads Report) (surroundings : Surroundings) (place : Nat) :
    GoesOn home threads (threads.advanceAt surroundings place)
  | meanwhile (threads : Threads Report) (store : ShortTermStore) (metrics : Metrics) (now storeCalls : Nat)
    (requested : List Url) :
    GoesOn home threads ⟨threads.programs, { threads.world with
      store := store, metrics := metrics, now := now, storeCalls := storeCalls, requested := requested }⟩

/-- One moment leads to another one in any number of steps. -/
abbrev LeadsTo (home : Instance) : Threads Report → Threads Report → Prop :=
  Relation.ReflTransGen (GoesOn home)

/-- A moment in the life of an instance. -/
def Arises (home : Instance) (threads : Threads Report) : Prop :=
  ∃ first, IsFirst home first ∧ LeadsTo home first threads

end Threads

/-! ### Calls keep the contract -/

/-- What an instance does besides registering accounts. -/
def Contract.withoutAccounts (home : Instance) : Contract where
  allows
    | .writeAccount _ _ _ _ => False
    | command => (ofInstance home).allows command
  promises := (ofInstance home).promises

/-- A report of no registration, and of no start of another instance. -/
def Report.IsOther (home : Instance) : Report → Prop
  | .registered _ _ _ => False
  | .started (.ok service) => service.IsOf home
  | _ => True

variable {home : Instance} {latest : Startup}

theorem Contract.allows_withoutAccounts_of_isQuiet {command : Command} (isQuiet : command.isQuiet = true) :
    (withoutAccounts home).allows command := by
  cases command with
  | writeLocal _ _ => cases isQuiet
  | writeAccount _ _ _ _ => cases isQuiet
  | writeStub _ _ _ => cases isQuiet
  | _ => trivial

theorem Contract.allows_withoutAccounts_of_isRemoteWrite {command : Command}
    (isWrite : IsRemoteWrite command) : (withoutAccounts home).allows command := by
  obtain ⟨settings, fields, now, rfl⟩ := isWrite
  trivial

theorem Contract.allows_ofInstance_of_withoutAccounts {command : Command}
    (allowed : (withoutAccounts home).allows command) : (ofInstance home).allows command := by
  cases command with
  | writeAccount _ _ _ _ => cases allowed
  | _ => exact allowed

theorem Errand.program_start (service : Service) (configuration : Configuration) :
    (Errand.toDo (.start configuration)).program service = .step .clock fun now =>
      .step (.writeLocal (Service.localSettings configuration) now) fun
        | .ok home => approving configuration home
        | .error failure => .done (.started (.error failure)) := by
  refine congrArg (Program.step .clock) (funext fun now => ?_)
  refine congrArg (Program.step _) (funext fun written => ?_)
  cases written <;> rfl

/-- A start that has written the row of an instance leads to a service of it. -/
theorem Errand.keeps_approving {configuration : Configuration} {record : Instance}
    (isHome : record.id = home.id ∧ record.domain = home.domain) :
    (approving configuration record).Keeps (.withoutAccounts home) (Report.IsOther home) := by
  have keeps : (Service.approveAll record.id configuration.federation.allowedPeers).toProgram.Keeps
      (.withoutAccounts home) fun _ => True := Service.keeps_approveAll trivial (fun _ _ _ => trivial) _
  have starts : (do
      Service.approveAll record.id configuration.federation.allowedPeers
      return ⟨configuration, record⟩ : Action Service).toProgram.Keeps (.withoutAccounts home) fun outcome =>
        ∀ service, outcome = .ok service → service.IsOf home := by
    refine Action.keeps_bind keeps (fun _ _ _ given => nomatch given) fun _ _ => .done fun service given => ?_
    cases given
    exact isHome
  refine starts.andThen fun outcome isEnd => .done ?_
  cases outcome with
  | error failure => trivial
  | ok service => exact isEnd service rfl

/-- A call for anything but a registration leaves the accounts to others. -/
theorem Errand.keeps (service : Service) (errand : Errand) (keepsDomain : errand.KeepsDomain home)
    (isOther : ∀ username displayName, errand ≠ .toDo (.register username displayName)) :
    (errand.program service).Keeps (.withoutAccounts home) (Report.IsOther home) := by
  by_cases isStart : ∃ configuration, errand = .toDo (.start configuration)
  · obtain ⟨configuration, rfl⟩ := isStart
    rw [program_start]
    refine .step trivial fun now _ => .step keepsDomain fun written promised => ?_
    cases written with
    | error failure => exact .done trivial
    | ok record => exact keeps_approving (promised record rfl)
  unfold program
  split
  · rename_i text
    have keeps : (service.resolve text).toProgram.Keeps (.withoutAccounts home) fun _ => True :=
      (writesOnce_resolve service text).keeps (fun _ => Contract.allows_withoutAccounts_of_isQuiet)
        fun _ => Contract.allows_withoutAccounts_of_isRemoteWrite
    exact keeps.andThen fun _ _ => .done trivial
  · rename_i windows username domain
    have keeps : (Resolution.resolveRemote windows username domain).toProgram.Keeps (.withoutAccounts home)
        fun _ => True :=
      (writesOnce_resolveRemote windows username domain).keeps
        (fun _ => Contract.allows_withoutAccounts_of_isQuiet)
        fun _ => Contract.allows_withoutAccounts_of_isRemoteWrite
    exact keeps.andThen fun _ _ => .done trivial
  · exact absurd rfl (isOther _ _)
  · rename_i instanceId domain status
    have keeps : (Service.approve instanceId domain status).toProgram.Keeps (.withoutAccounts home)
        fun _ => True := Service.keeps_approve trivial fun _ => trivial
    exact keeps.andThen fun _ _ => .done trivial
  · exact .step trivial fun _ _ => .done trivial
  · exact absurd ⟨_, rfl⟩ isStart
  · exact .step trivial fun _ _ => .done trivial

/-! ### Registrations -/

/-- An account as it is registered. -/
def User.newAccount (id instanceId username : String) (displayName : Option String) (now : Timestamp) :
    User :=
  ⟨id, instanceId, none, username, displayName, none, none, now, now⟩

/-- The failure of a registration under a name that is taken. -/
def Failure.taken (username : String) : Failure :=
  .conflict s!"Username {username} is already taken"

/-- A call to register an account at an instance, in one of its stages. -/
inductive Program.Registers (home : Instance) (username : String) (displayName : Option String) :
    Program Report → Prop
  | looks (isValid : Username.validate username = .ok ()) :
    Registers home username displayName (.step .clock fun now =>
      .step (.writeAccount home.id username displayName now) fun result =>
        .done (.registered username displayName result))
  | writes (isValid : Username.validate username = .ok ()) {now : Timestamp}
    (notLeap : now.nanoseconds < Timestamp.perSecond) :
    Registers home username displayName
      (.step (.writeAccount home.id username displayName now) fun result =>
        .done (.registered username displayName result))
  | ended (result : Except Failure User) :
    Registers home username displayName (.done (.registered username displayName result))

theorem Errand.program_register (service : Service) (username : String) (displayName : Option String) :
    (Errand.toDo (.register username displayName)).program service =
      match Username.validate username with
      | .error failure => .done (.registered username displayName (.error failure))
      | .ok () => .step .clock fun now =>
        .step (.writeAccount service.home.id username displayName now) fun result =>
          .done (.registered username displayName result) := by
  simp only [program, Service.register, Service.addUser, currentTime, Action.toProgram_bind,
    Action.toProgram_ofExcept, done_andThen]
  cases Username.validate username with
  | error failure => rfl
  | ok _ => rfl

theorem Errand.registers {service : Service} (isOf : service.IsOf home) (username : String)
    (displayName : Option String) :
    ((Errand.toDo (.register username displayName)).program service).Registers home username displayName := by
  rw [program_register, isOf.1]
  split
  · exact .ended _
  · rename_i isValid
    exact .looks isValid

/-- A call to register stays one in its turns. -/
theorem Program.Registers.turn {username : String} {displayName : Option String} {command : Command}
    {next : Reply command → Program Report}
    (registers : (Program.step command next).Registers home username displayName)
    (surroundings : Surroundings) (world : World) : ∃ reply, (world.carryOut surroundings command).1 = some reply ∧
      (next reply).Registers home username displayName := by
  cases registers with
  | looks isValid => exact ⟨_, rfl, .writes isValid (Timestamp.nanoseconds_ofNanoseconds_lt _)⟩
  | writes _ _ => exact ⟨_, rfl, .ended _⟩

/-- A call for anything else comes to no report of a registration. -/
theorem Errand.validate_eq_of_program_eq {service : Service} {errand : Errand}
    (keepsDomain : errand.KeepsDomain home) {username : String} {displayName : Option String}
    {result : Except Failure User}
    (ended : errand.program service = .done (.registered username displayName result)) :
    ∃ failure, result = .error failure ∧ Username.validate username = .error failure := by
  by_cases isRegistration : ∃ name display, errand = .toDo (.register name display)
  · obtain ⟨name, display, rfl⟩ := isRegistration
    rw [program_register] at ended
    split at ended
    · rename_i failure refused
      cases ended
      exact ⟨failure, rfl, refused⟩
    · cases ended
  · have keeps := errand.keeps service keepsDomain fun name display same =>
      isRegistration ⟨name, display, same⟩
    rw [ended] at keeps
    cases keeps with
    | done isOther => cases isOther

/-! ### The accounts of an instance -/

namespace Tables

variable {issued : Nat} {tables changed : Tables}

/-- Nothing but a registration touches the users of the row of this instance. -/
theorem HasHome.usersOf_canBecome (hasHome : tables.HasHome home latest) (sound : tables.IsSound issued)
    (distinct : tables.HasDistinctDomains) {command : Command}
    (allowed : (Contract.withoutAccounts home).allows command)
    (becomes : tables.CanBecome issued command changed) : changed.usersOf home.id = tables.usersOf home.id := by
  cases becomes with
  | same command => rfl
  | home settings now => rw [usersOf, usersOf, users_putLocal]
  | remote written => rw [usersOf, usersOf, (users_putRemote written).1]
  | mode instanceId mode => rfl
  | peer written => rw [usersOf, usersOf, users_putPeer written]
  | account written => cases allowed
  | stub written => exact usersOf_putStub (Ne.symm allowed) written
  | remoteUser written =>
    unfold Tables.putRemoteUser at written
    split at written
    · cases written
    · rename_i row between first
      have isOther := (hasHome.putRemote sound distinct first).2
      rw [usersOf_putStub isOther.symm written, usersOf, usersOf, (users_putRemote first).1]

theorem mem_usersOf {instanceId : String} {user : User} :
    user ∈ tables.usersOf instanceId ↔ user ∈ tables.users ∧ user.instanceId = instanceId := by
  rw [usersOf, List.mem_filter, beq_iff_eq]

/-- The account with a name is the one among the users of the row. -/
theorem IsSound.user?_eq_some_iff_usersOf (sound : tables.IsSound issued) {instanceId username : String}
    {user : User} : tables.user? instanceId username = some user ↔
      user ∈ tables.usersOf instanceId ∧ nameKey user.username = nameKey username := by
  rw [user?_eq_some_iff sound, mem_usersOf, User.place, Prod.mk.injEq, and_assoc]

theorem IsSound.user?_eq_none_iff_usersOf (sound : tables.IsSound issued) {instanceId username : String} :
    tables.user? instanceId username = none ↔
      ∀ user ∈ tables.usersOf instanceId, nameKey user.username ≠ nameKey username := by
  rw [Option.eq_none_iff_forall_ne_some]
  refine forall_congr' fun user => ?_
  rw [Ne, sound.user?_eq_some_iff_usersOf, not_and]

end Tables

namespace World.IsHomeOf

variable {world : World}

/-- Writing an account of this instance under a valid name either finds the name taken or adds the account. -/
theorem carryOut_writeAccount (isHomeOf : world.IsHomeOf home latest) (surroundings : Surroundings)
    {username : String} (isValid : Username.validate username = .ok ()) (displayName : Option String)
    (now : Timestamp) :
    (∃ taken ∈ world.tables.usersOf home.id, lower taken.username = lower username ∧
      world.carryOut surroundings (.writeAccount home.id username displayName now) =
        (some (.error (Failure.taken username)), { world with issued := world.issued + 1 })) ∨
    ((∀ other ∈ world.tables.usersOf home.id, lower other.username ≠ lower username) ∧
      ∃ user, user = User.newAccount (identifier world.issued) home.id username displayName now ∧
        world.carryOut surroundings (.writeAccount home.id username displayName now) =
          (some (.ok user), { world with
            issued := world.issued + 1
            tables := { world.tables with users := world.tables.users ++ [user] } })) := by
  have sound := isHomeOf.isSound.tables
  have isThere : world.tables.hasInstance home.id = true := by
    obtain ⟨row, isRow, isHome⟩ := isHomeOf.hasHome.isThere
    exact Tables.hasInstance_of_mem (List.mem_map.mpr ⟨row, isRow, isHome.id⟩)
  rw [World.carryOut_writeAccount]
  cases found : world.tables.user? home.id username with
  | some taken =>
    obtain ⟨isAccount, named⟩ := sound.user?_eq_some_iff_usersOf.mp found
    have refused : Tables.register home.id username displayName (identifier world.issued) now world.tables =
        .error (Failure.taken username) := by
      rw [Tables.register, found]
      rfl
    refine .inl ⟨taken, isAccount, (Username.nameKey_eq_iff isValid).mp named, ?_⟩
    rw [changeTables, if_pos isHomeOf.isSound.isOpen]
    dsimp only
    rw [refused]
  | none =>
    have added : Tables.register home.id username displayName (identifier world.issued) now world.tables =
        .ok (User.newAccount (identifier world.issued) home.id username displayName now,
          { world.tables with users := world.tables.users ++
            [User.newAccount (identifier world.issued) home.id username displayName now] }) := by
      rw [Tables.register, found, if_pos isThere]
      rfl
    have isFree := sound.user?_eq_none_iff_usersOf.mp found
    refine .inr ⟨fun other isOther same => isFree other isOther (nameKey_eq_of_lower_eq same), _, rfl, ?_⟩
    rw [changeTables_of_ok isHomeOf.isSound.isOpen added]

end World.IsHomeOf

/-! ### One step -/

namespace Threads

variable {threads later : Threads Report} {place other : Nat} {report : Report}

/-- The accounts of an instance: the users of its row. -/
def accounts (home : Instance) (threads : Threads Report) : List User :=
  threads.world.tables.usersOf home.id

theorem ended_of_ended_add {program : Program Report} (ended : (threads.add program).Ended place report) :
    threads.Ended place report ∨ program = .done report := by
  rcases Nat.lt_or_ge place threads.programs.length with isBefore | isAfter
  · rw [Ended, add, List.getElem?_append_left isBefore] at ended
    exact .inl ended
  · rw [Ended, add, List.getElem?_append_right isAfter] at ended
    have isLast := List.mem_singleton.mp (List.mem_of_getElem? ended)
    exact .inr (Option.some_inj.mp isLast).symm

theorem Ended.unique {another : Report} (ended : threads.Ended place report)
    (alsoEnded : threads.Ended place another) : report = another := by
  have same := Option.some_inj.mp (Option.some_inj.mp (ended.symm.trans alsoEnded))
  exact Program.done.inj same

/-- Where a program goes on, there is another report at most in its place. -/
theorem ended_of_ended_set {program : Option (Program Report)} {world : World}
    (ended : (⟨threads.programs.set place program, world⟩ : Threads Report).Ended other report) :
    other = place ∧ program = some (.done report) ∨ threads.Ended other report := by
  by_cases same : other = place
  · subst same
    have isPlace : other < threads.programs.length := by
      rw [← List.length_set]
      exact (List.getElem?_eq_some_iff.mp ended).1
    rw [Ended, List.getElem?_set_self isPlace] at ended
    exact .inl ⟨rfl, Option.some_inj.mp ended⟩
  · rw [Ended, List.getElem?_set_ne (Ne.symm same)] at ended
    exact .inr ended

/-- What has ended stays so. -/
theorem Ended.goesOn (ended : threads.Ended place report) (goesOn : GoesOn home threads later) :
    later.Ended place report := by
  cases goesOn with
  | called errand keepsDomain hasStarted =>
    rw [Ended, add, List.getElem?_append_left (List.getElem?_eq_some_iff.mp ended).1]
    exact ended
  | advanced surroundings other => exact getElem?_move_of_done ended (.step other)
  | meanwhile _ _ _ _ _ => exact ended

theorem Ended.leadsTo (ended : threads.Ended place report) (leads : LeadsTo home threads later) :
    later.Ended place report := by
  induction leads with
  | refl => exact ended
  | tail _ goesOn inductionHypothesis => exact inductionHypothesis.goesOn goesOn

/-- A registration is refused for its name, or because the name is taken. -/
def Refuses (home : Instance) (threads : Threads Report) (username : String) (failure : Failure) : Prop :=
  Username.validate username = .error failure ∨
    (Username.validate username = .ok () ∧ failure = .taken username ∧
      ∃ user ∈ threads.accounts home, lower user.username = lower username)

theorem Refuses.mono {username : String} {failure : Failure} (refuses : threads.Refuses home username failure)
    (subset : threads.accounts home ⊆ later.accounts home) : later.Refuses home username failure :=
  refuses.imp_right fun ⟨isValid, isTaken, user, isAccount, named⟩ =>
    ⟨isValid, isTaken, user, subset isAccount, named⟩

/-- A registration is granted at a place: the name was valid and free, and the account is new. No other call
ends at the same time. -/
structure Grants (home : Instance) (threads later : Threads Report) (place : Nat) (username : String)
    (displayName : Option String) (user : User) : Prop where
  isFree : ∀ other ∈ threads.accounts home, lower other.username ≠ lower username
  isNew : user.id = identifier threads.world.issued
  isAccount : user.IsAccount
  named : user.username = username
  shown : user.displayName = displayName
  added : later.accounts home = threads.accounts home ++ [user]
  ended : later.Ended place (.registered username displayName (.ok user))
  others : ∀ other report, later.Ended other report → other = place ∨ threads.Ended other report

/-- The accounts are left alone, and registrations that end are refused without a change of any table. -/
structure LeavesAccounts (home : Instance) (threads later : Threads Report) : Prop where
  accounts : later.accounts home = threads.accounts home
  ended : ∀ place username displayName result, later.Ended place (.registered username displayName result) →
    threads.Ended place (.registered username displayName result) ∨
      later.world.tables = threads.world.tables ∧
        ∃ failure, result = .error failure ∧ threads.Refuses home username failure

/-- The order in which an instance keeps its accounts. -/
structure IsInOrder (home : Instance) (threads : Threads Report) : Prop where
  isHomeOf : ∃ latest, threads.world.IsHomeOf home latest
  areErrands : ∀ program, some program ∈ threads.programs →
    (∃ username displayName, program.Registers home username displayName) ∨
      program.Keeps (.withoutAccounts home) (Report.IsOther home)
  granted : ∀ place username displayName user,
    threads.Ended place (.registered username displayName (.ok user)) →
    user ∈ threads.accounts home ∧ user.IsAccount ∧ user.username = username ∧ user.displayName = displayName
  refused : ∀ place username displayName failure,
    threads.Ended place (.registered username displayName (.error failure)) →
      threads.Refuses home username failure
  reported : ∀ user ∈ threads.accounts home,
    ∃ place, threads.Ended place (.registered user.username user.displayName (.ok user))
  once : ∀ first second user, threads.Ended first (.registered user.username user.displayName (.ok user)) →
    threads.Ended second (.registered user.username user.displayName (.ok user)) → first = second

theorem accounts_of_users_append {threads : Threads Report} {programs : List (Option (Program Report))}
    {world : World} {user : User} (added : world.tables.users = threads.world.tables.users ++ [user])
    (atHome : user.instanceId = home.id) :
    (⟨programs, world⟩ : Threads Report).accounts home = threads.accounts home ++ [user] := by
  rw [accounts, Tables.usersOf, added, List.filter_append, List.filter_singleton, beq_iff_eq.mpr atHome]
  rfl

/-- A registration goes on by one command, which grants it, or refuses it, or comes before. -/
theorem grants_or_leaves_of_registers (isHomeOf : threads.world.IsHomeOf home latest)
    (surroundings : Surroundings) {command : Command} {next : Reply command → Program Report}
    (isThere : threads.programs[place]? = some (some (.step command next))) {username : String}
    {displayName : Option String}
    (registers : (Program.step command next).Registers home username displayName) :
    (∃ user, Grants home threads (threads.advanceAt surroundings place) place username displayName user) ∨
      LeavesAccounts home threads (threads.advanceAt surroundings place) := by
  rw [advanceAt_of_step isThere]
  cases registers with
  | looks isValid =>
    refine .inr ⟨rfl, fun other _ _ _ ended => .inl ?_⟩
    rcases ended_of_ended_set ended with ⟨-, isReport⟩ | before
    · cases isReport
    · exact before
  | writes isValid notLeap =>
    rename_i now
    rcases isHomeOf.carryOut_writeAccount surroundings isValid displayName now with
      ⟨taken, isAccount, named, carried⟩ | ⟨isFree, user, rfl, carried⟩
    · rw [carried]
      refine .inr ⟨rfl, fun other _ _ _ ended => ?_⟩
      rcases ended_of_ended_set ended with ⟨-, isReport⟩ | before
      · cases isReport
        exact .inr ⟨rfl, _, rfl, .inr ⟨isValid, rfl, taken, isAccount, named⟩⟩
      · exact .inl before
    · rw [carried]
      refine .inl ⟨_, isFree, rfl, ⟨rfl, rfl, rfl, isValid, notLeap⟩, rfl, rfl,
        accounts_of_users_append rfl rfl, ?_, fun other report ended => (ended_of_ended_set ended).imp_left And.left⟩
      exact List.getElem?_set_self (List.getElem?_eq_some_iff.mp isThere).1

/-- A call for anything else goes on by one command, which leaves the accounts alone. -/
theorem leaves_of_keeps (isHomeOf : threads.world.IsHomeOf home latest) (surroundings : Surroundings)
    {command : Command} {next : Reply command → Program Report}
    (isThere : threads.programs[place]? = some (some (.step command next)))
    (keeps : (Program.step command next).Keeps (.withoutAccounts home) (Report.IsOther home)) :
    LeavesAccounts home threads (threads.advanceAt surroundings place) := by
  rw [advanceAt_of_step isThere]
  cases keeps with
  | step allowed goesOn =>
    refine ⟨?_, fun other _ _ _ ended => .inl ?_⟩
    · exact isHomeOf.hasHome.usersOf_canBecome isHomeOf.isSound.tables isHomeOf.hasDistinctDomains allowed
        (World.canBecome_carryOut surroundings command)
    · rcases ended_of_ended_set ended with ⟨-, isReport⟩ | before
      · obtain ⟨reply, replied, isDone⟩ := Option.map_eq_some_iff.mp isReport
        have keepsOn := goesOn reply (isHomeOf.isHonoured surroundings command
          (Contract.allows_ofInstance_of_withoutAccounts allowed) reply replied)
        rw [isDone] at keepsOn
        cases keepsOn with
        | done isOther => cases isOther
      · exact before

/-- A step grants one registration, or leaves the accounts alone. -/
theorem GoesOn.grants_or_leaves (inOrder : threads.IsInOrder home) (goesOn : GoesOn home threads later) :
    (∃ place username displayName user, Grants home threads later place username displayName user) ∨
      LeavesAccounts home threads later := by
  obtain ⟨latest, isHomeOf⟩ := inOrder.isHomeOf
  cases goesOn with
  | called errand keepsDomain hasStarted =>
    refine .inr ⟨rfl, fun place username displayName result ended => ?_⟩
    refine (ended_of_ended_add ended).imp_right fun isReport => ⟨rfl, ?_⟩
    obtain ⟨failure, isError, refused⟩ := Errand.validate_eq_of_program_eq keepsDomain isReport
    exact ⟨failure, isError, .inl refused⟩
  | meanwhile _ _ _ _ _ => exact .inr ⟨rfl, fun _ _ _ _ ended => .inl ended⟩
  | advanced surroundings place =>
    by_cases isStep : ∃ command next, threads.programs[place]? = some (some (.step command next))
    · obtain ⟨command, next, isThere⟩ := isStep
      rcases inOrder.areErrands _ (List.mem_of_getElem? isThere) with
        ⟨username, displayName, registers⟩ | keeps
      · refine (grants_or_leaves_of_registers isHomeOf surroundings isThere registers).imp_left ?_
        exact fun ⟨user, grants⟩ => ⟨place, username, displayName, user, grants⟩
      · exact .inr (leaves_of_keeps isHomeOf surroundings isThere keeps)
    · rw [advanceAt_of_not_step fun command next isThere => isStep ⟨command, next, isThere⟩]
      exact .inr ⟨rfl, fun _ _ _ _ ended => .inl ended⟩

/-! ### Every step -/

namespace IsInOrder

theorem isOf (inOrder : threads.IsInOrder home) {service : Service}
    (hasStarted : threads.HasStarted service) : service.IsOf home := by
  obtain ⟨place, ended⟩ := hasStarted
  rcases inOrder.areErrands _ (List.mem_of_getElem? ended) with ⟨_, _, registers⟩ | keeps
  · cases registers
  · cases keeps with
    | done isOther => exact isOther

/-- A call goes on within the contract of the instance, as what it is. -/
theorem advances (inOrder : threads.IsInOrder home) (isHomeOf : threads.world.IsHomeOf home latest)
    {command : Command} {next : Reply command → Program Report}
    (isThere : threads.programs[place]? = some (some (.step command next))) :
    (Contract.ofInstance home).allows command ∧
      ∀ surroundings reply, (threads.world.carryOut surroundings command).1 = some reply →
        (∃ username displayName, (next reply).Registers home username displayName) ∨
          (next reply).Keeps (.withoutAccounts home) (Report.IsOther home) := by
  rcases inOrder.areErrands _ (List.mem_of_getElem? isThere) with ⟨username, displayName, registers⟩ | keeps
  · refine ⟨?_, fun surroundings reply replied => .inl ⟨username, displayName, ?_⟩⟩
    · cases registers with
      | looks _ => trivial
      | writes _ _ => rfl
    · obtain ⟨given, isGiven, registersOn⟩ := registers.turn surroundings threads.world
      cases isGiven.symm.trans replied
      exact registersOn
  · cases keeps with
    | step allowed goesOn =>
      have alsoAllowed := Contract.allows_ofInstance_of_withoutAccounts allowed
      exact ⟨alsoAllowed, fun surroundings reply replied => .inr (goesOn reply
        (isHomeOf.isHonoured surroundings command alsoAllowed reply replied))⟩

theorem subset_accounts (inOrder : threads.IsInOrder home) (goesOn : GoesOn home threads later) :
    threads.accounts home ⊆ later.accounts home := by
  rcases goesOn.grants_or_leaves inOrder with ⟨_, _, _, _, grants⟩ | leaves
  · rw [grants.added]
    exact List.subset_append_left _ _
  · rw [leaves.accounts]
    exact List.Subset.refl _

/-- The world stays that of the instance, and the programs stay those of calls. -/
theorem isHomeOf_and_areErrands (inOrder : threads.IsInOrder home) (goesOn : GoesOn home threads later) :
    (∃ latest, later.world.IsHomeOf home latest) ∧
      ∀ program, some program ∈ later.programs →
        (∃ username displayName, program.Registers home username displayName) ∨
          program.Keeps (.withoutAccounts home) (Report.IsOther home) := by
  obtain ⟨latest, isHomeOf⟩ := inOrder.isHomeOf
  cases goesOn with
  | called errand keepsDomain hasStarted =>
    refine ⟨⟨latest, isHomeOf⟩, fun program member => ?_⟩
    rcases List.mem_append.mp member with before | isNew
    · exact inOrder.areErrands program before
    · cases Option.some_inj.mp (List.mem_singleton.mp isNew)
      by_cases isRegistration : ∃ username displayName, errand = .toDo (.register username displayName)
      · obtain ⟨username, displayName, rfl⟩ := isRegistration
        have isOf := inOrder.isOf (hasStarted id)
        exact .inl ⟨username, displayName, Errand.registers isOf username displayName⟩
      · exact .inr (errand.keeps _ keepsDomain fun username displayName same =>
          isRegistration ⟨username, displayName, same⟩)
  | advanced surroundings place =>
    by_cases isStep : ∃ command next, threads.programs[place]? = some (some (.step command next))
    · obtain ⟨command, next, isThere⟩ := isStep
      obtain ⟨allowed, advances⟩ := inOrder.advances isHomeOf isThere
      rw [advanceAt_of_step isThere]
      refine ⟨⟨_, isHomeOf.carryOut surroundings allowed⟩, fun program member => ?_⟩
      rcases List.mem_or_eq_of_mem_set member with before | isNext
      · exact inOrder.areErrands program before
      · obtain ⟨reply, replied, rfl⟩ := Option.map_eq_some_iff.mp isNext.symm
        exact advances surroundings reply replied
    · rw [advanceAt_of_not_step fun command next isThere => isStep ⟨command, next, isThere⟩]
      exact ⟨⟨latest, isHomeOf⟩, inOrder.areErrands⟩
  | meanwhile _ _ _ _ _ =>
    exact ⟨⟨latest, { isHomeOf with isSound := ⟨isHomeOf.isSound.isOpen, isHomeOf.isSound.tables⟩ }⟩,
      inOrder.areErrands⟩

theorem of_grants (inOrder : threads.IsInOrder home) (goesOn : GoesOn home threads later) {username : String}
    {displayName : Option String} {user : User}
    (grants : Grants home threads later place username displayName user) : later.IsInOrder home := by
  obtain ⟨isHomeOf, areErrands⟩ := inOrder.isHomeOf_and_areErrands goesOn
  have subset := inOrder.subset_accounts goesOn
  have isNewcomer {other : Nat} {name : String} {display : Option String} {result : Except Failure User}
      (ended : later.Ended other (.registered name display result)) :
      (other = place ∧ result = .ok user ∧ name = username ∧ display = displayName) ∨
        threads.Ended other (.registered name display result) := by
    refine (grants.others _ _ ended).imp_left fun isPlace => ?_
    subst isPlace
    cases ended.unique grants.ended
    exact ⟨rfl, rfl, rfl, rfl⟩
  -- The identifier of the new account was not issued before, so no call before has reported it.
  have isUnreported {other : Nat} {name : String} {display : Option String}
      (ended : threads.Ended other (.registered name display (.ok user))) : False := by
    obtain ⟨latest, isHome⟩ := inOrder.isHomeOf
    have isUser := (Tables.mem_usersOf.mp (inOrder.granted _ _ _ _ ended).1).1
    exact (isHome.isSound.tables.usersIssued user isUser).ne_identifier (Nat.le_refl _) grants.isNew
  refine ⟨isHomeOf, areErrands, ?_, ?_, ?_, ?_⟩
  · intro other name display account ended
    rcases isNewcomer ended with ⟨-, isUser, rfl, rfl⟩ | before
    · cases isUser
      rw [grants.added]
      have isThere := List.mem_append_right (threads.accounts home) (List.mem_singleton_self user)
      exact ⟨isThere, grants.isAccount, grants.named, grants.shown⟩
    · obtain ⟨isAccount, others⟩ := inOrder.granted _ _ _ _ before
      exact ⟨subset isAccount, others⟩
  · intro other name display failure ended
    rcases isNewcomer ended with ⟨-, isUser, -⟩ | before
    · cases isUser
    · exact (inOrder.refused _ _ _ _ before).mono subset
  · intro account isAccount
    rw [grants.added, List.mem_append, List.mem_singleton] at isAccount
    rcases isAccount with before | rfl
    · obtain ⟨other, ended⟩ := inOrder.reported account before
      exact ⟨other, ended.goesOn goesOn⟩
    · rw [grants.named, grants.shown]
      exact ⟨place, grants.ended⟩
  · intro first second account isFirst isSecond
    rcases isNewcomer isFirst with ⟨rfl, isUser, -⟩ | firstBefore
    · cases isUser
      rcases isNewcomer isSecond with ⟨rfl, -⟩ | secondBefore
      · rfl
      · exact absurd secondBefore isUnreported
    · rcases isNewcomer isSecond with ⟨rfl, isUser, -⟩ | secondBefore
      · cases isUser
        exact absurd firstBefore isUnreported
      · exact inOrder.once first second account firstBefore secondBefore

theorem of_leaves (inOrder : threads.IsInOrder home) (goesOn : GoesOn home threads later)
    (leaves : LeavesAccounts home threads later) : later.IsInOrder home := by
  obtain ⟨isHomeOf, areErrands⟩ := inOrder.isHomeOf_and_areErrands goesOn
  have subset := inOrder.subset_accounts goesOn
  refine ⟨isHomeOf, areErrands, ?_, ?_, ?_, ?_⟩
  · intro place username displayName user ended
    rw [leaves.accounts]
    rcases leaves.ended _ _ _ _ ended with before | ⟨-, failure, isError, -⟩
    · exact inOrder.granted _ _ _ _ before
    · cases isError
  · intro place username displayName failure ended
    rcases leaves.ended _ _ _ _ ended with before | ⟨-, failure, isError, refuses⟩
    · exact (inOrder.refused _ _ _ _ before).mono subset
    · cases isError
      exact refuses.mono subset
  · intro user isAccount
    rw [leaves.accounts] at isAccount
    obtain ⟨place, ended⟩ := inOrder.reported user isAccount
    exact ⟨place, ended.goesOn goesOn⟩
  · intro first second user isFirst isSecond
    rcases leaves.ended _ _ _ _ isFirst with firstBefore | ⟨-, failure, isError, -⟩
    · rcases leaves.ended _ _ _ _ isSecond with secondBefore | ⟨-, failure, isError, -⟩
      · exact inOrder.once first second user firstBefore secondBefore
      · cases isError
    · cases isError

/-- The order is kept in every step. -/
theorem goesOn (inOrder : threads.IsInOrder home) (goesOn : GoesOn home threads later) :
    later.IsInOrder home := by
  rcases goesOn.grants_or_leaves inOrder with ⟨_, _, _, _, grants⟩ | leaves
  · exact inOrder.of_grants goesOn grants
  · exact inOrder.of_leaves goesOn leaves

theorem leadsTo (inOrder : threads.IsInOrder home) (leads : LeadsTo home threads later) :
    later.IsInOrder home ∧ threads.accounts home ⊆ later.accounts home := by
  induction leads with
  | refl => exact ⟨inOrder, List.Subset.refl _⟩
  | tail _ goesOn inductionHypothesis =>
    obtain ⟨inOrderThen, subset⟩ := inductionHypothesis
    exact ⟨inOrderThen.goesOn goesOn, List.Subset.trans subset (inOrderThen.subset_accounts goesOn)⟩

end IsInOrder

/-- When its row has been written for the first time, an instance has no accounts yet. -/
theorem IsFirst.isInOrder (isFirst : threads.IsFirst home) : threads.IsInOrder home := by
  cases isFirst with
  | @wrote configuration surroundings store now time home world wrote =>
    have keeps : (Errand.approving configuration home).Keeps (.withoutAccounts home) (Report.IsOther home) :=
      Errand.keeps_approving ⟨rfl, rfl⟩
    have noReport {place : Nat} {username : String} {displayName : Option String}
        {result : Except Failure User} (ended : (⟨[some (Errand.approving configuration home)], world⟩ : Threads Report).Ended place
          (.registered username displayName result)) : False := by
      have isDone := Option.some_inj.mp (List.mem_singleton.mp (List.mem_of_getElem? ended))
      rw [← isDone] at keeps
      cases keeps with
      | done isOther => exact isOther
    refine ⟨⟨_, .of_writeLocal_fresh wrote⟩, fun program member => .inr ?_, ?_, ?_, ?_, ?_⟩
    · cases Option.some_inj.mp (List.mem_singleton.mp member)
      exact keeps
    · exact fun _ _ _ _ ended => (noReport ended).elim
    · exact fun _ _ _ _ ended => (noReport ended).elim
    · intro user isAccount
      rw [World.carryOut_writeLocal_of_isSound (World.IsReachable.fresh store now).isSound] at wrote
      cases wrote
      rw [accounts, Tables.usersOf, Tables.users_putLocal] at isAccount
      cases isAccount
    · exact fun _ _ _ ended => (noReport ended).elim

/-- An instance always keeps its accounts in order. -/
theorem Arises.isInOrder (arises : threads.Arises home) : threads.IsInOrder home := by
  obtain ⟨first, isFirst, leads⟩ := arises
  exact (isFirst.isInOrder.leadsTo leads).1

end Threads

end HandleFederation
