/-
This file says what holds of the tables at every moment, whatever a server is busy with
at the same time. Once an instance has been started, resolutions, registrations, changes
of peers and of the mode, and further starts under the same domain may begin at any
time, and each of them goes on by one command whenever it pleases; other instances
answer what they like, and what is remembered for a short time may vanish. The proof is
by contract: each of these programs writes the row of this instance only under its
domain, and accounts only for it. In tables that this instance has to itself such a
write gives the identifier back that the first start got, on which the programs that
come after it rely.
-/

import HandleFederation.Proofs.DomainIsolation
import HandleFederation.Proofs.HomeRow
import HandleFederation.Proofs.SingleWrite

namespace HandleFederation

open Program Resolution Text

/-! ### The contract of an instance -/

/-- What a command writes about this instance when it is that of a start. -/
def Command.startup? : Command → Option Startup
  | .writeLocal settings now => some ⟨settings, now⟩
  | _ => none

/-- An instance writes its own row under its domain, accounts for itself and profiles for others, and
its row has the identifier and the domain that it has always had. -/
def Contract.ofInstance (home : Instance) : Contract where
  allows
    | .writeLocal settings _ => lower settings.domain = home.domain
    | .writeAccount instanceId _ _ _ => instanceId = home.id
    | .writeStub instanceId _ _ => instanceId ≠ home.id
    | _ => True
  promises
    | .writeLocal _ _ => fun reply =>
      ∀ record, reply = .ok record → record.id = home.id ∧ record.domain = home.domain
    | _ => fun _ => True

/-- What an instance does between its starts. -/
def Contract.betweenStarts (home : Instance) : Contract where
  allows command := (ofInstance home).allows command ∧ command.startup? = none
  promises _ _ := True

variable {home : Instance} {latest : Startup}

theorem Contract.allows_ofInstance_of_isQuiet {command : Command} (isQuiet : command.isQuiet = true) :
    (ofInstance home).allows command := by
  cases command with
  | writeLocal _ _ => cases isQuiet
  | writeAccount _ _ _ _ => cases isQuiet
  | writeStub _ _ _ => cases isQuiet
  | _ => trivial

theorem Contract.allows_ofInstance_of_isRemoteWrite {command : Command}
    (isWrite : IsRemoteWrite command) : (ofInstance home).allows command := by
  obtain ⟨settings, fields, now, rfl⟩ := isWrite
  trivial

namespace Tables.HasHome

variable {issued : Nat} {tables changed : Tables}

/-- No write within the contract, other than that of a start, touches the row of this instance but in
its mode. -/
theorem canBecome (hasHome : tables.HasHome home latest) (sound : tables.IsSound issued)
    (distinct : tables.HasDistinctDomains) {command : Command}
    (allowed : (Contract.ofInstance home).allows command) (noStart : command.startup? = none)
    (becomes : tables.CanBecome issued command changed) : changed.HasHome home latest := by
  cases becomes with
  | same command => exact hasHome
  | home settings now => cases noStart
  | remote written => exact (hasHome.putRemote sound distinct written).1
  | mode instanceId mode => exact hasHome.putMode instanceId mode.word
  | peer written => exact hasHome.of_eq (instances_putPeer written) (users_putPeer written)
  | account written =>
    obtain rfl := allowed
    exact hasHome.register written
  | stub written => exact hasHome.putStub allowed written
  | remoteUser written => exact hasHome.putRemoteUser sound distinct written

end Tables.HasHome

/-! ### Worlds that an instance has to itself -/

/-- What holds of the world of an instance that has always had one domain. -/
structure World.IsHomeOf (home : Instance) (latest : Startup) (world : World) : Prop where
  isSound : world.IsSound
  hasDistinctDomains : world.tables.HasDistinctDomains
  hasDistinctRemoteIds : world.tables.HasDistinctRemoteIds
  hasHome : world.tables.HasHome home latest

namespace World

variable {world : World}

namespace IsHomeOf

/-- What an instance does within its contract leaves the world its own. -/
theorem carryOut (isHomeOf : world.IsHomeOf home latest) (surroundings : Surroundings)
    {command : Command} (allowed : (Contract.ofInstance home).allows command) :
    (world.carryOut surroundings command).2.IsHomeOf home (command.startup?.getD latest) := by
  have becomes : world.tables.CanBecome world.issued command
      (world.carryOut surroundings command).2.tables := canBecome_carryOut surroundings command
  have sound := isSound_carryOut isHomeOf.isSound surroundings command
  have domains := isHomeOf.hasDistinctDomains.canBecome becomes
  have remoteIds := isHomeOf.hasDistinctRemoteIds.canBecome becomes
  refine ⟨sound, domains, remoteIds, ?_⟩
  cases start : command.startup? with
  | none =>
    exact isHomeOf.hasHome.canBecome isHomeOf.isSound.tables isHomeOf.hasDistinctDomains allowed start
      becomes
  | some startup =>
    cases command <;> cases start
    rename_i settings now
    rw [carryOut_writeLocal_of_isSound isHomeOf.isSound]
    exact (isHomeOf.hasHome.putLocal isHomeOf.hasDistinctDomains allowed _ now).1

/-- The world of an instance keeps its side of the contract. -/
theorem isHonoured (isHomeOf : world.IsHomeOf home latest) (surroundings : Surroundings) :
    (Contract.ofInstance home).IsHonoured surroundings world := by
  intro command allowed reply replied
  cases command with
  | writeLocal settings now =>
    obtain ⟨-, isHome⟩ := isHomeOf.hasHome.putLocal isHomeOf.hasDistinctDomains allowed
      (identifier world.issued) now
    rw [carryOut_writeLocal_of_isSound isHomeOf.isSound, Option.some_inj] at replied
    rintro record rfl
    cases replied
    exact ⟨isHome.id, isHome.domain⟩
  | _ => trivial

end IsHomeOf

end World

/-! ### What goes on at an instance -/

/-- What a service may be busy with. -/
inductive Activity where
  /-- Resolving a handle as a user wrote it. -/
  | resolve (text : String)
  /-- Resolving a user of another instance, or of this one, whatever the two texts are. -/
  | resolveRemote (windows : Windows) (username domain : String)
  /-- Registering an account. -/
  | register (username : String) (displayName : Option String)
  /-- Writing how far a peer is approved. -/
  | approve (instanceId domain : String) (status : PeerStatus)
  /-- Changing the mode of an instance. -/
  | setMode (instanceId : String) (mode : FederationMode)
  /-- Starting once more. -/
  | start (configuration : Configuration)

namespace Activity

/-- What a service does about an activity, which leads to another service if it is a start. -/
def program (service : Service) : Activity → Program (Option Service)
  | .resolve text => (service.resolve text).toProgram.andThen fun _ => .done none
  | .resolveRemote windows username domain =>
    (Resolution.resolveRemote windows username domain).toProgram.andThen fun _ => .done none
  | .register username displayName =>
    (service.register username displayName).toProgram.andThen fun _ => .done none
  | .approve instanceId domain status =>
    (Service.approve instanceId domain status).toProgram.andThen fun _ => .done none
  | .setMode instanceId mode => (perform (.writeMode instanceId mode)).andThen fun _ => .done none
  | .start configuration => (Service.start configuration).toProgram.andThen fun
    | .ok started => .done (some started)
    | .error _ => .done none

/-- A start is one under the domain of this instance. -/
def KeepsDomain (home : Instance) : Activity → Prop
  | .start configuration => lower configuration.service.domain = home.domain
  | _ => True

end Activity

/-- A service is one of an instance. -/
def Service.IsOf (home : Instance) (service : Service) : Prop :=
  service.home.id = home.id ∧ service.home.domain = home.domain

/-- What has come about at an instance since it was first started over an empty database: the programs
that were begun by then, its row as that start left it, and the latest start that wrote its row. -/
inductive Threads.IsUnderWay : Instance → Startup → Threads (Option Service) → Prop
  | started {configuration : Configuration} {service : Service} {surroundings : Surroundings}
    {store : ShortTermStore} {now : Nat} {world : World}
    (started : (Service.start configuration).toProgram.run surroundings (.fresh store now) =
      (some (.ok service), world)) :
    IsUnderWay service.home ⟨Service.localSettings configuration, .ofNanoseconds now⟩
      ⟨[some (.done (some service))], world⟩
  | begun {home : Instance} {latest : Startup} {threads : Threads (Option Service)}
    (underWay : IsUnderWay home latest threads) {service : Service}
    (isStarted : some (.done (some service)) ∈ threads.programs) (activity : Activity)
    (keepsDomain : activity.KeepsDomain home) :
    IsUnderWay home latest ⟨threads.programs ++ [some (activity.program service)], threads.world⟩
  | advanced {home : Instance} {latest : Startup} {threads : Threads (Option Service)}
    (underWay : IsUnderWay home latest threads) (surroundings : Surroundings) {place : Nat}
    {command : Command} {next : Reply command → Program (Option Service)}
    (isThere : threads.programs[place]? = some (some (.step command next))) :
    IsUnderWay home (command.startup?.getD latest) (threads.advanceAt surroundings place)
  | meanwhile {home : Instance} {latest : Startup} {threads : Threads (Option Service)}
    (underWay : IsUnderWay home latest threads) (store : ShortTermStore) (now : Nat) :
    IsUnderWay home latest
      ⟨threads.programs, { threads.world with store := store, now := now }⟩

/-! ### Activities keep the contract -/

section

variable {contract : Contract}

/-- Approving peers keeps a contract that allows no more than that. -/
theorem Service.keeps_approve (allowsClock : contract.allows .clock) {instanceId domain : String}
    {status : PeerStatus} (allowsPeer : ∀ now, contract.allows (.writePeer instanceId domain status now)) :
    (approve instanceId domain status).toProgram.Keeps contract fun _ => True := by
  refine Action.keeps_bind (keeps_currentTime allowsClock) (fun _ _ => trivial) fun now _ => ?_
  exact .step (allowsPeer now) fun _ _ => .done trivial

theorem Service.keeps_approveAll (allowsClock : contract.allows .clock) {instanceId : String}
    (allowsPeer : ∀ domain status now, contract.allows (.writePeer instanceId domain status now))
    (domains : List String) :
    (approveAll instanceId domains).toProgram.Keeps contract fun _ => True := by
  induction domains with
  | nil => exact .done trivial
  | cons domain rest inductionHypothesis =>
    exact Action.keeps_bind (keeps_approve allowsClock (allowsPeer domain .active)) (fun _ _ => trivial)
      fun _ _ => inductionHypothesis

/-- Registering keeps a contract that allows accounts for this instance. -/
theorem Service.keeps_register (allowsClock : contract.allows .clock) {service : Service} {username : String}
    {displayName : Option String}
    (allowsAccount : ∀ now, contract.allows (.writeAccount service.home.id username displayName now)) :
    (service.register username displayName).toProgram.Keeps contract fun _ => True := by
  have checks : (Action.ofExcept (Username.validate username)).toProgram.Keeps contract fun _ => True :=
    .done trivial
  refine Action.keeps_bind checks (fun _ _ => trivial) fun _ _ => ?_
  refine Action.keeps_bind (keeps_currentTime allowsClock) (fun _ _ => trivial) fun now _ => ?_
  exact .step (allowsAccount now) fun _ _ => .done trivial

/-- Starting keeps a contract that allows what a start writes and promises the row of an instance. It leads
to a service of that. -/
theorem Service.keeps_start (allowsClock : contract.allows .clock) {configuration : Configuration}
    (allowsHome : ∀ now, contract.allows (.writeLocal (localSettings configuration) now))
    (allowsPeer : ∀ instanceId domain status now, contract.allows (.writePeer instanceId domain status now))
    (isPromised : ∀ now reply, contract.promises (.writeLocal (localSettings configuration) now) reply →
      ∀ record, reply = .ok record → record.id = home.id ∧ record.domain = home.domain) :
    (start configuration).toProgram.Keeps contract fun outcome =>
      ∀ service, outcome = .ok service → service.IsOf home := by
  have writes : (writeHome (localSettings configuration)).toProgram.Keeps contract
      fun outcome => ∀ record, outcome = .ok record →
        record.id = home.id ∧ record.domain = home.domain := by
    refine Action.keeps_bind (keeps_currentTime allowsClock) (fun _ _ _ given => nomatch given) fun now _ => ?_
    exact .step (allowsHome now) fun reply promised => .done (isPromised now reply promised)
  refine Action.keeps_bind writes (fun _ _ _ given => nomatch given) fun record isHome => ?_
  refine Action.keeps_bind (keeps_approveAll allowsClock (allowsPeer _) _)
    (fun _ _ _ given => nomatch given) fun _ _ => ?_
  refine .done fun service given => ?_
  cases given
  exact isHome record rfl

end

/-- Whatever a service of an instance is busy with, it keeps the contract of the instance. -/
theorem Activity.keeps {service : Service} (isOf : service.IsOf home) (activity : Activity)
    (keepsDomain : activity.KeepsDomain home) :
    (activity.program service).Keeps (.ofInstance home) fun started =>
      ∀ other, started = some other → other.IsOf home := by
  have nothing : (Program.done none).Keeps (.ofInstance home) fun started =>
      ∀ other, started = some other → Service.IsOf home other := .done fun _ given => nomatch given
  unfold program
  cases activity with
  | resolve text =>
    have keeps : (service.resolve text).toProgram.Keeps (.ofInstance home) fun _ => True :=
      (writesOnce_resolve service text).keeps (fun _ => Contract.allows_ofInstance_of_isQuiet)
        fun _ => Contract.allows_ofInstance_of_isRemoteWrite
    exact keeps.andThen fun _ _ => nothing
  | resolveRemote windows username domain =>
    have keeps : (Resolution.resolveRemote windows username domain).toProgram.Keeps (.ofInstance home)
        fun _ => True :=
      (writesOnce_resolveRemote windows username domain).keeps
        (fun _ => Contract.allows_ofInstance_of_isQuiet)
        fun _ => Contract.allows_ofInstance_of_isRemoteWrite
    exact keeps.andThen fun _ _ => nothing
  | register username displayName =>
    have keeps : (service.register username displayName).toProgram.Keeps (.ofInstance home)
        fun _ => True := Service.keeps_register trivial fun _ => isOf.1
    exact keeps.andThen fun _ _ => nothing
  | approve instanceId domain status =>
    have keeps : (Service.approve instanceId domain status).toProgram.Keeps (.ofInstance home)
        fun _ => True := Service.keeps_approve trivial fun _ => trivial
    exact keeps.andThen fun _ _ => nothing
  | setMode instanceId mode => exact .step trivial fun _ _ => nothing
  | start configuration =>
    have keeps : (Service.start configuration).toProgram.Keeps (.ofInstance home) fun outcome =>
        ∀ service, outcome = .ok service → service.IsOf home :=
      Service.keeps_start trivial (fun _ => keepsDomain) (fun _ _ _ _ => trivial) fun _ _ promised => promised
    refine keeps.andThen fun outcome isEnd => ?_
    cases outcome with
    | error failure => exact nothing
    | ok started =>
      refine .done fun other given => ?_
      cases given
      exact isEnd started rfl

/-! ### What always holds -/

namespace World.IsHomeOf

variable {world : World}

/-- The first start over an empty database leaves the world to the instance. -/
theorem of_writeLocal_fresh {surroundings : Surroundings} {settings : LocalSettings} {store : ShortTermStore}
    {now : Nat} {time : Timestamp} {after : World}
    (wrote : (World.fresh store now).carryOut surroundings (.writeLocal settings time) =
      (some (.ok home), after)) : after.IsHomeOf home ⟨settings, time⟩ := by
  have reachable : after.IsReachable := by
    have carried := World.IsReachable.carriedOut (.fresh store now) surroundings
      (.writeLocal settings time)
    rwa [wrote] at carried
  rw [carryOut_writeLocal_of_isSound (World.IsReachable.fresh store now).isSound] at wrote
  cases wrote
  refine ⟨reachable.isSound, reachable.hasDistinctDomains, reachable.hasDistinctRemoteIds, ?_⟩
  refine ⟨⟨_, List.mem_singleton_self _, ?_⟩, fun row member _ => ?_, fun _ member => nomatch member⟩
  · exact ⟨rfl, rfl, rfl, rfl, rfl, rfl, rfl, rfl, rfl⟩
  · rw [List.mem_singleton.mp member]
    rfl

/-- Approving peers is done within the contract and starts nothing. -/
theorem run_approveAll (isHomeOf : world.IsHomeOf home latest) (surroundings : Surroundings)
    (instanceId : String) (domains : List String) :
    ((Service.approveAll instanceId domains).toProgram.run surroundings world).2.IsHomeOf home latest := by
  have allowsClock : (Contract.betweenStarts home).allows .clock := ⟨trivial, rfl⟩
  have allowsPeer : ∀ domain status now,
      (Contract.betweenStarts home).allows (.writePeer instanceId domain status now) :=
    fun _ _ _ => ⟨trivial, rfl⟩
  have keeps := Service.keeps_approveAll allowsClock allowsPeer domains
  have honoured : ∀ between : World, between.IsHomeOf home latest →
      (Contract.betweenStarts home).IsHonoured surroundings between := fun _ _ _ _ _ _ => trivial
  refine (keeps.run honoured (fun between isBetween command allowed => ?_) isHomeOf).1
  have carried := isBetween.carryOut surroundings allowed.1
  rwa [allowed.2] at carried

/-- A first start over an empty database that comes to a service leaves the world to its instance. -/
theorem of_run_start {configuration : Configuration} {service : Service} {surroundings : Surroundings}
    {store : ShortTermStore} {now : Nat} {after : World}
    (started : (Service.start configuration).toProgram.run surroundings (.fresh store now) =
      (some (.ok service), after)) :
    after.IsHomeOf service.home ⟨Service.localSettings configuration, .ofNanoseconds now⟩ := by
  simp only [Service.start, Action.toProgram_bind, run_andThen, Service.run_writeHome] at started
  generalize wrote : (World.fresh store now).carryOut surroundings
    (.writeLocal (Service.localSettings configuration) (World.fresh store now).time) = outcome at started
  rcases outcome with ⟨_ | failure | home, between⟩
  · cases started
  · cases started
  · simp only [run_andThen] at started
    have later := (of_writeLocal_fresh wrote).run_approveAll surroundings home.id
      configuration.federation.allowedPeers
    generalize (Service.approveAll home.id configuration.federation.allowedPeers).toProgram.run
      surroundings between = approved at started later
    rcases approved with ⟨_ | failure | _, done⟩
    · cases started
    · cases started
    · cases started
      exact later

end World.IsHomeOf

/-- At every moment the world is that of the instance, and all that goes on keeps its contract. -/
theorem Threads.IsUnderWay.invariant {threads : Threads (Option Service)}
    (underWay : threads.IsUnderWay home latest) :
    threads.world.IsHomeOf home latest ∧
      threads.Keep (.ofInstance home) fun started =>
        ∀ service, started = some service → service.IsOf home := by
  induction underWay with
  | started started =>
    refine ⟨.of_run_start started, fun program member => ?_⟩
    cases Option.some_inj.mp (List.mem_singleton.mp member)
    refine .done fun service same => ?_
    cases same
    exact ⟨rfl, rfl⟩
  | begun _ isStarted activity keepsDomain inductionHypothesis =>
    obtain ⟨isHomeOf, keep⟩ := inductionHypothesis
    refine ⟨isHomeOf, fun program member => ?_⟩
    rcases List.mem_append.mp member with before | added
    · exact keep program before
    · cases Option.some_inj.mp (List.mem_singleton.mp added)
      cases keep _ isStarted with
      | done isEnd => exact activity.keeps (isEnd _ rfl) keepsDomain
  | advanced _ surroundings isThere inductionHypothesis =>
    obtain ⟨isHomeOf, keep⟩ := inductionHypothesis
    have allowed := keep.allows isThere
    refine ⟨?_, keep.advanceAt isThere (isHomeOf.isHonoured surroundings _ allowed)⟩
    rw [Threads.advanceAt_of_step isThere]
    exact isHomeOf.carryOut surroundings allowed
  | meanwhile _ store now inductionHypothesis =>
    obtain ⟨isHomeOf, keep⟩ := inductionHypothesis
    exact ⟨{ isHomeOf with isSound := ⟨isHomeOf.isSound.isOpen, isHomeOf.isSound.tables⟩ }, keep⟩

/-- Tables in which everything belongs somewhere, and nothing is there twice. -/
structure Tables.IsConsistent (home : Instance) (latest : Startup) (tables : Tables) : Prop where
  oneHome : ∃ row : InstanceRow,
    tables.instances.filter InstanceRecord.isLocal = [row] ∧ row.IsHome home latest
  domains : (tables.instances.map fun row => lower row.domain).Nodup
  instances : ∀ user ∈ tables.users, ∃ row ∈ tables.instances, row.id = user.instanceId
  usernames : (tables.users.map fun user => (user.instanceId, lower user.username)).Nodup
  remoteIds : tables.users.Pairwise fun first second =>
    first.instanceId = second.instanceId → first.remoteUserId = second.remoteUserId →
      first.remoteUserId = none
  accounts : ∀ user ∈ tables.users, user.remoteUserId = none ↔ user.instanceId = home.id

/-- The tables of an instance that has always had one domain are consistent. -/
theorem World.IsHomeOf.tables_isConsistent {world : World} (isHomeOf : world.IsHomeOf home latest) :
    world.tables.IsConsistent home latest := by
  have sound := isHomeOf.isSound.tables
  have hasHome := isHomeOf.hasHome
  -- The name of a row can be told from its text in lower case, so rows of different names differ in that.
  have domains : (world.tables.instances.map fun row => lower row.domain).Nodup := by
    have sameKeys : (nameKey ∘ fun row : InstanceRow => lower row.domain) = fun row => nameKey row.domain :=
      funext fun row => nameKey_lower row.domain
    refine List.Nodup.of_map nameKey ?_
    rw [List.map_map, sameKeys]
    exact isHomeOf.hasDistinctDomains
  have usernames : (world.tables.users.map fun user => (user.instanceId, lower user.username)).Nodup := by
    have samePlaces : (Prod.map id nameKey ∘ fun user : User => (user.instanceId, lower user.username)) =
        User.place := funext fun user => Prod.ext rfl (nameKey_lower user.username)
    refine List.Nodup.of_map (Prod.map id nameKey) ?_
    rw [List.map_map, samePlaces]
    exact sound.usersDistinct
  refine ⟨?_, domains, fun user member => List.mem_map.mp (sound.usersSettled user member), usernames, ?_,
    hasHome.accounts⟩
  · obtain ⟨row, isRow, isHome⟩ := hasHome.isThere
    refine ⟨row, Tables.filter_eq_singleton (sound.instancesDistinct.of_map _) isRow isHome.isLocal
      fun other isOther isLocal => ?_, isHome⟩
    exact List.inj_on_of_nodup_map sound.instancesDistinct isOther isRow
      ((hasHome.isAlone other isOther isLocal).trans isHome.id.symm)
  · refine List.Pairwise.imp_of_mem ?_ (List.pairwise_map.mp sound.usersDistinct)
    intro first second isFirst isSecond differs sameInstance sameId
    by_contra identified
    exact differs (Prod.ext sameInstance
      (isHomeOf.hasDistinctRemoteIds first isFirst second isSecond sameInstance sameId identified))

/-- At every moment since an instance was first started, whatever goes on there at the same time, its
tables are consistent. -/
theorem Threads.IsUnderWay.isConsistent {threads : Threads (Option Service)}
    (underWay : threads.IsUnderWay home latest) : threads.world.tables.IsConsistent home latest :=
  underWay.invariant.1.tables_isConsistent

/-! ### A start after another one -/

/-- A service without peers in its settings comes to work as soon as it has written its row. -/
theorem Site.run_start {configuration : Configuration}
    (noPeers : configuration.federation.allowedPeers = []) (surroundings : Surroundings)
    (store : ShortTermStore) (now : Nat) :
    (Service.start configuration).toProgram.run surroundings (.fresh store now) =
      (some (.ok (atStart configuration surroundings store now).service),
        (atStart configuration surroundings store now).world) := by
  have wrote := carryOut_writeLocal_fresh configuration surroundings store now
  simp only [Service.start, Action.toProgram_bind, run_andThen, Service.run_writeHome]
  have instant : (World.fresh store now).time = .ofNanoseconds now := rfl
  rw [instant, wrote]
  dsimp only
  rw [noPeers]
  rfl

namespace Threads

theorem isUnderWay_atStart {configuration : Configuration}
    (noPeers : configuration.federation.allowedPeers = []) (surroundings : Surroundings)
    (store : ShortTermStore) (now : Nat) :
    IsUnderWay (Site.atStart configuration surroundings store now).service.home
      ⟨Service.localSettings configuration, .ofNanoseconds now⟩
      ⟨[some (.done (some (Site.atStart configuration surroundings store now).service))],
        (Site.atStart configuration surroundings store now).world⟩ :=
  .started (Site.run_start noPeers surroundings store now)

/-- The site that has just started, a minute later, when it has begun to start once more. -/
def restarting : Threads (Option Service) where
  programs := [some (.done (some Site.empty.service)),
    some ((Activity.start (.plain "HOME.example")).program Site.empty.service)]
  world := { Site.empty.world with now := 60000000000 }

/-- The same site when that start has written its row. -/
def restarted : Threads (Option Service) :=
  (restarting.advanceAt .silent 1).advanceAt .silent 1

theorem isUnderWay_restarted :
    restarted.IsUnderWay Site.empty.service.home
      ⟨Service.localSettings (.plain "HOME.example"), .ofNanoseconds 60000000000⟩ := by
  have noPeers : (Configuration.plain "home.example").federation.allowedPeers = [] := rfl
  have keepsDomain : (Activity.start (.plain "HOME.example")).KeepsDomain Site.empty.service.home := by
    have same : lower "HOME.example" = Site.empty.service.home.domain := by decide
    exact same
  have later := (isUnderWay_atStart noPeers .silent (.memory .empty) 0).meanwhile (.memory .empty)
    60000000000
  have begun : restarting.IsUnderWay Site.empty.service.home
      ⟨Service.localSettings (.plain "home.example"), .ofNanoseconds 0⟩ :=
    later.begun (List.mem_singleton_self _) _ keepsDomain
  have looks : ∃ next, restarting.programs[1]? = some (some (.step .clock next)) := ⟨_, rfl⟩
  have writes : ∃ next, (restarting.advanceAt .silent 1).programs[1]? =
      some (some (.step (.writeLocal (Service.localSettings (.plain "HOME.example"))
        (.ofNanoseconds 60000000000)) next)) := ⟨_, rfl⟩
  obtain ⟨next, looks⟩ := looks
  obtain ⟨last, writes⟩ := writes
  exact (begun.advanced .silent looks).advanced .silent writes

/-- The tables are consistent when the second start has written its row. -/
theorem isConsistent_restarted :
    restarted.IsUnderWay Site.empty.service.home
        ⟨Service.localSettings (.plain "HOME.example"), .ofNanoseconds 60000000000⟩ ∧
      restarted.world.tables.IsConsistent Site.empty.service.home
        ⟨Service.localSettings (.plain "HOME.example"), .ofNanoseconds 60000000000⟩ :=
  ⟨isUnderWay_restarted, isUnderWay_restarted.isConsistent⟩

end Threads

end HandleFederation
