/-
This file proves that resolutions of one user that run together come to one answer,
whatever the order of their steps. The pair of identifiers that they agree on cannot be
told beforehand, as the first write decides it. So the invariant speaks of all pairs
that the tables admit: before that write these are all pairs, and each program keeps the
contract for all of them, whereas a program that has ended names one, and must have had
its answer from a row that was written. After that write there is one pair left, since a
later write keeps the identifiers of the rows it finds.
-/

import HandleFederation.Proofs.Schedule
import HandleFederation.Proofs.ServedQuery

namespace HandleFederation

open Program Resolution Text

/-! ### What stays as it is -/

/-- A value that is not given at a time is not given later. -/
theorem TimedEntries.get?_eq_none_of_le {entries : TimedEntries} {now later : Nat} {key : String}
    (isNone : entries.get? now key = none) (le : now ≤ later) : entries.get? later key = none := by
  unfold get? at isNone ⊢
  split at isNone
  · rename_i entry found
    split at isNone
    · cases isNone
    · rename_i expired
      exact if_neg fun isLive => expired (Nat.lt_of_le_of_lt le isLive)
  · rfl

theorem ShortTermStore.get?_eq_none_of_le {store : ShortTermStore} {now later : Nat} {key : String}
    (isNone : store.get? now key = none) (le : now ≤ later) : store.get? later key = none := by
  cases store with
  | memory entries => exact TimedEntries.get?_eq_none_of_le isNone le
  | shared keyPrefix server => exact TimedEntries.get?_eq_none_of_le isNone le

/-- Asking the store gives what is there, if it gives anything, and changes nothing. -/
theorem World.carryOut_recall (surroundings : Surroundings) (key : String) (world : World) :
    ∃ reply, world.carryOut surroundings (.recall key) =
        (some reply, { world with storeCalls := world.storeCalls + 1 }) ∧
      ∀ value, reply = .ok value → value = world.store.get? world.now key := by
  unfold carryOut useStore
  dsimp only
  split
  · rename_i failure _
    exact ⟨.error failure, rfl, nofun⟩
  · exact ⟨_, rfl, fun _ given => (Except.ok.inj given).symm⟩

namespace Tables

variable {issued later : Nat} {tables changed : Tables} {username domain : String}

theorem IsSound.instanceWithId?_eq (sound : tables.IsSound issued) {row : InstanceRow}
    (isRow : row ∈ tables.instances) : tables.instanceWithId? row.id = some row := by
  obtain ⟨other, found⟩ : ∃ other, tables.instanceWithId? row.id = some other :=
    Option.isSome_iff_exists.mp (List.find?_isSome.mpr ⟨row, isRow, beq_self_eq_true row.id⟩)
  have passes := List.find?_some found
  have sameId : other.id = row.id := beq_iff_eq.mp passes
  rw [found, List.inj_on_of_nodup_map sound.instancesDistinct (List.mem_of_find?_eq_some found) isRow
    sameId]

/-- The row of an instance at another domain is left as it is. -/
theorem LeavesElsewhere.instanceWithId?_eq (leaves : tables.LeavesElsewhere domain changed)
    (nulFree : IsNulFree domain) (sound : tables.IsSound issued) (soundThen : changed.IsSound later)
    {id home : String} (isAddress : (id, home) ∈ tables.addresses) (elsewhere : home ≠ lower domain) :
    changed.instanceWithId? id = tables.instanceWithId? id := by
  obtain ⟨row, isRow, address⟩ := List.mem_map.mp isAddress
  cases address
  have notThere : (!sameName row.domain domain) = true := by
    rw [Bool.not_eq_true', Bool.eq_false_iff]
    intro named
    have sameDomain := (nameKey_eq_iff_of_isNulFree nulFree).mp ((sameName_iff _ _).mp named)
    exact elsewhere ((sound.domainsLower row isRow).symm.trans sameDomain)
  have stillThere : row ∈ changed.instances := by
    have isElsewhere : row ∈ tables.instances.filter fun row => !sameName row.domain domain :=
      List.mem_filter.mpr ⟨isRow, notThere⟩
    rw [← leaves.instances] at isElsewhere
    exact (List.mem_filter.mp isElsewhere).1
  rw [sound.instanceWithId?_eq isRow, soundThen.instanceWithId?_eq stillThere]

/-! ### The identifiers that tables admit -/

theorem admit_of_stub? {user : User} (found : tables.stub? username domain = some user) :
    tables.Admit username domain ⟨user.instanceId, user.id⟩ := by
  intro other alsoFound
  cases found.symm.trans alsoFound
  exact ⟨rfl, rfl⟩

theorem admit_of_stub?_eq_none (notFound : tables.stub? username domain = none) (identity : Identity) :
    tables.Admit username domain identity := by
  intro user found
  cases notFound.symm.trans found

theorem exists_admit (tables : Tables) (username domain : String) :
    ∃ identity, tables.Admit username domain identity := by
  cases found : tables.stub? username domain with
  | none => exact ⟨⟨"", ""⟩, admit_of_stub?_eq_none found _⟩
  | some user => exact ⟨_, admit_of_stub? found⟩

/-- Tables that admit only one pair have the user. -/
theorem exists_stub?_of_unique (unique : ∀ first second, tables.Admit username domain first →
    tables.Admit username domain second → first = second) :
    ∃ user, tables.stub? username domain = some user := by
  cases found : tables.stub? username domain with
  | none =>
    have same : Identity.mk "" "" = Identity.mk "-" "" :=
      unique _ _ (admit_of_stub?_eq_none found _) (admit_of_stub?_eq_none found _)
    exact absurd (congrArg Identity.instanceId same) (by decide)
  | some user => exact ⟨user, rfl⟩

/-- Where the user was found, other tables that admit no more have the user too, with the same
identifiers. -/
theorem exists_stub?_of_admit
    (noMore : ∀ identity, changed.Admit username domain identity → tables.Admit username domain identity)
    {user : User} (found : tables.stub? username domain = some user) :
    ∃ other, changed.stub? username domain = some other ∧
      Identity.IsOf ⟨user.instanceId, user.id⟩ other := by
  have isOf : ∀ identity, changed.Admit username domain identity → identity.IsOf user :=
    fun identity admitted => noMore identity admitted user found
  obtain ⟨other, alsoFound⟩ : ∃ other, changed.stub? username domain = some other :=
    exists_stub?_of_unique fun first second isFirst isSecond =>
      (isOf first isFirst).unique (isOf second isSecond)
  obtain ⟨sameInstance, sameUser⟩ := isOf _ (admit_of_stub? alsoFound)
  exact ⟨other, alsoFound, sameInstance.symm, sameUser.symm⟩

end Tables

/-! ### Starting anew -/

/-- The site of a service that was started in place of the former one. -/
def Site.restarted (configuration : Configuration) (site : Site) : Site :=
  let settings := Service.localSettings configuration
  let (row, tables) :=
    site.world.tables.putLocal settings (identifier site.world.issued) site.world.time
  { service := ⟨configuration, { row with mode := settings.mode }⟩
    surroundings := site.surroundings
    world := { site.world with
      tables := tables
      issued := site.world.issued + 1 } }

theorem Site.isReachable_restarted {site : Site} (reachable : site.IsReachable)
    (configuration : Configuration) : (site.restarted configuration).IsReachable := by
  have isReachable := Service.IsReachable.isReachable reachable
  exact .started isReachable site.surroundings site.world.time
    (World.carryOut_writeLocal_of_isSound isReachable.isSound site.surroundings _ _)

/-! ### The world of a query -/

namespace Query

variable {query : Query} {identity : Identity} {world : World}

/-- What the resolutions of a user leave as it is: all that they rely on, but for the rows of the instance
and its users. -/
structure Stands (query : Query) (world : World) : Prop where
  isSound : world.IsSound
  hasDistinctDomains : world.tables.HasDistinctDomains
  isOther : ∀ row ∈ world.tables.instances, lower row.domain = lower query.domain → row.isLocal = false
  isHome : (query.site.service.home.id, query.site.service.domain) ∈ world.tables.addresses
  sameHome : world.tables.instanceWithId? query.site.service.home.id =
    query.site.world.tables.instanceWithId? query.site.service.home.id
  samePeers : world.tables.peers = query.site.world.tables.peers
  sameStore : world.store = query.site.world.store
  notEarlier : query.site.world.now ≤ world.now

theorem IsOpen.forgotten (isOpen : query.IsOpen) {key : String}
    (isOwn : key ∈ ownKeys query.username query.domain) :
    query.site.world.store.get? query.site.world.now key = none := by
  rcases List.mem_pair.mp isOwn with rfl | rfl
  · exact isOpen.notCooling
  · exact isOpen.notMissed

namespace Stands

theorem start (isOpen : query.IsOpen)
    (isOther : ∀ row ∈ query.site.world.tables.instances, lower row.domain = lower query.domain →
      row.isLocal = false) : query.Stands query.site.world where
  isSound := (Service.IsReachable.isReachable isOpen.reachable).isSound
  hasDistinctDomains := (Service.IsReachable.isReachable isOpen.reachable).hasDistinctDomains
  isOther := isOther
  isHome := Service.IsReachable.address isOpen.reachable
  sameHome := rfl
  samePeers := rfl
  sameStore := rfl
  notEarlier := Nat.le_refl _

theorem later (stands : query.Stands world) (span : Nat) :
    query.Stands { world with now := world.now + span } :=
  { stands with
    isSound := ⟨stands.isSound.isOpen, stands.isSound.tables⟩
    notEarlier := Nat.le_trans stands.notEarlier (Nat.le_add_right _ _) }

/-- Only the tables, the store and the time count. -/
theorem of_eq (stands : query.Stands world) {after : World} (isSound : after.IsSound)
    (sameTables : after.tables = world.tables) (sameStore : after.store = world.store)
    (sameTime : after.now = world.now) : query.Stands after where
  isSound := isSound
  hasDistinctDomains := sameTables ▸ stands.hasDistinctDomains
  isOther := sameTables ▸ stands.isOther
  isHome := sameTables ▸ stands.isHome
  sameHome := sameTables ▸ stands.sameHome
  samePeers := sameTables ▸ stands.samePeers
  sameStore := sameStore.trans stands.sameStore
  notEarlier := sameTime ▸ stands.notEarlier

/-- Writing the instance with the user succeeds, and leaves no other identifiers admitted than those that
it gives back and that were admitted before. -/
theorem carryOut_writeRemoteUser (stands : query.Stands world) (isOpen : query.IsOpen)
    (isForeign : query.domain ≠ query.site.service.domain) (now : Timestamp) :
    ∃ user after, world.carryOut query.site.surroundings
        (.writeRemoteUser (remoteSettings query.domain query.declaration) (stubFields query.profile) now) =
        (some (.ok user), after) ∧ query.Stands after ∧
      ∀ identity, after.tables.Admit query.username query.domain identity →
        world.tables.Admit query.username query.domain identity ∧ identity.IsOf user := by
  have sound := stands.isSound.tables
  have isOther : ∀ row ∈ world.tables.instances, nameKey row.domain = nameKey query.domain →
      row.isLocal = false := fun row isRow atDomain =>
    stands.isOther row isRow ((DomainName.nameKey_eq_iff isOpen.accepted).mp atDomain)
  obtain ⟨user, changed, written⟩ :=
    Tables.exists_putRemoteUser sound isOther query.declaration query.profile now
  have carried : world.carryOut query.site.surroundings
      (.writeRemoteUser (remoteSettings query.domain query.declaration) (stubFields query.profile) now) =
      (some (.ok user), { world with tables := changed, issued := world.issued + 2 }) := by
    rw [World.carryOut_writeRemoteUser, World.changeTables_of_ok stands.isSound.isOpen written]
  have soundThen : ({ world with tables := changed, issued := world.issued + 2 } : World).IsSound := by
    have soundCarried := World.isSound_carryOut stands.isSound query.site.surroundings
      (.writeRemoteUser (remoteSettings query.domain query.declaration) (stubFields query.profile) now)
    rw [carried] at soundCarried
    exact soundCarried
  have distinctThen : changed.HasDistinctDomains :=
    stands.hasDistinctDomains.canBecome (.remoteUser written)
  obtain ⟨_, -, answers⟩ := isOpen.served.answers
  have named : lower query.profile.username = lower query.username := lower_username_of_found (answers [])
  obtain ⟨row, takenIn⟩ :=
    Tables.hasTakenIn_putRemoteUser sound stands.hasDistinctDomains named written
  have leaves := Tables.leavesElsewhere_putRemoteUser sound isOpen.isNulFree written
  have elsewhere : query.site.service.domain ≠ lower query.domain := by
    rw [isOpen.lower_domain]
    exact isForeign.symm
  have standsThen : query.Stands { world with tables := changed, issued := world.issued + 2 } :=
    { stands with
      isSound := soundThen
      hasDistinctDomains := distinctThen
      isOther := fun _ isRow atDomain =>
        takenIn.isLocal_eq_false distinctThen isRow (nameKey_eq_of_lower_eq atDomain)
      isHome := (Tables.addresses_putRemoteUser written).subset stands.isHome
      sameHome := (leaves.instanceWithId?_eq isOpen.isNulFree sound soundThen.tables stands.isHome
        elsewhere).trans stands.sameHome
      samePeers := leaves.peers.trans stands.samePeers }
  exact ⟨user, _, carried, standsThen, fun _ =>
    takenIn.admit named sound stands.hasDistinctDomains soundThen.tables distinctThen⟩

/-- A command within the contract has a reply; what the resolutions rely on stays, and the reply is as
promised for all identifiers that are still admitted, which were so before. -/
theorem carryOut (stands : query.Stands world) (isOpen : query.IsOpen)
    (isForeign : query.domain ≠ query.site.service.domain) {command : Command}
    (allowed : (query.contract identity).allows command) :
    ∃ reply after, world.carryOut query.site.surroundings command = (some reply, after) ∧
      query.Stands after ∧
      ∀ identity, after.tables.Admit query.username query.domain identity →
        world.tables.Admit query.username query.domain identity ∧
        (query.contract identity).promises command reply := by
  have sound : ∀ command, (world.carryOut query.site.surroundings command).2.IsSound :=
    World.isSound_carryOut stands.isSound query.site.surroundings
  have wasOpen : query.site.world.isDatabaseOpen = true :=
    (Service.IsReachable.isReachable isOpen.reachable).isSound.isOpen
  cases command with
  | clock => exact ⟨_, _, rfl, stands, fun _ admitted => ⟨admitted, trivial⟩⟩
  | count event =>
    exact ⟨_, _, rfl, stands.of_eq (sound (.count event)) rfl rfl rfl,
      fun _ admitted => ⟨admitted, trivial⟩⟩
  | readMode instanceId =>
    obtain rfl := allowed
    refine ⟨_, _, rfl, stands, fun _ admitted => ⟨admitted, ?_⟩⟩
    show world.readTables _ = query.site.world.readTables _
    rw [World.readTables, World.readTables, if_pos stands.isSound.isOpen, if_pos wasOpen, World.modeOf,
      World.modeOf, stands.sameHome]
  | isActivePeer instanceId domain =>
    refine ⟨_, _, rfl, stands, fun _ admitted => ⟨admitted, ?_⟩⟩
    show world.readTables _ = query.site.world.readTables _
    rw [World.readTables, World.readTables, if_pos stands.isSound.isOpen, if_pos wasOpen]
    rw [Tables.hasActivePeer, Tables.hasActivePeer, Tables.peer?, Tables.peer?, stands.samePeers]
  | findStub name domain =>
    obtain ⟨sameName, rfl⟩ := allowed
    refine ⟨_, _, rfl, stands, fun _ admitted => ⟨admitted, _, if_pos stands.isSound.isOpen, ?_⟩⟩
    rw [Tables.stub?_eq_of_lower_eq sameName]
    exact admitted
  | «recall» key =>
    obtain ⟨reply, carried, given⟩ := World.carryOut_recall query.site.surroundings key world
    have soundThen := sound (.recall key)
    rw [carried] at soundThen
    refine ⟨reply, _, carried, stands.of_eq soundThen rfl rfl rfl,
      fun _ admitted => ⟨admitted, fun value isOk => ?_⟩⟩
    rw [given value isOk, stands.sameStore]
    exact ShortTermStore.get?_eq_none_of_le (isOpen.forgotten allowed) stands.notEarlier
  | request url =>
    refine ⟨_, _, rfl, stands.of_eq (sound (.request url)) rfl rfl rfl, fun _ admitted => ⟨admitted, ?_⟩⟩
    obtain ⟨first, declaredAt, declares⟩ := isOpen.served.declares
    obtain ⟨second, lookedUpAt, answers⟩ := isOpen.served.answers
    constructor
    · intro atFirst
      cases declaredAt.symm.trans atFirst
      exact declares _
    · intro atSecond
      cases lookedUpAt.symm.trans atSecond
      exact answers _
  | writeRemoteUser settings fields now =>
    obtain ⟨rfl, rfl⟩ := allowed
    obtain ⟨user, after, carried, standsThen, admits⟩ :=
      stands.carryOut_writeRemoteUser isOpen isForeign now
    refine ⟨_, after, carried, standsThen, fun identity admitted => ?_⟩
    obtain ⟨before, isOf⟩ := admits identity admitted
    exact ⟨before, user, rfl, isOf⟩
  | _ => exact absurd allowed not_false

end Stands

/-! ### Resolutions that run together -/

/-- Resolutions that are on course: none has broken down, and all keep the contract for all identifiers
that are still admitted. -/
structure IsOnCourse (query : Query) (threads : Threads (Except Failure Resolved)) : Prop where
  stands : query.Stands threads.world
  unbroken : none ∉ threads.programs
  keep : ∀ identity, threads.world.tables.Admit query.username query.domain identity →
    threads.Keep (query.contract identity) (query.IsAnswer identity)

/-- Some actions, run together at the site, after so many moves. -/
def running (query : Query) (actions : List (Action Resolved)) (moves : Nat → Move) :
    Nat → Threads (Except Failure Resolved) :=
  Threads.after query.site.surroundings moves
    ⟨actions.map fun action => some action.toProgram, query.site.world⟩

/-- An outcome is the answer for one pair of identifiers at most. -/
theorem IsAnswer.unique {first second : Identity} {outcome : Except Failure Resolved}
    (isFirst : query.IsAnswer first outcome) (isSecond : query.IsAnswer second outcome) :
    first = second := by
  obtain ⟨resolved, rfl, -, isOf⟩ := isFirst
  obtain ⟨_, same, -, alsoOf⟩ := isSecond
  cases same
  exact isOf.unique alsoOf

namespace IsOnCourse

variable {threads : Threads (Except Failure Resolved)}

theorem start (isOpen : query.IsOpen) (isForeign : query.domain ≠ query.site.service.domain)
    (isOther : ∀ row ∈ query.site.world.tables.instances, lower row.domain = lower query.domain →
      row.isLocal = false)
    {actions : List (Action Resolved)} (areResolutions : ∀ action ∈ actions, query.IsResolution action) :
    query.IsOnCourse ⟨actions.map fun action => some action.toProgram, query.site.world⟩ where
  stands := .start isOpen isOther
  unbroken isNone := by
    obtain ⟨action, -, isNone⟩ := List.mem_map.mp isNone
    cases isNone
  keep identity _ program member := by
    obtain ⟨action, isAction, same⟩ := List.mem_map.mp member
    cases same
    exact (areResolutions action isAction).keeps isOpen isForeign

/-- Whatever comes next, the resolutions stay on course, and no other identifiers are admitted than
before. -/
theorem move (onCourse : query.IsOnCourse threads) (isOpen : query.IsOpen)
    (isForeign : query.domain ≠ query.site.service.domain) (move : Move) :
    query.IsOnCourse (threads.move query.site.surroundings move) ∧
      ∀ identity,
        (threads.move query.site.surroundings move).world.tables.Admit query.username query.domain
          identity → threads.world.tables.Admit query.username query.domain identity := by
  cases move with
  | wait span =>
    exact ⟨⟨onCourse.stands.later span, onCourse.unbroken, onCourse.keep⟩, fun _ admitted => admitted⟩
  | step place =>
    by_cases isStep : ∃ command next, threads.programs[place]? = some (some (.step command next))
    · obtain ⟨command, next, isThere⟩ := isStep
      obtain ⟨current, isAdmitted⟩ :=
        Tables.exists_admit threads.world.tables query.username query.domain
      obtain ⟨reply, after, carried, standsThen, admits⟩ :=
        onCourse.stands.carryOut isOpen isForeign ((onCourse.keep current isAdmitted).allows isThere)
      have moved : threads.move query.site.surroundings (.step place) =
          ⟨threads.programs.set place (some (next reply)), after⟩ := by
        rw [Threads.move, Threads.advanceAt_of_step isThere, carried]
        rfl
      rw [moved]
      refine ⟨⟨standsThen, fun isNone => ?_, fun identity admitted => ?_⟩, fun identity admitted =>
        (admits identity admitted).1⟩
      · rcases List.mem_or_eq_of_mem_set isNone with isBefore | isLater
        · exact onCourse.unbroken isBefore
        · cases isLater
      · obtain ⟨before, promised⟩ := admits identity admitted
        rw [← moved]
        refine (onCourse.keep identity before).advanceAt isThere fun other replied => ?_
        rw [carried] at replied
        cases replied
        exact promised
    · have same : threads.move query.site.surroundings (.step place) = threads :=
        Threads.advanceAt_of_not_step fun command next isThere => isStep ⟨command, next, isThere⟩
      rw [same]
      exact ⟨onCourse, fun _ admitted => admitted⟩

/-- A resolution that has come to its end has the answer for all identifiers that are admitted. -/
theorem isAnswer_of_done (onCourse : query.IsOnCourse threads)
    (admitted : threads.world.tables.Admit query.username query.domain identity)
    {outcome : Except Failure Resolved} (isDone : some (.done outcome) ∈ threads.programs) :
    query.IsAnswer identity outcome := by
  cases onCourse.keep identity admitted _ isDone with
  | done isEnd => exact isEnd

/-- Where one resolution has come to its end the user is there. -/
theorem exists_stub?_of_done (onCourse : query.IsOnCourse threads) {outcome : Except Failure Resolved}
    (isDone : some (.done outcome) ∈ threads.programs) :
    ∃ user, threads.world.tables.stub? query.username query.domain = some user :=
  Tables.exists_stub?_of_unique fun _ _ isFirst isSecond =>
    (onCourse.isAnswer_of_done isFirst isDone).unique (onCourse.isAnswer_of_done isSecond isDone)

/-- Where the user is there, there is one row for the user and one for the instance, with the identifiers
that are admitted. -/
theorem holdOnce (onCourse : query.IsOnCourse threads)
    (admitted : threads.world.tables.Admit query.username query.domain identity) {user : User}
    (found : threads.world.tables.stub? query.username query.domain = some user) :
    threads.world.tables.HoldOnce query.username query.domain identity := by
  have same : identity = ⟨user.instanceId, user.id⟩ := (admitted user found).unique ⟨rfl, rfl⟩
  rw [same]
  exact Tables.holdOnce_of_stub? onCourse.stands.isSound.tables onCourse.stands.hasDistinctDomains found

end IsOnCourse

section

variable {actions : List (Action Resolved)} {moves : Nat → Move}

theorem isOnCourse_running (isOpen : query.IsOpen) (isForeign : query.domain ≠ query.site.service.domain)
    (isOther : ∀ row ∈ query.site.world.tables.instances, lower row.domain = lower query.domain →
      row.isLocal = false)
    (areResolutions : ∀ action ∈ actions, query.IsResolution action) (time : Nat) :
    query.IsOnCourse (query.running actions moves time) :=
  Threads.holds_after (fun _ onCourse move => (onCourse.move isOpen isForeign move).1)
    (.start isOpen isForeign isOther areResolutions) time

/-- No identifiers are admitted later that were not before. -/
theorem admit_of_le (onCourse : ∀ time, query.IsOnCourse (query.running actions moves time))
    (isOpen : query.IsOpen) (isForeign : query.domain ≠ query.site.service.domain) {time later : Nat}
    (le : time ≤ later)
    (admitted : (query.running actions moves later).world.tables.Admit query.username query.domain
      identity) :
    (query.running actions moves time).world.tables.Admit query.username query.domain identity := by
  induction later, le using Nat.le_induction with
  | base => exact admitted
  | succ later _ inductionHypothesis =>
    exact inductionHypothesis (((onCourse later).move isOpen isForeign (moves later)).2 identity admitted)

/-- There is a pair of identifiers that is always admitted: that of the user who is there at some time, if
there is one. -/
theorem exists_forall_admit (onCourse : ∀ time, query.IsOnCourse (query.running actions moves time))
    (isOpen : query.IsOpen) (isForeign : query.domain ≠ query.site.service.domain) :
    ∃ identity, ∀ time,
      (query.running actions moves time).world.tables.Admit query.username query.domain identity := by
  by_cases everFound : ∃ time user,
      (query.running actions moves time).world.tables.stub? query.username query.domain = some user
  · obtain ⟨time, user, found⟩ := everFound
    refine ⟨⟨user.instanceId, user.id⟩, fun other => ?_⟩
    rcases Nat.le_total other time with le | le
    · exact admit_of_le onCourse isOpen isForeign le (Tables.admit_of_stub? found)
    · obtain ⟨same, alsoFound, isOf⟩ := Tables.exists_stub?_of_admit
        (fun _ => admit_of_le onCourse isOpen isForeign le) found
      intro another isAnother
      cases alsoFound.symm.trans isAnother
      exact isOf
  · refine ⟨⟨"", ""⟩, fun time user found => ?_⟩
    exact absurd ⟨time, user, found⟩ everFound

end

/-- Resolutions of one user that run together converge. There is one pair of identifiers that all of them
give, as soon as they come to their end, and none of them breaks down. Once the user is there, there
is one row for the user and one for the instance from then on, and they have that pair. If the
schedule is fair, all come to their end. -/
theorem resolutions_converge (isOpen : query.IsOpen) (isForeign : query.domain ≠ query.site.service.domain)
    (isOther : ∀ row ∈ query.site.world.tables.instances, lower row.domain = lower query.domain →
      row.isLocal = false)
    {actions : List (Action Resolved)} (areResolutions : ∀ action ∈ actions, query.IsResolution action)
    (moves : Nat → Move) :
    ∃ identity : Identity,
      (∀ time, none ∉ (query.running actions moves time).programs) ∧
      (∀ time outcome, some (.done outcome) ∈ (query.running actions moves time).programs →
        query.IsAnswer identity outcome ∧
        (query.running actions moves time).world.tables.HoldOnce query.username query.domain identity) ∧
      (∀ time user,
        (query.running actions moves time).world.tables.stub? query.username query.domain = some user →
        ∀ later, time ≤ later →
          (query.running actions moves later).world.tables.HoldOnce query.username query.domain
            identity) ∧
      (Move.IsFair moves actions.length → ∃ time, ∀ later, time ≤ later →
        (∀ place < actions.length, ∃ outcome,
          (query.running actions moves later).programs[place]? = some (some (.done outcome)) ∧
          query.IsAnswer identity outcome) ∧
        (actions ≠ [] →
          (query.running actions moves later).world.tables.HoldOnce query.username query.domain
            identity)) := by
  have onCourse : ∀ time, query.IsOnCourse (query.running actions moves time) :=
    isOnCourse_running isOpen isForeign isOther areResolutions
  obtain ⟨identity, admitted⟩ := exists_forall_admit onCourse isOpen isForeign
  have answered : ∀ time outcome,
      some (.done outcome) ∈ (query.running actions moves time).programs →
      query.IsAnswer identity outcome ∧
      (query.running actions moves time).world.tables.HoldOnce query.username query.domain
        identity := by
    intro time outcome isDone
    obtain ⟨user, found⟩ := (onCourse time).exists_stub?_of_done isDone
    exact ⟨(onCourse time).isAnswer_of_done (admitted time) isDone,
      (onCourse time).holdOnce (admitted time) found⟩
  refine ⟨identity, fun time => (onCourse time).unbroken, answered, ?_, fun isFair => ?_⟩
  · intro time user found later le
    obtain ⟨other, stillFound, -⟩ := Tables.exists_stub?_of_admit
      (fun _ => admit_of_le onCourse isOpen isForeign le) found
    exact (onCourse later).holdOnce (admitted later) stillFound
  · rw [← List.length_map fun action : Action Resolved => some action.toProgram] at isFair ⊢
    obtain ⟨time, allDone⟩ := Threads.exists_forall_done isFair fun time => (onCourse time).unbroken
    refine ⟨time, fun later le => ⟨fun place isPlace => ?_, fun notEmpty => ?_⟩⟩
    · obtain ⟨outcome, isDone⟩ := allDone later le place isPlace
      exact ⟨outcome, isDone, (answered later outcome (List.mem_of_getElem? isDone)).1⟩
    · have isPlace : 0 < (actions.map fun action => some action.toProgram).length :=
        List.length_pos_iff.mpr (List.map_eq_nil_iff.not.mpr notEmpty)
      obtain ⟨outcome, isDone⟩ := allDone later le 0 isPlace
      exact (answered later outcome (List.mem_of_getElem? isDone)).2

/-! ### The instance that answers -/

/-- A user for whom that instance answers. -/
def answered (site : Site) (profile : Profile) : Query :=
  ⟨site, profile.username, "other.example", .plain, profile⟩

theorem isServed_answered {site : Site} {profile : Profile}
    (answering : site.surroundings = .answering profile)
    (isAnswered : IsAnswered (.answering profile) "other.example" profile.username [] .plain profile) :
    (answered site profile).IsServed := by
  obtain ⟨⟨first, second, declaredAt, lookedUpAt, declared, found⟩, takesPart⟩ := isAnswered
  refine ⟨⟨first, declaredAt, fun _ => ?_⟩, ⟨second, lookedUpAt, fun _ => ?_⟩, takesPart⟩
  · show Declaration.ofExchange _ (site.surroundings.transport _ _) = _
    rw [answering]
    exact declared
  · show Profile.Answer.ofExchange _ (site.surroundings.transport _ _) = _
    rw [answering]
    exact found

theorem isServed_alice {site : Site} (answering : site.surroundings = .answering .alice) :
    (answered site .alice).IsServed :=
  isServed_answered answering (Surroundings.isAnswered_alice [])

/-- Three resolutions take turns at a site, until each has the same answer. -/
theorem resolutions_converge_elsewhere :
    let query := answered .elsewhere .alice
    let actions := [Site.elsewhere.service.resolve "alice@other.example",
      Site.elsewhere.service.resolve "ALICE@Other.Example",
      resolveRemote Site.elsewhere.service.windows "Alice" "other.example"]
    query.IsOpen ∧ query.domain ≠ query.site.service.domain ∧
      (∀ row ∈ query.site.world.tables.instances, lower row.domain = lower query.domain →
        row.isLocal = false) ∧
      (∀ action ∈ actions, query.IsResolution action) ∧
      ∃ identity time, ∀ later, time ≤ later →
        (∀ place < 3, ∃ outcome,
          (query.running actions (fun time => .step (time % 3)) later).programs[place]? =
            some (some (.done outcome)) ∧
          query.IsAnswer identity outcome) ∧
        (query.running actions (fun time => .step (time % 3)) later).world.tables.HoldOnce "alice"
          "other.example" identity := by
  intro query actions
  have isOpen : query.IsOpen :=
    ⟨Site.isReachable_atStart _ _ _ _, by decide, by decide, rfl, rfl, isServed_alice rfl⟩
  have isForeign : query.domain ≠ query.site.service.domain := by decide
  have isOther : ∀ row ∈ query.site.world.tables.instances, lower row.domain = lower query.domain →
      row.isLocal = false := by decide
  have areResolutions : ∀ action ∈ actions, query.IsResolution action := by
    have valid : Username.validate query.username = .ok () := by decide
    intro action isAction
    rcases List.mem_cons.mp isAction with rfl | isAction
    · exact .ofHandle ⟨valid, "alice", "other.example", by decide, by decide, by decide⟩
    · rcases List.mem_cons.mp isAction with rfl | isAction
      · exact .ofHandle ⟨valid, "ALICE", "Other.Example", by decide, by decide, by decide⟩
      · rw [List.mem_singleton.mp isAction]
        exact .direct _ (by decide)
  have isFair : Move.IsFair (fun time => .step (time % 3)) 3 := by
    intro place isPlace time
    refine ⟨3 * time + place, by omega, congrArg Move.step ?_⟩
    omega
  obtain ⟨identity, -, -, -, ends⟩ := resolutions_converge isOpen isForeign isOther areResolutions
    fun time => .step (time % 3)
  obtain ⟨time, atEnd⟩ := ends isFair
  exact ⟨isOpen, isForeign, isOther, areResolutions, identity, time, fun later le =>
    ⟨(atEnd later le).1, (atEnd later le).2 (List.cons_ne_nil _ _)⟩⟩

/-! ### Sites that do not ask -/

/-- A profile whose username is acceptable in an answer, but not in a handle. -/
def loud : Profile :=
  { Profile.alice with username := "alice!" }

/-- A site that may ask for that user. -/
def loudSite : Site :=
  .answered "home.example" loud

/-- A site whose own domain is that of the instance that answers. -/
def ownSite : Site :=
  .answered "other.example" .alice

/-- That site, started under another domain. -/
def movedSite : Site :=
  ownSite.restarted (.plain "home.example")

theorem isOpen_loudSite : (answered loudSite loud).IsOpen := by
  have isAnswered : IsAnswered (.answering loud) "other.example" "alice!" [] .plain loud :=
    Surroundings.isAnswered_answering rfl []
  exact ⟨Site.isReachable_atStart _ _ _ _, by decide, by decide, rfl, rfl, isServed_answered rfl isAnswered⟩

theorem isOpen_ownSite : (answered ownSite .alice).IsOpen :=
  ⟨Site.isReachable_atStart _ _ _ _, by decide, by decide, rfl, rfl, isServed_alice rfl⟩

theorem isOpen_movedSite : (answered movedSite .alice).IsOpen :=
  ⟨Site.isReachable_restarted isOpen_ownSite.reachable _, by decide, by decide, rfl, rfl,
    isServed_alice rfl⟩

theorem isHandle_alice (site : Site) : (answered site .alice).IsHandle "alice@other.example" := by
  have valid : Username.validate "alice" = .ok () := by decide
  have reads : Handle.read "alice@other.example" = ⟨"alice", some "other.example"⟩ := by decide
  have normal : DomainName.normalize "other.example" = "other.example" := by decide
  exact ⟨valid, "alice", "other.example", reads, rfl, normal⟩

theorem resolve_loudSite : (loudSite.resolve "alice!@other.example").1 =
    some (.error (.invalidHandle "Username contains invalid characters")) := by
  have reads : Handle.read "alice!@other.example" = ⟨"alice!", some "other.example"⟩ := by decide
  have refused : Username.validate "alice!" =
      .error (.invalidHandle "Username contains invalid characters") := by decide
  have counts := (Service.run_resolve_counts loudSite.surroundings loudSite.service "alice!@other.example"
    loudSite.world).1
  rw [reads, run_resolveHandle, refused] at counts
  exact counts

theorem resolve_ownSite : (ownSite.resolve "alice@other.example").1 =
    some (.error (.userNotFound "alice")) := by
  have reads : Handle.read "alice@other.example" = ⟨"alice", some "other.example"⟩ := by decide
  have valid : Username.validate "alice" = .ok () := by decide
  have atHome : foreignDomain? ownSite.service ⟨"alice", some "other.example"⟩ = none := by decide
  have counts := (Service.run_resolve_counts ownSite.surroundings ownSite.service "alice@other.example"
    ownSite.world).1
  rw [reads, run_resolveHandle, valid] at counts
  dsimp only at counts
  rw [atHome] at counts
  exact counts

theorem resolve_movedSite : (movedSite.resolve "alice@other.example").1 =
    some (.error (.internal "Refusing to overwrite local instance record for other.example")) := by
  have reads : Handle.read "alice@other.example" = ⟨"alice", some "other.example"⟩ := by decide
  have valid : Username.validate "alice" = .ok () := by decide
  have isForeign : DomainName.normalize "other.example" ≠ movedSite.service.domain := by decide
  rw [Site.resolve_of_isAnswered rfl reads valid isForeign isOpen_movedSite.permitted
    isOpen_movedSite.accepted rfl rfl rfl (Surroundings.isAnswered_alice _)]
  rfl

/-- There are handles for which sites do not ask although nothing stands in the way. The first one has
no valid username. The second one has the domain of the site, which answers from its accounts. In the
third case the site has been started under another domain since, but the row of the former one still
stands for the site itself. -/
theorem resolutions_not_answered :
    ((answered loudSite loud).IsOpen ∧
      Handle.read "alice!@other.example" = ⟨"alice!", some "other.example"⟩ ∧
      (loudSite.resolve "alice!@other.example").1 =
        some (.error (.invalidHandle "Username contains invalid characters"))) ∧
    ((answered ownSite .alice).IsOpen ∧ (answered ownSite .alice).IsHandle "alice@other.example" ∧
      (ownSite.resolve "alice@other.example").1 = some (.error (.userNotFound "alice"))) ∧
    ((answered movedSite .alice).IsOpen ∧ (answered movedSite .alice).IsHandle "alice@other.example" ∧
      (movedSite.resolve "alice@other.example").1 =
        some (.error (.internal "Refusing to overwrite local instance record for other.example"))) :=
  ⟨⟨isOpen_loudSite, by decide, resolve_loudSite⟩, ⟨isOpen_ownSite, isHandle_alice _, resolve_ownSite⟩,
    isOpen_movedSite, isHandle_alice _, resolve_movedSite⟩

end Query

end HandleFederation
