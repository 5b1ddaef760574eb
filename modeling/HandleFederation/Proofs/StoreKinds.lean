/-
This file says how little tells the two kinds of store apart. A store in memory keeps what has
expired until it is swept, and a server forgets it by itself, under keys of its own; but both
give the same values at the same times, if every value is kept for a whole number of seconds,
at least one, and there are points of time that late. The lifetimes that a service gives are
such numbers. So whatever it is busy with, it does the same over either store and comes to the
same, except that a sweep counts what it removes from memory and finds nothing to remove from a
server.
-/

import HandleFederation.Proofs.FailingStore
import HandleFederation.Proofs.SuppressionWindow

namespace HandleFederation

open Program Text

/-! ### Entries under other keys -/

namespace TimedEntries

/-- From a time on a server gives the same values as entries in memory, each under its key with a fixed text
in front of it. -/
structure IsMirrored (now : Nat) (keyPrefix : String) (entries server : TimedEntries) : Prop where
  keyed : entries.IsKeyed
  keyedThere : server.IsKeyed
  same : ∀ key later, now ≤ later → server.get? later (keyPrefix ++ key) = entries.get? later key

theorem isMirrored_empty (now : Nat) (keyPrefix : String) : IsMirrored now keyPrefix empty empty :=
  ⟨isKeyed_empty, isKeyed_empty, fun _ _ _ => rfl⟩

theorem IsKeyed.get?_delete_self {store : TimedEntries} (keyed : store.IsKeyed) (now : Nat) (key : String) :
    (store.delete key).get? now key = none := by
  unfold get? delete
  dsimp only
  rw [lookup_filter keyed]
  cases store.entries.lookup key with
  | none => rfl
  | some value => rw [Option.filter_some, if_neg (by simp)]

namespace IsMirrored

variable {now : Nat} {keyPrefix : String} {entries server : TimedEntries}

theorem later (mirrored : IsMirrored now keyPrefix entries server) (span : Nat) :
    IsMirrored (now + span) keyPrefix entries server :=
  ⟨mirrored.keyed, mirrored.keyedThere, fun key time le =>
    mirrored.same key time (Nat.le_trans (Nat.le_add_right now span) le)⟩

/-- With a text in front of both keys are the same as they are without it. -/
theorem append_eq_iff {key other : String} : keyPrefix ++ other = keyPrefix ++ key ↔ other = key := by
  rw [← String.toList_inj, String.toList_append, String.toList_append, List.append_cancel_left_eq,
    String.toList_inj]

theorem put (mirrored : IsMirrored now keyPrefix entries server) (key value : String) (expiry : Nat) :
    IsMirrored now keyPrefix (entries.put key value expiry) (server.put (keyPrefix ++ key) value expiry) := by
  refine ⟨mirrored.keyed.put key value expiry, mirrored.keyedThere.put _ value expiry, ?_⟩
  intro other time le
  rw [get?_put, get?_put, mirrored.same other time le]
  simp only [append_eq_iff]

theorem delete (mirrored : IsMirrored now keyPrefix entries server) (key : String) :
    IsMirrored now keyPrefix (entries.delete key) (server.delete (keyPrefix ++ key)) := by
  refine ⟨mirrored.keyed.filter _, mirrored.keyedThere.filter _, fun other time le => ?_⟩
  by_cases same : other = key
  · subst same
    rw [mirrored.keyed.get?_delete_self, mirrored.keyedThere.get?_delete_self]
  · have differs : keyPrefix ++ other ≠ keyPrefix ++ key := fun sameThere => same (append_eq_iff.mp sameThere)
    rw [mirrored.keyed.get?_delete time same, mirrored.keyedThere.get?_delete time differs]
    exact mirrored.same other time le

/-- A sweep of the memory takes nothing away that a server would still give. -/
theorem live (mirrored : IsMirrored now keyPrefix entries server) :
    IsMirrored now keyPrefix (entries.live now) server := by
  refine ⟨mirrored.keyed.filter _, mirrored.keyedThere, fun key time le => ?_⟩
  rw [mirrored.keyed.get?_live le]
  exact mirrored.same key time le

end IsMirrored

end TimedEntries

/-! ### The two stores -/

namespace ShortTermStore

/-- A store is in memory, and another one is a server that mirrors it from a time on. -/
inductive IsMirroredBy (now : Nat) (keyPrefix : String) : ShortTermStore → ShortTermStore → Prop
  | intro {entries server : TimedEntries} (mirrored : entries.IsMirrored now keyPrefix server) :
    IsMirroredBy now keyPrefix (.memory entries) (.shared keyPrefix server)

namespace IsMirroredBy

variable {now : Nat} {keyPrefix : String} {store other : ShortTermStore}

theorem later (mirrored : IsMirroredBy now keyPrefix store other) (span : Nat) :
    IsMirroredBy (now + span) keyPrefix store other := by
  obtain ⟨mirrored⟩ := mirrored
  exact ⟨mirrored.later span⟩

theorem get?_eq (mirrored : IsMirroredBy now keyPrefix store other) (key : String) :
    other.get? now key = store.get? now key := by
  obtain ⟨mirrored⟩ := mirrored
  exact mirrored.same key now (Nat.le_refl now)

/-- A lifetime that is sent to a server is at least one second, and so is this one. -/
theorem set? (mirrored : IsMirroredBy now keyPrefix store other) (key value : String) {seconds : Nat}
    (notNone : seconds ≠ 0) (hasTime : (TimedEntries.expiry? now seconds).isSome = true) :
    ∃ after otherAfter, store.set? now key value seconds = some after ∧
      other.set? now key value seconds = some otherAfter ∧
      IsMirroredBy now keyPrefix after otherAfter := by
  obtain @⟨entries, server, mirrored⟩ := mirrored
  have atLeastOne : max seconds 1 = seconds := Nat.max_eq_left (Nat.one_le_iff_ne_zero.mpr notNone)
  obtain ⟨expiry, isExpiry⟩ := Option.isSome_iff_exists.mp hasTime
  obtain rfl := TimedEntries.eq_of_expiry? isExpiry
  have isSet : ShortTermStore.set? now key value seconds (.memory entries) =
      some (.memory (entries.put key value (now + seconds * TimedEntries.perSecond))) := by
    rw [ShortTermStore.set?, isExpiry, Option.map_some]
  refine ⟨_, _, isSet, rfl, ?_⟩
  dsimp only [sendSet, ServerCommand.execute]
  rw [atLeastOne]
  exact ⟨mirrored.put key value _⟩

theorem delete (mirrored : IsMirroredBy now keyPrefix store other) (key : String) :
    IsMirroredBy now keyPrefix (store.delete now key) (other.delete now key) := by
  obtain ⟨mirrored⟩ := mirrored
  exact ⟨mirrored.delete key⟩

/-- A server has nothing left to remove. -/
theorem purge (mirrored : IsMirroredBy now keyPrefix store other) :
    (other.purge now).1 = 0 ∧ IsMirroredBy now keyPrefix (store.purge now).2 (other.purge now).2 := by
  obtain ⟨mirrored⟩ := mirrored
  exact ⟨rfl, ⟨mirrored.live⟩⟩

end IsMirroredBy

end ShortTermStore

/-! ### Worlds over the two stores -/

namespace World

/-- A world has a store in memory, and another one is the same over a server that mirrors it. -/
structure IsMirroredBy (keyPrefix : String) (world other : World) : Prop where
  stores : world.store.IsMirroredBy world.now keyPrefix other.store
  same : other = world.withStore other.store

variable (surroundings : Surroundings) (store : ShortTermStore) (world : World)

theorem changeTables_withStore {Result : Type} (identifiers : Nat)
    (change : Tables → Except Failure (Result × Tables)) :
    (world.withStore store).changeTables identifiers change =
      ((world.changeTables identifiers change).1,
        (world.changeTables identifiers change).2.withStore store) := by
  unfold changeTables withStore
  dsimp only
  split
  · split <;> rfl
  · rfl

/-- A command in which the store has no part is carried out over another store as it is over this one. -/
theorem carryOut_withStore {command : Command} (noStore : command.usesStore = false) :
    (world.withStore store).carryOut surroundings command =
      ((world.carryOut surroundings command).1, (world.carryOut surroundings command).2.withStore store) := by
  cases command with
  | «recall» key => cases noStore
  | remember key value seconds => cases noStore
  | forget key => cases noStore
  | purge => cases noStore
  | writeLocal settings now =>
    rw [carryOut_writeLocal, carryOut_writeLocal]
    dsimp only
    rw [changeTables_withStore]
    rfl
  | writeRemote settings now =>
    rw [carryOut_writeRemote, carryOut_writeRemote]
    dsimp only
    rw [changeTables_withStore]
    rfl
  | writeMode instanceId mode =>
    rw [carryOut_writeMode, carryOut_writeMode]
    dsimp only
    rw [changeTables_withStore]
  | writePeer instanceId domain status now =>
    rw [carryOut_writePeer, carryOut_writePeer]
    dsimp only
    rw [changeTables_withStore]
  | writeAccount instanceId username displayName now =>
    rw [carryOut_writeAccount, carryOut_writeAccount]
    dsimp only
    rw [changeTables_withStore]
    rfl
  | writeStub instanceId fields now =>
    rw [carryOut_writeStub, carryOut_writeStub]
    dsimp only
    rw [changeTables_withStore]
    rfl
  | writeRemoteUser settings fields now =>
    rw [carryOut_writeRemoteUser, carryOut_writeRemoteUser]
    dsimp only
    rw [changeTables_withStore]
    rfl
  | _ => rfl

/-- A command in which the store has no part leaves it as it is. -/
theorem store_carryOut_of_noStore {command : Command} (noStore : command.usesStore = false) :
    (world.carryOut surroundings command).2.store = world.store := by
  have same : (world.withStore world.store).carryOut surroundings command = _ :=
    carryOut_withStore surroundings world.store world noStore
  exact congrArg (fun outcome => outcome.2.store) same

/-- An operation of a store that does not fail. -/
theorem useStore_of_keepsStore {surroundings : Surroundings} (keeps : surroundings.KeepsStore)
    {Result : Type} (operation : StoreOperation) (use : World → Option (Result × ShortTermStore)) :
    world.useStore surroundings operation use =
      match use world with
      | some (result, store) => (some (.ok result), world.called.withStore store)
      | none => (none, world.called) := by
  rw [useStore, keeps]
  rfl

end World

/-! ### Replies of the two stores -/

/-- The seconds for which a service keeps short-lived values: the one by which it probes the store, and
those of its windows. -/
def Service.lifetimes (service : Service) : List Nat :=
  [5, service.windows.missLifetime, service.windows.discoveryCooldown]

/-- The replies over a server are those over a store in memory, but that a sweep of a server removes
nothing. What is kept is kept for one of a few lifetimes. -/
def Likeness.ofStoreKinds (lifetimes : List Nat) : Likeness where
  allows
    | .remember _ _ seconds => seconds ≠ 0 ∧ seconds ∈ lifetimes
    | _ => True
  alike
    | .purge, reply, other => (∃ count, reply = .ok count) ∧ other = .ok 0
    | _, reply, other => reply = other

namespace Likeness

variable {lifetimes : List Nat}

theorem suitsResolutions_ofStoreKinds {windows : Windows}
    (areLifetimes : [windows.missLifetime, windows.discoveryCooldown] ⊆ lifetimes) :
    (ofStoreKinds lifetimes).SuitsResolutions windows where
  allows command noStore := by
    cases command with
    | remember key value seconds => cases noStore
    | _ => trivial
  distinct command noStore reply other isAlike := by
    cases command with
    | purge => cases noStore
    | _ => exact isAlike
  allowsRecall _ := trivial
  allowsRemember _ _ _ isWindow notNone := ⟨notNone, areLifetimes isWindow⟩
  recalls key reply other isAlike := congrArg Resolution.tellsRemembered isAlike

theorem ofStoreKinds_self {command : Command} (noStore : command.usesStore = false) (reply : Reply command) :
    (ofStoreKinds lifetimes).alike command reply reply := by
  cases command with
  | purge => cases noStore
  | _ => rfl

/-- Where no operation of the store fails and there are points of time late enough, every command comes to
the same over a store in memory and over a server that mirrors it. -/
theorem joins_ofStoreKinds {surroundings : Surroundings} (keeps : surroundings.KeepsStore)
    (keyPrefix : String) :
    (ofStoreKinds lifetimes).Joins
      (fun world => ∀ seconds ∈ lifetimes, (TimedEntries.expiry? world.now seconds).isSome = true)
      (World.IsMirroredBy keyPrefix) (World.carryOut surroundings) (World.carryOut surroundings) where
  carriesOut command allowed world other hasTime related := by
    obtain ⟨stores, same⟩ := related
    generalize other.store = store at stores same
    subst same
    by_cases noStore : command.usesStore = false
    · have sameNow := World.now_carryOut surroundings world command
      have sameStore := World.store_carryOut_of_noStore surroundings world noStore
      rw [World.carryOut_withStore surroundings store world noStore]
      generalize world.carryOut surroundings command = outcome at sameNow sameStore
      obtain ⟨reply, after⟩ := outcome
      refine ⟨?_, ?_, rfl⟩
      · cases reply with
        | none => exact .none
        | some reply => exact .some (ofStoreKinds_self noStore reply)
      · rw [sameNow, sameStore]
        exact stores
    · cases command with
      | «recall» key =>
        simp only [World.carryOut, World.useStore_of_keepsStore _ keeps]
        exact ⟨.some (congrArg Except.ok (stores.get?_eq key).symm), stores, rfl⟩
      | remember key value seconds =>
        obtain ⟨notNone, isLifetime⟩ := allowed
        obtain ⟨after, otherAfter, isSet, isSetThere, mirrored⟩ :=
          stores.set? key value notNone (hasTime seconds isLifetime)
        have isSetThere : (world.withStore store).store.set? (world.withStore store).now key value seconds =
          some otherAfter := isSetThere
        simp only [World.carryOut, World.useStore_of_keepsStore _ keeps, isSet, isSetThere, Option.map_some]
        exact ⟨.some rfl, mirrored, rfl⟩
      | forget key =>
        simp only [World.carryOut, World.useStore_of_keepsStore _ keeps]
        exact ⟨.some rfl, stores.delete key, rfl⟩
      | purge =>
        obtain ⟨nothing, mirrored⟩ := stores.purge
        simp only [World.carryOut, World.useStore_of_keepsStore _ keeps]
        exact ⟨.some ⟨⟨_, rfl⟩, congrArg Except.ok nothing⟩, mirrored, rfl⟩
      | _ => exact absurd rfl noStore
  waits span world other related := by
    obtain ⟨stores, same⟩ := related
    rw [same]
    exact ⟨stores.later span, rfl⟩

end Likeness

/-! ### What a service is busy with -/

/-- What a service is asked to do, or does by itself. -/
inductive Task where
  /-- Resolving a handle. -/
  | resolve (text : String)
  /-- Forgetting the short-lived values that have expired. -/
  | sweep
  /-- Running the jobs in the background, of which a sweep is one. -/
  | runJobs
  /-- Reporting how the server is doing, which probes the store. -/
  | reportHealth

/-- What comes of a task. -/
inductive Task.Outcome where
  | resolved (result : Except Failure Resolved)
  | swept (removed : Except Failure Nat)
  | ran
  | reported (report : HealthReport)

namespace Task

/-- What a service does about a task. -/
def program (service : Service) : Task → Program Outcome
  | .resolve text => (service.resolve text).toProgram.andThen fun result => .done (.resolved result)
  | .sweep => Service.sweep.toProgram.andThen fun removed => .done (.swept removed)
  | .runJobs => Service.runJobs.andThen fun _ => .done .ran
  | .reportHealth => (Health.report service).andThen fun report => .done (.reported report)

/-- What comes of a task over a store in memory and over a server: the same, but that a sweep of a server
removes nothing, however much one of the memory does. -/
inductive Outcome.Corresponds : Outcome → Outcome → Prop
  | resolved (result : Except Failure Resolved) : Corresponds (.resolved result) (.resolved result)
  | swept (count : Nat) : Corresponds (.swept (.ok count)) (.swept (.ok 0))
  | ran : Corresponds .ran .ran
  | reported (report : HealthReport) : Corresponds (.reported report) (.reported report)

end Task

section

variable {lifetimes : List Nat} {Result : Type}

/-- The reply to anything but a sweep is the same over either store. -/
theorem Likeness.ofStoreKinds_distinct {command : Command} (noSweep : command ≠ .purge)
    (reply other : Reply command) (isAlike : (ofStoreKinds lifetimes).alike command reply other) :
    reply = other := by
  cases command with
  | purge => exact absurd rfl noSweep
  | _ => exact isAlike

theorem Program.overlooks_step_ofStoreKinds {command : Command} {next : Reply command → Program Result}
    (allowed : (Likeness.ofStoreKinds lifetimes).allows command) (noSweep : command ≠ .purge)
    (later : ∀ reply, (next reply).Overlooks (.ofStoreKinds lifetimes)) :
    (Program.step command next).Overlooks (.ofStoreKinds lifetimes) :=
  .step allowed (Likeness.ofStoreKinds_distinct noSweep) later

theorem Service.overlooks_checkHealth :
    checkHealth.toProgram.Overlooks (.ofStoreKinds lifetimes) := by
  refine Action.overlooks_bind (overlooks_step_ofStoreKinds trivial nofun fun _ => .done _) fun _ => ?_
  exact Action.overlooks_bind (overlooks_step_ofStoreKinds trivial nofun fun _ => .done _) fun _ => .done _

theorem Health.overlooks_probe {name : String} {onFailure : ComponentStatus} {action : Action Unit}
    (overlooks : action.toProgram.Overlooks (.ofStoreKinds lifetimes)) :
    (probe name onFailure action).Overlooks (.ofStoreKinds lifetimes) := by
  refine overlooks_step_ofStoreKinds trivial nofun fun started => overlooks.andThen fun result => ?_
  refine overlooks_step_ofStoreKinds trivial nofun fun stopped => ?_
  cases result <;> exact .done _

/-- Either store passes the probe or fails it as the other one does. -/
theorem Health.overlooks_probeStore (isLifetime : 5 ∈ lifetimes) :
    probeStore.toProgram.Overlooks (.ofStoreKinds lifetimes) := by
  have allowed : (Likeness.ofStoreKinds lifetimes).allows (.remember probeKey "1" 5) :=
    ⟨by decide, isLifetime⟩
  refine Action.overlooks_bind (overlooks_step_ofStoreKinds allowed nofun fun _ => .done _) fun _ => ?_
  refine Action.overlooks_bind (overlooks_step_ofStoreKinds trivial nofun fun _ => .done _) fun _ => ?_
  exact overlooks_step_ofStoreKinds trivial nofun fun _ => .done _

theorem Health.overlooks_report (service : Service) (isLifetime : 5 ∈ lifetimes) :
    (report service).Overlooks (.ofStoreKinds lifetimes) := by
  refine (overlooks_probe Service.overlooks_checkHealth).andThen fun _ => ?_
  refine (overlooks_probe (overlooks_probeStore isLifetime)).andThen fun _ => ?_
  refine overlooks_step_ofStoreKinds trivial nofun fun _ => ?_
  exact overlooks_step_ofStoreKinds trivial nofun fun _ => .done _

/-- A job is counted by whether it fails, and a sweep fails over neither store. -/
theorem Service.overlooks_runJobs : runJobs.Overlooks (.ofStoreKinds lifetimes) := by
  have sweeps : (runJob "ttl_sweep" sweep).Overlooks (.ofStoreKinds lifetimes) := by
    refine overlooks_step_ofStoreKinds trivial nofun fun started => ?_
    refine Matches.step trivial fun removed nothing isAlike => ?_
    obtain ⟨⟨count, rfl⟩, rfl⟩ := isAlike
    refine overlooks_step_ofStoreKinds trivial nofun fun stopped => ?_
    exact overlooks_step_ofStoreKinds trivial nofun fun _ => .done _
  have checks : (runJob "health_check" checkHealth).Overlooks (.ofStoreKinds lifetimes) := by
    refine (overlooks_checkHealth.timed trivial fun _ _ same => same).andThen fun outcome => ?_
    rcases outcome with ⟨failure | healthy, seconds⟩ <;>
      exact overlooks_step_ofStoreKinds trivial nofun fun _ => .done _
  exact sweeps.andThen fun _ => checks

/-- Every task comes to the same over either store, but for what a sweep removes. -/
theorem Task.matches_program {service : Service} (areLifetimes : service.lifetimes ⊆ lifetimes)
    (task : Task) :
    Matches (.ofStoreKinds lifetimes) Outcome.Corresponds (task.program service) (task.program service) := by
  cases task with
  | resolve text =>
    have suits : (Likeness.ofStoreKinds lifetimes).SuitsResolutions service.windows :=
      Likeness.suitsResolutions_ofStoreKinds fun _ isWindow => areLifetimes (List.mem_cons_of_mem _ isWindow)
    refine Matches.andThen (Service.overlooks_resolve suits text) fun result other same => ?_
    subst same
    exact .done (.resolved result)
  | sweep =>
    refine .step trivial fun removed nothing isAlike => ?_
    obtain ⟨⟨count, rfl⟩, rfl⟩ := isAlike
    exact .done (.swept count)
  | runJobs => exact Matches.andThen Service.overlooks_runJobs fun _ _ _ => .done .ran
  | reportHealth =>
    have isLifetime : 5 ∈ lifetimes := areLifetimes List.mem_cons_self
    refine Matches.andThen (Health.overlooks_report service isLifetime) fun report other same => ?_
    subst same
    exact .done (.reported report)

end

/-! ### Tasks that run together -/

/-- Tasks that a service is busy with at the same time. -/
def Service.working (service : Service) (tasks : List Task) (world : World) : Threads Task.Outcome :=
  ⟨tasks.map fun task => some (task.program service), world⟩

/-- Whatever tasks a service is busy with, one after another or together, and whatever time passes, it comes
to the same over a store in memory and over a server that mirrors it: the same outcomes, requests, tables
and counts, except that a sweep of the server removes nothing. No operation of the store may fail, and
there must be points of time late enough for what is kept in memory. -/
theorem Service.working_over_server {service : Service} {surroundings : Surroundings}
    (keeps : surroundings.KeepsStore) {keyPrefix : String} {world : World} {store server : ShortTermStore}
    (mirrored : store.IsMirroredBy world.now keyPrefix server) (tasks : List Task) {moves : Nat → Move}
    {count : Nat} (hasTime : ∀ seconds ∈ service.lifetimes,
      (TimedEntries.expiry? (world.now + Move.span moves count) seconds).isSome = true) :
    let inMemory := (service.working tasks (world.withStore store)).after surroundings moves count
    let onServer := (service.working tasks (world.withStore server)).after surroundings moves count
    (∀ place, Option.Rel Task.Outcome.Corresponds (inMemory.outcome? place) (onServer.outcome? place)) ∧
      onServer.world = inMemory.world.withStore onServer.world.store ∧
      inMemory.world.store.IsMirroredBy inMemory.world.now keyPrefix onServer.world.store := by
  intro inMemory onServer
  have begins : (service.working tasks (world.withStore store)).Matches (.ofStoreKinds service.lifetimes)
      Task.Outcome.Corresponds (World.IsMirroredBy keyPrefix)
      (service.working tasks (world.withStore server)) := by
    refine ⟨fun place => ?_, mirrored, rfl⟩
    rw [working, working, List.getElem?_map]
    cases tasks[place]? with
    | none => exact .none
    | some task => exact .some (.some (Task.matches_program (List.Subset.refl _) task))
  have ends := begins.afterBy (Likeness.joins_ofStoreKinds keeps keyPrefix) moves count
    fun earlier isEarlier seconds isLifetime => by
      rw [← Threads.after_eq_afterBy, Threads.now_after]
      have le := Nat.add_le_add_left (Move.span_mono moves (Nat.le_of_lt isEarlier)) world.now
      exact TimedEntries.isSome_expiry?_of_le le (hasTime seconds isLifetime)
  rw [← Threads.after_eq_afterBy, ← Threads.after_eq_afterBy] at ends
  exact ⟨ends.outcome?, ends.world.same, ends.world.stores⟩

/-! ### A site over either store -/

namespace Site

/-- A resolution, a sweep and a report at a site take turns, with a second before each command. -/
def takingTurns : Nat → Move :=
  fun turn => if turn % 2 = 0 then .wait 1000000000 else .step (turn / 2 % 3)

theorem isMirroredBy_empty : ShortTermStore.IsMirroredBy 0 "federation:" (.memory .empty)
    (.shared "federation:" .empty) :=
  .intro (TimedEntries.isMirrored_empty 0 "federation:")

/-- Forty moves of a resolution, a sweep and a report come to the same over either store. -/
theorem takingTurns_over_server :
    let service := (waiting 1).service
    let tasks := [.resolve "alice@other.example", .sweep, .reportHealth]
    let inMemory := (service.working tasks ((waiting 1).world.withStore (.memory .empty))).after .silent
      takingTurns 40
    let onServer := (service.working tasks
      ((waiting 1).world.withStore (.shared "federation:" .empty))).after .silent takingTurns 40
    Surroundings.silent.KeepsStore ∧
    ShortTermStore.IsMirroredBy 0 "federation:" (.memory .empty) (.shared "federation:" .empty) ∧
    (∀ seconds ∈ service.lifetimes,
      (TimedEntries.expiry? (0 + Move.span takingTurns 40) seconds).isSome = true) ∧
    (∀ place, Option.Rel Task.Outcome.Corresponds (inMemory.outcome? place) (onServer.outcome? place)) ∧
      onServer.world = inMemory.world.withStore onServer.world.store ∧
      inMemory.world.store.IsMirroredBy inMemory.world.now "federation:" onServer.world.store := by
  have hasTime : ∀ seconds ∈ (waiting 1).service.lifetimes,
      (TimedEntries.expiry? ((waiting 1).world.now + Move.span takingTurns 40) seconds).isSome = true := by
    decide
  have mirrored : ShortTermStore.IsMirroredBy (waiting 1).world.now "federation:" (.memory .empty)
      (.shared "federation:" .empty) := isMirroredBy_empty
  exact ⟨keepsStore_silent, mirrored, hasTime,
    Service.working_over_server keepsStore_silent mirrored _ hasTime⟩

/-- What a sweep at a site over some store comes to, a second after a resolution that found the other
instance silent. -/
def sweptAfterRefusal (store : ShortTermStore) : Option (Except Failure Nat) :=
  let refused := (((waiting 1).service.resolve "alice@other.example").toProgram.run .silent
    ((waiting 1).world.withStore store)).2
  (Service.sweep.toProgram.run .silent (refused.waited 1000000000)).1

/-- A sweep tells by what it counts which kind of store there is. -/
theorem sweep_differs_over_server :
    ShortTermStore.IsMirroredBy 0 "federation:" (.memory .empty) (.shared "federation:" .empty) ∧
    (∀ seconds ∈ (waiting 1).service.lifetimes,
      (TimedEntries.expiry? 1000000000 seconds).isSome = true) ∧
    sweptAfterRefusal (.memory .empty) = some (.ok 1) ∧
    sweptAfterRefusal (.shared "federation:" .empty) = some (.ok 0) :=
  ⟨isMirroredBy_empty, by decide, by decide +kernel, by decide +kernel⟩

end Site

end HandleFederation
