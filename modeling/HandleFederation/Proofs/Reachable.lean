/-
This file says which worlds a service can find itself in. The world of a server is
reached from one in which nothing has happened by any commands in any order, whatever
the surroundings do to each of them, while the clock goes on; so whatever programs run
in it, one after another or together, they stay among these worlds. A service is
reached when it was started in such a world, and what it knows about itself stays
true: its row is there under its identifier and its domain. The database of a reached
world is open and its tables are sound.
-/

import HandleFederation.Proofs.Program
import HandleFederation.Proofs.SoundTables
import HandleFederation.Resolution

namespace HandleFederation

open Program Text

/-! ### Reached worlds -/

/-- A world that comes about by commands and the passing of time. -/
inductive World.IsReachable : World → Prop
  | fresh (store : ShortTermStore) (now : Nat) : IsReachable (.fresh store now)
  | carriedOut {world : World} (reachable : IsReachable world) (surroundings : Surroundings)
      (command : Command) : IsReachable (world.carryOut surroundings command).2
  | later {world : World} (reachable : IsReachable world) (now : Nat) (le : world.now ≤ now) :
      IsReachable { world with now := now }

/-- The world that a program leaves is reached. -/
theorem World.IsReachable.run {Result : Type} {world : World} (reachable : world.IsReachable)
    (surroundings : Surroundings) (program : Program Result) :
    (program.run surroundings world).2.IsReachable := by
  induction program generalizing world with
  | done result => exact reachable
  | step command next inductionHypothesis =>
    have stepped := reachable.carriedOut surroundings command
    rw [run_step]
    generalize world.carryOut surroundings command = outcome at stepped ⊢
    rcases outcome with ⟨_ | reply, after⟩
    · exact stepped
    · exact inductionHypothesis reply stepped

/-! ### Sound worlds -/

/-- The word of a mode is read as that mode. -/
theorem FederationMode.read_word (mode : FederationMode) : read mode.word = .ok mode := by
  have found : ofWord? (lower (trim mode.word)) = some mode := by
    cases mode <;> decide
  rw [read, found]

/-- What holds of every reached world. -/
structure World.IsSound (world : World) : Prop where
  isOpen : world.isDatabaseOpen = true
  tables : world.tables.IsSound world.issued

namespace World

variable {world : World}

/-- A change of the tables that gives a result is carried out on an open database. -/
theorem changeTables_eq_ok {Result : Type} {identifiers : Nat}
    {change : Tables → Except Failure (Result × Tables)} {result : Result} {after : World}
    (changed : world.changeTables identifiers change = (.ok result, after)) :
    ∃ tables, change world.tables = .ok (result, tables) ∧
      after = { world with tables := tables, issued := world.issued + identifiers } := by
  unfold changeTables at changed
  split at changed
  · dsimp only at changed
    split at changed
    · rename_i found tables given
      cases changed
      exact ⟨tables, given, rfl⟩
    · cases changed
  · cases changed

theorem changeTables_of_ok {Result : Type} {identifiers : Nat}
    {change : Tables → Except Failure (Result × Tables)} {result : Result} {tables : Tables}
    (isOpen : world.isDatabaseOpen = true) (changed : change world.tables = .ok (result, tables)) :
    world.changeTables identifiers change =
      (.ok result, { world with tables := tables, issued := world.issued + identifiers }) := by
  unfold changeTables
  rw [if_pos isOpen]
  dsimp only
  rw [changed]

/-- What a change of the tables of an open database comes to. -/
theorem fst_changeTables {Result : Type} {identifiers : Nat}
    {change : Tables → Except Failure (Result × Tables)} (isOpen : world.isDatabaseOpen = true) :
    (world.changeTables identifiers change).1 = (change world.tables).map Prod.fst := by
  unfold changeTables
  rw [if_pos isOpen]
  dsimp only
  cases change world.tables with
  | error failure => rfl
  | ok changed => rfl

theorem isSound_changeTables {Result : Type} (sound : world.IsSound) (identifiers : Nat)
    {change : Tables → Except Failure (Result × Tables)}
    (keeps : ∀ result tables, change world.tables = .ok (result, tables) →
      tables.IsSound (world.issued + identifiers)) :
    (world.changeTables identifiers change).2.IsSound := by
  unfold changeTables
  rw [if_pos sound.isOpen]
  dsimp only
  split
  · rename_i result tables changed
    exact ⟨sound.isOpen, keeps result tables changed⟩
  · exact ⟨sound.isOpen, sound.tables.mono (Nat.le_add_right _ _)⟩

theorem isSound_useStore {Result : Type} (sound : world.IsSound) (surroundings : Surroundings)
    (operation : StoreOperation) (use : World → Option (Result × ShortTermStore)) :
    (world.useStore surroundings operation use).2.IsSound := by
  unfold useStore
  dsimp only
  split
  · exact ⟨sound.isOpen, sound.tables⟩
  · split <;> exact ⟨sound.isOpen, sound.tables⟩

/-- What a row is read as stands where the row stands. -/
theorem readRow_eq_ok {row : InstanceRow} {record : Instance} (read : readRow row = .ok record) :
    record.id = row.id ∧ record.domain = row.domain := by
  unfold readRow InstanceRow.read at read
  cases mode : FederationMode.read row.mode with
  | error unknown => simp [mode, Except.map] at read
  | ok found =>
    simp only [mode, Except.map, Except.ok.injEq] at read
    rw [← read]
    exact ⟨rfl, rfl⟩

theorem readChanged_eq_ok {changed : InstanceRow × Tables} {record : Instance} {tables : Tables}
    (read : readChanged changed = .ok (record, tables)) :
    readRow changed.1 = .ok record ∧ changed.2 = tables := by
  unfold readChanged at read
  cases row : readRow changed.1 with
  | error failure => simp [row, Except.map] at read
  | ok found => simpa [row, Except.map] using read

theorem bind_readChanged_eq_ok {written : Except Failure (InstanceRow × Tables)}
    {record : Instance} {tables : Tables} (read : written.bind readChanged = .ok (record, tables)) :
    ∃ row, written = .ok (row, tables) := by
  rcases written with failure | ⟨row, changed⟩
  · cases read
  · simp only [Except.bind] at read
    rw [← (readChanged_eq_ok read).2]
    exact ⟨row, rfl⟩

theorem setMode_eq_ok {instanceId : String} {mode : FederationMode} {tables changed : Tables}
    (written : setMode instanceId mode tables = .ok ((), changed)) :
    changed = (tables.putMode instanceId mode.word).2 := by
  unfold setMode at written
  generalize tables.putMode instanceId mode.word = put at written ⊢
  rcases put with ⟨_ | count, after⟩
  · cases written
  · cases written
    rfl

/-- Every command keeps a world sound. -/
theorem isSound_carryOut (sound : world.IsSound) (surroundings : Surroundings) (command : Command) :
    (world.carryOut surroundings command).2.IsSound := by
  cases command with
  | writeLocal settings now =>
    rw [carryOut_writeLocal]
    refine isSound_changeTables sound 1 fun record tables written => ?_
    rw [← (readChanged_eq_ok written).2]
    exact sound.tables.putLocal settings now
  | writeRemote settings now =>
    rw [carryOut_writeRemote]
    refine isSound_changeTables sound 1 fun record tables written => ?_
    obtain ⟨row, put⟩ := bind_readChanged_eq_ok written
    exact (sound.tables.putRemote put).1
  | writeMode instanceId mode =>
    rw [carryOut_writeMode]
    refine isSound_changeTables sound 0 fun _ tables written => ?_
    rw [setMode_eq_ok written]
    exact sound.tables.putMode instanceId mode.word
  | writePeer instanceId domain status now =>
    rw [carryOut_writePeer]
    exact isSound_changeTables sound 0 fun _ _ written => sound.tables.putPeer written
  | writeAccount instanceId username displayName now =>
    rw [carryOut_writeAccount]
    exact isSound_changeTables sound 1 fun _ _ written => sound.tables.register written
  | writeStub instanceId fields now =>
    rw [carryOut_writeStub]
    exact isSound_changeTables sound 1 fun _ _ written => sound.tables.putStub written
  | writeRemoteUser settings fields now =>
    rw [carryOut_writeRemoteUser]
    exact isSound_changeTables sound 2 fun _ _ written => sound.tables.putRemoteUser written
  | «recall» key => exact isSound_useStore sound surroundings _ _
  | remember key value seconds => exact isSound_useStore sound surroundings _ _
  | forget key => exact isSound_useStore sound surroundings _ _
  | purge => exact isSound_useStore sound surroundings _ _
  | request url => exact ⟨sound.isOpen, sound.tables⟩
  | count event => exact ⟨sound.isOpen, sound.tables⟩
  | _ => exact sound

/-- Every reached world is sound. -/
theorem IsReachable.isSound (reachable : world.IsReachable) : world.IsSound := by
  induction reachable with
  | fresh store now => exact ⟨rfl, Tables.isSound_empty 0⟩
  | carriedOut _ surroundings command inductionHypothesis =>
    exact isSound_carryOut inductionHypothesis surroundings command
  | later _ now _ inductionHypothesis =>
    exact ⟨inductionHypothesis.isOpen, inductionHypothesis.tables⟩

/-! ### The row of a start -/

/-- A row whose mode is written as it should be can be read. -/
theorem readRow_of_mode_eq {row : InstanceRow} {mode : FederationMode} (isWritten : row.mode = mode.word) :
    readRow row = .ok { row with mode := mode } := by
  rw [readRow, InstanceRow.read, isWritten, FederationMode.read_word]
  rfl

/-- Writing the row of this instance succeeds. -/
theorem carryOut_writeLocal_of_isSound (sound : world.IsSound) (surroundings : Surroundings)
    (settings : LocalSettings) (now : Timestamp) :
    world.carryOut surroundings (.writeLocal settings now) =
      (some (.ok { (world.tables.putLocal settings (identifier world.issued) now).1 with
          mode := settings.mode }),
        { world with
          tables := (world.tables.putLocal settings (identifier world.issued) now).2
          issued := world.issued + 1 }) := by
  have mode : (world.tables.putLocal settings (identifier world.issued) now).1.mode =
      settings.mode.word := by
    unfold Tables.putLocal
    split <;> rfl
  generalize put : world.tables.putLocal settings (identifier world.issued) now = changed at mode ⊢
  have read : readChanged changed = .ok ({ changed.1 with mode := settings.mode }, changed.2) := by
    rw [readChanged, readRow_of_mode_eq mode]
    rfl
  have written : (world.changeTables 1 fun tables =>
      readChanged (tables.putLocal settings (identifier world.issued) now)) =
      (.ok { changed.1 with mode := settings.mode },
        { world with tables := changed.2, issued := world.issued + 1 }) :=
    changeTables_of_ok sound.isOpen (put.symm ▸ read)
  rw [carryOut_writeLocal, written]

/-! ### Where instances stand -/

theorem addresses_changeTables {Result : Type} (identifiers : Nat)
    {change : Tables → Except Failure (Result × Tables)}
    (keeps : ∀ result tables, change world.tables = .ok (result, tables) →
      world.tables.addresses <+: tables.addresses) :
    world.tables.addresses <+: (world.changeTables identifiers change).2.tables.addresses := by
  unfold changeTables
  split
  · dsimp only
    split
    · rename_i result tables changed
      exact keeps result tables changed
    · exact List.prefix_rfl
  · exact List.prefix_rfl

theorem tables_useStore {Result : Type} (surroundings : Surroundings) (operation : StoreOperation)
    (use : World → Option (Result × ShortTermStore)) :
    (world.useStore surroundings operation use).2.tables = world.tables := by
  unfold useStore
  dsimp only
  split
  · rfl
  · split <;> rfl

/-- No command removes an instance or moves it to another domain. -/
theorem addresses_carryOut (surroundings : Surroundings) (command : Command) :
    world.tables.addresses <+: (world.carryOut surroundings command).2.tables.addresses := by
  cases command with
  | writeLocal settings now =>
    rw [carryOut_writeLocal]
    refine addresses_changeTables 1 fun record tables written => ?_
    rw [← (readChanged_eq_ok written).2]
    exact Tables.addresses_putLocal settings (identifier world.issued) now
  | writeRemote settings now =>
    rw [carryOut_writeRemote]
    refine addresses_changeTables 1 fun record tables written => ?_
    obtain ⟨row, put⟩ := bind_readChanged_eq_ok written
    exact Tables.addresses_putRemote put
  | writeMode instanceId mode =>
    rw [carryOut_writeMode]
    refine addresses_changeTables 0 fun _ tables written => ?_
    rw [setMode_eq_ok written]
    exact Tables.prefix_of_eq (Tables.addresses_putMode instanceId mode.word)
  | writePeer instanceId domain status now =>
    rw [carryOut_writePeer]
    refine addresses_changeTables 0 fun _ tables written => ?_
    refine Tables.prefix_of_eq ?_
    rw [Tables.addresses, Tables.addresses, Tables.instances_putPeer written]
  | writeAccount instanceId username displayName now =>
    rw [carryOut_writeAccount]
    refine addresses_changeTables 1 fun _ tables written => ?_
    refine Tables.prefix_of_eq ?_
    rw [Tables.addresses, Tables.addresses, Tables.instances_register written]
  | writeStub instanceId fields now =>
    rw [carryOut_writeStub]
    refine addresses_changeTables 1 fun _ tables written => ?_
    refine Tables.prefix_of_eq ?_
    rw [Tables.addresses, Tables.addresses, Tables.instances_putStub written]
  | writeRemoteUser settings fields now =>
    rw [carryOut_writeRemoteUser]
    exact addresses_changeTables 2 fun _ _ written => Tables.addresses_putRemoteUser written
  | «recall» key => exact tables_useStore surroundings _ _ ▸ List.prefix_rfl
  | remember key value seconds => exact tables_useStore surroundings _ _ ▸ List.prefix_rfl
  | forget key => exact tables_useStore surroundings _ _ ▸ List.prefix_rfl
  | purge => exact tables_useStore surroundings _ _ ▸ List.prefix_rfl
  | _ => exact List.prefix_rfl

end World

/-! ### Reached services -/

namespace Service

/-- A service that has written its row in a reached world, and whatever comes after that. -/
inductive IsReachable (service : Service) : World → Prop
  | started {world after : World} (reachable : world.IsReachable) (surroundings : Surroundings)
      (now : Timestamp)
      (wrote : world.carryOut surroundings (.writeLocal (localSettings service.configuration) now) =
        (some (.ok service.home), after)) : IsReachable service after
  | carriedOut {world : World} (reachable : IsReachable service world) (surroundings : Surroundings)
      (command : Command) : IsReachable service (world.carryOut surroundings command).2
  | later {world : World} (reachable : IsReachable service world) (now : Nat)
      (le : world.now ≤ now) : IsReachable service { world with now := now }

variable {service : Service} {world : World}

/-- The world that a program leaves is one of the service. -/
theorem IsReachable.run {Result : Type} (reachable : service.IsReachable world)
    (surroundings : Surroundings) (program : Program Result) :
    service.IsReachable (program.run surroundings world).2 := by
  induction program generalizing world with
  | done result => exact reachable
  | step command next inductionHypothesis =>
    have stepped := reachable.carriedOut surroundings command
    rw [run_step]
    generalize world.carryOut surroundings command = outcome at stepped ⊢
    rcases outcome with ⟨_ | reply, after⟩
    · exact stepped
    · exact inductionHypothesis reply stepped

theorem run_writeHome (surroundings : Surroundings) (settings : LocalSettings) (world : World) :
    (writeHome settings).toProgram.run surroundings world =
      world.carryOut surroundings (.writeLocal settings world.time) := by
  simp only [writeHome, currentTime, Action.toProgram_bind, Action.toProgram_ofProgram,
    bind_eq_andThen, perform, step_andThen, done_andThen, pure_eq_done, run_step,
    World.carryOut_clock]
  rcases world.carryOut surroundings (.writeLocal settings world.time) with ⟨_ | reply, after⟩
  · rfl
  · rfl

/-- A service that has started in a reached world is reached. -/
theorem isReachable_of_run_start {configuration : Configuration} {after : World}
    (reachable : world.IsReachable) (surroundings : Surroundings)
    (started : (start configuration).toProgram.run surroundings world = (some (.ok service), after)) :
    service.IsReachable after := by
  simp only [start, Action.toProgram_bind, run_andThen, run_writeHome] at started
  generalize wrote : world.carryOut surroundings
    (.writeLocal (localSettings configuration) world.time) = outcome at started
  rcases outcome with ⟨_ | failure | home, between⟩
  · cases started
  · cases started
  · simp only [run_andThen] at started
    have later : IsReachable ⟨configuration, home⟩ between := .started reachable surroundings _ wrote
    replace later := later.run surroundings
      (approveAll home.id configuration.federation.allowedPeers).toProgram
    generalize (approveAll home.id configuration.federation.allowedPeers).toProgram.run surroundings
      between = approved at started later
    rcases approved with ⟨_ | failure | _, done⟩
    · cases started
    · cases started
    · cases started
      exact later

/-- The world of a service is reached. -/
theorem IsReachable.isReachable (reachable : service.IsReachable world) : world.IsReachable := by
  induction reachable with
  | started reachable surroundings now wrote =>
    have carried := reachable.carriedOut surroundings
      (.writeLocal (localSettings service.configuration) now)
    rwa [wrote] at carried
  | carriedOut _ surroundings command inductionHypothesis =>
    exact inductionHypothesis.carriedOut surroundings command
  | later _ now le inductionHypothesis => exact inductionHypothesis.later now le

/-- The row of this instance as it was written at the start. -/
theorem address_of_writeLocal {surroundings : Surroundings} {settings : LocalSettings}
    {now : Timestamp} {home : Instance} {after : World}
    (wrote : world.carryOut surroundings (.writeLocal settings now) = (some (.ok home), after)) :
    (home.id, home.domain) ∈ after.tables.addresses ∧ nameKey home.domain = nameKey settings.domain := by
  rw [World.carryOut_writeLocal, Prod.mk.injEq, Option.some_inj] at wrote
  obtain ⟨changed, written, rfl⟩ := World.changeTables_eq_ok (Prod.ext wrote.1 wrote.2)
  obtain ⟨read, rfl⟩ := World.readChanged_eq_ok written
  obtain ⟨sameId, sameDomain⟩ := World.readRow_eq_ok read
  rw [sameId, sameDomain]
  exact Tables.address_putLocal world.tables settings (identifier world.issued) now

/-- The row of this instance is always there. -/
theorem IsReachable.address (reachable : service.IsReachable world) :
    (service.home.id, service.domain) ∈ world.tables.addresses := by
  induction reachable with
  | started reachable surroundings now wrote =>
    exact (address_of_writeLocal wrote).1
  | carriedOut _ surroundings command inductionHypothesis =>
    exact (World.addresses_carryOut surroundings command).subset inductionHypothesis
  | later _ now le inductionHypothesis => exact inductionHypothesis

/-- The domain of this instance is in lower case. -/
theorem IsReachable.lower_domain (reachable : service.IsReachable world) :
    lower service.domain = service.domain := by
  obtain ⟨row, isRow, isHome⟩ := List.mem_map.mp reachable.address
  have sameDomain : row.domain = service.domain := congrArg Prod.snd isHome
  rw [← sameDomain]
  exact reachable.isReachable.isSound.tables.domainsLower row isRow

/-- The domain of this instance and the one in the settings are names of one row. -/
theorem IsReachable.nameKey_domain (reachable : service.IsReachable world) :
    nameKey service.domain = nameKey service.configuration.service.domain := by
  induction reachable with
  | started _ _ _ wrote => exact (address_of_writeLocal wrote).2
  | carriedOut _ _ _ inductionHypothesis => exact inductionHypothesis
  | later _ _ _ inductionHypothesis => exact inductionHypothesis

/-- The domain of this instance is the one in the settings, in lower case, if that is free of NULs. -/
theorem IsReachable.domain_eq_of_isNulFree (reachable : service.IsReachable world)
    (nulFree : IsNulFree service.configuration.service.domain) :
    service.domain = lower service.configuration.service.domain :=
  reachable.lower_domain.symm.trans ((nameKey_eq_iff_of_isNulFree nulFree).mp reachable.nameKey_domain)

/-- A service was the first one over its database: nothing had been written there when it wrote its row. -/
def IsFirst (service : Service) : Prop :=
  ∃ (store : ShortTermStore) (started : Nat) (surroundings : Surroundings) (now : Timestamp) (after : World),
    (World.fresh store started).carryOut surroundings
      (.writeLocal (localSettings service.configuration) now) = (some (.ok service.home), after)

/-- The domain of the first service is the one in the settings, in lower case. -/
theorem IsFirst.domain_eq (isFirst : service.IsFirst) :
    service.domain = lower service.configuration.service.domain := by
  obtain ⟨store, started, surroundings, now, after, wrote⟩ := isFirst
  rw [World.carryOut_writeLocal_of_isSound (World.IsReachable.fresh store started).isSound, Prod.mk.injEq,
    Option.some_inj, Except.ok.injEq] at wrote
  rw [domain, ← wrote.1]
  rfl

end Service

/-! ### Sites -/

/-- A service at work: the world it finds itself in, and what that world cannot control. -/
structure Site where
  service : Service
  surroundings : Surroundings
  world : World

namespace Site

/-- What comes of resolving a handle at a site, and the world afterwards. -/
def resolve (site : Site) (text : String) : Option (Except Failure Resolved) × World :=
  (site.service.resolve text).toProgram.run site.surroundings site.world

/-- The site of a service that was started at some time and has been at work since. -/
def IsReachable (site : Site) : Prop :=
  site.service.IsReachable site.world

/-- The site of a service that has just written its row into an empty database. -/
def atStart (configuration : Configuration) (surroundings : Surroundings) (store : ShortTermStore)
    (now : Nat) : Site :=
  let row := Tables.newLocal (Service.localSettings configuration) (identifier 0)
    (Timestamp.ofNanoseconds now)
  { service := ⟨configuration, { row with mode := configuration.federation.mode }⟩
    surroundings := surroundings
    world := { World.fresh store now with
      tables := ⟨[row], [], []⟩
      issued := 1 } }

/-- The first command of a service writes its row into the empty database. -/
theorem carryOut_writeLocal_fresh (configuration : Configuration) (surroundings : Surroundings)
    (store : ShortTermStore) (now : Nat) :
    (World.fresh store now).carryOut surroundings
        (.writeLocal (Service.localSettings configuration) (Timestamp.ofNanoseconds now)) =
      (some (.ok (atStart configuration surroundings store now).service.home),
        (atStart configuration surroundings store now).world) :=
  World.carryOut_writeLocal_of_isSound (World.IsReachable.fresh store now).isSound surroundings _ _

/-- The site of a service that has just started is reached. -/
theorem isReachable_atStart (configuration : Configuration) (surroundings : Surroundings)
    (store : ShortTermStore) (now : Nat) :
    (atStart configuration surroundings store now).IsReachable :=
  .started (.fresh store now) surroundings (Timestamp.ofNanoseconds now)
    (carryOut_writeLocal_fresh configuration surroundings store now)

end Site

end HandleFederation
