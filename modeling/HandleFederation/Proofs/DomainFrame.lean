/-
This file says what a resolution at another instance can change, and so what it leaves
alone. Whatever the other instance answers, no more happens than this: the two
short-lived values of the domain and the user may be set, and then the instance of
the domain and one of its users may be written together. So the rows of every other
instance, the users of every other instance with the accounts of this one, all peers
and all other short-lived values stay as they are. The key that tells the users of
different instances apart is the identifier of the instance, of which no two are the
same in sound tables.
-/

import HandleFederation.Proofs.Reachable
import HandleFederation.Proofs.TrustGate
import Mathlib.Data.List.Nodup

namespace HandleFederation

open Text

/-! ### Short-lived values -/

theorem lookup_cons_eq_ite {key other : String} {value : TimedValue}
    {rest : List (String × TimedValue)} :
    List.lookup other ((key, value) :: rest) = if other = key then some value else rest.lookup other := by
  rw [List.lookup_cons]
  by_cases same : other = key
  · rw [if_pos same, beq_iff_eq.mpr same]
  · rw [if_neg same, beq_eq_false_iff_ne.mpr same]

/-- A value that is put among others is the one of its key, and the others stay. -/
theorem TimedEntries.lookup_putEntry (key other : String) (entry : TimedValue)
    (entries : List (String × TimedValue)) :
    (putEntry key entry entries).lookup other =
      if other = key then some entry else entries.lookup other := by
  induction entries with
  | nil => exact lookup_cons_eq_ite
  | cons head rest inductionHypothesis =>
    obtain ⟨held, kept⟩ := head
    unfold putEntry
    by_cases same : held = key
    · rw [if_pos same, lookup_cons_eq_ite, lookup_cons_eq_ite, same]
      by_cases isKey : other = key
      · rw [if_pos isKey, if_pos isKey]
      · rw [if_neg isKey, if_neg isKey, if_neg isKey]
    · rw [if_neg same, lookup_cons_eq_ite, lookup_cons_eq_ite, inductionHypothesis]
      by_cases isHeld : other = held
      · rw [if_pos isHeld, if_pos isHeld, if_neg fun isKey => same (isHeld.symm.trans isKey)]
      · rw [if_neg isHeld, if_neg isHeld]

namespace ShortTermStore

/-- The key under which a value is held, which on a server has the fixed text in front of it. -/
def heldKey (key : String) : ShortTermStore → String
  | .memory _ => key
  | .shared keyPrefix _ => keyPrefix ++ key

/-- All values that are held. -/
def held : ShortTermStore → TimedEntries
  | .memory entries => entries
  | .shared _ server => server

/-- The same store, with other values at most for some keys. -/
structure KeepsBut (keys : List String) (before after : ShortTermStore) : Prop where
  heldKey : ∀ key, after.heldKey key = before.heldKey key
  entries : ∀ key, key ∉ keys.map (before.heldKey ·) →
    after.held.entries.lookup key = before.held.entries.lookup key

namespace KeepsBut

theorem refl (keys : List String) (store : ShortTermStore) : store.KeepsBut keys store :=
  ⟨fun _ => rfl, fun _ _ => rfl⟩

theorem trans {keys : List String} {first second third : ShortTermStore}
    (earlier : first.KeepsBut keys second) (later : second.KeepsBut keys third) :
    first.KeepsBut keys third where
  heldKey key := (later.heldKey key).trans (earlier.heldKey key)
  entries key others := by
    have same : keys.map (second.heldKey ·) = keys.map (first.heldKey ·) :=
      List.map_congr_left fun key _ => earlier.heldKey key
    exact (later.entries key (same ▸ others)).trans (earlier.entries key others)

end KeepsBut

theorem keepsBut_of_set? {now seconds : Nat} {key value : String} {keys : List String}
    (member : key ∈ keys) {before after : ShortTermStore}
    (set : before.set? now key value seconds = some after) : before.KeepsBut keys after := by
  have isKey : before.heldKey key ∈ keys.map (before.heldKey ·) := List.mem_map_of_mem member
  cases before with
  | memory entries =>
    obtain ⟨expiry, -, rfl⟩ := Option.map_eq_some_iff.mp set
    refine ⟨fun _ => rfl, fun other others => ?_⟩
    have differs : other ≠ key := fun same => others (same.symm ▸ isKey)
    exact (TimedEntries.lookup_putEntry key other _ _).trans (if_neg differs)
  | shared keyPrefix server =>
    cases set
    refine ⟨fun _ => rfl, fun other others => ?_⟩
    have differs : other ≠ keyPrefix ++ key := fun same => others (same.symm ▸ isKey)
    exact (TimedEntries.lookup_putEntry (keyPrefix ++ key) other _ _).trans (if_neg differs)

end ShortTermStore

/-! ### What may change before anything is written -/

/-- A world in which the tables and the clock are the same, and at most some short-lived values
differ. -/
structure World.KeepsBut (keys : List String) (before after : World) : Prop where
  tables : after.tables = before.tables
  isDatabaseOpen : after.isDatabaseOpen = before.isDatabaseOpen
  issued : after.issued = before.issued
  now : after.now = before.now
  store : before.store.KeepsBut keys after.store

namespace World

namespace KeepsBut

variable {keys : List String} {world between : World}

theorem refl (keys : List String) (world : World) : world.KeepsBut keys world :=
  ⟨rfl, rfl, rfl, rfl, .refl keys world.store⟩

theorem trans {first second third : World} (earlier : first.KeepsBut keys second)
    (later : second.KeepsBut keys third) : first.KeepsBut keys third :=
  ⟨later.tables.trans earlier.tables, later.isDatabaseOpen.trans earlier.isDatabaseOpen,
    later.issued.trans earlier.issued, later.now.trans earlier.now, earlier.store.trans later.store⟩

theorem counted (keeps : world.KeepsBut keys between) (event : Event) :
    world.KeepsBut keys (between.counted event) :=
  { keeps with }

theorem countedRequest (keeps : world.KeepsBut keys between) (kind outcome : String) :
    world.KeepsBut keys (between.countedRequest kind outcome) :=
  { keeps with }

theorem called (keeps : world.KeepsBut keys between) : world.KeepsBut keys between.called :=
  { keeps with }

theorem asked (keeps : world.KeepsBut keys between) (url : Url) :
    world.KeepsBut keys (between.asked url) :=
  { keeps with }

theorem remembering (keeps : world.KeepsBut keys between) (surroundings : Surroundings)
    {key : String} (member : key ∈ keys) (seconds : Nat) :
    world.KeepsBut keys (between.remembering surroundings key seconds).2 := by
  unfold World.remembering
  split
  · exact keeps
  · split
    · exact keeps.called
    · split
      · rename_i store set
        exact { keeps with store := keeps.store.trans (ShortTermStore.keepsBut_of_set? member set) }
      · exact keeps.called

theorem declaring (keeps : world.KeepsBut keys between) (surroundings : Surroundings)
    (domain : String) : world.KeepsBut keys (between.declaring surroundings domain).2 := by
  unfold World.declaring
  split
  · exact keeps
  · exact keeps.asked _

end KeepsBut

end World

namespace Resolution

variable (surroundings : Surroundings) {keys : List String}

theorem keepsBut_run_discover (windows : Windows) {domain : String}
    (member : cooldownKey domain ∈ keys) (world : World) :
    world.KeepsBut keys ((discover windows domain).toProgram.run surroundings world).2 := by
  have start := (World.KeepsBut.refl keys world).called
  have declared := start.declaring surroundings domain
  rw [run_discover]
  split
  · exact start
  · generalize world.called.declaring surroundings domain = outcome at declared ⊢
    rcases outcome with ⟨fault | declaration, after⟩
    · exact (declared.countedRequest _ _).remembering surroundings member _
    · dsimp only
      split
      · exact (declared.countedRequest _ _).remembering surroundings member _
      · exact declared.countedRequest _ _

theorem keepsBut_run_askProfile (username domain : String) (world : World) :
    world.KeepsBut keys ((askProfile username domain).toProgram.run surroundings world).2 := by
  rw [run_askProfile]
  split
  · exact .refl keys world
  · exact ((World.KeepsBut.refl keys world).asked _).countedRequest _ _

/-! ### What is written in the end -/

/-- What a resolution at the instance of a domain can do to a world: change some short-lived values,
and write the instance together with one of its users. -/
structure Reaches (domain : String) (keys : List String) (before after : World) : Prop where
  store : before.store.KeepsBut keys after.store
  tables : after.tables = before.tables ∨ ∃ settings fields user, settings.domain = domain ∧
    before.tables.putRemoteUser settings fields (identifier before.issued)
      (identifier (before.issued + 1)) before.time = .ok (user, after.tables)

variable {domain : String} {before between after : World}

theorem Reaches.keeping (keeps : before.KeepsBut keys after) : Reaches domain keys before after :=
  ⟨keeps.store, Or.inl keeps.tables⟩

theorem Reaches.after_keeping (keeps : before.KeepsBut keys between)
    (reaches : Reaches domain keys between after) : Reaches domain keys before after where
  store := keeps.store.trans reaches.store
  tables := by
    have sameTime : between.time = before.time := by rw [World.time, keeps.now, World.time]
    have onward := reaches.tables
    rwa [keeps.tables, keeps.issued, sameTime] at onward

/-- Writing an instance with one of its users does that or nothing. -/
theorem Reaches.writing (settings : RemoteSettings) (fields : StubFields) (world : World) :
    Reaches settings.domain keys world
      (world.changeTables 2 (Tables.putRemoteUser settings fields (identifier world.issued)
        (identifier (world.issued + 1)) world.time)).2 := by
  unfold World.changeTables
  split
  · dsimp only
    split
    · rename_i user tables written
      exact ⟨.refl keys _, Or.inr ⟨settings, fields, user, rfl, written⟩⟩
    · exact ⟨.refl keys _, Or.inl rfl⟩
  · exact ⟨.refl keys _, Or.inl rfl⟩

theorem reaches_run_fetch (windows : Windows) {username domain : String}
    (cooldown : cooldownKey domain ∈ keys) (miss : missKey username domain ∈ keys) (world : World) :
    Reaches domain keys world
      ((fetch windows username domain).toProgram.run surroundings world).2 := by
  have discovered := keepsBut_run_discover surroundings windows cooldown world
  rw [run_fetch]
  generalize (discover windows domain).toProgram.run surroundings world = outcome at discovered ⊢
  rcases outcome with ⟨_ | failure | declaration, found⟩
  · exact .keeping discovered
  · exact .keeping discovered
  · have asked := discovered.trans (keepsBut_run_askProfile surroundings username domain found)
    dsimp only
    generalize (askProfile username domain).toProgram.run surroundings found = answer at asked ⊢
    rcases answer with ⟨_ | failure | profile | _ | _, answered⟩
    · exact .keeping asked
    · exact .keeping asked
    · exact .after_keeping asked
        (.writing (remoteSettings domain declaration) (stubFields profile) answered)
    · exact .keeping (asked.remembering surroundings miss _)
    · exact .keeping asked

theorem reaches_run_resolveRemote (windows : Windows) {username domain : String}
    (cooldown : cooldownKey domain ∈ keys) (miss : missKey username domain ∈ keys) (world : World) :
    Reaches domain keys world
      ((resolveRemote windows username domain).toProgram.run surroundings world).2 := by
  have start := World.KeepsBut.refl keys world
  rw [run_resolveRemote]
  split
  · exact .keeping start
  · exact .keeping (start.counted _)
  · dsimp only
    split
    · exact .keeping (start.counted _).called
    · exact .after_keeping (start.counted _).called
        (reaches_run_fetch surroundings windows cooldown miss _)

/-- The two keys under which something about a user of a domain is remembered. -/
def ownKeys (username domain : String) : List String :=
  [cooldownKey domain, missKey username domain]

theorem cooldownKey_mem_ownKeys (username domain : String) :
    cooldownKey domain ∈ ownKeys username domain :=
  List.mem_cons_self

theorem missKey_mem_ownKeys (username domain : String) :
    missKey username domain ∈ ownKeys username domain :=
  List.mem_cons_of_mem _ List.mem_cons_self

/-- Resolving a handle reaches no further than its domain. -/
theorem reaches_run_resolve (service : Service) {text domainText name : String} {username : String}
    (reads : Handle.read text = ⟨username, some domainText⟩)
    (accepted : DomainName.validate service.blocked domainText = .ok name) (world : World) :
    Reaches name (ownKeys username name) world
      ((service.resolve text).toProgram.run surroundings world).2 := by
  obtain ⟨-, -, sameTables, sameStore⟩ :=
    Service.run_resolve_counts surroundings service text world
  suffices handled : Reaches name (ownKeys username name) world
      ((resolveHandle service (Handle.read text)).toProgram.run surroundings world).2 by
    refine ⟨?_, ?_⟩
    · rw [sameStore]
      exact handled.store
    · rw [sameTables]
      exact handled.tables
  rcases run_resolveHandle_cases surroundings service (Handle.read text) world with
    ⟨domain, other, through, run⟩ | ⟨result, stays, -⟩
  · have sameDomain : domainText = domain := by
      simpa [reads] using through.namesDomain
    have sameName : name = other := by
      simpa [← sameDomain, accepted] using through.isAccepted
    rw [run, reads, ← sameName]
    exact reaches_run_resolveRemote surroundings service.windows (cooldownKey_mem_ownKeys _ _)
      (missKey_mem_ownKeys _ _) world
  · rw [stays]
    exact .keeping (.refl _ world)

end Resolution

/-! ### Rows elsewhere -/

/-- The users of an instance, in the order in which they were added. -/
def Tables.usersOf (instanceId : String) (tables : Tables) : List User :=
  tables.users.filter fun user => user.instanceId == instanceId

/-- A change of a row that is left out, before and after, is not seen among the others. -/
theorem filter_changeFirst_of_not {Row : Type} {test keep : Row → Bool} {change : Row → Row}
    (leftOut : ∀ row, test row = true → keep row = false ∧ keep (change row) = false)
    (rows : List Row) : (Tables.changeFirst test change rows).filter keep = rows.filter keep := by
  induction rows with
  | nil => rfl
  | cons row rest inductionHypothesis =>
    unfold Tables.changeFirst
    split
    · rename_i isChanged
      obtain ⟨before, after⟩ := leftOut row isChanged
      rw [List.filter_cons_of_neg (Bool.eq_false_iff.mp after),
        List.filter_cons_of_neg (Bool.eq_false_iff.mp before)]
    · rw [List.filter_cons, List.filter_cons, inductionHypothesis]

namespace Tables

variable {issued : Nat} {tables changed : Tables}

/-- An instance stands at one domain only. -/
theorem IsSound.domain_unique (sound : tables.IsSound issued) {id first second : String}
    (isFirst : (id, first) ∈ tables.addresses) (isSecond : (id, second) ∈ tables.addresses) :
    first = second := by
  obtain ⟨row, isRow, atFirst⟩ := List.mem_map.mp isFirst
  obtain ⟨other, isOther, atSecond⟩ := List.mem_map.mp isSecond
  rw [Prod.mk.injEq] at atFirst atSecond
  have same : row = other :=
    List.inj_on_of_nodup_map sound.instancesDistinct isRow isOther
      (atFirst.1.trans atSecond.1.symm)
  rw [← atFirst.2, ← atSecond.2, same]

/-- Writing an instance leaves all others alone. -/
theorem instances_putRemote {settings : RemoteSettings} {id : String} {now : Timestamp}
    {row : InstanceRow} (written : tables.putRemote settings id now = .ok (row, changed)) :
    (changed.instances.filter fun row => !sameName row.domain settings.domain) =
      tables.instances.filter fun row => !sameName row.domain settings.domain := by
  unfold putRemote at written
  split at written
  · split at written
    · cases written
    · cases written
      refine filter_changeFirst_of_not (fun row isChanged => ?_) tables.instances
      have stillThere : sameName (refreshRemote settings now row).domain settings.domain = true :=
        isChanged
      rw [isChanged, stillThere]
      exact ⟨rfl, rfl⟩
  · cases written
    have isThere : sameName (newRemote settings id now).domain settings.domain = true :=
      (sameName_iff _ _).mpr (nameKey_lower settings.domain)
    rw [List.filter_append, List.filter_cons_of_neg (by simp [isThere]), List.filter_nil,
      List.append_nil]

theorem users_putRemote {settings : RemoteSettings} {id : String} {now : Timestamp}
    {row : InstanceRow} (written : tables.putRemote settings id now = .ok (row, changed)) :
    changed.users = tables.users ∧ changed.peers = tables.peers := by
  unfold putRemote at written
  split at written
  · split at written
    · cases written
    · cases written
      exact ⟨rfl, rfl⟩
  · cases written
    exact ⟨rfl, rfl⟩

/-- The instance that was written stands at its domain, if that is free of NULs. -/
theorem address_putRemote (sound : tables.IsSound issued) {settings : RemoteSettings}
    (nulFree : IsNulFree settings.domain) {id : String} {now : Timestamp} {row : InstanceRow}
    (written : tables.putRemote settings id now = .ok (row, changed)) :
    (row.id, lower settings.domain) ∈ changed.addresses := by
  unfold putRemote at written
  split at written
  · rename_i old found
    split at written
    · cases written
    · cases written
      obtain ⟨member, sameDomain⟩ := mem_of_instanceAt? found
      have isAddress := mem_addresses member
      rw [← (nameKey_eq_iff_of_isNulFree nulFree).mp sameDomain, sound.domainsLower old member,
        addresses_changeInstance _ (refreshRemote settings now) (fun _ => rfl) (fun _ => rfl)]
      exact isAddress
  · cases written
    rw [addresses_addInstance]
    exact List.mem_append_right _ (List.mem_singleton_self _)

/-- Writing a user of an instance leaves the users of all others alone. -/
theorem usersOf_putStub {instanceId other : String} (differs : other ≠ instanceId)
    {fields : StubFields} {id : String} {now : Timestamp} {user : User}
    (written : tables.putStub instanceId fields id now = .ok (user, changed)) :
    changed.usersOf other = tables.usersOf other := by
  have kept : (dropRenamed instanceId fields tables).usersOf other = tables.usersOf other := by
    unfold usersOf dropRenamed
    rw [List.filter_filter]
    refine List.filter_congr fun user _ => ?_
    by_cases isOther : user.instanceId = other
    · simp [isRenamed, isOther, differs]
    · simp [isOther]
  rw [← kept]
  unfold putStub at written
  dsimp only at written
  split at written
  · cases written
    refine filter_changeFirst_of_not (fun user isChanged => ?_) _
    have isThere : user.instanceId = instanceId :=
      congrArg Prod.fst ((isUser_iff_place _ _ _).mp isChanged)
    have elsewhere : (user.instanceId == other) = false :=
      beq_eq_false_iff_ne.mpr (isThere.symm ▸ differs.symm)
    exact ⟨elsewhere, elsewhere⟩
  · split at written
    · cases written
      have elsewhere : ((newStub instanceId fields id now).instanceId == other) = false :=
        beq_eq_false_iff_ne.mpr differs.symm
      have noneAdded : [newStub instanceId fields id now].filter
          (fun user => user.instanceId == other) = [] := by
        rw [List.filter_singleton, elsewhere]
        rfl
      unfold usersOf
      rw [List.filter_append, noneAdded, List.append_nil]
    · cases written

theorem peers_putStub {instanceId : String} {fields : StubFields} {id : String} {now : Timestamp}
    {user : User} (written : tables.putStub instanceId fields id now = .ok (user, changed)) :
    changed.peers = tables.peers := by
  unfold putStub at written
  dsimp only at written
  split at written
  · cases written
    rfl
  · split at written <;> cases written
    rfl

/-- Rows that are not those of a domain: the other instances and their users, and all peers. -/
structure LeavesElsewhere (domain : String) (before after : Tables) : Prop where
  instances : (after.instances.filter fun row => !sameName row.domain domain) =
    before.instances.filter fun row => !sameName row.domain domain
  users : ∀ address ∈ before.addresses, address.2 ≠ lower domain →
    after.usersOf address.1 = before.usersOf address.1
  peers : after.peers = before.peers

theorem LeavesElsewhere.refl (domain : String) (tables : Tables) : tables.LeavesElsewhere domain tables :=
  ⟨rfl, fun _ _ _ => rfl, rfl⟩

/-- Writing an instance and one of its users leaves everything else alone, if the domain is free of
NULs. -/
theorem leavesElsewhere_putRemoteUser (sound : tables.IsSound issued) {settings : RemoteSettings}
    (nulFree : IsNulFree settings.domain) {fields : StubFields} {now : Timestamp} {user : User}
    (written : tables.putRemoteUser settings fields (identifier issued) (identifier (issued + 1)) now =
      .ok (user, changed)) : tables.LeavesElsewhere settings.domain changed := by
  unfold putRemoteUser at written
  split at written
  · cases written
  · rename_i row between first
    obtain ⟨sameUsers, samePeers⟩ := users_putRemote first
    refine ⟨?_, ?_, ?_⟩
    · rw [instances_putStub written]
      exact instances_putRemote first
    · rintro ⟨id, domain⟩ isAddress elsewhere
      have isThere := address_putRemote sound nulFree first
      have stillThere := (addresses_putRemote first).subset isAddress
      have differs : id ≠ row.id := by
        rintro rfl
        exact elsewhere ((sound.putRemote first).1.domain_unique stillThere isThere)
      rw [usersOf_putStub differs written, usersOf, usersOf, sameUsers]
    · rw [peers_putStub written, samePeers]

end Tables

end HandleFederation
