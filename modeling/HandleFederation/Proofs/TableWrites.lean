/-
This file lists what a command can do to the tables, so that a proof about all
commands looks at seven writes and at nothing else. The first thing that is read off
the list is that no two instances have one domain: a write looks for the row of a
domain before it adds one. Hence the row that a write changes is the only one it could
have meant, and changing it is changing every row with its name.
-/

import HandleFederation.Proofs.DomainShare

namespace HandleFederation

open Text

/-! ### What a command can do to the tables -/

/-- What a command can make of the tables, when so many identifiers were issued before. -/
inductive Tables.CanBecome (issued : Nat) (tables : Tables) : Command → Tables → Prop
  | same (command : Command) : CanBecome issued tables command tables
  | home (settings : LocalSettings) (now : Timestamp) :
    CanBecome issued tables (.writeLocal settings now)
      (tables.putLocal settings (identifier issued) now).2
  | remote {settings : RemoteSettings} {now : Timestamp} {row : InstanceRow} {changed : Tables}
    (written : tables.putRemote settings (identifier issued) now = .ok (row, changed)) :
    CanBecome issued tables (.writeRemote settings now) changed
  | mode (instanceId : String) (mode : FederationMode) :
    CanBecome issued tables (.writeMode instanceId mode) (tables.putMode instanceId mode.word).2
  | peer {instanceId domain : String} {status : PeerStatus} {now : Timestamp} {peer : Peer}
    {changed : Tables} (written : tables.putPeer instanceId domain status now = .ok (peer, changed)) :
    CanBecome issued tables (.writePeer instanceId domain status now) changed
  | account {instanceId username : String} {displayName : Option String} {now : Timestamp}
    {user : User} {changed : Tables}
    (written : tables.register instanceId username displayName (identifier issued) now =
      .ok (user, changed)) :
    CanBecome issued tables (.writeAccount instanceId username displayName now) changed
  | stub {instanceId : String} {fields : StubFields} {now : Timestamp} {user : User}
    {changed : Tables}
    (written : tables.putStub instanceId fields (identifier issued) now = .ok (user, changed)) :
    CanBecome issued tables (.writeStub instanceId fields now) changed
  | remoteUser {settings : RemoteSettings} {fields : StubFields} {now : Timestamp} {user : User}
    {changed : Tables}
    (written : tables.putRemoteUser settings fields (identifier issued) (identifier (issued + 1)) now =
      .ok (user, changed)) :
    CanBecome issued tables (.writeRemoteUser settings fields now) changed

namespace World

variable {world : World}

/-- What holds of the tables, and of all that a change makes of them, holds after it. -/
theorem holds_tables_changeTables {Result : Type} (holds : Tables → Prop) (identifiers : Nat)
    {change : Tables → Except Failure (Result × Tables)} (unchanged : holds world.tables)
    (changed : ∀ result tables, change world.tables = .ok (result, tables) → holds tables) :
    holds (world.changeTables identifiers change).2.tables := by
  unfold changeTables
  split
  · dsimp only
    split
    · rename_i result tables given
      exact changed result tables given
    · exact unchanged
  · exact unchanged

/-- A command makes of the tables what it can. -/
theorem canBecome_carryOut (surroundings : Surroundings) (command : Command) :
    world.tables.CanBecome world.issued command (world.carryOut surroundings command).2.tables := by
  have unchanged : world.tables.CanBecome world.issued command world.tables := .same command
  cases command with
  | writeLocal settings now =>
    rw [carryOut_writeLocal]
    refine holds_tables_changeTables _ 1 unchanged fun record tables written => ?_
    rw [← (readChanged_eq_ok written).2]
    exact .home settings now
  | writeRemote settings now =>
    rw [carryOut_writeRemote]
    refine holds_tables_changeTables _ 1 unchanged fun record tables written => ?_
    obtain ⟨row, put⟩ := bind_readChanged_eq_ok written
    exact .remote put
  | writeMode instanceId mode =>
    rw [carryOut_writeMode]
    refine holds_tables_changeTables _ 0 unchanged fun _ tables written => ?_
    rw [setMode_eq_ok written]
    exact .mode instanceId mode
  | writePeer instanceId domain status now =>
    rw [carryOut_writePeer]
    exact holds_tables_changeTables _ 0 unchanged fun _ _ written => .peer written
  | writeAccount instanceId username displayName now =>
    rw [carryOut_writeAccount]
    exact holds_tables_changeTables _ 1 unchanged fun _ _ written => .account written
  | writeStub instanceId fields now =>
    rw [carryOut_writeStub]
    exact holds_tables_changeTables _ 1 unchanged fun _ _ written => .stub written
  | writeRemoteUser settings fields now =>
    rw [carryOut_writeRemoteUser]
    exact holds_tables_changeTables _ 2 unchanged fun _ _ written => .remoteUser written
  | «recall» key => exact tables_useStore surroundings _ _ ▸ unchanged
  | remember key value seconds => exact tables_useStore surroundings _ _ ▸ unchanged
  | forget key => exact tables_useStore surroundings _ _ ▸ unchanged
  | purge => exact tables_useStore surroundings _ _ ▸ unchanged
  | _ => exact unchanged

end World

/-! ### One instance for each domain -/

namespace Tables

variable {issued : Nat} {tables changed : Tables}

/-- No two instances have the same domain for the name of a row. -/
def HasDistinctDomains (tables : Tables) : Prop :=
  (tables.instances.map fun row => nameKey row.domain).Nodup

theorem HasDistinctDomains.changeInstance (distinct : tables.HasDistinctDomains)
    (test : InstanceRow → Bool) (change : InstanceRow → InstanceRow)
    (sameDomain : ∀ row, (change row).domain = row.domain) :
    HasDistinctDomains { tables with instances := changeFirst test change tables.instances } := by
  unfold HasDistinctDomains
  rw [map_changeFirst _ fun row => by rw [sameDomain]]
  exact distinct

/-- An instance may be added under a domain at which none is found. -/
theorem HasDistinctDomains.addInstance (distinct : tables.HasDistinctDomains) {row : InstanceRow}
    {domain : String} (notFound : tables.instanceAt? domain = none)
    (named : row.domain = lower domain) :
    HasDistinctDomains { tables with instances := tables.instances ++ [row] } := by
  unfold HasDistinctDomains
  rw [List.map_append, List.nodup_append]
  refine ⟨distinct, List.nodup_singleton _, ?_⟩
  intro name before other added
  obtain ⟨old, isOld, rfl⟩ := List.mem_map.mp before
  rw [List.map_singleton, List.mem_singleton] at added
  rw [added, named, nameKey_lower]
  intro same
  exact List.find?_eq_none.mp notFound old isOld ((sameName_iff _ _).mpr same)

theorem HasDistinctDomains.of_instances (distinct : tables.HasDistinctDomains)
    (same : changed.instances = tables.instances) : changed.HasDistinctDomains := by
  rw [HasDistinctDomains, same]
  exact distinct

theorem HasDistinctDomains.putRemote (distinct : tables.HasDistinctDomains)
    {settings : RemoteSettings} {id : String} {now : Timestamp} {row : InstanceRow}
    (written : tables.putRemote settings id now = .ok (row, changed)) :
    changed.HasDistinctDomains := by
  unfold Tables.putRemote at written
  split at written
  · split at written
    · cases written
    · cases written
      exact distinct.changeInstance _ _ fun _ => rfl
  · rename_i notFound
    cases written
    exact distinct.addInstance notFound rfl

/-- A write leaves no two instances with one domain. -/
theorem HasDistinctDomains.canBecome (distinct : tables.HasDistinctDomains) {command : Command}
    (becomes : tables.CanBecome issued command changed) : changed.HasDistinctDomains := by
  cases becomes with
  | same command => exact distinct
  | home settings now =>
    unfold putLocal
    split
    · exact distinct.changeInstance _ _ fun _ => rfl
    · rename_i notFound
      exact distinct.addInstance notFound rfl
  | remote written => exact distinct.putRemote written
  | mode instanceId mode =>
    exact distinct.changeInstance _ (fun row => { row with mode := mode.word }) fun _ => rfl
  | peer written => exact distinct.of_instances (instances_putPeer written)
  | account written => exact distinct.of_instances (instances_register written)
  | stub written => exact distinct.of_instances (instances_putStub written)
  | remoteUser written =>
    unfold putRemoteUser at written
    split at written
    · cases written
    · rename_i row between first
      exact (distinct.putRemote first).of_instances (instances_putStub written)

/-- Two instances with one domain are the same. -/
theorem HasDistinctDomains.eq_of_nameKey_eq (distinct : tables.HasDistinctDomains)
    {row other : InstanceRow} (isRow : row ∈ tables.instances) (isOther : other ∈ tables.instances)
    (same : nameKey row.domain = nameKey other.domain) : row = other :=
  List.inj_on_of_nodup_map distinct isRow isOther same

/-- The instance that is found for a domain is the only one that has it. -/
theorem HasDistinctDomains.instanceAt?_eq_some_iff (distinct : tables.HasDistinctDomains)
    {domain : String} {row : InstanceRow} :
    tables.instanceAt? domain = some row ↔
      row ∈ tables.instances ∧ nameKey row.domain = nameKey domain := by
  refine ⟨mem_of_instanceAt?, fun ⟨isRow, named⟩ => ?_⟩
  obtain ⟨other, found⟩ : ∃ other, tables.instanceAt? domain = some other :=
    Option.isSome_iff_exists.mp
      (List.find?_isSome.mpr ⟨row, isRow, (sameName_iff _ _).mpr named⟩)
  obtain ⟨isOther, alsoNamed⟩ := mem_of_instanceAt? found
  rw [found, distinct.eq_of_nameKey_eq isOther isRow (alsoNamed.trans named.symm)]

/-- Changing the instance of a domain is changing all with its name. -/
theorem HasDistinctDomains.changeFirst_eq (distinct : tables.HasDistinctDomains) (domain : String)
    (change : InstanceRow → InstanceRow) :
    changeFirst (fun row => sameName row.domain domain) change tables.instances =
      tables.instances.map fun row => if sameName row.domain domain then change row else row := by
  refine changeFirst_eq_map ((List.pairwise_map.mp distinct).imp fun differs isNamed => ?_)
  refine Bool.eq_false_iff.mpr fun alsoNamed => differs ?_
  rw [(sameName_iff _ _).mp isNamed, (sameName_iff _ _).mp alsoNamed]

/-- A row that alone passes a test is all that is left by it. -/
theorem filter_eq_singleton {Row : Type} {test : Row → Bool} {rows : List Row} (nodup : rows.Nodup)
    {row : Row} (isRow : row ∈ rows) (passes : test row = true)
    (alone : ∀ other ∈ rows, test other = true → other = row) : rows.filter test = [row] := by
  refine List.perm_singleton.mp ((List.perm_ext_iff_of_nodup (nodup.filter test)
    (List.nodup_singleton row)).mpr fun other => ?_)
  rw [List.mem_filter, List.mem_singleton]
  constructor
  · rintro ⟨isOther, alsoPasses⟩
    exact alone other isOther alsoPasses
  · rintro rfl
    exact ⟨isRow, passes⟩

/-- The instance of a domain is the only one that is found under its name. -/
theorem HasDistinctDomains.filter_eq_singleton (distinct : tables.HasDistinctDomains)
    (sound : tables.IsSound issued) {domain : String} {row : InstanceRow} (isRow : row ∈ tables.instances)
    (named : nameKey row.domain = nameKey domain) :
    tables.instances.filter (fun row => sameName row.domain domain) = [row] := by
  refine Tables.filter_eq_singleton (sound.instancesDistinct.of_map _) isRow
    ((sameName_iff _ _).mpr named) fun other isOther alsoNamed => ?_
  exact distinct.eq_of_nameKey_eq isOther isRow (((sameName_iff _ _).mp alsoNamed).trans named.symm)

/-! ### One user for each identifier of another instance -/

/-- A row of a changed table is one of those before, or what became of one that passed the test. -/
theorem mem_or_exists_of_mem_changeFirst {Row : Type} {test : Row → Bool} {change : Row → Row}
    {rows : List Row} {row : Row} (member : row ∈ changeFirst test change rows) :
    row ∈ rows ∨ ∃ old ∈ rows, test old = true ∧ row = change old := by
  induction rows with
  | nil => exact Or.inl member
  | cons head rest inductionHypothesis =>
    unfold changeFirst at member
    split at member
    · rename_i passes
      rcases List.mem_cons.mp member with rfl | isRest
      · exact Or.inr ⟨head, List.mem_cons_self, passes, rfl⟩
      · exact Or.inl (List.mem_cons_of_mem _ isRest)
    · rcases List.mem_cons.mp member with rfl | isRest
      · exact Or.inl List.mem_cons_self
      · rcases inductionHypothesis isRest with before | ⟨old, before, passes, rfl⟩
        · exact Or.inl (List.mem_cons_of_mem _ before)
        · exact Or.inr ⟨old, List.mem_cons_of_mem _ before, passes, rfl⟩

/-- A row of a table is still there after a change, unless it passed the test and was changed. -/
theorem mem_changeFirst_or_change_mem {Row : Type} {test : Row → Bool} {change : Row → Row}
    {rows : List Row} {row : Row} (member : row ∈ rows) :
    row ∈ changeFirst test change rows ∨
      test row = true ∧ change row ∈ changeFirst test change rows := by
  induction rows with
  | nil => cases member
  | cons head rest inductionHypothesis =>
    unfold changeFirst
    rcases List.mem_cons.mp member with rfl | isRest
    · split
      · rename_i passes
        exact Or.inr ⟨passes, List.mem_cons_self⟩
      · exact Or.inl List.mem_cons_self
    · split
      · exact Or.inl (List.mem_cons_of_mem _ isRest)
      · exact (inductionHypothesis isRest).imp (List.mem_cons_of_mem _)
          (And.imp_right (List.mem_cons_of_mem _))

/-- The users that are kept when a profile is written have its identifier only under its username. -/
theorem nameKey_username_of_mem_dropRenamed {instanceId : String} {fields : StubFields} {user : User}
    (member : user ∈ (dropRenamed instanceId fields tables).users)
    (isThere : user.instanceId = instanceId) (sameId : user.remoteUserId = some fields.remoteId) :
    nameKey user.username = nameKey fields.username := by
  have kept := (List.mem_filter.mp member).2
  rw [isRenamed, beq_iff_eq.mpr isThere, beq_iff_eq.mpr sameId, Bool.true_and, Bool.true_and,
    Bool.not_not] at kept
  exact (sameName_iff _ _).mp kept

/-- What a user of an instance is once a profile was written there. -/
structure IsWrittenStub (instanceId : String) (fields : StubFields) (user : User) : Prop where
  isThere : user.instanceId = instanceId
  remoteUserId : user.remoteUserId = some fields.remoteId
  named : nameKey user.username = nameKey fields.username

/-- The users after a profile was written: those that were kept, and what was written. -/
theorem mem_of_mem_putStub {instanceId : String} {fields : StubFields} {id : String}
    {now : Timestamp} {written user : User}
    (put : tables.putStub instanceId fields id now = .ok (written, changed))
    (member : user ∈ changed.users) :
    user ∈ (dropRenamed instanceId fields tables).users ∨ IsWrittenStub instanceId fields user := by
  unfold putStub at put
  dsimp only at put
  split at put
  · cases put
    rcases mem_or_exists_of_mem_changeFirst member with before | ⟨old, -, passes, rfl⟩
    · exact Or.inl before
    · obtain ⟨isThere, named⟩ := Prod.ext_iff.mp ((isUser_iff_place _ _ _).mp passes)
      exact Or.inr ⟨isThere, rfl, named⟩
  · split at put
    · cases put
      rcases List.mem_append.mp member with before | added
      · exact Or.inl before
      · rw [List.mem_singleton.mp added]
        exact Or.inr ⟨rfl, rfl, rfl⟩
    · cases put

/-- No two users of one instance have one identifier of that instance. -/
def HasDistinctRemoteIds (tables : Tables) : Prop :=
  ∀ first ∈ tables.users, ∀ second ∈ tables.users, first.instanceId = second.instanceId →
    first.remoteUserId = second.remoteUserId → first.remoteUserId ≠ none →
    nameKey first.username = nameKey second.username

theorem HasDistinctRemoteIds.of_users (distinct : tables.HasDistinctRemoteIds)
    (same : changed.users = tables.users) : changed.HasDistinctRemoteIds := by
  rw [HasDistinctRemoteIds, same]
  exact distinct

theorem HasDistinctRemoteIds.putStub (distinct : tables.HasDistinctRemoteIds) {instanceId : String}
    {fields : StubFields} {id : String} {now : Timestamp} {user : User}
    (put : tables.putStub instanceId fields id now = .ok (user, changed)) :
    changed.HasDistinctRemoteIds := by
  intro first isFirst second isSecond sameInstance sameId identified
  rcases mem_of_mem_putStub put isFirst with firstKept | firstWritten
  · rcases mem_of_mem_putStub put isSecond with secondKept | secondWritten
    · exact distinct first (List.mem_filter.mp firstKept).1 second (List.mem_filter.mp secondKept).1
        sameInstance sameId identified
    · rw [secondWritten.named]
      exact nameKey_username_of_mem_dropRenamed firstKept (sameInstance.trans secondWritten.isThere)
        (sameId.trans secondWritten.remoteUserId)
  · rw [firstWritten.named]
    rcases mem_of_mem_putStub put isSecond with secondKept | secondWritten
    · exact (nameKey_username_of_mem_dropRenamed secondKept
        (sameInstance.symm.trans firstWritten.isThere)
        (sameId.symm.trans firstWritten.remoteUserId)).symm
    · exact secondWritten.named.symm

theorem HasDistinctRemoteIds.register (distinct : tables.HasDistinctRemoteIds)
    {instanceId username : String} {displayName : Option String} {id : String} {now : Timestamp}
    {user : User} (written : tables.register instanceId username displayName id now =
      .ok (user, changed)) : changed.HasDistinctRemoteIds := by
  unfold Tables.register at written
  split at written
  · cases written
  · split at written
    · cases written
      intro first isFirst second isSecond sameInstance sameId identified
      rcases List.mem_append.mp isFirst with firstBefore | firstAdded
      · rcases List.mem_append.mp isSecond with secondBefore | secondAdded
        · exact distinct first firstBefore second secondBefore sameInstance sameId identified
        · rw [List.mem_singleton.mp secondAdded] at sameId
          exact absurd sameId identified
      · rw [List.mem_singleton.mp firstAdded] at identified
        exact absurd rfl identified
    · cases written

theorem users_putPeer {instanceId domain : String} {status : PeerStatus} {now : Timestamp} {peer : Peer}
    (written : tables.putPeer instanceId domain status now = .ok (peer, changed)) :
    changed.users = tables.users := by
  unfold putPeer at written
  split at written
  · cases written
    rfl
  · split at written <;> cases written
    rfl

/-- The row that a start writes is there afterwards. -/
theorem mem_putLocal (tables : Tables) (settings : LocalSettings) (id : String) (now : Timestamp) :
    (tables.putLocal settings id now).1 ∈ (tables.putLocal settings id now).2.instances := by
  unfold putLocal
  split
  · rename_i row found
    unfold instanceAt? at found
    have named := List.find?_some found
    have stillNamed : sameName (refreshLocal settings now row).domain settings.domain = true := named
    exact List.mem_of_find?_eq_some (find?_changeFirst found stillNamed)
  · exact List.mem_append_right _ (List.mem_singleton_self _)

theorem users_putLocal (settings : LocalSettings) (id : String) (now : Timestamp) :
    (tables.putLocal settings id now).2.users = tables.users := by
  unfold putLocal
  split <;> rfl

/-- A write leaves no two users of one instance with one identifier of that instance. -/
theorem HasDistinctRemoteIds.canBecome (distinct : tables.HasDistinctRemoteIds) {command : Command}
    (becomes : tables.CanBecome issued command changed) : changed.HasDistinctRemoteIds := by
  cases becomes with
  | same command => exact distinct
  | home settings now => exact distinct.of_users (users_putLocal settings _ now)
  | remote written => exact distinct.of_users (users_putRemote written).1
  | mode instanceId mode => exact distinct
  | peer written => exact distinct.of_users (users_putPeer written)
  | account written => exact distinct.register written
  | stub written => exact distinct.putStub written
  | remoteUser written =>
    unfold putRemoteUser at written
    split at written
    · cases written
    · rename_i row between first
      exact (distinct.of_users (users_putRemote first).1).putStub written

end Tables

namespace World.IsReachable

variable {world : World}

/-- No two instances of a reached world have one domain. -/
theorem hasDistinctDomains (reachable : world.IsReachable) : world.tables.HasDistinctDomains := by
  induction reachable with
  | fresh store now => exact List.nodup_nil
  | carriedOut _ surroundings command inductionHypothesis =>
    exact inductionHypothesis.canBecome (World.canBecome_carryOut surroundings command)
  | later _ now _ inductionHypothesis => exact inductionHypothesis

/-- No two users of one instance have one identifier of that instance in a reached world. -/
theorem hasDistinctRemoteIds (reachable : world.IsReachable) : world.tables.HasDistinctRemoteIds := by
  induction reachable with
  | fresh store now => exact fun _ member => absurd member List.not_mem_nil
  | carriedOut _ surroundings command inductionHypothesis =>
    exact inductionHypothesis.canBecome (World.canBecome_carryOut surroundings command)
  | later _ now _ inductionHypothesis => exact inductionHypothesis

end World.IsReachable

end HandleFederation
