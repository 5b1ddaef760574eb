/-
This file tells the stubs of an instance from the history of their writes. Each write drops
the rows that hold its remote identifier under other usernames, and renews the row of its
username or adds one. What that comes to after any number of writes can be said without
running them: a username has a row if it was written, and since its last write no other
username took its remote identifier; the row has the profile of that last write, and its
identifier, its spelling and its time of creation from the writes since the row was last
absent. The invariant is over whole histories, because a row that is added again after it was
dropped starts over with everything but its profile.
-/

import HandleFederation.Proofs.AtomicEffect

namespace HandleFederation

open Text

/-! ### Histories of writes -/

/-- A write of a cached profile: what is written, and the time that is given with it. -/
structure StubWrite where
  fields : StubFields
  now : Timestamp

namespace StubWrite

/-- Whether a write is for a username. -/
def isFor (username : String) (write : StubWrite) : Bool :=
  sameName write.fields.username username

/-- One of some writes, of which the latest stand first, is the last one for a username, and some came
after it. -/
structure IsLast (username : String) (writes later : List StubWrite) (last : StubWrite) : Prop where
  splits : ∃ before, writes = later ++ last :: before
  isFor : last.isFor username = true
  notLater : ∀ write ∈ later, write.isFor username = false

/-- Some writes leave a row for a username: one was for it, and none after the last one for it had the
same remote identifier. -/
def LeaveRow (username : String) (writes : List StubWrite) : Prop :=
  ∃ later last, IsLast username writes later last ∧
    ∀ write ∈ later, write.fields.remoteId ≠ last.fields.remoteId

/-- One of some writes is the first one for a username since its row was last absent; some came after it
and some before. -/
structure IsFirst (username : String) (writes since : List StubWrite) (first : StubWrite)
    (earlier : List StubWrite) : Prop where
  splits : writes = since ++ first :: earlier
  isFor : first.isFor username = true
  wasAbsent : ¬ LeaveRow username earlier
  stays : ∀ history, first :: earlier <:+ history → history <:+ writes → LeaveRow username history

/-- The latest time of creation that some writes for a username give, if any does. -/
def givenCreation (username : String) (writes : List StubWrite) : Option Timestamp :=
  (writes.filter (isFor username)).findSome? fun write => write.fields.createdAt

/-- A row is what some writes make of a username at an instance, where so many identifiers had been issued
before them. -/
structure Make (issued : Nat) (instanceId username : String) (writes : List StubWrite) (row : User) :
    Prop where
  belongs : row.instanceId = instanceId
  profile : ∃ later last, IsLast username writes later last ∧
    row.remoteUserId = some last.fields.remoteId ∧ row.displayName = last.fields.displayName ∧
    row.avatarId = last.fields.avatarId ∧ row.bio = last.fields.bio ∧ row.updatedAt = last.now
  origin : ∃ since first earlier, IsFirst username writes since first earlier ∧
    row.id = identifier (issued + earlier.length) ∧ row.username = first.fields.username ∧
    row.createdAt = (givenCreation username (since ++ [first])).getD first.now

variable {username : String} {write last : StubWrite} {writes later : List StubWrite}

/-! ### One more write -/

/-- A write for a username is the last one for it. -/
theorem isLast_of_isFor (isFor : write.isFor username = true) (writes : List StubWrite) :
    IsLast username (write :: writes) [] write :=
  ⟨⟨writes, rfl⟩, isFor, nofun⟩

/-- A write for another username leaves the last one the last one. -/
theorem IsLast.cons (isLast : IsLast username writes later last)
    (isOther : write.isFor username = false) :
    IsLast username (write :: writes) (write :: later) last := by
  obtain ⟨before, rfl⟩ := isLast.splits
  exact ⟨⟨before, rfl⟩, isLast.isFor, List.forall_mem_cons.mpr ⟨isOther, isLast.notLater⟩⟩

/-- After a write for another username the last one is the one that it was before. -/
theorem IsLast.exists_of_cons (isLast : IsLast username (write :: writes) later last)
    (isOther : write.isFor username = false) :
    ∃ rest, later = write :: rest ∧ IsLast username writes rest last := by
  obtain ⟨before, splits⟩ := isLast.splits
  cases later with
  | nil =>
    rw [List.nil_append, List.cons.injEq] at splits
    obtain ⟨rfl, -⟩ := splits
    exact Bool.noConfusion (isOther.symm.trans isLast.isFor)
  | cons head rest =>
    rw [List.cons_append, List.cons.injEq] at splits
    obtain ⟨rfl, splits⟩ := splits
    exact ⟨rest, rfl, ⟨before, splits⟩, isLast.isFor, (List.forall_mem_cons.mp isLast.notLater).2⟩

/-- There is one last write for a username. -/
theorem IsLast.unique {other : StubWrite} {otherLater : List StubWrite}
    (isLast : IsLast username writes later last) (isLastToo : IsLast username writes otherLater other) :
    later = otherLater ∧ last = other := by
  induction writes generalizing later otherLater with
  | nil =>
    obtain ⟨before, splits⟩ := isLast.splits
    simp at splits
  | cons write writes inductionHypothesis =>
    cases isFor : write.isFor username with
    | true =>
      have isHead : ∀ {later : List StubWrite} {last : StubWrite},
          IsLast username (write :: writes) later last → later = [] ∧ last = write := by
        intro later last isLast
        obtain ⟨before, splits⟩ := isLast.splits
        cases later with
        | nil => exact ⟨rfl, (List.cons.inj splits).1.symm⟩
        | cons head rest =>
          obtain ⟨rfl, -⟩ := List.cons.inj splits
          exact Bool.noConfusion ((isLast.notLater _ List.mem_cons_self).symm.trans isFor)
      obtain ⟨rfl, rfl⟩ := isHead isLast
      obtain ⟨rfl, rfl⟩ := isHead isLastToo
      exact ⟨rfl, rfl⟩
    | false =>
      obtain ⟨rest, rfl, isLastBefore⟩ := isLast.exists_of_cons isFor
      obtain ⟨otherRest, rfl, isLastBeforeToo⟩ := isLastToo.exists_of_cons isFor
      obtain ⟨rfl, rfl⟩ := inductionHypothesis isLastBefore isLastBeforeToo
      exact ⟨rfl, rfl⟩

theorem not_leaveRow_nil : ¬ LeaveRow username [] := by
  rintro ⟨later, last, isLast, -⟩
  obtain ⟨before, splits⟩ := isLast.splits
  simp at splits

theorem leaveRow_of_isFor (isFor : write.isFor username = true) (writes : List StubWrite) :
    LeaveRow username (write :: writes) :=
  ⟨[], write, isLast_of_isFor isFor writes, nofun⟩

/-- A write for another username leaves the row if it has another remote identifier than the row. -/
theorem leaveRow_cons_iff (isOther : write.isFor username = false) :
    LeaveRow username (write :: writes) ↔ ∃ later last, IsLast username writes later last ∧
      (∀ write ∈ later, write.fields.remoteId ≠ last.fields.remoteId) ∧
      write.fields.remoteId ≠ last.fields.remoteId := by
  constructor
  · rintro ⟨later, last, isLast, keeps⟩
    obtain ⟨rest, rfl, isLastBefore⟩ := isLast.exists_of_cons isOther
    obtain ⟨differs, keeps⟩ := List.forall_mem_cons.mp keeps
    exact ⟨rest, last, isLastBefore, keeps, differs⟩
  · rintro ⟨later, last, isLast, keeps, differs⟩
    exact ⟨write :: later, last, isLast.cons isOther, List.forall_mem_cons.mpr ⟨differs, keeps⟩⟩

/-- A row that is still left after a write has the same origin as before. -/
theorem IsFirst.cons {since earlier : List StubWrite} {first : StubWrite}
    (isFirst : IsFirst username writes since first earlier) (left : LeaveRow username (write :: writes)) :
    IsFirst username (write :: writes) (write :: since) first earlier where
  splits := by rw [isFirst.splits, List.cons_append]
  isFor := isFirst.isFor
  wasAbsent := isFirst.wasAbsent
  stays history after within := by
    rcases List.suffix_cons_iff.mp within with rfl | isBefore
    · exact left
    · exact isFirst.stays history after isBefore

/-- The first write for a username after its row was absent is the origin of the row. -/
theorem isFirst_of_not_leaveRow (isFor : write.isFor username = true)
    (absent : ¬ LeaveRow username writes) : IsFirst username (write :: writes) [] write writes where
  splits := rfl
  isFor := isFor
  wasAbsent := absent
  stays history after within := by
    rw [List.IsSuffix.eq_of_length within (Nat.le_antisymm within.length_le after.length_le)]
    exact leaveRow_of_isFor isFor writes

theorem givenCreation_cons_of_not (isOther : write.isFor username = false) (writes : List StubWrite) :
    givenCreation username (write :: writes) = givenCreation username writes := by
  rw [givenCreation, List.filter_cons_of_neg (Bool.eq_false_iff.mp isOther), givenCreation]

theorem givenCreation_cons (isFor : write.isFor username = true) (writes : List StubWrite) :
    givenCreation username (write :: writes) =
      write.fields.createdAt.or (givenCreation username writes) := by
  rw [givenCreation, List.filter_cons_of_pos isFor, List.findSome?_cons, givenCreation]
  cases write.fields.createdAt <;> rfl

/-- A write for a username that has a row renews the row. -/
theorem Make.refresh {issued : Nat} {instanceId : String} {row : User}
    (makes : Make issued instanceId username writes row) (isFor : write.isFor username = true) :
    Make issued instanceId username (write :: writes) (Tables.refreshStub write.fields write.now row) where
  belongs := makes.belongs
  profile := ⟨[], write, isLast_of_isFor isFor writes, rfl, rfl, rfl, rfl, rfl⟩
  origin := by
    obtain ⟨since, first, earlier, isFirst, sameId, sameName, created⟩ := makes.origin
    refine ⟨write :: since, first, earlier, isFirst.cons (leaveRow_of_isFor isFor writes), sameId,
      sameName, ?_⟩
    rw [List.cons_append, givenCreation_cons isFor, Tables.refreshStub]
    dsimp only
    rw [created]
    cases write.fields.createdAt <;> rfl

/-- A write for a username that has no row makes one. -/
theorem make_newStub (issued : Nat) (instanceId : String) (isFor : write.isFor username = true)
    (absent : ¬ LeaveRow username writes) :
    Make issued instanceId username (write :: writes)
      (Tables.newStub instanceId write.fields (identifier (issued + writes.length)) write.now) where
  belongs := rfl
  profile := ⟨[], write, isLast_of_isFor isFor writes, rfl, rfl, rfl, rfl, rfl⟩
  origin := by
    refine ⟨[], write, writes, isFirst_of_not_leaveRow isFor absent, rfl, rfl, ?_⟩
    have given : givenCreation username [write] = write.fields.createdAt := by
      rw [givenCreation_cons isFor]
      exact Option.or_none
    rw [List.nil_append, given]
    rfl

/-- A write for another username leaves a row as it is, if it leaves it. -/
theorem Make.cons {issued : Nat} {instanceId : String} {row : User}
    (makes : Make issued instanceId username writes row) (isOther : write.isFor username = false)
    (left : LeaveRow username (write :: writes)) :
    Make issued instanceId username (write :: writes) row where
  belongs := makes.belongs
  profile := by
    obtain ⟨later, last, isLast, sameFields⟩ := makes.profile
    exact ⟨write :: later, last, isLast.cons isOther, sameFields⟩
  origin := by
    obtain ⟨since, first, earlier, isFirst, sameId, sameName, created⟩ := makes.origin
    refine ⟨write :: since, first, earlier, isFirst.cons left, sameId, sameName, ?_⟩
    rw [List.cons_append, givenCreation_cons_of_not isOther]
    exact created

/-- A row that some writes make stays after a write for another username unless that has its remote
identifier. -/
theorem Make.leaveRow_cons_iff {issued : Nat} {instanceId : String} {row : User}
    (makes : Make issued instanceId username writes row) (left : LeaveRow username writes)
    (isOther : write.isFor username = false) :
    LeaveRow username (write :: writes) ↔ row.remoteUserId ≠ some write.fields.remoteId := by
  obtain ⟨later, last, isLast, sameRemoteId, -⟩ := makes.profile
  obtain ⟨_, _, isLastToo, keeps⟩ := left
  obtain ⟨rfl, rfl⟩ := isLast.unique isLastToo
  rw [StubWrite.leaveRow_cons_iff isOther, sameRemoteId, Ne, Option.some_inj]
  constructor
  · rintro ⟨_, _, isLastThere, -, differs⟩ same
    obtain ⟨-, rfl⟩ := isLast.unique isLastThere
    exact differs same.symm
  · exact fun differs => ⟨later, last, isLast, keeps, fun same => differs same.symm⟩

end StubWrite

/-! ### Rows with a name -/

namespace Tables

theorem hasName_congr {first second : String} (same : nameKey first = nameKey second) :
    hasName first = hasName second := by
  funext user
  rw [hasName, hasName, sameName, sameName, same]

variable {fields : StubFields} {now : Timestamp} {fresh : User} {users : List User} {username : String}

/-- No user with the username of a profile was known by another name. -/
theorem filter_hasName_not_wasRenamed (same : nameKey fields.username = nameKey username) (users : List User) :
    (users.filter fun user => !wasRenamed fields user).filter (hasName username) =
      users.filter (hasName username) := by
  rw [List.filter_filter]
  refine List.filter_congr fun user _ => ?_
  rw [wasRenamed, hasName_congr same]
  cases hasName username user <;> simp

/-- Where nobody has the username of a profile it is added. -/
theorem mergeStub_of_absent (now : Timestamp) (same : nameKey fields.username = nameKey username)
    (named : nameKey fresh.username = nameKey username) (absent : users.filter (hasName username) = []) :
    (mergeStub fields now fresh users).1 = fresh ∧
      (mergeStub fields now fresh users).2.filter (hasName username) = [fresh] := by
  have kept := filter_hasName_not_wasRenamed same users
  rw [absent] at kept
  have notFound : (users.filter fun user => !wasRenamed fields user).find? (hasName fields.username) =
      none := by
    rw [hasName_congr same, ← List.head?_filter, kept]
    rfl
  have isNamed : hasName username fresh = true := (sameName_iff _ _).mpr named
  unfold mergeStub
  dsimp only
  rw [notFound]
  refine ⟨rfl, ?_⟩
  rw [List.filter_append, kept, List.nil_append, List.filter_singleton, isNamed]
  rfl

/-- The one who has the username of a profile gets it. -/
theorem mergeStub_of_present {old : User} (now : Timestamp) (fresh : User)
    (same : nameKey fields.username = nameKey username)
    (present : users.filter (hasName username) = [old]) :
    (mergeStub fields now fresh users).1 = refreshStub fields now old ∧
      (mergeStub fields now fresh users).2.filter (hasName username) = [refreshStub fields now old] := by
  have kept := filter_hasName_not_wasRenamed same users
  rw [present] at kept
  have found : (users.filter fun user => !wasRenamed fields user).find? (hasName fields.username) =
      some old := by
    rw [hasName_congr same, ← List.head?_filter, kept]
    rfl
  have isNamed : hasName username old = true := by
    have member : old ∈ users.filter (hasName username) := present ▸ List.mem_singleton_self old
    exact (List.mem_filter.mp member).2
  have sameTest : (hasName username ∘ fun user =>
      if hasName username user then refreshStub fields now user else user) = hasName username := by
    funext user
    rw [Function.comp_apply]
    split <;> rfl
  unfold mergeStub
  dsimp only
  rw [found]
  refine ⟨rfl, ?_⟩
  dsimp only
  rw [hasName_congr same, List.filter_map, sameTest, kept, List.map_singleton, if_pos isNamed]

/-- Others than the one who has the username of a profile stay, unless they have its remote identifier. -/
theorem filter_mergeStub_of_other (now : Timestamp) (users : List User)
    (differs : nameKey fields.username ≠ nameKey username) (named : fresh.username = fields.username) :
    (mergeStub fields now fresh users).2.filter (hasName username) =
      (users.filter (hasName username)).filter fun user => user.remoteUserId != some fields.remoteId := by
  have isOther : ∀ user, hasName username user = true → hasName fields.username user = false := by
    intro user isNamed
    refine Bool.eq_false_iff.mpr fun alsoNamed => differs ?_
    rw [← (sameName_iff _ _).mp alsoNamed, (sameName_iff _ _).mp isNamed]
  have notFresh : hasName username fresh = false := by
    refine Bool.eq_false_iff.mpr fun isNamed => differs ?_
    rw [← named, (sameName_iff _ _).mp isNamed]
  have kept : (users.filter fun user => !wasRenamed fields user).filter (hasName username) =
      (users.filter (hasName username)).filter
        fun user => user.remoteUserId != some fields.remoteId := by
    rw [List.filter_filter, List.filter_filter]
    refine List.filter_congr fun user _ => ?_
    cases isNamed : hasName username user with
    | false => simp
    | true => simp [wasRenamed, isOther user isNamed, bne]
  unfold mergeStub
  dsimp only
  split
  · have sameTest : (hasName username ∘ fun user =>
        if hasName fields.username user then refreshStub fields now user else user) = hasName username := by
      funext user
      rw [Function.comp_apply]
      split <;> rfl
    rw [List.filter_map, sameTest, kept]
    refine (List.map_congr_left fun user member => ?_).trans (List.map_id _)
    have isNamed := (List.mem_filter.mp (List.mem_filter.mp member).1).2
    rw [isOther user isNamed]
    rfl
  · rw [List.filter_append, kept, List.filter_singleton, notFresh]
    exact List.append_nil _

end Tables

/-! ### Running the writes -/

namespace World

/-- The world after some writes at an instance, the latest of which stand first. -/
def afterStubs (surroundings : Surroundings) (instanceId : String) (world : World) :
    List StubWrite → World
  | [] => world
  | write :: earlier =>
    ((world.afterStubs surroundings instanceId earlier).carryOut surroundings
      (.writeStub instanceId write.fields write.now)).2

variable {instanceId : String} {world : World}

/-- A write at an instance that is there succeeds, and merges the profile among the users there. -/
theorem carryOut_writeStub_of_isSound (surroundings : Surroundings) (sound : world.IsSound)
    (isThere : world.tables.hasInstance instanceId = true) (write : StubWrite) :
    let fresh := Tables.newStub instanceId write.fields (identifier world.issued) write.now
    let merged := Tables.mergeStub write.fields write.now fresh (world.tables.usersOf instanceId)
    ∃ tables, world.tables.putStub instanceId write.fields (identifier world.issued) write.now =
        .ok (merged.1, tables) ∧ tables.usersOf instanceId = merged.2 ∧
      world.carryOut surroundings (.writeStub instanceId write.fields write.now) =
        (some (.ok merged.1), { world with tables := tables, issued := world.issued + 1 }) := by
  obtain ⟨tables, written, users⟩ := Tables.putStub_eq_mergeStub sound.tables isThere write.fields
    (identifier world.issued) write.now
  refine ⟨tables, written, users, ?_⟩
  rw [carryOut_writeStub, changeTables_of_ok sound.isOpen written]

/-- What all worlds after some writes have in common. -/
structure IsAfterStubs (instanceId : String) (world : World) (writes : List StubWrite) (after : World) :
    Prop where
  sound : after.IsSound
  issued : after.issued = world.issued + writes.length
  isThere : after.tables.hasInstance instanceId = true
  instances : after.tables.instances = world.tables.instances
  peers : after.tables.peers = world.tables.peers
  elsewhere : ∀ other ≠ instanceId, after.tables.usersOf other = world.tables.usersOf other

theorem isAfterStubs (surroundings : Surroundings) (sound : world.IsSound)
    (isThere : world.tables.hasInstance instanceId = true) (writes : List StubWrite) :
    world.IsAfterStubs instanceId writes (world.afterStubs surroundings instanceId writes) := by
  induction writes with
  | nil => exact ⟨sound, rfl, isThere, rfl, rfl, fun _ _ => rfl⟩
  | cons write earlier inductionHypothesis =>
    have stillSound := isSound_carryOut inductionHypothesis.sound surroundings
      (.writeStub instanceId write.fields write.now)
    obtain ⟨tables, written, -, carried⟩ := carryOut_writeStub_of_isSound surroundings
      inductionHypothesis.sound inductionHypothesis.isThere write
    have sameInstances := Tables.instances_putStub written
    rw [afterStubs]
    rw [carried] at stillSound ⊢
    refine ⟨stillSound, ?_, ?_, sameInstances.trans inductionHypothesis.instances,
      (Tables.peers_putStub written).trans inductionHypothesis.peers, fun other differs => ?_⟩
    · dsimp only
      rw [inductionHypothesis.issued, List.length_cons, Nat.add_assoc]
    · have stillThere := inductionHypothesis.isThere
      unfold Tables.hasInstance Tables.instanceWithId? at stillThere ⊢
      rw [sameInstances]
      exact stillThere
    · exact (Tables.usersOf_putStub differs written).trans (inductionHypothesis.elsewhere other differs)

/-- The users of an instance with a username are what some writes make of it: one row as they make it, if
they leave one, and otherwise none. -/
def HoldsAsMade (issued : Nat) (instanceId username : String) (writes : List StubWrite) (users : List User) :
    Prop :=
  (StubWrite.LeaveRow username writes ∧ ∃ row, users.filter (Tables.hasName username) = [row] ∧
    StubWrite.Make issued instanceId username writes row) ∨
  (¬ StubWrite.LeaveRow username writes ∧ users.filter (Tables.hasName username) = [])

/-- One more write, merged among the users, makes of them what all writes do. -/
theorem HoldsAsMade.cons {issued : Nat} {username : String} {writes : List StubWrite} {users : List User}
    (holds : HoldsAsMade issued instanceId username writes users) (write : StubWrite) :
    let fresh := Tables.newStub instanceId write.fields (identifier (issued + writes.length)) write.now
    let merged := Tables.mergeStub write.fields write.now fresh users
    HoldsAsMade issued instanceId username (write :: writes) merged.2 ∧
      (write.isFor username = true → merged.2.filter (Tables.hasName username) = [merged.1]) := by
  cases isFor : write.isFor username with
  | true =>
    have same := (sameName_iff _ _).mp isFor
    have leaves := StubWrite.leaveRow_of_isFor isFor writes
    rcases holds with ⟨-, row, present, makes⟩ | ⟨absent, noRow⟩
    · obtain ⟨result, after⟩ := Tables.mergeStub_of_present write.now
        (Tables.newStub instanceId write.fields (identifier (issued + writes.length)) write.now)
        same present
      exact ⟨Or.inl ⟨leaves, _, after, makes.refresh isFor⟩, fun _ => by rw [after, result]⟩
    · have named : nameKey (Tables.newStub instanceId write.fields
          (identifier (issued + writes.length)) write.now).username = nameKey username := same
      obtain ⟨result, after⟩ := Tables.mergeStub_of_absent write.now same named noRow
      exact ⟨Or.inl ⟨leaves, _, after, StubWrite.make_newStub issued instanceId isFor absent⟩,
        fun _ => by rw [after, result]⟩
  | false =>
    have differs : nameKey write.fields.username ≠ nameKey username := fun same =>
      Bool.eq_false_iff.mp isFor ((sameName_iff _ _).mpr same)
    have named : (Tables.newStub instanceId write.fields (identifier (issued + writes.length))
        write.now).username = write.fields.username := rfl
    have after := Tables.filter_mergeStub_of_other write.now users differs named
    refine ⟨?_, nofun⟩
    unfold HoldsAsMade
    rw [after]
    rcases holds with ⟨left, row, present, makes⟩ | ⟨absent, noRow⟩
    · have stays := makes.leaveRow_cons_iff left isFor
      rw [present, List.filter_singleton]
      by_cases taken : row.remoteUserId = some write.fields.remoteId
      · exact Or.inr ⟨fun leaves => stays.mp leaves taken, by rw [taken, bne_self_eq_false]; rfl⟩
      · have leaves := stays.mpr taken
        exact Or.inl ⟨leaves, row, by rw [bne_iff_ne.mpr taken]; rfl, makes.cons isFor leaves⟩
    · refine Or.inr ⟨fun leaves => ?_, by rw [noRow, List.filter_nil]⟩
      obtain ⟨later, last, isLast, keeps, -⟩ := (StubWrite.leaveRow_cons_iff isFor).mp leaves
      exact absent ⟨later, last, isLast, keeps⟩

/-- The stubs of an instance follow from the writes. At an instance without users, whatever is written for
its users, with any spellings, remote identifiers, profiles and times, every write succeeds and gives the
row of its username. Afterwards a username has exactly one row if it was written and no write after the
last one for it, which was then for another username, had the same remote identifier; otherwise it has
none. The row has the remote identifier, the profile and the time of the last write, the identifier and
the spelling of the first write since it was last absent, and the latest time of creation that was given
since then, or the time of that first write. Nothing else in the tables changes. -/
theorem stubs_follow_writes (reachable : world.IsReachable)
    (isThere : world.tables.hasInstance instanceId = true)
    (nobody : world.tables.usersOf instanceId = []) (surroundings : Surroundings)
    (writes : List StubWrite) :
    let after := world.afterStubs surroundings instanceId writes
    (∀ username, HoldsAsMade world.issued instanceId username writes (after.tables.usersOf instanceId)) ∧
    (∀ write earlier, writes = write :: earlier → ∃ row,
      ((world.afterStubs surroundings instanceId earlier).carryOut surroundings
        (.writeStub instanceId write.fields write.now)).1 = some (.ok row) ∧
      (after.tables.usersOf instanceId).filter (Tables.hasName write.fields.username) = [row]) ∧
    (∀ other ≠ instanceId, after.tables.usersOf other = world.tables.usersOf other) ∧
    after.tables.instances = world.tables.instances ∧ after.tables.peers = world.tables.peers := by
  have frame := isAfterStubs surroundings reachable.isSound isThere
  have step : ∀ writes write,
      (∀ username, HoldsAsMade world.issued instanceId username writes
        ((world.afterStubs surroundings instanceId writes).tables.usersOf instanceId)) →
      let after := world.afterStubs surroundings instanceId (write :: writes)
      (∀ username, HoldsAsMade world.issued instanceId username (write :: writes)
        (after.tables.usersOf instanceId)) ∧
      ∃ row, ((world.afterStubs surroundings instanceId writes).carryOut surroundings
          (.writeStub instanceId write.fields write.now)).1 = some (.ok row) ∧
        (after.tables.usersOf instanceId).filter (Tables.hasName write.fields.username) = [row] := by
    intro writes write holds
    obtain ⟨tables, -, users, carried⟩ := carryOut_writeStub_of_isSound surroundings
      (frame writes).sound (frame writes).isThere write
    rw [(frame writes).issued] at users carried
    rw [afterStubs, carried]
    dsimp only
    rw [users]
    exact ⟨fun username => ((holds username).cons write).1, _, rfl,
      ((holds write.fields.username).cons write).2 (sameName_refl _)⟩
  have holds : ∀ writes username, HoldsAsMade world.issued instanceId username writes
      ((world.afterStubs surroundings instanceId writes).tables.usersOf instanceId) := by
    intro writes
    induction writes with
    | nil => exact fun username => Or.inr ⟨StubWrite.not_leaveRow_nil, by rw [afterStubs, nobody]; rfl⟩
    | cons write earlier inductionHypothesis => exact (step earlier write inductionHypothesis).1
  refine ⟨holds writes, ?_, (frame writes).elsewhere, (frame writes).instances, (frame writes).peers⟩
  rintro write earlier rfl
  exact (step earlier write (holds earlier)).2

/-! ### A user who is renamed -/

/-- The world of a new database in which one other instance was written. -/
def withOther : World :=
  ((fresh (.memory .empty) 0).carryOut .silent
    (.writeRemote (Resolution.remoteSettings "other.example" .plain) (Timestamp.ofNanoseconds 0))).2

/-- A write of a user who always has the same remote identifier. -/
def sevenNamed (username : String) (now : Int) : StubWrite :=
  ⟨⟨"7", username, none, none, none, none⟩, .ofNanoseconds now⟩

/-- A user is written under one name and then under another: the first name has no row any more, and the
second has one. -/
theorem stub_of_renamed_user :
    let writes := [sevenNamed "bob" 1, sevenNamed "alice" 0]
    let users := (withOther.afterStubs .silent (identifier 0) writes).tables.usersOf (identifier 0)
    withOther.IsReachable ∧ withOther.tables.hasInstance (identifier 0) = true ∧
      withOther.tables.usersOf (identifier 0) = [] ∧
      users.filter (Tables.hasName "alice") = [] ∧
      ∃ row, users.filter (Tables.hasName "Bob") = [row] ∧
        StubWrite.Make 1 (identifier 0) "Bob" writes row := by
  have reachable : withOther.IsReachable := .carriedOut (.fresh _ _) _ _
  have isThere : withOther.tables.hasInstance (identifier 0) = true := by decide
  obtain ⟨holds, -⟩ := stubs_follow_writes reachable isThere rfl .silent
    [sevenNamed "bob" 1, sevenNamed "alice" 0]
  refine ⟨reachable, isThere, rfl, ?_, ?_⟩
  · rcases holds "alice" with ⟨⟨later, last, isLast, keeps⟩, -⟩ | ⟨-, noRow⟩
    · have isAlice : StubWrite.IsLast "alice" [sevenNamed "bob" 1, sevenNamed "alice" 0]
          [sevenNamed "bob" 1] (sevenNamed "alice" 0) :=
        (StubWrite.isLast_of_isFor (by decide) []).cons (by decide)
      obtain ⟨rfl, rfl⟩ := isLast.unique isAlice
      exact (keeps _ (List.mem_singleton_self _) rfl).elim
    · exact noRow
  · rcases holds "Bob" with ⟨-, row, present, makes⟩ | ⟨absent, -⟩
    · exact ⟨row, present, makes⟩
    · exact absurd (StubWrite.leaveRow_of_isFor (by decide) _) absent

end World

end HandleFederation
