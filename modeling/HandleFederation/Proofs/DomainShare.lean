/-
This file compares two servers by what their tables say about one domain: its instance
and the users of that instance. Identifiers are issued by each server for itself, so
the comparison goes through a transfer of the identifiers of one to those of the
other, and the order in which users were added does not count. Writing the same
instance and the same user on both sides keeps the tables alike about the domain, once
the transfer takes the new identifiers of one side to those of the other, and it fails
on both sides or on neither. What the tables say about other domains has no part in
it.
-/

import HandleFederation.Proofs.DomainFrame

namespace HandleFederation

open Text Resolution

/-! ### Transfers of identifiers -/

/-- An instance under the identifier of another server. -/
def InstanceRecord.transferred {Mode : Type} (transfer : String → String)
    (record : InstanceRecord Mode) : InstanceRecord Mode :=
  { record with id := transfer record.id }

/-- A user under the identifiers of another server. -/
def User.transferred (transfer : String → String) (user : User) : User :=
  { user with
    id := transfer user.id
    instanceId := transfer user.instanceId }

/-- A transfer that goes on to the next two identifiers of both sides. -/
def extendTransfer (transfer : String → String) (issued other : Nat) (id : String) : String :=
  if id = identifier issued then identifier other
  else if id = identifier (issued + 1) then identifier (other + 1)
  else transfer id

section

variable (transfer : String → String) {issued : Nat} (other : Nat)

theorem extendTransfer_first :
    extendTransfer transfer issued other (identifier issued) = identifier other :=
  if_pos rfl

theorem extendTransfer_second :
    extendTransfer transfer issued other (identifier (issued + 1)) = identifier (other + 1) := by
  have differs : identifier (issued + 1) ≠ identifier issued := fun same => by
    have := identifier_injective same
    omega
  rw [extendTransfer, if_neg differs, if_pos rfl]

/-- The identifiers that were issued before are transferred as before. -/
theorem extendTransfer_of_isIssued {id : String} (earlier : IsIssued issued id) :
    extendTransfer transfer issued other id = transfer id := by
  rw [extendTransfer, if_neg (earlier.ne_identifier (Nat.le_refl issued)),
    if_neg (earlier.ne_identifier (Nat.le_succ issued))]

end

/-! ### Users of one instance -/

/-- A search for what is there once finds the same in any order. -/
theorem find?_eq_of_perm {Row : Type} {test : Row → Bool} {rows others : List Row}
    (perm : rows.Perm others)
    (unique : ∀ row ∈ rows, ∀ other ∈ rows, test row = true → test other = true → row = other) :
    others.find? test = rows.find? test := by
  cases found : rows.find? test with
  | none =>
    have isNone := List.find?_eq_none.mp found
    exact List.find?_eq_none.mpr fun row member => isNone row (perm.mem_iff.mpr member)
  | some row =>
    have isRow := List.mem_of_find?_eq_some found
    have passes := List.find?_some found
    obtain ⟨other, foundOther⟩ : ∃ other, others.find? test = some other :=
      Option.isSome_iff_exists.mp
        (List.find?_isSome.mpr ⟨row, perm.mem_iff.mp isRow, passes⟩)
    have isOther := perm.mem_iff.mpr (List.mem_of_find?_eq_some foundOther)
    rw [foundOther, unique row isRow other isOther passes (List.find?_some foundOther)]

/-- Changing what is there once is changing all that passes the test. -/
theorem changeFirst_eq_map {Row : Type} {test : Row → Bool} {change : Row → Row} {rows : List Row}
    (unique : rows.Pairwise fun row other => test row = true → test other = false) :
    Tables.changeFirst test change rows = rows.map fun row => if test row then change row else row := by
  induction rows with
  | nil => rfl
  | cons row rest inductionHypothesis =>
    obtain ⟨alone, further⟩ := List.pairwise_cons.mp unique
    unfold Tables.changeFirst
    rw [List.map_cons]
    split
    · rename_i passes
      have others : rest.map (fun row => if test row then change row else row) = rest := by
        refine (List.map_congr_left fun other member => ?_).trans (List.map_id rest)
        rw [alone other member passes]
        rfl
      rw [others]
    · rw [inductionHypothesis further]

namespace Tables

/-- Whether a user has a username for the name of the row. -/
def hasName (username : String) (user : User) : Bool :=
  sameName user.username username

/-- Whether a user of an instance was known there under another username. -/
def wasRenamed (fields : StubFields) (user : User) : Bool :=
  user.remoteUserId == some fields.remoteId && !hasName fields.username user

/-- What writing a cached profile does to the users of its instance: the profile that results, and
the users. -/
def mergeStub (fields : StubFields) (now : Timestamp) (fresh : User) (users : List User) :
    User × List User :=
  let kept := users.filter fun user => !wasRenamed fields user
  match kept.find? (hasName fields.username) with
  | some user =>
    (refreshStub fields now user,
      kept.map fun user => if hasName fields.username user then refreshStub fields now user else user)
  | none => (fresh, kept ++ [fresh])

variable {issued : Nat} {tables changed : Tables}

theorem user?_eq_find?_usersOf (instanceId username : String) :
    tables.user? instanceId username = (tables.usersOf instanceId).find? (hasName username) := by
  unfold user? usersOf
  rw [List.find?_filter]
  refine congrArg (List.find? · tables.users) (funext fun user => ?_)
  rw [isUser, hasName, Bool.decide_and, Bool.decide_eq_true, Bool.decide_eq_true]

theorem usersOf_dropRenamed (instanceId : String) (fields : StubFields) :
    (dropRenamed instanceId fields tables).usersOf instanceId =
      (tables.usersOf instanceId).filter fun user => !wasRenamed fields user := by
  unfold usersOf dropRenamed
  rw [List.filter_filter, List.filter_filter]
  refine List.filter_congr fun user _ => ?_
  by_cases isThere : user.instanceId = instanceId
  · rw [isRenamed, wasRenamed, hasName, beq_iff_eq.mpr isThere, Bool.true_and, Bool.true_and,
      Bool.and_true]
  · rw [beq_eq_false_iff_ne.mpr isThere, Bool.false_and, Bool.and_false]

/-- The places of users of sound tables are free of others. -/
theorem IsSound.isUser_alone (sound : tables.IsSound issued) (instanceId username : String) :
    tables.users.Pairwise fun user other =>
      isUser instanceId username user = true → isUser instanceId username other = false := by
  refine (List.pairwise_map.mp sound.usersDistinct).imp fun differs isThere => ?_
  refine Bool.eq_false_iff.mpr fun isOther => differs ?_
  rw [(isUser_iff_place _ _ _).mp isThere, (isUser_iff_place _ _ _).mp isOther]

/-- Two users of an instance of sound tables with one username are the same. -/
theorem IsSound.hasName_unique (sound : tables.IsSound issued) (instanceId username : String) :
    ∀ user ∈ tables.usersOf instanceId, ∀ other ∈ tables.usersOf instanceId,
      hasName username user = true → hasName username other = true → user = other := by
  intro user isUser other isOther named alsoNamed
  obtain ⟨isThere, atInstance⟩ := List.mem_filter.mp isUser
  obtain ⟨isThereToo, atInstanceToo⟩ := List.mem_filter.mp isOther
  refine List.inj_on_of_nodup_map sound.usersDistinct isThere isThereToo ?_
  rw [User.place, User.place, (sameName_iff _ _).mp named, (sameName_iff _ _).mp alsoNamed,
    beq_iff_eq.mp atInstance, beq_iff_eq.mp atInstanceToo]

/-- Changing the user with a name at an instance, seen among the users there. -/
theorem IsSound.usersOf_changeFirst (sound : tables.IsSound issued) (instanceId username : String)
    {change : User → User} (sameInstance : ∀ user, (change user).instanceId = user.instanceId) :
    usersOf instanceId
        { tables with users := changeFirst (isUser instanceId username) change tables.users } =
      (tables.usersOf instanceId).map fun user =>
        if hasName username user then change user else user := by
  have stays : ∀ user : User,
      (if isUser instanceId username user then change user else user).instanceId = user.instanceId := by
    intro user
    split
    · exact sameInstance user
    · rfl
  unfold usersOf
  dsimp only
  rw [changeFirst_eq_map (sound.isUser_alone instanceId username), List.filter_map]
  have sameTest : ((fun user : User => user.instanceId == instanceId) ∘ fun user =>
      if isUser instanceId username user then change user else user) =
      fun user => user.instanceId == instanceId :=
    funext fun user => congrArg (· == instanceId) (stays user)
  rw [sameTest]
  refine List.map_congr_left fun user member => ?_
  have isThere := (List.mem_filter.mp member).2
  rw [isUser, isThere, Bool.true_and, hasName]

/-- Writing a cached profile at an instance that is there merges it among the users there. -/
theorem putStub_eq_mergeStub (sound : tables.IsSound issued) {instanceId : String}
    (isThere : tables.hasInstance instanceId = true) (fields : StubFields) (id : String)
    (now : Timestamp) :
    let merged := mergeStub fields now (newStub instanceId fields id now) (tables.usersOf instanceId)
    ∃ changed, tables.putStub instanceId fields id now = .ok (merged.1, changed) ∧
      changed.usersOf instanceId = merged.2 := by
  have kept : IsSound issued (dropRenamed instanceId fields tables) :=
    sound.dropUsers fun user => !isRenamed instanceId fields user
  unfold putStub mergeStub
  dsimp only
  rw [user?_eq_find?_usersOf, usersOf_dropRenamed]
  cases ((tables.usersOf instanceId).filter fun user => !wasRenamed fields user).find?
      (hasName fields.username) with
  | some user =>
    refine ⟨_, rfl, ?_⟩
    rw [← usersOf_dropRenamed]
    exact kept.usersOf_changeFirst instanceId fields.username fun _ => rfl
  | none =>
    refine ⟨_, if_pos isThere, ?_⟩
    rw [← usersOf_dropRenamed]
    unfold usersOf
    rw [List.filter_append]
    simp [newStub]

/-! ### Merging on both sides -/

section

variable (transfer : String → String) (fields : StubFields) (now : Timestamp)

theorem filter_wasRenamed_transferred (users : List User) :
    (users.map (User.transferred transfer)).filter (fun user => !wasRenamed fields user) =
      (users.filter fun user => !wasRenamed fields user).map (User.transferred transfer) :=
  List.filter_map ..

theorem find?_hasName_transferred (username : String) (users : List User) :
    (users.map (User.transferred transfer)).find? (hasName username) =
      (users.find? (hasName username)).map (User.transferred transfer) :=
  List.find?_map ..

/-- Merging a profile among the users of one side and of the other gives the same, up to the
identifiers and the order. -/
theorem mergeStub_transferred (fresh : User) {users others : List User}
    (alike : others.Perm (users.map (User.transferred transfer)))
    (unique : ∀ user ∈ others, ∀ other ∈ others, hasName fields.username user = true →
      hasName fields.username other = true → user = other) :
    (mergeStub fields now (fresh.transferred transfer) others).1 =
        (mergeStub fields now fresh users).1.transferred transfer ∧
      (mergeStub fields now (fresh.transferred transfer) others).2.Perm
        ((mergeStub fields now fresh users).2.map (User.transferred transfer)) := by
  have kept : (others.filter fun user => !wasRenamed fields user).Perm
      ((users.filter fun user => !wasRenamed fields user).map (User.transferred transfer)) := by
    rw [← filter_wasRenamed_transferred]
    exact alike.filter _
  have found := find?_eq_of_perm kept fun user isUser other isOther =>
    unique user (List.mem_filter.mp isUser).1 other (List.mem_filter.mp isOther).1
  rw [find?_hasName_transferred] at found
  unfold mergeStub
  dsimp only
  cases here : (users.filter fun user => !wasRenamed fields user).find? (hasName fields.username) with
  | some user =>
    rw [here] at found
    rw [← found]
    refine ⟨rfl, (kept.map _).trans (List.Perm.of_eq ?_)⟩
    rw [List.map_map, List.map_map]
    refine List.map_congr_left fun user _ => ?_
    have sameName : hasName fields.username (user.transferred transfer) = hasName fields.username user :=
      rfl
    simp only [Function.comp_apply, sameName]
    split <;> rfl
  | none =>
    rw [here] at found
    rw [← found]
    refine ⟨rfl, ?_⟩
    rw [List.map_append]
    exact kept.append_right _

end

/-! ### Tables that are alike about a domain -/

/-- Two tables that say the same about a domain, up to the identifiers and the order of users. -/
structure AlikeAbout (transfer : String → String) (domain : String) (tables other : Tables) : Prop where
  row : other.instanceAt? domain =
    (tables.instanceAt? domain).map (InstanceRecord.transferred transfer)
  users : ∀ row, tables.instanceAt? domain = some row →
    (other.usersOf (transfer row.id)).Perm
      ((tables.usersOf row.id).map (User.transferred transfer))

/-- A transfer of users counts only where identifiers were issued. -/
theorem IsSound.transferred_eq (sound : tables.IsSound issued) {transfer later : String → String}
    (same : ∀ id, IsIssued issued id → later id = transfer id) {user : User}
    (member : user ∈ tables.users) : user.transferred later = user.transferred transfer := by
  obtain ⟨row, isRow, sameId⟩ := List.mem_map.mp (sound.usersSettled user member)
  have isSettled : IsIssued issued user.instanceId := sameId ▸ sound.instancesIssued row isRow
  rw [User.transferred, same user.id (sound.usersIssued user member), same user.instanceId isSettled,
    User.transferred]

theorem mem_of_stub? {username domain : String} {user : User}
    (found : tables.stub? username domain = some user) : user ∈ tables.users := by
  unfold stub? at found
  split at found
  · split at found
    · cases found
    · exact List.mem_of_find?_eq_some found
  · cases found

namespace AlikeAbout

variable {transfer : String → String} {domain : String} {other : Tables} {issued issuedThere : Nat}

/-- A transfer counts only where identifiers were issued. -/
theorem congr (alike : tables.AlikeAbout transfer domain other) (sound : tables.IsSound issued)
    {later : String → String} (same : ∀ id, IsIssued issued id → later id = transfer id) :
    tables.AlikeAbout later domain other := by
  have sameRow : ∀ row ∈ tables.instances,
      InstanceRecord.transferred later row = InstanceRecord.transferred transfer row := by
    intro row member
    rw [InstanceRecord.transferred, same row.id (sound.instancesIssued row member),
      InstanceRecord.transferred]
  refine ⟨?_, fun row found => ?_⟩
  · rw [alike.row]
    cases found : tables.instanceAt? domain with
    | none => rfl
    | some row => exact congrArg some (sameRow row (mem_of_instanceAt? found).1).symm
  · have member := (mem_of_instanceAt? found).1
    have sameUsers : (tables.usersOf row.id).map (User.transferred later) =
        (tables.usersOf row.id).map (User.transferred transfer) :=
      List.map_congr_left fun user isUser =>
        sound.transferred_eq same (List.mem_filter.mp isUser).1
    rw [same row.id (sound.instancesIssued row member), sameUsers]
    exact alike.users row found

/-- A cached profile is found on both sides or on neither. -/
theorem stub?_eq (alike : tables.AlikeAbout transfer domain other)
    (soundThere : other.IsSound issuedThere) (username : String) :
    other.stub? username domain =
      (tables.stub? username domain).map (User.transferred transfer) := by
  unfold stub?
  rw [alike.row]
  cases found : tables.instanceAt? domain with
  | none => rfl
  | some row =>
    have search := find?_eq_of_perm (alike.users row found)
      (soundThere.hasName_unique (transfer row.id) username)
    rw [find?_hasName_transferred] at search
    simp only [Option.map_some, InstanceRecord.transferred, user?_eq_find?_usersOf, ← search]
    split <;> rfl

end AlikeAbout

/-! ### Writing on both sides -/

theorem find?_changeFirst {Row : Type} {test : Row → Bool} {change : Row → Row} {rows : List Row}
    {row : Row} (found : rows.find? test = some row) (stillPasses : test (change row) = true) :
    (changeFirst test change rows).find? test = some (change row) := by
  induction rows with
  | nil => cases found
  | cons head rest inductionHypothesis =>
    unfold changeFirst
    rw [List.find?_cons] at found
    cases passes : test head with
    | true =>
      rw [passes] at found
      cases found
      rw [if_pos rfl, List.find?_cons, stillPasses]
    | false =>
      rw [passes] at found
      rw [if_neg Bool.false_ne_true, List.find?_cons, passes]
      exact inductionHypothesis found

/-- The instance that was written is the one of its domain. -/
theorem instanceAt?_putRemote {settings : RemoteSettings} {id : String} {now : Timestamp}
    {row : InstanceRow} (written : tables.putRemote settings id now = .ok (row, changed)) :
    changed.instanceAt? settings.domain = some row := by
  unfold putRemote at written
  split at written
  · rename_i old found
    split at written
    · cases written
    · cases written
      unfold instanceAt? at found ⊢
      have isNamed := List.find?_some found
      exact find?_changeFirst found isNamed
  · rename_i notFound
    cases written
    have isThere : sameName (newRemote settings id now).domain settings.domain = true :=
      (sameName_iff _ _).mpr (nameKey_lower settings.domain)
    unfold instanceAt? at notFound ⊢
    rw [List.find?_append, notFound, List.find?_singleton, if_pos isThere]
    rfl

theorem hasInstance_of_mem {id : String} (member : id ∈ tables.instances.map InstanceRecord.id) :
    tables.hasInstance id = true := by
  obtain ⟨row, isRow, sameId⟩ := List.mem_map.mp member
  exact List.find?_isSome.mpr ⟨row, isRow, beq_iff_eq.mpr sameId⟩

/-- No users belong to an instance that is yet to be added. -/
theorem IsSound.usersOf_identifier (sound : tables.IsSound issued) :
    tables.usersOf (identifier issued) = [] := by
  refine List.filter_eq_nil_iff.mpr fun user member atInstance => ?_
  obtain ⟨row, isRow, sameId⟩ := List.mem_map.mp (sound.usersSettled user member)
  refine (sound.instancesIssued row isRow).ne_identifier (Nat.le_refl issued) ?_
  rw [sameId, beq_iff_eq.mp atInstance]

section

variable {transfer : String → String} {settings : RemoteSettings} {other : Tables}
  {issuedThere : Nat}

theorem putRemote_of_isLocal {row : InstanceRow} (found : tables.instanceAt? settings.domain = some row)
    (isLocal : row.isLocal = true) (id : String) (now : Timestamp) :
    tables.putRemote settings id now = .error (.internal
      s!"Refusing to overwrite local instance record for {lower settings.domain}") := by
  rw [putRemote, found]
  exact if_pos isLocal

theorem putRemote_of_found {row : InstanceRow} (found : tables.instanceAt? settings.domain = some row)
    (isForeign : row.isLocal = false) (id : String) (now : Timestamp) :
    tables.putRemote settings id now =
      .ok (refreshRemote settings now row, { tables with
        instances := changeFirst (fun row => sameName row.domain settings.domain)
          (refreshRemote settings now) tables.instances }) := by
  rw [putRemote, found]
  exact if_neg (Bool.eq_false_iff.mp isForeign)

theorem putRemote_of_none (notFound : tables.instanceAt? settings.domain = none) (id : String)
    (now : Timestamp) :
    tables.putRemote settings id now =
      .ok (newRemote settings id now, { tables with
        instances := tables.instances ++ [newRemote settings id now] }) := by
  rw [putRemote, notFound]

/-- Writing the instance on both sides. -/
theorem AlikeAbout.putRemote (alike : tables.AlikeAbout transfer settings.domain other)
    (sound : tables.IsSound issued) (soundThere : other.IsSound issuedThere) (now : Timestamp) :
    (∃ failure, tables.putRemote settings (identifier issued) now = .error failure ∧
      other.putRemote settings (identifier issuedThere) now = .error failure) ∨
    ∃ row changed otherChanged,
      tables.putRemote settings (identifier issued) now = .ok (row, changed) ∧
      other.putRemote settings (identifier issuedThere) now =
        .ok (row.transferred (extendTransfer transfer issued issuedThere), otherChanged) ∧
      changed.AlikeAbout (extendTransfer transfer issued issuedThere) settings.domain
        otherChanged := by
  have extended : tables.AlikeAbout (extendTransfer transfer issued issuedThere) settings.domain other :=
    alike.congr sound fun id earlier => extendTransfer_of_isIssued transfer issuedThere earlier
  have foundThere := extended.row
  cases found : tables.instanceAt? settings.domain with
  | some row =>
    rw [found, Option.map_some] at foundThere
    cases isLocal : row.isLocal with
    | true =>
      exact Or.inl ⟨_, putRemote_of_isLocal found isLocal _ now,
        putRemote_of_isLocal foundThere isLocal _ now⟩
    | false =>
      have written := putRemote_of_found found isLocal (identifier issued) now
      have writtenThere := putRemote_of_found foundThere isLocal (identifier issuedThere) now
      refine Or.inr ⟨_, _, _, written, writtenThere, ?_, ?_⟩
      · rw [instanceAt?_putRemote written, instanceAt?_putRemote writtenThere]
        rfl
      · intro changedRow foundRow
        rw [instanceAt?_putRemote written] at foundRow
        cases foundRow
        exact extended.users row found
  | none =>
    rw [found, Option.map_none] at foundThere
    have written := putRemote_of_none found (identifier issued) now
    have writtenThere := putRemote_of_none foundThere (identifier issuedThere) now
    have sameNew : newRemote settings (identifier issuedThere) now =
        (newRemote settings (identifier issued) now).transferred
          (extendTransfer transfer issued issuedThere) := by
      rw [newRemote, newRemote, InstanceRecord.transferred, extendTransfer_first]
    refine Or.inr ⟨_, _, _, written, sameNew ▸ writtenThere, ?_, ?_⟩
    · rw [instanceAt?_putRemote written, ← sameNew, instanceAt?_putRemote writtenThere, sameNew]
      rfl
    · intro changedRow foundRow
      rw [instanceAt?_putRemote written] at foundRow
      cases foundRow
      have nobody := sound.usersOf_identifier
      have nobodyThere := soundThere.usersOf_identifier
      unfold usersOf at nobody nobodyThere ⊢
      rw [newRemote, extendTransfer_first]
      dsimp only
      rw [nobody, nobodyThere]
      exact List.Perm.nil

/-- Writing the instance and one of its users on both sides fails alike, or gives the same user and
leaves the tables alike. -/
theorem AlikeAbout.putRemoteUser (alike : tables.AlikeAbout transfer settings.domain other)
    (sound : tables.IsSound issued) (soundThere : other.IsSound issuedThere) (fields : StubFields)
    (now : Timestamp) :
    (∃ failure,
      tables.putRemoteUser settings fields (identifier issued) (identifier (issued + 1)) now =
        .error failure ∧
      other.putRemoteUser settings fields (identifier issuedThere) (identifier (issuedThere + 1)) now =
        .error failure) ∨
    ∃ user changed otherChanged,
      tables.putRemoteUser settings fields (identifier issued) (identifier (issued + 1)) now =
        .ok (user, changed) ∧
      other.putRemoteUser settings fields (identifier issuedThere) (identifier (issuedThere + 1)) now =
        .ok (user.transferred (extendTransfer transfer issued issuedThere), otherChanged) ∧
      changed.AlikeAbout (extendTransfer transfer issued issuedThere) settings.domain
        otherChanged := by
  unfold Tables.putRemoteUser
  rcases alike.putRemote sound soundThere now with
    ⟨failure, failed, failedThere⟩ | ⟨row, between, otherBetween, written, writtenThere, extended⟩
  · rw [failed, failedThere]
    exact Or.inl ⟨failure, rfl, rfl⟩
  · rw [written, writtenThere]
    dsimp only
    obtain ⟨soundBetween, isThere⟩ := sound.putRemote written
    obtain ⟨otherSoundBetween, isThereToo⟩ := soundThere.putRemote writtenThere
    have found := instanceAt?_putRemote written
    have foundThere := instanceAt?_putRemote writtenThere
    obtain ⟨changed, stub, users⟩ := putStub_eq_mergeStub soundBetween
      (hasInstance_of_mem isThere) fields (identifier (issued + 1)) now
    obtain ⟨otherChanged, otherStub, otherUsers⟩ := putStub_eq_mergeStub otherSoundBetween
      (hasInstance_of_mem isThereToo) fields (identifier (issuedThere + 1)) now
    have sameNew : newStub (extendTransfer transfer issued issuedThere row.id) fields
        (identifier (issuedThere + 1)) now =
        (newStub row.id fields (identifier (issued + 1)) now).transferred
          (extendTransfer transfer issued issuedThere) := by
      rw [newStub, newStub, User.transferred, extendTransfer_second]
    obtain ⟨sameUser, sameUsers⟩ := mergeStub_transferred _ fields now
      (newStub row.id fields (identifier (issued + 1)) now) (extended.users row found)
      (otherSoundBetween.hasName_unique _ fields.username)
    simp only [InstanceRecord.transferred, sameNew] at otherStub otherUsers
    rw [sameUser] at otherStub
    refine Or.inr ⟨_, changed, otherChanged, stub, otherStub, ?_, fun changedRow foundRow => ?_⟩
    · rw [instanceAt?, instanceAt?, instances_putStub stub, instances_putStub otherStub]
      exact extended.row
    · rw [instanceAt?, instances_putStub stub] at foundRow
      cases found.symm.trans foundRow
      rw [users, otherUsers]
      exact sameUsers

end

end Tables

end HandleFederation
