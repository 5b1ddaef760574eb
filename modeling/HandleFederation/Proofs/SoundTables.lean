/-
This file says what the tables of a server have in common, whatever was written into
them so far. Every identifier in them was issued before; no two instances share one;
every user belongs to an instance that is there, and no two users of an instance
have the same name for a row. The tables of a new database are sound, and each of the
writes keeps them so, provided that the identifiers it is given are new. A write
changes one row without its place, or adds a row, or drops some, so that it is
enough to look at these three.
-/

import HandleFederation.Tables.Change

namespace HandleFederation

open Text Unicode

/-! ### Identifiers -/

theorem hexDigitValue_digitChar {digit : Nat} (isDigit : digit < 16) :
    hexDigitValue digit.digitChar = digit := by
  revert digit
  decide

theorem readHex_append_singleton (digits : List Char) (digit : Char) :
    readHex (digits ++ [digit]) = readHex digits * 16 + hexDigitValue digit := by
  simp [readHex]

theorem readHex_zeros_append (count : Nat) (digits : List Char) :
    readHex (List.replicate count '0' ++ digits) = readHex digits := by
  induction count with
  | zero => rfl
  | succ count inductionHypothesis =>
    rw [List.replicate_succ, List.cons_append]
    exact inductionHypothesis

/-- The digits of a number are read as that number. -/
theorem readHex_hexDigits (number : Nat) : readHex (hexDigits number) = number := by
  unfold hexDigits
  induction number using Nat.base_induction 16 (by decide) with
  | single digit isDigit =>
    rw [Nat.toDigits_of_lt_base isDigit]
    simp [readHex, hexDigitValue_digitChar isDigit]
  | digit rest digit isDigit positive inductionHypothesis =>
    rw [← Nat.toDigits_append_toDigits (by decide) positive isDigit,
      Nat.toDigits_of_lt_base isDigit, readHex_append_singleton, inductionHypothesis,
      hexDigitValue_digitChar isDigit, Nat.mul_comm]

/-- No two identifiers are the same. -/
theorem identifier_injective {first second : Nat} (same : identifier first = identifier second) :
    first = second := by
  unfold identifier at same
  rw [← String.toList_inj, String.toList_append, String.toList_append,
    List.append_cancel_left_eq, String.toList_ofList, String.toList_ofList] at same
  rw [← readHex_hexDigits first, ← readHex_zeros_append _ (hexDigits first), same,
    readHex_zeros_append, readHex_hexDigits]

/-- A text is one of the identifiers issued so far. -/
def IsIssued (issued : Nat) (id : String) : Prop :=
  ∃ number < issued, id = identifier number

theorem IsIssued.mono {issued later : Nat} {id : String} (earlier : IsIssued issued id)
    (le : issued ≤ later) : IsIssued later id := by
  obtain ⟨number, isEarlier, rfl⟩ := earlier
  exact ⟨number, by omega, rfl⟩

/-- An identifier that is yet to be issued differs from those that were. -/
theorem IsIssued.ne_identifier {issued number : Nat} {id : String} (earlier : IsIssued issued id)
    (le : issued ≤ number) : id ≠ identifier number := by
  obtain ⟨other, isEarlier, rfl⟩ := earlier
  intro same
  have := identifier_injective same
  omega

/-! ### Rows that are changed -/

section

variable {Row Key : Type} {test : Row → Bool} {change : Row → Row}

/-- A change that leaves a property of rows alone leaves that column alone. -/
theorem map_changeFirst (key : Row → Key) (keeps : ∀ row, key (change row) = key row)
    (rows : List Row) : (Tables.changeFirst test change rows).map key = rows.map key := by
  induction rows with
  | nil => rfl
  | cons row rest inductionHypothesis =>
    unfold Tables.changeFirst
    split
    · rw [List.map_cons, List.map_cons, keeps]
    · rw [List.map_cons, List.map_cons, inductionHypothesis]

/-- A row of a changed table is one of those before, or what became of one. -/
theorem mem_changeFirst {rows : List Row} {row : Row}
    (member : row ∈ Tables.changeFirst test change rows) :
    row ∈ rows ∨ ∃ old ∈ rows, row = change old := by
  induction rows with
  | nil => exact Or.inl member
  | cons head rest inductionHypothesis =>
    unfold Tables.changeFirst at member
    split at member
    · rcases List.mem_cons.mp member with rfl | isRest
      · exact Or.inr ⟨head, List.mem_cons_self, rfl⟩
      · exact Or.inl (List.mem_cons_of_mem _ isRest)
    · rcases List.mem_cons.mp member with rfl | isRest
      · exact Or.inl List.mem_cons_self
      · rcases inductionHypothesis isRest with before | ⟨old, before, rfl⟩
        · exact Or.inl (List.mem_cons_of_mem _ before)
        · exact Or.inr ⟨old, List.mem_cons_of_mem _ before, rfl⟩

/-- What holds of all rows, and of a row when it held of the one that was changed, holds of all rows
of the changed table. -/
theorem forall_mem_changeFirst {Holds : Row → Prop} (keeps : ∀ row, Holds row → Holds (change row))
    {rows : List Row} (before : ∀ row ∈ rows, Holds row) :
    ∀ row ∈ Tables.changeFirst test change rows, Holds row := by
  intro row member
  rcases mem_changeFirst member with isBefore | ⟨old, isBefore, rfl⟩
  · exact before row isBefore
  · exact keeps old (before old isBefore)

end

/-! ### Sound tables -/

/-- Where a user stands among all users: the instance, and what the username is compared by. -/
def User.place (user : User) : String × String × Nat :=
  (user.instanceId, nameKey user.username)

theorem isUser_iff_place (instanceId username : String) (user : User) :
    Tables.isUser instanceId username user = true ↔ user.place = (instanceId, nameKey username) := by
  simp [Tables.isUser, User.place, sameName_iff]

/-- What holds of the tables of a server after so many identifiers were issued. -/
structure Tables.IsSound (issued : Nat) (tables : Tables) : Prop where
  instancesIssued : ∀ row ∈ tables.instances, IsIssued issued row.id
  instancesDistinct : (tables.instances.map InstanceRecord.id).Nodup
  domainsLower : ∀ row ∈ tables.instances, lower row.domain = row.domain
  usersIssued : ∀ user ∈ tables.users, IsIssued issued user.id
  usersSettled : ∀ user ∈ tables.users, user.instanceId ∈ tables.instances.map InstanceRecord.id
  usersDistinct : (tables.users.map User.place).Nodup

namespace Tables

/-- The tables of a new database are sound. -/
theorem isSound_empty (issued : Nat) : empty.IsSound issued := by
  constructor <;> simp [empty]

namespace IsSound

variable {issued : Nat} {tables : Tables}

theorem mono {later : Nat} (sound : tables.IsSound issued) (le : issued ≤ later) :
    tables.IsSound later :=
  { sound with
    instancesIssued := fun row member => (sound.instancesIssued row member).mono le
    usersIssued := fun user member => (sound.usersIssued user member).mono le }

/-- The peers have no part in it. -/
theorem withPeers (sound : tables.IsSound issued) (peers : List Peer) :
    IsSound issued { tables with peers := peers } :=
  { sound with }

/-! ### One write at a time -/

/-- An instance may change in all but its identifier and its domain. -/
theorem changeInstance (sound : tables.IsSound issued) (test : InstanceRow → Bool)
    (change : InstanceRow → InstanceRow) (sameId : ∀ row, (change row).id = row.id)
    (sameDomain : ∀ row, (change row).domain = row.domain) :
    IsSound issued { tables with instances := changeFirst test change tables.instances } where
  instancesIssued := forall_mem_changeFirst
    (fun row isIssued => (sameId row).symm ▸ isIssued) sound.instancesIssued
  instancesDistinct := by
    rw [map_changeFirst _ sameId]
    exact sound.instancesDistinct
  domainsLower := forall_mem_changeFirst
    (fun row isLower => (sameDomain row).symm ▸ isLower) sound.domainsLower
  usersIssued := sound.usersIssued
  usersSettled := by
    rw [map_changeFirst _ sameId]
    exact sound.usersSettled
  usersDistinct := sound.usersDistinct

/-- An instance may be added under a new identifier. -/
theorem addInstance (sound : tables.IsSound issued) {row : InstanceRow}
    (isNew : row.id = identifier issued) (isLower : lower row.domain = row.domain) :
    IsSound (issued + 1) { tables with instances := tables.instances ++ [row] } where
  instancesIssued := by
    intro other member
    rcases List.mem_append.mp member with before | added
    · exact (sound.instancesIssued other before).mono (Nat.le_succ issued)
    · rw [List.mem_singleton.mp added]
      exact ⟨issued, Nat.lt_succ_self issued, isNew⟩
  instancesDistinct := by
    rw [List.map_append, List.nodup_append]
    refine ⟨sound.instancesDistinct, by simp, ?_⟩
    intro id before other added
    obtain ⟨old, isBefore, rfl⟩ := List.mem_map.mp before
    rw [List.mem_singleton.mp added, isNew]
    exact (sound.instancesIssued old isBefore).ne_identifier (Nat.le_refl issued)
  domainsLower := by
    intro other member
    rcases List.mem_append.mp member with before | added
    · exact sound.domainsLower other before
    · rw [List.mem_singleton.mp added]
      exact isLower
  usersIssued := fun user member => (sound.usersIssued user member).mono (Nat.le_succ issued)
  usersSettled := by
    intro user member
    rw [List.map_append]
    exact List.mem_append_left _ (sound.usersSettled user member)
  usersDistinct := sound.usersDistinct

/-- A user may change in all but the identifier and the place. -/
theorem changeUser (sound : tables.IsSound issued) (test : User → Bool) (change : User → User)
    (sameId : ∀ user, (change user).id = user.id)
    (samePlace : ∀ user, (change user).place = user.place) :
    IsSound issued { tables with users := changeFirst test change tables.users } where
  instancesIssued := sound.instancesIssued
  instancesDistinct := sound.instancesDistinct
  domainsLower := sound.domainsLower
  usersIssued := forall_mem_changeFirst
    (fun user isIssued => (sameId user).symm ▸ isIssued) sound.usersIssued
  usersSettled := by
    refine forall_mem_changeFirst (fun user settled => ?_) sound.usersSettled
    have sameInstance : (change user).instanceId = user.instanceId :=
      congrArg Prod.fst (samePlace user)
    rwa [sameInstance]
  usersDistinct := by
    rw [map_changeFirst _ samePlace]
    exact sound.usersDistinct

/-- A user may be added under a new identifier at a place of an instance that is free. -/
theorem addUser (sound : tables.IsSound issued) {user : User} (isNew : user.id = identifier issued)
    (settled : user.instanceId ∈ tables.instances.map InstanceRecord.id)
    (isFree : user.place ∉ tables.users.map User.place) :
    IsSound (issued + 1) { tables with users := tables.users ++ [user] } where
  instancesIssued := fun row member => (sound.instancesIssued row member).mono (Nat.le_succ issued)
  instancesDistinct := sound.instancesDistinct
  domainsLower := sound.domainsLower
  usersIssued := by
    intro other member
    rcases List.mem_append.mp member with before | added
    · exact (sound.usersIssued other before).mono (Nat.le_succ issued)
    · rw [List.mem_singleton.mp added]
      exact ⟨issued, Nat.lt_succ_self issued, isNew⟩
  usersSettled := by
    intro other member
    rcases List.mem_append.mp member with before | added
    · exact sound.usersSettled other before
    · rw [List.mem_singleton.mp added]
      exact settled
  usersDistinct := by
    rw [List.map_append, List.nodup_append]
    refine ⟨sound.usersDistinct, by simp, ?_⟩
    intro place before other added same
    rw [List.map_singleton, List.mem_singleton] at added
    rw [same, added] at before
    exact isFree before

/-- Users may be dropped. -/
theorem dropUsers (sound : tables.IsSound issued) (keep : User → Bool) :
    IsSound issued { tables with users := tables.users.filter keep } where
  instancesIssued := sound.instancesIssued
  instancesDistinct := sound.instancesDistinct
  domainsLower := sound.domainsLower
  usersIssued := fun user member => sound.usersIssued user (List.mem_filter.mp member).1
  usersSettled := fun user member => sound.usersSettled user (List.mem_filter.mp member).1
  usersDistinct := sound.usersDistinct.sublist (List.filter_sublist.map User.place)

end IsSound

/-! ### What is found -/

variable {issued : Nat} {tables : Tables}

theorem mem_of_hasInstance {id : String} (isThere : tables.hasInstance id = true) :
    id ∈ tables.instances.map InstanceRecord.id := by
  obtain ⟨row, found⟩ := Option.isSome_iff_exists.mp isThere
  unfold instanceWithId? at found
  have sameId := List.find?_some found
  exact List.mem_map.mpr ⟨row, List.mem_of_find?_eq_some found, beq_iff_eq.mp sameId⟩

/-- The instance that is found for a domain has that domain for its name. -/
theorem mem_of_instanceAt? {domain : String} {row : InstanceRow}
    (found : tables.instanceAt? domain = some row) :
    row ∈ tables.instances ∧ nameKey row.domain = nameKey domain := by
  unfold instanceAt? at found
  have isNamed := List.find?_some found
  exact ⟨List.mem_of_find?_eq_some found, (sameName_iff row.domain domain).mp isNamed⟩

/-- A place at which no user is found is free. -/
theorem place_notMem_of_user?_eq_none {instanceId username : String}
    (notFound : tables.user? instanceId username = none) :
    (instanceId, nameKey username) ∉ tables.users.map User.place := by
  intro member
  obtain ⟨user, isUser, samePlace⟩ := List.mem_map.mp member
  have isOther := List.find?_eq_none.mp notFound user isUser
  exact isOther ((isUser_iff_place instanceId username user).mpr samePlace)

namespace IsSound

/-! ### The writes of the server -/

theorem putLocal (sound : tables.IsSound issued) (settings : LocalSettings) (now : Timestamp) :
    (tables.putLocal settings (identifier issued) now).2.IsSound (issued + 1) := by
  unfold Tables.putLocal
  split
  · exact (sound.changeInstance _ (refreshLocal settings now) (fun _ => rfl) (fun _ => rfl)).mono
      (Nat.le_succ issued)
  · exact sound.addInstance rfl (lower_lower settings.domain)

/-- The row of another instance that was written is there. -/
theorem putRemote (sound : tables.IsSound issued) {settings : RemoteSettings} {now : Timestamp}
    {row : InstanceRow} {changed : Tables}
    (written : tables.putRemote settings (identifier issued) now = .ok (row, changed)) :
    changed.IsSound (issued + 1) ∧ row.id ∈ changed.instances.map InstanceRecord.id := by
  unfold Tables.putRemote at written
  split at written
  · rename_i old found
    split at written
    · cases written
    · cases written
      refine ⟨(sound.changeInstance _ (refreshRemote settings now) (fun _ => rfl) (fun _ => rfl)).mono
        (Nat.le_succ issued), ?_⟩
      have sameId : ∀ row, (refreshRemote settings now row).id = row.id := fun _ => rfl
      rw [map_changeFirst _ sameId]
      exact List.mem_map.mpr ⟨old, List.mem_of_find?_eq_some found, rfl⟩
  · cases written
    exact ⟨sound.addInstance rfl (lower_lower settings.domain), by simp⟩

theorem putMode (sound : tables.IsSound issued) (instanceId word : String) :
    (tables.putMode instanceId word).2.IsSound issued :=
  sound.changeInstance _ (fun row => { row with mode := word }) (fun _ => rfl) (fun _ => rfl)

theorem putPeer (sound : tables.IsSound issued) {instanceId domain : String} {status : PeerStatus}
    {now : Timestamp} {peer : Peer} {changed : Tables}
    (written : tables.putPeer instanceId domain status now = .ok (peer, changed)) :
    changed.IsSound issued := by
  unfold Tables.putPeer at written
  split at written
  · cases written
    exact sound.withPeers _
  · split at written
    · cases written
      exact sound.withPeers _
    · cases written

theorem register (sound : tables.IsSound issued) {instanceId username : String}
    {displayName : Option String} {now : Timestamp} {user : User} {changed : Tables}
    (written : tables.register instanceId username displayName (identifier issued) now =
      .ok (user, changed)) :
    changed.IsSound (issued + 1) := by
  unfold Tables.register at written
  split at written
  · cases written
  · rename_i notFound
    split at written
    · rename_i isThere
      cases written
      exact sound.addUser rfl (mem_of_hasInstance isThere) (place_notMem_of_user?_eq_none notFound)
    · cases written

theorem putStub (sound : tables.IsSound issued) {instanceId : String} {fields : StubFields}
    {now : Timestamp} {user : User} {changed : Tables}
    (written : tables.putStub instanceId fields (identifier issued) now = .ok (user, changed)) :
    changed.IsSound (issued + 1) := by
  have kept := sound.dropUsers fun user => !isRenamed instanceId fields user
  unfold Tables.putStub at written
  dsimp only at written
  split at written
  · cases written
    exact (kept.changeUser _ (refreshStub fields now) (fun _ => rfl) (fun _ => rfl)).mono
      (Nat.le_succ issued)
  · rename_i notFound
    split at written
    · rename_i isThere
      cases written
      exact kept.addUser rfl (mem_of_hasInstance isThere) (place_notMem_of_user?_eq_none notFound)
    · cases written

theorem putRemoteUser (sound : tables.IsSound issued) {settings : RemoteSettings}
    {fields : StubFields} {now : Timestamp} {user : User} {changed : Tables}
    (written : tables.putRemoteUser settings fields (identifier issued) (identifier (issued + 1)) now =
      .ok (user, changed)) :
    changed.IsSound (issued + 2) := by
  unfold Tables.putRemoteUser at written
  split at written
  · cases written
  · rename_i row between first
    exact (sound.putRemote first).1.putStub written

end IsSound

/-! ### Where instances stand -/

/-- The identifiers of the instances with their domains, which no write changes. -/
def addresses (tables : Tables) : List (String × String) :=
  tables.instances.map fun row => (row.id, row.domain)

theorem mem_addresses {row : InstanceRow} (member : row ∈ tables.instances) :
    (row.id, row.domain) ∈ tables.addresses :=
  List.mem_map_of_mem member

theorem prefix_of_eq {Entry : Type} {before after : List Entry} (same : after = before) :
    before <+: after :=
  same ▸ List.prefix_rfl

theorem addresses_changeInstance (test : InstanceRow → Bool) (change : InstanceRow → InstanceRow)
    (sameId : ∀ row, (change row).id = row.id) (sameDomain : ∀ row, (change row).domain = row.domain) :
    addresses { tables with instances := changeFirst test change tables.instances } =
      tables.addresses :=
  map_changeFirst _ (fun row => by rw [sameId, sameDomain]) tables.instances

theorem addresses_addInstance (row : InstanceRow) :
    addresses { tables with instances := tables.instances ++ [row] } =
      tables.addresses ++ [(row.id, row.domain)] := by
  simp [addresses]

/-- The row of this instance that was written is there, and has its domain for its name. -/
theorem address_putLocal (tables : Tables) (settings : LocalSettings) (id : String) (now : Timestamp) :
    ((tables.putLocal settings id now).1.id, (tables.putLocal settings id now).1.domain) ∈
        (tables.putLocal settings id now).2.addresses ∧
      nameKey (tables.putLocal settings id now).1.domain = nameKey settings.domain := by
  unfold Tables.putLocal
  split
  · rename_i row found
    obtain ⟨member, sameDomain⟩ := mem_of_instanceAt? found
    have isAddress := mem_addresses member
    refine ⟨?_, sameDomain⟩
    dsimp only
    rw [addresses_changeInstance _ (refreshLocal settings now) (fun _ => rfl) (fun _ => rfl)]
    exact isAddress
  · rw [addresses_addInstance]
    exact ⟨List.mem_append_right _ (List.mem_singleton_self _), nameKey_lower settings.domain⟩

theorem addresses_putLocal (settings : LocalSettings) (id : String) (now : Timestamp) :
    tables.addresses <+: (tables.putLocal settings id now).2.addresses := by
  unfold Tables.putLocal
  split
  · dsimp only
    exact prefix_of_eq
      (addresses_changeInstance _ (refreshLocal settings now) (fun _ => rfl) (fun _ => rfl))
  · rw [addresses_addInstance]
    exact List.prefix_append _ _

theorem addresses_putRemote {settings : RemoteSettings} {id : String} {now : Timestamp}
    {row : InstanceRow} {changed : Tables}
    (written : tables.putRemote settings id now = .ok (row, changed)) :
    tables.addresses <+: changed.addresses := by
  unfold Tables.putRemote at written
  split at written
  · split at written
    · cases written
    · cases written
      exact prefix_of_eq
        (addresses_changeInstance _ (refreshRemote settings now) (fun _ => rfl) (fun _ => rfl))
  · cases written
    rw [addresses_addInstance]
    exact List.prefix_append _ _

theorem addresses_putMode (instanceId word : String) :
    (tables.putMode instanceId word).2.addresses = tables.addresses :=
  addresses_changeInstance _ (fun row => { row with mode := word }) (fun _ => rfl) (fun _ => rfl)

/-- Users and peers are written without a change of the instances. -/
theorem instances_putPeer {instanceId domain : String} {status : PeerStatus} {now : Timestamp}
    {peer : Peer} {changed : Tables}
    (written : tables.putPeer instanceId domain status now = .ok (peer, changed)) :
    changed.instances = tables.instances := by
  unfold Tables.putPeer at written
  split at written
  · cases written
    rfl
  · split at written <;> cases written
    rfl

theorem instances_register {instanceId username : String} {displayName : Option String}
    {id : String} {now : Timestamp} {user : User} {changed : Tables}
    (written : tables.register instanceId username displayName id now = .ok (user, changed)) :
    changed.instances = tables.instances := by
  unfold Tables.register at written
  split at written
  · cases written
  · split at written <;> cases written
    rfl

theorem instances_putStub {instanceId : String} {fields : StubFields} {id : String}
    {now : Timestamp} {user : User} {changed : Tables}
    (written : tables.putStub instanceId fields id now = .ok (user, changed)) :
    changed.instances = tables.instances := by
  unfold Tables.putStub at written
  dsimp only at written
  split at written
  · cases written
    rfl
  · split at written <;> cases written
    rfl

theorem addresses_putRemoteUser {settings : RemoteSettings} {fields : StubFields}
    {instanceId userId : String} {now : Timestamp} {user : User} {changed : Tables}
    (written : tables.putRemoteUser settings fields instanceId userId now = .ok (user, changed)) :
    tables.addresses <+: changed.addresses := by
  unfold Tables.putRemoteUser at written
  split at written
  · cases written
  · rename_i row between first
    have kept := addresses_putRemote first
    unfold addresses at kept ⊢
    rwa [instances_putStub written]

end Tables

end HandleFederation
