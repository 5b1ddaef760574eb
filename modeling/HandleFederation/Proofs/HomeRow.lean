/-
This file says what holds of the tables of a server that has always been started under
one domain. One instance is its own: the first start settled who that is, and every
later one renewed the rest. The users of that instance are its accounts, which no other
instance has an identifier for, and all other users are known under the identifier
that their instance gave them. Nothing that the server does under that domain changes
this, because the row of another instance is found by a domain that no other row has,
and a profile is only written at an instance that is not its own.
-/

import HandleFederation.Proofs.TableWrites

namespace HandleFederation

open Text

/-! ### The row of this instance -/

/-- What a start writes about this instance, and when. -/
structure Startup where
  settings : LocalSettings
  time : Timestamp

/-- The row of this instance: who it is as the first start left it, and the rest, but for the mode, as
the latest start wrote it. -/
structure InstanceRow.IsHome (home : Instance) (latest : Startup) (row : InstanceRow) : Prop where
  isLocal : row.isLocal = true
  id : row.id = home.id
  domain : row.domain = home.domain
  createdAt : row.createdAt = home.createdAt
  remoteInstanceId : row.remoteInstanceId = none
  publicKey : row.publicKey = latest.settings.publicKey
  name : row.name = latest.settings.name
  software : row.software = latest.settings.software
  lastSeenAt : row.lastSeenAt = latest.time

namespace Tables

/-- Tables in which this instance has the only row of its own, and in which the users of that instance
are those without an identifier of another one. -/
structure HasHome (home : Instance) (latest : Startup) (tables : Tables) : Prop where
  isThere : ∃ row ∈ tables.instances, row.IsHome home latest
  isAlone : ∀ row ∈ tables.instances, row.isLocal = true → row.id = home.id
  accounts : ∀ user ∈ tables.users, user.remoteUserId = none ↔ user.instanceId = home.id

namespace HasHome

variable {issued : Nat} {tables changed : Tables} {home : Instance} {latest : Startup}

/-- An instance that is not this one has another identifier. -/
theorem ne_of_isLocal_eq_false (hasHome : tables.HasHome home latest) (sound : tables.IsSound issued)
    {row : InstanceRow} (isRow : row ∈ tables.instances) (isForeign : row.isLocal = false) :
    row.id ≠ home.id := by
  intro sameId
  obtain ⟨other, isOther, isHome⟩ := hasHome.isThere
  have same : row = other :=
    List.inj_on_of_nodup_map sound.instancesDistinct isRow isOther (sameId.trans isHome.id.symm)
  rw [same, isHome.isLocal] at isForeign
  cases isForeign

/-! ### One write at a time -/

/-- The next start under the domain of this instance renews its row. -/
theorem putLocal (hasHome : tables.HasHome home latest) (distinct : tables.HasDistinctDomains)
    {settings : LocalSettings}
    (sameDomain : lower settings.domain = home.domain) (id : String) (now : Timestamp) :
    (tables.putLocal settings id now).2.HasHome home ⟨settings, now⟩ ∧
      (tables.putLocal settings id now).1.IsHome home ⟨settings, now⟩ := by
  obtain ⟨row, isRow, isHome⟩ := hasHome.isThere
  have named : nameKey row.domain = nameKey settings.domain := by
    rw [isHome.domain, ← sameDomain, nameKey_lower]
  have found : tables.instanceAt? settings.domain = some row :=
    distinct.instanceAt?_eq_some_iff.mpr ⟨isRow, named⟩
  have renewed : (refreshLocal settings now row).IsHome home ⟨settings, now⟩ :=
    ⟨rfl, isHome.id, isHome.domain, isHome.createdAt, isHome.remoteInstanceId, rfl, rfl, rfl, rfl⟩
  rw [Tables.putLocal, found]
  dsimp only
  refine ⟨⟨⟨_, ?_, renewed⟩, ?_, hasHome.accounts⟩, renewed⟩
  · rw [distinct.changeFirst_eq settings.domain]
    refine List.mem_map.mpr ⟨row, isRow, if_pos ?_⟩
    exact (sameName_iff _ _).mpr named
  · intro other member isLocal
    rcases mem_or_exists_of_mem_changeFirst member with before | ⟨old, isOld, passes, rfl⟩
    · exact hasHome.isAlone other before isLocal
    · have same := distinct.eq_of_nameKey_eq isOld isRow
        (((sameName_iff _ _).mp passes).trans named.symm)
      rw [same]
      exact isHome.id

/-- Writing another instance leaves the row of this one alone, and what was written is another one. -/
theorem putRemote (hasHome : tables.HasHome home latest) (sound : tables.IsSound issued)
    (distinct : tables.HasDistinctDomains) {settings : RemoteSettings} {now : Timestamp}
    {row : InstanceRow}
    (written : tables.putRemote settings (identifier issued) now = .ok (row, changed)) :
    changed.HasHome home latest ∧ row.id ≠ home.id := by
  obtain ⟨homeRow, isRow, isHome⟩ := hasHome.isThere
  unfold Tables.putRemote at written
  split at written
  · rename_i old found
    split at written
    · cases written
    · rename_i isForeign
      cases written
      obtain ⟨isOld, named⟩ := mem_of_instanceAt? found
      have notLocal := Bool.eq_false_iff.mpr isForeign
      have isOther : old.id ≠ home.id := hasHome.ne_of_isLocal_eq_false sound isOld notLocal
      refine ⟨⟨⟨homeRow, ?_, isHome⟩, ?_, hasHome.accounts⟩, isOther⟩
      · rcases mem_changeFirst_or_change_mem isRow with kept | ⟨passes, -⟩
        · exact kept
        · have same := distinct.eq_of_nameKey_eq isRow isOld
            (((sameName_iff _ _).mp passes).trans named.symm)
          rw [same] at isHome
          exact absurd isHome.isLocal isForeign
      · intro other member isLocal
        rcases mem_or_exists_of_mem_changeFirst member with before | ⟨older, isOlder, -, rfl⟩
        · exact hasHome.isAlone other before isLocal
        · exact hasHome.isAlone older isOlder isLocal
  · cases written
    refine ⟨⟨⟨homeRow, List.mem_append_left _ isRow, isHome⟩, ?_, hasHome.accounts⟩, ?_⟩
    · intro other member isLocal
      rcases List.mem_append.mp member with before | added
      · exact hasHome.isAlone other before isLocal
      · rw [List.mem_singleton.mp added] at isLocal
        cases isLocal
    · have isEarlier := sound.instancesIssued homeRow isRow
      rw [isHome.id] at isEarlier
      exact (isEarlier.ne_identifier (Nat.le_refl issued)).symm

theorem putMode (hasHome : tables.HasHome home latest) (instanceId word : String) :
    (tables.putMode instanceId word).2.HasHome home latest := by
  obtain ⟨homeRow, isRow, isHome⟩ := hasHome.isThere
  refine ⟨?_, ?_, hasHome.accounts⟩
  · rcases mem_changeFirst_or_change_mem isRow with kept | ⟨-, moved⟩
    · exact ⟨homeRow, kept, isHome⟩
    · exact ⟨_, moved, { isHome with }⟩
  · intro other member isLocal
    rcases mem_or_exists_of_mem_changeFirst member with before | ⟨older, isOlder, -, rfl⟩
    · exact hasHome.isAlone other before isLocal
    · exact hasHome.isAlone older isOlder isLocal

/-- Only the instances and the users count. -/
theorem of_eq (hasHome : tables.HasHome home latest) (sameInstances : changed.instances = tables.instances)
    (sameUsers : changed.users = tables.users) : changed.HasHome home latest := by
  refine ⟨?_, ?_, ?_⟩
  · rw [sameInstances]
    exact hasHome.isThere
  · rw [sameInstances]
    exact hasHome.isAlone
  · rw [sameUsers]
    exact hasHome.accounts

/-- An account is added to this instance. -/
theorem register (hasHome : tables.HasHome home latest) {username : String}
    {displayName : Option String} {id : String} {now : Timestamp} {user : User}
    (written : tables.register home.id username displayName id now = .ok (user, changed)) :
    changed.HasHome home latest := by
  unfold Tables.register at written
  split at written
  · cases written
  · split at written
    · cases written
      refine ⟨hasHome.isThere, hasHome.isAlone, fun user member => ?_⟩
      rcases List.mem_append.mp member with before | added
      · exact hasHome.accounts user before
      · rw [List.mem_singleton.mp added]
        exact iff_of_true rfl rfl
    · cases written

/-- A profile is written at another instance. -/
theorem putStub (hasHome : tables.HasHome home latest) {instanceId : String} (isOther : instanceId ≠ home.id)
    {fields : StubFields} {id : String} {now : Timestamp} {user : User}
    (written : tables.putStub instanceId fields id now = .ok (user, changed)) :
    changed.HasHome home latest := by
  refine ⟨?_, ?_, fun user member => ?_⟩
  · rw [instances_putStub written]
    exact hasHome.isThere
  · rw [instances_putStub written]
    exact hasHome.isAlone
  · rcases mem_of_mem_putStub written member with kept | ⟨isThere, remoteUserId, -⟩
    · exact hasHome.accounts user (List.mem_filter.mp kept).1
    · rw [isThere, remoteUserId]
      exact iff_of_false (by rintro ⟨⟩) isOther

theorem putRemoteUser (hasHome : tables.HasHome home latest) (sound : tables.IsSound issued)
    (distinct : tables.HasDistinctDomains) {settings : RemoteSettings} {fields : StubFields}
    {userId : String} {now : Timestamp} {user : User}
    (written : tables.putRemoteUser settings fields (identifier issued) userId now =
      .ok (user, changed)) : changed.HasHome home latest := by
  unfold Tables.putRemoteUser at written
  split at written
  · cases written
  · rename_i row between first
    obtain ⟨stillHome, isOther⟩ := hasHome.putRemote sound distinct first
    exact stillHome.putStub isOther written

end HasHome

end Tables

end HandleFederation
