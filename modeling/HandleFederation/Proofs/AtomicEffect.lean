/-
This file says exactly what a resolution does to the tables. Whatever its result is, it
leaves them alone unless that is a profile which was fetched; and then two tables
change in one step: the row of the instance is renewed from what the instance declared
about itself, or added, and so is the row of the user from what the instance answered,
after the rows were dropped under which the same user was known by another name. Each
row is told apart by its name, of which there is one in every table that the server can
come by, so that renewing the first row with a name renews the only one. Since a
resolution writes once, one that is abandoned has done all of this or nothing.
-/

import HandleFederation.Proofs.ContactedHost
import HandleFederation.Proofs.DomainIsolation
import HandleFederation.Proofs.RoundTrip
import HandleFederation.Proofs.SingleWrite

namespace HandleFederation

open Program Resolution Text

/-! ### Rows that are renewed or added -/

/-- Among some rows the one that is meant is renewed, if it is there, and otherwise one is added at the
end. All other rows stay as and where they are. -/
inductive Renews {Row : Type} (isMeant : Row → Prop) (renew : Row → Row) (fresh : Row) :
    List Row → List Row → Row → Prop
  | renewed {front back : List Row} {row : Row} (meant : isMeant row)
    (others : ∀ other ∈ front ++ back, ¬ isMeant other) :
    Renews isMeant renew fresh (front ++ row :: back) (front ++ renew row :: back) (renew row)
  | added {rows : List Row} (others : ∀ other ∈ rows, ¬ isMeant other) :
    Renews isMeant renew fresh rows (rows ++ [fresh]) fresh

namespace Renews

variable {Row : Type} {isMeant : Row → Prop} {renew : Row → Row} {fresh row : Row} {before after : List Row}

theorem mem (renews : Renews isMeant renew fresh before after row) : row ∈ after := by
  cases renews with
  | renewed meant others => exact List.mem_append_right _ List.mem_cons_self
  | added others => exact List.mem_append_right _ (List.mem_singleton_self fresh)

/-- The row that comes of it is the one that is meant. -/
theorem meant (renews : Renews isMeant renew fresh before after row)
    (renewMeant : ∀ row, isMeant row → isMeant (renew row)) (freshMeant : isMeant fresh) :
    isMeant row := by
  cases renews with
  | renewed meant others => exact renewMeant _ meant
  | added others => exact freshMeant

/-- A row that is meant and was there before is the one that was renewed. -/
theorem eq_renew (renews : Renews isMeant renew fresh before after row) {old : Row}
    (wasThere : old ∈ before) (meant : isMeant old) : row = renew old := by
  cases renews with
  | renewed _ others =>
    rcases List.mem_append.mp wasThere with isFront | isRest
    · exact absurd meant (others old (List.mem_append_left _ isFront))
    · rcases List.mem_cons.mp isRest with rfl | isBack
      · rfl
      · exact absurd meant (others old (List.mem_append_right _ isBack))
  | added others => exact absurd meant (others old wasThere)

/-- What holds of every row that is renewed and of a fresh one holds of the row that comes of it. -/
theorem holds (renews : Renews isMeant renew fresh before after row) (property : Row → Prop)
    (ofRenew : ∀ old, property (renew old)) (ofFresh : property fresh) : property row := by
  cases renews with
  | renewed meant others => exact ofRenew _
  | added others => exact ofFresh

/-- The row that comes of it is what became of one that was meant, or it is fresh. -/
theorem renewed_or_fresh (renews : Renews isMeant renew fresh before after row) :
    (∃ old ∈ before, isMeant old ∧ row = renew old) ∨ row = fresh := by
  cases renews with
  | renewed meant others =>
    exact Or.inl ⟨_, List.mem_append_right _ List.mem_cons_self, meant, rfl⟩
  | added others => exact Or.inr rfl

/-- A row that is there afterwards is the one that comes of it, or was there before. -/
theorem eq_or_mem (renews : Renews isMeant renew fresh before after row) {other : Row}
    (isThere : other ∈ after) : other = row ∨ other ∈ before := by
  cases renews with
  | renewed meant others =>
    rcases List.mem_append.mp isThere with isFront | isRest
    · exact Or.inr (List.mem_append_left _ isFront)
    · exact (List.mem_cons.mp isRest).imp_right fun isBack =>
        List.mem_append_right _ (List.mem_cons_of_mem _ isBack)
  | added others =>
    exact (List.mem_append.mp isThere).symm.imp_left List.mem_singleton.mp

/-- A row that is not meant stays. -/
theorem mem_of_not_meant (renews : Renews isMeant renew fresh before after row) {other : Row}
    (wasThere : other ∈ before) (notMeant : ¬ isMeant other) : other ∈ after := by
  cases renews with
  | renewed meant others =>
    rcases List.mem_append.mp wasThere with isFront | isRest
    · exact List.mem_append_left _ isFront
    · rcases List.mem_cons.mp isRest with rfl | isBack
      · exact absurd meant notMeant
      · exact List.mem_append_right _ (List.mem_cons_of_mem _ isBack)
  | added others => exact List.mem_append_left _ wasThere

/-- Where no row was meant before, one was added. -/
theorem eq_fresh (renews : Renews isMeant renew fresh before after row)
    (notThere : ∀ old ∈ before, ¬ isMeant old) : row = fresh := by
  cases renews with
  | renewed meant others =>
    exact absurd meant (notThere _ (List.mem_append_right _ List.mem_cons_self))
  | added others => rfl

end Renews

section

variable {Row : Type} {test : Row → Bool} {isMeant : Row → Prop} {change : Row → Row} {rows : List Row}

theorem changeFirst_append_cons {front : List Row} (notBefore : ∀ row ∈ front, test row = false)
    {row : Row} (passes : test row = true) (back : List Row) :
    Tables.changeFirst test change (front ++ row :: back) = front ++ change row :: back := by
  induction front with
  | nil => exact if_pos passes
  | cons head rest inductionHypothesis =>
    rw [List.cons_append, Tables.changeFirst,
      if_neg (Bool.eq_false_iff.mp (notBefore head List.mem_cons_self)),
      inductionHypothesis fun other member => notBefore other (List.mem_cons_of_mem _ member)]
    rfl

/-- Changing the first row that passes a test renews the row that is meant, when only that one does. -/
theorem renews_changeFirst (isTest : ∀ row, test row = true ↔ isMeant row)
    (alone : rows.Pairwise fun row other => test row = true → test other = false) {row : Row}
    (found : rows.find? test = some row) (fresh : Row) :
    Renews isMeant change fresh rows (Tables.changeFirst test change rows) (change row) := by
  obtain ⟨passes, front, back, rfl, notBefore⟩ := List.find?_eq_some_iff_append.mp found
  have isBefore : ∀ other ∈ front, test other = false := fun other member =>
    Bool.not_eq_eq_eq_not.mp (notBefore other member)
  rw [changeFirst_append_cons isBefore passes]
  refine .renewed ((isTest row).mp passes) fun other member meant => ?_
  have alsoPasses := (isTest other).mpr meant
  rcases List.mem_append.mp member with before | after
  · rw [isBefore other before] at alsoPasses
    cases alsoPasses
  · have differs := (List.pairwise_cons.mp (List.pairwise_append.mp alone).2.1).1 other after passes
    rw [differs] at alsoPasses
    cases alsoPasses

theorem renews_append (isTest : ∀ row, test row = true ↔ isMeant row) (notFound : rows.find? test = none)
    (fresh : Row) : Renews isMeant change fresh rows (rows ++ [fresh]) fresh :=
  .added fun other member meant => List.find?_eq_none.mp notFound other member ((isTest other).mpr meant)

end

/-! ### The rows of an instance and of its user -/

namespace Tables

variable {issued : Nat} {tables changed : Tables}

/-- The instance of a domain is renewed from what it declared about itself, or added. -/
def RenewsInstance (domain : String) (declaration : Declaration) (id : String) (now : Timestamp) :
    List InstanceRow → List InstanceRow → InstanceRow → Prop :=
  Renews (fun row => nameKey row.domain = nameKey domain)
    (fun row => { row with
      remoteInstanceId := some declaration.instanceId
      publicKey := declaration.publicKey
      name := declaration.name
      software := declaration.software
      mode := declaration.mode.word
      lastSeenAt := now })
    { id := id
      domain := lower domain
      remoteInstanceId := some declaration.instanceId
      publicKey := declaration.publicKey
      name := declaration.name
      software := declaration.software
      mode := declaration.mode.word
      isLocal := false
      createdAt := now
      lastSeenAt := now }

/-- The user of an instance is renewed from a profile, or added. -/
def RenewsUser (instanceId username : String) (profile : Profile) (id : String) (now : Timestamp) :
    List User → List User → User → Prop :=
  Renews (fun user => user.instanceId = instanceId ∧ nameKey user.username = nameKey username)
    (fun user => { user with
      remoteUserId := some profile.id
      displayName := profile.displayName
      avatarId := profile.avatarId
      bio := profile.bio
      createdAt := (profile.createdAt.bind Timestamp.ofText?).getD user.createdAt
      updatedAt := now })
    { id := id
      instanceId := instanceId
      remoteUserId := some profile.id
      username := profile.username
      displayName := profile.displayName
      avatarId := profile.avatarId
      bio := profile.bio
      createdAt := (profile.createdAt.bind Timestamp.ofText?).getD now
      updatedAt := now }

/-- A user of an instance is known there by another name under the identifier that a profile has. -/
def IsSuperseded (instanceId username : String) (profile : Profile) (user : User) : Prop :=
  user.instanceId = instanceId ∧ user.remoteUserId = some profile.id ∧
    nameKey user.username ≠ nameKey username

instance (instanceId username : String) (profile : Profile) (user : User) :
    Decidable (IsSuperseded instanceId username profile user) :=
  inferInstanceAs (Decidable (_ ∧ _ ∧ _))

/-- What the tables are after the instance of a domain, which is another one than this, and one of its
users were written from what the instance said, when so many identifiers were issued before. -/
structure HasTakenIn (domain username : String) (declaration : Declaration) (profile : Profile)
    (issued : Nat) (now : Timestamp) (before after : Tables) (row : InstanceRow) (user : User) :
    Prop where
  instances : RenewsInstance domain declaration (identifier issued) now before.instances
    after.instances row
  isForeign : row.isLocal = false
  users : RenewsUser row.id username profile (identifier (issued + 1)) now
    (before.users.filter fun user => !IsSuperseded row.id username profile user) after.users user
  peers : after.peers = before.peers

/-- Writing another instance renews its row or adds it. -/
theorem renewsInstance_putRemote (distinct : tables.HasDistinctDomains) {domain id : String}
    {declaration : Declaration} {now : Timestamp} {row : InstanceRow}
    (written : tables.putRemote (remoteSettings domain declaration) id now = .ok (row, changed)) :
    RenewsInstance domain declaration id now tables.instances changed.instances row ∧
      row.isLocal = false := by
  have isTest : ∀ row : InstanceRow,
      sameName row.domain domain = true ↔ nameKey row.domain = nameKey domain :=
    fun row => sameName_iff row.domain domain
  have alone : tables.instances.Pairwise fun row other =>
      sameName row.domain domain = true → sameName other.domain domain = false := by
    refine (List.pairwise_map.mp distinct).imp fun differs isNamed => ?_
    refine Bool.eq_false_iff.mpr fun alsoNamed => differs ?_
    rw [(sameName_iff _ _).mp isNamed, (sameName_iff _ _).mp alsoNamed]
  unfold putRemote at written
  split at written
  · rename_i old found
    split at written
    · cases written
    · rename_i isForeign
      cases written
      exact ⟨renews_changeFirst isTest alone found _, Bool.eq_false_iff.mpr isForeign⟩
  · rename_i notFound
    cases written
    exact ⟨renews_append isTest notFound _, rfl⟩

/-- Writing a user of another instance drops the rows that are superseded, and renews the row of the
user or adds it. -/
theorem renewsUser_putStub (sound : tables.IsSound issued) {instanceId username id : String}
    {profile : Profile} (named : lower profile.username = lower username) {now : Timestamp} {user : User}
    (written : tables.putStub instanceId (stubFields profile) id now = .ok (user, changed)) :
    RenewsUser instanceId username profile id now
      (tables.users.filter fun user => !IsSuperseded instanceId username profile user) changed.users
      user := by
  have kept : (dropRenamed instanceId (stubFields profile) tables).users =
      tables.users.filter fun user => !IsSuperseded instanceId username profile user := by
    refine List.filter_congr fun user _ => congrArg (!·) (Bool.eq_iff_iff.mpr ?_)
    rw [decide_eq_true_iff, IsSuperseded, isRenamed, ← nameKey_eq_of_lower_eq named]
    simp only [Bool.and_eq_true, beq_iff_eq, Bool.not_eq_true', ← Bool.not_eq_true, sameName_iff, and_assoc]
    rfl
  have isTest : ∀ user, isUser instanceId profile.username user = true ↔
      user.instanceId = instanceId ∧ nameKey user.username = nameKey username := by
    intro user
    rw [isUser_iff_place, nameKey_eq_of_lower_eq named]
    exact Prod.mk.injEq _ _ _ _ ▸ Iff.rfl
  have soundKept := sound.dropUsers fun user => !isRenamed instanceId (stubFields profile) user
  rw [← kept]
  unfold putStub at written
  dsimp only at written
  split at written
  · rename_i old found
    cases written
    exact renews_changeFirst isTest (soundKept.isUser_alone instanceId profile.username) found _
  · rename_i notFound
    split at written
    · cases written
      exact renews_append isTest notFound _
    · cases written

/-- Writing another instance with one of its users does no more and no less. -/
theorem hasTakenIn_putRemoteUser (sound : tables.IsSound issued) (distinct : tables.HasDistinctDomains)
    {domain username : String} {declaration : Declaration} {profile : Profile}
    (named : lower profile.username = lower username) {now : Timestamp} {user : User}
    (written : tables.putRemoteUser (remoteSettings domain declaration) (stubFields profile)
      (identifier issued) (identifier (issued + 1)) now = .ok (user, changed)) :
    ∃ row, HasTakenIn domain username declaration profile issued now tables changed row user := by
  unfold putRemoteUser at written
  split at written
  · cases written
  · rename_i row between first
    obtain ⟨sameUsers, samePeers⟩ := users_putRemote first
    obtain ⟨instances, isForeign⟩ := renewsInstance_putRemote distinct first
    have users := renewsUser_putStub (sound.putRemote first).1 named written
    rw [sameUsers] at users
    refine ⟨row, ?_, isForeign, users, (peers_putStub written).trans samePeers⟩
    rw [instances_putStub written]
    exact instances

end Tables

/-- A change of the tables gives a result and is made, or it gives a failure and nothing is changed. -/
theorem World.changeTables_cases {Result : Type} (identifiers : Nat)
    (change : Tables → Except Failure (Result × Tables)) (world : World) :
    (∃ result, (world.changeTables identifiers change).1 = .ok result ∧
      change world.tables = .ok (result, (world.changeTables identifiers change).2.tables)) ∨
    ∃ failure, (world.changeTables identifiers change).1 = .error failure ∧
      (world.changeTables identifiers change).2.tables = world.tables := by
  unfold changeTables
  split
  · dsimp only
    split
    · rename_i result tables given
      exact Or.inl ⟨result, rfl, given⟩
    · rename_i failure given
      exact Or.inr ⟨failure, rfl, rfl⟩
  · exact Or.inr ⟨_, rfl, rfl⟩

/-! ### What a fetch finds out -/

namespace Resolution

/-- The instance of a domain declared itself when it was asked, as one that takes part in the federation,
and then answered for a user with a profile. -/
structure IsAnswered (surroundings : Surroundings) (domain username : String) (requested : List Url)
    (declaration : Declaration) (profile : Profile) : Prop where
  asked : ∃ first second, declarationUrl domain = .ok first ∧
    Profile.lookupUrl domain (lower username) = .ok second ∧
    Declaration.ofExchange domain (surroundings.transport requested first) = .ok declaration ∧
    Profile.Answer.ofExchange username (surroundings.transport (first :: requested) second) =
      .found profile
  takesPart : declaration.mode ≠ .closed

/-- A profile that was found is one of the user who was asked for. -/
theorem lower_username_of_found {username : String} {exchange : Exchange} {profile : Profile}
    (found : Profile.Answer.ofExchange username exchange = .found profile) :
    lower profile.username = lower username := by
  rcases exchange with fault | response
  · cases found
  · unfold Profile.Answer.ofExchange at found
    dsimp only at found
    split at found
    · split at found
      · rename_i accepted body
        cases found
        unfold Profile.ofBody? at body
        split at body
        · cases body
        · split at body
          · rename_i isAcceptable
            cases body
            exact (sameUpToCase_iff _ _).mp (Bool.and_eq_true_iff.mp isAcceptable).2
          · cases body
      · cases found
    · split at found <;> cases found

variable (surroundings : Surroundings)

/-- What an instance declares when it is asked is what it answers at the URL of its domain. -/
theorem declaring_eq_ok {domain : String} {world after : World} {declaration : Declaration}
    (declared : world.declaring surroundings domain = (.ok declaration, after)) :
    ∃ url, declarationUrl domain = .ok url ∧
      Declaration.ofExchange domain (surroundings.transport world.requested url) = .ok declaration ∧
      after = world.asked url := by
  unfold World.declaring at declared
  cases address : declarationUrl domain with
  | error fault =>
    rw [address] at declared
    cases declared
  | ok url =>
    rw [address, Prod.mk.injEq] at declared
    exact ⟨url, rfl, declared.1, declared.2.symm⟩

/-- An instance that is discovered declared that it takes part in the federation. -/
theorem run_discover_eq_ok {windows : Windows} {domain : String} {world found : World}
    {declaration : Declaration}
    (discovered : (discover windows domain).toProgram.run surroundings world =
      (some (.ok declaration), found)) :
    ∃ url, declarationUrl domain = .ok url ∧
      Declaration.ofExchange domain (surroundings.transport world.requested url) = .ok declaration ∧
      declaration.mode ≠ .closed ∧ found.requested = url :: world.requested := by
  rw [run_discover] at discovered
  split at discovered
  · cases discovered
  · split at discovered
    · rename_i fault after declared
      rw [Prod.mk.injEq, Option.map_eq_some_iff] at discovered
      obtain ⟨⟨_, -, failed⟩, -⟩ := discovered
      cases failed
    · rename_i answered after declared
      obtain ⟨url, address, answers, rfl⟩ := declaring_eq_ok surroundings declared
      split at discovered
      · rw [Prod.mk.injEq, Option.map_eq_some_iff] at discovered
        obtain ⟨⟨_, -, failed⟩, -⟩ := discovered
        cases failed
      · rename_i takesPart
        cases discovered
        exact ⟨url, address, answers, takesPart, rfl⟩

/-- A user who is found was looked up at the URL for the name in lower case. -/
theorem run_askProfile_eq_ok {username domain : String} {world answered : World} {answer : Profile.Answer}
    (asked : (askProfile username domain).toProgram.run surroundings world =
      (some (.ok answer), answered)) :
    ∃ url, Profile.lookupUrl domain (lower username) = .ok url ∧
      Profile.Answer.ofExchange username (surroundings.transport world.requested url) = answer := by
  rw [run_askProfile] at asked
  split at asked
  · cases asked
  · rename_i url address
    rw [Prod.mk.injEq, Option.some_inj, Except.ok.injEq] at asked
    exact ⟨url, address, asked.1⟩

/-- Writing an instance with one of its users, when only short-lived values changed since some world,
makes of its tables what the write would have made of them there and then, or leaves them alone. -/
theorem changeTables_putRemoteUser_cases {keys : List String} {world answered : World}
    (keeps : world.KeepsBut keys answered) (settings : RemoteSettings) (fields : StubFields) :
    let outcome := answered.changeTables 2 (Tables.putRemoteUser settings fields
      (identifier answered.issued) (identifier (answered.issued + 1)) answered.time)
    (∃ user, outcome.1 = .ok user ∧
      world.tables.putRemoteUser settings fields (identifier world.issued)
        (identifier (world.issued + 1)) world.time = .ok (user, outcome.2.tables)) ∨
    ∃ failure, outcome.1 = .error failure ∧ outcome.2.tables = world.tables := by
  have sameTime : answered.time = world.time := by rw [World.time, keeps.now, World.time]
  have written := World.changeTables_cases 2 (Tables.putRemoteUser settings fields
    (identifier answered.issued) (identifier (answered.issued + 1)) answered.time) answered
  dsimp only
  rw [keeps.tables] at written
  rwa [keeps.issued, sameTime] at written ⊢

/-- Fetching a profile leaves the tables alone unless it comes to one, which is then written with its
instance as both were answered. -/
theorem run_fetch_cases (windows : Windows) (username domain : String) (world : World) :
    let outcome := (fetch windows username domain).toProgram.run surroundings world
    ((∀ user, outcome.1 ≠ some (.ok user)) ∧ outcome.2.tables = world.tables) ∨
      ∃ declaration profile user,
        IsAnswered surroundings domain username world.requested declaration profile ∧
        outcome.1 = some (.ok user) ∧
        world.tables.putRemoteUser (remoteSettings domain declaration) (stubFields profile)
          (identifier world.issued) (identifier (world.issued + 1)) world.time =
          .ok (user, outcome.2.tables) := by
  have isMiss := missKey_mem_ownKeys username domain
  have discovered := keepsBut_run_discover surroundings windows (cooldownKey_mem_ownKeys username domain)
    world
  rw [run_fetch]
  generalize declares : (discover windows domain).toProgram.run surroundings world = outcome
    at discovered ⊢
  rcases outcome with ⟨_ | failure | declaration, found⟩
  · exact Or.inl ⟨fun _ => nofun, discovered.tables⟩
  · exact Or.inl ⟨fun _ => nofun, discovered.tables⟩
  · have asked := discovered.trans (keepsBut_run_askProfile surroundings username domain found)
    dsimp only
    generalize answers : (askProfile username domain).toProgram.run surroundings found = outcome at asked ⊢
    rcases outcome with ⟨_ | failure | profile | _ | _, answered⟩
    · exact Or.inl ⟨fun _ => nofun, asked.tables⟩
    · exact Or.inl ⟨fun _ => nofun, asked.tables⟩
    · obtain ⟨first, declaredAt, declared, takesPart, requested⟩ := run_discover_eq_ok surroundings declares
      obtain ⟨second, lookedUpAt, found⟩ := run_askProfile_eq_ok surroundings answers
      rw [requested] at found
      rcases changeTables_putRemoteUser_cases asked (remoteSettings domain declaration)
        (stubFields profile) with ⟨user, isUser, written⟩ | ⟨failure, failed, unchanged⟩
      · exact Or.inr ⟨declaration, profile, user,
          ⟨⟨first, second, declaredAt, lookedUpAt, declared, found⟩, takesPart⟩,
          congrArg some isUser, written⟩
      · refine Or.inl ⟨fun user isUser => ?_, unchanged⟩
        rw [Option.some_inj.mp isUser] at failed
        cases failed
    · refine Or.inl ⟨fun user failed => ?_, (asked.remembering surroundings isMiss _).tables⟩
      obtain ⟨_, -, isError⟩ := Option.map_eq_some_iff.mp failed
      cases isError
    · exact Or.inl ⟨fun _ => nofun, asked.tables⟩

/-- A fetch that is answered, and was not given up a moment ago, comes to what can be written. -/
theorem run_fetch_of_isAnswered {windows : Windows} {username domain : String} {world : World}
    {declaration : Declaration} {profile : Profile} (isOpen : world.isDatabaseOpen = true)
    (notCooling : world.store.get? world.now (cooldownKey domain) = none)
    (answered : IsAnswered surroundings domain username world.requested declaration profile) :
    ((fetch windows username domain).toProgram.run surroundings world).1 =
      some ((world.tables.putRemoteUser (remoteSettings domain declaration) (stubFields profile)
        (identifier world.issued) (identifier (world.issued + 1)) world.time).map Prod.fst) := by
  obtain ⟨⟨first, second, declaredAt, lookedUpAt, declared, found⟩, takesPart⟩ := answered
  have declares : world.called.declaring surroundings domain =
      (.ok declaration, world.called.asked first) := by
    unfold World.declaring
    rw [declaredAt]
    exact Prod.ext declared rfl
  have discovers : (discover windows domain).toProgram.run surroundings world =
      (some (.ok declaration), (world.called.asked first).countedRequest "discovery" "ok") := by
    rw [run_discover, World.recalls_of_get?_eq_none surroundings notCooling, declares]
    exact if_neg takesPart
  rw [run_fetch, discovers]
  dsimp only
  rw [run_askProfile, lookedUpAt]
  dsimp only
  have asked : ((world.called.asked first).countedRequest "discovery" "ok").requested =
      first :: world.requested := rfl
  rw [asked, found]
  dsimp only
  exact congrArg some (World.fst_changeTables isOpen)

/-- A profile settles a resolution as one from the other instance, and nothing else does. -/
theorem source_settle {domain : String} {stale : Option User} {outcome : Except Failure User}
    (noUser : ∀ user, outcome ≠ .ok user) {resolved : Resolved}
    (settled : settle domain stale outcome = .ok resolved) : resolved.source ≠ .remote := by
  rcases outcome with failure | user
  · cases failure with
    | remoteLookupFailed name =>
      cases stale with
      | none => cases settled
      | some user =>
        cases settled
        exact nofun
    | _ => cases settled
  · exact absurd rfl (noUser user)

/-- Resolving a user of another instance leaves the tables alone unless the answer is a profile that was
fetched. -/
theorem run_resolveRemote_cases (windows : Windows) (username domain : String) (world : World) :
    let outcome := (resolveRemote windows username domain).toProgram.run surroundings world
    ((∀ resolved, outcome.1 = some (.ok resolved) → resolved.source ≠ .remote) ∧
      outcome.2.tables = world.tables) ∨
      ∃ declaration profile user,
        IsAnswered surroundings domain username world.requested declaration profile ∧
        outcome.1 = some (.ok ⟨user, domain, .remote⟩) ∧
        world.tables.putRemoteUser (remoteSettings domain declaration) (stubFields profile)
          (identifier world.issued) (identifier (world.issued + 1)) world.time =
          .ok (user, outcome.2.tables) := by
  rw [run_resolveRemote]
  split
  · exact Or.inl ⟨fun _ => nofun, rfl⟩
  · refine Or.inl ⟨fun resolved answer => ?_, rfl⟩
    cases answer
    exact nofun
  · dsimp only
    split
    · exact Or.inl ⟨fun _ => nofun, rfl⟩
    · rcases run_fetch_cases surroundings windows username domain
        (world.counted (.cacheAccess "user_stub" false)).called with ⟨noUser, unchanged⟩ | fetched
      · refine Or.inl ⟨fun resolved answer => ?_, unchanged⟩
        obtain ⟨outcome, isOutcome, settled⟩ := Option.map_eq_some_iff.mp answer
        refine source_settle (fun user isUser => noUser user ?_) settled
        rw [isOutcome, isUser]
      · obtain ⟨declaration, profile, user, answered, isUser, written⟩ := fetched
        refine Or.inr ⟨declaration, profile, user, answered, ?_, written⟩
        rw [isUser]
        rfl

/-- Resolving a handle leaves the tables alone unless the answer is a profile that was fetched from the
instance that the handle was let through to. -/
theorem run_resolveHandle_effect (service : Service) (handle : Handle) (world : World) :
    let outcome := (resolveHandle service handle).toProgram.run surroundings world
    ((∀ resolved, outcome.1 = some (.ok resolved) → resolved.source ≠ .remote) ∧
      outcome.2.tables = world.tables) ∨
      ∃ domainText domain declaration profile user,
        IsLetThrough service handle world domainText domain ∧
        IsAnswered surroundings domain handle.username world.requested declaration profile ∧
        outcome.1 = some (.ok ⟨user, domain, .remote⟩) ∧
        world.tables.putRemoteUser (remoteSettings domain declaration) (stubFields profile)
          (identifier world.issued) (identifier (world.issued + 1)) world.time =
          .ok (user, outcome.2.tables) := by
  rcases run_resolveHandle_cases surroundings service handle world with
    ⟨domainText, domain, through, run⟩ | ⟨result, stays, isHome⟩
  · rw [run]
    refine (run_resolveRemote_cases surroundings service.windows handle.username domain world).imp_right ?_
    rintro ⟨declaration, profile, user, answered, isUser, written⟩
    exact ⟨domainText, domain, declaration, profile, user, through, answered, isUser, written⟩
  · rw [stays]
    refine Or.inl ⟨fun resolved answer isRemote => ?_, rfl⟩
    rw [(isHome resolved (Option.some_inj.mp answer)).1] at isRemote
    cases isRemote

end Resolution

/-- A site that may ask for a user of whom nothing is known, and is answered, comes to what can be
written. -/
theorem Site.resolve_of_isAnswered {site : Site} {text username domainText domain : String}
    {declaration : Declaration} {profile : Profile} (isOpen : site.world.isDatabaseOpen = true)
    (reads : Handle.read text = ⟨username, some domainText⟩)
    (valid : Username.validate username = .ok ())
    (isForeign : DomainName.normalize domainText ≠ site.service.domain)
    (permitted : site.world.permission site.service.home.id domainText = .ok ())
    (accepted : DomainName.validate site.service.blocked domainText = .ok domain)
    (notFound : site.world.tables.stub? username domain = none)
    (notMissed : site.world.store.get? site.world.now (missKey username domain) = none)
    (notCooling : site.world.store.get? site.world.now (cooldownKey domain) = none)
    (answered : IsAnswered site.surroundings domain username site.world.requested declaration profile) :
    (site.resolve text).1 = some (settle domain none
      ((site.world.tables.putRemoteUser (remoteSettings domain declaration) (stubFields profile)
        (identifier site.world.issued) (identifier (site.world.issued + 1)) site.world.time).map
        Prod.fst)) := by
  have counts := Service.run_resolve_counts site.surroundings site.service text site.world
  have noStub : site.world.stubFound site.service.windows.stubLifetime username domain =
      .ok .missing := by
    rw [World.stubFound, World.readTables, if_pos isOpen, notFound]
    rfl
  have fetched : ((fetch site.service.windows username domain).toProgram.run site.surroundings
      (site.world.counted (.cacheAccess "user_stub" false)).called).1 = _ :=
    run_fetch_of_isAnswered site.surroundings isOpen notCooling answered
  dsimp only at counts
  rw [Site.resolve, counts.1, reads, run_resolveHandle, valid]
  dsimp only
  rw [foreignDomain?_eq_some_iff.mpr ⟨rfl, isForeign⟩]
  dsimp only
  rw [permitted]
  dsimp only
  rw [acceptDomain_eq_ok_iff.mpr accepted]
  dsimp only
  rw [run_resolveRemote, noStub]
  have notRecalled : (site.world.counted (.cacheAccess "user_stub" false)).recalls
      site.surroundings (missKey username domain) = false :=
    World.recalls_of_get?_eq_none site.surroundings notMissed
  dsimp only
  rw [if_neg (Bool.eq_false_iff.mp notRecalled)]
  dsimp only
  rw [fetched]
  rfl

/-- A resolution leaves the tables alone unless it gives a profile that was fetched. If it does, the
handle was let through to a domain, the instance there declared itself and answered for the user, and
its row and that of the user were renewed or added, and nothing else. A resolution that is abandoned
after some commands has done all of that or nothing. -/
theorem Site.resolve_does_all_or_nothing {site : Site} (reachable : site.IsReachable) (text : String) :
    let outcome := site.resolve text
    ((∀ resolved, outcome.1 = some (.ok resolved) → resolved.source ≠ .remote) →
      outcome.2.tables = site.world.tables) ∧
    (∀ resolved, outcome.1 = some (.ok resolved) → resolved.source = .remote →
      ∃ domainText declaration profile row,
        IsLetThrough site.service (Handle.read text) site.world domainText resolved.domain ∧
        IsAnswered site.surroundings resolved.domain (Handle.read text).username site.world.requested
          declaration profile ∧
        Tables.HasTakenIn resolved.domain (Handle.read text).username declaration profile
          site.world.issued site.world.time site.world.tables outcome.2.tables row resolved.user) ∧
    ∀ count,
      (abandoned site.surroundings count (some (site.service.resolve text).toProgram)
          site.world).tables = site.world.tables ∨
        (abandoned site.surroundings count (some (site.service.resolve text).toProgram)
          site.world).tables = outcome.2.tables := by
  have isReachable := Service.IsReachable.isReachable reachable
  have counts := Service.run_resolve_counts site.surroundings site.service text site.world
  dsimp only [Site.resolve] at counts ⊢
  obtain ⟨sameResult, -, sameTables, -⟩ := counts
  have abandons := tables_abandoned site.surroundings (writesOnce_resolve site.service text) site.world
  rw [sameResult]
  rw [sameTables] at abandons ⊢
  rcases run_resolveHandle_effect site.surroundings site.service (Handle.read text) site.world with
    ⟨notRemote, unchanged⟩ | ⟨domainText, domain, declaration, profile, user, through, answered, isUser,
      written⟩
  · exact ⟨fun _ => unchanged, fun resolved answer isRemote => absurd isRemote (notRemote resolved answer),
      abandons⟩
  · refine ⟨fun notRemote => absurd rfl (notRemote _ isUser), fun resolved answer _ => ?_, abandons⟩
    rw [isUser] at answer
    cases answer
    obtain ⟨first, second, -, -, -, found⟩ := answered.asked
    obtain ⟨row, takenIn⟩ := Tables.hasTakenIn_putRemoteUser isReachable.isSound.tables
      isReachable.hasDistinctDomains (lower_username_of_found found) written
    exact ⟨domainText, declaration, profile, row, through, answered, takenIn⟩

/-! ### An instance that answers -/

/-- What an instance that takes part in the federation may declare. -/
def Declaration.plain : Declaration :=
  ⟨"instance", "other.example", "key", "Other", "software", .anyone⟩

/-- What it may answer for one of its users. -/
def Profile.alice : Profile :=
  ⟨"7", "alice", some "Alice", none, none, none⟩

/-- A response that holds a document. -/
def Response.ofJson (document : Json) : Response :=
  ⟨200, Utf8.encode document.write⟩

/-- Surroundings in which one other instance declares itself, and answers for its user. -/
def Surroundings.answering (profile : Profile) : Surroundings :=
  { Surroundings.silent with
    transport := fun _ url =>
      .ok (.ofJson (if url.query.isNone then Declaration.plain.toJson else profile.toJson)) }

theorem Json.ofBytes?_ofJson (document : Json) :
    Json.ofBytes? (Response.ofJson document).body = Json.ofLetters? document.write := by
  rw [Json.ofBytes?, Response.ofJson, Utf8.decode?_encode, Option.bind_some]

theorem Declaration.ofExchange_plain :
    Declaration.ofExchange "other.example" (.ok (.ofJson Declaration.plain.toJson)) = .ok .plain := by
  rw [Declaration.ofExchange]
  show Declaration.ofBody _ _ = _
  rw [Declaration.ofBody, Json.ofBytes?_ofJson, Declaration.ofLetters?_write]
  rfl

/-- A profile within its bounds is found by its username. -/
theorem Profile.ofExchange_toJson {profile : Profile} (within : profile.isWithinBounds = true) :
    Answer.ofExchange profile.username (.ok (.ofJson profile.toJson)) = .found profile := by
  have body : ofBody? profile.username (Response.ofJson profile.toJson).body = some profile := by
    rw [ofBody?, Json.ofBytes?_ofJson, ofLetters?_write]
    dsimp only
    rw [within, (sameUpToCase_iff _ _).mpr rfl]
    rfl
  have isOk : (Response.ofJson profile.toJson).status = 200 := rfl
  unfold Answer.ofExchange
  dsimp only
  rw [if_pos isOk, body]

/-- The site of a domain that has just started, where another instance answers. -/
def Site.answered (domain : String) (profile : Profile) : Site :=
  .atStart (.plain domain) (.answering profile) (.memory .empty) 0

/-- The instance answers for its user. -/
theorem Surroundings.isAnswered_answering {profile : Profile} (within : profile.isWithinBounds = true)
    (requested : List Url) :
    IsAnswered (.answering profile) "other.example" profile.username requested .plain profile := by
  have accepted : DomainName.validate [] "other.example" = .ok "other.example" := by decide
  obtain ⟨first, second, declaredAt, lookedUpAt, noQuery, hasQuery⟩ :=
    DomainName.exists_urls (DomainName.isPlain_of_validate accepted) (by decide)
      (HostName.isSome_toAscii?_of_validate accepted (by decide)) (lower profile.username)
  refine ⟨⟨first, second, declaredAt, lookedUpAt, ?_, ?_⟩, nofun⟩
  · rw [Surroundings.answering]
    dsimp only
    rw [if_pos noQuery]
    exact Declaration.ofExchange_plain
  · rw [Surroundings.answering]
    dsimp only
    rw [if_neg (hasQuery ▸ Bool.false_ne_true)]
    exact Profile.ofExchange_toJson within

theorem Surroundings.isAnswered_alice (requested : List Url) :
    IsAnswered (.answering .alice) "other.example" "alice" requested .plain .alice :=
  isAnswered_answering rfl requested

/-- Such a site under another domain than that of the instance. -/
def Site.elsewhere : Site :=
  .answered "home.example" .alice

/-- A resolution at that site fetches the profile. -/
theorem Site.exists_resolve_answered :
    ∃ user, (Site.elsewhere.resolve "alice@other.example").1 =
      some (.ok ⟨user, "other.example", .remote⟩) := by
  have reads : Handle.read "alice@other.example" = ⟨"alice", some "other.example"⟩ := by decide
  have valid : Username.validate "alice" = .ok () := by decide
  have isForeign : DomainName.normalize "other.example" ≠ Site.elsewhere.service.domain := by decide
  have permitted : Site.elsewhere.world.permission Site.elsewhere.service.home.id "other.example" =
      .ok () := by decide
  have accepted : DomainName.validate Site.elsewhere.service.blocked "other.example" =
      .ok "other.example" := by decide
  have answer := Site.resolve_of_isAnswered rfl reads valid isForeign permitted accepted rfl rfl rfl
    (Surroundings.isAnswered_alice _)
  exact ⟨_, answer⟩

/-- All of it is done at that site: the instance and the user are new there. -/
theorem Site.resolve_does_all_answered :
    Site.elsewhere.IsReachable ∧
    ∃ user declaration profile row,
      (Site.elsewhere.resolve "alice@other.example").1 = some (.ok ⟨user, "other.example", .remote⟩) ∧
      IsAnswered (.answering .alice) "other.example" (Handle.read "alice@other.example").username []
        declaration profile ∧
      Tables.HasTakenIn "other.example" (Handle.read "alice@other.example").username declaration profile
        1 Site.elsewhere.world.time Site.elsewhere.world.tables
        (Site.elsewhere.resolve "alice@other.example").2.tables row user := by
  have reachable : Site.elsewhere.IsReachable := isReachable_atStart _ _ _ _
  obtain ⟨user, answer⟩ := Site.exists_resolve_answered
  obtain ⟨_, declaration, profile, row, -, answered, takenIn⟩ :=
    (Site.resolve_does_all_or_nothing reachable "alice@other.example").2.1 _ answer rfl
  exact ⟨reachable, user, declaration, profile, row, answer, answered, takenIn⟩

end HandleFederation
