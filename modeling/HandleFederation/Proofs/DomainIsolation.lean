/-
This file proves that domains are isolated from one another. Resolving a user of a
domain leaves everything alone that is not the domain's: the other instances and
their users, the accounts here, the peers, and all short-lived values but two. And
nothing else has a say in it: two sites that agree about the domain, the two
short-lived values, the mode, the peer, the clock and the answers from outside give the
same result, request the same URLs and change the same rows in the same way, up to the
identifiers they issue.

The second half runs both sites in step. Until something is written they differ from
where they started in no more than the short-lived values and what they requested, so
that one relation carries the comparison through all of the resolution but its last
command.
-/

import HandleFederation.Proofs.DomainShare
import HandleFederation.Proofs.NameCase

namespace HandleFederation

open Text Resolution

/-! ### Short-lived values that agree -/

/-- Two stores of one kind that hold the same for some keys. -/
inductive ShortTermStore.AgreesOn (keys : List String) : ShortTermStore → ShortTermStore → Prop
  | memory {entries others : TimedEntries}
      (same : ∀ key ∈ keys, others.entries.lookup key = entries.entries.lookup key) :
      AgreesOn keys (.memory entries) (.memory others)
  | shared {keyPrefix : String} {server other : TimedEntries}
      (same : ∀ key ∈ keys,
        other.entries.lookup (keyPrefix ++ key) = server.entries.lookup (keyPrefix ++ key)) :
      AgreesOn keys (.shared keyPrefix server) (.shared keyPrefix other)

namespace ShortTermStore.AgreesOn

variable {keys : List String} {store other : ShortTermStore}

theorem get?_eq (agrees : store.AgreesOn keys other) {key : String} (member : key ∈ keys)
    (now : Nat) : other.get? now key = store.get? now key := by
  cases agrees with
  | memory same =>
    simp only [ShortTermStore.get?, TimedEntries.get?, same key member]
  | shared same =>
    simp only [ShortTermStore.get?, sendGet, ServerCommand.execute, TimedEntries.get?,
      same key member]

/-- A value that is set on both sides is set in both or in neither. -/
theorem set?_cases (agrees : store.AgreesOn keys other) (now seconds : Nat) (key value : String) :
    (store.set? now key value seconds = none ∧ other.set? now key value seconds = none) ∨
    ∃ after otherAfter, store.set? now key value seconds = some after ∧
      other.set? now key value seconds = some otherAfter ∧ after.AgreesOn keys otherAfter := by
  cases agrees with
  | memory same =>
    unfold ShortTermStore.set?
    cases TimedEntries.expiry? now seconds with
    | none => exact Or.inl ⟨rfl, rfl⟩
    | some expiry =>
      refine Or.inr ⟨_, _, rfl, rfl, .memory fun asked member => ?_⟩
      simp only [TimedEntries.put, TimedEntries.lookup_putEntry, same asked member]
  | shared same =>
    refine Or.inr ⟨_, _, rfl, rfl, .shared fun asked member => ?_⟩
    simp only [sendSet, ServerCommand.execute, TimedEntries.put, TimedEntries.lookup_putEntry,
      same asked member]

end ShortTermStore.AgreesOn

/-! ### Sites that agree -/

namespace Site

/-- Two sites that agree in all that may count for a user of a domain: the settings, the clock, the
mode, whether the domain is an active peer, the rows of the domain, the two short-lived values, and
what happens outside from now on. -/
structure AgreesAbout (transfer : String → String) (username domain : String) (left right : Site) :
    Prop where
  configuration : right.service.configuration = left.service.configuration
  now : right.world.now = left.world.now
  mode : World.modeOf right.service.home.id right.world.tables =
    World.modeOf left.service.home.id left.world.tables
  peer : right.world.tables.hasActivePeer right.service.home.id domain =
    left.world.tables.hasActivePeer left.service.home.id domain
  tables : left.world.tables.AlikeAbout transfer domain right.world.tables
  store : left.world.store.AgreesOn (ownKeys username domain) right.world.store
  transport : ∀ asked url, right.surroundings.transport (asked ++ right.world.requested) url =
    left.surroundings.transport (asked ++ left.world.requested) url
  storeFailure : ∀ operation calls,
    right.surroundings.storeFailure operation (right.world.storeCalls + calls) =
      left.surroundings.storeFailure operation (left.world.storeCalls + calls)

end Site

/-! ### Sites in step -/

/-- Two sites that went through the same so far and have written nothing yet. -/
structure InStep (username domain : String) (left right : Site) (world other : World) : Prop where
  here : left.world.KeepsBut (ownKeys username domain) world
  there : right.world.KeepsBut (ownKeys username domain) other
  requested : ∃ asked, world.requested = asked ++ left.world.requested ∧
    other.requested = asked ++ right.world.requested
  storeCalls : ∃ calls, world.storeCalls = left.world.storeCalls + calls ∧
    other.storeCalls = right.world.storeCalls + calls
  store : world.store.AgreesOn (ownKeys username domain) other.store

namespace InStep

variable {transfer : String → String} {username domain : String} {left right : Site}
  {world other : World}

theorem start (agrees : left.AgreesAbout transfer username domain right) :
    InStep username domain left right left.world right.world :=
  ⟨.refl _ _, .refl _ _, ⟨[], rfl, rfl⟩, ⟨0, rfl, rfl⟩, agrees.store⟩

theorem counted (inStep : InStep username domain left right world other) (event : Event) :
    InStep username domain left right (world.counted event) (other.counted event) :=
  ⟨inStep.here.counted event, inStep.there.counted event, inStep.requested, inStep.storeCalls,
    inStep.store⟩

theorem countedRequest (inStep : InStep username domain left right world other)
    (kind outcome : String) :
    InStep username domain left right (world.countedRequest kind outcome)
      (other.countedRequest kind outcome) :=
  ⟨inStep.here.countedRequest kind outcome, inStep.there.countedRequest kind outcome,
    inStep.requested, inStep.storeCalls, inStep.store⟩

theorem called (inStep : InStep username domain left right world other) :
    InStep username domain left right world.called other.called := by
  obtain ⟨calls, here, there⟩ := inStep.storeCalls
  refine ⟨inStep.here.called, inStep.there.called, inStep.requested, ⟨calls + 1, ?_, ?_⟩,
    inStep.store⟩
  · rw [World.called, here, Nat.add_assoc]
  · rw [World.called, there, Nat.add_assoc]

theorem asked (inStep : InStep username domain left right world other) (url : Url) :
    InStep username domain left right (world.asked url) (other.asked url) := by
  obtain ⟨asked, here, there⟩ := inStep.requested
  refine ⟨inStep.here.asked url, inStep.there.asked url, ⟨url :: asked, ?_, ?_⟩,
    inStep.storeCalls, inStep.store⟩
  · rw [World.requested_asked, here, List.cons_append]
  · rw [World.requested_asked, there, List.cons_append]

/-! ### What both sites are told -/

section

variable (agrees : left.AgreesAbout transfer username domain right)

include agrees

theorem now_eq (inStep : InStep username domain left right world other) : other.now = world.now := by
  rw [inStep.there.now, agrees.now, inStep.here.now]

theorem transport_eq (inStep : InStep username domain left right world other) (url : Url) :
    right.surroundings.transport other.requested url =
      left.surroundings.transport world.requested url := by
  obtain ⟨asked, here, there⟩ := inStep.requested
  rw [here, there, agrees.transport]

theorem storeFailure_eq (inStep : InStep username domain left right world other)
    (operation : StoreOperation) :
    right.surroundings.storeFailure operation other.storeCalls =
      left.surroundings.storeFailure operation world.storeCalls := by
  obtain ⟨calls, here, there⟩ := inStep.storeCalls
  rw [here, there, agrees.storeFailure]

theorem recalls_eq (inStep : InStep username domain left right world other) {key : String}
    (member : key ∈ ownKeys username domain) :
    other.recalls right.surroundings key = world.recalls left.surroundings key := by
  rw [World.recalls, World.recalls, inStep.storeFailure_eq agrees, inStep.now_eq agrees,
    inStep.store.get?_eq member]

theorem remembering (inStep : InStep username domain left right world other) {key : String}
    (member : key ∈ ownKeys username domain) (seconds : Nat) :
    (other.remembering right.surroundings key seconds).1 =
        (world.remembering left.surroundings key seconds).1 ∧
      InStep username domain left right (world.remembering left.surroundings key seconds).2
        (other.remembering right.surroundings key seconds).2 := by
  have here := inStep.here.remembering left.surroundings member seconds
  have there := inStep.there.remembering right.surroundings member seconds
  have called := inStep.called
  unfold World.remembering at here there ⊢
  rw [inStep.storeFailure_eq agrees, inStep.now_eq agrees] at there ⊢
  split
  · exact ⟨rfl, inStep⟩
  · rename_i lasts
    rw [if_neg lasts] at here there
    cases failing : left.surroundings.storeFailure .set world.storeCalls with
    | some failure => exact ⟨rfl, called⟩
    | none =>
      rw [failing] at here there
      rcases inStep.store.set?_cases world.now seconds key "1" with
        ⟨none, noneThere⟩ | ⟨after, otherAfter, set, setThere, agreeing⟩
      · rw [none, noneThere]
        exact ⟨rfl, called⟩
      · rw [set] at here
        rw [setThere] at there
        rw [set, setThere]
        exact ⟨rfl, here, there, called.requested, called.storeCalls, agreeing⟩

theorem declaring (inStep : InStep username domain left right world other) :
    (other.declaring right.surroundings domain).1 = (world.declaring left.surroundings domain).1 ∧
      InStep username domain left right (world.declaring left.surroundings domain).2
        (other.declaring right.surroundings domain).2 := by
  unfold World.declaring
  cases declarationUrl domain with
  | error fault => exact ⟨rfl, inStep⟩
  | ok url =>
    dsimp only
    rw [inStep.transport_eq agrees]
    exact ⟨rfl, inStep.asked url⟩

/-! ### Asking in step -/

/-- Discovering the instance gives the same on both sides. -/
theorem run_discover (inStep : InStep username domain left right world other) (windows : Windows) :
    let here := (discover windows domain).toProgram.run left.surroundings world
    let there := (discover windows domain).toProgram.run right.surroundings other
    there.1 = here.1 ∧ InStep username domain left right here.2 there.2 := by
  have member : cooldownKey domain ∈ ownKeys username domain := List.mem_cons_self
  have declared := inStep.called.declaring agrees
  dsimp only
  rw [Resolution.run_discover, Resolution.run_discover, inStep.recalls_eq agrees member]
  split
  · exact ⟨rfl, inStep.called⟩
  · generalize world.called.declaring left.surroundings domain = here at declared ⊢
    generalize other.called.declaring right.surroundings domain = there at declared ⊢
    obtain ⟨result, after⟩ := here
    obtain ⟨sameResult, otherAfter⟩ := there
    obtain ⟨same, onward⟩ := declared
    dsimp only at same onward
    subst same
    rcases sameResult with fault | declaration
    · obtain ⟨sameFate, left⟩ := (onward.countedRequest "discovery" "error").remembering agrees member
        windows.discoveryCooldown
      dsimp only
      rw [sameFate]
      exact ⟨rfl, left⟩
    · dsimp only
      split
      · obtain ⟨sameFate, left⟩ := (onward.countedRequest "discovery" "ok").remembering agrees member
          windows.discoveryCooldown
        rw [sameFate]
        exact ⟨rfl, left⟩
      · exact ⟨rfl, onward.countedRequest "discovery" "ok"⟩

/-- Looking the user up gives the same on both sides. -/
theorem run_askProfile (inStep : InStep username domain left right world other) :
    let here := (askProfile username domain).toProgram.run left.surroundings world
    let there := (askProfile username domain).toProgram.run right.surroundings other
    there.1 = here.1 ∧ InStep username domain left right here.2 there.2 := by
  dsimp only
  rw [Resolution.run_askProfile, Resolution.run_askProfile]
  cases Profile.lookupUrl domain (lower username) with
  | error failure => exact ⟨rfl, inStep⟩
  | ok url =>
    dsimp only
    rw [inStep.transport_eq agrees]
    exact ⟨rfl, (inStep.asked url).countedRequest "lookup" _⟩

end

end InStep

/-! ### Accepted domains -/

/-- A normal form is in lower case. -/
theorem DomainName.lower_normalize (text : String) : lower (normalize text) = normalize text := by
  rw [lower, toList_normalize, normalizeLetters, List.map_map, normalize, normalizeLetters]
  exact congrArg String.ofList (List.map_congr_left fun letter _ => toLower_toLower letter)

/-! ### Sites that end alike -/

/-- What comes of a resolution at two sites is the same up to the identifiers that were issued on the
way, and so are the rows of the domain, the short-lived values and what was requested. -/
structure EndsAlike {Result : Type} (onResult : (String → String) → Result → Result)
    (transfer : String → String) (username domain : String) (left right : Site)
    (here there : Option (Except Failure Result) × World) : Prop where
  transferred : ∃ later : String → String,
    (∀ id, IsIssued left.world.issued id → later id = transfer id) ∧
    there.1 = here.1.map (Except.map (onResult later)) ∧
    here.2.tables.AlikeAbout later domain there.2.tables
  requested : ∃ asked, here.2.requested = asked ++ left.world.requested ∧
    there.2.requested = asked ++ right.world.requested
  store : here.2.store.AgreesOn (ownKeys username domain) there.2.store

/-- An answer to a resolution under the identifiers of another server. -/
def Resolved.transferred (transfer : String → String) (resolved : Resolved) : Resolved :=
  { resolved with user := resolved.user.transferred transfer }

section

variable {transfer : String → String} {username domain : String} {left right : Site}
  {world other : World}

/-- Sites in step end alike when nothing is written. -/
theorem EndsAlike.of_inStep {Result : Type} {onResult : (String → String) → Result → Result}
    (agrees : left.AgreesAbout transfer username domain right)
    (inStep : InStep username domain left right world other)
    {result otherResult : Option (Except Failure Result)}
    (same : otherResult = result.map (Except.map (onResult transfer))) :
    EndsAlike onResult transfer username domain left right (result, world) (otherResult, other) where
  transferred := ⟨transfer, fun _ _ => rfl, same, by
    rw [inStep.here.tables, inStep.there.tables]
    exact agrees.tables⟩
  requested := inStep.requested
  store := inStep.store

/-- Sites in step that write the same end alike. -/
theorem EndsAlike.of_write (settings : RemoteSettings) (isAt : settings.domain = domain)
    (agrees : left.AgreesAbout transfer username domain right) (sound : left.world.IsSound)
    (soundThere : right.world.IsSound) (inStep : InStep username domain left right world other)
    (fields : StubFields) :
    let write := fun world : World => world.changeTables 2 (Tables.putRemoteUser settings fields
      (identifier world.issued) (identifier (world.issued + 1)) world.time)
    EndsAlike User.transferred transfer username domain left right
      (some (write world).1, (write world).2) (some (write other).1, (write other).2) := by
  dsimp only
  subst isAt
  have sameTime : other.time = world.time := by
    rw [World.time, inStep.now_eq agrees, World.time]
  have isOpen : world.isDatabaseOpen = true := inStep.here.isDatabaseOpen.trans sound.isOpen
  have isOpenThere : other.isDatabaseOpen = true :=
    inStep.there.isDatabaseOpen.trans soundThere.isOpen
  unfold World.changeTables
  rw [if_pos isOpen, if_pos isOpenThere, sameTime, inStep.here.tables, inStep.there.tables,
    inStep.here.issued, inStep.there.issued]
  dsimp only
  rcases agrees.tables.putRemoteUser sound.tables soundThere.tables fields world.time with
    ⟨failure, failed, failedThere⟩ | ⟨user, changed, otherChanged, written, writtenThere, alike⟩
  · rw [failed, failedThere]
    exact ⟨⟨transfer, fun _ _ => rfl, rfl, agrees.tables⟩, inStep.requested, inStep.store⟩
  · rw [written, writtenThere]
    refine ⟨⟨_, fun id earlier => ?_, rfl, alike⟩, inStep.requested, inStep.store⟩
    exact extendTransfer_of_isIssued transfer right.world.issued earlier

/-- Fetching the profile ends alike on both sides. -/
theorem endsAlike_run_fetch (agrees : left.AgreesAbout transfer username domain right)
    (sound : left.world.IsSound) (soundThere : right.world.IsSound)
    (inStep : InStep username domain left right world other) (windows : Windows) :
    EndsAlike User.transferred transfer username domain left right
      ((fetch windows username domain).toProgram.run left.surroundings world)
      ((fetch windows username domain).toProgram.run right.surroundings other) := by
  have discovered := inStep.run_discover agrees windows
  rw [run_fetch, run_fetch]
  generalize (discover windows domain).toProgram.run left.surroundings world = here at discovered ⊢
  generalize (discover windows domain).toProgram.run right.surroundings other = there at discovered ⊢
  obtain ⟨result, found⟩ := here
  obtain ⟨sameResult, otherFound⟩ := there
  obtain ⟨same, inStep⟩ := discovered
  dsimp only at same inStep
  subst same
  rcases sameResult with _ | failure | declaration
  · exact .of_inStep agrees inStep rfl
  · exact .of_inStep agrees inStep rfl
  · have asked := inStep.run_askProfile agrees
    dsimp only
    generalize (askProfile username domain).toProgram.run left.surroundings found = here at asked ⊢
    generalize (askProfile username domain).toProgram.run right.surroundings otherFound = there
      at asked ⊢
    obtain ⟨answer, answered⟩ := here
    obtain ⟨sameAnswer, otherAnswered⟩ := there
    obtain ⟨same, inStep⟩ := asked
    dsimp only at same inStep
    subst same
    rcases sameAnswer with _ | failure | profile | _ | _
    · exact .of_inStep agrees inStep rfl
    · exact .of_inStep agrees inStep rfl
    · exact .of_write (remoteSettings domain declaration) rfl agrees sound soundThere inStep
        (stubFields profile)
    · have member : missKey username domain ∈ ownKeys username domain :=
        List.mem_cons_of_mem _ List.mem_cons_self
      obtain ⟨sameFate, inStep⟩ := inStep.remembering agrees member windows.missLifetime
      dsimp only
      rw [sameFate]
      refine .of_inStep agrees inStep ?_
      cases (answered.remembering left.surroundings (missKey username domain) windows.missLifetime).1
        <;> rfl
    · exact .of_inStep agrees inStep rfl

/-! ### Answers -/

/-- What is known of a user under the identifiers of another server. -/
def Resolution.Cached.transferred (transfer : String → String) : Cached → Cached
  | .fresh user => .fresh (user.transferred transfer)
  | .stale user => .stale (user.transferred transfer)
  | .missing => .missing

theorem ofUser_transferred (transfer : String → String) (lifetime : Option Nat) (now : Timestamp)
    (user : User) :
    Cached.ofUser lifetime now (user.transferred transfer) =
      (Cached.ofUser lifetime now user).transferred transfer := by
  cases lifetime with
  | none => rfl
  | some seconds =>
    by_cases isFresh : user.updatedAt.elapsed now < seconds * Timestamp.perSecond
    · have here : Cached.ofUser (some seconds) now user = .fresh user := if_pos isFresh
      have there : Cached.ofUser (some seconds) now (user.transferred transfer) =
          .fresh (user.transferred transfer) := if_pos isFresh
      rw [here, there]
      rfl
    · have here : Cached.ofUser (some seconds) now user = .stale user := if_neg isFresh
      have there : Cached.ofUser (some seconds) now (user.transferred transfer) =
          .stale (user.transferred transfer) := if_neg isFresh
      rw [here, there]
      rfl

theorem settle_transferred (transfer : String → String) (domain : String) (stale : Option User)
    (result : Except Failure User) :
    settle domain (stale.map (User.transferred transfer)) (result.map (User.transferred transfer)) =
      (settle domain stale result).map (Resolved.transferred transfer) := by
  rcases result with failure | user
  · cases failure <;> cases stale <;> rfl
  · rfl

/-- The same is known of the user on both sides. -/
theorem stubFound_eq (agrees : left.AgreesAbout transfer username domain right)
    (sound : left.world.IsSound) (soundThere : right.world.IsSound)
    (lifetime : Option Nat) :
    right.world.stubFound lifetime username domain =
      (left.world.stubFound lifetime username domain).map (Cached.transferred transfer) := by
  unfold World.stubFound World.readTables
  have sameTime : right.world.time = left.world.time := by
    rw [World.time, agrees.now, World.time]
  rw [if_pos sound.isOpen, if_pos soundThere.isOpen, sameTime]
  dsimp only
  rw [agrees.tables.stub?_eq soundThere.tables username]
  cases left.world.tables.stub? username domain with
  | none => rfl
  | some user => exact congrArg Except.ok (ofUser_transferred transfer lifetime left.world.time user)

/-- A profile to fall back on is one of the tables. -/
theorem mem_of_stubFound {lifetime : Option Nat} {cached : Cached} {user : User}
    (found : world.stubFound lifetime username domain = .ok cached)
    (isStale : cached.stale? = some user) : user ∈ world.tables.users := by
  unfold World.stubFound World.readTables at found
  split at found
  · cases stub : world.tables.stub? username domain with
    | none =>
      simp only [stub, Except.map, Except.ok.injEq] at found
      rw [← found] at isStale
      cases isStale
    | some known =>
      simp only [stub, Except.map, Except.ok.injEq] at found
      have isKnown : known = user := by
        unfold Cached.ofUser at found
        split at found
        · rw [← found] at isStale
          cases isStale
        · split at found
          · rw [← found] at isStale
            cases isStale
          · rw [← found] at isStale
            exact Option.some_inj.mp isStale
      exact Tables.mem_of_stub? (isKnown ▸ stub)
  · cases found

/-- A fetch that may fall back on a profile ends alike on both sides. -/
theorem endsAlike_settle (agrees : left.AgreesAbout transfer username domain right)
    (sound : left.world.IsSound) (soundThere : right.world.IsSound)
    (inStep : InStep username domain left right world other) (windows : Windows)
    (stale : Option User) (isThere : ∀ user, stale = some user → user ∈ left.world.tables.users) :
    let here := (fetch windows username domain).toProgram.run left.surroundings world
    let there := (fetch windows username domain).toProgram.run right.surroundings other
    EndsAlike Resolved.transferred transfer username domain left right
      (here.1.map (settle domain stale), here.2)
      (there.1.map (settle domain (stale.map (User.transferred transfer))), there.2) := by
  obtain ⟨⟨later, same, result, alike⟩, requested, store⟩ :=
    endsAlike_run_fetch agrees sound soundThere inStep windows
  dsimp only
  refine ⟨⟨later, same, ?_, alike⟩, requested, store⟩
  have sameStale : stale.map (User.transferred transfer) = stale.map (User.transferred later) := by
    cases stale with
    | none => rfl
    | some user => exact congrArg some (sound.tables.transferred_eq same (isThere user rfl)).symm
  rw [result, sameStale, Option.map_map, Option.map_map]
  exact congrArg (Option.map · _) (funext fun outcome => settle_transferred later domain stale outcome)

/-- Resolving the user at the other instance ends alike on both sides. -/
theorem endsAlike_run_resolveRemote (agrees : left.AgreesAbout transfer username domain right)
    (sound : left.world.IsSound) (soundThere : right.world.IsSound) (windows : Windows) :
    EndsAlike Resolved.transferred transfer username domain left right
      ((resolveRemote windows username domain).toProgram.run left.surroundings left.world)
      ((resolveRemote windows username domain).toProgram.run right.surroundings right.world) := by
  have missed := (InStep.start agrees).counted (.cacheAccess "user_stub" false)
  have member : missKey username domain ∈ ownKeys username domain :=
    List.mem_cons_of_mem _ List.mem_cons_self
  rw [run_resolveRemote, run_resolveRemote, stubFound_eq agrees sound soundThere]
  cases found : left.world.stubFound windows.stubLifetime username domain with
  | error failure => exact .of_inStep agrees (.start agrees) rfl
  | ok cached =>
    cases cached with
    | fresh user => exact .of_inStep agrees ((InStep.start agrees).counted _) rfl
    | stale user =>
      simp only [Except.map, Cached.transferred]
      rw [missed.recalls_eq agrees member]
      split
      · exact .of_inStep agrees missed.called rfl
      · refine endsAlike_settle agrees sound soundThere missed.called windows (some user) ?_
        exact fun known same => mem_of_stubFound found same
    | missing =>
      simp only [Except.map, Cached.transferred]
      rw [missed.recalls_eq agrees member]
      split
      · exact .of_inStep agrees missed.called rfl
      · exact endsAlike_settle agrees sound soundThere missed.called windows none (by simp)

/-- Permission is given on both sides or on neither. -/
theorem permission_eq (agrees : left.AgreesAbout transfer username domain right)
    (sound : left.world.IsSound) (soundThere : right.world.IsSound) {domainText : String}
    (normal : DomainName.normalize domainText = domain) :
    right.world.permission right.service.home.id domainText =
      left.world.permission left.service.home.id domainText := by
  unfold World.permission World.readTables
  simp only [if_pos sound.isOpen, if_pos soundThere.isOpen, normal, agrees.mode, agrees.peer]

/-- Counting the resolution in the end makes no difference. -/
theorem EndsAlike.of_resolveHandle {text : String}
    (ends : EndsAlike Resolved.transferred transfer username domain left right
      ((resolveHandle left.service (Handle.read text)).toProgram.run left.surroundings left.world)
      ((resolveHandle right.service (Handle.read text)).toProgram.run right.surroundings right.world)) :
    EndsAlike Resolved.transferred transfer username domain left right (left.resolve text)
      (right.resolve text) := by
  obtain ⟨result, requested, tables, store⟩ :=
    Service.run_resolve_counts left.surroundings left.service text left.world
  obtain ⟨resultThere, requestedThere, tablesThere, storeThere⟩ :=
    Service.run_resolve_counts right.surroundings right.service text right.world
  unfold Site.resolve
  refine ⟨?_, ?_, ?_⟩
  · rw [result, resultThere, tables, tablesThere]
    exact ends.transferred
  · rw [requested, requestedThere]
    exact ends.requested
  · rw [store, storeThere]
    exact ends.store

/-- Resolving a handle of the domain ends alike at two reached sites. -/
theorem endsAlike_resolve (agrees : left.AgreesAbout transfer username domain right)
    (reachable : left.IsReachable) (reachableThere : right.IsReachable) {text domainText : String}
    (reads : Handle.read text = ⟨username, some domainText⟩)
    (accepted : DomainName.validate left.service.blocked domainText = .ok domain)
    (isForeign : domain ≠ left.service.domain) :
    EndsAlike Resolved.transferred transfer username domain left right (left.resolve text)
      (right.resolve text) := by
  have sound := reachable.isReachable.isSound
  have soundThere := reachableThere.isReachable.isSound
  have normal := DomainName.normalize_of_validate accepted
  have isForeignThere : domain ≠ right.service.domain := by
    intro isHome
    have nulFree : IsNulFree right.service.domain := isHome ▸ DomainName.isNulFree_of_validate accepted
    have sameName : nameKey left.service.domain = nameKey right.service.domain := by
      rw [Service.IsReachable.nameKey_domain reachable, ← agrees.configuration,
        Service.IsReachable.nameKey_domain reachableThere]
    have sameDomain := (nameKey_eq_iff_of_isNulFree nulFree).mp sameName
    rw [Service.IsReachable.lower_domain reachable, Service.IsReachable.lower_domain reachableThere]
      at sameDomain
    exact isForeign (isHome.trans sameDomain.symm)
  have sameBlocked : right.service.blocked = left.service.blocked := by
    rw [Service.blocked, agrees.configuration, Service.blocked]
  have sameWindows : right.service.windows = left.service.windows := by
    rw [Service.windows, agrees.configuration, Service.windows]
  have foreign : foreignDomain? left.service ⟨username, some domainText⟩ = some domainText :=
    foreignDomain?_eq_some_iff.mpr ⟨rfl, normal ▸ isForeign⟩
  have foreignThere : foreignDomain? right.service ⟨username, some domainText⟩ = some domainText :=
    foreignDomain?_eq_some_iff.mpr ⟨rfl, normal ▸ isForeignThere⟩
  refine .of_resolveHandle ?_
  rw [reads, run_resolveHandle, run_resolveHandle]
  dsimp only
  rw [foreign, foreignThere]
  dsimp only
  rw [permission_eq agrees sound soundThere normal, sameBlocked, sameWindows]
  have start := InStep.start agrees
  cases Username.validate username with
  | error failure => exact .of_inStep agrees start rfl
  | ok _ =>
    dsimp only
    cases left.world.permission left.service.home.id domainText with
    | error failure => exact .of_inStep agrees start rfl
    | ok _ =>
      dsimp only
      rw [acceptDomain_eq_ok_iff.mpr accepted]
      exact endsAlike_run_resolveRemote agrees sound soundThere left.service.windows

end

/-! ### Isolation -/

/-- At a reached site, resolving a user of an accepted domain that is not its own leaves every row
alone that is not of the domain, the accounts of the site with them, and all short-lived values but
the two of the domain and the user. And every other reached site that agrees about the domain comes to
the same result, requests the same URLs and changes the rows of the domain and the two values in the
same way, up to the identifiers that were issued. -/
theorem Site.resolve_isolates_domains {site : Site} (reachable : site.IsReachable)
    {text username domainText domain : String}
    (reads : Handle.read text = ⟨username, some domainText⟩)
    (accepted : DomainName.validate site.service.blocked domainText = .ok domain)
    (isForeign : domain ≠ site.service.domain) :
    let after := (site.resolve text).2
    (site.world.tables.LeavesElsewhere domain after.tables ∧
      after.tables.usersOf site.service.home.id = site.world.tables.usersOf site.service.home.id ∧
      site.world.store.KeepsBut (ownKeys username domain) after.store) ∧
    ∀ (transfer : String → String) (other : Site), other.IsReachable →
      site.AgreesAbout transfer username domain other →
      EndsAlike Resolved.transferred transfer username domain site other (site.resolve text)
        (other.resolve text) := by
  have reaches : Reaches domain (ownKeys username domain) site.world (site.resolve text).2 :=
    reaches_run_resolve site.surroundings site.service reads accepted site.world
  refine ⟨?_, fun transfer other reachableThere agrees =>
    endsAlike_resolve agrees reachable reachableThere reads accepted isForeign⟩
  generalize (site.resolve text).2 = after at reaches ⊢
  have elsewhere : site.world.tables.LeavesElsewhere domain after.tables := by
    rcases reaches.tables with same | ⟨settings, fields, user, rfl, written⟩
    · rw [same]
      exact .refl domain site.world.tables
    · exact Tables.leavesElsewhere_putRemoteUser reachable.isReachable.isSound.tables
        (DomainName.isNulFree_of_validate accepted) written
  refine ⟨elsewhere, ?_, reaches.store⟩
  refine elsewhere.users _ (Service.IsReachable.address reachable) ?_
  rw [← DomainName.normalize_of_validate accepted, DomainName.lower_normalize,
    DomainName.normalize_of_validate accepted]
  exact isForeign.symm

/-! ### Two sites -/

/-- The settings of a site at a domain with nothing out of the ordinary. -/
def Configuration.plain (domain : String) : Configuration where
  service := ⟨domain, "127.0.0.1", 8080, domain, "key", serverVersion⟩
  storage := ⟨"data", "federation.db"⟩
  federation := .standard
  cache := .standard
  logLevel := "info"

/-- Surroundings in which no other instance answers and nothing else fails. -/
def Surroundings.silent : Surroundings where
  transport _ _ := .error .timeout
  storeFailure _ _ := none
  directoryFault _ := none
  listenFault _ := none
  hostMetrics := []

/-- A site that has just started, where nobody has an account. -/
def Site.empty : Site :=
  .atStart (.plain "home.example") .silent (.memory .empty) 0

/-- The account of somebody at that site. -/
def Site.bob : User :=
  ⟨identifier 1, Site.empty.service.home.id, none, "bob", none, none, none, .ofNanoseconds 0,
    .ofNanoseconds 0⟩

/-- The same site after somebody got an account. -/
def Site.inhabited : Site :=
  { Site.empty with
    world := { Site.empty.world with
      tables := { Site.empty.world.tables with users := [Site.bob] }
      issued := 2 } }

theorem Site.isReachable_inhabited : Site.inhabited.IsReachable := by
  have isThere : Site.empty.world.tables.hasInstance Site.empty.service.home.id = true :=
    Tables.hasInstance_of_mem List.mem_cons_self
  have registered : Site.empty.world.tables.register Site.empty.service.home.id "bob" none
      (identifier Site.empty.world.issued) (.ofNanoseconds 0) =
      .ok (Site.bob, Site.inhabited.world.tables) := by
    unfold Tables.register
    exact if_pos isThere
  have reachable : Site.empty.IsReachable := isReachable_atStart _ _ _ _
  have carried := Service.IsReachable.carriedOut reachable .silent
    (.writeAccount Site.empty.service.home.id "bob" none (.ofNanoseconds 0))
  rw [World.carryOut_writeAccount] at carried
  dsimp only at carried
  rwa [World.changeTables_of_ok rfl registered] at carried

/-- A domain without an instance looks the same from both sites. -/
theorem Site.empty_agreesAbout_inhabited :
    Site.empty.AgreesAbout id "alice" "other.example" Site.inhabited := by
  have nobody : Site.empty.world.tables.instanceAt? "other.example" = none := by decide
  refine ⟨rfl, rfl, rfl, rfl, ⟨?_, ?_⟩, .memory fun _ _ => rfl, fun _ _ => rfl, fun _ _ => rfl⟩
  · rw [nobody]
    exact nobody
  · rw [nobody]
    simp

/-- The two sites are reached, accept the domain, and so end alike. -/
theorem Site.isolates_domains_empty_inhabited :
    Site.empty.IsReachable ∧ Site.inhabited.IsReachable ∧
    Handle.read "alice@other.example" = ⟨"alice", some "other.example"⟩ ∧
    DomainName.validate Site.empty.service.blocked "other.example" = .ok "other.example" ∧
    "other.example" ≠ Site.empty.service.domain ∧
    Site.empty.AgreesAbout id "alice" "other.example" Site.inhabited ∧
    Site.empty.world.tables.LeavesElsewhere "other.example"
      (Site.empty.resolve "alice@other.example").2.tables ∧
    EndsAlike Resolved.transferred id "alice" "other.example" Site.empty Site.inhabited
      (Site.empty.resolve "alice@other.example") (Site.inhabited.resolve "alice@other.example") := by
  have reachable : Site.empty.IsReachable := isReachable_atStart _ _ _ _
  have reachableThere := Site.isReachable_inhabited
  have reads : Handle.read "alice@other.example" = ⟨"alice", some "other.example"⟩ := by decide
  have accepted : DomainName.validate Site.empty.service.blocked "other.example" =
      .ok "other.example" := by decide
  have isForeign : "other.example" ≠ Site.empty.service.domain := by decide
  have isolated := Site.resolve_isolates_domains reachable reads accepted isForeign
  exact ⟨reachable, reachableThere, reads, accepted, isForeign, Site.empty_agreesAbout_inhabited,
    isolated.1.1, isolated.2 id Site.inhabited reachableThere Site.empty_agreesAbout_inhabited⟩

end HandleFederation
