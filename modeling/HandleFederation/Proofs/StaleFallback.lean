/-
This file says how a resolution of a user who is known already is answered. Whatever the
other instance does, there is an answer, and it is not that the lookup failed: a stub
that is fresh, the news that the user is gone, the stub on top of which a new profile was
written, and in all other cases the stub as it is. The faults of the two requests lead
here in one way only, through the finding of the resolution, and a domain that is
accepted leaves none of them without a fallback: where the instance can be asked for its
declaration it can be asked for the user too.
-/

import HandleFederation.Proofs.ContactedHost
import HandleFederation.Proofs.Convergence
import HandleFederation.Proofs.Finding

namespace HandleFederation

open Program Resolution Text

/-! ### What the answer depends on -/

namespace World

/-- A user is missing: that is remembered, or it is what the instance answers, unless the instance is
left alone for the moment. -/
def IsMissing (surroundings : Surroundings) (username domain : String) (world : World) : Prop :=
  world.recalls surroundings (missKey username domain) = true ∨
    world.called.recalls surroundings (cooldownKey domain) = false ∧
      IsDenied surroundings domain username world.requested

/-- The instance is not left alone for the moment, and it declares itself and answers for the user. -/
structure IsHeard (surroundings : Surroundings) (username domain : String) (world : World)
    (declaration : Declaration) (profile : Profile) : Prop where
  notCooling : world.called.recalls surroundings (cooldownKey domain) = false
  answered : IsAnswered surroundings domain username world.requested declaration profile

/-- The store can keep a value for so many seconds: there is a point of time that late. -/
def CanKeep (seconds : Nat) (world : World) : Prop :=
  ∀ key value, (world.store.set? world.now key value seconds).isSome = true

end World

/-- An action is a resolution of a user at a domain that the site accepts: of a handle that it admits, or
of the username at the domain, once the domain was let through. -/
inductive Site.AsksFor (site : Site) (username domain : String) : Windows → Action Resolved → Prop
  | ofHandle {text : String} (admits : site.service.Admits site.world text username domain) :
    AsksFor site username domain site.service.windows (site.service.resolve text)
  | direct (windows : Windows)
    (accepted : DomainName.validate site.service.blocked domain = .ok domain) :
    AsksFor site username domain windows (resolveRemote windows username domain)

/-- What a resolution of a user comes to when there is a stub: the answer, and the tables afterwards. Each
of the four ways excludes the others. -/
inductive Site.KnownAnswer (site : Site) (windows : Windows) (username domain : String) (user : User) :
    Except Failure Resolved → Tables → Prop
  | fresh (isFresh : user.IsFresh windows.stubLifetime site.world.time) :
    KnownAnswer site windows username domain user (.ok ⟨user, domain, .cache⟩) site.world.tables
  | missing (isStale : ¬ user.IsFresh windows.stubLifetime site.world.time)
    (isMissing : site.world.IsMissing site.surroundings username domain) :
    KnownAnswer site windows username domain user
      (.error (.userNotFound (fullName username domain))) site.world.tables
  | renewed (isStale : ¬ user.IsFresh windows.stubLifetime site.world.time)
    (notMissing : ¬ site.world.IsMissing site.surroundings username domain)
    {declaration : Declaration} {profile : Profile}
    (isHeard : site.world.IsHeard site.surroundings username domain declaration profile)
    {changed : Tables} (isWritten : changed.stub? username domain =
      some (Tables.refreshStub (stubFields profile) site.world.time user)) :
    KnownAnswer site windows username domain user
      (.ok ⟨Tables.refreshStub (stubFields profile) site.world.time user, domain, .remote⟩) changed
  | stale (isStale : ¬ user.IsFresh windows.stubLifetime site.world.time)
    (notMissing : ¬ site.world.IsMissing site.surroundings username domain)
    (notHeard : ∀ declaration profile,
      ¬ site.world.IsHeard site.surroundings username domain declaration profile) :
    KnownAnswer site windows username domain user (.ok ⟨user, domain, .staleCache⟩) site.world.tables

namespace Site.KnownAnswer

variable {site : Site} {windows : Windows} {username domain : String} {user : User}
  {answer : Except Failure Resolved} {after : Tables}

/-- Nobody is told that a lookup failed. -/
theorem ne_remoteLookupFailed (known : site.KnownAnswer windows username domain user answer after)
    (name : String) : answer ≠ .error (.remoteLookupFailed name) := by
  cases known <;> exact nofun

/-- It is said that there is no such user just when the user is missing and the stub is not fresh. -/
theorem userNotFound_iff (known : site.KnownAnswer windows username domain user answer after) :
    (∃ detail, answer = .error (.userNotFound detail)) ↔
      ¬ user.IsFresh windows.stubLifetime site.world.time ∧
        site.world.IsMissing site.surroundings username domain := by
  cases known with
  | fresh isFresh => exact iff_of_false nofun fun both => both.1 isFresh
  | missing isStale isMissing => exact iff_of_true ⟨_, rfl⟩ ⟨isStale, isMissing⟩
  | renewed _ notMissing => exact iff_of_false nofun fun both => notMissing both.2
  | stale _ notMissing => exact iff_of_false nofun fun both => notMissing both.2

/-- A profile is given as fetched just when the instance answers with it, the user is not missing and
the stub is not fresh. -/
theorem remote_iff (known : site.KnownAnswer windows username domain user answer after) :
    (∃ resolved, answer = .ok resolved ∧ resolved.source = .remote) ↔
      ¬ user.IsFresh windows.stubLifetime site.world.time ∧
        ¬ site.world.IsMissing site.surroundings username domain ∧
        ∃ declaration profile,
          site.world.IsHeard site.surroundings username domain declaration profile := by
  cases known with
  | fresh isFresh => exact iff_of_false (by rintro ⟨_, ⟨⟩, ⟨⟩⟩) fun all => all.1 isFresh
  | missing _ isMissing => exact iff_of_false (by rintro ⟨_, ⟨⟩, _⟩) fun all => all.2.1 isMissing
  | renewed isStale notMissing isHeard =>
    exact iff_of_true ⟨_, rfl, rfl⟩ ⟨isStale, notMissing, _, _, isHeard⟩
  | stale _ _ notHeard =>
    refine iff_of_false (by rintro ⟨_, ⟨⟩, ⟨⟩⟩) ?_
    rintro ⟨-, -, declaration, profile, isHeard⟩
    exact notHeard declaration profile isHeard

end Site.KnownAnswer

/-! ### From what is found out to the answer -/

namespace World

variable {surroundings : Surroundings} {windows : Windows} {username domain : String} {world : World}

/-- In memory a value can be kept until any point of time that there is. -/
theorem canKeep_of_isSome_expiry? {entries : TimedEntries} {seconds : Nat}
    (isMemory : world.store = .memory entries)
    (hasTime : (TimedEntries.expiry? world.now seconds).isSome = true) : world.CanKeep seconds := by
  intro key value
  rw [isMemory]
  exact Option.isSome_map.trans hasTime

/-- What can be kept leaves the server at work. -/
theorem keeping_eq_some {memo : Option (String × Nat)}
    (canKeep : ∀ kept ∈ memo, world.CanKeep kept.2) :
    (world.keeping surroundings memo).1 = some () := by
  cases memo with
  | none => rfl
  | some kept =>
    obtain ⟨store, set⟩ := Option.isSome_iff_exists.mp (canKeep kept rfl kept.1 "1")
    unfold keeping remembering
    dsimp only
    split
    · rfl
    · split
      · rfl
      · rw [set]

end World

/-- A finding is remembered for one of the two windows. -/
theorem Finding.memo_mem {windows : Windows} {username domain : String} {finding : Finding}
    {kept : String × Nat} (isMemo : kept ∈ finding.memo windows username domain) :
    kept.2 ∈ [windows.missLifetime, windows.discoveryCooldown] := by
  cases finding <;> cases isMemo
  · exact List.mem_cons_of_mem _ (List.mem_singleton_self _)
  · exact List.mem_cons_self

/-- If what is found out can be remembered, the result is the one that it settles. -/
theorem Finding.Settles.result_eq {Result : Type} {surroundings : Surroundings} {windows : Windows}
    {username domain : String} {world called : World} {finding : Finding} {result : Except Failure Result}
    {outcome : Option (Except Failure Result) × World}
    (settles : finding.Settles surroundings windows username domain world called result outcome)
    (canKeep : ∀ seconds ∈ [windows.missLifetime, windows.discoveryCooldown], called.CanKeep seconds) :
    outcome.1 = some result := by
  have kept : (called.keeping surroundings (finding.memo windows username domain)).1 = some () :=
    World.keeping_eq_some fun kept isMemo => canKeep kept.2 (Finding.memo_mem isMemo)
  rw [settles.result, kept]
  rfl

namespace Site

variable {site : Site} {windows : Windows} {username domain : String} {user : User}

/-- What the instance has to say about a user who is known settles the answer. -/
theorem knownAnswer_of_inquiry (sound : site.world.IsSound)
    (distinct : site.world.tables.HasDistinctDomains)
    (accepted : DomainName.validate site.service.blocked domain = .ok domain)
    (isKnown : site.world.tables.stub? username domain = some user)
    (isStale : ¬ user.IsFresh windows.stubLifetime site.world.time)
    (notRecalled : site.world.recalls site.surroundings (missKey username domain) = false)
    (notCooling : site.world.called.recalls site.surroundings (cooldownKey domain) = false) :
    let finding := site.world.called.inquiry site.surroundings username domain
    site.KnownAnswer windows username domain user (finding.answer username domain site.world)
      (finding.tables domain site.world) := by
  have isMissing_iff : site.world.IsMissing site.surroundings username domain ↔
      site.world.called.inquiry site.surroundings username domain = .missing := by
    rw [World.IsMissing, notRecalled, notCooling, World.inquiry_eq_missing_iff]
    simp
  have isHeard_iff : ∀ declaration profile,
      site.world.IsHeard site.surroundings username domain declaration profile ↔
        site.world.called.inquiry site.surroundings username domain = .found declaration profile := by
    intro declaration profile
    rw [World.inquiry_eq_found_iff]
    exact ⟨fun isHeard => isHeard.answered, fun answered => ⟨notCooling, answered⟩⟩
  have fallback : ∀ finding, site.world.called.inquiry site.surroundings username domain = finding →
      finding ≠ .missing → (∀ declaration profile, finding ≠ .found declaration profile) →
      site.KnownAnswer windows username domain user (.ok ⟨user, domain, .staleCache⟩)
        site.world.tables := by
    intro finding said notMissing notFound
    refine .stale isStale ?_ fun declaration profile => ?_
    · rw [isMissing_iff, said]
      exact notMissing
    · rw [isHeard_iff, said]
      exact notFound declaration profile
  dsimp only
  rcases World.inquiry_cases site.surroundings username domain site.world.called with
    said | said | said | ⟨first, failure, declaredAt, noLookup, -⟩ | ⟨declaration, profile, said⟩
  · rw [said, Finding.answer_eq_settle .undiscovered nofun, isKnown]
    exact fallback _ said nofun fun _ _ => nofun
  · rw [said, Finding.answer_eq_settle .unusable nofun, isKnown]
    exact fallback _ said nofun fun _ _ => nofun
  · rw [said]
    exact .missing isStale (isMissing_iff.mpr said)
  · obtain ⟨second, lookedUpAt⟩ := DomainName.exists_lookupUrl (DomainName.isPlain_of_validate accepted)
      declaredAt (lower username)
    rw [lookedUpAt] at noLookup
    cases noLookup
  · have isHeard := (isHeard_iff declaration profile).mpr said
    obtain ⟨_, _, -, -, -, answered⟩ := isHeard.answered.asked
    obtain ⟨changed, written, isWritten⟩ := Tables.exists_putRemoteUser_of_stub? sound.tables distinct
      isKnown (lower_username_of_found answered) declaration site.world.time
    have isResult : site.world.written domain declaration profile =
        .ok (Tables.refreshStub (stubFields profile) site.world.time user, changed) := written
    rw [said, Finding.answer_eq_settle (.found declaration profile) nofun, Finding.profile, Finding.tables,
      isResult, isKnown]
    refine .renewed isStale ?_ isHeard isWritten
    rw [isMissing_iff, said]
    exact nofun

/-- What a resolution of a user who is known finds out settles the answer. -/
theorem knownAnswer_of_finding (sound : site.world.IsSound)
    (distinct : site.world.tables.HasDistinctDomains)
    (accepted : DomainName.validate site.service.blocked domain = .ok domain)
    (isKnown : site.world.tables.stub? username domain = some user) :
    let finding := site.world.finding site.surroundings windows username domain
    site.KnownAnswer windows username domain user (finding.answer username domain site.world)
      (finding.tables domain site.world) := by
  dsimp only
  by_cases isFresh : user.IsFresh windows.stubLifetime site.world.time
  · rw [World.finding_of_isFresh isKnown isFresh]
    exact .fresh isFresh
  · have notFresh : ∀ known ∈ site.world.tables.stub? username domain,
        ¬ known.IsFresh windows.stubLifetime site.world.time := by
      intro known isStub
      rw [isKnown] at isStub
      cases isStub
      exact isFresh
    rw [World.finding_of_not_isFresh notFresh]
    split
    · rename_i recalled
      exact .missing isFresh (Or.inl recalled)
    · rename_i notRecalled
      unfold World.attempt
      split
      · rename_i cooling
        rw [Finding.answer_eq_settle .cooling nofun, isKnown]
        refine .stale isFresh ?_ fun declaration profile isHeard => ?_
        · rintro (recalled | ⟨notCooling, -⟩)
          · exact notRecalled recalled
          · rw [cooling] at notCooling
            cases notCooling
        · exact Bool.false_ne_true (isHeard.notCooling.symm.trans cooling)
      · rename_i notCooling
        exact knownAnswer_of_inquiry sound distinct accepted isKnown isFresh
          (Bool.eq_false_iff.mpr notRecalled) (Bool.eq_false_iff.mpr notCooling)

/-- What a resolution finds out settles its outcome, if what it finds out can be remembered. -/
theorem run_of_asksFor (isOpen : site.world.isDatabaseOpen = true) {action : Action Resolved}
    (asks : site.AsksFor username domain windows action)
    (canKeep : ∀ seconds ∈ [windows.missLifetime, windows.discoveryCooldown],
      site.world.CanKeep seconds) :
    let finding := site.world.finding site.surroundings windows username domain
    let outcome := action.toProgram.run site.surroundings site.world
    outcome.1 = some (finding.answer username domain site.world) ∧
      outcome.2.tables = finding.tables domain site.world := by
  have settles : (site.world.finding site.surroundings windows username domain).Settles
      site.surroundings windows username domain site.world site.world.called.called
      ((site.world.finding site.surroundings windows username domain).answer username domain site.world)
      (action.toProgram.run site.surroundings site.world) := by
    cases asks with
    | ofHandle admits => exact Service.settles_run_resolve site.surroundings isOpen admits
    | direct windows accepted => exact settles_run_resolveRemote site.surroundings windows _ _ isOpen
  exact ⟨settles.result_eq canKeep, settles.tables⟩

end Site

/-- A resolution of a user of whom there is a stub is answered whatever the other instance does, and the
answer is never that the lookup failed. It is the stub as it is if that is fresh; otherwise it is that
there is no such user, just when that is remembered or is what the instance answers; otherwise it is the
stub with what the instance answered on top of it, just when the instance declares itself and answers;
and otherwise the stub as it is once more. The tables change with a fetched profile only. -/
theorem Site.known_user_is_answered {site : Site} (reachable : site.IsReachable) {windows : Windows}
    {username domain : String} {action : Action Resolved}
    (asks : site.AsksFor username domain windows action)
    (canKeep : ∀ seconds ∈ [windows.missLifetime, windows.discoveryCooldown], site.world.CanKeep seconds)
    {user : User} (isKnown : site.world.tables.stub? username domain = some user) :
    ∃ answer after, action.toProgram.run site.surroundings site.world = (some answer, after) ∧
      site.KnownAnswer windows username domain user answer after.tables ∧
      (∀ name, answer ≠ .error (.remoteLookupFailed name)) ∧
      ((∃ detail, answer = .error (.userNotFound detail)) ↔
        ¬ user.IsFresh windows.stubLifetime site.world.time ∧
          site.world.IsMissing site.surroundings username domain) ∧
      ((∃ resolved, answer = .ok resolved ∧ resolved.source = .remote) ↔
        ¬ user.IsFresh windows.stubLifetime site.world.time ∧
          ¬ site.world.IsMissing site.surroundings username domain ∧
          ∃ declaration profile,
            site.world.IsHeard site.surroundings username domain declaration profile) := by
  have isReachable := Service.IsReachable.isReachable reachable
  have accepted : DomainName.validate site.service.blocked domain = .ok domain := by
    cases asks with
    | ofHandle admits => exact admits.accepted
    | direct windows accepted => exact accepted
  obtain ⟨result, tables⟩ := run_of_asksFor isReachable.isSound.isOpen asks canKeep
  have known : site.KnownAnswer windows username domain user _ _ :=
    knownAnswer_of_finding isReachable.isSound isReachable.hasDistinctDomains accepted isKnown
  rw [← tables] at known
  exact ⟨_, _, Prod.ext result rfl, known, known.ne_remoteLookupFailed, known.userNotFound_iff,
    known.remote_iff⟩

/-! ### A site that knows somebody -/

namespace Site

/-- The stub of a user whose profile was fetched at the start of time. -/
def stubOf (profile : Profile) : User :=
  Tables.newStub (identifier 1) (stubFields profile) (identifier 2) (.ofNanoseconds 0)

/-- A site at a time, where the profile of a user was fetched at the start of time, and where no other
instance answers any more. -/
def acquainted (profile : Profile) (now : Nat) : Site :=
  { empty with
    world := { empty.world with
      tables := { empty.world.tables with
        instances := empty.world.tables.instances ++
          [Tables.newRemote (remoteSettings "other.example" .plain) (identifier 1) (.ofNanoseconds 0)]
        users := [stubOf profile] }
      issued := 3
      now := now } }

theorem isReachable_acquainted (profile : Profile) (now : Nat) : (acquainted profile now).IsReachable := by
  have written : empty.world.tables.putRemoteUser (remoteSettings "other.example" .plain)
      (stubFields profile) (identifier empty.world.issued) (identifier (empty.world.issued + 1))
      (.ofNanoseconds 0) = .ok (stubOf profile, (acquainted profile now).world.tables) := rfl
  have reachable : empty.IsReachable := isReachable_atStart _ _ _ _
  have carried := Service.IsReachable.carriedOut reachable .silent
    (.writeRemoteUser (remoteSettings "other.example" .plain) (stubFields profile) (.ofNanoseconds 0))
  rw [World.carryOut_writeRemoteUser] at carried
  dsimp only at carried
  rw [World.changeTables_of_ok rfl written] at carried
  exact carried.later now (Nat.zero_le now)

theorem admits_alice (now : Nat) :
    (acquainted .alice now).service.Admits (acquainted .alice now).world "alice@other.example" "alice"
      "other.example" := by
  have reads : Handle.read "alice@other.example" = ⟨"alice", some "other.example"⟩ := by decide
  have normal : DomainName.normalize "other.example" = "other.example" := by decide
  have accepted : DomainName.validate empty.service.blocked "other.example" = .ok "other.example" := by
    decide
  have isForeign : "other.example" ≠ empty.service.domain := by decide
  exact ⟨⟨"other.example", reads, normal⟩, by decide, isForeign, rfl, accepted⟩

/-- Nobody is heard from where no other instance answers. -/
theorem not_declared_acquainted (profile : Profile) (now : Nat) {requested : List Url} {first : Url}
    {declaration : Declaration} : Declaration.ofExchange "other.example"
      ((acquainted profile now).surroundings.transport requested first) ≠ .ok declaration := by
  exact nofun

/-- Some days later the stub is not fresh any more, and as the other instance does not answer it is the
answer all the same. -/
theorem known_alice_is_answered :
    let site := acquainted .alice 1000000000000000
    site.IsReachable ∧
      site.AsksFor "alice" "other.example" site.service.windows
        (site.service.resolve "alice@other.example") ∧
      (∀ seconds ∈ [site.service.windows.missLifetime, site.service.windows.discoveryCooldown],
        site.world.CanKeep seconds) ∧
      site.world.tables.stub? "alice" "other.example" = some (stubOf .alice) ∧
      (site.resolve "alice@other.example").1 =
        some (.ok ⟨stubOf .alice, "other.example", .staleCache⟩) := by
  intro site
  have reachable : site.IsReachable := isReachable_acquainted _ _
  have asks := AsksFor.ofHandle (admits_alice 1000000000000000)
  have canKeep : ∀ seconds ∈ [site.service.windows.missLifetime, site.service.windows.discoveryCooldown],
      site.world.CanKeep seconds := by
    have hasTime : ∀ seconds ∈ [60, 30],
        (TimedEntries.expiry? 1000000000000000 seconds).isSome = true := by decide
    exact fun seconds isWindow => World.canKeep_of_isSome_expiry? rfl (hasTime seconds isWindow)
  have isKnown : site.world.tables.stub? "alice" "other.example" = some (stubOf .alice) := rfl
  refine ⟨reachable, asks, canKeep, isKnown, ?_⟩
  obtain ⟨answer, after, run, known, -⟩ := known_user_is_answered reachable asks canKeep isKnown
  rw [resolve, show (site.service.resolve _).toProgram.run _ _ = _ from run]
  generalize after.tables = changed at known
  cases known with
  | fresh isFresh => exact absurd (isFresh 86400 rfl) (by decide)
  | missing _ isMissing =>
    rcases isMissing with recalled | ⟨-, ⟨_, _, _, _, -, -, declared, -⟩⟩
    · cases recalled
    · exact absurd declared (not_declared_acquainted _ _)
  | renewed _ _ isHeard =>
    obtain ⟨_, _, -, -, declared, -⟩ := isHeard.answered.asked
    exact absurd declared (not_declared_acquainted _ _)
  | stale => rfl

/-- A username that is not valid is refused whatever is known of it. -/
theorem resolve_of_validate_eq_error {site : Site} {text : String} {failure : Failure}
    (refused : Username.validate (Handle.read text).username = .error failure) :
    (site.resolve text).1 = some (.error failure) := by
  have counts := (Service.run_resolve_counts site.surroundings site.service text site.world).1
  rw [run_resolveHandle, refused] at counts
  exact counts

/-- There may be a fresh stub of a user whose username is not valid in a handle, since usernames are looked
up at another instance as they are and the instance may know one like it; but no handle leads to it. -/
theorem known_user_not_answered :
    let site := acquainted Query.loud 0
    site.IsReachable ∧
      site.world.tables.stub? "alice!" "other.example" = some (stubOf Query.loud) ∧
      (stubOf Query.loud).IsFresh site.service.windows.stubLifetime site.world.time ∧
      site.world.permission site.service.home.id "other.example" = .ok () ∧
      DomainName.validate site.service.blocked "other.example" = .ok "other.example" ∧
      Handle.read "alice!@other.example" = ⟨"alice!", some "other.example"⟩ ∧
      (site.resolve "alice!@other.example").1 =
        some (.error (.invalidHandle "Username contains invalid characters")) := by
  have isFresh : (stubOf Query.loud).IsFresh (some 86400) (.ofNanoseconds 0) := by
    intro seconds isLifetime
    cases isLifetime
    decide
  exact ⟨isReachable_acquainted _ _, rfl, isFresh, rfl, by decide, by decide,
    resolve_of_validate_eq_error (by decide)⟩

end Site

end HandleFederation
