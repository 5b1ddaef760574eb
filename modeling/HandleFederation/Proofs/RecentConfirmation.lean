/-
This file says what a cached answer stands for: the latest resolution of the user that
was answered by the other instance, not longer ago than the settings allow. A stub is
written by such a resolution and by nothing else, it carries the time of it, and it
goes only when the other instance says that its user has another name by now. So from
each stub that is there one can look back to the resolution that it comes from, and
from each such resolution forward for as long as the stub is fresh.
-/

import HandleFederation.Proofs.History
import HandleFederation.Proofs.StaleFallback

namespace HandleFederation

open Program Resolution Text

/-! ### The age of a stub -/

namespace Timestamp

theorem toNanoseconds_ofNanoseconds (nanoseconds : Int) :
    (ofNanoseconds nanoseconds).toNanoseconds = nanoseconds := by
  have positive : (0 : Int) < perSecond := by decide
  have rest := Int.fmod_nonneg_of_pos nanoseconds positive
  rw [toNanoseconds, ofNanoseconds]
  dsimp only
  rw [Int.toNat_of_nonneg rest, Int.mul_comm]
  exact Int.mul_fdiv_add_fmod nanoseconds perSecond

theorem elapsed_ofNanoseconds (start stop : Nat) :
    (ofNanoseconds start).elapsed (ofNanoseconds stop) = stop - start := by
  rw [elapsed, toNanoseconds_ofNanoseconds, toNanoseconds_ofNanoseconds]
  omega

end Timestamp

/-- Settings with a lifetime of so many seconds take a stub for fresh that is younger, and without one every
stub. -/
theorem FederationSettings.isFresh_iff (settings : FederationSettings) {now : Timestamp} {user : User} :
    user.IsFresh settings.windows.stubLifetime now ↔ (settings.stubLifetime ≠ 0 →
      user.updatedAt.elapsed now < settings.stubLifetime * Timestamp.perSecond) := by
  unfold User.IsFresh windows
  by_cases isZero : settings.stubLifetime = 0 <;> simp [isZero]

/-! ### Cached answers -/

/-- What is found to be fresh is a stub that is fresh. -/
theorem World.finding_eq_fresh_iff {surroundings : Surroundings} {windows : Windows}
    {username domain : String} {world : World} {user : User} :
    world.finding surroundings windows username domain = .fresh user ↔
      world.tables.stub? username domain = some user ∧ user.IsFresh windows.stubLifetime world.time := by
  refine ⟨fun isFresh => ?_, fun ⟨isKnown, isFresh⟩ => World.finding_of_isFresh isKnown isFresh⟩
  by_cases known : ∃ other, world.tables.stub? username domain = some other ∧
      other.IsFresh windows.stubLifetime world.time
  · obtain ⟨other, isKnown, otherFresh⟩ := known
    rw [World.finding_of_isFresh isKnown otherFresh] at isFresh
    cases isFresh
    exact ⟨isKnown, otherFresh⟩
  · rw [World.finding_of_not_isFresh fun other isKnown otherFresh => known ⟨other, isKnown, otherFresh⟩]
      at isFresh
    unfold World.attempt at isFresh
    split at isFresh
    · cases isFresh
    · split at isFresh
      · cases isFresh
      · rcases World.inquiry_cases surroundings username domain world.called with
          said | said | said | ⟨_, _, -, -, said⟩ | ⟨_, _, said⟩ <;>
          exact absurd (isFresh.symm.trans said) nofun

namespace Call

variable {service : Service} {call : Call} {username domain : String}

/-- A stub that is fresh is the answer, and nothing is requested. -/
theorem outcome_of_isFresh (isOpen : call.world.isDatabaseOpen = true)
    (admits : service.Admits call.world call.text username domain) {user : User}
    (isKnown : call.world.tables.stub? username domain = some user)
    (isFresh : user.IsFresh service.windows.stubLifetime call.world.time) :
    (call.outcome service).1 = some (.ok ⟨user, domain, .cache⟩) ∧
      (call.outcome service).2.requested = call.world.requested := by
  have settles := settles isOpen admits (World.finding_of_isFresh isKnown isFresh)
  exact ⟨settles.result, settles.requested⟩

/-- A cached answer is a stub that is fresh. -/
theorem isFresh_of_answer (isOpen : call.world.isDatabaseOpen = true) {user : User}
    (answer : (call.outcome service).1 = some (.ok ⟨user, domain, .cache⟩)) :
    service.Admits call.world call.text (Handle.read call.text).username domain ∧
      call.world.tables.stub? (Handle.read call.text).username domain = some user ∧
      user.IsFresh service.windows.stubLifetime call.world.time := by
  have admits : service.Admits call.world call.text (Handle.read call.text).username domain :=
    admits_of_answer isOpen answer nofun
  have result := (settles isOpen admits rfl).result
  rw [answer] at result
  obtain ⟨_, -, isAnswer⟩ := Option.map_eq_some_iff.mp result.symm
  exact ⟨admits, World.finding_eq_fresh_iff.mp ((Finding.answer_eq_ok isAnswer).2 rfl)⟩

end Call

/-! ### Resolutions that were answered -/

namespace Call

variable (service : Service) (username domain : String) (user : User) (call : Call)

/-- A resolution of a user, whatever the case of the username, gave a record that was fetched. -/
structure Confirms : Prop where
  named : lower (Handle.read call.text).username = lower username
  answer : (call.outcome service).1 = some (.ok ⟨user, domain, .remote⟩)

/-- A resolution of another user of the same instance gave a record that was fetched and has the
identifier of the user there. -/
structure Displaces : Prop where
  named : lower (Handle.read call.text).username ≠ lower username
  answer : ∃ other, (call.outcome service).1 = some (.ok ⟨other, domain, .remote⟩) ∧
    other.remoteUserId = user.remoteUserId

/-- A resolution was the latest one of the calls that gave a record of the user that was fetched, and all
resolutions that began after it found that record among the stubs. -/
structure IsLatest (calls : List Call) : Prop where
  confirms : call.Confirms service username domain user
  isLatest : ∃ later earlier, calls = later ++ call :: earlier ∧ ∀ other ∈ later,
    (∀ renewed, ¬ other.Confirms service username domain renewed) ∧
      other.world.tables.stub? username domain = some user

/-- A resolution began less than so many seconds ago, or there is no lifetime. -/
def IsRecent (lifetime now : Nat) : Prop :=
  lifetime = 0 ∨ now < call.world.now + lifetime * Timestamp.perSecond

variable {service username domain user call}

theorem IsRecent.mono {lifetime now later : Nat} (isRecent : call.IsRecent lifetime later)
    (le : now ≤ later) : call.IsRecent lifetime now :=
  isRecent.imp_right fun within => Nat.lt_of_le_of_lt le within

/-- A resolution has one answer. -/
theorem Confirms.eq_of_answer (confirms : call.Confirms service username domain user) {other : User}
    {place : String} (answer : (call.outcome service).1 = some (.ok ⟨other, place, .remote⟩)) :
    other = user ∧ place = domain := by
  have same := answer.symm.trans confirms.answer
  simp only [Option.some.injEq, Except.ok.injEq, Resolved.mk.injEq, and_true] at same
  exact same

/-- The record that a resolution gave is the stub afterwards, and carries the time of the resolution. -/
theorem Confirms.stub?_eq (confirms : call.Confirms service username domain user)
    (reachable : service.IsReachable call.world) :
    (call.outcome service).2.tables.stub? username domain = some user ∧
      user.updatedAt = call.world.time := by
  have isReachableThen := (isReachable_outcome reachable).isReachable
  rcases effect reachable with
    ⟨notRemote, -⟩ | ⟨place, declaration, profile, row, written, isUser, named, takenIn⟩
  · exact absurd rfl (notRemote _ confirms.answer)
  · obtain ⟨rfl, rfl⟩ := confirms.eq_of_answer isUser
    have isStub := takenIn.stub?_eq named isReachableThen.isSound.tables isReachableThen.hasDistinctDomains
    rw [Tables.stub?_eq_of_lower_eq confirms.named] at isStub
    exact ⟨isStub, takenIn.users.holds (fun user => user.updatedAt = _) (fun _ => rfl) rfl⟩

theorem Confirms.lower_domain (confirms : call.Confirms service username domain user)
    (reachable : service.IsReachable call.world) : lower domain = domain :=
  (admits_of_answer reachable.isReachable.isSound.isOpen confirms.answer nofun).lower_domain

/-- A stub that is there after a resolution was there before, or it is the record that the resolution gave. -/
theorem stub?_outcome_cases (reachable : service.IsReachable call.world) (isNormal : lower domain = domain)
    (found : (call.outcome service).2.tables.stub? username domain = some user) :
    call.world.tables.stub? username domain = some user ∨ call.Confirms service username domain user := by
  have isReachable := reachable.isReachable
  have isReachableThen := (isReachable_outcome reachable).isReachable
  rcases effect reachable with
    ⟨-, unchanged⟩ | ⟨place, declaration, profile, row, written, isUser, named, takenIn⟩
  · rw [← unchanged]
    exact Or.inl found
  · have admits := admits_of_answer isReachable.isSound.isOpen isUser nofun
    by_cases isSame : lower domain = lower place ∧
        lower username = lower (Handle.read call.text).username
    · obtain rfl : domain = place := isNormal.symm.trans (isSame.1.trans admits.lower_domain)
      have confirms : call.Confirms service username domain written := ⟨isSame.2.symm, isUser⟩
      obtain rfl : written = user :=
        Option.some_inj.mp ((confirms.stub?_eq reachable).1.symm.trans found)
      exact Or.inr confirms
    · exact Or.inl (takenIn.stub?_of_changed named isReachable.isSound.tables
        isReachable.hasDistinctDomains isReachableThen.isSound.tables isReachableThen.hasDistinctDomains
        (fun samePlace sameUser => isSame
          ⟨(DomainName.nameKey_eq_iff admits.accepted).mp samePlace,
            (Username.nameKey_eq_iff admits.valid).mp sameUser⟩) found)

/-- A resolution that is still the latest one to confirm a record, after another one began. -/
theorem IsLatest.cons {calls : List Call} {other : Call}
    (isLatest : call.IsLatest service username domain user calls)
    (notConfirms : ∀ renewed, ¬ other.Confirms service username domain renewed)
    (found : other.world.tables.stub? username domain = some user) :
    call.IsLatest service username domain user (other :: calls) := by
  obtain ⟨confirms, later, earlier, rfl, since⟩ := isLatest
  refine ⟨confirms, other :: later, earlier, rfl, fun another isLater => ?_⟩
  rcases List.mem_cons.mp isLater with rfl | isEarlier
  · exact ⟨notConfirms, found⟩
  · exact since another isEarlier

/-- A stub that a resolution wrote is fresh just when the resolution is recent. -/
theorem Confirms.isFresh_iff (confirms : call.Confirms service username domain user)
    (reachable : service.IsReachable call.world) {world : World} (le : call.world.now ≤ world.now) :
    user.IsFresh service.windows.stubLifetime world.time ↔
      call.IsRecent service.configuration.federation.stubLifetime world.now := by
  obtain ⟨-, written⟩ := confirms.stub?_eq reachable
  rw [Service.windows, FederationSettings.isFresh_iff, written, World.time, World.time,
    Timestamp.elapsed_ofNanoseconds, IsRecent]
  by_cases isZero : service.configuration.federation.stubLifetime = 0
  · simp [isZero]
  · have positive : 0 < service.configuration.federation.stubLifetime * Timestamp.perSecond :=
      Nat.mul_pos (Nat.pos_of_ne_zero isZero) (by decide)
    simp only [isZero, ne_eq, not_false_eq_true, forall_const, false_or]
    omega

end Call

/-! ### What stands for a stub -/

namespace Service.Ran

variable {service : Service} {fits : Surroundings → Prop} {first : World} {calls : List Call} {world : World}
  {username domain : String} {user : User}

/-- Where there were no users at first, every stub was written by a resolution, and is as that left it. -/
theorem exists_isLatest (ran : service.Ran fits first calls world)
    (reachable : service.IsReachable first) (noUsers : first.tables.users = [])
    (isNormal : lower domain = domain)
    (found : world.tables.stub? username domain = some user) :
    ∃ call : Call, call.IsLatest service username domain user calls := by
  induction ran with
  | started =>
    have isUser := Tables.mem_of_stub? found
    rw [noUsers] at isUser
    cases isUser
  | @resolved calls call ran suits inductionHypothesis =>
    have reachableThere := ran.isReachable reachable
    by_cases isConfirmed : ∃ renewed, call.Confirms service username domain renewed
    · obtain ⟨renewed, confirms⟩ := isConfirmed
      obtain rfl : renewed = user :=
        Option.some_inj.mp ((confirms.stub?_eq reachableThere).1.symm.trans found)
      exact ⟨call, confirms, [], calls, rfl, nofun⟩
    · have wasFound := (Call.stub?_outcome_cases reachableThere isNormal found).resolve_right
        fun confirms => isConfirmed ⟨user, confirms⟩
      obtain ⟨latest, isLatest⟩ := inductionHypothesis wasFound
      exact ⟨latest, isLatest.cons (fun renewed confirms => isConfirmed ⟨renewed, confirms⟩) wasFound⟩
  | did ran suits chore inductionHypothesis =>
    rw [(ran.isReachable reachable).stub?_run_chore] at found
    exact inductionHypothesis found
  | waited ran span inductionHypothesis => exact inductionHypothesis found

/-- A stub stays for as long as it is fresh, unless it is displaced. -/
theorem stub?_of_confirms (ran : service.Ran fits first calls world)
    (reachable : service.IsReachable first) {later earlier : List Call} {call : Call}
    (isCall : calls = later ++ call :: earlier) (confirms : call.Confirms service username domain user)
    (kept : ∀ other ∈ later, ¬ other.Displaces service username domain user)
    (isRecent : call.IsRecent service.configuration.federation.stubLifetime world.now) :
    world.tables.stub? username domain = some user := by
  have reachableCall := (ran.of_mem reachable (isCall ▸ List.mem_append_right _ List.mem_cons_self)).1
  refine ran.since (motive := fun world =>
    call.IsRecent service.configuration.federation.stubLifetime world.now →
      world.tables.stub? username domain = some user) reachable isCall ?after ?resolves ?does ?waits isRecent
  case after => exact fun _ => (confirms.stub?_eq reachableCall).1
  case resolves =>
    intro last isLater reachableThere le isKnown isRecent
    rw [Call.now_outcome] at isRecent
    have isKnown := isKnown isRecent
    have isReachable := reachableThere.isReachable
    have isReachableThen := (Call.isReachable_outcome reachableThere).isReachable
    have isFresh := (confirms.isFresh_iff reachableCall le).mpr isRecent
    rcases Call.effect reachableThere with
      ⟨-, unchanged⟩ | ⟨place, declaration, profile, row, written, isUser, -, takenIn⟩
    · rw [unchanged]
      exact isKnown
    · have admits : service.Admits last.world last.text (Handle.read last.text).username place :=
        Call.admits_of_answer isReachable.isSound.isOpen isUser nofun
      have isHere : nameKey domain = nameKey place → place = domain := fun same =>
        admits.lower_domain.symm.trans (((DomainName.nameKey_eq_iff admits.accepted).mp same).symm.trans
          (confirms.lower_domain reachableCall))
      -- The stub is fresh, so that nothing is fetched for its user.
      have isOther : nameKey domain = nameKey place →
          nameKey username ≠ nameKey (Handle.read last.text).username := by
        intro same sameKey
        have sameName := (Username.nameKey_eq_iff admits.valid).mp sameKey
        obtain rfl := isHere same
        rw [Tables.stub?_eq_of_lower_eq sameName] at isKnown
        rw [(Call.outcome_of_isFresh isReachable.isSound.isOpen admits isKnown isFresh).1] at isUser
        cases isUser
      have keepsId : nameKey domain = nameKey place → user.remoteUserId ≠ some profile.id := by
        intro same sameId
        have sameWritten := takenIn.carries.2.remoteUserId.trans sameId.symm
        obtain rfl := isHere same
        have isOtherName : lower (Handle.read last.text).username ≠ lower username := fun sameName =>
          isOther same (nameKey_eq_of_lower_eq sameName).symm
        exact kept last isLater ⟨isOtherName, written, isUser, sameWritten⟩
      exact takenIn.stub?_of_tables isReachable.isSound.tables isReachable.hasDistinctDomains
        isReachableThen.isSound.tables isReachableThen.hasDistinctDomains isOther keepsId isKnown
  case does =>
    intro chore surroundings between reachableThere isKnown isRecent
    rw [now_run] at isRecent
    rw [reachableThere.stub?_run_chore]
    exact isKnown isRecent
  case waits =>
    intro span between isKnown isRecent
    exact isKnown (isRecent.mono (Nat.le_add_right _ span))

/-- A cached answer stands for the latest resolution of its user that was answered by the other instance:
nothing is requested, and the record is the one that this resolution gave and that has been the stub
since; it carries the time of the resolution, which is recent. Conversely such a resolution stands for
all answers to its user, in any case of the letters, for as long as it is recent, unless a resolution
of another user of the instance was meanwhile answered with the same identifier. -/
theorem cached_answers_are_confirmed {starting : Surroundings} {store : ShortTermStore} {now : Nat}
    (started : (start service.configuration).toProgram.run starting (.fresh store now) =
      (some (.ok service), first)) (ran : service.Ran fits first calls world)
    (surroundings : Surroundings) (text : String) :
    let lifetime := service.configuration.federation.stubLifetime
    let call : Call := ⟨surroundings, world, text⟩
    (∀ user domain, (call.outcome service).1 = some (.ok ⟨user, domain, .cache⟩) →
      (call.outcome service).2.requested = world.requested ∧
      ∃ confirming : Call,
        confirming.IsLatest service (Handle.read text).username domain user calls ∧
        (confirming.outcome service).2.tables.stub? (Handle.read text).username domain = some user ∧
        user.updatedAt = confirming.world.time ∧ confirming.world.now ≤ world.now ∧
        confirming.IsRecent lifetime world.now) ∧
    ∀ (later earlier : List Call) (confirming : Call) (username domain : String) (user : User),
      calls = later ++ confirming :: earlier →
      confirming.Confirms service username domain user → confirming.IsRecent lifetime world.now →
      (∀ other ∈ later, ¬ other.Displaces service username domain user) →
      ∀ name, service.Admits world text name domain → lower name = lower username →
        (call.outcome service).1 = some (.ok ⟨user, domain, .cache⟩) ∧
          (call.outcome service).2.requested = world.requested := by
  intro lifetime call
  have reachable : service.IsReachable first := isReachable_of_run_start (.fresh store now) _ started
  have isOpen : call.world.isDatabaseOpen = true :=
    (ran.isReachable reachable).isReachable.isSound.isOpen
  refine ⟨fun user domain answer => ?_, ?_⟩
  · obtain ⟨admits, isKnown, isFresh⟩ := Call.isFresh_of_answer isOpen answer
    obtain ⟨confirming, isLatest⟩ := ran.exists_isLatest reachable (users_of_run_start_fresh started)
      admits.lower_domain isKnown
    obtain ⟨later, earlier, isCall, -⟩ := isLatest.isLatest
    obtain ⟨isReachable, le⟩ := ran.of_mem reachable
      (isCall ▸ List.mem_append_right _ List.mem_cons_self)
    obtain ⟨isStub, written⟩ := isLatest.confirms.stub?_eq isReachable
    exact ⟨(Call.outcome_of_isFresh isOpen admits isKnown isFresh).2, confirming, isLatest,
      isStub, written, le, (isLatest.confirms.isFresh_iff isReachable le).mp isFresh⟩
  · intro later earlier confirming username domain user isCall confirms isRecent kept name admits same
    obtain ⟨isReachable, le⟩ := ran.of_mem reachable
      (isCall ▸ List.mem_append_right _ List.mem_cons_self)
    have isKnown := ran.stub?_of_confirms reachable isCall confirms kept isRecent
    rw [← Tables.stub?_eq_of_lower_eq same] at isKnown
    exact Call.outcome_of_isFresh isOpen admits isKnown
      ((confirms.isFresh_iff isReachable le).mpr isRecent)

end Service.Ran

/-! ### A site that has asked -/

namespace Site

/-- The first resolution at a site where another instance answers for its user. -/
def asking : Call :=
  ⟨elsewhere.surroundings, elsewhere.world, "alice@other.example"⟩

/-- What the site has come to a minute later. -/
def minuteLater : World :=
  (asking.outcome elsewhere.service).2.waited 60000000000

/-- A resolution of the same user at that time, when no other instance answers any more. -/
def askingAgain : Call :=
  ⟨.silent, minuteLater, "ALICE@Other.Example"⟩

theorem run_start_asking : (Service.start elsewhere.service.configuration).toProgram.run
    elsewhere.surroundings (.fresh (.memory .empty) 0) =
      (some (.ok elsewhere.service), asking.world) := by
  have noPeers : (Configuration.plain "home.example").federation.allowedPeers = [] := rfl
  exact run_start noPeers elsewhere.surroundings (.memory .empty) 0

theorem exists_confirms_asking :
    ∃ user, asking.Confirms elsewhere.service "alice" "other.example" user := by
  have reads : (Handle.read asking.text).username = "alice" := by decide
  obtain ⟨user, answer⟩ := exists_resolve_answered
  rw [resolve] at answer
  refine ⟨user, congrArg lower reads, ?_⟩
  rw [Call.outcome_eq]
  exact answer

theorem admits_asking :
    elsewhere.service.Admits asking.world asking.text "alice" "other.example" :=
  ⟨(admits_alice 0).reads, by decide, (admits_alice 0).isForeign, rfl, (admits_alice 0).accepted⟩

theorem finding_asking : asking.world.finding asking.surroundings elsewhere.service.windows "alice"
    "other.example" = .found .plain .alice := by
  have noStub : asking.world.tables.stub? "alice" "other.example" = none := rfl
  rw [World.finding_of_not_isFresh (fun _ isStub => nomatch noStub.symm.trans isStub),
    World.recalls_of_get?_eq_none _ rfl, if_neg Bool.false_ne_true, World.attempt,
    World.recalls_of_get?_eq_none _ rfl, if_neg Bool.false_ne_true, World.inquiry_eq_found_iff]
  exact Surroundings.isAnswered_alice _

/-- That resolution has written what a site knows that is acquainted with the user. -/
theorem tables_outcome_asking :
    (asking.outcome elsewhere.service).2.tables = (acquainted .alice 0).world.tables := by
  rw [(Call.settles rfl admits_asking finding_asking).tables]
  rfl

theorem ran_minuteLater :
    elsewhere.service.Ran (fun _ => True) asking.world [asking] minuteLater :=
  (Service.Ran.started.resolved trivial).waited 60000000000

theorem now_minuteLater : minuteLater.now = 60000000000 := by
  rw [minuteLater, World.now_waited, Call.now_outcome]
  rfl

theorem admits_askingAgain :
    elsewhere.service.Admits askingAgain.world askingAgain.text "ALICE" "other.example" := by
  have known : elsewhere.service.Admits (acquainted .alice 0).world askingAgain.text "ALICE"
      "other.example" :=
    ⟨⟨"Other.Example", by decide, by decide⟩, by decide, (admits_alice 0).isForeign, rfl,
      (admits_alice 0).accepted⟩
  have sameTables : askingAgain.world.tables = (acquainted .alice 0).world.tables := by
    rw [askingAgain, minuteLater, World.tables_waited, tables_outcome_asking]
  have reachable : elsewhere.service.IsReachable asking.world :=
    Service.isReachable_of_run_start (.fresh _ _) _ run_start_asking
  exact known.congr (ran_minuteLater.isReachable reachable).isReachable.isSound.isOpen sameTables

/-- The record that the first resolution fetched is a minute later the answer from the stub. -/
theorem exists_outcome_askingAgain : ∃ user,
    (askingAgain.outcome elsewhere.service).1 = some (.ok ⟨user, "other.example", .cache⟩) ∧
      (askingAgain.outcome elsewhere.service).2.requested = (asking.outcome elsewhere.service).2.requested := by
  have reachable : elsewhere.service.IsReachable asking.world :=
    Service.isReachable_of_run_start (.fresh _ _) _ run_start_asking
  obtain ⟨user, confirms⟩ := exists_confirms_asking
  have sameName : lower "ALICE" = lower "alice" := by decide
  have isKnown : askingAgain.world.tables.stub? "ALICE" "other.example" = some user := by
    rw [askingAgain, minuteLater, World.tables_waited, Tables.stub?_eq_of_lower_eq sameName]
    exact (confirms.stub?_eq reachable).1
  have isRecent : asking.IsRecent elsewhere.service.configuration.federation.stubLifetime
      askingAgain.world.now := by
    rw [askingAgain, now_minuteLater]
    exact Or.inr (by decide)
  have le : asking.world.now ≤ askingAgain.world.now := by
    rw [askingAgain]
    exact (ran_minuteLater.of_mem reachable List.mem_cons_self).2
  have waited : askingAgain.world.requested = (asking.outcome elsewhere.service).2.requested := by
    rw [askingAgain, minuteLater, World.requested_waited]
  obtain ⟨isCached, sameRequested⟩ := Call.outcome_of_isFresh admits_askingAgain.isDatabaseOpen
    admits_askingAgain isKnown ((confirms.isFresh_iff reachable le).mpr isRecent)
  exact ⟨user, isCached, sameRequested.trans waited⟩

/-- A minute later the record that was fetched is the answer, although no other instance answers any
more. -/
theorem cached_alice_is_confirmed :
    (Service.start elsewhere.service.configuration).toProgram.run elsewhere.surroundings
        (.fresh (.memory .empty) 0) = (some (.ok elsewhere.service), asking.world) ∧
    elsewhere.service.Ran (fun _ => True) asking.world [asking] minuteLater ∧
    ∃ user, asking.Confirms elsewhere.service "alice" "other.example" user ∧
      asking.IsRecent elsewhere.service.configuration.federation.stubLifetime minuteLater.now ∧
      elsewhere.service.Admits askingAgain.world askingAgain.text "ALICE" "other.example" ∧
      (askingAgain.outcome elsewhere.service).1 = some (.ok ⟨user, "other.example", .cache⟩) ∧
      (askingAgain.outcome elsewhere.service).2.requested = minuteLater.requested ∧
      ∃ confirming : Call,
        confirming.IsLatest elsewhere.service "ALICE" "other.example" user [asking] := by
  have isRecent : asking.IsRecent elsewhere.service.configuration.federation.stubLifetime
      minuteLater.now := by
    rw [now_minuteLater]
    exact Or.inr (by decide)
  obtain ⟨user, confirms⟩ := exists_confirms_asking
  obtain ⟨cached, confirmed⟩ :=
    ran_minuteLater.cached_answers_are_confirmed run_start_asking .silent askingAgain.text
  obtain ⟨isCached, asked⟩ := confirmed [] [] asking "alice" "other.example" user rfl confirms isRecent
    nofun "ALICE" admits_askingAgain (by decide)
  obtain ⟨-, confirming, isLatest, -⟩ := cached user "other.example" isCached
  have named : (Handle.read askingAgain.text).username = "ALICE" := by decide
  rw [named] at isLatest
  exact ⟨run_start_asking, ran_minuteLater, user, confirms, isRecent, admits_askingAgain, isCached, asked,
    confirming, isLatest⟩

end Site

end HandleFederation
