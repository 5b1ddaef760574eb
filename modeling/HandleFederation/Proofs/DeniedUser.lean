/-
This file says what becomes of a user of whom another instance has answered that it has no
such user. The stub is not deleted for that; what keeps it back is a value that is remembered
for the lifetime of a miss, and when that is over and the instance cannot be asked the stub
is given once more, because a stale record is taken to be better than none. But that is all that
can come back. From the answer on, until the instance is heard to answer for the user, no call
and no chore writes a stub of the user, and the one that is there does not get any younger.
-/

import HandleFederation.Proofs.HiddenFailure
import HandleFederation.Proofs.SuppressionWindow

namespace HandleFederation

open Program Resolution Text

/-! ### Where a record comes from -/

/-- Without a profile only a stale stub settles the answer. -/
theorem Resolution.settle_error_eq_ok {domain : String} {stale : Option User} {failure : Failure}
    {resolved : Resolved} (settled : settle domain stale (.error failure) = .ok resolved) :
    resolved.source = .staleCache ∧ stale = some resolved.user := by
  cases failure with
  | remoteLookupFailed name =>
    cases stale with
    | none => cases settled
    | some user =>
      cases settled
      exact ⟨rfl, rfl⟩
  | _ => cases settled

/-- A record that is given is a fresh stub, or one that was found; and otherwise it is the stub as it is, and
nobody has said that the user is missing. -/
theorem Finding.answer_eq_ok_cases {finding : Finding} {username domain : String} {world : World}
    {resolved : Resolved} (answer : finding.answer username domain world = .ok resolved) :
    finding = .fresh resolved.user ∨
    (∃ declaration profile, finding = .found declaration profile) ∨
    (finding ≠ .missed ∧ finding ≠ .missing ∧ resolved.source = .staleCache ∧
      world.tables.stub? username domain = some resolved.user) := by
  cases finding with
  | fresh user =>
    cases answer
    exact Or.inl rfl
  | found declaration profile => exact Or.inr (Or.inl ⟨declaration, profile, rfl⟩)
  | missed => cases answer
  | missing => cases answer
  | _ =>
    rw [answer_eq_settle] at answer
    · exact Or.inr (Or.inr ⟨nofun, nofun, settle_error_eq_ok answer⟩)
    · exact fun _ => nofun

/-- A user who is missing and has no fresh stub is found to be missing. -/
theorem World.IsMissing.finding_eq {surroundings : Surroundings} {windows : Windows}
    {username domain : String} {world : World} (isMissing : world.IsMissing surroundings username domain)
    (notFresh : ∀ user ∈ world.tables.stub? username domain,
      ¬ user.IsFresh windows.stubLifetime world.time) :
    world.finding surroundings windows username domain = .missed ∨
      world.finding surroundings windows username domain = .missing := by
  rw [World.finding_of_not_isFresh notFresh]
  by_cases recalled : world.recalls surroundings (missKey username domain) = true
  · exact Or.inl (if_pos recalled)
  · obtain ⟨notCooling, denied⟩ := isMissing.resolve_left recalled
    refine Or.inr ?_
    rw [if_neg recalled, World.attempt, notCooling, if_neg Bool.false_ne_true]
    exact World.inquiry_eq_missing_iff.mpr denied

namespace Call

variable {service : Service} {username domain : String} {call : Call}

/-- A resolution of a user, whatever the case of the username, asked the instance, which declared itself and
answered for the user. -/
inductive Hears (service : Service) (username domain : String) (call : Call) : Prop
  | intro {name : String} {declaration : Declaration} {profile : Profile}
    (named : lower name = lower username) (asks : call.Asks service name domain)
    (answered : IsAnswered call.surroundings domain name call.world.requested declaration profile) :
    Hears service username domain call

/-- Whoever was found has been heard. -/
theorem hears_of_finding {name : String} (named : lower name = lower username)
    (admits : service.Admits call.world call.text name domain) {declaration : Declaration}
    {profile : Profile} (isFound : call.world.finding call.surroundings service.windows name domain =
      .found declaration profile) : call.Hears service username domain := by
  have mayAsk : call.world.MayAsk call.surroundings service.windows name domain := by
    refine World.mayAsk_of_finding (fun user => ?_) ?_ ?_ <;> rw [isFound] <;> exact nofun
  rw [mayAsk.finding_eq, World.inquiry_eq_found_iff] at isFound
  exact .intro named ⟨admits, mayAsk⟩ isFound

/-- A record that was fetched was heard. -/
theorem hears_of_answer (isOpen : call.world.isDatabaseOpen = true) {user : User}
    (named : lower (Handle.read call.text).username = lower username)
    (answer : (call.outcome service).1 = some (.ok ⟨user, domain, .remote⟩)) :
    call.Hears service username domain := by
  have admits := admits_of_answer isOpen answer nofun
  dsimp only at admits
  have result := (settles isOpen admits rfl).result
  rw [answer] at result
  obtain ⟨_, -, isAnswer⟩ := Option.map_eq_some_iff.mp result.symm
  rcases Finding.answer_eq_ok_cases isAnswer with isFresh | ⟨_, _, isFound⟩ | ⟨-, -, isStale, -⟩
  · rw [isFresh] at isAnswer
    cases isAnswer
  · exact hears_of_finding named admits isFound
  · cases isStale

/-- A handle of another instance that leads to a record was admitted. -/
theorem admits_of_foreign (reachable : service.IsReachable call.world)
    (isForeign : service.domainOf (Handle.read call.text) ≠ service.domain) {resolved : Resolved}
    (answer : (call.outcome service).1 = some (.ok resolved)) :
    service.Admits call.world call.text (Handle.read call.text).username
      (service.domainOf (Handle.read call.text)) := by
  have siteReachable : Site.IsReachable ⟨service, call.surroundings, call.world⟩ := reachable
  have answered : (Site.resolve ⟨service, call.surroundings, call.world⟩ call.text).1 =
      some (.ok resolved) := by
    rw [Site.resolve]
    rw [outcome_eq] at answer
    exact answer
  rcases Site.account_or_stub_of_answer siteReachable answered with
    ⟨-, noForeign, -⟩ | ⟨domainText, through, notHome, -⟩
  · exact absurd (Service.domainOf_of_foreignDomain?_eq_none noForeign) isForeign
  · have isDomain : service.domainOf (Handle.read call.text) = resolved.domain :=
      Service.domainOf_of_isLetThrough through
    rw [isDomain]
    exact admits_of_answer reachable.isReachable.isSound.isOpen answer notHome

/-- Without a fresh stub, and if the user was not heard of, a record that is given is the stale stub, and
nobody has said that the user is missing. -/
theorem stale_of_unheard (isOpen : call.world.isDatabaseOpen = true) {name : String}
    (named : lower name = lower username) (admits : service.Admits call.world call.text name domain)
    (notFresh : ∀ user ∈ call.world.tables.stub? name domain,
      ¬ user.IsFresh service.windows.stubLifetime call.world.time)
    (unheard : ¬ call.Hears service username domain) {resolved : Resolved}
    (answer : (call.outcome service).1 = some (.ok resolved)) :
    resolved.domain = domain ∧ resolved.source = .staleCache ∧
      call.world.tables.stub? name domain = some resolved.user ∧
      ¬ call.world.IsMissing call.surroundings name domain := by
  have result := (settles isOpen admits rfl).result
  rw [answer] at result
  obtain ⟨_, -, isAnswer⟩ := Option.map_eq_some_iff.mp result.symm
  rcases Finding.answer_eq_ok_cases isAnswer with
    isFresh | ⟨_, _, isFound⟩ | ⟨notMissed, notMissing, isStale, isKnown⟩
  · obtain ⟨isKnown, isFresh⟩ := World.finding_eq_fresh_iff.mp isFresh
    exact absurd isFresh (notFresh _ isKnown)
  · exact absurd (hears_of_finding named admits isFound) unheard
  · refine ⟨(Finding.answer_eq_ok isAnswer).1, isStale, isKnown, fun isMissing => ?_⟩
    rcases isMissing.finding_eq notFresh with said | said
    · exact notMissed said
    · exact notMissing said

end Call

/-! ### What is held in the memory -/

/-- A store in the memory has a value until a time. -/
structure ShortTermStore.HoldsUntil (now : Nat) (key : String) (expiry : Nat) (store : ShortTermStore) :
    Prop where
  inProcess : store.IsInProcess
  isThere : ∀ later, now ≤ later → later < expiry → (store.get? later key).isSome = true

namespace ShortTermStore.HoldsUntil

variable {now expiry : Nat} {key : String} {store : ShortTermStore}

theorem mono {later : Nat} (holds : store.HoldsUntil now key expiry) (le : now ≤ later) :
    store.HoldsUntil later key expiry :=
  ⟨holds.inProcess, fun time le' => holds.isThere time (Nat.le_trans le le')⟩

/-- What is set does not take a value away that would have been gone before. -/
theorem of_set? (holds : store.HoldsUntil now key expiry) {held value : String} {seconds : Nat}
    {after : ShortTermStore} (isSet : store.set? now held value seconds = some after)
    (notEarlier : held = key → expiry ≤ now + seconds * TimedEntries.perSecond) :
    after.HoldsUntil now key expiry := by
  obtain ⟨stillInProcess, values⟩ := holds.inProcess.of_set? isSet
  refine ⟨stillInProcess, fun later le within => ?_⟩
  rw [values]
  split
  · rename_i same
    rw [if_pos (Nat.lt_of_lt_of_le within (notEarlier same.symm))]
    rfl
  · exact holds.isThere later le within

/-- A chore takes no value away but the one by which the store is probed. -/
theorem run_chore {world : World} (holds : world.store.HoldsUntil world.now key expiry)
    (notProbe : key ≠ Health.probeKey) (service : Service) (chore : Chore) (surroundings : Surroundings) :
    ((chore.program service).run surroundings world).2.store.HoldsUntil world.now key expiry := by
  obtain ⟨stillInProcess, agrees⟩ := chore.store_run service surroundings holds.inProcess
  refine ⟨stillInProcess, fun later le within => ?_⟩
  rw [agrees key notProbe later le]
  exact holds.isThere later le within

end ShortTermStore.HoldsUntil

/-- What is to be remembered leaves the store alone or is set. -/
theorem World.store_keeping_cases (surroundings : Surroundings) (memo : Option (String × Nat))
    (world : World) :
    (world.keeping surroundings memo).2 = world.store ∨
      ∃ kept ∈ memo, world.store.set? world.now kept.1 "1" kept.2 =
        some (world.keeping surroundings memo).2 := by
  cases memo with
  | none => exact Or.inl rfl
  | some kept =>
    unfold keeping remembering
    dsimp only
    split
    · exact Or.inl rfl
    · split
      · exact Or.inl rfl
      · split
        · rename_i store isSet
          exact Or.inr ⟨kept, rfl, isSet⟩
        · exact Or.inl rfl

/-- What is remembered, if the server survives it, is held for its time. -/
theorem World.holdsUntil_keeping {world : World} {surroundings : Surroundings}
    (keeps : surroundings.KeepsStore) (inProcess : world.store.IsInProcess) {key : String} {seconds : Nat}
    (survives : (world.keeping surroundings (some (key, seconds))).1 ≠ none) :
    (world.keeping surroundings (some (key, seconds))).2.HoldsUntil world.now key
      (world.now + seconds * TimedEntries.perSecond) := by
  unfold keeping remembering at survives ⊢
  dsimp only at survives ⊢
  by_cases isZero : seconds = 0
  · rw [if_pos isZero]
    exact ⟨inProcess, fun later le within => absurd within (by simp [isZero, le])⟩
  · rw [if_neg isZero, keeps] at survives ⊢
    dsimp only at survives ⊢
    cases isSet : world.store.set? world.now key "1" seconds with
    | none =>
      rw [isSet] at survives
      exact absurd rfl survives
    | some after =>
      obtain ⟨stillInProcess, values⟩ := inProcess.of_set? isSet
      refine ⟨stillInProcess, fun later _ within => ?_⟩
      dsimp only
      rw [values, if_pos rfl, if_pos within]
      rfl

namespace Call

variable {service : Service} {call : Call} {username domain : String} {expiry : Nat}

/-- As long as it is remembered that a user is missing, no resolution makes it forgotten any earlier. -/
theorem holdsUntil_outcome (isOpen : call.world.isDatabaseOpen = true)
    (holds : call.world.store.HoldsUntil call.world.now (missKey username domain) expiry)
    (notEarlier : expiry ≤ call.world.now + service.windows.missLifetime * TimedEntries.perSecond) :
    (call.outcome service).2.store.HoldsUntil call.world.now (missKey username domain) expiry := by
  by_cases isAdmitted : ∃ name place, service.Admits call.world call.text name place
  · obtain ⟨name, place, admits⟩ := isAdmitted
    rw [(settles isOpen admits rfl).store]
    rcases call.world.called.called.store_keeping_cases call.surroundings
      ((call.world.finding call.surroundings service.windows name place).memo service.windows name place) with
      unchanged | ⟨kept, isMemo, isSet⟩
    · rw [unchanged]
      exact holds
    · have holdsThere : call.world.called.called.store.HoldsUntil call.world.called.called.now
          (missKey username domain) expiry := holds
      refine holdsThere.of_set? isSet fun isKey => ?_
      rw [Finding.memo_eq] at isMemo
      obtain ⟨window, -, rfl⟩ := Option.mem_map.mp isMemo
      cases window with
      | cooldown place => exact absurd isKey.symm (missKey_ne_cooldownKey username domain place)
      | miss name place => exact notEarlier
  · obtain ⟨result, -, -, -, -, sameStore⟩ := exists_own_answer_of_not_admits isAdmitted
    rw [sameStore]
    exact holds

/-- A window that a resolution opens, and survives, is remembered for its time. -/
theorem Opens.holdsUntil {window : Window} (opens : call.Opens service window)
    (isOpen : call.world.isDatabaseOpen = true) (keeps : call.surroundings.KeepsStore)
    (inProcess : call.world.store.IsInProcess) (survives : (call.outcome service).1 ≠ none) :
    (call.outcome service).2.store.HoldsUntil call.world.now window.key
      (call.world.now + window.seconds service.windows * TimedEntries.perSecond) := by
  obtain ⟨username, admits⟩ := opens.exists_admits
  have settles := settles isOpen admits rfl
  have result := settles.result
  have store := settles.store
  rw [Finding.memo_eq, (opens_iff admits).mp opens, Option.map_some] at result store
  rw [store]
  have inProcessThere : call.world.called.called.store.IsInProcess := inProcess
  refine World.holdsUntil_keeping keeps inProcessThere fun broken => ?_
  rw [result, broken] at survives
  exact survives rfl

end Call

/-! ### What is known since -/

/-- Of a user nothing is known but the stub of an earlier time, and that is not fresh. -/
def World.KnowsNoMore (lifetime : Option Nat) (known : Option User) (username domain : String)
    (world : World) : Prop :=
  ∀ user ∈ world.tables.stub? username domain, known = some user ∧ ¬ user.IsFresh lifetime world.time

/-- The stub of a user that is there after a resolution in which the user was not heard of was there before. -/
theorem Call.stub?_of_unheard {service : Service} {call : Call} {username domain : String}
    (reachable : service.IsReachable call.world) (isNormal : lower domain = domain)
    (unheard : ¬ call.Hears service username domain) {user : User}
    (found : (call.outcome service).2.tables.stub? username domain = some user) :
    call.world.tables.stub? username domain = some user := by
  refine (stub?_outcome_cases reachable isNormal found).resolve_right fun confirms => unheard ?_
  exact hears_of_answer reachable.isReachable.isSound.isOpen confirms.named confirms.answer

namespace Service.Ran

variable {service : Service} {fits : Surroundings → Prop} {first : World} {calls later earlier : List Call}
  {world : World} {call : Call} {username domain : String}

/-- Since a user was missing nothing new is known of the user, as long as the instance was not heard to
answer. -/
theorem knowsNoMore (ran : service.Ran fits first calls world) (reachable : service.IsReachable first)
    (isCall : calls = later ++ call :: earlier) (opens : call.Opens service (.miss username domain))
    (unheard : ∀ other ∈ later, ¬ other.Hears service username domain) :
    world.KnowsNoMore service.windows.stubLifetime (call.world.tables.stub? username domain) username
      domain := by
  have reachableCall := (ran.of_mem reachable (isCall ▸ List.mem_append_right _ List.mem_cons_self)).1
  obtain ⟨name, admits⟩ := opens.exists_admits
  have isNormal : lower domain = domain := admits.lower_domain
  refine ran.since reachable isCall ?after ?resolves ?does ?waits
  case after =>
    intro user isKnown
    rw [opens.tables_outcome reachableCall.isReachable.isSound.isOpen] at isKnown
    rw [World.time, Call.now_outcome]
    cases opens with
    | miss asks denied => exact ⟨isKnown, asks.mayAsk.notFresh user isKnown⟩
  case resolves =>
    intro other isLater reachableThen _ knows user isKnown
    rw [World.time, Call.now_outcome]
    exact knows user (Call.stub?_of_unheard reachableThen isNormal (unheard other isLater) isKnown)
  case does =>
    intro chore surroundings between reachableThen knows user isKnown
    rw [reachableThen.stub?_run_chore] at isKnown
    rw [World.time, now_run]
    exact knows user isKnown
  case waits =>
    intro span between knows user isKnown
    obtain ⟨wasKnown, isStale⟩ := knows user isKnown
    exact ⟨wasKnown, fun isFresh => isStale (isFresh.of_le (Nat.le_add_right _ span))⟩

/-- That a user is missing is remembered for the lifetime of a miss. -/
theorem holdsUntil (ran : service.Ran fits first calls world) (reachable : service.IsReachable first)
    (isCall : calls = later ++ call :: earlier) (opens : call.Opens service (.miss username domain))
    (survives : (call.outcome service).1 ≠ none) (inProcess : call.world.store.IsInProcess)
    (keeps : call.surroundings.KeepsStore) :
    world.store.HoldsUntil world.now (missKey username domain)
      (call.world.now + service.windows.missLifetime * TimedEntries.perSecond) := by
  have reachableCall := (ran.of_mem reachable (isCall ▸ List.mem_append_right _ List.mem_cons_self)).1
  refine ran.since (motive := fun world => world.store.HoldsUntil world.now _ _) reachable isCall ?after
    ?resolves ?does ?waits
  case after =>
    rw [Call.now_outcome]
    exact opens.holdsUntil reachableCall.isReachable.isSound.isOpen keeps inProcess survives
  case resolves =>
    intro other _ reachableThen le holds
    rw [Call.now_outcome]
    exact Call.holdsUntil_outcome reachableThen.isReachable.isSound.isOpen holds (Nat.add_le_add_right le _)
  case does =>
    intro chore surroundings between _ holds
    rw [now_run]
    exact holds.run_chore (Window.key_ne_probeKey (.miss username domain)) service chore surroundings
  case waits =>
    intro span between holds
    exact holds.mono (Nat.le_add_right _ span)

/-- A user of whom an instance answered that there is none, as was returned, leads to no record afterwards,
until the instance is heard to answer for the user, but for one: the stub that was there at the time of
that answer, as it was, and marked as stale. Even this is given only by a resolution for which the user is
not missing, be it remembered or said once more; so with a store in the memory that works it is not given
before the lifetime of a miss has passed. -/
theorem denied_user_returns_unchanged (ran : service.Ran fits first calls world)
    (reachable : service.IsReachable first) {denial : Call} (isCall : calls = later ++ denial :: earlier)
    (opens : denial.Opens service (.miss username domain))
    (returned : (denial.outcome service).1 = some (.error (.userNotFound (fullName username domain))))
    (unheard : ∀ other ∈ later, ¬ other.Hears service username domain)
    (surroundings : Surroundings) (text : String) :
    let handle := Handle.read text
    let retry : Call := ⟨surroundings, world, text⟩
    lower handle.username = lower username → service.domainOf handle = domain →
    ¬ retry.Hears service username domain →
    ∀ resolved, (retry.outcome service).1 = some (.ok resolved) →
      resolved.domain = domain ∧ resolved.source = .staleCache ∧
      denial.world.tables.stub? username domain = some resolved.user ∧
      ¬ world.IsMissing surroundings handle.username domain ∧
      (denial.world.store.IsInProcess → denial.surroundings.KeepsStore → surroundings.KeepsStore →
        denial.world.now + service.windows.missLifetime * TimedEntries.perSecond ≤ world.now) := by
  intro handle retry sameName isDomain notHeard resolved answer
  have knows := ran.knowsNoMore reachable isCall opens unheard
  have reachableNow : service.IsReachable retry.world := ran.isReachable reachable
  obtain ⟨name, denialAdmits⟩ := opens.exists_admits
  have admits := Call.admits_of_foreign reachableNow (isDomain ▸ denialAdmits.isForeign) answer
  rw [isDomain] at admits
  have isStub : world.tables.stub? handle.username domain = world.tables.stub? username domain :=
    Tables.stub?_eq_of_lower_eq sameName domain world.tables
  have notFresh : ∀ user ∈ world.tables.stub? handle.username domain,
      ¬ user.IsFresh service.windows.stubLifetime world.time := by
    rw [isStub]
    exact fun user isKnown => (knows user isKnown).2
  obtain ⟨sameDomain, isStale, isKnown, notMissing⟩ := Call.stale_of_unheard
    reachableNow.isReachable.isSound.isOpen sameName admits notFresh notHeard answer
  rw [show retry.world = world from rfl, isStub] at isKnown
  refine ⟨sameDomain, isStale, (knows _ isKnown).1, notMissing, fun inProcess keepsThen keepsNow => ?_⟩
  by_contra early
  have holds := ran.holdsUntil reachable isCall opens (returned ▸ Option.some_ne_none _) inProcess keepsThen
  refine notMissing (Or.inl ?_)
  rw [keepsNow.recalls_eq, missKey_eq_of_lower_eq sameName]
  exact holds.isThere _ (Nat.le_refl _) (Nat.lt_of_not_le early)

end Service.Ran

/-! ### A site that is told that a user is gone -/

namespace Site

/-- A resolution of a user whose stub has become stale, to which the instance answers that there is no such
user. -/
def denying : Call :=
  ⟨Surroundings.silent.over (Exchange.afterDeclaration (.ok ⟨404, []⟩)),
    (acquainted .alice 1000000000000000).world, "alice@other.example"⟩

/-- A resolution of the same user a minute later, when no other instance answers any more. -/
def afterDenial : Call :=
  ⟨.silent, (denying.outcome empty.service).2.waited 60000000000, "Alice@other.example"⟩

theorem isReachable_denying : empty.service.IsReachable denying.world :=
  isReachable_acquainted _ _

theorem isDenied_denying :
    IsDenied denying.surroundings "other.example" "alice" denying.world.requested := by
  have accepted : DomainName.validate [] "other.example" = .ok "other.example" := by decide
  obtain ⟨first, second, declaredAt, lookedUpAt, noQuery, hasQuery⟩ :=
    DomainName.exists_urls (DomainName.isPlain_of_validate accepted) (by decide)
      (HostName.isSome_toAscii?_of_validate accepted (by decide)) (lower "alice")
  refine ⟨first, second, .plain, ⟨404, []⟩, declaredAt, lookedUpAt, ?_, nofun, ?_, rfl⟩
  · show Declaration.ofExchange _ (Exchange.afterDeclaration (.ok ⟨404, []⟩) [] first) = _
    rw [Exchange.afterDeclaration, if_pos noQuery]
    exact Declaration.ofExchange_plain
  · show Exchange.afterDeclaration (.ok ⟨404, []⟩) [first] second = _
    rw [Exchange.afterDeclaration, if_neg (hasQuery ▸ Bool.false_ne_true)]

theorem asks_denying : denying.Asks empty.service "alice" "other.example" := by
  refine ⟨admits_alice _, ?_, rfl, rfl⟩
  intro user isKnown isFresh
  cases isKnown
  exact absurd (isFresh 86400 rfl) (by decide)

theorem opens_denying : denying.Opens empty.service (.miss "alice" "other.example") :=
  .miss asks_denying isDenied_denying

theorem answer_denying : (denying.outcome empty.service).1 =
    some (.error (.userNotFound (fullName "alice" "other.example"))) := by
  have hasTime : ∀ seconds ∈ [60, 30], (TimedEntries.expiry? 1000000000000000 seconds).isSome = true := by
    decide
  have canKeep : ∀ seconds ∈ [empty.service.windows.missLifetime, empty.service.windows.discoveryCooldown],
      denying.world.CanKeep seconds :=
    fun seconds isWindow => World.canKeep_of_isSome_expiry? rfl (hasTime seconds isWindow)
  rw [(Call.outcome_of_admits rfl asks_denying.admits canKeep).1, asks_denying.mayAsk.finding_eq,
    World.inquiry_eq_missing_iff.mpr isDenied_denying]
  rfl

theorem ran_afterDenial :
    empty.service.Ran Surroundings.KeepsStore denying.world [denying] afterDenial.world :=
  (Service.Ran.started.resolved fun _ _ => rfl).waited 60000000000

theorem now_afterDenial : afterDenial.world.now = 1000060000000000 := by
  rw [afterDenial, World.now_waited, Call.now_outcome]
  rfl

theorem tables_afterDenial : afterDenial.world.tables = denying.world.tables := by
  rw [afterDenial, World.tables_waited]
  exact opens_denying.tables_outcome rfl

/-- Nobody is heard from where no other instance answers. -/
theorem not_hears_afterDenial (username : String) :
    ¬ afterDenial.Hears empty.service username "other.example" := by
  rintro ⟨-, -, ⟨⟨_, _, -, -, declared, -⟩, -⟩⟩
  cases declared

theorem admits_afterDenial :
    empty.service.Admits afterDenial.world afterDenial.text "Alice" "other.example" := by
  have known : empty.service.Admits denying.world afterDenial.text "Alice" "other.example" :=
    ⟨⟨"other.example", by decide, by decide⟩, by decide, asks_denying.admits.isForeign,
      asks_denying.admits.permitted, asks_denying.admits.accepted⟩
  exact known.congr (ran_afterDenial.isReachable isReachable_denying).isReachable.isSound.isOpen
    tables_afterDenial

/-- By that time nothing is remembered, and as the other instance does not answer, the stub is given that was
there before. -/
theorem answer_afterDenial : (afterDenial.outcome empty.service).1 =
    some (.ok ⟨stubOf .alice, "other.example", .staleCache⟩) := by
  have isOpen := (ran_afterDenial.isReachable isReachable_denying).isReachable.isSound.isOpen
  have hasTime : empty.service.HasTime afterDenial.world.now := by
    have hasTime : ∀ seconds ∈ [60, 30],
        (TimedEntries.expiry? 1000060000000000 seconds).isSome = true := by decide
    rw [now_afterDenial]
    exact hasTime
  have inProcess := (ran_afterDenial.isSome_get?_iff isReachable_denying rfl hasTime).1
  have isKnown : afterDenial.world.tables.stub? "Alice" "other.example" = some (stubOf .alice) := by
    rw [tables_afterDenial]
    rfl
  have notFresh : ∀ user ∈ afterDenial.world.tables.stub? "Alice" "other.example",
      ¬ user.IsFresh empty.service.windows.stubLifetime afterDenial.world.time := by
    rw [isKnown, World.time, now_afterDenial]
    rintro user ⟨⟩ isFresh
    exact absurd (isFresh 86400 rfl) (by decide)
  have noWindow : ∀ earlier ∈ [denying], ∀ window,
      earlier.HoldsOpen empty.service window afterDenial.world.now →
      ¬ window.Concerns "Alice" "other.example" := by
    intro earlier isDenying window holds
    obtain rfl := List.mem_singleton.mp isDenying
    have within := holds.within
    rw [now_afterDenial] at within
    cases window with
    | cooldown place =>
      exact absurd within (show ¬ 1000060000000000 < 1000000000000000 + 30 * TimedEntries.perSecond by decide)
    | miss name place =>
      exact absurd within (show ¬ 1000060000000000 < 1000000000000000 + 60 * TimedEntries.perSecond by decide)
  have mayAsk := ran_afterDenial.mayAsk_of_not_holdsOpen isReachable_denying rfl hasTime keepsStore_silent
    admits_afterDenial.slash_notMem notFresh noWindow
  have said := mayAsk.finding_eq.trans
    (World.inquiry_eq_undiscovered_iff.mpr (isUndiscoverable_silent "other.example" afterDenial.world.requested))
  have outcome := Call.outcome_of_admits isOpen admits_afterDenial (hasTime.canKeep inProcess)
  have answer : Finding.undiscovered.answer "Alice" "other.example" afterDenial.world =
      settle "other.example" (afterDenial.world.tables.stub? "Alice" "other.example")
        (.error (.remoteLookupFailed "other.example")) := rfl
  rw [isKnown] at answer
  dsimp only at outcome
  rw [outcome.1, show afterDenial.world.finding afterDenial.surroundings _ _ _ = _ from said, answer]
  rfl

/-- The stub of the user that the other instance does not know any more comes back a minute later. -/
theorem denied_alice_returns :
    empty.service.Ran Surroundings.KeepsStore denying.world [denying] afterDenial.world ∧
    empty.service.IsReachable denying.world ∧
    denying.Opens empty.service (.miss "alice" "other.example") ∧
    (denying.outcome empty.service).1 =
      some (.error (.userNotFound (fullName "alice" "other.example"))) ∧
    ¬ afterDenial.Hears empty.service "alice" "other.example" ∧
    (afterDenial.outcome empty.service).1 =
      some (.ok ⟨stubOf .alice, "other.example", .staleCache⟩) ∧
    denying.world.tables.stub? "alice" "other.example" = some (stubOf .alice) ∧
    denying.world.now + empty.service.windows.missLifetime * TimedEntries.perSecond ≤
      afterDenial.world.now := by
  have named : lower (Handle.read afterDenial.text).username = lower "alice" := by decide
  have isDomain : empty.service.domainOf (Handle.read afterDenial.text) = "other.example" :=
    admits_afterDenial.domainOf_eq
  obtain ⟨-, -, isKnown, -, notEarlier⟩ := ran_afterDenial.denied_user_returns_unchanged isReachable_denying
    (List.nil_append [denying]).symm opens_denying answer_denying nofun .silent afterDenial.text named
    isDomain (not_hears_afterDenial "alice") _ answer_afterDenial
  have inProcess : denying.world.store.IsInProcess := .memory TimedEntries.isKeyed_empty
  exact ⟨ran_afterDenial, isReachable_denying, opens_denying, answer_denying, not_hears_afterDenial _,
    answer_afterDenial, isKnown, notEarlier inProcess (fun _ _ => rfl) keepsStore_silent⟩

/-- That an instance has no such user, once it has said so, is not the end of what is known of the user: the
instance need not be heard to answer for the user before a record is given again. -/
theorem denied_alice_reappears :
    empty.service.IsReachable denying.world ∧
    empty.service.Ran (fun _ => True) denying.world [denying] afterDenial.world ∧
    IsDenied denying.surroundings "other.example" "alice" denying.world.requested ∧
    (denying.outcome empty.service).1 = some (.error (.userNotFound "alice@other.example")) ∧
    afterDenial.surroundings = .silent ∧
    ¬ afterDenial.Hears empty.service "alice" "other.example" ∧
    ∃ resolved, (afterDenial.outcome empty.service).1 = some (.ok resolved) := by
  have ran : empty.service.Ran (fun _ => True) denying.world [denying] afterDenial.world :=
    (Service.Ran.started.resolved trivial).waited 60000000000
  have told : fullName "alice" "other.example" = "alice@other.example" := by decide
  refine ⟨isReachable_denying, ran, isDenied_denying, ?_, rfl, not_hears_afterDenial _, _, answer_afterDenial⟩
  rw [← told]
  exact answer_denying

end Site

end HandleFederation
