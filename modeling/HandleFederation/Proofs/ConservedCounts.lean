/-
This file says that the counters agree with what happened. A resolution counts its end,
if it comes to one; whether there was a fresh stub, if its handle is admitted; and its
requests. So what it counts can be told from the resolution, and the accounts of
resolutions that follow one another add up, whatever chores are done and whatever time
passes in between. There are two things that the counters get wrong: a resolution that the
server breaks down over is not counted, and a request is counted that was never made
when there is no URL at which a domain could be asked for its declaration.
-/

import HandleFederation.Proofs.Breakdown
import HandleFederation.Proofs.CountedEvents

namespace HandleFederation

open Program Resolution Text

/-! ### Results -/

theorem Source.word_injective {source other : Source} (same : source.word = other.word) : source = other := by
  revert same
  cases source <;> cases other <;> decide

theorem Failure.kind_ne_success (failure : Failure) : failure.kind ≠ "success" := by
  cases failure <;> simp [kind]

namespace Resolution

/-- Whether a result is an answer from a source. -/
def isAnswerFrom (source : Source) : Except Failure Resolved → Bool
  | .ok resolved => resolved.source == source
  | .error _ => false

/-- Whether a result is a failure of a kind. -/
def isFailureOf (kind : String) : Except Failure Resolved → Bool
  | .ok _ => false
  | .error failure => failure.kind == kind

/-- What the path of a failure is called, which tells whether the user is one of another instance. -/
def pathWord (isForeign : Bool) : String :=
  if isForeign then "remote" else "local"

variable {isForeign : Bool} {result : Except Failure Resolved}

/-- The end of a resolution is counted among the answers from a source if it is one. -/
theorem counterKey_resolutionEvent_eq_answer_iff {source : Source} :
    (resolutionEvent isForeign result).counterKey = (.resolutions, ["success", source.word]) ↔
      isAnswerFrom source result = true := by
  cases result with
  | error failure => simp [resolutionEvent, Event.counterKey, isAnswerFrom, failure.kind_ne_success]
  | ok resolved =>
    have sameWord : resolved.source.word = source.word ↔ resolved.source = source :=
      ⟨Source.word_injective, congrArg Source.word⟩
    simp [resolutionEvent, Event.counterKey, isAnswerFrom, sameWord]

/-- It is counted among the failures of a kind on a path if it is one. -/
theorem counterKey_resolutionEvent_eq_failure_iff {other : Bool} {kind : String}
    (notSuccess : kind ≠ "success") :
    (resolutionEvent isForeign result).counterKey = (.resolutions, [kind, pathWord other]) ↔
      isFailureOf kind result = true ∧ isForeign = other := by
  cases result with
  | ok resolved => simp [resolutionEvent, Event.counterKey, isFailureOf, notSuccess.symm]
  | error failure => cases isForeign <;> cases other <;>
      simp [resolutionEvent, Event.counterKey, isFailureOf, pathWord]

theorem fst_counterKey_resolutionEvent : (resolutionEvent isForeign result).counterKey.1 = .resolutions := by
  cases result <;> rfl

/-- What is counted at the end of a resolution, if it comes to one. -/
def ending (isForeign : Bool) (result : Option (Except Failure Resolved)) : List Event :=
  (result.map (resolutionEvent isForeign)).toList

theorem kind_of_mem_ending (isForeign : Bool) (result : Option (Except Failure Resolved)) :
    ∀ event ∈ ending isForeign result, event.counterKey.1 ∈ [.resolutions] := by
  intro event member
  cases result with
  | none => cases member
  | some result =>
    rw [List.mem_singleton.mp member, fst_counterKey_resolutionEvent]
    exact List.mem_singleton_self _

/-- Of one thing there is one or none. -/
theorem countP_singleton_eq_toNat {Thing : Type} (chosen : Thing → Bool) (thing : Thing) :
    [thing].countP chosen = (chosen thing).toNat := by
  rw [List.countP_singleton]
  cases chosen thing <;> rfl

theorem countP_ending (chosen : Event → Bool) (isForeign : Bool) (result : Option (Except Failure Resolved)) :
    (ending isForeign result).countP chosen =
      (result.any fun result => chosen (resolutionEvent isForeign result)).toNat := by
  cases result with
  | none => rfl
  | some result =>
    rw [ending, Option.map_some, Option.toList_some, countP_singleton_eq_toNat, Option.any_some]

/-! ### At another instance -/

/-- What is fetched, or stands in for it, is not taken for a fresh stub. -/
theorem isAnswerFrom_cache_settle (domain : String) (stale : Option User) (outcome : Except Failure User) :
    isAnswerFrom .cache (settle domain stale outcome) = false := by
  cases settled : settle domain stale outcome with
  | error failure => rfl
  | ok resolved => exact beq_eq_false_iff_ne.mpr (settle_eq_ok settled).2

variable (surroundings : Surroundings) (windows : Windows) (username domain : String) {world : World}

/-- A resolution that finds no fresh stub counts that, and then its requests. -/
theorem exists_fetches_of_not_fresh
    (notFresh : ∀ user ∈ world.tables.stub? username domain, ¬ user.IsFresh windows.stubLifetime world.time)
    (stale : Option User) :
    let missed := world.counted (.cacheAccess "user_stub" false)
    let fetched := (fetch windows username domain).toProgram.run surroundings missed.called
    let outcome : Option (Except Failure Resolved) × World :=
      if missed.recalls surroundings (missKey username domain) then
        (some (.error (.userNotFound (fullName username domain))), missed.called)
      else (fetched.1.map (settle domain stale), fetched.2)
    ∃ isUnsent events urls, Fetches username domain isUnsent events urls ∧
      world.Adds (events ++ [.cacheAccess "user_stub" (outcome.1.any (isAnswerFrom .cache))]) urls outcome.2 ∧
      (isUnsent = true ↔ world.MayAsk surroundings windows username domain ∧
        ∃ fault, declarationUrl domain = .error fault) := by
  intro missed fetched outcome
  have counted : world.Adds [.cacheAccess "user_stub" false] [] missed.called := ⟨rfl, rfl⟩
  have sameRecall : missed.recalls surroundings (missKey username domain) =
      world.recalls surroundings (missKey username domain) := rfl
  have sameCooling : missed.called.recalls surroundings (cooldownKey domain) =
      world.called.recalls surroundings (cooldownKey domain) := rfl
  cases remembered : world.recalls surroundings (missKey username domain) with
  | true =>
    have left : outcome = (some (.error (.userNotFound (fullName username domain))), missed.called) :=
      if_pos (sameRecall.trans remembered)
    rw [left]
    refine ⟨false, [], [], .discovers .leftAlone, counted, iff_of_false Bool.false_ne_true fun asked => ?_⟩
    exact absurd (remembered.symm.trans asked.1.notMissed) nofun
  | false =>
    have left : outcome = (fetched.1.map (settle domain stale), fetched.2) :=
      if_neg (Bool.eq_false_iff.mp (sameRecall.trans remembered))
    have notCached : (fetched.1.map (settle domain stale)).any (isAnswerFrom .cache) = false := by
      cases fetched.1 with
      | none => rfl
      | some result => exact isAnswerFrom_cache_settle domain stale result
    obtain ⟨isUnsent, events, urls, fetches, adds, isUnsentIff⟩ :=
      exists_fetches surroundings windows username domain missed.called
    rw [left, notCached]
    refine ⟨isUnsent, events, urls, fetches, ?_, isUnsentIff.trans ?_⟩
    · have both := counted.trans adds
      rwa [List.append_nil] at both
    · rw [sameCooling]
      exact and_congr_left' ⟨fun notCooling => ⟨notFresh, remembered, notCooling⟩,
        fun mayAsk => mayAsk.notCooling⟩

/-- A resolution of a user of another instance counts whether there is a fresh stub, and then its
requests. -/
theorem exists_fetches_of_resolveRemote (isOpen : world.isDatabaseOpen = true) :
    let outcome := (resolveRemote windows username domain).toProgram.run surroundings world
    ∃ isUnsent events urls, Fetches username domain isUnsent events urls ∧
      world.Adds (events ++ [.cacheAccess "user_stub" (outcome.1.any (isAnswerFrom .cache))]) urls outcome.2 ∧
      (isUnsent = true ↔ world.MayAsk surroundings windows username domain ∧
        ∃ fault, declarationUrl domain = .error fault) := by
  have without := @exists_fetches_of_not_fresh surroundings windows username domain world
  dsimp only at without ⊢
  rw [run_resolveRemote, stubFound_eq username domain isOpen]
  cases stub : world.tables.stub? username domain with
  | none => exact without (stub ▸ nofun) none
  | some user =>
    by_cases isFresh : user.IsFresh windows.stubLifetime world.time
    · rw [Option.map_some, Cached.ofUser_of_isFresh isFresh]
      refine ⟨false, [], [], .discovers .leftAlone, ⟨rfl, rfl⟩, iff_of_false Bool.false_ne_true ?_⟩
      exact fun asked => asked.1.notFresh user stub isFresh
    · rw [Option.map_some, Cached.ofUser_of_not_isFresh isFresh]
      refine without (fun other isStub => ?_) (some user)
      rw [stub, Option.mem_some_iff] at isStub
      exact isStub ▸ isFresh

end Resolution

/-! ### Resolutions -/

namespace Call

variable (service : Service) (call : Call)

/-- Whether a resolution is one of a user of another instance. -/
def isForeign : Bool :=
  (foreignDomain? service (Handle.read call.text)).isSome

/-- The username and the domain that a resolution has to do with, if it is one of a user of another instance
whom it may ask for. -/
def target? : Option (String × String) :=
  let handle := Handle.read call.text
  match Username.validate handle.username, foreignDomain? service handle with
  | .ok _, some domainText =>
    match call.world.permission service.home.id domainText, acceptDomain service.blocked domainText with
    | .ok _, .ok domain => some (handle.username, domain)
    | _, _ => none
  | _, _ => none

/-- Whether a resolution comes to a result. -/
def ends : Bool :=
  (call.outcome service).1.isSome

/-- Whether a resolution is answered from a source. -/
def answersFrom (source : Source) : Bool :=
  (call.outcome service).1.any (isAnswerFrom source)

/-- Whether a resolution of a user of this instance, or one of another, comes to a failure of a kind. -/
def failsAs (isForeign : Bool) (kind : String) : Bool :=
  (call.outcome service).1.any (isFailureOf kind) && call.isForeign service == isForeign

/-- Whether a resolution is one of a user of another instance whom it may ask for. -/
def isAdmitted : Bool :=
  (call.target? service).isSome

/-- Whether a resolution comes to ask an instance for its declaration although there is no URL for it. -/
def abandons : Bool :=
  (call.target? service).any fun target =>
    match declarationUrl target.2,
      call.world.finding call.surroundings service.windows target.1 target.2 with
    | .error _, .undiscovered => true
    | _, _ => false

variable {service call} {username domain : String}

theorem target?_eq_some_iff : call.target? service = some (username, domain) ↔
    service.Admits call.world call.text username domain := by
  rw [Service.admits_iff]
  unfold target?
  constructor
  · intro isTarget
    dsimp only at isTarget
    split at isTarget
    · rename_i domainText valid foreign
      split at isTarget
      · rename_i name permitted accepted
        cases isTarget
        exact ⟨rfl, valid, domainText, foreign, permitted, accepted⟩
      · cases isTarget
    · cases isTarget
  · rintro ⟨rfl, valid, domainText, foreign, permitted, accepted⟩
    dsimp only
    rw [valid, foreign]
    dsimp only
    rw [permitted, accepted]

theorem isAdmitted_iff : call.isAdmitted service = true ↔
    ∃ username domain, service.Admits call.world call.text username domain := by
  unfold isAdmitted
  rw [Option.isSome_iff_exists, Prod.exists]
  simp only [target?_eq_some_iff]

/-- An instance for which there is no URL cannot be discovered. -/
theorem Asks.finding_of_noUrl (asks : call.Asks service username domain) {fault : TransportFault}
    (noUrl : declarationUrl domain = .error fault) :
    call.world.finding call.surroundings service.windows username domain = .undiscovered := by
  rw [asks.mayAsk.finding_eq]
  exact World.inquiry_eq_undiscovered_iff.mpr fun _ _ isUrl => nomatch noUrl.symm.trans isUrl

theorem abandons_iff : call.abandons service = true ↔ ∃ username domain,
    call.Asks service username domain ∧ ∃ fault, declarationUrl domain = .error fault := by
  unfold abandons
  rw [Option.any_eq_true]
  constructor
  · rintro ⟨⟨username, domain⟩, isTarget, isLost⟩
    dsimp only at isLost
    split at isLost
    · rename_i fault noUrl said
      have mayAsk : call.world.MayAsk call.surroundings service.windows username domain := by
        refine World.mayAsk_of_finding ?_ ?_ ?_
        all_goals
          rw [said]
          exact nofun
      exact ⟨username, domain, ⟨target?_eq_some_iff.mp isTarget, mayAsk⟩, fault, noUrl⟩
    · cases isLost
  · rintro ⟨username, domain, asks, fault, noUrl⟩
    refine ⟨(username, domain), target?_eq_some_iff.mpr asks.admits, ?_⟩
    dsimp only
    rw [asks.finding_of_noUrl noUrl, noUrl]

/-- A resolution for which a handle is admitted abandons a request just if it comes to ask and there is
no URL. -/
theorem abandons_iff_of_admits (admits : service.Admits call.world call.text username domain) :
    call.abandons service = true ↔
      call.world.MayAsk call.surroundings service.windows username domain ∧
        ∃ fault, declarationUrl domain = .error fault := by
  rw [abandons_iff]
  constructor
  · rintro ⟨name, place, asks, noUrl⟩
    obtain ⟨rfl, rfl⟩ := admits.eq_of_admits asks.admits
    exact ⟨asks.mayAsk, noUrl⟩
  · rintro ⟨mayAsk, noUrl⟩
    exact ⟨username, domain, ⟨admits, mayAsk⟩, noUrl⟩

/-- A resolution that abandons a request makes none. -/
theorem requested_of_abandons (abandoned : call.abandons service = true) :
    (call.outcome service).2.requested = call.world.requested := by
  obtain ⟨username, domain, asks, fault, noUrl⟩ := abandons_iff.mp abandoned
  have settles := settles asks.admits.isDatabaseOpen asks.admits (asks.finding_of_noUrl noUrl)
  rw [settles.requested, Finding.requests, contacts, noUrl]
  rfl

/-- What a resolution counts of its looking for a stub, which it only does where its handle is admitted. -/
def access (service : Service) (call : Call) : List Event :=
  if call.isAdmitted service then [.cacheAccess "user_stub" (call.answersFrom service .cache)] else []

/-- All that a resolution counts, the latest of it first, when it counts some requests. -/
def events (service : Service) (call : Call) (inquiry : List Event) : List Event :=
  ending (call.isForeign service) (call.outcome service).1 ++ (inquiry ++ call.access service)

/-- A resolution counts whether there was a fresh stub, its requests, and its end. -/
theorem exists_inquiry (service : Service) (call : Call) : ∃ inquiry urls,
    Balances (call.abandons service).toNat inquiry urls ∧
    (∀ event ∈ inquiry, event.counterKey.1 ∈ [.requestsMade]) ∧
    call.world.Adds (call.events service inquiry) urls (call.outcome service).2 := by
  unfold events
  by_cases isAdmitted : ∃ username domain, service.Admits call.world call.text username domain
  · obtain ⟨username, domain, admits⟩ := isAdmitted
    obtain ⟨isUnsent, inquiry, urls, fetches, adds, isUnsentIff⟩ := exists_fetches_of_resolveRemote
      call.surroundings service.windows username domain admits.isDatabaseOpen
    have isAbandoned : isUnsent = call.abandons service :=
      Bool.eq_iff_iff.mpr (isUnsentIff.trans (abandons_iff_of_admits admits).symm)
    refine ⟨inquiry, urls, isAbandoned ▸ fetches.balances (DomainName.isPlain_of_validate admits.accepted),
      fun _ => fetches.kind_of_mem, ?_⟩
    rw [access, isAdmitted_iff.mpr ⟨_, _, admits⟩, if_pos rfl, answersFrom, outcome_eq, run_resolve,
      Service.run_resolveHandle_of_admits _ admits]
    generalize (resolveRemote service.windows username domain).toProgram.run call.surroundings call.world =
      outcome at adds ⊢
    rcases outcome with ⟨_ | result, after⟩
    · exact adds
    · exact adds.counted _
  · obtain ⟨result, stays, -⟩ := Service.run_resolveHandle_of_not_admits call.surroundings isAdmitted
    have run : (resolveHandle service (Handle.read call.text)).toProgram.run call.surroundings call.world =
        (some result, call.world) := stays call.world.store
    have notAdmitted : call.isAdmitted service = false :=
      Bool.eq_false_iff.mpr fun admitted => isAdmitted (isAdmitted_iff.mp admitted)
    have notAbandoned : call.abandons service = false := by
      refine Bool.eq_false_iff.mpr fun abandoned => isAdmitted ?_
      obtain ⟨username, domain, asks, -⟩ := abandons_iff.mp abandoned
      exact ⟨username, domain, asks.admits⟩
    refine ⟨[], [], notAbandoned ▸ ⟨rfl, rfl, rfl⟩, nofun, ?_⟩
    rw [access, notAdmitted, if_neg Bool.false_ne_true, outcome_eq, run_resolve, run]
    exact (World.Adds.refl call.world).counted _

/-- What is answered from a stub is answered to a handle that is admitted. -/
theorem isAdmitted_of_answersFrom_cache (isCached : call.answersFrom service .cache = true) :
    call.isAdmitted service = true := by
  by_contra notAdmitted
  obtain ⟨result, isHome, answer, -⟩ := exists_own_answer_of_not_admits fun admitted =>
    notAdmitted (isAdmitted_iff.mpr admitted)
  rw [answersFrom, answer, Option.any_some] at isCached
  cases result with
  | error failure => cases isCached
  | ok resolved => exact absurd ((isHome resolved rfl).symm.trans (eq_of_beq isCached)) nofun

/-- A resolution comes to no result just if it opens a window that the server breaks down over. -/
theorem ends_eq_false_iff : call.ends service = false ↔
    ∃ window, call.Opens service window ∧ window.seconds service.windows ≠ 0 ∧
      call.world.called.called.BreaksOver call.surroundings (window.seconds service.windows) := by
  rw [ends, Option.isSome_eq_false_iff, Option.isNone_iff_eq_none]
  by_cases isOpen : call.world.isDatabaseOpen = true
  · exact outcome_eq_none_iff isOpen
  · have notAdmitted : ¬ ∃ username domain, service.Admits call.world call.text username domain := by
      rintro ⟨username, domain, admits⟩
      exact isOpen admits.isDatabaseOpen
    obtain ⟨result, -, answer, -⟩ := exists_own_answer_of_not_admits notAdmitted
    refine iff_of_false (answer ▸ nofun) ?_
    rintro ⟨window, opens, -⟩
    obtain ⟨username, admits⟩ := opens.exists_admits
    exact notAdmitted ⟨_, _, admits⟩

end Call

/-! ### Accounts -/

namespace Resolution.Balances

/-- What is counted besides requests keeps the balance. -/
theorem of_kinds {kinds : List CounterKind} {events : List Event}
    (areOf : ∀ event ∈ events, event.counterKey.1 ∈ kinds) (notRequests : .requestsMade ∉ kinds) :
    Balances 0 events [] := by
  have noRequest (kind : String) :
      events.countP (fun event => Metrics.isOfRequests kind event.counterKey) = 0 := by
    refine List.countP_eq_zero.mpr fun event member isRequest => notRequests ?_
    rw [← eq_of_beq (Bool.and_eq_true_iff.mp isRequest).1]
    exact areOf event member
  exact ⟨noRequest "discovery", noRequest "lookup", rfl⟩

/-- Balances add up. -/
theorem append {unsent laterUnsent : Nat} {events laterEvents : List Event} {urls laterUrls : List Url}
    (later : Balances laterUnsent laterEvents laterUrls) (earlier : Balances unsent events urls) :
    Balances (laterUnsent + unsent) (laterEvents ++ events) (laterUrls ++ urls) where
  discoveries := by
    rw [List.countP_append, List.countP_append, later.discoveries, earlier.discoveries]
    omega
  lookups := by rw [List.countP_append, List.countP_append, later.lookups, earlier.lookups]
  kinds := by
    rw [List.countP_append, List.countP_append, List.length_append, ← later.kinds, ← earlier.kinds]
    omega

end Resolution.Balances

namespace Service

variable (service : Service)

/-- What was counted and requested is what some resolutions account for. -/
structure Accounts (calls : List Call) (events : List Event) (urls : List Url) : Prop where
  endings : (events.countP fun event => event.counterKey.1 = .resolutions) = calls.countP (Call.ends service)
  answers : ∀ source : Source,
    (events.countP fun event => event.counterKey = (.resolutions, ["success", source.word])) =
      calls.countP fun call => call.answersFrom service source
  failures : ∀ (isForeign : Bool) (kind : String), kind ≠ "success" →
    (events.countP fun event => event.counterKey = (.resolutions, [kind, pathWord isForeign])) =
      calls.countP fun call => call.failsAs service isForeign kind
  hits : (events.countP fun event => event.counterKey = (.cacheHits, ["user_stub"])) =
    calls.countP fun call => call.answersFrom service .cache
  looks : (events.countP fun event => event.counterKey = (.cacheHits, ["user_stub"])) +
      (events.countP fun event => event.counterKey = (.cacheMisses, ["user_stub"])) =
    calls.countP (Call.isAdmitted service)
  requests : Balances (calls.countP (Call.abandons service)) events urls

variable {service}

namespace Accounts

variable {calls laterCalls : List Call} {events laterEvents : List Event} {urls laterUrls : List Url}

theorem nil (service : Service) : service.Accounts [] [] [] :=
  ⟨rfl, fun _ => rfl, fun _ _ _ => rfl, rfl, rfl, rfl, rfl, rfl⟩

/-- Accounts add up. -/
theorem append (later : service.Accounts laterCalls laterEvents laterUrls)
    (earlier : service.Accounts calls events urls) :
    service.Accounts (laterCalls ++ calls) (laterEvents ++ events) (laterUrls ++ urls) where
  endings := by rw [List.countP_append, List.countP_append, later.endings, earlier.endings]
  answers source := by
    rw [List.countP_append, List.countP_append, later.answers, earlier.answers]
  failures isForeign kind notSuccess := by
    rw [List.countP_append, List.countP_append, later.failures isForeign kind notSuccess,
      earlier.failures isForeign kind notSuccess]
  hits := by rw [List.countP_append, List.countP_append, later.hits, earlier.hits]
  looks := by
    have laterLooks := later.looks
    have earlierLooks := earlier.looks
    simp only [List.countP_append]
    omega
  requests := by
    rw [List.countP_append]
    exact later.requests.append earlier.requests

end Accounts

end Service

namespace Call

variable (service : Service) (call : Call)

theorem kind_of_mem_access :
    ∀ event ∈ call.access service, event.counterKey.1 ∈ [.cacheHits, .cacheMisses] := by
  intro event member
  unfold access at member
  split at member
  · rw [List.mem_singleton.mp member, Event.counterKey]
    cases call.answersFrom service .cache <;> decide
  · cases member

section

variable {inquiry : List Event} (onlyRequests : ∀ event ∈ inquiry, event.counterKey.1 ∈ [.requestsMade])
  {chosen : Event → Bool}

include onlyRequests

/-- The one end of a resolution that a resolution counts is its own. -/
theorem countP_of_resolutions
    (isResolution : ∀ event, chosen event = true → event.counterKey.1 ∈ [.resolutions]) :
    (call.events service inquiry).countP chosen =
      ((call.outcome service).1.any fun result =>
        chosen (resolutionEvent (call.isForeign service) result)).toNat := by
  rw [events, List.countP_append, List.countP_append, countP_ending,
    Event.countP_eq_zero_of_kinds onlyRequests isResolution (by decide),
    Event.countP_eq_zero_of_kinds (call.kind_of_mem_access service) isResolution (by decide)]
  rfl

/-- So is the one look for a stub. -/
theorem countP_of_accesses
    (isAccess : ∀ event, chosen event = true → event.counterKey.1 ∈ [.cacheHits, .cacheMisses]) :
    (call.events service inquiry).countP chosen = (call.access service).countP chosen := by
  rw [events, List.countP_append, List.countP_append,
    Event.countP_eq_zero_of_kinds (kind_of_mem_ending _ _) isAccess (by decide),
    Event.countP_eq_zero_of_kinds onlyRequests isAccess (by decide), Nat.zero_add, Nat.zero_add]

end

/-- A resolution accounts for what it counts and requests. -/
theorem exists_accounts : ∃ events urls, call.world.Adds events urls (call.outcome service).2 ∧
    service.Accounts [call] events urls := by
  obtain ⟨inquiry, urls, balances, onlyRequests, adds⟩ := call.exists_inquiry service
  have ofKey {key : CounterKind × List String} (kinds : List CounterKind) (isKind : key.1 ∈ kinds) :
      ∀ event : Event, decide (event.counterKey = key) = true → event.counterKey.1 ∈ kinds :=
    fun event isKey => of_decide_eq_true isKey ▸ isKind
  refine ⟨_, urls, adds, ?endings, fun source => ?answers, fun isForeign kind notSuccess => ?failures,
    ?hits, ?looks, ?requests⟩
  case endings =>
    rw [call.countP_of_resolutions service onlyRequests fun event isResolution =>
      List.mem_singleton.mpr (of_decide_eq_true isResolution), countP_singleton_eq_toNat, ends]
    simp only [fst_counterKey_resolutionEvent, decide_true]
    cases (call.outcome service).1 <;> rfl
  case answers =>
    rw [call.countP_of_resolutions service onlyRequests (ofKey _ List.mem_cons_self), countP_singleton_eq_toNat,
      answersFrom]
    simp only [counterKey_resolutionEvent_eq_answer_iff, Bool.decide_eq_true]
  case failures =>
    rw [call.countP_of_resolutions service onlyRequests (ofKey _ List.mem_cons_self), countP_singleton_eq_toNat,
      failsAs]
    simp only [counterKey_resolutionEvent_eq_failure_iff notSuccess]
    cases (call.outcome service).1 with
    | none => rfl
    | some result => simp [Bool.beq_eq_decide_eq]
  case hits =>
    rw [call.countP_of_accesses service onlyRequests (ofKey _ (by decide)), countP_singleton_eq_toNat]
    cases isCached : call.answersFrom service .cache with
    | true =>
      rw [access, isAdmitted_of_answersFrom_cache isCached, isCached]
      rfl
    | false =>
      rw [access, isCached]
      cases call.isAdmitted service <;> rfl
  case looks =>
    rw [call.countP_of_accesses service onlyRequests (ofKey _ (by decide)),
      call.countP_of_accesses service onlyRequests (ofKey _ (by decide)), countP_singleton_eq_toNat]
    unfold access
    cases call.isAdmitted service with
    | false => rfl
    | true => cases call.answersFrom service .cache <;> rfl
  case requests =>
    have ofEnding := Balances.of_kinds (kind_of_mem_ending (call.isForeign service) (call.outcome service).1)
      (by decide)
    have ofAccess := Balances.of_kinds (call.kind_of_mem_access service) (by decide)
    rw [countP_singleton_eq_toNat, events]
    simpa using ofEnding.append (balances.append ofAccess)

end Call

/-! ### Runs -/

namespace Service.Ran

variable {service : Service} {fits : Surroundings → Prop} {first : World} {calls : List Call} {world : World}

/-- What a service counted and requested since it came to a world is what its resolutions account for. -/
theorem exists_accounts (ran : service.Ran fits first calls world) :
    ∃ events urls, first.Adds events urls world ∧ service.Accounts calls events urls := by
  induction ran with
  | started => exact ⟨[], [], .refl first, .nil service⟩
  | @resolved calls call ran suits inductionHypothesis =>
    obtain ⟨events, urls, adds, accounts⟩ := inductionHypothesis
    obtain ⟨ownEvents, ownUrls, ownAdds, ownAccounts⟩ := call.exists_accounts service
    exact ⟨_, _, adds.trans ownAdds, ownAccounts.append accounts⟩
  | @did calls world ran surroundings suits chore inductionHypothesis =>
    obtain ⟨events, urls, adds, accounts⟩ := inductionHypothesis
    exact ⟨_, _, adds.trans (chore.adds_run service surroundings world), accounts⟩
  | waited ran span inductionHypothesis =>
    obtain ⟨events, urls, adds, accounts⟩ := inductionHypothesis
    exact ⟨events, urls, ⟨adds.metrics, adds.requested⟩, accounts⟩

/-- After a reset, the counters of resolutions sum up to the resolutions that came to a result, which all did
but those that the server broke down over: each answer is counted under its source, and each failure under
its kind and whether the user was one of another instance. There were as many hits and misses as handles
that were admitted, and the hits are the answers from a stub. The counters of each kind of request sum up to
the URLs of that kind that were requested, and no others were; but a request for a declaration is also
counted where a resolution comes to ask an instance for which there is no URL, and nothing is requested. -/
theorem counters_agree (ran : service.Ran fits first calls world) (isReset : first.metrics = .empty) :
    let metrics := world.metrics
    (metrics.total .resolutions = calls.countP (Call.ends service) ∧
      ((∀ call ∈ calls, ∀ window, call.Opens service window →
          ¬ call.world.called.called.BreaksOver call.surroundings (window.seconds service.windows)) →
        metrics.total .resolutions = calls.length)) ∧
    (∀ source : Source, metrics.counter .resolutions ["success", source.word] =
      calls.countP fun call => call.answersFrom service source) ∧
    (∀ (isForeign : Bool) (kind : String), kind ≠ "success" →
      metrics.counter .resolutions [kind, if isForeign then "remote" else "local"] =
        calls.countP fun call => call.failsAs service isForeign kind) ∧
    metrics.counter .cacheHits ["user_stub"] + metrics.counter .cacheMisses ["user_stub"] =
      calls.countP (Call.isAdmitted service) ∧
    metrics.counter .cacheHits ["user_stub"] = (calls.countP fun call => call.answersFrom service .cache) ∧
    ∃ urls, world.requested = urls ++ first.requested ∧
      urls.countP (Url.leadsTo declarationPath) + urls.countP (Url.leadsTo lookupPath) = urls.length ∧
      metrics.sum (Metrics.isOfRequests "lookup") = urls.countP (Url.leadsTo lookupPath) ∧
      metrics.sum (Metrics.isOfRequests "discovery") =
        urls.countP (Url.leadsTo declarationPath) + calls.countP (Call.abandons service) ∧
      ((∀ call ∈ calls, ∀ username domain, call.Asks service username domain →
          ∃ url, declarationUrl domain = .ok url) →
        metrics.sum (Metrics.isOfRequests "discovery") = urls.countP (Url.leadsTo declarationPath)) := by
  intro metrics
  obtain ⟨events, urls, adds, accounts⟩ := ran.exists_accounts
  have total : metrics.total .resolutions = calls.countP (Call.ends service) :=
    (adds.sum_eq isReset fun key => key.1 = .resolutions).trans accounts.endings
  have discoveries : metrics.sum (Metrics.isOfRequests "discovery") =
      urls.countP (Url.leadsTo declarationPath) + calls.countP (Call.abandons service) :=
    (adds.sum_eq isReset _).trans accounts.requests.discoveries
  refine ⟨⟨total, fun survive => ?ends⟩, fun source => ?answers, fun isForeign kind notSuccess => ?failures,
    ?looks, ?hits, urls, adds.requested, accounts.requests.kinds, ?lookups, discoveries, fun canAsk => ?sent⟩
  case ends =>
    rw [total]
    refine List.countP_eq_length.mpr fun call isCall => Bool.eq_true_of_not_eq_false fun isBroken => ?_
    obtain ⟨window, opens, -, breaks⟩ := Call.ends_eq_false_iff.mp isBroken
    exact survive call isCall window opens breaks
  case answers => exact (adds.counter_eq isReset _ _).trans (accounts.answers source)
  case failures => exact (adds.counter_eq isReset _ _).trans (accounts.failures isForeign kind notSuccess)
  case looks => rw [adds.counter_eq isReset, adds.counter_eq isReset, accounts.looks]
  case hits => exact (adds.counter_eq isReset _ _).trans accounts.hits
  case lookups => exact (adds.sum_eq isReset _).trans accounts.requests.lookups
  case sent =>
    have noneAbandoned : calls.countP (Call.abandons service) = 0 := by
      refine List.countP_eq_zero.mpr fun call isCall abandoned => ?_
      obtain ⟨username, domain, asks, fault, noUrl⟩ := Call.abandons_iff.mp abandoned
      obtain ⟨url, isUrl⟩ := canAsk call isCall username domain asks
      exact nomatch noUrl.symm.trans isUrl
    rw [discoveries, noneAbandoned, Nat.add_zero]

end Service.Ran

namespace Site

/-- The first resolution at a site fetches a record, and a minute later it is cached. -/
theorem counters_agree_askingAgain :
    elsewhere.service.Ran (fun _ => True) asking.world [askingAgain, asking]
      (askingAgain.outcome elsewhere.service).2 ∧
    asking.world.metrics = .empty ∧
    let after := (askingAgain.outcome elsewhere.service).2
    after.metrics.total .resolutions = 2 ∧
    after.metrics.counter .resolutions ["success", "remote"] = 1 ∧
    after.metrics.counter .resolutions ["success", "cache"] = 1 ∧
    after.metrics.counter .resolutions ["remote_lookup_failed", "remote"] = 0 ∧
    after.metrics.counter .cacheHits ["user_stub"] = 1 ∧
    after.metrics.counter .cacheMisses ["user_stub"] = 1 ∧
    after.requested.length = 2 ∧
    after.metrics.sum (Metrics.isOfRequests "discovery") = 1 ∧
    after.metrics.sum (Metrics.isOfRequests "lookup") = 1 := by
  have ran : elsewhere.service.Ran (fun _ => True) asking.world [askingAgain, asking]
      (askingAgain.outcome elsewhere.service).2 := ran_minuteLater.resolved trivial
  obtain ⟨first, second, declaredAt, lookedUpAt, -⟩ := (Surroundings.isAnswered_alice []).asked
  have plain : DomainName.IsPlain "other.example".toList :=
    DomainName.isPlain_of_validate admits_asking.accepted
  obtain ⟨firstDeclares, firstNotLookup⟩ := DomainName.leadsTo_of_declarationUrl plain declaredAt
  obtain ⟨secondLooks, secondNotDeclaration⟩ := DomainName.leadsTo_of_lookupUrl plain lookedUpAt
  have askedTwo : (asking.outcome elsewhere.service).2.requested = [second, first] := by
    rw [(Call.settles rfl admits_asking finding_asking).requested, Finding.requests, contacts, declaredAt,
      lookedUpAt]
    rfl
  obtain ⟨user, confirms⟩ := exists_confirms_asking
  obtain ⟨cached, isCached, sameRequested⟩ := exists_outcome_askingAgain
  have isFetched := confirms.answer
  obtain ⟨⟨total, -⟩, answers, failures, looks, hits, urls, requested, -, lookups, -, discoveries⟩ :=
    Service.Ran.counters_agree ran rfl
  have noneBefore : asking.world.requested = [] := rfl
  have two : (askingAgain.outcome elsewhere.service).2.requested = [second, first] :=
    sameRequested.trans askedTwo
  rw [noneBefore, List.append_nil, two] at requested
  have canAsk : ∀ call ∈ [askingAgain, asking], ∀ username domain,
      call.Asks elsewhere.service username domain → ∃ url, declarationUrl domain = .ok url := by
    intro call isCall username domain asks
    have isOther : domain = "other.example" := by
      rcases List.mem_cons.mp isCall with rfl | isCall
      · exact (asks.admits.eq_of_admits admits_askingAgain).2
      · obtain rfl := List.mem_singleton.mp isCall
        exact (asks.admits.eq_of_admits admits_asking).2
    exact ⟨first, isOther ▸ declaredAt⟩
  have admitted : asking.isAdmitted elsewhere.service = true :=
    Call.isAdmitted_iff.mpr ⟨_, _, admits_asking⟩
  have admittedAgain : askingAgain.isAdmitted elsewhere.service = true :=
    Call.isAdmitted_iff.mpr ⟨_, _, admits_askingAgain⟩
  have hit : (askingAgain.outcome elsewhere.service).2.metrics.counter .cacheHits ["user_stub"] = 1 := by
    rw [hits]
    simp [Call.answersFrom, isCached, isFetched, isAnswerFrom]
  refine ⟨ran, rfl, ?_, ?_, ?_, ?_, hit, ?_, ?_, ?_, ?_⟩
  · rw [total]
    simp [Call.ends, isCached, isFetched]
  · refine (answers .remote).trans ?_
    simp [Call.answersFrom, isCached, isFetched, isAnswerFrom]
  · refine (answers .cache).trans ?_
    simp [Call.answersFrom, isCached, isFetched, isAnswerFrom]
  · refine (failures true "remote_lookup_failed" (by decide)).trans ?_
    simp [Call.failsAs, isCached, isFetched, isFailureOf]
  · rw [hit] at looks
    simp [admitted, admittedAgain] at looks
    omega
  · rw [two]
    rfl
  · rw [discoveries canAsk, ← requested]
    simp [firstDeclares, secondNotDeclaration]
  · rw [lookups, ← requested]
    simp [firstNotLookup, secondLooks]

/-- The first resolution at a site of a user whose domain is acceptable, but cannot be written in a URL. -/
def misspelling : Call :=
  ⟨.silent, empty.world, "alice@xn--z.example"⟩

theorem asks_misspelling : misspelling.Asks empty.service "alice" "xn--z.example" where
  admits := ⟨⟨"xn--z.example", by decide, by decide⟩, by decide, by decide, rfl, by decide⟩
  mayAsk := ⟨nofun, World.recalls_of_get?_eq_none _ rfl, World.recalls_of_get?_eq_none _ rfl⟩

/-- That resolution requests nothing, and a request for a declaration is counted. And where the cooldown is the
longest that can be set, a resolution that finds another instance silent is not counted. -/
theorem counters_disagree :
    (empty.service.Ran (fun _ => True) misspelling.world [misspelling] (misspelling.outcome empty.service).2 ∧
      misspelling.world.metrics = .empty ∧
      (misspelling.outcome empty.service).2.requested = misspelling.world.requested ∧
      (misspelling.outcome empty.service).2.metrics.sum (Metrics.isOfRequests "discovery") = 1) ∧
    let call := refused 18446744073709551615
    let service := (waiting 18446744073709551615).service
    service.Ran (fun _ => True) call.world [call] (call.outcome service).2 ∧
      call.world.metrics = .empty ∧ (call.outcome service).2.metrics.total .resolutions = 0 := by
  refine ⟨?misspelt, ?enduring⟩
  case misspelt =>
    have abandons : misspelling.abandons empty.service = true :=
      Call.abandons_iff.mpr ⟨_, _, asks_misspelling, _, DomainName.declarationUrl_misspelt⟩
    have requested := Call.requested_of_abandons abandons
    have ran : empty.service.Ran (fun _ => True) misspelling.world [misspelling]
        (misspelling.outcome empty.service).2 := Service.Ran.started.resolved trivial
    obtain ⟨events, urls, adds, accounts⟩ := ran.exists_accounts
    obtain rfl : urls = [] := List.self_eq_append_left.mp (requested.symm.trans adds.requested)
    refine ⟨ran, rfl, requested, ?_⟩
    rw [adds.sum_eq rfl, accounts.requests.discoveries, countP_singleton_eq_toNat, abandons]
    rfl
  case enduring =>
    intro call service
    have broken : call.ends service = false := Call.ends_eq_false_iff.mpr
      ⟨.cooldown "other.example", opens_refused _, by decide, rfl, ⟨_, rfl⟩, by decide⟩
    have ran : service.Ran (fun _ => True) call.world [call] (call.outcome service).2 :=
      Service.Ran.started.resolved trivial
    obtain ⟨events, urls, adds, accounts⟩ := ran.exists_accounts
    refine ⟨ran, rfl, ?_⟩
    rw [Metrics.total_eq_sum, adds.sum_eq rfl, accounts.endings, countP_singleton_eq_toNat, broken]
    rfl

end Site

end HandleFederation
