/-
This file says that the way in which another instance fails cannot be observed. There are
many ways: the network may fail, a status may be the wrong one, a document may be unreadable,
too long or about another domain, and the instance may take no part in the federation. Which of
them it was is seen in the counts alone. The answer, its wording, the world that is left and
what is sent to a caller over HTTP are the same for all of them, as long as it is the same of
the two requests that fails.
-/

import HandleFederation.Proofs.AskedUsername
import HandleFederation.Proofs.ResolvedIdentity
import HandleFederation.Proofs.ServedAnswer

namespace HandleFederation

open Program Resolution Text

/-! ### Ways to fail -/

/-- The outcome of a request for the declaration of the instance of a domain is one of those by which the
instance cannot be discovered. -/
inductive Declaration.FailsFor (domain : String) : Exchange → Prop
  /-- The request brought no response. -/
  | transport (fault : TransportFault) : FailsFor domain (.error fault)
  | status {response : Response} (notOk : response.status ≠ 200) : FailsFor domain (.ok response)
  /-- The body holds no declaration within its bounds. -/
  | rejected {response : Response}
    (exceeds : ∀ declaration, (Json.ofBytes? response.body).bind Declaration.ofJson? = some declaration →
      declaration.isWithinBounds = false) : FailsFor domain (.ok response)
  | otherDomain {response : Response} {declaration : Declaration}
    (reads : (Json.ofBytes? response.body).bind Declaration.ofJson? = some declaration)
    (differs : sameUpToCase declaration.domain domain = false) : FailsFor domain (.ok response)
  | closed {response : Response} {declaration : Declaration}
    (reads : (Json.ofBytes? response.body).bind Declaration.ofJson? = some declaration)
    (isClosed : declaration.mode = .closed) : FailsFor domain (.ok response)

/-- A declaration that is accepted stands in the body of a response, within its bounds and about the domain
that was asked. -/
theorem Declaration.ofExchange_eq_ok_iff {domain : String} {response : Response} {declaration : Declaration} :
    ofExchange domain (.ok response) = .ok declaration ↔
      response.status = 200 ∧ (Json.ofBytes? response.body).bind ofJson? = some declaration ∧
        declaration.isWithinBounds = true ∧ sameUpToCase declaration.domain domain = true := by
  unfold ofExchange ofBody
  dsimp only
  constructor
  · intro accepted
    split at accepted
    · cases accepted
    · rename_i isOk
      split at accepted
      · cases accepted
      · rename_i found reads
        split at accepted
        · cases accepted
        · rename_i within
          split at accepted
          · cases accepted
          · rename_i same
            cases accepted
            exact ⟨by simpa using isOk, reads, by simpa using within, by simpa using same⟩
  · rintro ⟨isOk, reads, within, same⟩
    rw [reads, isOk]
    dsimp only
    rw [within, same]
    rfl

/-- These are the outcomes after which no instance is found that takes part in the federation. -/
theorem Declaration.failsFor_iff {domain : String} {exchange : Exchange} :
    FailsFor domain exchange ↔
      ∀ declaration, ofExchange domain exchange = .ok declaration → declaration.mode = .closed := by
  constructor
  · intro fails declaration accepted
    cases fails with
    | transport fault => cases accepted
    | status notOk => exact absurd (ofExchange_eq_ok_iff.mp accepted).1 notOk
    | rejected exceeds =>
      obtain ⟨-, reads, within, -⟩ := ofExchange_eq_ok_iff.mp accepted
      exact Bool.noConfusion (within.symm.trans (exceeds declaration reads))
    | otherDomain reads differs =>
      obtain ⟨-, readsToo, -, same⟩ := ofExchange_eq_ok_iff.mp accepted
      cases reads.symm.trans readsToo
      exact Bool.noConfusion (same.symm.trans differs)
    | closed reads isClosed =>
      obtain ⟨-, readsToo, -⟩ := ofExchange_eq_ok_iff.mp accepted
      cases reads.symm.trans readsToo
      exact isClosed
  · intro closed
    rcases exchange with fault | response
    · exact .transport fault
    · by_cases isOk : response.status = 200
      · cases reads : (Json.ofBytes? response.body).bind ofJson? with
        | none =>
          refine .rejected fun declaration found => ?_
          rw [reads] at found
          cases found
        | some declaration =>
          cases within : declaration.isWithinBounds with
          | false =>
            refine .rejected fun other found => ?_
            cases reads.symm.trans found
            exact within
          | true =>
            cases same : sameUpToCase declaration.domain domain with
            | false => exact .otherDomain reads same
            | true =>
              have accepted := ofExchange_eq_ok_iff.mpr ⟨isOk, reads, within, same⟩
              exact .closed reads (closed declaration accepted)
      · exact .status isOk

/-- The outcome of a request for a user is one of those from which nothing about the user is learned. -/
inductive Profile.FailsFor (username : String) : Exchange → Prop
  /-- The request brought no response. -/
  | transport (fault : TransportFault) : FailsFor username (.error fault)
  | status {response : Response} (notOk : response.status ≠ 200) (notMissing : response.status ≠ 404) :
    FailsFor username (.ok response)
  /-- The body holds no profile of the user within its bounds. -/
  | rejected {response : Response} (isOk : response.status = 200)
    (refused : Profile.ofBody? username response.body = none) : FailsFor username (.ok response)

/-- These are the outcomes that say nothing that can be used. -/
theorem Profile.failsFor_iff {username : String} {exchange : Exchange} :
    FailsFor username exchange ↔ Answer.ofExchange username exchange = .unusable := by
  constructor
  · intro fails
    cases fails with
    | transport fault => rfl
    | status notOk notMissing =>
      unfold Answer.ofExchange
      dsimp only
      rw [if_neg notOk, if_neg notMissing]
    | rejected isOk refused =>
      unfold Answer.ofExchange
      dsimp only
      rw [if_pos isOk, refused]
  · intro unusable
    rcases exchange with fault | response
    · exact .transport fault
    · unfold Answer.ofExchange at unusable
      dsimp only at unusable
      split at unusable
      · rename_i isOk
        split at unusable
        · cases unusable
        · rename_i refused
          exact .rejected isOk refused
      · rename_i notOk
        split at unusable
        · cases unusable
        · rename_i notMissing
          exact .status notOk notMissing

/-- Two networks bring the same from the instance of a domain, for one of its users, or fail at the same
request in ways of their own. -/
structure Resolution.FailAlike (username domain : String) (transport other : List Url → Url → Exchange) :
    Prop where
  declares : ∀ requested url, declarationUrl domain = .ok url →
    other requested url = transport requested url ∨
      (Declaration.FailsFor domain (transport requested url) ∧
        Declaration.FailsFor domain (other requested url))
  answers : ∀ requested url, Profile.lookupUrl domain (lower username) = .ok url →
    other requested url = transport requested url ∨
      (Profile.FailsFor username (transport requested url) ∧
        Profile.FailsFor username (other requested url))

/-- The same surroundings with another network. -/
def Surroundings.over (surroundings : Surroundings) (transport : List Url → Url → Exchange) : Surroundings :=
  { surroundings with transport := transport }

theorem Surroundings.transport_over (surroundings : Surroundings) (transport : List Url → Url → Exchange) :
    (surroundings.over transport).transport = transport := rfl

theorem World.recalls_over (surroundings : Surroundings) (transport : List Url → Url → Exchange)
    (key : String) (world : World) :
    world.recalls (surroundings.over transport) key = world.recalls surroundings key := rfl

theorem World.remembering_over (surroundings : Surroundings) (transport : List Url → Url → Exchange)
    (key : String) (seconds : Nat) (world : World) :
    world.remembering (surroundings.over transport) key seconds =
      world.remembering surroundings key seconds := by
  unfold remembering
  rfl

/-! ### What is left by a failure -/

/-- The world with other counts. -/
def World.withMetrics (metrics : Metrics) (world : World) : World :=
  { world with metrics := metrics }

/-- Two runs give the same result and leave the same world, apart from what is counted. -/
def Resolution.LooksSame {Result : Type} (outcome again : Option (Except Failure Result) × World) : Prop :=
  ∃ metrics, again = (outcome.1, outcome.2.withMetrics metrics)

/-- What is remembered does not depend on what was counted. -/
theorem World.remembering_withMetrics (surroundings : Surroundings) (key : String) (seconds : Nat)
    (metrics : Metrics) (world : World) :
    (world.withMetrics metrics).remembering surroundings key seconds =
      ((world.remembering surroundings key seconds).1,
        (world.remembering surroundings key seconds).2.withMetrics metrics) := by
  unfold remembering withMetrics
  split
  · rfl
  · dsimp only
    split
    · rfl
    · split <;> rfl

namespace Resolution

variable {surroundings : Surroundings} {transport : List Url → Url → Exchange} {username domain : String}

namespace LooksSame

variable {Result : Type}

theorem refl (outcome : Option (Except Failure Result) × World) : LooksSame outcome outcome :=
  ⟨outcome.2.metrics, rfl⟩

/-- Two runs that look the same as a third one look the same. -/
theorem of_same {outcome again third : Option (Except Failure Result) × World}
    (first : LooksSame third outcome) (second : LooksSame third again) : LooksSame outcome again := by
  obtain ⟨metrics, rfl⟩ := first
  obtain ⟨metricsAgain, rfl⟩ := second
  exact ⟨metricsAgain, rfl⟩

/-- Runs that look the same still do so when their results are made into others. -/
theorem map {Other : Type} {outcome again : Option (Except Failure Result) × World}
    (looksSame : LooksSame outcome again) (change : Except Failure Result → Except Failure Other) :
    LooksSame (outcome.1.map change, outcome.2) (again.1.map change, again.2) := by
  obtain ⟨metrics, rfl⟩ := looksSame
  exact ⟨metrics, rfl⟩

/-- Something is remembered whatever was counted before. -/
theorem remembering (surroundings : Surroundings) (key : String) (seconds : Nat)
    (result : Except Failure Result) (metrics : Metrics) (world : World) :
    let left := world.remembering surroundings key seconds
    let leftAgain := (world.withMetrics metrics).remembering surroundings key seconds
    LooksSame (left.1.map fun _ => result, left.2) (leftAgain.1.map fun _ => result, leftAgain.2) := by
  rw [World.remembering_withMetrics]
  exact ⟨metrics, rfl⟩

end LooksSame

/-- A discovery that fails leaves the same in whatever way it fails: that it failed is remembered. -/
theorem run_discover_of_failsFor (windows : Windows) {world : World} {url : Url}
    (notCooling : world.recalls surroundings (cooldownKey domain) = false)
    (declaredAt : declarationUrl domain = .ok url)
    (fails : Declaration.FailsFor domain (surroundings.transport world.requested url)) :
    let left := (world.called.asked url).remembering surroundings (cooldownKey domain)
      windows.discoveryCooldown
    LooksSame (left.1.map fun _ => .error (.remoteLookupFailed domain), left.2)
      ((discover windows domain).toProgram.run surroundings world) := by
  rw [run_discover, notCooling, if_neg Bool.false_ne_true, World.declaring, declaredAt]
  dsimp only
  rw [World.requested_called]
  cases declared : Declaration.ofExchange domain (surroundings.transport world.requested url) with
  | error fault => exact .remembering surroundings _ _ _ _ (world.called.asked url)
  | ok declaration =>
    dsimp only
    rw [if_pos (Declaration.failsFor_iff.mp fails declaration declared)]
    exact .remembering surroundings _ _ _ _ (world.called.asked url)

/-- Instances are discovered alike over networks that fail alike: the run is the same, or it fails. -/
theorem run_discover_of_failAlike (failAlike : FailAlike username domain surroundings.transport transport)
    (windows : Windows) (world : World) :
    let outcome := (discover windows domain).toProgram.run surroundings world
    let again := (discover windows domain).toProgram.run (surroundings.over transport) world
    again = outcome ∨ LooksSame outcome again ∧ ∀ declaration, outcome.1 ≠ some (.ok declaration) := by
  have coolingAgain := World.recalls_over surroundings transport (cooldownKey domain) world
  dsimp only
  cases cooling : world.recalls surroundings (cooldownKey domain) with
  | true =>
    refine Or.inl ?_
    rw [run_discover, run_discover, coolingAgain, cooling, if_pos rfl, if_pos rfl]
  | false =>
    rw [cooling] at coolingAgain
    cases declaredAt : declarationUrl domain with
    | error fault =>
      rw [run_discover, run_discover, coolingAgain, cooling, World.declaring, World.declaring, declaredAt]
      dsimp only
      rw [World.remembering_over]
      exact Or.inl rfl
    | ok url =>
      rcases failAlike.declares world.requested url declaredAt with same | ⟨fails, failsAgain⟩
      · have sameAsked : world.called.declaring (surroundings.over transport) domain =
            world.called.declaring surroundings domain := by
          rw [World.declaring, World.declaring, declaredAt]
          dsimp only
          rw [World.requested_called, Surroundings.transport_over, same]
        refine Or.inl ?_
        rw [run_discover, run_discover, cooling, coolingAgain, sameAsked]
        simp only [World.remembering_over]
      · have failed := run_discover_of_failsFor windows cooling declaredAt fails
        have failedAgain := run_discover_of_failsFor windows coolingAgain declaredAt
          (surroundings.transport_over transport ▸ failsAgain)
        dsimp only at failed failedAgain
        rw [World.remembering_over] at failedAgain
        refine Or.inr ⟨failed.of_same failedAgain, fun declaration succeeded => ?_⟩
        obtain ⟨metrics, same⟩ := failed
        rw [same] at succeeded
        obtain ⟨_, -, isError⟩ := Option.map_eq_some_iff.mp succeeded
        cases isError

/-- Users are looked up alike over networks that fail alike: the run is the same, or it is of no use. -/
theorem run_askProfile_of_failAlike (failAlike : FailAlike username domain surroundings.transport transport)
    (world : World) :
    let outcome := (askProfile username domain).toProgram.run surroundings world
    let again := (askProfile username domain).toProgram.run (surroundings.over transport) world
    again = outcome ∨ LooksSame outcome again ∧ outcome.1 = some (.ok .unusable) := by
  dsimp only
  rw [run_askProfile, run_askProfile, Surroundings.transport_over]
  cases lookedUpAt : Profile.lookupUrl domain (lower username) with
  | error failure => exact Or.inl rfl
  | ok url =>
    dsimp only
    rcases failAlike.answers world.requested url lookedUpAt with same | ⟨fails, failsAgain⟩
    · rw [same]
      exact Or.inl rfl
    · rw [Profile.failsFor_iff.mp fails, Profile.failsFor_iff.mp failsAgain]
      exact Or.inr ⟨⟨_, rfl⟩, rfl⟩

/-- Profiles are fetched alike over networks that fail alike. -/
theorem looksSame_run_fetch (failAlike : FailAlike username domain surroundings.transport transport)
    (windows : Windows) (world : World) :
    LooksSame ((fetch windows username domain).toProgram.run surroundings world)
      ((fetch windows username domain).toProgram.run (surroundings.over transport) world) := by
  have discovered := run_discover_of_failAlike failAlike windows world
  rw [run_fetch, run_fetch]
  revert discovered
  generalize (discover windows domain).toProgram.run (surroundings.over transport) world = again
  rcases (discover windows domain).toProgram.run surroundings world with ⟨result, found⟩
  rintro (rfl | ⟨⟨metrics, rfl⟩, notFound⟩)
  · rcases result with _ | failure | declaration
    · exact .refl _
    · exact .refl _
    · have asked := run_askProfile_of_failAlike failAlike found
      dsimp only
      revert asked
      generalize (askProfile username domain).toProgram.run (surroundings.over transport) found = answerAgain
      rcases (askProfile username domain).toProgram.run surroundings found with ⟨answer, answered⟩
      rintro (rfl | ⟨⟨metrics, rfl⟩, isUnusable⟩)
      · rcases answer with _ | failure | profile | _ | _
        case some.ok.missing =>
          dsimp only
          rw [World.remembering_over]
          exact .refl _
        all_goals exact .refl _
      · cases isUnusable
        exact ⟨metrics, rfl⟩
  · rcases result with _ | failure | declaration
    · exact ⟨metrics, rfl⟩
    · exact ⟨metrics, rfl⟩
    · exact absurd rfl (notFound declaration)

/-- Users of other instances are resolved alike over networks that fail alike. -/
theorem looksSame_run_resolveRemote (failAlike : FailAlike username domain surroundings.transport transport)
    (windows : Windows) (world : World) :
    LooksSame ((resolveRemote windows username domain).toProgram.run surroundings world)
      ((resolveRemote windows username domain).toProgram.run (surroundings.over transport) world) := by
  have fetched := looksSame_run_fetch failAlike windows
    (world.counted (.cacheAccess "user_stub" false)).called
  have sameRecall := World.recalls_over surroundings transport (missKey username domain)
    (world.counted (.cacheAccess "user_stub" false))
  rw [run_resolveRemote, run_resolveRemote]
  cases world.stubFound windows.stubLifetime username domain with
  | error failure => exact .refl _
  | ok cached =>
    cases cached with
    | fresh user => exact .refl _
    | stale user =>
      dsimp only
      rw [sameRecall]
      cases (world.counted (.cacheAccess "user_stub" false)).recalls surroundings (missKey username domain) with
      | true => exact .refl _
      | false => exact fetched.map _
    | missing =>
      dsimp only
      rw [sameRecall]
      cases (world.counted (.cacheAccess "user_stub" false)).recalls surroundings (missKey username domain) with
      | true => exact .refl _
      | false => exact fetched.map _

/-- Handles are resolved alike over networks that fail alike. -/
theorem looksSame_run_resolveHandle {service : Service} {handle : Handle}
    (failAlike : FailAlike handle.username (service.domainOf handle) surroundings.transport transport)
    (world : World) :
    LooksSame ((resolveHandle service handle).toProgram.run surroundings world)
      ((resolveHandle service handle).toProgram.run (surroundings.over transport) world) := by
  rw [run_resolveHandle, run_resolveHandle]
  cases Username.validate handle.username with
  | error failure => exact .refl _
  | ok _ =>
    cases foreign : foreignDomain? service handle with
    | none => exact .refl _
    | some domainText =>
      dsimp only
      cases world.permission service.home.id domainText with
      | error failure => exact .refl _
      | ok _ =>
        cases accepted : acceptDomain service.blocked domainText with
        | error failure => exact .refl _
        | ok domain =>
          have isDomain : service.domainOf handle = domain := by
            rw [Service.domainOf, (foreignDomain?_eq_some_iff.mp foreign).1]
            exact DomainName.normalize_of_validate (acceptDomain_eq_ok_iff.mp accepted)
          exact looksSame_run_resolveRemote (isDomain ▸ failAlike) service.windows world

/-- Texts are resolved alike over networks that fail alike. -/
theorem looksSame_run_resolve {service : Service} {text : String}
    (failAlike : FailAlike (Handle.read text).username (service.domainOf (Handle.read text))
      surroundings.transport transport) (world : World) :
    LooksSame ((service.resolve text).toProgram.run surroundings world)
      ((service.resolve text).toProgram.run (surroundings.over transport) world) := by
  have handled := looksSame_run_resolveHandle failAlike world
  rw [run_resolve, run_resolve]
  revert handled
  generalize (resolveHandle service (Handle.read text)).toProgram.run (surroundings.over transport) world =
    again
  rcases (resolveHandle service (Handle.read text)).toProgram.run surroundings world with ⟨result, after⟩
  rintro ⟨metrics, rfl⟩
  cases result with
  | none => exact ⟨metrics, rfl⟩
  | some result => exact ⟨_, rfl⟩

end Resolution

/-! ### What a caller sees -/

/-- A program that only makes something else of the result of another one runs as that one does. -/
theorem Program.run_andThen_done {First Second : Type} (surroundings : Surroundings) (program : Program First)
    (change : First → Second) (world : World) :
    (program.andThen fun result => .done (change result)).run surroundings world =
      ((program.run surroundings world).1.map change, (program.run surroundings world).2) := by
  rw [run_andThen]
  rcases program.run surroundings world with ⟨_ | result, after⟩ <;> rfl

/-- What is sent to a caller depends on what the endpoint answers, and not on when it does. -/
theorem Endpoint.fst_run_serve (service : Service) (surroundings : Surroundings) (request : HttpRequest)
    (endpoint : Endpoint) (world : World) :
    ((endpoint.serve service request).run surroundings world).1 =
      ((endpoint.answerMethod service request).run surroundings world).1.map fun answered =>
        if request.method = "HEAD" then (HttpResponse.ofAnswer request answered.1 answered.2).withoutBody
        else HttpResponse.ofAnswer request answered.1 answered.2 := by
  rw [serve, bind_eq_andThen, run_andThen, run_timed]
  rcases (endpoint.answerMethod service request).run surroundings world with ⟨_ | answered, after⟩
  · rfl
  · rfl

/-- Callers see the same if the endpoint of their request answers the same to the query. -/
theorem Service.fst_run_answer_congr (service : Service) {surroundings other : Surroundings}
    {request : HttpRequest} {endpoint : Endpoint} (isPath : request.path = endpoint.path) {world : World}
    (same : ((endpoint.answer service request.query.toList).run other world).1 =
      ((endpoint.answer service request.query.toList).run surroundings world).1) :
    ((service.answer request).run other world).1 = ((service.answer request).run surroundings world).1 := by
  have sameMethod : ((endpoint.answerMethod service request).run other world).1 =
      ((endpoint.answerMethod service request).run surroundings world).1 := by
    unfold Endpoint.answerMethod
    split
    · rw [bind_eq_andThen]
      simp only [pure_eq_done, run_andThen_done, same]
    · rfl
  unfold answer
  rw [isPath, Endpoint.ofPath?_path]
  dsimp only
  split
  · rfl
  · rw [Endpoint.fst_run_serve, Endpoint.fst_run_serve, sameMethod]

/-- What the endpoint of resolutions answers is the result of the resolution. -/
theorem Endpoint.fst_run_answer_resolve (service : Service) (surroundings : Surroundings) {query : List Char}
    {text : String} (field : Form.field "handle" query = .ok text) (world : World) :
    ((Endpoint.resolve.answer service query).run surroundings world).1 =
      ((service.resolve text).toProgram.run surroundings world).1.map fun result =>
        match result with
        | .ok resolved => .json 200 resolved.toJson
        | .error failure => .ofFailure failure := by
  have read : Endpoint.resolve.answer service query = Answer.ofAction (answerResolve service text) := by
    show withField "handle" query (answerResolve service) = _
    rw [withField, field]
  have resolved : (answerResolve service text).toProgram = (service.resolve text).toProgram.andThen
      fun result => .done (result.map fun resolved => Answer.json 200 resolved.toJson) := by
    rw [answerResolve, Action.toProgram_bind]
    refine congrArg _ (funext fun result => ?_)
    cases result <;> rfl
  rw [read, Answer.ofAction, bind_eq_andThen, run_andThen, resolved, run_andThen_done]
  rcases (service.resolve text).toProgram.run surroundings world with ⟨_ | failure | resolved, after⟩ <;> rfl

/-- The same site over another network. -/
def Site.over (site : Site) (transport : List Url → Url → Exchange) : Site :=
  { site with surroundings := site.surroundings.over transport }

/-- How another instance fails cannot be observed. Over two networks that bring the same from it, or fail
at the same request in ways of their own, a handle of one of its users is answered the same, and leaves
the same world, with the same requests, tables and short-lived values; only the counts may differ. A
caller who asks over HTTP for the handle is sent the same response. -/
theorem Site.resolve_hides_failures (site : Site) {text : String} {transport : List Url → Url → Exchange}
    (failAlike : FailAlike (Handle.read text).username (site.service.domainOf (Handle.read text))
      site.surroundings.transport transport) :
    let outcome := site.resolve text
    let again := (site.over transport).resolve text
    again.1 = outcome.1 ∧
    (∃ metrics, again.2 = outcome.2.withMetrics metrics) ∧
    ∀ request : HttpRequest, request.path = Endpoint.resolve.path →
      Form.field "handle" request.query.toList = .ok text →
      ((site.service.answer request).run (site.over transport).surroundings site.world).1 =
        ((site.service.answer request).run site.surroundings site.world).1 := by
  obtain ⟨metrics, same⟩ := looksSame_run_resolve failAlike site.world
  have sameRun : (site.over transport).resolve text =
      ((site.resolve text).1, (site.resolve text).2.withMetrics metrics) := same
  dsimp only
  refine ⟨?_, ⟨metrics, ?_⟩, fun request isPath field => ?_⟩
  · rw [sameRun]
  · rw [sameRun]
  · refine site.service.fst_run_answer_congr isPath ?_
    rw [Endpoint.fst_run_answer_resolve site.service _ field,
      Endpoint.fst_run_answer_resolve site.service _ field]
    show Option.map _ ((site.over transport).resolve text).1 = Option.map _ (site.resolve text).1
    rw [sameRun]

/-! ### An instance that fails to answer -/

/-- A network in which one instance declares itself, and all else has one outcome. -/
def Exchange.afterDeclaration (outcome : Exchange) : List Url → Url → Exchange :=
  fun _ url => if url.query.isNone then .ok (.ofJson Declaration.plain.toJson) else outcome

/-- A site that has just started, with such a network around it. -/
def Site.unanswered (outcome : Exchange) : Site :=
  .atStart (.plain "home.example") (Surroundings.silent.over outcome.afterDeclaration) (.memory .empty) 0

/-- Whether a request for a user is not answered in time or by a status and a text of any kind cannot be
told apart. -/
theorem Site.resolve_hides_status :
    let silent := Site.unanswered (.error .timeout)
    let failing := silent.over (Exchange.afterDeclaration (.ok ⟨500, Utf8.bytes "out of memory"⟩))
    let request : HttpRequest :=
      ⟨"GET", "/api/v1/resolve", String.ofList (Form.pairLetters "handle" "alice@other.example"), []⟩
    silent.IsReachable ∧
    (failing.resolve "alice@other.example").1 = (silent.resolve "alice@other.example").1 ∧
    (∃ metrics, (failing.resolve "alice@other.example").2 =
      (silent.resolve "alice@other.example").2.withMetrics metrics) ∧
    ((silent.service.answer request).run failing.surroundings silent.world).1 =
      ((silent.service.answer request).run silent.surroundings silent.world).1 := by
  have failAlike : FailAlike "alice" "other.example" (Exchange.afterDeclaration (.error .timeout))
      (Exchange.afterDeclaration (.ok ⟨500, Utf8.bytes "out of memory"⟩)) := by
    refine ⟨fun requested url _ => ?_, fun requested url _ => ?_⟩
    · unfold Exchange.afterDeclaration
      split
      · exact Or.inl rfl
      · exact Or.inr ⟨.transport _, .status (by decide)⟩
    · unfold Exchange.afterDeclaration
      split
      · exact Or.inl rfl
      · exact Or.inr ⟨.transport _, .status (by decide) (by decide)⟩
  have reads : Handle.read "alice@other.example" = ⟨"alice", some "other.example"⟩ := by decide
  have isDomain : (Site.unanswered (.error .timeout)).service.domainOf ⟨"alice", some "other.example"⟩ =
      "other.example" := by decide
  have failAlikeThere : FailAlike (Handle.read "alice@other.example").username
      ((Site.unanswered (.error .timeout)).service.domainOf (Handle.read "alice@other.example"))
      (Site.unanswered (.error .timeout)).surroundings.transport
      (Exchange.afterDeclaration (.ok ⟨500, Utf8.bytes "out of memory"⟩)) := by
    rw [reads, isDomain]
    exact failAlike
  obtain ⟨result, world, response⟩ :=
    (Site.unanswered (.error .timeout)).resolve_hides_failures failAlikeThere
  refine ⟨isReachable_atStart _ _ _ _, result, world, response _ rfl ?_⟩
  rw [String.toList_ofList]
  exact Form.field_pairLetters "handle" "alice@other.example"

end HandleFederation
