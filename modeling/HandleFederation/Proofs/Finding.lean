/-
This file says that a resolution of a user at another instance is settled by what it
finds out. That is one of eight things, told apart by the stub, the two short-lived
values and what the instance has to say, and it can be told before the resolution runs.
The answer, the rows that are written, the value that is remembered and the URLs that
are requested all depend on nothing else; the counts, which do, are left out. So a proof
about resolutions looks at the eight findings, and at each of them once.
-/

import HandleFederation.Proofs.AtomicEffect
import HandleFederation.Proofs.NameCase

namespace HandleFederation

open Program Resolution Text

/-! ### What is known already -/

/-- A stub is not older than its lifetime allows; without a lifetime it may be as old as it likes. -/
def User.IsFresh (lifetime : Option Nat) (now : Timestamp) (user : User) : Prop :=
  ∀ seconds ∈ lifetime, user.updatedAt.elapsed now < seconds * Timestamp.perSecond

namespace Resolution.Cached

variable {lifetime : Option Nat} {now : Timestamp} {user : User}

theorem ofUser_of_isFresh (isFresh : user.IsFresh lifetime now) : ofUser lifetime now user = .fresh user := by
  cases lifetime with
  | none => rfl
  | some seconds => exact if_pos (isFresh seconds rfl)

theorem ofUser_of_not_isFresh (isStale : ¬ user.IsFresh lifetime now) :
    ofUser lifetime now user = .stale user := by
  cases lifetime with
  | none => exact absurd nofun isStale
  | some seconds =>
    refine if_neg fun young => isStale fun other isOther => ?_
    cases isOther
    exact young

end Resolution.Cached

/-! ### What is found out -/

/-- What a resolution of a user at another instance finds out. -/
inductive Finding where
  /-- There is a stub that is fresh. -/
  | fresh (user : User)
  /-- The user was missing a moment ago. -/
  | missed
  /-- The instance could not be discovered a moment ago. -/
  | cooling
  /-- The instance cannot be discovered, or takes no part in the federation. -/
  | undiscovered
  /-- There is no URL at which to ask for the user. -/
  | unaskable (failure : Failure)
  /-- The instance says nothing that can be used. -/
  | unusable
  /-- The instance has no such user. -/
  | missing
  /-- The instance declares itself and answers for the user. -/
  | found (declaration : Declaration) (profile : Profile)

namespace World

/-- What an instance that has declared itself answers about a user. -/
def inquiryAfter (surroundings : Surroundings) (username domain : String) (first : Url)
    (declaration : Declaration) (world : World) : Finding :=
  match Profile.lookupUrl domain (lower username) with
  | .error failure => .unaskable failure
  | .ok second =>
    match Profile.Answer.ofExchange username
      (surroundings.transport (first :: world.requested) second) with
    | .unusable => .unusable
    | .missing => .missing
    | .found profile => .found declaration profile

/-- What an instance has to say about a user when it is asked. -/
def inquiry (surroundings : Surroundings) (username domain : String) (world : World) : Finding :=
  match declarationUrl domain with
  | .error _ => .undiscovered
  | .ok first =>
    match Declaration.ofExchange domain (surroundings.transport world.requested first) with
    | .error _ => .undiscovered
    | .ok declaration =>
      if declaration.mode = .closed then .undiscovered
      else world.inquiryAfter surroundings username domain first declaration

/-- What an instance has to say about a user, unless it is left alone for the moment. -/
def attempt (surroundings : Surroundings) (username domain : String) (world : World) : Finding :=
  if world.recalls surroundings (cooldownKey domain) then .cooling
  else world.inquiry surroundings username domain

/-- What a resolution of a user at another instance finds out in a world. -/
def finding (surroundings : Surroundings) (windows : Windows) (username domain : String)
    (world : World) : Finding :=
  match (world.tables.stub? username domain).map (Cached.ofUser windows.stubLifetime world.time) with
  | some (.fresh user) => .fresh user
  | _ =>
    if world.recalls surroundings (missKey username domain) then .missed
    else world.called.attempt surroundings username domain

/-- The world over another store. -/
def withStore (store : ShortTermStore) (world : World) : World :=
  { world with store := store }

/-- What comes of writing an instance with one of its users. -/
def written (domain : String) (declaration : Declaration) (profile : Profile) (world : World) :
    Except Failure (User × Tables) :=
  world.tables.putRemoteUser (remoteSettings domain declaration) (stubFields profile)
    (identifier world.issued) (identifier (world.issued + 1)) world.time

/-- What is remembered for some seconds, and whether the server survives it. -/
def keeping (surroundings : Surroundings) (memo : Option (String × Nat)) (world : World) :
    Option Unit × ShortTermStore :=
  match memo with
  | none => (some (), world.store)
  | some (key, seconds) =>
    let left := world.remembering surroundings key seconds
    (left.1, left.2.store)

end World

namespace Finding

/-- What is remembered because of a finding: under which key, and for how many seconds. -/
def memo (windows : Windows) (username domain : String) : Finding → Option (String × Nat)
  | .undiscovered => some (cooldownKey domain, windows.discoveryCooldown)
  | .missing => some (missKey username domain, windows.missLifetime)
  | _ => none

/-- What is requested to come to a finding, in order. -/
def requests (username domain : String) : Finding → List Url
  | .fresh _ | .missed | .cooling => []
  | .undiscovered => (contacts username domain).take 1
  | .unaskable _ | .unusable | .missing | .found _ _ => contacts username domain

/-- The profile that is given because of a finding, if there is any to give. -/
def profile (username domain : String) (world : World) : Finding → Except Failure User
  | .fresh user => .ok user
  | .missed | .missing => .error (.userNotFound (fullName username domain))
  | .cooling | .undiscovered | .unusable => .error (.remoteLookupFailed domain)
  | .unaskable failure => .error failure
  | .found declaration profile => (world.written domain declaration profile).map Prod.fst

/-- The answer that is given because of a finding. -/
def answer (username domain : String) (world : World) : Finding → Except Failure Resolved
  | .fresh user => .ok ⟨user, domain, .cache⟩
  | finding => settle domain (world.tables.stub? username domain) (finding.profile username domain world)

/-- Unless there is a fresh stub, the profile that is given settles the answer. -/
theorem answer_eq_settle {username domain : String} {world : World} (finding : Finding)
    (notFresh : ∀ user, finding ≠ .fresh user) :
    finding.answer username domain world =
      settle domain (world.tables.stub? username domain) (finding.profile username domain world) := by
  cases finding with
  | fresh user => exact absurd rfl (notFresh user)
  | _ => rfl

/-- The tables that are left because of a finding. -/
def tables (domain : String) (world : World) : Finding → Tables
  | .found declaration profile =>
    ((world.written domain declaration profile).toOption.map Prod.snd).getD world.tables
  | _ => world.tables

end Finding

/-! ### What is said, told from what is found out -/

namespace Resolution

/-- The instance of a domain, when it is asked, does not declare itself as it should, or as one that takes
no part in the federation. -/
def IsUndiscoverable (surroundings : Surroundings) (domain : String) (requested : List Url) : Prop :=
  ∀ first declaration, declarationUrl domain = .ok first →
    Declaration.ofExchange domain (surroundings.transport requested first) = .ok declaration →
    declaration.mode = .closed

/-- The instance of a domain declared itself when it was asked, as one that takes part in the federation,
and then answered that it has no such user. -/
structure IsDenied (surroundings : Surroundings) (domain username : String) (requested : List Url) :
    Prop where
  asked : ∃ first second declaration response, declarationUrl domain = .ok first ∧
    Profile.lookupUrl domain (lower username) = .ok second ∧
    Declaration.ofExchange domain (surroundings.transport requested first) = .ok declaration ∧
    declaration.mode ≠ .closed ∧
    surroundings.transport (first :: requested) second = .ok response ∧ response.status = 404

end Resolution

theorem Profile.ofExchange_eq_missing_iff {username : String} {exchange : Exchange} :
    Answer.ofExchange username exchange = .missing ↔
      ∃ response, exchange = .ok response ∧ response.status = 404 := by
  rcases exchange with fault | response
  · exact iff_of_false nofun (by rintro ⟨_, ⟨⟩, _⟩)
  · unfold Answer.ofExchange
    dsimp only
    constructor
    · intro isMissing
      split at isMissing
      · split at isMissing <;> cases isMissing
      · split at isMissing
        · rename_i isNotFound
          exact ⟨response, rfl, isNotFound⟩
        · cases isMissing
    · rintro ⟨_, ⟨⟩, isNotFound⟩
      rw [isNotFound]
      rfl

namespace World

variable {surroundings : Surroundings} {windows : Windows} {username domain : String} {world : World}

theorem inquiry_eq_undiscovered_iff :
    world.inquiry surroundings username domain = .undiscovered ↔
      IsUndiscoverable surroundings domain world.requested := by
  unfold inquiry IsUndiscoverable
  cases declarationUrl domain with
  | error fault =>
    refine iff_of_true rfl ?_
    rintro _ _ ⟨⟩
  | ok first =>
    dsimp only
    cases declared : Declaration.ofExchange domain (surroundings.transport world.requested first) with
    | error fault =>
      refine iff_of_true rfl fun other declaration isFirst alsoDeclared => ?_
      cases isFirst
      rw [declared] at alsoDeclared
      cases alsoDeclared
    | ok declaration =>
      dsimp only
      split
      · rename_i isClosed
        refine iff_of_true rfl fun other found isFirst alsoDeclared => ?_
        cases isFirst
        rw [declared] at alsoDeclared
        cases alsoDeclared
        exact isClosed
      · rename_i takesPart
        refine iff_of_false ?_ fun closed => takesPart (closed first declaration rfl declared)
        unfold inquiryAfter
        repeat' split
        all_goals exact nofun

/-- What an instance has to say is one of five things. -/
theorem inquiry_cases (surroundings : Surroundings) (username domain : String) (world : World) :
    world.inquiry surroundings username domain = .undiscovered ∨
    world.inquiry surroundings username domain = .unusable ∨
    world.inquiry surroundings username domain = .missing ∨
    (∃ first failure, declarationUrl domain = .ok first ∧
      Profile.lookupUrl domain (lower username) = .error failure ∧
      world.inquiry surroundings username domain = .unaskable failure) ∨
    ∃ declaration profile, world.inquiry surroundings username domain = .found declaration profile := by
  unfold inquiry inquiryAfter
  cases declarationUrl domain with
  | error fault => exact Or.inl rfl
  | ok first =>
    dsimp only
    cases Declaration.ofExchange domain (surroundings.transport world.requested first) with
    | error fault => exact Or.inl rfl
    | ok declaration =>
      dsimp only
      split
      · exact Or.inl rfl
      · cases Profile.lookupUrl domain (lower username) with
        | error failure => exact Or.inr (Or.inr (Or.inr (Or.inl ⟨first, failure, rfl, rfl, rfl⟩)))
        | ok second =>
          dsimp only
          split
          · exact Or.inr (Or.inl rfl)
          · exact Or.inr (Or.inr (Or.inl rfl))
          · exact Or.inr (Or.inr (Or.inr (Or.inr ⟨_, _, rfl⟩)))

/-- What comes of asking for a user who can be asked for. -/
theorem inquiry_of_declared {first second : Url} {declaration : Declaration}
    (declaredAt : declarationUrl domain = .ok first)
    (lookedUpAt : Profile.lookupUrl domain (lower username) = .ok second)
    (declared : Declaration.ofExchange domain (surroundings.transport world.requested first) =
      .ok declaration) (takesPart : declaration.mode ≠ .closed) :
    world.inquiry surroundings username domain =
      match Profile.Answer.ofExchange username
        (surroundings.transport (first :: world.requested) second) with
      | .unusable => .unusable
      | .missing => .missing
      | .found profile => .found declaration profile := by
  unfold inquiry inquiryAfter
  rw [declaredAt]
  dsimp only
  rw [declared]
  dsimp only
  rw [if_neg takesPart, lookedUpAt]

/-- Something was said about a user only if the user could be asked for. -/
theorem exists_declared_of_inquiry
    (said : world.inquiry surroundings username domain = .missing ∨
      ∃ declaration profile, world.inquiry surroundings username domain = .found declaration profile) :
    ∃ first second declaration, declarationUrl domain = .ok first ∧
      Profile.lookupUrl domain (lower username) = .ok second ∧
      Declaration.ofExchange domain (surroundings.transport world.requested first) = .ok declaration ∧
      declaration.mode ≠ .closed := by
  unfold inquiry inquiryAfter at said
  split at said
  · rcases said with said | ⟨_, _, said⟩ <;> cases said
  · rename_i first declaredAt
    split at said
    · rcases said with said | ⟨_, _, said⟩ <;> cases said
    · rename_i declaration declared
      split at said
      · rcases said with said | ⟨_, _, said⟩ <;> cases said
      · rename_i takesPart
        split at said
        · rcases said with said | ⟨_, _, said⟩ <;> cases said
        · rename_i second lookedUpAt
          exact ⟨first, second, declaration, declaredAt, lookedUpAt, declared, takesPart⟩

theorem inquiry_eq_missing_iff :
    world.inquiry surroundings username domain = .missing ↔
      IsDenied surroundings domain username world.requested := by
  constructor
  · intro isMissing
    obtain ⟨first, second, declaration, declaredAt, lookedUpAt, declared, takesPart⟩ :=
      exists_declared_of_inquiry (Or.inl isMissing)
    rw [inquiry_of_declared declaredAt lookedUpAt declared takesPart] at isMissing
    split at isMissing
    · cases isMissing
    · rename_i answered
      obtain ⟨response, responded, isNotFound⟩ := Profile.ofExchange_eq_missing_iff.mp answered
      exact ⟨first, second, declaration, response, declaredAt, lookedUpAt, declared, takesPart,
        responded, isNotFound⟩
    · cases isMissing
  · rintro ⟨first, second, declaration, response, declaredAt, lookedUpAt, declared, takesPart,
      responded, isNotFound⟩
    rw [inquiry_of_declared declaredAt lookedUpAt declared takesPart,
      Profile.ofExchange_eq_missing_iff.mpr ⟨response, responded, isNotFound⟩]

theorem inquiry_eq_found_iff {declaration : Declaration} {profile : Profile} :
    world.inquiry surroundings username domain = .found declaration profile ↔
      IsAnswered surroundings domain username world.requested declaration profile := by
  constructor
  · intro isFound
    obtain ⟨first, second, _, declaredAt, lookedUpAt, declared, takesPart⟩ :=
      exists_declared_of_inquiry (Or.inr ⟨_, _, isFound⟩)
    rw [inquiry_of_declared declaredAt lookedUpAt declared takesPart] at isFound
    split at isFound
    · cases isFound
    · cases isFound
    · rename_i answered
      cases isFound
      exact ⟨⟨first, second, declaredAt, lookedUpAt, declared, answered⟩, takesPart⟩
  · rintro ⟨⟨first, second, declaredAt, lookedUpAt, declared, answered⟩, takesPart⟩
    rw [inquiry_of_declared declaredAt lookedUpAt declared takesPart, answered]

theorem finding_of_isFresh {user : User} (stub : world.tables.stub? username domain = some user)
    (isFresh : user.IsFresh windows.stubLifetime world.time) :
    world.finding surroundings windows username domain = .fresh user := by
  rw [finding, stub, Option.map_some, Cached.ofUser_of_isFresh isFresh]

theorem finding_of_not_isFresh (notFresh : ∀ user ∈ world.tables.stub? username domain,
      ¬ user.IsFresh windows.stubLifetime world.time) :
    world.finding surroundings windows username domain =
      if world.recalls surroundings (missKey username domain) then .missed
      else world.called.attempt surroundings username domain := by
  unfold finding
  cases stub : world.tables.stub? username domain with
  | none => rfl
  | some user => rw [Option.map_some, Cached.ofUser_of_not_isFresh (notFresh user stub)]

end World

/-! ### Runs -/

namespace World

variable (surroundings : Surroundings) {world other : World}

/-- What becomes of something to be remembered depends on the store and the clock alone. -/
theorem remembering_congr (sameStore : other.store = world.store) (sameNow : other.now = world.now)
    (sameCalls : other.storeCalls = world.storeCalls) (key : String) (seconds : Nat) :
    (other.remembering surroundings key seconds).1 = (world.remembering surroundings key seconds).1 ∧
      (other.remembering surroundings key seconds).2.store =
        (world.remembering surroundings key seconds).2.store := by
  unfold remembering
  rw [sameStore, sameNow, sameCalls]
  split
  · exact ⟨rfl, sameStore⟩
  · split
    · exact ⟨rfl, sameStore⟩
    · split
      · exact ⟨rfl, rfl⟩
      · exact ⟨rfl, sameStore⟩

theorem recalls_congr (sameCalls : other.storeCalls = world.storeCalls) {key : String}
    (same : other.store.get? other.now key = world.store.get? world.now key) :
    other.recalls surroundings key = world.recalls surroundings key := by
  rw [recalls, recalls, sameCalls, same]

/-- What an instance has to say depends on the requests so far. -/
theorem inquiry_congr (sameRequested : other.requested = world.requested) (username domain : String) :
    other.inquiry surroundings username domain = world.inquiry surroundings username domain := by
  unfold inquiry inquiryAfter
  rw [sameRequested]

/-- So does what an attempt finds out, apart from the requests so far. -/
theorem attempt_congr (sameStore : other.store = world.store) (sameNow : other.now = world.now)
    (sameCalls : other.storeCalls = world.storeCalls) (sameRequested : other.requested = world.requested)
    (username domain : String) :
    other.attempt surroundings username domain = world.attempt surroundings username domain := by
  have sameValue : other.store.get? other.now (cooldownKey domain) =
      world.store.get? world.now (cooldownKey domain) := by rw [sameStore, sameNow]
  unfold attempt
  rw [recalls_congr surroundings sameCalls sameValue, inquiry_congr surroundings sameRequested]

theorem keeping_congr (sameStore : other.store = world.store) (sameNow : other.now = world.now)
    (sameCalls : other.storeCalls = world.storeCalls) (memo : Option (String × Nat)) :
    other.keeping surroundings memo = world.keeping surroundings memo := by
  cases memo with
  | none => exact Prod.ext rfl sameStore
  | some kept =>
    obtain ⟨sameResult, sameKept⟩ :=
      remembering_congr surroundings sameStore sameNow sameCalls kept.1 kept.2
    exact Prod.ext sameResult sameKept

theorem tables_remembering (key : String) (seconds : Nat) :
    (world.remembering surroundings key seconds).2.tables = world.tables := by
  unfold remembering
  split
  · rfl
  · split
    · rfl
    · split <;> rfl

/-- What a change of the tables of an open database comes to, and what is left alone. -/
theorem changeTables_of_isOpen {Result : Type} (isOpen : world.isDatabaseOpen = true) (identifiers : Nat)
    (change : Tables → Except Failure (Result × Tables)) :
    (world.changeTables identifiers change).1 = (change world.tables).map Prod.fst ∧
      (world.changeTables identifiers change).2.tables =
        ((change world.tables).toOption.map Prod.snd).getD world.tables ∧
      (world.changeTables identifiers change).2.store = world.store ∧
      (world.changeTables identifiers change).2.requested = world.requested := by
  unfold changeTables
  rw [if_pos isOpen]
  dsimp only
  cases change world.tables with
  | error failure => exact ⟨rfl, rfl, rfl, rfl⟩
  | ok changed => exact ⟨rfl, rfl, rfl, rfl⟩

end World

/-- An outcome is what a finding in a world settles, apart from the counts, when so much was done with
the store before and such a result is to be given. -/
structure Finding.Settles {Result : Type} (surroundings : Surroundings) (windows : Windows)
    (username domain : String) (world called : World) (finding : Finding)
    (result : Except Failure Result) (outcome : Option (Except Failure Result) × World) : Prop where
  result : outcome.1 = (called.keeping surroundings (finding.memo windows username domain)).1.map
    fun _ => result
  tables : outcome.2.tables = finding.tables domain world
  store : outcome.2.store =
    (called.keeping surroundings (finding.memo windows username domain)).2
  requested : outcome.2.requested = (finding.requests username domain).reverse ++ world.requested

/-- What is remembered after some requests settles an outcome. -/
theorem Finding.settles_of_remembering {Result : Type} {surroundings : Surroundings} {windows : Windows}
    {username domain key : String} {seconds : Nat} {world called after : World} {finding : Finding}
    (isMemo : finding.memo windows username domain = some (key, seconds))
    (sameStore : after.store = called.store) (sameNow : after.now = called.now)
    (sameCalls : after.storeCalls = called.storeCalls)
    (tables : after.tables = finding.tables domain world)
    (requested : after.requested = (finding.requests username domain).reverse ++ world.requested)
    (result : Except Failure Result) :
    finding.Settles surroundings windows username domain world called result
      ((after.remembering surroundings key seconds).1.map fun _ => result,
        (after.remembering surroundings key seconds).2) := by
  obtain ⟨sameResult, sameKept⟩ :=
    World.remembering_congr surroundings sameStore sameNow sameCalls key seconds
  refine ⟨?_, ?_, ?_, ?_⟩
  · rw [isMemo]
    exact congrArg (Option.map fun _ => result) sameResult
  · exact (World.tables_remembering surroundings key seconds).trans tables
  · rw [isMemo]
    exact sameKept
  · exact (World.requested_remembering surroundings key seconds after).trans requested

namespace Resolution

variable (surroundings : Surroundings) (windows : Windows) (username domain : String) {world : World}

/-- A fetch fails as the discovery does. -/
theorem run_fetch_of_error {failure : Failure} {left : Option Unit × World}
    (discovered : (discover windows domain).toProgram.run surroundings world =
      (left.1.map fun _ => .error failure, left.2)) :
    (fetch windows username domain).toProgram.run surroundings world =
      (left.1.map fun _ => .error failure, left.2) := by
  rw [run_fetch, discovered]
  rcases left with ⟨_ | _, after⟩ <;> rfl

/-- A fetch that has discovered the instance comes to what the instance answers about the user. -/
theorem settles_run_fetch_of_ok (isOpen : world.isDatabaseOpen = true) {declaration : Declaration}
    {first : Url} (declaredAt : declarationUrl domain = .ok first)
    (discovered : (discover windows domain).toProgram.run surroundings world =
      (some (.ok declaration), (world.called.asked first).countedRequest "discovery" "ok")) :
    let finding := world.inquiryAfter surroundings username domain first declaration
    finding.Settles surroundings windows username domain world world.called
      (finding.profile username domain world)
      ((fetch windows username domain).toProgram.run surroundings world) := by
  rw [run_fetch, discovered]
  dsimp only
  rw [run_askProfile]
  unfold World.inquiryAfter
  cases lookedUpAt : Profile.lookupUrl domain (lower username) with
  | error failure =>
    have one : contacts username domain = [first] := by rw [contacts, declaredAt, lookedUpAt]
    refine ⟨rfl, rfl, rfl, ?_⟩
    rw [Finding.requests, one]
    rfl
  | ok second =>
    have two : contacts username domain = [first, second] := by rw [contacts, declaredAt, lookedUpAt]
    have asked : ((world.called.asked first).countedRequest "discovery" "ok").requested =
      first :: world.requested := rfl
    dsimp only
    rw [asked]
    cases Profile.Answer.ofExchange username
      (surroundings.transport (first :: world.requested) second) with
    | unusable =>
      refine ⟨rfl, rfl, rfl, ?_⟩
      rw [Finding.requests, two]
      rfl
    | missing =>
      refine Finding.settles_of_remembering ?_ ?_ ?_ ?_ ?_ ?requested _
      case requested =>
        rw [Finding.requests, two]
        rfl
      all_goals rfl
    | found profile =>
      have stillOpen : ((((world.called.asked first).countedRequest "discovery" "ok").asked
          second).countedRequest "lookup"
          (lookupOutcome (surroundings.transport (first :: world.requested) second))).isDatabaseOpen =
          true := isOpen
      obtain ⟨result, tables, store, requested⟩ := World.changeTables_of_isOpen stillOpen 2
        (Tables.putRemoteUser (remoteSettings domain declaration) (stubFields profile)
          (identifier world.issued) (identifier (world.issued + 1)) world.time)
      refine ⟨congrArg some result, tables, store, requested.trans ?_⟩
      rw [Finding.requests, two]
      rfl

/-- A fetch comes to what the attempt to ask the instance finds out. -/
theorem settles_run_fetch (isOpen : world.isDatabaseOpen = true) :
    let finding := world.attempt surroundings username domain
    finding.Settles surroundings windows username domain world world.called
      (finding.profile username domain world)
      ((fetch windows username domain).toProgram.run surroundings world) := by
  have discovered := run_discover surroundings windows domain world
  dsimp only
  unfold World.attempt
  cases cooling : world.recalls surroundings (cooldownKey domain) with
  | true =>
    rw [cooling] at discovered
    rw [run_fetch, discovered]
    exact ⟨rfl, rfl, rfl, rfl⟩
  | false =>
    rw [cooling, if_neg Bool.false_ne_true] at discovered
    rw [if_neg Bool.false_ne_true]
    unfold World.declaring at discovered
    unfold World.inquiry
    cases declaredAt : declarationUrl domain with
    | error fault =>
      rw [declaredAt] at discovered
      rw [run_fetch_of_error surroundings windows username domain discovered]
      refine Finding.settles_of_remembering ?_ ?_ ?_ ?_ ?_ ?requested _
      case requested =>
        rw [Finding.requests, contacts, declaredAt]
        rfl
      all_goals rfl
    | ok first =>
      have asked : Finding.undiscovered.requests username domain = [first] := by
        rw [Finding.requests, contacts, declaredAt]
        rfl
      rw [declaredAt] at discovered
      dsimp only at discovered ⊢
      rw [World.requested_called] at discovered
      cases declared : Declaration.ofExchange domain (surroundings.transport world.requested first) with
      | error fault =>
        rw [declared] at discovered
        rw [run_fetch_of_error surroundings windows username domain discovered]
        refine Finding.settles_of_remembering ?_ ?_ ?_ ?_ ?_ ?requested _
        case requested =>
          rw [asked]
          rfl
        all_goals rfl
      | ok declaration =>
        rw [declared] at discovered
        dsimp only at discovered ⊢
        split
        · rename_i isClosed
          rw [if_pos isClosed] at discovered
          rw [run_fetch_of_error surroundings windows username domain discovered]
          refine Finding.settles_of_remembering ?_ ?_ ?_ ?_ ?_ ?requested _
          case requested =>
            rw [asked]
            rfl
          all_goals rfl
        · rename_i takesPart
          rw [if_neg takesPart] at discovered
          exact settles_run_fetch_of_ok surroundings windows username domain isOpen declaredAt discovered

/-- A profile that an attempt comes to settles the answer. -/
theorem answer_attempt (calling : World) :
    (calling.attempt surroundings username domain).answer username domain world =
      settle domain (world.tables.stub? username domain)
        ((calling.attempt surroundings username domain).profile username domain world) := by
  unfold World.attempt
  split
  · rfl
  · rcases World.inquiry_cases surroundings username domain calling with
      said | said | said | ⟨_, _, -, -, said⟩ | ⟨_, _, said⟩
    all_goals
      rw [said]
      rfl

/-- A resolution that has no fresh stub comes to what it finds out from there on, whatever was counted
so far. -/
theorem settles_of_not_fresh (isOpen : world.isDatabaseOpen = true) (metrics : Metrics) :
    let missed : World := { world with metrics := metrics }
    let fetched := (fetch windows username domain).toProgram.run surroundings missed.called
    let finding := if world.recalls surroundings (missKey username domain) then .missed
      else world.called.attempt surroundings username domain
    finding.Settles surroundings windows username domain world world.called.called
      (finding.answer username domain world)
      (if missed.recalls surroundings (missKey username domain) then
        (some (.error (.userNotFound (fullName username domain))), missed.called)
      else (fetched.1.map (settle domain (world.tables.stub? username domain)), fetched.2)) := by
  have sameRecall : ({ world with metrics := metrics } : World).recalls surroundings
      (missKey username domain) = world.recalls surroundings (missKey username domain) := rfl
  dsimp only
  rw [sameRecall]
  split
  · exact ⟨rfl, rfl, rfl, rfl⟩
  · have stillOpen : ({ world with metrics := metrics } : World).called.isDatabaseOpen = true := isOpen
    have settles := settles_run_fetch surroundings windows username domain stillOpen
    have sameAttempt : ({ world with metrics := metrics } : World).called.attempt surroundings username
        domain = world.called.attempt surroundings username domain :=
      by refine World.attempt_congr surroundings ?_ ?_ ?_ ?_ username domain <;> rfl
    dsimp only at settles
    rw [sameAttempt] at settles
    rw [answer_attempt]
    generalize world.called.attempt surroundings username domain = finding at settles ⊢
    obtain ⟨result, tables, store, requested⟩ := settles
    have sameKeeping : ({ world with metrics := metrics } : World).called.called.keeping surroundings
        (finding.memo windows username domain) =
        world.called.called.keeping surroundings (finding.memo windows username domain) :=
      by refine World.keeping_congr surroundings ?_ ?_ ?_ _ <;> rfl
    rw [sameKeeping] at result store
    refine ⟨?_, ?_, store, requested⟩
    · rw [result, Option.map_map]
      cases finding <;> rfl
    · rw [tables]
      cases finding <;> rfl

/-- What is known of a user can be told as long as the database is open. -/
theorem stubFound_eq (isOpen : world.isDatabaseOpen = true) (lifetime : Option Nat) :
    world.stubFound lifetime username domain = .ok
      (((world.tables.stub? username domain).map (Cached.ofUser lifetime world.time)).getD .missing) := by
  rw [World.stubFound, World.readTables, if_pos isOpen]
  cases world.tables.stub? username domain <;> rfl

/-- A resolution at another instance comes to what it finds out. -/
theorem settles_run_resolveRemote (isOpen : world.isDatabaseOpen = true) :
    let finding := world.finding surroundings windows username domain
    finding.Settles surroundings windows username domain world world.called.called
      (finding.answer username domain world)
      ((resolveRemote windows username domain).toProgram.run surroundings world) := by
  have notFresh := settles_of_not_fresh surroundings windows username domain isOpen
    (world.metrics.record (.cacheAccess "user_stub" false))
  dsimp only at notFresh ⊢
  rw [run_resolveRemote, stubFound_eq username domain isOpen]
  unfold World.finding
  cases stub : world.tables.stub? username domain with
  | none =>
    rw [stub] at notFresh
    exact notFresh
  | some user =>
    rw [stub] at notFresh
    dsimp only [Option.map_some, Option.getD_some]
    by_cases isFresh : user.IsFresh windows.stubLifetime world.time
    · rw [Cached.ofUser_of_isFresh isFresh]
      exact ⟨rfl, rfl, rfl, rfl⟩
    · rw [Cached.ofUser_of_not_isFresh isFresh]
      exact notFresh

end Resolution

/-! ### Handles -/

/-- A text is a handle of a user of another instance for whom a service may ask in a world, and it asks
under this username and at this domain. -/
structure Service.Admits (service : Service) (world : World) (text username domain : String) : Prop where
  reads : ∃ domainText, Handle.read text = ⟨username, some domainText⟩ ∧
    DomainName.normalize domainText = domain
  valid : Username.validate username = .ok ()
  isForeign : domain ≠ service.domain
  permitted : world.permission service.home.id domain = .ok ()
  accepted : DomainName.validate service.blocked domain = .ok domain

/-- Domains with one normal form are permitted together. -/
theorem World.permission_eq_of_normalize_eq {instanceId text domain : String} {world : World}
    (same : DomainName.normalize text = DomainName.normalize domain) :
    world.permission instanceId text = world.permission instanceId domain := by
  rw [permission, permission, same]

namespace Service

variable {service : Service} {world : World} {text username domain : String}

theorem Admits.normalize_domain (admits : service.Admits world text username domain) :
    DomainName.normalize domain = domain :=
  DomainName.normalize_of_validate admits.accepted

/-- A domain that is asked is in lower case. -/
theorem Admits.lower_domain (admits : service.Admits world text username domain) :
    lower domain = domain := by
  rw [← admits.normalize_domain, DomainName.lower_normalize]

/-- A handle is only admitted as long as the database is open. -/
theorem Admits.isDatabaseOpen (admits : service.Admits world text username domain) :
    world.isDatabaseOpen = true := by
  rcases World.isGranted_of_permission admits.permitted with hasMode | ⟨hasMode, -⟩
  · exact World.isDatabaseOpen_of_hasMode hasMode
  · exact World.isDatabaseOpen_of_hasMode hasMode

/-- What a handle is admitted for depends on the tables. -/
theorem Admits.congr {other : World} (admits : service.Admits world text username domain)
    (sameOpen : other.isDatabaseOpen = world.isDatabaseOpen) (sameTables : other.tables = world.tables) :
    service.Admits other text username domain := by
  have samePermission : other.permission service.home.id domain =
      world.permission service.home.id domain := by
    rw [World.permission, World.permission, World.readTables, World.readTables, World.readTables,
      World.readTables, sameOpen, sameTables]
  exact ⟨admits.reads, admits.valid, admits.isForeign, samePermission.trans admits.permitted,
    admits.accepted⟩

/-- A handle is admitted just if it comes through all checks of a resolution. -/
theorem admits_iff : service.Admits world text username domain ↔
    (Handle.read text).username = username ∧ Username.validate username = .ok () ∧
      ∃ domainText, foreignDomain? service (Handle.read text) = some domainText ∧
        world.permission service.home.id domainText = .ok () ∧
        acceptDomain service.blocked domainText = .ok domain := by
  constructor
  · intro admits
    obtain ⟨domainText, reads, normal⟩ := admits.reads
    have sameNormal : DomainName.normalize domainText = DomainName.normalize domain :=
      normal.trans admits.normalize_domain.symm
    rw [reads]
    refine ⟨rfl, admits.valid, domainText, ?_, ?_, ?_⟩
    · exact foreignDomain?_eq_some_iff.mpr ⟨rfl, normal.symm ▸ admits.isForeign⟩
    · exact (World.permission_eq_of_normalize_eq sameNormal).trans admits.permitted
    · exact acceptDomain_eq_ok_iff.mpr
        ((DomainName.validate_eq_of_normalize_eq sameNormal).trans admits.accepted)
  · rintro ⟨rfl, valid, domainText, foreign, permitted, accepted⟩
    obtain ⟨names, isForeign⟩ := foreignDomain?_eq_some_iff.mp foreign
    have validated := acceptDomain_eq_ok_iff.mp accepted
    obtain rfl := DomainName.normalize_of_validate validated
    have again := DomainName.validate_of_validate validated
    refine ⟨⟨domainText, ?_, rfl⟩, valid, isForeign, ?_, again⟩
    · rw [← names]
    · rw [← permitted]
      exact World.permission_eq_of_normalize_eq (DomainName.normalize_of_validate again)

variable (surroundings : Surroundings)

/-- A handle that is admitted is resolved at the other instance. -/
theorem run_resolveHandle_of_admits (admits : service.Admits world text username domain) :
    (resolveHandle service (Handle.read text)).toProgram.run surroundings world =
      (resolveRemote service.windows username domain).toProgram.run surroundings world := by
  obtain ⟨rfl, valid, domainText, foreign, permitted, accepted⟩ := admits_iff.mp admits
  rw [run_resolveHandle, valid]
  dsimp only
  rw [foreign]
  dsimp only
  rw [permitted]
  dsimp only
  rw [accepted]

/-- A handle that is not admitted changes nothing and is not answered from another instance, and its answer
is the same whatever is remembered. -/
theorem run_resolveHandle_of_not_admits
    (notAdmitted : ¬ ∃ username domain, service.Admits world text username domain) :
    ∃ result, (∀ store, (resolveHandle service (Handle.read text)).toProgram.run surroundings
        (world.withStore store) = (some result, world.withStore store)) ∧
      ∀ resolved, result = .ok resolved → resolved.source = .home := by
  cases valid : Username.validate (Handle.read text).username with
  | error failure =>
    refine ⟨.error failure, fun store => ?_, by rintro _ ⟨⟩⟩
    rw [run_resolveHandle, valid]
  | ok _ =>
    cases foreign : foreignDomain? service (Handle.read text) with
    | none =>
      refine ⟨world.accountAnswer service (Handle.read text).username, fun store => ?_,
        fun resolved answer => (World.isHome_of_accountAnswer answer).1⟩
      rw [run_resolveHandle, valid]
      dsimp only
      rw [foreign]
      rfl
    | some domainText =>
      have samePermission : ∀ store, (world.withStore store).permission service.home.id domainText =
          world.permission service.home.id domainText := fun _ => rfl
      cases permitted : world.permission service.home.id domainText with
      | error failure =>
        refine ⟨.error failure, fun store => ?_, by rintro _ ⟨⟩⟩
        rw [run_resolveHandle, valid]
        dsimp only
        rw [foreign]
        dsimp only
        rw [samePermission, permitted]
      | ok _ =>
        cases accepted : acceptDomain service.blocked domainText with
        | error failure =>
          refine ⟨.error failure, fun store => ?_, by rintro _ ⟨⟩⟩
          rw [run_resolveHandle, valid]
          dsimp only
          rw [foreign]
          dsimp only
          rw [samePermission, permitted]
          dsimp only
          rw [accepted]
        | ok domain =>
          have admits : service.Admits world text (Handle.read text).username domain :=
            admits_iff.mpr ⟨rfl, valid, domainText, foreign, permitted, accepted⟩
          exact absurd ⟨_, _, admits⟩ notAdmitted

/-- What a resolution of a handle that is admitted finds out settles it. -/
theorem settles_run_resolve (isOpen : world.isDatabaseOpen = true)
    (admits : service.Admits world text username domain) :
    let finding := world.finding surroundings service.windows username domain
    finding.Settles surroundings service.windows username domain world world.called.called
      (finding.answer username domain world)
      ((service.resolve text).toProgram.run surroundings world) := by
  have counts := run_resolve_counts surroundings service text world
  have settles := settles_run_resolveRemote surroundings service.windows username domain isOpen
  dsimp only at counts settles ⊢
  rw [run_resolveHandle_of_admits surroundings admits] at counts
  obtain ⟨sameResult, sameRequested, sameTables, sameStore⟩ := counts
  exact ⟨sameResult.trans settles.result, sameTables.trans settles.tables,
    sameStore.trans settles.store, sameRequested.trans settles.requested⟩

/-- A handle that is not admitted changes nothing of what is kept, and requests nothing; and its answer is
the same whatever is remembered. -/
theorem run_resolve_of_not_admits
    (notAdmitted : ¬ ∃ username domain, service.Admits world text username domain) :
    ∃ result, (∀ resolved, result = .ok resolved → resolved.source = .home) ∧ ∀ store,
      let outcome := (service.resolve text).toProgram.run surroundings (world.withStore store)
      outcome.1 = some result ∧ outcome.2.requested = world.requested ∧
        outcome.2.tables = world.tables ∧ outcome.2.store = store := by
  obtain ⟨result, stays, isHome⟩ := run_resolveHandle_of_not_admits surroundings notAdmitted
  refine ⟨result, isHome, fun store => ?_⟩
  have counts := run_resolve_counts surroundings service text (world.withStore store)
  dsimp only at counts ⊢
  rw [stays] at counts
  exact counts

end Service

end HandleFederation
