/-
This file says for how long nothing is asked. An instance that could not be discovered
is left alone for a while, and a user who was missing is not asked for again for a
while: a resolution that finds this out opens a window. Whatever is done afterwards,
the short-lived values that a store in the memory holds are the windows that are still
open and nothing else, but for the one by which the store is probed. A window is never
cut short by another one, since nothing that would open it again is found out as long
as it is open. So a resolution is held up by the windows of its domain and its user,
and by no others, and where there are none it asks.
-/

import HandleFederation.Proofs.InProcessStore
import HandleFederation.Proofs.RecentConfirmation

namespace HandleFederation

open Program Resolution Text

/-! ### Keys -/

namespace Resolution

theorem toList_cooldownKey (domain : String) :
    (cooldownKey domain).toList = "discovery:fail:".toList ++ domain.toList :=
  String.toList_append

theorem toList_missKey (username domain : String) : (missKey username domain).toList =
    "lookup:miss:".toList ++ (domain.toList ++ '/' :: (lower username).toList) := by
  have spelt : missKey username domain = "lookup:miss:" ++ domain ++ "/" ++ lower username := rfl
  rw [spelt]
  simp only [String.toList_append, List.append_assoc]
  rfl

theorem cooldownKey_injective {domain place : String} (same : cooldownKey domain = cooldownKey place) :
    domain = place := by
  have letters := congrArg String.toList same
  rw [toList_cooldownKey, toList_cooldownKey] at letters
  exact String.toList_inj.mp (List.append_cancel_left letters)

/-- Without a slash in it a domain is told from the username after it. -/
theorem missKey_injective {username domain name place : String} (plain : '/' ∉ domain.toList)
    (plainThere : '/' ∉ place.toList) (same : missKey username domain = missKey name place) :
    lower username = lower name ∧ domain = place := by
  have letters := congrArg String.toList same
  rw [toList_missKey, toList_missKey] at letters
  have rest : domain.toList ++ '/' :: (lower username).toList = place.toList ++ '/' :: (lower name).toList :=
    List.append_cancel_left letters
  have sameLength := congrArg (List.idxOf '/') rest
  rw [List.idxOf_append_of_notMem plain, List.idxOf_append_of_notMem plainThere, List.idxOf_cons_self,
    List.idxOf_cons_self] at sameLength
  obtain ⟨sameDomain, sameName⟩ := List.append_inj rest sameLength
  exact ⟨String.toList_inj.mp (List.cons.inj sameName).2, String.toList_inj.mp sameDomain⟩

theorem missKey_ne_cooldownKey (username domain place : String) :
    missKey username domain ≠ cooldownKey place := by
  intro same
  have letters := congrArg (fun key => key.toList.head?) same
  rw [toList_missKey, toList_cooldownKey] at letters
  cases letters

end Resolution

/-- An acceptable domain has no slash in it. -/
theorem DomainName.slash_notMem {domain : List Char} (plain : IsPlain domain) : '/' ∉ domain := by
  intro member
  exact absurd (plain.letters _ member) (by decide)

/-! ### Windows -/

/-- A time in which something is not asked. -/
inductive Window where
  /-- The instance of a domain, which could not be discovered, is left alone. -/
  | cooldown (domain : String)
  /-- A user, who was missing, is not asked for. -/
  | miss (username domain : String)

namespace Window

/-- The key under which a window is remembered. -/
def key : Window → String
  | .cooldown domain => cooldownKey domain
  | .miss username domain => missKey username domain

/-- How many seconds a window takes. -/
def seconds (windows : Windows) : Window → Nat
  | .cooldown _ => windows.discoveryCooldown
  | .miss _ _ => windows.missLifetime

/-- The domain of a window. -/
def domain : Window → String
  | .cooldown domain => domain
  | .miss _ domain => domain

/-- A window is one of a domain, or of one of its users in any case of the letters. -/
def Concerns (username domain : String) : Window → Prop
  | .cooldown place => place = domain
  | .miss name place => lower name = lower username ∧ place = domain

theorem key_ne_probeKey (window : Window) : window.key ≠ Health.probeKey := by
  intro same
  have letters := congrArg (fun key => key.toList.head?) same
  cases window with
  | cooldown domain =>
    dsimp only [key] at letters
    rw [toList_cooldownKey] at letters
    cases letters
  | miss username domain =>
    dsimp only [key] at letters
    rw [toList_missKey] at letters
    cases letters

/-- The windows that are remembered where a resolution looks are those of its domain and its user. -/
theorem concerns_of_key_eq {window : Window} {username domain : String}
    (plain : '/' ∉ window.domain.toList) (plainThere : '/' ∉ domain.toList)
    (same : window.key = cooldownKey domain ∨ window.key = missKey username domain) :
    window.Concerns username domain := by
  cases window with
  | cooldown place =>
    rcases same with same | same
    · exact cooldownKey_injective same
    · exact absurd same.symm (missKey_ne_cooldownKey username domain place)
  | miss name place =>
    rcases same with same | same
    · exact absurd same (missKey_ne_cooldownKey name place domain)
    · exact missKey_injective plain plainThere same

end Window

/-- The window that a finding opens. -/
def Finding.window? (username domain : String) : Finding → Option Window
  | .undiscovered => some (.cooldown domain)
  | .missing => some (.miss username domain)
  | _ => none

theorem Finding.memo_eq (windows : Windows) (username domain : String) (finding : Finding) :
    finding.memo windows username domain =
      (finding.window? username domain).map fun window => (window.key, window.seconds windows) := by
  cases finding <;> rfl

namespace World

/-- Nothing that is known keeps an instance from being asked for a user: there is no fresh stub, and
neither is remembered as missing or as out of reach. -/
structure MayAsk (surroundings : Surroundings) (windows : Windows) (username domain : String)
    (world : World) : Prop where
  notFresh : ∀ user ∈ world.tables.stub? username domain,
    ¬ user.IsFresh windows.stubLifetime world.time
  notMissed : world.recalls surroundings (missKey username domain) = false
  notCooling : world.called.recalls surroundings (cooldownKey domain) = false

variable {surroundings : Surroundings} {windows : Windows} {username domain : String} {world : World}

/-- Then the instance is asked. -/
theorem MayAsk.finding_eq (mayAsk : world.MayAsk surroundings windows username domain) :
    world.finding surroundings windows username domain = world.inquiry surroundings username domain := by
  have sameInquiry : world.called.inquiry surroundings username domain =
      world.inquiry surroundings username domain :=
    inquiry_congr surroundings (requested_called world) username domain
  rw [finding_of_not_isFresh mayAsk.notFresh, mayAsk.notMissed, if_neg Bool.false_ne_true, attempt,
    mayAsk.notCooling, if_neg Bool.false_ne_true, sameInquiry]

/-- What is not known beforehand was found out by asking. -/
theorem mayAsk_of_finding
    (notFresh : ∀ user, world.finding surroundings windows username domain ≠ .fresh user)
    (notMissed : world.finding surroundings windows username domain ≠ .missed)
    (notCooling : world.finding surroundings windows username domain ≠ .cooling) :
    world.MayAsk surroundings windows username domain := by
  have stale : ∀ user ∈ world.tables.stub? username domain,
      ¬ user.IsFresh windows.stubLifetime world.time :=
    fun user isKnown isFresh => notFresh user (finding_of_isFresh isKnown isFresh)
  rw [finding_of_not_isFresh stale] at notMissed notCooling
  have notRecalled : world.recalls surroundings (missKey username domain) = false :=
    Bool.eq_false_iff.mpr fun recalled => notMissed (if_pos recalled)
  refine ⟨stale, notRecalled, Bool.eq_false_iff.mpr fun cooling => notCooling ?_⟩
  rw [notRecalled, if_neg Bool.false_ne_true, attempt, if_pos cooling]

/-- A window is opened by what an instance says when it is asked. -/
theorem mayAsk_of_window? {window : Window}
    (opens : (world.finding surroundings windows username domain).window? username domain =
      some window) : world.MayAsk surroundings windows username domain := by
  refine mayAsk_of_finding (fun user said => ?fresh) (fun said => ?missed) fun said => ?cooling
  all_goals
    rw [said] at opens
    cases opens

/-- An instance that is left alone is not asked. -/
theorem requests_of_cooling (cooling : world.called.recalls surroundings (cooldownKey domain) = true) :
    (world.finding surroundings windows username domain).requests username domain = [] := by
  unfold finding attempt
  rw [if_pos cooling]
  split
  · rfl
  · split <;> rfl

/-- An instance that is asked is asked for its declaration first. -/
theorem MayAsk.exists_requests_eq (mayAsk : world.MayAsk surroundings windows username domain)
    {first : Url} (declaredAt : declarationUrl domain = .ok first) :
    ∃ others, (world.finding surroundings windows username domain).requests username domain =
      first :: others := by
  have isFirst : ∃ others, contacts username domain = first :: others := by
    unfold contacts
    rw [declaredAt]
    dsimp only
    split
    · exact ⟨_, rfl⟩
    · exact ⟨_, rfl⟩
  obtain ⟨others, contacted⟩ := isFirst
  rw [mayAsk.finding_eq]
  rcases inquiry_cases surroundings username domain world with
    said | said | said | ⟨_, _, -, -, said⟩ | ⟨_, _, said⟩
  · exact ⟨[], by rw [said, Finding.requests, contacted, List.take_succ_cons, List.take_zero]⟩
  all_goals exact ⟨others, by rw [said, Finding.requests, contacted]⟩

end World

/-! ### What is remembered -/

/-- No operation of the store fails. -/
def Surroundings.KeepsStore (surroundings : Surroundings) : Prop :=
  ∀ operation calls, surroundings.storeFailure operation calls = none

/-- Where no operation of the store fails, what it holds is recalled. -/
theorem Surroundings.KeepsStore.recalls_eq {surroundings : Surroundings} (keeps : surroundings.KeepsStore)
    (key : String) (world : World) :
    world.recalls surroundings key = (world.store.get? world.now key).isSome := by
  rw [World.recalls, keeps]
  exact Bool.true_and _

theorem Surroundings.KeepsStore.recalls_called {surroundings : Surroundings}
    (keeps : surroundings.KeepsStore) (key : String) (world : World) :
    world.called.recalls surroundings key = (world.store.get? world.now key).isSome :=
  keeps.recalls_eq key world.called

/-- What was not remembered before is remembered for its time, and the rest as before. -/
theorem World.keeping_of_isInProcess {world : World} {surroundings : Surroundings}
    (keeps : surroundings.KeepsStore) (inProcess : world.store.IsInProcess) {memo : Option (String × Nat)}
    (canKeep : ∀ kept ∈ memo, world.CanKeep kept.2)
    (isNew : ∀ kept ∈ memo, world.store.get? world.now kept.1 = none) :
    (world.keeping surroundings memo).2.IsInProcess ∧ ∀ key later, world.now ≤ later →
      (((world.keeping surroundings memo).2.get? later key).isSome = true ↔
        (world.store.get? later key).isSome = true ∨
          ∃ kept ∈ memo, kept.1 = key ∧ later < world.now + kept.2 * TimedEntries.perSecond) := by
  cases memo with
  | none => exact ⟨inProcess, fun key later _ => by simp [keeping]⟩
  | some kept =>
    obtain ⟨held, seconds⟩ := kept
    unfold keeping remembering
    dsimp only
    by_cases isZero : seconds = 0
    · rw [if_pos isZero]
      refine ⟨inProcess, fun key later le => ?_⟩
      simp [isZero, Nat.not_lt.mpr le]
    · obtain ⟨store, isSet⟩ := Option.isSome_iff_exists.mp (canKeep _ rfl held "1")
      obtain ⟨stillInProcess, values⟩ := inProcess.of_set? isSet
      rw [if_neg isZero, keeps]
      dsimp only at isSet ⊢
      rw [isSet]
      refine ⟨stillInProcess, fun key later le => ?_⟩
      dsimp only
      rw [values]
      by_cases isHeld : key = held
      · subst isHeld
        have notLater : (world.store.get? later key).isSome ≠ true := by
          intro isThere
          have isThereNow := inProcess.isSome_get?_of_le le isThere
          rw [isNew _ rfl] at isThereNow
          cases isThereNow
        by_cases isEarly : later < world.now + seconds * TimedEntries.perSecond <;>
          simp [isEarly, notLater]
      · simp [isHeld, Ne.symm isHeld]

/-! ### Windows that resolutions open -/

/-- The windows of a service can be counted from a time on: there are points of time that late. -/
def Service.HasTime (service : Service) (now : Nat) : Prop :=
  ∀ seconds ∈ [service.windows.missLifetime, service.windows.discoveryCooldown],
    (TimedEntries.expiry? now seconds).isSome = true

theorem TimedEntries.isSome_expiry?_of_le {now later seconds : Nat} (le : now ≤ later)
    (hasTime : (expiry? later seconds).isSome = true) : (expiry? now seconds).isSome = true := by
  rw [Option.isSome_iff_ne_none, Ne, expiry?_eq_none_iff] at hasTime ⊢
  have earlier : now / perSecond + seconds ≤ later / perSecond + seconds :=
    Nat.add_le_add_right (Nat.div_le_div_right le) seconds
  exact fun beyond => hasTime (Nat.le_trans beyond earlier)

theorem Service.HasTime.mono {service : Service} {now later : Nat} (hasTime : service.HasTime later)
    (le : now ≤ later) : service.HasTime now :=
  fun seconds isWindow => TimedEntries.isSome_expiry?_of_le le (hasTime seconds isWindow)

theorem Service.HasTime.canKeep {service : Service} {world : World} (hasTime : service.HasTime world.now)
    (inProcess : world.store.IsInProcess) :
    ∀ seconds ∈ [service.windows.missLifetime, service.windows.discoveryCooldown],
      world.CanKeep seconds := by
  obtain ⟨entries, isMemory, -⟩ := inProcess.exists_memory
  exact fun seconds isWindow => World.canKeep_of_isSome_expiry? isMemory (hasTime seconds isWindow)

namespace Call

variable (service : Service) (call : Call)

/-- A resolution asks an instance for a user: the handle is admitted, and nothing that is known keeps the
instance from being asked. -/
structure Asks (username domain : String) : Prop where
  admits : service.Admits call.world call.text username domain
  mayAsk : call.world.MayAsk call.surroundings service.windows username domain

/-- A resolution opens a window: the instance that it asks does not declare itself as it should, or as one
that takes no part in the federation, or it declares itself and answers that it has no such user. -/
inductive Opens : Window → Prop
  | cooldown {username domain : String} (asks : call.Asks service username domain)
    (undiscoverable : IsUndiscoverable call.surroundings domain call.world.requested) :
    Opens (.cooldown domain)
  | miss {username domain : String} (asks : call.Asks service username domain)
    (denied : IsDenied call.surroundings domain username call.world.requested) :
    Opens (.miss username domain)

/-- A resolution opened a window that is still open at a time. -/
structure HoldsOpen (window : Window) (time : Nat) : Prop where
  opens : call.Opens service window
  within : time < call.world.now + window.seconds service.windows * TimedEntries.perSecond

end Call

namespace Service.Admits

variable {service : Service} {world : World} {text username domain name place : String}

/-- A handle is admitted for one user. -/
theorem eq_of_admits (admits : service.Admits world text username domain)
    (other : service.Admits world text name place) : username = name ∧ domain = place := by
  obtain ⟨domainText, reads, rfl⟩ := admits.reads
  obtain ⟨otherText, otherReads, rfl⟩ := other.reads
  rw [reads] at otherReads
  cases otherReads
  exact ⟨rfl, rfl⟩

theorem username_eq (admits : service.Admits world text username domain) :
    (Handle.read text).username = username := by
  obtain ⟨domainText, reads, -⟩ := admits.reads
  rw [reads]

theorem domainOf_eq (admits : service.Admits world text username domain) :
    service.domainOf (Handle.read text) = domain := by
  obtain ⟨domainText, reads, normal⟩ := admits.reads
  rw [domainOf, reads]
  exact normal

theorem slash_notMem (admits : service.Admits world text username domain) : '/' ∉ domain.toList :=
  DomainName.slash_notMem (DomainName.isPlain_of_validate admits.accepted)

end Service.Admits

namespace Call

variable {service : Service} {call : Call} {username domain : String} {window : Window}

/-- The windows that a resolution opens are those of its finding. -/
theorem opens_iff (admits : service.Admits call.world call.text username domain) :
    call.Opens service window ↔
      (call.world.finding call.surroundings service.windows username domain).window? username domain =
        some window := by
  constructor
  · intro opens
    cases opens with
    | cooldown asks undiscoverable =>
      obtain ⟨rfl, rfl⟩ := admits.eq_of_admits asks.admits
      rw [asks.mayAsk.finding_eq, World.inquiry_eq_undiscovered_iff.mpr undiscoverable]
      rfl
    | miss asks denied =>
      obtain ⟨rfl, rfl⟩ := admits.eq_of_admits asks.admits
      rw [asks.mayAsk.finding_eq, World.inquiry_eq_missing_iff.mpr denied]
      rfl
  · intro isWindow
    have asks : call.Asks service username domain := ⟨admits, World.mayAsk_of_window? isWindow⟩
    rw [asks.mayAsk.finding_eq] at isWindow
    rcases World.inquiry_cases call.surroundings username domain call.world with
      said | said | said | ⟨_, _, -, -, said⟩ | ⟨_, _, said⟩
    · rw [said] at isWindow
      cases isWindow
      exact .cooldown asks (World.inquiry_eq_undiscovered_iff.mp said)
    · rw [said] at isWindow
      cases isWindow
    · rw [said] at isWindow
      cases isWindow
      exact .miss asks (World.inquiry_eq_missing_iff.mp said)
    · rw [said] at isWindow
      cases isWindow
    · rw [said] at isWindow
      cases isWindow

theorem Opens.exists_admits (opens : call.Opens service window) :
    ∃ username, service.Admits call.world call.text username window.domain := by
  cases opens with
  | cooldown asks undiscoverable => exact ⟨_, asks.admits⟩
  | miss asks denied => exact ⟨_, asks.admits⟩

end Call

/-! ### What stands open -/

/-- What is to be remembered is not found out as long as it is remembered. -/
theorem World.get?_of_mem_memo {surroundings : Surroundings} (keeps : surroundings.KeepsStore)
    {windows : Windows} {username domain : String} {world : World} {kept : String × Nat}
    (isMemo : kept ∈ (world.finding surroundings windows username domain).memo windows username domain) :
    world.store.get? world.now kept.1 = none := by
  rw [Finding.memo_eq] at isMemo
  obtain ⟨window, opens, rfl⟩ := Option.mem_map.mp isMemo
  obtain ⟨-, notMissed, notCooling⟩ := mayAsk_of_window? opens
  rw [keeps.recalls_eq] at notMissed
  rw [keeps.recalls_called] at notCooling
  rw [Option.isSome_eq_false_iff, Option.isNone_iff_eq_none] at notMissed notCooling
  generalize world.finding surroundings windows username domain = finding at opens
  cases finding <;> cases opens
  · exact notCooling
  · exact notMissed

namespace Call

variable {service : Service} {call : Call}

/-- The windows that a resolution opens are what is to be remembered because of it. -/
theorem holdsOpen_iff {username domain : String}
    (admits : service.Admits call.world call.text username domain) {key : String} {later : Nat} :
    (∃ window, call.HoldsOpen service window later ∧ window.key = key) ↔
      ∃ kept ∈ (call.world.finding call.surroundings service.windows username domain).memo service.windows
        username domain, kept.1 = key ∧ later < call.world.now + kept.2 * TimedEntries.perSecond := by
  rw [Finding.memo_eq]
  constructor
  · rintro ⟨window, holds, isKey⟩
    exact ⟨_, Option.mem_map.mpr ⟨window, (opens_iff admits).mp holds.opens, rfl⟩, isKey, holds.within⟩
  · rintro ⟨kept, isMemo, isKey, within⟩
    obtain ⟨window, isWindow, rfl⟩ := Option.mem_map.mp isMemo
    exact ⟨window, ⟨(opens_iff admits).mpr isWindow, within⟩, isKey⟩

/-- What a resolution remembers are the windows that it opens. -/
theorem store_outcome (isOpen : call.world.isDatabaseOpen = true)
    (keeps : call.surroundings.KeepsStore) (inProcess : call.world.store.IsInProcess)
    (hasTime : service.HasTime call.world.now) :
    (call.outcome service).2.store.IsInProcess ∧ ∀ key later, call.world.now ≤ later →
      (((call.outcome service).2.store.get? later key).isSome = true ↔
        (call.world.store.get? later key).isSome = true ∨
          ∃ window, call.HoldsOpen service window later ∧ window.key = key) := by
  by_cases isAdmitted : ∃ username domain, service.Admits call.world call.text username domain
  · obtain ⟨username, domain, admits⟩ := isAdmitted
    have isNew : ∀ kept ∈ (call.world.finding call.surroundings service.windows username domain).memo
        service.windows username domain, call.world.store.get? call.world.now kept.1 = none :=
      fun kept isMemo => World.get?_of_mem_memo keeps isMemo
    have canKeep : ∀ kept ∈ (call.world.finding call.surroundings service.windows username domain).memo
        service.windows username domain, call.world.called.called.CanKeep kept.2 :=
      fun kept isMemo => hasTime.canKeep inProcess kept.2 (Finding.memo_mem isMemo)
    have inProcessThen : call.world.called.called.store.IsInProcess := inProcess
    obtain ⟨stillInProcess, values⟩ := World.keeping_of_isInProcess keeps inProcessThen canKeep isNew
    rw [(settles isOpen admits rfl).store]
    exact ⟨stillInProcess, fun key later le =>
      (values key later le).trans (or_congr_right (holdsOpen_iff admits).symm)⟩
  · obtain ⟨result, -, -, -, -, sameStore⟩ := exists_own_answer_of_not_admits isAdmitted
    rw [sameStore]
    refine ⟨inProcess, fun key later le => (or_iff_left ?_).symm⟩
    rintro ⟨window, holds, -⟩
    exact isAdmitted ⟨_, _, holds.opens.exists_admits.choose_spec⟩

end Call

namespace Call

variable {service : Service} {call : Call} {username domain : String}

/-- A resolution that opens a window writes nothing. -/
theorem Opens.tables_outcome {window : Window} (isOpen : call.world.isDatabaseOpen = true)
    (opens : call.Opens service window) : (call.outcome service).2.tables = call.world.tables := by
  obtain ⟨username, admits⟩ := opens.exists_admits
  have settles := settles isOpen admits rfl
  have isWindow := (opens_iff admits).mp opens
  generalize call.world.finding call.surroundings service.windows username window.domain = finding
    at settles isWindow
  rw [settles.tables]
  cases finding with
  | found declaration profile => cases isWindow
  | _ => rfl

/-- A user who is remembered as missing and has no fresh stub is not found, and nothing is requested. -/
theorem outcome_of_missed (isOpen : call.world.isDatabaseOpen = true)
    (admits : service.Admits call.world call.text username domain)
    (notFresh : ∀ user ∈ call.world.tables.stub? username domain,
      ¬ user.IsFresh service.windows.stubLifetime call.world.time)
    (missed : call.world.recalls call.surroundings (missKey username domain) = true) :
    (call.outcome service).1 = some (.error (.userNotFound (fullName username domain))) ∧
      (call.outcome service).2.requested = call.world.requested := by
  have isMissed : call.world.finding call.surroundings service.windows username domain = .missed := by
    rw [World.finding_of_not_isFresh notFresh, if_pos missed]
  have settles := settles isOpen admits isMissed
  exact ⟨settles.result, settles.requested⟩

end Call

/-- A stub that is fresh at a time was fresh before. -/
theorem User.IsFresh.of_le {user : User} {lifetime : Option Nat} {now later : Nat} (le : now ≤ later)
    (isFresh : user.IsFresh lifetime (.ofNanoseconds later)) :
    user.IsFresh lifetime (.ofNanoseconds now) := by
  intro seconds isLifetime
  refine Nat.lt_of_le_of_lt ?_ (isFresh seconds isLifetime)
  rw [Timestamp.elapsed, Timestamp.elapsed, Timestamp.toNanoseconds_ofNanoseconds,
    Timestamp.toNanoseconds_ofNanoseconds]
  omega

theorem Call.HoldsOpen.of_le {service : Service} {call : Call} {window : Window} {time later : Nat}
    (holds : call.HoldsOpen service window later) (le : time ≤ later) :
    call.HoldsOpen service window time :=
  ⟨holds.opens, Nat.lt_of_le_of_lt le holds.within⟩

namespace Service.Ran

variable {service : Service} {first : World} {calls : List Call} {world : World}

/-- What is remembered at any later time, if nothing more is done, are the windows that are open then,
but for the value by which the store is probed. -/
theorem isSome_get?_iff (ran : service.Ran Surroundings.KeepsStore first calls world)
    (reachable : service.IsReachable first) (isEmpty : first.store = .memory .empty)
    (hasTime : service.HasTime world.now) :
    world.store.IsInProcess ∧ ∀ key ≠ Health.probeKey, ∀ later, world.now ≤ later →
      ((world.store.get? later key).isSome = true ↔
        ∃ call ∈ calls, ∃ window, call.HoldsOpen service window later ∧ window.key = key) := by
  induction ran with
  | started =>
    rw [isEmpty]
    exact ⟨.memory TimedEntries.isKeyed_empty, fun key _ later _ => iff_of_false nofun nofun⟩
  | @resolved calls call ran suits inductionHypothesis =>
    rw [Call.now_outcome] at hasTime ⊢
    obtain ⟨inProcess, values⟩ := inductionHypothesis hasTime
    have isOpen := (ran.isReachable reachable).isReachable.isSound.isOpen
    obtain ⟨stillInProcess, adds⟩ := Call.store_outcome isOpen suits inProcess hasTime
    refine ⟨stillInProcess, fun key differs later le => ?_⟩
    rw [adds key later le, values key differs later le, List.exists_mem_cons_iff, or_comm]
  | @did calls world ran surroundings suits chore inductionHypothesis =>
    rw [now_run] at hasTime ⊢
    obtain ⟨inProcess, values⟩ := inductionHypothesis hasTime
    obtain ⟨stillInProcess, agrees⟩ := chore.store_run service surroundings inProcess
    refine ⟨stillInProcess, fun key differs later le => ?_⟩
    rw [agrees key differs later le]
    exact values key differs later le
  | @waited calls world ran span inductionHypothesis =>
    have le : world.now ≤ (world.waited span).now := Nat.le_add_right _ span
    obtain ⟨inProcess, values⟩ := inductionHypothesis (hasTime.mono le)
    exact ⟨inProcess, fun key differs later isLater =>
      values key differs later (Nat.le_trans le isLater)⟩

/-- A window that is open is remembered. -/
theorem isSome_get?_of_holdsOpen (ran : service.Ran Surroundings.KeepsStore first calls world)
    (reachable : service.IsReachable first) (isEmpty : first.store = .memory .empty)
    (hasTime : service.HasTime world.now) {earlier : Call} (isCall : earlier ∈ calls) {window : Window}
    (holds : earlier.HoldsOpen service window world.now) :
    (world.store.get? world.now window.key).isSome = true :=
  ((ran.isSome_get?_iff reachable isEmpty hasTime).2 _ window.key_ne_probeKey _ (Nat.le_refl _)).mpr
    ⟨earlier, isCall, window, holds, rfl⟩

/-- Where no window that concerns a user is open, nothing is remembered that keeps the instance from being
asked for the user. -/
theorem mayAsk_of_not_holdsOpen (ran : service.Ran Surroundings.KeepsStore first calls world)
    (reachable : service.IsReachable first) (isEmpty : first.store = .memory .empty)
    (hasTime : service.HasTime world.now) {surroundings : Surroundings}
    (keeps : surroundings.KeepsStore) {username domain : String} (plain : '/' ∉ domain.toList)
    (notFresh : ∀ user ∈ world.tables.stub? username domain,
      ¬ user.IsFresh service.windows.stubLifetime world.time)
    (noWindow : ∀ earlier ∈ calls, ∀ window, earlier.HoldsOpen service window world.now →
      ¬ window.Concerns username domain) :
    world.MayAsk surroundings service.windows username domain := by
  have isGone : ∀ window : Window, window.key = cooldownKey domain ∨ window.key = missKey username domain →
      (world.store.get? world.now window.key).isSome = false := by
    intro window isKey
    rw [Bool.eq_false_iff]
    intro isKept
    obtain ⟨earlier, isCall, other, holds, same⟩ := ((ran.isSome_get?_iff reachable isEmpty hasTime).2 _
      window.key_ne_probeKey _ (Nat.le_refl _)).mp isKept
    obtain ⟨name, admits⟩ := holds.opens.exists_admits
    exact noWindow earlier isCall other holds
      (Window.concerns_of_key_eq admits.slash_notMem plain (same ▸ isKey))
  refine ⟨notFresh, ?_, ?_⟩
  · rw [keeps.recalls_eq]
    exact isGone (.miss username domain) (Or.inr rfl)
  · rw [keeps.recalls_called]
    exact isGone (.cooldown domain) (Or.inl rfl)

/-- A user who was missing has no fresh stub as long as the window is open. -/
theorem not_isFresh_of_holdsOpen (ran : service.Ran Surroundings.KeepsStore first calls world)
    (reachable : service.IsReachable first) (isEmpty : first.store = .memory .empty)
    (hasTime : service.HasTime world.now) {earlier : Call} (isCall : earlier ∈ calls)
    {username domain : String} (holds : earlier.HoldsOpen service (.miss username domain) world.now) :
    ∀ user ∈ world.tables.stub? username domain,
      ¬ user.IsFresh service.windows.stubLifetime world.time := by
  induction ran with
  | started => cases isCall
  | @resolved calls call ran suits inductionHypothesis =>
    have isOpen := (ran.isReachable reachable).isReachable.isSound.isOpen
    rw [Call.now_outcome] at hasTime holds
    rw [World.time, Call.now_outcome]
    rcases List.mem_cons.mp isCall with rfl | isEarlier
    · rw [holds.opens.tables_outcome isOpen]
      cases holds.opens with
      | miss asks denied => exact asks.mayAsk.notFresh
    · have stale := inductionHypothesis hasTime isEarlier holds
      obtain ⟨name, earlierAdmits⟩ := holds.opens.exists_admits
      intro user found
      rcases Call.stub?_outcome_cases (ran.isReachable reachable) earlierAdmits.lower_domain found with
        wasKnown | confirms
      · exact stale user wasKnown
      · -- A resolution of the same user would have been held up by the window.
        have admits : service.Admits call.world call.text (Handle.read call.text).username domain :=
          Call.admits_of_answer isOpen confirms.answer (by rintro ⟨⟩)
        have recalled := ran.isSome_get?_of_holdsOpen reachable isEmpty hasTime isEarlier holds
        rw [Window.key, ← missKey_eq_of_lower_eq confirms.named, ← suits.recalls_eq] at recalled
        rw [← Tables.stub?_eq_of_lower_eq confirms.named] at stale
        have answer := confirms.answer
        rw [(Call.outcome_of_missed isOpen admits stale recalled).1] at answer
        cases answer
  | @did calls world ran surroundings suits chore inductionHypothesis =>
    rw [now_run] at hasTime holds
    rw [(ran.isReachable reachable).stub?_run_chore, World.time, now_run]
    exact inductionHypothesis hasTime isCall holds
  | @waited calls world ran span inductionHypothesis =>
    have le : world.now ≤ (world.waited span).now := Nat.le_add_right _ span
    intro user isKnown isFresh
    exact inductionHypothesis (hasTime.mono le) isCall (holds.of_le le) user isKnown (isFresh.of_le le)

end Service.Ran

/-! ### Without a window -/

namespace World

variable {surroundings : Surroundings} {world : World}

/-- Of the short-lived values what is found out depends on two. -/
theorem finding_of_store (windows : Windows) {store : ShortTermStore} {username domain : String}
    (sameMiss : store.get? world.now (missKey username domain) =
      world.store.get? world.now (missKey username domain))
    (sameCooldown : store.get? world.now (cooldownKey domain) =
      world.store.get? world.now (cooldownKey domain)) :
    (world.withStore store).finding surroundings windows username domain =
      world.finding surroundings windows username domain := by
  have sameCalls : (world.withStore store).storeCalls = world.storeCalls := rfl
  have sameCallsThen : (world.withStore store).called.storeCalls = world.called.storeCalls := rfl
  have sameRequested : (world.withStore store).called.requested = world.called.requested := rfl
  have recalled : (world.withStore store).recalls surroundings (missKey username domain) =
      world.recalls surroundings (missKey username domain) := recalls_congr surroundings sameCalls sameMiss
  have cooling : (world.withStore store).called.recalls surroundings (cooldownKey domain) =
      world.called.recalls surroundings (cooldownKey domain) :=
    recalls_congr surroundings sameCallsThen sameCooldown
  have sameInquiry := inquiry_congr surroundings sameRequested username domain
  have sameTables : (world.withStore store).tables = world.tables := rfl
  have sameTime : (world.withStore store).time = world.time := rfl
  unfold finding attempt
  rw [recalled, cooling, sameInquiry, sameTables, sameTime]

end World

namespace Call

/-- The same resolution when a window is forgotten. -/
def without (window : Window) (call : Call) : Call :=
  call.withStore (call.world.store.delete call.world.now window.key)

/-- Two resolutions have the same answer, request the same and leave the same tables. -/
structure ComesTo (service : Service) (call other : Call) : Prop where
  answer : (other.outcome service).1 = (call.outcome service).1
  requested : (other.outcome service).2.requested = (call.outcome service).2.requested
  tables : (other.outcome service).2.tables = (call.outcome service).2.tables

variable {service : Service} {call : Call} {store : ShortTermStore}

/-- A resolution comes to what it finds out. -/
theorem outcome_of_admits (isOpen : call.world.isDatabaseOpen = true) {username domain : String}
    (admits : service.Admits call.world call.text username domain)
    (canKeep : ∀ seconds ∈ [service.windows.missLifetime, service.windows.discoveryCooldown],
      call.world.CanKeep seconds) :
    let finding := call.world.finding call.surroundings service.windows username domain
    (call.outcome service).1 = some (finding.answer username domain call.world) ∧
      (call.outcome service).2.requested =
        (finding.requests username domain).reverse ++ call.world.requested ∧
      (call.outcome service).2.tables = finding.tables domain call.world := by
  have settles := settles isOpen admits rfl
  exact ⟨settles.result_eq canKeep, settles.requested, settles.tables⟩

theorem comesTo_withStore_of_not_admits
    (notAdmitted : ¬ ∃ username domain, service.Admits call.world call.text username domain) :
    call.ComesTo service (call.withStore store) := by
  obtain ⟨result, -, stays⟩ := exists_answer_of_not_admits notAdmitted
  obtain ⟨answerThere, askedThere, tablesThere, -⟩ := stays store
  have here := stays call.world.store
  rw [withStore_store] at here
  obtain ⟨answer, asked, tables, -⟩ := here
  exact ⟨answerThere.trans answer.symm, askedThere.trans asked.symm, tablesThere.trans tables.symm⟩

/-- Of the short-lived values a resolution depends on two. -/
theorem comesTo_withStore_of_admits (isOpen : call.world.isDatabaseOpen = true) {username domain : String}
    (admits : service.Admits call.world call.text username domain)
    (canKeep : ∀ seconds ∈ [service.windows.missLifetime, service.windows.discoveryCooldown],
      call.world.CanKeep seconds ∧ (call.withStore store).world.CanKeep seconds)
    (same : ∀ key, key = cooldownKey domain ∨ key = missKey username domain →
      store.get? call.world.now key = call.world.store.get? call.world.now key) :
    call.ComesTo service (call.withStore store) := by
  have admitsThere : service.Admits (call.withStore store).world (call.withStore store).text username
      domain := admits.congr rfl rfl
  have isOpenThere : (call.withStore store).world.isDatabaseOpen = true := isOpen
  have here := outcome_of_admits isOpen admits fun seconds isWindow => (canKeep seconds isWindow).1
  have there := outcome_of_admits isOpenThere admitsThere fun seconds isWindow =>
    (canKeep seconds isWindow).2
  have sameFinding : (call.withStore store).world.finding (call.withStore store).surroundings service.windows
      username domain = call.world.finding call.surroundings service.windows username domain :=
    World.finding_of_store service.windows (same _ (Or.inr rfl)) (same _ (Or.inl rfl))
  dsimp only at here there
  rw [sameFinding] at there
  generalize call.world.finding call.surroundings service.windows username domain = finding at here there
  have sameAnswer : finding.answer username domain (call.withStore store).world =
      finding.answer username domain call.world := by
    cases finding <;> rfl
  have sameTables : finding.tables domain (call.withStore store).world =
      finding.tables domain call.world := by
    cases finding <;> rfl
  rw [sameAnswer, sameTables] at there
  exact ⟨there.1.trans here.1.symm, there.2.1.trans here.2.1.symm, there.2.2.trans here.2.2.symm⟩

/-- A window that does not concern the user of a handle makes no difference to its resolution. -/
theorem comesTo_without {window : Window} (isOpen : call.world.isDatabaseOpen = true)
    (inProcess : call.world.store.IsInProcess) (hasTime : service.HasTime call.world.now)
    (plain : '/' ∉ window.domain.toList)
    (elsewhere : ¬ window.Concerns (Handle.read call.text).username
      (service.domainOf (Handle.read call.text))) :
    call.ComesTo service (call.without window) := by
  by_cases isAdmitted : ∃ username domain, service.Admits call.world call.text username domain
  · obtain ⟨username, domain, admits⟩ := isAdmitted
    rw [admits.username_eq, admits.domainOf_eq] at elsewhere
    obtain ⟨keyed, agrees⟩ := inProcess.delete call.world.now window.key
    have inProcessThere : (call.without window).world.store.IsInProcess := keyed
    have hasTimeThere : service.HasTime (call.without window).world.now := hasTime
    refine comesTo_withStore_of_admits isOpen admits (fun seconds isWindow => ⟨?_, ?_⟩) ?_
    · exact hasTime.canKeep inProcess seconds isWindow
    · exact hasTimeThere.canKeep inProcessThere seconds isWindow
    · rintro key isKey
      refine agrees key ?_ _ (Nat.le_refl _)
      rintro rfl
      exact elsewhere (Window.concerns_of_key_eq plain admits.slash_notMem isKey)
  · exact comesTo_withStore_of_not_admits isAdmitted

end Call

/-! ### With and without windows -/

namespace Call

variable {service : Service} {call : Call} {username domain : String}

/-- Where an instance is left alone, nothing is requested for any of its users. -/
theorem requested_of_cooling (isOpen : call.world.isDatabaseOpen = true)
    (keeps : call.surroundings.KeepsStore) (isDomain : service.domainOf (Handle.read call.text) = domain)
    (cooling : (call.world.store.get? call.world.now (cooldownKey domain)).isSome = true) :
    (call.outcome service).2.requested = call.world.requested := by
  by_cases isAdmitted : ∃ username domain, service.Admits call.world call.text username domain
  · obtain ⟨username, place, admits⟩ := isAdmitted
    obtain rfl : place = domain := admits.domainOf_eq.symm.trans isDomain
    have requested := (settles isOpen admits rfl).requested
    rw [← keeps.recalls_called] at cooling
    rw [World.requests_of_cooling cooling] at requested
    exact requested
  · obtain ⟨result, -, -, asked, -⟩ := exists_own_answer_of_not_admits isAdmitted
    exact asked

/-- A resolution that asks an instance for a user requests its declaration first. -/
theorem Asks.exists_requested_eq (asks : call.Asks service username domain)
    (isOpen : call.world.isDatabaseOpen = true) {first : Url}
    (declaredAt : declarationUrl domain = .ok first) :
    ∃ others, (call.outcome service).2.requested = others ++ first :: call.world.requested := by
  obtain ⟨others, requests⟩ := asks.mayAsk.exists_requests_eq declaredAt
  have requested := (settles isOpen asks.admits rfl).requested
  rw [requests, List.reverse_cons, List.append_assoc, List.singleton_append] at requested
  exact ⟨others.reverse, requested⟩

end Call

namespace Service.Ran

variable {service : Service} {first : World} {calls : List Call} {world : World}

/-- For how long nothing is asked, with a store in the memory, after whatever was done since the service
came to work over its tables. If the instance of a domain could not be discovered, no resolution of a user
at the domain requests anything before the cooldown has passed. If a user was missing, the answer to a
resolution of the user, in any case of the letters, is the same without any request before the lifetime of
a miss has passed. A window makes no difference to users that it does not concern. And where no window
that concerns a user is open and there is no fresh stub, the instance is asked for its declaration. -/
theorem windows_suspend_requests (ran : service.Ran Surroundings.KeepsStore first calls world)
    (reachable : service.IsReachable first) (isEmpty : first.store = .memory .empty)
    (hasTime : service.HasTime world.now) {surroundings : Surroundings}
    (keeps : surroundings.KeepsStore) (text : String) :
    let call : Call := ⟨surroundings, world, text⟩
    let handle := Handle.read text
    (∀ earlier ∈ calls, ∀ domain, earlier.HoldsOpen service (.cooldown domain) world.now →
      service.domainOf handle = domain → (call.outcome service).2.requested = world.requested) ∧
    (∀ earlier ∈ calls, ∀ username domain,
      earlier.HoldsOpen service (.miss username domain) world.now →
      ∀ name, service.Admits world text name domain → lower name = lower username →
        (call.outcome service).1 = some (.error (.userNotFound (fullName name domain))) ∧
          (call.outcome service).2.requested = world.requested) ∧
    (∀ earlier ∈ calls, ∀ window, earlier.HoldsOpen service window world.now →
      ¬ window.Concerns handle.username (service.domainOf handle) →
      call.ComesTo service (call.without window)) ∧
    ∀ username domain declaredAt, service.Admits world text username domain →
      (∀ user ∈ world.tables.stub? username domain,
        ¬ user.IsFresh service.windows.stubLifetime world.time) →
      (∀ earlier ∈ calls, ∀ window, earlier.HoldsOpen service window world.now →
        ¬ window.Concerns username domain) →
      declarationUrl domain = .ok declaredAt →
      ∃ others, (call.outcome service).2.requested = others ++ declaredAt :: world.requested := by
  intro call handle
  have isOpen : call.world.isDatabaseOpen = true := (ran.isReachable reachable).isReachable.isSound.isOpen
  have isThere : ∀ earlier ∈ calls, ∀ window, earlier.HoldsOpen service window world.now →
      (world.store.get? world.now window.key).isSome = true := fun earlier isCall window holds =>
    ran.isSome_get?_of_holdsOpen reachable isEmpty hasTime isCall holds
  refine ⟨?cooldown, ?miss, ?elsewhere, ?asks⟩
  case cooldown =>
    intro earlier isCall domain holds isDomain
    exact Call.requested_of_cooling isOpen keeps isDomain (isThere earlier isCall _ holds)
  case miss =>
    intro earlier isCall username domain holds name admits same
    have missed := isThere earlier isCall _ holds
    have stale := ran.not_isFresh_of_holdsOpen reachable isEmpty hasTime isCall holds
    rw [Window.key, ← missKey_eq_of_lower_eq same, ← keeps.recalls_eq] at missed
    rw [← Tables.stub?_eq_of_lower_eq same] at stale
    exact Call.outcome_of_missed isOpen admits stale missed
  case elsewhere =>
    intro earlier isCall window holds elsewhere
    obtain ⟨username, admits⟩ := holds.opens.exists_admits
    have inProcess := (ran.isSome_get?_iff reachable isEmpty hasTime).1
    exact Call.comesTo_without isOpen inProcess hasTime admits.slash_notMem elsewhere
  case asks =>
    intro username domain declaredAt admits stale noWindow declared
    have mayAsk : world.MayAsk surroundings service.windows username domain :=
      ran.mayAsk_of_not_holdsOpen reachable isEmpty hasTime keeps admits.slash_notMem stale noWindow
    have asks : call.Asks service username domain := ⟨admits, mayAsk⟩
    exact asks.exists_requested_eq isOpen declared

end Service.Ran

/-! ### Windows without an end -/

/-- Nothing is kept when there is no point of time that late, and the server does not survive it. -/
theorem World.keeping_of_expiry?_eq_none {world : World} {surroundings : Surroundings}
    (keeps : surroundings.KeepsStore) {entries : TimedEntries} (isMemory : world.store = .memory entries)
    (key : String) {seconds : Nat} (notZero : seconds ≠ 0)
    (noTime : TimedEntries.expiry? world.now seconds = none) :
    world.keeping surroundings (some (key, seconds)) = (none, world.store) := by
  have noStore : world.store.set? world.now key "1" seconds = none := by
    rw [isMemory, ShortTermStore.set?, noTime]
    rfl
  unfold keeping remembering
  dsimp only
  rw [if_neg notZero, keeps, noStore]
  rfl

/-- A service breaks down over a window for which there is no point of time that late, and remembers
nothing of it. -/
theorem Call.Opens.outcome_of_expiry?_eq_none {service : Service} {call : Call} {window : Window}
    (opens : call.Opens service window) (isOpen : call.world.isDatabaseOpen = true)
    (keeps : call.surroundings.KeepsStore) {entries : TimedEntries}
    (isMemory : call.world.store = .memory entries) (notZero : window.seconds service.windows ≠ 0)
    (noTime : TimedEntries.expiry? call.world.now (window.seconds service.windows) = none) :
    (call.outcome service).1 = none ∧ (call.outcome service).2.store = call.world.store := by
  obtain ⟨username, admits⟩ := opens.exists_admits
  have settles := settles isOpen admits rfl
  have isWindow := (opens_iff admits).mp opens
  generalize call.world.finding call.surroundings service.windows username window.domain = finding
    at settles isWindow
  have isMemoryThen : call.world.called.called.store = .memory entries := isMemory
  have kept := World.keeping_of_expiry?_eq_none keeps isMemoryThen window.key notZero noTime
  have result := settles.result
  have store := settles.store
  rw [Finding.memo_eq, isWindow, Option.map_some, kept] at result store
  exact ⟨result, store⟩

/-! ### A site that waits -/

namespace Site

/-- A site that has just started, with a cooldown of so many seconds, where no other instance answers. -/
def waiting (seconds : Nat) : Site :=
  .atStart { Configuration.plain "home.example" with
    federation := { FederationSettings.standard with discoveryCooldown := seconds } }
    .silent (.memory .empty) 0

/-- The first resolution at that site. -/
def refused (seconds : Nat) : Call :=
  ⟨.silent, (waiting seconds).world, "alice@other.example"⟩

/-- The same resolution some nanoseconds later. -/
def retried (seconds span : Nat) : Call :=
  ⟨.silent, ((refused seconds).outcome (waiting seconds).service).2.waited span, "alice@other.example"⟩

theorem keepsStore_silent : Surroundings.silent.KeepsStore :=
  fun _ _ => rfl

theorem isReachable_refused (seconds : Nat) :
    (waiting seconds).service.IsReachable (refused seconds).world :=
  isReachable_atStart _ _ _ _

theorem ran_retried (seconds span : Nat) : (waiting seconds).service.Ran Surroundings.KeepsStore
    (refused seconds).world [refused seconds] (retried seconds span).world :=
  (Service.Ran.started.resolved keepsStore_silent).waited span

theorem now_retried (seconds span : Nat) : (retried seconds span).world.now = span := by
  rw [retried, World.now_waited, Call.now_outcome]
  exact Nat.zero_add span

/-- Whatever time has passed, the user is admitted and there is no stub. -/
theorem admits_of_tables {seconds : Nat} {world : World} (isOpen : world.isDatabaseOpen = true)
    (sameTables : world.tables = empty.world.tables) :
    (waiting seconds).service.Admits world "alice@other.example" "alice" "other.example" ∧
      world.tables.stub? "alice" "other.example" = none := by
  have sameHome : (waiting seconds).service.home = empty.service.home := rfl
  have permitted : empty.world.permission (waiting seconds).service.home.id "other.example" = .ok () := by
    rw [sameHome]
    rfl
  have admits : (waiting seconds).service.Admits empty.world "alice@other.example" "alice"
      "other.example" :=
    ⟨(admits_alice 0).reads, by decide, (admits_alice 0).isForeign, permitted, (admits_alice 0).accepted⟩
  refine ⟨admits.congr isOpen sameTables, ?_⟩
  rw [sameTables]
  rfl

/-- A resolution of the user asks the other instance if nothing is remembered. -/
theorem asks_of_tables {seconds : Nat} {call : Call} (isText : call.text = "alice@other.example")
    (isOpen : call.world.isDatabaseOpen = true) (sameTables : call.world.tables = empty.world.tables)
    (isEmpty : call.world.store = .memory .empty) :
    call.Asks (waiting seconds).service "alice" "other.example" := by
  obtain ⟨admits, noStub⟩ := admits_of_tables isOpen sameTables
  have noValue : ∀ key, call.world.store.get? call.world.now key = none := by
    rw [isEmpty]
    exact fun _ => rfl
  rw [← isText] at admits
  refine ⟨admits, ?_, World.recalls_of_get?_eq_none _ (noValue _),
    World.recalls_of_get?_eq_none _ (noValue _)⟩
  rw [noStub]
  intro user isStub
  cases isStub

/-- The first resolution asks the other instance, which does not answer. -/
theorem asks_refused (seconds : Nat) :
    (refused seconds).Asks (waiting seconds).service "alice" "other.example" :=
  asks_of_tables rfl rfl rfl rfl

theorem isUndiscoverable_silent (domain : String) (requested : List Url) :
    IsUndiscoverable .silent domain requested := by
  intro first declaration _ declared
  cases declared

theorem opens_refused (seconds : Nat) :
    (refused seconds).Opens (waiting seconds).service (.cooldown "other.example") :=
  .cooldown (asks_refused seconds) (isUndiscoverable_silent _ _)

theorem holdsOpen_refused {seconds span : Nat} (within : span < seconds * TimedEntries.perSecond) :
    (refused seconds).HoldsOpen (waiting seconds).service (.cooldown "other.example")
      (retried seconds span).world.now := by
  refine ⟨opens_refused seconds, ?_⟩
  rw [now_retried]
  exact within.trans_eq (Nat.zero_add _).symm

/-- Ten seconds later the other instance is left alone. -/
theorem cooldown_suspends_alice :
    (waiting 30).service.Ran Surroundings.KeepsStore (refused 30).world [refused 30]
      (retried 30 10000000000).world ∧
    (waiting 30).service.IsReachable (refused 30).world ∧ (refused 30).world.store = .memory .empty ∧
    (waiting 30).service.HasTime (retried 30 10000000000).world.now ∧
    (refused 30).HoldsOpen (waiting 30).service (.cooldown "other.example")
      (retried 30 10000000000).world.now ∧
    ((retried 30 10000000000).outcome (waiting 30).service).2.requested =
      (retried 30 10000000000).world.requested := by
  have hasTime : (waiting 30).service.HasTime (retried 30 10000000000).world.now := by
    have hasTime : ∀ seconds ∈ [60, 30], (TimedEntries.expiry? 10000000000 seconds).isSome = true := by
      decide
    rw [now_retried]
    exact hasTime
  have holds := holdsOpen_refused (show 10000000000 < 30 * TimedEntries.perSecond by decide)
  have isDomain : (waiting 30).service.domainOf (Handle.read "alice@other.example") = "other.example" := by
    decide
  obtain ⟨cooldown, -⟩ := (ran_retried 30 10000000000).windows_suspend_requests (isReachable_refused 30) rfl
    hasTime keepsStore_silent "alice@other.example"
  exact ⟨ran_retried 30 10000000000, isReachable_refused 30, rfl, hasTime, holds,
    cooldown _ (List.mem_singleton_self _) _ holds isDomain⟩

/-- There is a cooldown that settings can give, more than half a million million years, over which the
service breaks down; a second later the other instance is asked once more. -/
theorem cooldown_does_not_suspend :
    let seconds := 18446744073709551615
    let service := (waiting seconds).service
    let retry := retried seconds 1000000000
    seconds < bound64 ∧
      service.Ran Surroundings.KeepsStore (refused seconds).world [refused seconds] retry.world ∧
      (refused seconds).HoldsOpen service (.cooldown "other.example") retry.world.now ∧
      service.domainOf (Handle.read retry.text) = "other.example" ∧
      ((refused seconds).outcome service).1 = none ∧
      (retry.outcome service).2.requested ≠ retry.world.requested := by
  intro seconds service retry
  have opens := opens_refused seconds
  have within : 1000000000 < seconds * TimedEntries.perSecond := by decide
  have noTime : TimedEntries.expiry? 0 seconds = none := by decide
  obtain ⟨broken, sameStore⟩ := opens.outcome_of_expiry?_eq_none rfl keepsStore_silent rfl (by decide) noTime
  have isOpen : retry.world.isDatabaseOpen = true :=
    ((ran_retried seconds _).isReachable (isReachable_refused seconds)).isReachable.isSound.isOpen
  have sameTables : retry.world.tables = empty.world.tables := opens.tables_outcome rfl
  have asks : retry.Asks service "alice" "other.example" := asks_of_tables rfl isOpen sameTables sameStore
  have accepted : DomainName.validate [] "other.example" = .ok "other.example" := by decide
  obtain ⟨declaredAt, -, isUrl, -⟩ := DomainName.exists_urls (DomainName.isPlain_of_validate accepted)
    (by decide) (HostName.isSome_toAscii?_of_validate accepted (by decide)) "alice"
  obtain ⟨others, requested⟩ := asks.exists_requested_eq isOpen isUrl
  refine ⟨by decide, ran_retried seconds _, holdsOpen_refused within, asks.admits.domainOf_eq, broken, ?_⟩
  intro same
  have lengths := congrArg List.length (requested.symm.trans same)
  rw [List.length_append, List.length_cons] at lengths
  omega

end Site

end HandleFederation
