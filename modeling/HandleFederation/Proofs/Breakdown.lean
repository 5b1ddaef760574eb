/-
This file says over what a server can break down. Of all commands there is one that may
have no reply: keeping a value in the memory until later than there are points of time. A
resolution has values kept for the windows of the settings only, which is told from its
tree alone, so that it holds among other work as well. Hence a resolution comes to a
result unless it opens a window that reaches beyond the last point of time. There are
such windows among those that can be set, and a service that is started with one breaks
down over the first resolution that opens it. The age of a cached profile lies between
two points of the calendar, which are never too far apart.
-/

import HandleFederation.Configuration.Environment
import HandleFederation.Proofs.FailingStore
import HandleFederation.Proofs.SuppressionWindow

namespace HandleFederation

open Program Resolution Text

/-! ### Beyond the last point of time -/

/-- A server of its own keeps a value for any time. -/
theorem ShortTermStore.set?_eq_none_iff {store : ShortTermStore} {now seconds : Nat} {key value : String} :
    store.set? now key value seconds = none ↔
      (∃ entries, store = .memory entries) ∧
        TimedEntries.secondsLimit ≤ now / TimedEntries.perSecond + seconds := by
  cases store with
  | memory entries =>
    rw [set?, Option.map_eq_none_iff, TimedEntries.expiry?_eq_none_iff]
    exact (and_iff_right ⟨entries, rfl⟩).symm
  | shared keyPrefix server => exact iff_of_false (Option.some_ne_none _) (by rintro ⟨⟨_, ⟨⟩⟩, -⟩)

namespace World

/-- The server breaks down when something is to be kept for so many seconds: the store does not fail to
keep it before, it is in the memory, and there is no point of time that late. -/
structure BreaksOver (surroundings : Surroundings) (seconds : Nat) (world : World) : Prop where
  notFailing : surroundings.storeFailure .set world.storeCalls = none
  inMemory : ∃ entries, world.store = .memory entries
  noTime : TimedEntries.secondsLimit ≤ world.now / TimedEntries.perSecond + seconds

theorem breaksOver_iff {surroundings : Surroundings} {world : World} {seconds : Nat} (key value : String) :
    world.BreaksOver surroundings seconds ↔
      surroundings.storeFailure .set world.storeCalls = none ∧
        world.store.set? world.now key value seconds = none := by
  rw [ShortTermStore.set?_eq_none_iff]
  exact ⟨fun ⟨notFailing, inMemory, noTime⟩ => ⟨notFailing, inMemory, noTime⟩,
    fun ⟨notFailing, inMemory, noTime⟩ => ⟨notFailing, inMemory, noTime⟩⟩

variable {surroundings : Surroundings} {world : World}

theorem fst_useStore_eq_none_iff {Result : Type} {operation : StoreOperation}
    {use : World → Option (Result × ShortTermStore)} :
    (world.useStore surroundings operation use).1 = none ↔
      surroundings.storeFailure operation world.storeCalls = none ∧ use world = none := by
  unfold useStore
  dsimp only
  cases surroundings.storeFailure operation world.storeCalls with
  | some failure => exact iff_of_false nofun (by rintro ⟨⟨⟩, -⟩)
  | none =>
    cases use world with
    | none => exact iff_of_true rfl ⟨rfl, rfl⟩
    | some used => exact iff_of_false nofun (by rintro ⟨-, ⟨⟩⟩)

/-- Every command in which the store has no part has a reply. -/
theorem fst_carryOut_ne_none {command : Command} (noStore : command.usesStore = false) :
    (world.carryOut surroundings command).1 ≠ none := by
  cases command with
  | «recall» key => cases noStore
  | remember key value seconds => cases noStore
  | forget key => cases noStore
  | purge => cases noStore
  | _ => exact nofun

/-- The only command over which a server can break down is to keep something. -/
theorem fst_carryOut_eq_none_iff {command : Command} :
    (world.carryOut surroundings command).1 = none ↔
      ∃ key value seconds, command = .remember key value seconds ∧
        world.BreaksOver surroundings seconds := by
  by_cases noStore : command.usesStore = false
  · refine iff_of_false (fst_carryOut_ne_none noStore) ?_
    rintro ⟨key, value, seconds, rfl, -⟩
    cases noStore
  · cases command with
    | remember key value seconds =>
      rw [carryOut, fst_useStore_eq_none_iff, Option.map_eq_none_iff, ← breaksOver_iff]
      refine ⟨fun breaks => ⟨key, value, seconds, rfl, breaks⟩, ?_⟩
      rintro ⟨_, _, _, ⟨⟩, breaks⟩
      exact breaks
    | «recall» key =>
      rw [carryOut, fst_useStore_eq_none_iff]
      exact iff_of_false (by rintro ⟨-, ⟨⟩⟩) (by rintro ⟨_, _, _, ⟨⟩, -⟩)
    | forget key =>
      rw [carryOut, fst_useStore_eq_none_iff]
      exact iff_of_false (by rintro ⟨-, ⟨⟩⟩) (by rintro ⟨_, _, _, ⟨⟩, -⟩)
    | purge =>
      rw [carryOut, fst_useStore_eq_none_iff]
      exact iff_of_false (by rintro ⟨-, ⟨⟩⟩) (by rintro ⟨_, _, _, ⟨⟩, -⟩)
    | _ => exact absurd rfl noStore

end World

/-! ### Among other work -/

/-- Values are kept for certain lifetimes only, none of them empty; replies are told apart in any case. -/
def Likeness.ofLifetimes (lifetimes : List Nat) : Likeness where
  allows
    | .remember _ _ seconds => seconds ≠ 0 ∧ seconds ∈ lifetimes
    | _ => True
  alike _ := Eq

theorem Likeness.suitsResolutions_ofLifetimes (windows : Windows) :
    (ofLifetimes [windows.missLifetime, windows.discoveryCooldown]).SuitsResolutions windows where
  allows command noStore := by
    cases command with
    | remember key value seconds => cases noStore
    | _ => trivial
  distinct _ _ _ _ same := same
  allowsRecall _ := trivial
  allowsRemember _ _ _ isWindow notNone := ⟨notNone, isWindow⟩
  recalls _ _ _ same := congrArg Resolution.tellsRemembered same

namespace Threads

variable {Result : Type} {surroundings : Surroundings} {lifetimes : List Nat} {threads : Threads Result}
  {place : Nat}

/-- The program at a place has not broken down, and has values kept for certain lifetimes only. -/
def IsWholeAt (lifetimes : List Nat) (place : Nat) (threads : Threads Result) : Prop :=
  ∃ program, threads.programs[place]? = some (some program) ∧ program.Overlooks (.ofLifetimes lifetimes)

/-- A program that has not broken down does so in its own turn, over a lifetime, or not at all. -/
theorem IsWholeAt.move (whole : threads.IsWholeAt lifetimes place) (move : Move) :
    (threads.move surroundings move).IsWholeAt lifetimes place ∨
      move = .step place ∧ ∃ seconds ∈ lifetimes, seconds ≠ 0 ∧
        threads.world.BreaksOver surroundings seconds := by
  obtain ⟨program, isThere, overlooks⟩ := whole
  by_cases turn : move = .step place
  · subst turn
    cases overlooks with
    | done isEnd => exact Or.inl ⟨_, getElem?_move_of_done isThere _, .done _⟩
    | step allowed later =>
      rename_i command next
      have isPlace : place < threads.programs.length := (List.getElem?_eq_some_iff.mp isThere).1
      have goesOn : (threads.move surroundings (.step place)).programs[place]? =
          some ((threads.world.carryOut surroundings command).1.map next) := by
        rw [Threads.move, advanceAt_of_step isThere, List.getElem?_set_self isPlace]
      cases replied : (threads.world.carryOut surroundings command).1 with
      | some reply =>
        rw [replied] at goesOn
        exact Or.inl ⟨next reply, goesOn, later reply reply rfl⟩
      | none =>
        obtain ⟨key, value, seconds, rfl, breaks⟩ := World.fst_carryOut_eq_none_iff.mp replied
        exact Or.inr ⟨rfl, seconds, allowed.2, allowed.1, breaks⟩
  · exact Or.inl ⟨program, (getElem?_move_of_ne turn).trans isThere, overlooks⟩

/-- A program that begins among others is still there after any number of moves, unless in one of its turns
the server broke down over a lifetime. -/
theorem IsWholeAt.after (whole : threads.IsWholeAt lifetimes place) (moves : Nat → Move) (count : Nat) :
    (threads.after surroundings moves count).IsWholeAt lifetimes place ∨
      ∃ earlier < count, moves earlier = .step place ∧ ∃ seconds ∈ lifetimes, seconds ≠ 0 ∧
        (threads.after surroundings moves earlier).world.BreaksOver surroundings seconds := by
  induction count with
  | zero => exact Or.inl whole
  | succ count inductionHypothesis =>
    rcases inductionHypothesis with stillWhole | ⟨earlier, isEarlier, broke⟩
    · rcases stillWhole.move (moves count) with wholeThen | breaks
      · exact Or.inl wholeThen
      · exact Or.inr ⟨count, Nat.lt_succ_self count, breaks⟩
    · exact Or.inr ⟨earlier, Nat.lt_succ_of_lt isEarlier, broke⟩

end Threads

/-! ### By itself -/

/-- What is remembered because of a finding is all that a server can break down over. -/
theorem World.fst_keeping_eq_none_iff {surroundings : Surroundings} {world : World}
    {memo : Option (String × Nat)} : (world.keeping surroundings memo).1 = none ↔
      ∃ kept ∈ memo, kept.2 ≠ 0 ∧ world.BreaksOver surroundings kept.2 := by
  cases memo with
  | none => exact iff_of_false nofun (by rintro ⟨_, ⟨⟩, -⟩)
  | some kept =>
    obtain ⟨key, seconds⟩ := kept
    have onlyOne : (∃ kept ∈ some (key, seconds), kept.2 ≠ 0 ∧ world.BreaksOver surroundings kept.2) ↔
        seconds ≠ 0 ∧ world.BreaksOver surroundings seconds := by simp
    rw [onlyOne, breaksOver_iff key "1"]
    unfold keeping remembering
    dsimp only
    by_cases isNone : seconds = 0
    · rw [if_pos isNone]
      exact iff_of_false nofun fun breaks => breaks.1 isNone
    · rw [if_neg isNone]
      cases surroundings.storeFailure .set world.storeCalls with
      | some failure => exact iff_of_false nofun (by rintro ⟨-, ⟨⟩, -⟩)
      | none =>
        cases world.store.set? world.now key "1" seconds with
        | some store => exact iff_of_false nofun (by rintro ⟨-, -, ⟨⟩⟩)
        | none => exact iff_of_true rfl ⟨isNone, rfl, rfl⟩

/-- A resolution has no result just if it opens a window that the server breaks down over. -/
theorem Call.outcome_eq_none_iff {service : Service} {call : Call}
    (isOpen : call.world.isDatabaseOpen = true) :
    (call.outcome service).1 = none ↔ ∃ window, call.Opens service window ∧
      window.seconds service.windows ≠ 0 ∧
      call.world.called.called.BreaksOver call.surroundings (window.seconds service.windows) := by
  by_cases isAdmitted : ∃ username domain, service.Admits call.world call.text username domain
  · obtain ⟨username, domain, admits⟩ := isAdmitted
    rw [(settles isOpen admits rfl).result, Option.map_eq_none_iff, World.fst_keeping_eq_none_iff,
      Finding.memo_eq]
    constructor
    · rintro ⟨kept, isMemo, breaks⟩
      obtain ⟨window, isWindow, rfl⟩ := Option.mem_map.mp isMemo
      exact ⟨window, (opens_iff admits).mpr isWindow, breaks⟩
    · rintro ⟨window, opens, breaks⟩
      exact ⟨_, Option.mem_map.mpr ⟨window, (opens_iff admits).mp opens, rfl⟩, breaks⟩
  · obtain ⟨result, -, answer, -⟩ := exists_own_answer_of_not_admits isAdmitted
    rw [answer]
    refine iff_of_false nofun ?_
    rintro ⟨window, opens, -⟩
    exact isAdmitted ⟨_, _, opens.exists_admits.choose_spec⟩

theorem Window.seconds_mem (window : Window) (windows : Windows) :
    window.seconds windows ∈ [windows.missLifetime, windows.discoveryCooldown] := by
  cases window with
  | cooldown domain => exact List.mem_cons_of_mem _ (List.mem_singleton_self _)
  | miss username domain => exact List.mem_cons_self

/-- A resolution has a result if neither window is one that the server breaks down over. -/
theorem Call.exists_result {service : Service} {call : Call} (isOpen : call.world.isDatabaseOpen = true)
    (survives : ∀ seconds ∈ [service.windows.missLifetime, service.windows.discoveryCooldown],
      ¬ call.world.called.called.BreaksOver call.surroundings seconds) :
    ∃ result, (call.outcome service).1 = some result := by
  refine Option.ne_none_iff_exists'.mp fun broken => ?_
  obtain ⟨window, -, -, breaks⟩ := (outcome_eq_none_iff isOpen).mp broken
  exact survives _ (window.seconds_mem service.windows) breaks

/-! ### Ages -/

namespace Timestamp

/-- A point of time is in one of the years from -262144 to 262143, which is as far as the calendar goes. -/
structure IsOnCalendar (time : Timestamp) : Prop where
  notBefore : Day.number ⟨-262144, 1, 1⟩ * 86400 ≤ time.seconds
  notAfter : time.seconds < Day.number ⟨262144, 1, 1⟩ * 86400
  fraction : time.nanoseconds < 2 * perSecond

/-- The milliseconds between two points of time on the calendar fit in sixty-four bits with a sign. -/
theorem elapsed_lt {start stop : Timestamp} (isStart : start.IsOnCalendar) (isStop : stop.IsOnCalendar) :
    start.elapsed stop / 1000000 < bound63 := by
  have first : Day.number ⟨-262144, 1, 1⟩ * 86400 = -8334632851200 := by decide
  have last : Day.number ⟨262144, 1, 1⟩ * 86400 = 8210298412800 := by decide
  obtain ⟨notBefore, -, -⟩ := isStart
  obtain ⟨-, notAfter, fraction⟩ := isStop
  rw [first] at notBefore
  rw [last] at notAfter
  unfold elapsed toNanoseconds bound63
  unfold perSecond at fraction ⊢
  omega

end Timestamp

/-! ### Over what a resolution breaks down -/

namespace Threads

variable {Result : Type} {surroundings : Surroundings} {threads : Threads Result} {place : Nat}

/-- In no turn of the program at a place does the server break down over one of some lifetimes. -/
def Survives (surroundings : Surroundings) (lifetimes : List Nat) (moves : Nat → Move) (place : Nat)
    (threads : Threads Result) : Prop :=
  ∀ time, moves time = .step place → ∀ seconds ∈ lifetimes, seconds ≠ 0 →
    ¬ (threads.after surroundings moves time).world.BreaksOver surroundings seconds

/-- The program at a place is always there, and comes to its end if its turn comes again and again. -/
structure ComesThrough (surroundings : Surroundings) (moves : Nat → Move) (place : Nat)
    (threads : Threads Result) : Prop where
  isThere : ∀ time, ∃ program,
    (threads.after surroundings moves time).programs[place]? = some (some program)
  ends : (∀ time, ∃ later, time ≤ later ∧ moves later = .step place) →
    ∃ time result, (threads.after surroundings moves time).programs[place]? = some (some (.done result))

/-- Nothing breaks down where all lifetimes end in time. -/
theorem survives_of_inTime {lifetimes : List Nat} {moves : Nat → Move}
    (inTime : ∀ time, ∀ seconds ∈ lifetimes, (threads.world.now + Move.span moves time) /
      TimedEntries.perSecond + seconds < TimedEntries.secondsLimit) :
    threads.Survives surroundings lifetimes moves place := by
  intro time _ seconds isLifetime _ breaks
  have beyond := breaks.noTime
  rw [now_after] at beyond
  exact absurd beyond (Nat.not_le.mpr (inTime time seconds isLifetime))

/-- A resolution comes through if the server does not break down over a window in one of its turns. -/
theorem comesThrough_of_survives {service : Service} {text : String}
    {threads : Threads (Except Failure Resolved)}
    (begins : threads.programs[place]? = some (some (service.resolve text).toProgram)) {moves : Nat → Move}
    (survives : threads.Survives surroundings
      [service.windows.missLifetime, service.windows.discoveryCooldown] moves place) :
    threads.ComesThrough surroundings moves place := by
  have suits := Likeness.suitsResolutions_ofLifetimes service.windows
  have whole : threads.IsWholeAt [service.windows.missLifetime, service.windows.discoveryCooldown] place :=
    ⟨_, begins, Service.overlooks_resolve suits text⟩
  have isThere : ∀ time, ∃ program,
      (threads.after surroundings moves time).programs[place]? = some (some program) := by
    intro time
    rcases whole.after moves time with ⟨program, isThere, -⟩ | ⟨earlier, -, turn, seconds, isWindow, broke⟩
    · exact ⟨program, isThere⟩
    · exact absurd broke.2 (survives earlier turn seconds isWindow broke.1)
  refine ⟨isThere, fun turns => ?_⟩
  have beginsThere : (threads.after surroundings moves 0).programs[place]? =
      some (some (service.resolve text).toProgram) := begins
  refine exists_done turns (fun time isBroken => ?_) _ beginsThere
  obtain ⟨program, isWhole⟩ := isThere time
  exact nomatch isWhole.symm.trans isBroken

end Threads

/-- Whatever is remembered and whatever other instances do, a resolution comes to a result, which may be a
failure, unless it opens a window of the settings that reaches beyond the last point of time and has to be
kept in the memory. So it always does where both windows end in time, and where the store is a server of
its own. Among other work, which may change the store while the clock goes on, it does so as well, unless
the server breaks down over a window in one of its turns. And the age of a cached profile is small enough
to be counted. -/
theorem Service.IsReachable.breaks_down_over_long_windows {service : Service} {world : World}
    (reachable : service.IsReachable world) (surroundings : Surroundings) (text : String) :
    let call : Call := ⟨surroundings, world, text⟩
    let lifetimes := [service.windows.missLifetime, service.windows.discoveryCooldown]
    ((call.outcome service).1 = none ↔ ∃ window, call.Opens service window ∧
      window.seconds service.windows ≠ 0 ∧
      world.called.called.BreaksOver surroundings (window.seconds service.windows)) ∧
    ((∀ seconds ∈ lifetimes, world.now / TimedEntries.perSecond + seconds < TimedEntries.secondsLimit) →
      ∃ result, (call.outcome service).1 = some result) ∧
    (∀ keyPrefix server, world.store = .shared keyPrefix server →
      ∃ result, (call.outcome service).1 = some result) ∧
    (∀ (threads : Threads (Except Failure Resolved)) (place : Nat) (moves : Nat → Move),
      threads.programs[place]? = some (some (service.resolve text).toProgram) →
      threads.Survives surroundings lifetimes moves place →
      threads.ComesThrough surroundings moves place) ∧
    ∀ username domain, ∀ user ∈ world.tables.stub? username domain,
      user.updatedAt.IsOnCalendar → world.time.IsOnCalendar →
        user.updatedAt.elapsed world.time / 1000000 < bound63 := by
  intro call lifetimes
  have isOpen : call.world.isDatabaseOpen = true := reachable.isReachable.isSound.isOpen
  refine ⟨Call.outcome_eq_none_iff isOpen, fun inTime => ?inTime, fun keyPrefix server isShared => ?shared,
    fun threads place moves begins survives => Threads.comesThrough_of_survives begins survives,
    fun _ _ user _ => Timestamp.elapsed_lt⟩
  case inTime =>
    exact Call.exists_result isOpen fun seconds isWindow breaks =>
      absurd breaks.noTime (Nat.not_le.mpr (inTime seconds isWindow))
  case shared =>
    refine Call.exists_result isOpen fun seconds isWindow breaks => ?_
    obtain ⟨entries, isMemory⟩ := breaks.inMemory
    exact nomatch isShared.symm.trans isMemory

/-! ### Sites with and without time -/

namespace Site

/-- A site that has just started over a store, with the longest cooldown that can be set. -/
def enduring (store : ShortTermStore) : Site :=
  .atStart (waiting 18446744073709551615).service.configuration .silent store 0

/-- Two resolutions of a known user take turns at a site where there is time for the windows, and both come
to a result; so does one at a site with the longest cooldown if its store is a server of its own. -/
theorem comesThrough_acquainted :
    let site := acquainted .alice 1000000000000000
    let patient := enduring (.shared "federation:" .empty)
    site.IsReachable ∧ patient.IsReachable ∧
    (∀ seconds ∈ [site.service.windows.missLifetime, site.service.windows.discoveryCooldown],
      site.world.now / TimedEntries.perSecond + seconds < TimedEntries.secondsLimit) ∧
    (∃ result, (site.resolve "alice@other.example").1 = some result) ∧
    (∃ result, (patient.resolve "alice@other.example").1 = some result) ∧
    (∃ time result, ((site.service.resolving ["alice@other.example", "ALICE@other.example"]
      site.world).after .silent (fun turn => .step (turn % 2)) time).programs[1]? =
        some (some (.done result))) ∧
    (stubOf .alice).updatedAt.elapsed site.world.time / 1000000 < bound63 := by
  intro site patient
  have reachable : site.IsReachable := isReachable_acquainted _ _
  have reachablePatient : patient.IsReachable := isReachable_atStart _ _ _ _
  have inTime : ∀ seconds ∈ [site.service.windows.missLifetime, site.service.windows.discoveryCooldown],
      site.world.now / TimedEntries.perSecond + seconds < TimedEntries.secondsLimit := by
    have inTime : ∀ seconds ∈ [60, 30],
        1000000000000000 / TimedEntries.perSecond + seconds < TimedEntries.secondsLimit := by decide
    exact inTime
  have noSpan : ∀ time, Move.span (fun turn => .step (turn % 2)) time = 0 := by
    intro time
    induction time with
    | zero => rfl
    | succ time inductionHypothesis => exact inductionHypothesis
  obtain ⟨-, ends, -, -, ages⟩ := Service.IsReachable.breaks_down_over_long_windows reachable
    .silent "alice@other.example"
  obtain ⟨-, -, -, comesThrough, -⟩ := Service.IsReachable.breaks_down_over_long_windows reachable
    .silent "ALICE@other.example"
  obtain ⟨-, -, endsPatiently, -⟩ := Service.IsReachable.breaks_down_over_long_windows reachablePatient
    .silent "alice@other.example"
  have isStart : (stubOf .alice).updatedAt.IsOnCalendar := ⟨by decide, by decide, by decide⟩
  have isStop : site.world.time.IsOnCalendar := ⟨by decide, by decide, by decide⟩
  have survives : (site.service.resolving ["alice@other.example", "ALICE@other.example"]
      site.world).Survives .silent [site.service.windows.missLifetime,
        site.service.windows.discoveryCooldown] (fun turn => .step (turn % 2)) 1 := by
    refine Threads.survives_of_inTime fun time => ?_
    rw [noSpan]
    exact inTime
  have through := (comesThrough _ 1 _ rfl survives).ends fun time =>
    ⟨2 * time + 1, by omega, congrArg Move.step (by omega)⟩
  have result := ends inTime
  have resultThere := endsPatiently _ _ rfl
  rw [Call.outcome_eq] at result resultThere
  exact ⟨reachable, reachablePatient, inTime, result, resultThere, through,
    ages "alice" "other.example" _ rfl isStart isStop⟩

/-- The variables of a site with the longest cooldown that can be set. -/
def environmentEnduring : Environment :=
  [("INSTANCE_DOMAIN", "home.example"), ("INSTANCE_BIND_ADDRESS", "127.0.0.1"),
    ("INSTANCE_PUBLIC_KEY", "key"), ("INSTANCE_DATA_DIRECTORY", "data"),
    ("INSTANCE_DATABASE", "federation.db"), ("RUST_LOG", "info"),
    ("FEDERATION_DISCOVERY_COOLDOWN", "18446744073709551615")]

/-- A server that was started with the longest cooldown breaks down over the first resolution that finds
another instance silent, if it keeps its short-lived values in the memory. -/
theorem enduring_breaks_down :
    let site := enduring (.memory .empty)
    environmentEnduring.configuration = .ok site.service.configuration ∧
    (Service.start site.service.configuration).toProgram.run site.surroundings
      (.fresh (.memory .empty) 0) = (some (.ok site.service), site.world) ∧
    site.IsReachable ∧ (site.resolve "alice@other.example").1 = none := by
  intro site
  have isRead : environmentEnduring.configuration = .ok site.service.configuration := by rfl
  have broken : ((refused 18446744073709551615).outcome site.service).1 = none :=
    (Call.outcome_eq_none_iff rfl).mpr
      ⟨.cooldown "other.example", opens_refused _, by decide, rfl, ⟨_, rfl⟩, by decide⟩
  rw [Call.outcome_eq] at broken
  exact ⟨isRead, run_start rfl .silent (.memory .empty) 0, isReachable_atStart _ _ _ _, broken⟩

end Site

end HandleFederation
