/-
This file says what the counters stand for. Every event adds one to a single counter, so
after some events a counter is the number of those that belong to it, and a sum of
counters is the number of those that belong to any of them. What a program does to the
counters is therefore told by the events that it counts, and what it asks of other
instances by the URLs that it requests. A fetch counts and requests in one of a few ways,
one for each place at which it can leave off.
-/

import HandleFederation.Proofs.AskedUsername
import HandleFederation.Proofs.History

namespace HandleFederation

open Program Resolution Text

/-! ### Counters -/

/-- The counter that an event adds one to: its kind, and the values of its labels. -/
def Event.counterKey : Event → CounterKind × List String
  | .requestServed method path status _ => (.requestsServed, [method, path, toString status])
  | .resolution path outcome => (.resolutions, [outcome, path])
  | .requestMade kind result _ => (.requestsMade, [kind, result])
  | .cacheAccess kind hit => (if hit then .cacheHits else .cacheMisses, [kind])
  | .job kind status _ => (.jobs, [kind, status])

/-- Among events of some kinds there is none of other kinds. -/
theorem Event.countP_eq_zero_of_kinds {kinds others : List CounterKind} {events : List Event}
    {chosen : Event → Bool} (areOf : ∀ event ∈ events, event.counterKey.1 ∈ kinds)
    (choosesOthers : ∀ event, chosen event = true → event.counterKey.1 ∈ others)
    (areApart : ∀ kind ∈ kinds, kind ∉ others) : events.countP chosen = 0 :=
  List.countP_eq_zero.mpr fun event member isChosen =>
    areApart _ (areOf event member) (choosesOthers event isChosen)

namespace Metrics

/-- The sum of the counters that are chosen by their kind and the values of their labels. -/
def sum (chosen : CounterKind × List String → Bool) (metrics : Metrics) : Nat :=
  ((metrics.counters.filter fun entry => chosen entry.1).map Prod.snd).sum

theorem total_eq_sum (kind : CounterKind) (metrics : Metrics) :
    metrics.total kind = metrics.sum fun key => key.1 = kind := rfl

section

variable {Key Value : Type} [DecidableEq Key]

theorem lookup_cons [BEq Key] [LawfulBEq Key] (first other : Key) (value : Value)
    (rest : List (Key × Value)) :
    ((first, value) :: rest).lookup other = if other = first then some value else rest.lookup other := by
  by_cases same : other = first
  · rw [if_pos same, same, List.lookup_cons_self]
  · have differ : (other == first) = false := beq_eq_false_iff_ne.mpr same
    rw [if_neg same, List.lookup_cons, differ]

/-- A change of one entry leaves the others as they are. -/
theorem lookup_adjust [BEq Key] [LawfulBEq Key] (key other : Key) (start : Value) (change : Value → Value)
    (entries : List (Key × Value)) :
    (adjust key start change entries).lookup other =
      if other = key then some (change ((entries.lookup key).getD start)) else entries.lookup other := by
  induction entries with
  | nil => exact lookup_cons key other (change start) []
  | cons entry rest inductionHypothesis =>
    obtain ⟨first, value⟩ := entry
    rw [adjust, lookup_cons, lookup_cons]
    by_cases isFirst : first = key
    · rw [if_pos isFirst, if_pos isFirst.symm, lookup_cons, isFirst, Option.getD_some]
      by_cases same : other = key
      · rw [if_pos same, if_pos same]
      · rw [if_neg same, if_neg same, if_neg same]
    · rw [if_neg isFirst, if_neg (Ne.symm isFirst), lookup_cons, inductionHypothesis]
      by_cases same : other = first
      · have notKey : other ≠ key := same ▸ isFirst
        rw [if_pos same, if_pos same, if_neg notKey]
      · rw [if_neg same, if_neg same]

/-- One more in one entry makes one more in the sum of those that are chosen. -/
theorem sum_adjust (key : Key) (chosen : Key → Bool) (entries : List (Key × Nat)) :
    (((adjust key 0 (· + 1) entries).filter fun entry => chosen entry.1).map Prod.snd).sum =
      ((entries.filter fun entry => chosen entry.1).map Prod.snd).sum + if chosen key then 1 else 0 := by
  induction entries with
  | nil => cases isChosen : chosen key <;> simp [adjust, isChosen]
  | cons entry rest inductionHypothesis =>
    obtain ⟨first, count⟩ := entry
    by_cases isFirst : first = key
    · subst isFirst
      cases isChosen : chosen first
      · simp [adjust, isChosen]
      · simp [adjust, isChosen]
        omega
    · cases isChosen : chosen first
      · simp [adjust, isFirst, isChosen, inductionHypothesis]
      · simp [adjust, isFirst, isChosen, inductionHypothesis]
        omega

end

theorem counters_record (event : Event) (metrics : Metrics) :
    (metrics.record event).counters = adjust event.counterKey 0 (· + 1) metrics.counters := by
  cases event <;> rfl

theorem counter_record (kind : CounterKind) (labels : List String) (event : Event) (metrics : Metrics) :
    (metrics.record event).counter kind labels =
      metrics.counter kind labels + if event.counterKey = (kind, labels) then 1 else 0 := by
  rw [counter, counters_record, lookup_adjust, counter]
  by_cases same : event.counterKey = (kind, labels)
  · rw [same, if_pos rfl, if_pos rfl, Option.getD_some]
  · rw [if_neg (Ne.symm same), if_neg same, Nat.add_zero]

theorem sum_record (chosen : CounterKind × List String → Bool) (event : Event) (metrics : Metrics) :
    (metrics.record event).sum chosen =
      metrics.sum chosen + if chosen event.counterKey then 1 else 0 := by
  rw [sum, counters_record, sum_adjust, sum]

/-- A counter is the number of the events that belong to it. -/
theorem counter_foldr_record (kind : CounterKind) (labels : List String) (events : List Event) :
    (events.foldr record empty).counter kind labels =
      events.countP fun event => event.counterKey = (kind, labels) := by
  induction events with
  | nil => rfl
  | cons event rest inductionHypothesis =>
    rw [List.foldr_cons, counter_record, inductionHypothesis, List.countP_cons]
    simp only [decide_eq_true_eq]

/-- A sum of counters is the number of the events that belong to any of them. -/
theorem sum_foldr_record (chosen : CounterKind × List String → Bool) (events : List Event) :
    (events.foldr record empty).sum chosen = events.countP fun event => chosen event.counterKey := by
  induction events with
  | nil => rfl
  | cons event rest inductionHypothesis =>
    rw [List.foldr_cons, sum_record, inductionHypothesis, List.countP_cons]

end Metrics

/-! ### What is counted and requested on the way -/

/-- Between two worlds some events were counted and some URLs requested, the latest of each first. -/
structure World.Adds (events : List Event) (urls : List Url) (before after : World) : Prop where
  metrics : after.metrics = events.foldr Metrics.record before.metrics
  requested : after.requested = urls ++ before.requested

namespace World

variable {events laterEvents : List Event} {urls laterUrls : List Url} {before between after : World}

theorem Adds.refl (world : World) : world.Adds [] [] world := ⟨rfl, rfl⟩

theorem Adds.trans (first : before.Adds events urls between)
    (second : between.Adds laterEvents laterUrls after) :
    before.Adds (laterEvents ++ events) (laterUrls ++ urls) after where
  metrics := by rw [second.metrics, first.metrics, List.foldr_append]
  requested := by rw [second.requested, first.requested, List.append_assoc]

theorem Adds.counted (adds : before.Adds events urls after) (event : Event) :
    before.Adds (event :: events) urls (after.counted event) := by
  have own : after.Adds [event] [] (after.counted event) := ⟨rfl, rfl⟩
  exact adds.trans own

theorem Adds.asked (adds : before.Adds events urls after) (url : Url) :
    before.Adds events (url :: urls) (after.asked url) := by
  have own : after.Adds [] [url] (after.asked url) := ⟨rfl, rfl⟩
  exact adds.trans own

/-- A request is counted with the seconds that it took. -/
theorem Adds.exists_countedRequest (adds : before.Adds events urls after) (kind outcome : String) :
    ∃ seconds, before.Adds (.requestMade kind outcome seconds :: events) urls
      (after.countedRequest kind outcome) :=
  ⟨_, adds.counted _⟩

/-- From a reset on, a counter is the number of the events that belong to it. -/
theorem Adds.counter_eq (adds : before.Adds events urls after) (isReset : before.metrics = .empty)
    (kind : CounterKind) (labels : List String) :
    after.metrics.counter kind labels = events.countP fun event => event.counterKey = (kind, labels) := by
  rw [adds.metrics, isReset, Metrics.counter_foldr_record]

theorem Adds.sum_eq (adds : before.Adds events urls after) (isReset : before.metrics = .empty)
    (chosen : CounterKind × List String → Bool) :
    after.metrics.sum chosen = events.countP fun event => chosen event.counterKey := by
  rw [adds.metrics, isReset, Metrics.sum_foldr_record]

/-- Remembering something is not counted. -/
theorem Adds.remembering (adds : before.Adds events urls after) (surroundings : Surroundings)
    (key : String) (seconds : Nat) :
    before.Adds events urls (after.remembering surroundings key seconds).2 := by
  refine ⟨?_, (requested_remembering surroundings key seconds after).trans adds.requested⟩
  rw [← adds.metrics]
  unfold World.remembering
  split
  · rfl
  · split
    · rfl
    · split <;> rfl

/-- Neither is a change of the tables. -/
theorem Adds.changeTables {Result : Type} (adds : before.Adds events urls after) (identifiers : Nat)
    (change : Tables → Except Failure (Result × Tables)) :
    before.Adds events urls (after.changeTables identifiers change).2 := by
  obtain ⟨tables, issued, same⟩ := after.exists_changeTables_eq identifiers change
  rw [same]
  exact ⟨adds.metrics, adds.requested⟩

end World

/-! ### Requests and what is counted of them -/

/-- Whether a URL leads to a document at a path. -/
def Url.leadsTo (path : String) (url : Url) : Bool :=
  url.path.write == path.toList

/-- Whether a counter is one of the requests of a kind. -/
def Metrics.isOfRequests (kind : String) (key : CounterKind × List String) : Bool :=
  key.1 == .requestsMade && key.2.head? == some kind

namespace DomainName

variable {domain : String} {url : Url}

/-- What stands after the host in the URL of a declaration does not depend on the host. -/
theorem path_of_declarationUrl (plain : IsPlain domain.toList) (declaredAt : declarationUrl domain = .ok url) :
    url.path.write = declarationPath.toList := by
  have isNormal : (Url.readPath true [] (Url.dropSlash declarationPath.toList)).write =
      declarationPath.toList := by decide
  rw [declarationUrl, read_eq_map_of_isPlain plain (spelt_declaration domain)
    visible_declarationPath] at declaredAt
  cases read : readSpecialHost domain.toList with
  | error fault =>
    rw [read] at declaredAt
    cases declaredAt
  | ok host =>
    rw [read] at declaredAt
    cases declaredAt
    show (Url.ofHost host declarationPath.toList).path.write = declarationPath.toList
    rw [Url.ofHost, splitParts_declarationPath]
    exact isNormal

theorem leadsTo_of_declarationUrl (plain : IsPlain domain.toList)
    (declaredAt : declarationUrl domain = .ok url) :
    url.leadsTo declarationPath = true ∧ url.leadsTo lookupPath = false := by
  unfold Url.leadsTo
  rw [path_of_declarationUrl plain declaredAt]
  decide

theorem leadsTo_of_lookupUrl (plain : IsPlain domain.toList) {username : String}
    (isLookup : Profile.lookupUrl domain username = .ok url) :
    url.leadsTo lookupPath = true ∧ url.leadsTo declarationPath = false := by
  obtain ⟨host, -, rfl⟩ := exists_ofHost_of_lookupUrl plain isLookup
  unfold Url.leadsTo
  rw [path_ofHost_lookupLetters]
  decide

end DomainName

namespace Resolution

/-- The requests of each kind that were counted are those that were made, but for so many discoveries that
were counted without being made; and no others were made. -/
structure Balances (unsent : Nat) (events : List Event) (urls : List Url) : Prop where
  discoveries : events.countP (fun event => Metrics.isOfRequests "discovery" event.counterKey) =
    urls.countP (Url.leadsTo declarationPath) + unsent
  lookups : events.countP (fun event => Metrics.isOfRequests "lookup" event.counterKey) =
    urls.countP (Url.leadsTo lookupPath)
  kinds : urls.countP (Url.leadsTo declarationPath) + urls.countP (Url.leadsTo lookupPath) = urls.length

/-- What is counted and requested to discover the instance of a domain, and whether a request is counted
that was not made. -/
inductive Discovers (domain : String) : Bool → List Event → List Url → Prop
  /-- Nothing is asked where that failed a moment ago. -/
  | leftAlone : Discovers domain false [] []
  /-- There is no URL to ask at, which is found out too late for the count. -/
  | unsent {fault : TransportFault} (noUrl : declarationUrl domain = .error fault) (outcome : String)
    (seconds : Float) : Discovers domain true [.requestMade "discovery" outcome seconds] []
  | sent {url : Url} (declaredAt : declarationUrl domain = .ok url) (outcome : String) (seconds : Float) :
    Discovers domain false [.requestMade "discovery" outcome seconds] [url]

/-- What is counted and requested to fetch the profile of a user: after the discovery, which may have
failed, the user is perhaps looked up. -/
inductive Fetches (username domain : String) : Bool → List Event → List Url → Prop
  | discovers {isUnsent : Bool} {events : List Event} {urls : List Url}
    (discovers : Discovers domain isUnsent events urls) : Fetches username domain isUnsent events urls
  | looksUp {isUnsent : Bool} {events : List Event} {urls : List Url}
    (discovers : Discovers domain isUnsent events urls) {url : Url}
    (isLookup : Profile.lookupUrl domain (lower username) = .ok url) (outcome : String) (seconds : Float) :
    Fetches username domain isUnsent (.requestMade "lookup" outcome seconds :: events) (url :: urls)

section

variable {username domain : String} {isUnsent : Bool} {events : List Event} {urls : List Url}

theorem Discovers.balances (plain : DomainName.IsPlain domain.toList)
    (discovers : Discovers domain isUnsent events urls) : Balances isUnsent.toNat events urls := by
  cases discovers with
  | leftAlone => exact ⟨rfl, rfl, rfl⟩
  | unsent noUrl outcome seconds => exact ⟨rfl, rfl, rfl⟩
  | sent declaredAt outcome seconds =>
    obtain ⟨isDeclaration, notLookup⟩ := DomainName.leadsTo_of_declarationUrl plain declaredAt
    constructor
    all_goals simp [isDeclaration, notLookup, Metrics.isOfRequests, Event.counterKey]

/-- A lookup is only counted when it was made. -/
theorem Fetches.balances (plain : DomainName.IsPlain domain.toList)
    (fetches : Fetches username domain isUnsent events urls) : Balances isUnsent.toNat events urls := by
  cases fetches with
  | discovers discovers => exact discovers.balances plain
  | looksUp discovers isLookup outcome seconds =>
    obtain ⟨isLookup, notDeclaration⟩ := DomainName.leadsTo_of_lookupUrl plain isLookup
    obtain ⟨discoveries, lookups, kinds⟩ := discovers.balances plain
    constructor
    · simpa [notDeclaration, Metrics.isOfRequests, Event.counterKey] using discoveries
    · simpa [isLookup, Metrics.isOfRequests, Event.counterKey] using lookups
    · simp [isLookup, notDeclaration]
      omega

/-- Nothing but requests is counted on the way. -/
theorem Fetches.kind_of_mem (fetches : Fetches username domain isUnsent events urls) {event : Event}
    (member : event ∈ events) : event.counterKey.1 ∈ [.requestsMade] := by
  have ofDiscovery {isUnsent : Bool} {events : List Event} {urls : List Url}
      (discovers : Discovers domain isUnsent events urls) (member : event ∈ events) :
      event.counterKey.1 ∈ [.requestsMade] := by
    cases discovers with
    | leftAlone => cases member
    | unsent noUrl outcome seconds =>
      rw [List.mem_singleton.mp member]
      exact List.mem_singleton_self _
    | sent declaredAt outcome seconds =>
      rw [List.mem_singleton.mp member]
      exact List.mem_singleton_self _
  cases fetches with
  | discovers discovers => exact ofDiscovery discovers member
  | looksUp discovers isLookup outcome seconds =>
    rcases List.mem_cons.mp member with rfl | isEarlier
    · exact List.mem_singleton_self _
    · exact ofDiscovery discovers isEarlier

end

/-! ### The ways of a fetch -/

variable (surroundings : Surroundings) (windows : Windows)

/-- A discovery leaves off at one of its exits. A request is counted without being made just if there is no
URL for it, and it was tried. -/
theorem exists_discovers (domain : String) (world : World) :
    let outcome := (discover windows domain).toProgram.run surroundings world
    ∃ isUnsent events urls, Discovers domain isUnsent events urls ∧ world.Adds events urls outcome.2 ∧
      (isUnsent = true ↔ world.recalls surroundings (cooldownKey domain) = false ∧
        ∃ fault, declarationUrl domain = .error fault) := by
  dsimp only
  rw [run_discover]
  cases cooling : world.recalls surroundings (cooldownKey domain) with
  | true => exact ⟨false, [], [], .leftAlone, ⟨rfl, rfl⟩, by simp⟩
  | false =>
    rw [if_neg Bool.false_ne_true]
    unfold World.declaring
    have called : world.Adds [] [] world.called := ⟨rfl, rfl⟩
    cases declaredAt : declarationUrl domain with
    | error fault =>
      obtain ⟨seconds, counted⟩ := called.exists_countedRequest "discovery" "error"
      exact ⟨true, _, _, .unsent declaredAt "error" seconds, counted.remembering surroundings _ _, by simp⟩
    | ok url =>
      dsimp only
      cases Declaration.ofExchange domain (surroundings.transport world.called.requested url) with
      | error fault =>
        obtain ⟨seconds, counted⟩ := (called.asked url).exists_countedRequest "discovery" "error"
        exact ⟨false, _, _, .sent declaredAt "error" seconds, counted.remembering surroundings _ _, by simp⟩
      | ok declaration =>
        obtain ⟨seconds, counted⟩ := (called.asked url).exists_countedRequest "discovery" "ok"
        refine ⟨false, _, _, .sent declaredAt "ok" seconds, ?_, by simp⟩
        dsimp only
        split
        · exact counted.remembering surroundings _ _
        · exact counted

/-- A fetch leaves off at one of its exits. -/
theorem exists_fetches (username domain : String) (world : World) :
    let outcome := (fetch windows username domain).toProgram.run surroundings world
    ∃ isUnsent events urls, Fetches username domain isUnsent events urls ∧
      world.Adds events urls outcome.2 ∧
      (isUnsent = true ↔ world.recalls surroundings (cooldownKey domain) = false ∧
        ∃ fault, declarationUrl domain = .error fault) := by
  obtain ⟨isUnsent, events, urls, discovers, adds, isUnsentIff⟩ :=
    exists_discovers surroundings windows domain world
  dsimp only at adds ⊢
  rw [run_fetch]
  generalize (discover windows domain).toProgram.run surroundings world = outcome at adds ⊢
  have leavesOff : ∃ isUnsent events urls, Fetches username domain isUnsent events urls ∧
      world.Adds events urls outcome.2 ∧
      (isUnsent = true ↔ world.recalls surroundings (cooldownKey domain) = false ∧
        ∃ fault, declarationUrl domain = .error fault) :=
    ⟨isUnsent, events, urls, .discovers discovers, adds, isUnsentIff⟩
  rcases outcome with ⟨_ | failure | declaration, found⟩
  · exact leavesOff
  · exact leavesOff
  · dsimp only
    rw [run_askProfile]
    cases isLookup : Profile.lookupUrl domain (lower username) with
    | error failure => exact leavesOff
    | ok url =>
      let answer := lookupOutcome (surroundings.transport found.requested url)
      obtain ⟨seconds, answered⟩ := (adds.asked url).exists_countedRequest "lookup" answer
      refine ⟨isUnsent, _, _, .looksUp discovers isLookup answer seconds, ?_, isUnsentIff⟩
      dsimp only
      cases Profile.Answer.ofExchange username (surroundings.transport found.requested url) with
      | unusable => exact answered
      | missing => exact answered.remembering surroundings _ _
      | found profile => exact answered.changeTables _ _

end Resolution

/-! ### Work that is not counted -/

/-- What may be done without anything being counted or requested. -/
def Contract.unnoticed : Contract where
  allows
    | .count _ | .request _ => False
    | _ => True
  promises _ _ := True

/-- Nothing is counted or requested but by the commands for that. -/
theorem World.adds_carryOut_of_unnoticed {world : World} (surroundings : Surroundings) {command : Command}
    (allowed : Contract.unnoticed.allows command) : world.Adds [] [] (world.carryOut surroundings command).2 := by
  have changes {Result : Type} (identifiers : Nat) (change : Tables → Except Failure (Result × Tables)) :
      world.Adds [] [] (world.changeTables identifiers change).2 :=
    (Adds.refl world).changeTables identifiers change
  have uses {Result : Type} (operation : StoreOperation) (use : World → Option (Result × ShortTermStore)) :
      world.Adds [] [] (world.useStore surroundings operation use).2 := by
    unfold World.useStore
    dsimp only
    split
    · exact ⟨rfl, rfl⟩
    · split <;> exact ⟨rfl, rfl⟩
  cases command with
  | count event => cases allowed
  | request url => cases allowed
  | writeLocal settings now =>
    rw [carryOut_writeLocal]
    exact changes _ _
  | writeRemote settings now =>
    rw [carryOut_writeRemote]
    exact changes _ _
  | writeMode instanceId mode =>
    rw [carryOut_writeMode]
    exact changes _ _
  | writePeer instanceId domain status now =>
    rw [carryOut_writePeer]
    exact changes _ _
  | writeAccount instanceId username displayName now =>
    rw [carryOut_writeAccount]
    exact changes _ _
  | writeStub instanceId fields now =>
    rw [carryOut_writeStub]
    exact changes _ _
  | writeRemoteUser settings fields now =>
    rw [carryOut_writeRemoteUser]
    exact changes _ _
  | «recall» key => exact uses _ _
  | remember key value seconds => exact uses _ _
  | forget key => exact uses _ _
  | purge => exact uses _ _
  | _ => exact .refl world

/-- A chore counts nothing and asks no other instance. -/
theorem Chore.adds_run (service : Service) (chore : Chore) (surroundings : Surroundings) (world : World) :
    world.Adds [] [] ((chore.program service).run surroundings world).2 := by
  have keeps : (chore.program service).Keeps .unnoticed fun _ => True := by
    refine chore.keeps_of service fun command isOfChore => ?_
    cases command with
    | count event => exact isOfChore
    | request url => exact isOfChore
    | _ => trivial
  have honoured : ∀ between : World, world.Adds [] [] between →
      Contract.unnoticed.IsHonoured surroundings between := fun _ _ _ _ _ _ => trivial
  refine (keeps.run honoured (fun between adds command allowed => ?_) (World.Adds.refl world)).1
  exact adds.trans (World.adds_carryOut_of_unnoticed surroundings allowed)

end HandleFederation
