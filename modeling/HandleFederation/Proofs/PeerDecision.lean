/-
This file says whom the allow-list lets in. Decisions about peers are taken one after
another, at a start and later on, and the gate follows the latest one for a domain. But
a decision is noted under its domain as it was given, in lower case, whereas the gate
asks for the normal form of a domain, from which the blanks around it and one dot at
its end are gone as well. So the gate follows the latest decision whose domain is, for a
row, the same name as that normal form. If all decisions are given without blanks around
and without a dot at the end, that is the latest one for the domain, as long as there are
no NULs to hide behind. Otherwise an approval may open the gate to nobody or to somebody
else, and a revocation may leave it open.
-/

import HandleFederation.Proofs.ServedDeclaration

namespace HandleFederation

open Program Resolution Text

/-! ### Decisions -/

/-- A decision about a peer: its domain as it was given, and how far it is approved from then on. -/
structure Decision where
  domain : String
  status : PeerStatus
deriving DecidableEq, Repr

namespace Decision

/-- The decision about a peer of an instance that a command with a reply has taken. -/
def ofReply? (instanceId : String) : (command : Command) → Option (Reply command) → Option Decision
  | .writePeer concerned domain status _, some (.ok _) =>
    if concerned = instanceId then some ⟨domain, status⟩ else none
  | _, _ => none

/-- Whether a decision is about a name, which its domain has in some sense. -/
def isAbout (has : String → String → Bool) (name : String) (decision : Decision) : Bool :=
  has decision.domain name

/-- Whether the latest of the decisions about a name approves it. The latest one comes first. -/
def approves (has : String → String → Bool) (name : String) (decisions : List Decision) : Bool :=
  (decisions.find? (isAbout has name)).any fun decision => decision.status == .active

/-- What a gate answers about a name that follows the latest of the decisions about it. -/
def answer (has : String → String → Bool) (name : String) (decisions : List Decision) : Except Failure Unit :=
  if approves has name decisions then .ok () else .error (.peerNotAllowed name)

variable {has other : String → String → Bool} {name : String} {decisions : List Decision}

/-- Only the domains that were decided about count. -/
theorem answer_congr (same : ∀ decision ∈ decisions, has decision.domain name = other decision.domain name) :
    answer has name decisions = answer other name decisions := by
  have found : decisions.find? (isAbout has name) = decisions.find? (isAbout other name) := by
    induction decisions with
    | nil => rfl
    | cons decision rest inductionHypothesis =>
      obtain ⟨first, later⟩ := List.forall_mem_cons.mp same
      rw [List.find?_cons, List.find?_cons, inductionHypothesis later, isAbout, isAbout, first]
  rw [answer, approves, found]
  rfl

/-- The latest decision counts for the names that its domain has. -/
theorem answer_cons_self {decision : Decision} (isFirst : isAbout has name decision = true)
    (decisions : List Decision) :
    answer has name (decision :: decisions) =
      if decision.status = .active then .ok () else .error (.peerNotAllowed name) := by
  rw [answer, approves, List.find?_cons_of_pos isFirst]
  simp only [Option.any_some, beq_iff_eq]

end Decision

/-- The decisions about peers of an instance that were taken in a world since its database was empty,
whatever else was done there; the latest one comes first. -/
inductive World.HasDecided (instanceId : String) : List Decision → World → Prop
  | fresh (store : ShortTermStore) (now : Nat) : HasDecided instanceId [] (.fresh store now)
  | carriedOut {decisions : List Decision} {world : World} (decided : HasDecided instanceId decisions world)
      (surroundings : Surroundings) (command : Command) :
      HasDecided instanceId
        ((Decision.ofReply? instanceId command (world.carryOut surroundings command).1).toList ++ decisions)
        (world.carryOut surroundings command).2
  | later {decisions : List Decision} {world : World} (decided : HasDecided instanceId decisions world)
      (now : Nat) (le : world.now ≤ now) : HasDecided instanceId decisions { world with now := now }

/-! ### Domains without what a normal form drops -/

namespace Text

theorem dropTrailing_sublist (test : Char → Bool) (letters : List Char) :
    (dropTrailing test letters).Sublist letters := by
  have dropped := (List.dropWhile_sublist test (l := letters.reverse)).reverse
  rwa [List.reverse_reverse] at dropped

theorem trimLetters_sublist (letters : List Char) : (trimLetters letters).Sublist letters :=
  (dropTrailing_sublist isBlank _).trans (List.dropWhile_sublist isBlank)

end Text

namespace DomainName

theorem dropTrailingDot_sublist (letters : List Char) : (dropTrailingDot letters).Sublist letters := by
  unfold dropTrailingDot
  split
  · exact List.dropLast_sublist letters
  · exact List.Sublist.refl letters

/-- A domain has no blanks around it and no dot at its end. -/
def IsNeat (domain : String) : Prop :=
  trim domain = domain ∧ domain.toList.getLast? ≠ some '.'

/-- Whether a text is the normal form of a domain. -/
def hasForm (domain text : String) : Bool :=
  normalize domain == text

/-- The normal form of such a domain is the domain in lower case. -/
theorem normalize_of_isNeat {domain : String} (neat : IsNeat domain) : normalize domain = lower domain := by
  obtain ⟨trimmed, noDot⟩ := neat
  have sameLetters : trimLetters domain.toList = domain.toList := by
    rw [← toList_trim, trimmed]
  rw [normalize, normalizeLetters, sameLetters, dropTrailingDot, if_neg noDot]
  rfl

/-- Nothing is put into a text to bring it to a normal form. -/
theorem isNulFree_normalize {text : String} (nulFree : IsNulFree text) : IsNulFree (normalize text) := by
  intro member
  rw [toList_normalize, normalizeLetters] at member
  obtain ⟨letter, isLetter, isNul⟩ := List.mem_map.mp member
  rw [toLower_eq_nul_iff] at isNul
  have wasThere := (trimLetters_sublist _).subset ((dropTrailingDot_sublist _).subset isLetter)
  exact nulFree (isNul ▸ wasThere)

/-- For a row, such a domain is the same name as a normal form if that is its own, unless NULs are in both. -/
theorem sameName_normalize {domain text : String} (neat : IsNeat domain)
    (nulFree : IsNulFree text ∨ IsNulFree domain) :
    sameName domain (normalize text) = hasForm domain (normalize text) := by
  have sameKey : nameKey domain = nameKey (normalize text) ↔ lower domain = lower (normalize text) := by
    rcases nulFree with textNulFree | domainNulFree
    · exact nameKey_eq_iff_of_isNulFree (isNulFree_normalize textNulFree)
    · rw [eq_comm, nameKey_eq_iff_of_isNulFree domainNulFree, eq_comm]
  rw [Bool.eq_iff_iff, sameName_iff, sameKey, hasForm, beq_iff_eq, normalize_of_isNeat neat, lower_normalize]

end DomainName

/-! ### Decisions that are noted -/

namespace Tables

variable {issued : Nat} {tables changed : Tables} {instanceId : String} {decisions : List Decision}

/-- Each peer of an instance has the status of the latest decision about its name. -/
def HasNoted (instanceId : String) (decisions : List Decision) (tables : Tables) : Prop :=
  ∀ name, (tables.peer? instanceId name).map Peer.status =
    (decisions.find? (Decision.isAbout sameName name)).map Decision.status

theorem HasNoted.of_peers (noted : tables.HasNoted instanceId decisions)
    (same : changed.peers = tables.peers) : changed.HasNoted instanceId decisions := by
  intro name
  rw [peer?, same]
  exact noted name

/-- Where a peer stands among all peers: the instance, and what the domain is compared by. -/
theorem isPeer_iff (instanceId domain : String) (peer : Peer) :
    isPeer instanceId domain peer = true ↔
      peer.instanceId = instanceId ∧ nameKey peer.domain = nameKey domain := by
  rw [isPeer, Bool.and_eq_true, beq_iff_eq, sameName_iff]

/-- Peers of one place are found together. -/
theorem isPeer_congr {domain name : String} (same : nameKey domain = nameKey name) :
    isPeer instanceId domain = isPeer instanceId name := by
  refine funext fun peer => ?_
  rw [isPeer, isPeer, sameName, sameName, same]

/-- A change of rows that pass a test leaves what passes another one, if no row passes both. -/
theorem find?_changeFirst_of_disjoint {Row : Type} {test other : Row → Bool} {change : Row → Row}
    (disjoint : ∀ row, test row = true → other row = false ∧ other (change row) = false)
    (rows : List Row) : (changeFirst test change rows).find? other = rows.find? other := by
  induction rows with
  | nil => rfl
  | cons row rest inductionHypothesis =>
    unfold changeFirst
    split
    · rename_i passes
      obtain ⟨notBefore, notAfter⟩ := disjoint row passes
      rw [List.find?_cons, List.find?_cons, notBefore, notAfter]
    · rw [List.find?_cons, List.find?_cons, inductionHypothesis]

/-- What is found after a peer was written: the peer in its place, and in any other place what was there
before. -/
theorem peer?_putPeer {concerned domain : String} {status : PeerStatus} {now : Timestamp} {peer : Peer}
    (written : tables.putPeer concerned domain status now = .ok (peer, changed)) :
    peer.status = status ∧ changed.peer? concerned domain = some peer ∧
      ∀ instanceId name, (concerned = instanceId → nameKey domain ≠ nameKey name) →
        changed.peer? instanceId name = tables.peer? instanceId name := by
  have disjoint : ∀ {instanceId name : String}, (concerned = instanceId → nameKey domain ≠ nameKey name) →
      ∀ row : Peer, row.instanceId = concerned ∧ nameKey row.domain = nameKey domain →
        isPeer instanceId name row = false := by
    intro instanceId name elsewhere row place
    refine Bool.eq_false_iff.mpr fun isThere => ?_
    obtain ⟨sameInstance, sameDomain⟩ := (isPeer_iff _ _ _).mp isThere
    exact elsewhere (place.1.symm.trans sameInstance) (place.2.symm.trans sameDomain)
  unfold putPeer at written
  split at written
  · rename_i old found
    cases written
    refine ⟨rfl, ?_, fun instanceId name elsewhere => ?_⟩
    · have isThere := List.find?_some found
      exact find?_changeFirst found isThere
    · refine find?_changeFirst_of_disjoint (fun row passes => ?_) tables.peers
      have place := (isPeer_iff _ _ _).mp passes
      exact ⟨disjoint elsewhere row place,
        disjoint elsewhere { row with status := status, updatedAt := now } place⟩
  · rename_i notFound
    split at written
    · cases written
      have place : nameKey (lower domain) = nameKey domain := nameKey_lower domain
      have isThere : isPeer concerned domain ⟨concerned, lower domain, status, now, now⟩ = true :=
        (isPeer_iff _ _ _).mpr ⟨rfl, place⟩
      refine ⟨rfl, ?_, fun instanceId name elsewhere => ?_⟩
      · rw [peer?] at notFound ⊢
        rw [List.find?_append, notFound, List.find?_singleton, if_pos isThere, Option.none_or]
      · have isOther := disjoint elsewhere ⟨concerned, lower domain, status, now, now⟩ ⟨rfl, place⟩
        rw [peer?, peer?, List.find?_append, List.find?_singleton, isOther, if_neg Bool.false_ne_true,
          Option.or_none]
    · cases written

theorem HasNoted.putPeer (noted : tables.HasNoted instanceId decisions) {concerned domain : String}
    {status : PeerStatus} {now : Timestamp} {peer : Peer}
    (written : tables.putPeer concerned domain status now = .ok (peer, changed)) :
    changed.HasNoted instanceId
      ((if concerned = instanceId then some (Decision.mk domain status) else none).toList ++ decisions) := by
  obtain ⟨sameStatus, isThere, elsewhere⟩ := peer?_putPeer written
  intro name
  by_cases isInstance : concerned = instanceId
  · subst isInstance
    rw [if_pos rfl, Option.toList_some, List.singleton_append, List.find?_cons]
    by_cases isName : nameKey domain = nameKey name
    · have isFirst : Decision.isAbout sameName name ⟨domain, status⟩ = true :=
        (sameName_iff domain name).mpr isName
      have found : changed.peer? concerned name = some peer := by
        rw [← isThere, peer?, peer?, isPeer_congr isName]
      rw [isFirst, found, Option.map_some, Option.map_some, sameStatus]
    · have isOther : Decision.isAbout sameName name ⟨domain, status⟩ = false :=
        Bool.eq_false_iff.mpr ((sameName_iff domain name).not.mpr isName)
      rw [isOther, elsewhere concerned name fun _ => isName]
      exact noted name
  · rw [if_neg isInstance, Option.toList_none, List.nil_append,
      elsewhere instanceId name fun same => absurd same isInstance]
    exact noted name

/-- No other write than that of a peer touches the peers. -/
theorem CanBecome.peers_eq {command : Command} (becomes : tables.CanBecome issued command changed)
    (isOther : ∀ concerned domain status now, command ≠ .writePeer concerned domain status now) :
    changed.peers = tables.peers := by
  cases becomes with
  | same command => rfl
  | home settings now =>
    unfold putLocal
    split <;> rfl
  | remote written => exact (users_putRemote written).2
  | mode instanceId mode => rfl
  | peer written => exact absurd rfl (isOther _ _ _ _)
  | account written =>
    unfold register at written
    split at written
    · cases written
    · split at written <;> cases written
      rfl
  | stub written => exact peers_putStub written
  | remoteUser written =>
    unfold putRemoteUser at written
    split at written
    · cases written
    · rename_i row between first
      exact (peers_putStub written).trans (users_putRemote first).2

/-- What the gate finds among the peers is what the latest decision about the name was. -/
theorem HasNoted.hasActivePeer_eq (noted : tables.HasNoted instanceId decisions) (name : String) :
    tables.hasActivePeer instanceId name = Decision.approves sameName name decisions := by
  have same := noted name
  rw [hasActivePeer, Decision.approves]
  cases found : tables.peer? instanceId name with
  | none =>
    rw [found, Option.map_none, eq_comm, Option.map_eq_none_iff] at same
    rw [same]
    rfl
  | some peer =>
    rw [found, Option.map_some, eq_comm, Option.map_eq_some_iff] at same
    obtain ⟨decision, latest, sameStatus⟩ := same
    rw [latest, Option.any_some, sameStatus]

end Tables

/-! ### Decisions in a world -/

namespace World

variable {instanceId : String} {decisions : List Decision} {world : World}

/-- In the mode of an allow-list the gate looks at the peers. -/
theorem permission_of_allowlist (allowlist : world.HasMode instanceId .allowlist) (domain : String) :
    world.permission instanceId domain =
      if world.tables.hasActivePeer instanceId (DomainName.normalize domain) then .ok ()
      else .error (.peerNotAllowed (DomainName.normalize domain)) := by
  have isOpen := isDatabaseOpen_of_hasMode allowlist
  rw [permission, allowlist, readTables, if_pos isOpen]
  rfl

namespace HasDecided

theorem isReachable (decided : world.HasDecided instanceId decisions) : world.IsReachable := by
  induction decided with
  | fresh store now => exact .fresh store now
  | carriedOut _ surroundings command inductionHypothesis =>
    exact inductionHypothesis.carriedOut surroundings command
  | later _ now le inductionHypothesis => exact inductionHypothesis.later now le

/-- The decisions that were taken are noted. -/
theorem hasNoted (decided : world.HasDecided instanceId decisions) :
    world.tables.HasNoted instanceId decisions := by
  induction decided with
  | fresh store now => exact fun _ => rfl
  | @carriedOut decisions world _ surroundings command inductionHypothesis =>
    have becomes : world.tables.CanBecome world.issued command
        (world.carryOut surroundings command).2.tables := canBecome_carryOut surroundings command
    cases command with
    | writePeer concerned domain status now =>
      rw [carryOut_writePeer]
      dsimp only
      rcases changeTables_cases 0 (Tables.putPeer concerned domain status now) world with
        ⟨peer, isOk, written⟩ | ⟨failure, isError, unchanged⟩
      · rw [isOk]
        exact inductionHypothesis.putPeer written
      · rw [isError, unchanged]
        exact inductionHypothesis
    | _ => exact inductionHypothesis.of_peers (becomes.peers_eq (fun _ _ _ _ => nofun))
  | later _ now le inductionHypothesis => exact inductionHypothesis

/-- A peer that was written is one more decision. -/
theorem cons (decided : world.HasDecided instanceId decisions) {surroundings : Surroundings} {domain : String}
    {status : PeerStatus} {now : Timestamp} {peer : Peer} {after : World}
    (carried : world.carryOut surroundings (.writePeer instanceId domain status now) =
      (some (.ok peer), after)) : after.HasDecided instanceId (⟨domain, status⟩ :: decisions) := by
  have later := decided.carriedOut surroundings (.writePeer instanceId domain status now)
  rw [carried] at later
  have isDecision : Decision.ofReply? instanceId (.writePeer instanceId domain status now)
      (some (.ok peer)) = some ⟨domain, status⟩ := if_pos rfl
  rwa [isDecision] at later

/-- Deciding about a peer of an instance that is there succeeds, and leaves the instances alone. -/
theorem run_approve (decided : world.HasDecided instanceId decisions)
    (isThere : world.tables.hasInstance instanceId = true) (surroundings : Surroundings) (domain : String)
    (status : PeerStatus) :
    ∃ peer after, (Service.approve instanceId domain status).toProgram.run surroundings world =
        (some (.ok peer), after) ∧
      after.HasDecided instanceId (⟨domain, status⟩ :: decisions) ∧
      after.tables.instances = world.tables.instances := by
  obtain ⟨peer, tables, sameInstances, carried, run⟩ :=
    decided.isReachable.isSound.run_approve isThere surroundings domain status
  exact ⟨peer, _, run, decided.cons carried, sameInstances⟩

end HasDecided

/-- Every reached world has come to its decisions about an instance. -/
theorem IsReachable.exists_hasDecided (reachable : world.IsReachable) (instanceId : String) :
    ∃ decisions, world.HasDecided instanceId decisions := by
  induction reachable with
  | fresh store now => exact ⟨[], .fresh store now⟩
  | carriedOut _ surroundings command inductionHypothesis =>
    obtain ⟨decisions, decided⟩ := inductionHypothesis
    exact ⟨_, decided.carriedOut surroundings command⟩
  | later _ now le inductionHypothesis =>
    obtain ⟨decisions, decided⟩ := inductionHypothesis
    exact ⟨decisions, decided.later now le⟩

/-- Writing a peer leaves every instance in its mode. -/
theorem HasMode.of_writePeer {mode : FederationMode} (hasMode : world.HasMode instanceId mode)
    {surroundings : Surroundings} {concerned domain : String} {status : PeerStatus} {now : Timestamp}
    {peer : Peer} {after : World} (carried : world.carryOut surroundings
      (.writePeer concerned domain status now) = (some (.ok peer), after)) :
    after.HasMode instanceId mode := by
  have isOpen := isDatabaseOpen_of_hasMode hasMode
  rw [carryOut_writePeer, Prod.mk.injEq, Option.some_inj] at carried
  obtain ⟨tables, written, rfl⟩ := changeTables_eq_ok (Prod.ext carried.1 carried.2)
  exact hasMode.of_instances isOpen (Tables.instances_putPeer written)

end World

namespace Service

variable {service : Service} {world : World} {decisions : List Decision}

/-- A start succeeds, comes to the mode in its settings, and decides about the peers in them. -/
theorem exists_run_start (reachable : world.IsReachable) (surroundings : Surroundings)
    (configuration : Configuration) :
    ∃ service after, (start configuration).toProgram.run surroundings world = (some (.ok service), after) ∧
      service.configuration = configuration ∧ service.IsReachable after ∧
      after.HasMode service.home.id configuration.federation.mode ∧
      ∀ decisions, world.HasDecided service.home.id decisions →
        after.HasDecided service.home.id
          (configuration.federation.allowedPeers.reverse.map (⟨·, .active⟩) ++ decisions) := by
  obtain ⟨home, between, after, wrote, run, holds⟩ := reachable.isSound.run_start surroundings configuration
  have decidedBetween : ∀ decisions, world.HasDecided home.id decisions →
      between.HasDecided home.id decisions := by
    intro decisions decided
    have decidedThen := decided.carriedOut surroundings (.writeLocal (localSettings configuration) world.time)
    rwa [wrote] at decidedThen
  have hasMode : after.HasMode home.id configuration.federation.mode :=
    holds (fun _ world => world.HasMode home.id configuration.federation.mode)
      (reachable.isSound.hasMode_of_writeLocal wrote) fun _ _ _ _ _ hasMode carried =>
        hasMode.of_writePeer carried
  refine ⟨_, after, run, rfl, isReachable_of_run_start reachable surroundings run, hasMode,
    fun decisions decided => ?_⟩
  exact holds (fun approved world =>
    world.HasDecided home.id (approved.map (⟨·, .active⟩) ++ decisions)) (decidedBetween decisions decided)
    fun _ _ _ _ _ decidedBefore carried => decidedBefore.cons carried

/-- The gate of an allow-list follows the decisions whose domain is, for a row, the name it asks for. -/
theorem run_authorize_of_hasDecided (decided : world.HasDecided service.home.id decisions)
    (allowlist : world.HasMode service.home.id .allowlist) (surroundings : Surroundings) (text : String) :
    (authorize service.home.id text).toProgram.run surroundings world =
      (some (Decision.answer sameName (DomainName.normalize text) decisions), world) := by
  rw [run_authorize, World.permission_of_allowlist allowlist, decided.hasNoted.hasActivePeer_eq]
  rfl

/-- Deciding about a peer succeeds, and settles the matter for every form of a domain that was given without
blanks around it and without a dot at its end. -/
theorem exists_run_approve (reachable : service.IsReachable world)
    (decided : world.HasDecided service.home.id decisions)
    (allowlist : world.HasMode service.home.id .allowlist) (surroundings : Surroundings) (domain : String)
    (status : PeerStatus) :
    ∃ peer after,
      (approve service.home.id domain status).toProgram.run surroundings world = (some (.ok peer), after) ∧
      after.HasDecided service.home.id (⟨domain, status⟩ :: decisions) ∧
      (DomainName.IsNeat domain → ∀ text, DomainName.normalize text = DomainName.normalize domain →
        (authorize service.home.id text).toProgram.run surroundings after =
          (some (if status = .active then .ok ()
            else .error (.peerNotAllowed (DomainName.normalize domain))), after)) := by
  have isThere := World.hasInstance_of_mem_addresses reachable.address
  obtain ⟨peer, after, approved, decidedThen, sameInstances⟩ :=
    decided.run_approve isThere surroundings domain status
  refine ⟨peer, after, approved, decidedThen, fun neat text isForm => ?_⟩
  have stillAllowlist : after.HasMode service.home.id .allowlist :=
    allowlist.of_instances decidedThen.isReachable.isSound.isOpen sameInstances
  have isAbout : Decision.isAbout sameName (DomainName.normalize domain) ⟨domain, status⟩ = true := by
    rw [Decision.isAbout, DomainName.normalize_of_isNeat neat, sameName_iff, nameKey_lower]
  rw [run_authorize_of_hasDecided decidedThen stillAllowlist, isForm, Decision.answer_cons_self isAbout]

/-- In every reached world some decisions were taken about an instance. A start adds those about the peers in
its settings. In the mode of an allow-list the gate follows the latest decision whose domain is, for a row,
the same name as the normal form that it asks for, and whoever was not decided about is refused. Hence it
follows the latest decision about a domain in any form, if all domains were given without what a normal
form drops, and they or the domain are free of NULs; and deciding always succeeds, and settles the matter
for every form of a domain that was given like this. -/
theorem allowlist_follows_decisions (reachable : world.IsReachable) (surroundings : Surroundings) :
    (∀ instanceId, ∃ decisions, world.HasDecided instanceId decisions) ∧
    (∀ configuration : Configuration, ∃ service after,
      (start configuration).toProgram.run surroundings world = (some (.ok service), after) ∧
      service.configuration = configuration ∧ service.IsReachable after ∧
      after.HasMode service.home.id configuration.federation.mode ∧
      ∀ decisions, world.HasDecided service.home.id decisions →
        after.HasDecided service.home.id
          (configuration.federation.allowedPeers.reverse.map (⟨·, .active⟩) ++ decisions)) ∧
    ∀ (service : Service) (decisions : List Decision), service.IsReachable world →
      world.HasDecided service.home.id decisions → world.HasMode service.home.id .allowlist →
      (∀ text, (authorize service.home.id text).toProgram.run surroundings world =
        (some (Decision.answer sameName (DomainName.normalize text) decisions), world)) ∧
      ((∀ decision ∈ decisions, DomainName.IsNeat decision.domain) → ∀ text,
        (IsNulFree text ∨ ∀ decision ∈ decisions, IsNulFree decision.domain) →
        (authorize service.home.id text).toProgram.run surroundings world =
          (some (Decision.answer DomainName.hasForm (DomainName.normalize text) decisions), world)) ∧
      ∀ domain status, ∃ peer after,
        (approve service.home.id domain status).toProgram.run surroundings world =
          (some (.ok peer), after) ∧
        after.HasDecided service.home.id (⟨domain, status⟩ :: decisions) ∧
        (DomainName.IsNeat domain → ∀ text, DomainName.normalize text = DomainName.normalize domain →
          (authorize service.home.id text).toProgram.run surroundings after =
            (some (if status = .active then .ok ()
              else .error (.peerNotAllowed (DomainName.normalize domain))), after)) := by
  refine ⟨reachable.exists_hasDecided, exists_run_start reachable surroundings,
    fun service decisions isOf decided allowlist => ⟨?_, fun neat text nulFree => ?_, ?_⟩⟩
  · exact run_authorize_of_hasDecided decided allowlist surroundings
  · have same : ∀ decision ∈ decisions, sameName decision.domain (DomainName.normalize text) =
        DomainName.hasForm decision.domain (DomainName.normalize text) :=
      fun decision member => DomainName.sameName_normalize (neat decision member)
        (nulFree.imp_right fun nulFreeThere => nulFreeThere decision member)
    rw [run_authorize_of_hasDecided decided allowlist, Decision.answer_congr same]
  · exact exists_run_approve isOf decided allowlist surroundings

end Service

/-! ### Allow-lists that are followed, and some that are not -/

/-- Settings with an allow-list. -/
def Configuration.selective (allowedPeers : List String) : Configuration :=
  { Configuration.plain "home.example" with
    federation := { FederationSettings.standard with mode := .allowlist, allowedPeers := allowedPeers } }

namespace Site

/-- A friend in the settings is let in under every form of its domain after the start, and nobody else is. -/
theorem friend_is_let_in :
    ∃ service after, (Service.start (.selective ["Friend.Example"])).toProgram.run .silent
        (.fresh (.memory .empty) 0) = (some (.ok service), after) ∧
      (authorize service.home.id " friend.example. ").toProgram.run .silent after =
        (some (.ok ()), after) ∧
      (authorize service.home.id "other.example").toProgram.run .silent after =
        (some (.error (.peerNotAllowed "other.example")), after) := by
  have empty : (World.fresh (.memory .empty) 0).IsReachable := .fresh _ _
  obtain ⟨-, starts, -⟩ := Service.allowlist_follows_decisions empty .silent
  obtain ⟨service, after, started, -, isOf, allowlist, decides⟩ := starts (.selective ["Friend.Example"])
  obtain ⟨-, -, follows⟩ := Service.allowlist_follows_decisions isOf.isReachable .silent
  obtain ⟨gate, -, -⟩ := follows service _ isOf (decides [] (.fresh _ _)) allowlist
  have friend : Decision.answer sameName (DomainName.normalize " friend.example. ")
      [⟨"Friend.Example", .active⟩] = .ok () := by decide +kernel
  have other : Decision.answer sameName (DomainName.normalize "other.example")
      [⟨"Friend.Example", .active⟩] = .error (.peerNotAllowed "other.example") := by decide +kernel
  refine ⟨service, after, started, ?_, ?_⟩
  · exact (gate _).trans (congrArg (fun answer => (some answer, after)) friend)
  · exact (gate _).trans (congrArg (fun answer => (some answer, after)) other)

/-- A site that has just started with an allow-list on which nobody stands. -/
def selective : Site :=
  .atStart (.selective []) .silent (.memory .empty) 0

/-- A site that has just written its row has decided about nobody. -/
theorem hasDecided_atStart (configuration : Configuration) (surroundings : Surroundings)
    (store : ShortTermStore) (now : Nat) (instanceId : String) :
    (atStart configuration surroundings store now).world.HasDecided instanceId [] := by
  have carried := (@World.HasDecided.fresh instanceId store now).carriedOut surroundings
    (.writeLocal (Service.localSettings configuration) (Timestamp.ofNanoseconds now))
  rw [carryOut_writeLocal_fresh] at carried
  exact carried

/-- At that site decisions can be taken about any peers, one after another, and the gate follows those whose
domain is, for a row, the name that it asks for. -/
theorem exists_hasDecided_selective (decisions : List Decision) :
    ∃ after, selective.service.IsReachable after ∧ after.HasDecided selective.service.home.id decisions ∧
      after.HasMode selective.service.home.id .allowlist ∧
      ∀ text, (authorize selective.service.home.id text).toProgram.run .silent after =
        (some (Decision.answer sameName (DomainName.normalize text) decisions), after) := by
  suffices ∃ after, selective.service.IsReachable after ∧
      after.HasDecided selective.service.home.id decisions ∧
      after.HasMode selective.service.home.id .allowlist by
    obtain ⟨after, reachable, decided, allowlist⟩ := this
    exact ⟨after, reachable, decided, allowlist,
      Service.run_authorize_of_hasDecided decided allowlist .silent⟩
  induction decisions with
  | nil =>
    have allowlist : selective.world.HasMode selective.service.home.id .allowlist :=
      hasMode_atStart _ _ _ _
    exact ⟨selective.world, isReachable_atStart _ _ _ _, hasDecided_atStart _ _ _ _ _, allowlist⟩
  | cons decision earlier inductionHypothesis =>
    obtain ⟨before, reachable, decided, allowlist⟩ := inductionHypothesis
    have isThere := World.hasInstance_of_mem_addresses reachable.address
    obtain ⟨peer, after, approved, decidedThen, sameInstances⟩ :=
      decided.run_approve isThere .silent decision.domain decision.status
    have reachableThen := reachable.run .silent
      (Service.approve selective.service.home.id decision.domain decision.status).toProgram
    rw [approved] at reachableThen
    exact ⟨after, reachableThen, decidedThen,
      allowlist.of_instances decidedThen.isReachable.isSound.isOpen sameInstances⟩

/-- A friend that was approved with a dot at the end of its domain is refused under that very domain, one
whose approval was revoked with such a dot is still let in, and after the approval of a domain with a NUL
in it another one is let in that differs behind the NUL. -/
theorem decisions_not_followed :
    (∃ after, selective.service.IsReachable after ∧
      after.HasDecided selective.service.home.id [⟨"friend.example.", .active⟩] ∧
      after.HasMode selective.service.home.id .allowlist ∧
      Decision.answer DomainName.hasForm (DomainName.normalize "friend.example.")
        [⟨"friend.example.", .active⟩] = .ok () ∧
      (authorize selective.service.home.id "friend.example.").toProgram.run .silent after =
        (some (.error (.peerNotAllowed "friend.example")), after)) ∧
    (∃ after, selective.service.IsReachable after ∧
      after.HasDecided selective.service.home.id
        [⟨"friend.example.", .revoked⟩, ⟨"friend.example", .active⟩] ∧
      after.HasMode selective.service.home.id .allowlist ∧
      Decision.answer DomainName.hasForm (DomainName.normalize "friend.example.")
        [⟨"friend.example.", .revoked⟩, ⟨"friend.example", .active⟩] =
        .error (.peerNotAllowed "friend.example") ∧
      (authorize selective.service.home.id "friend.example.").toProgram.run .silent after =
        (some (.ok ()), after)) ∧
    ∃ after, selective.service.IsReachable after ∧
      after.HasDecided selective.service.home.id [⟨"a\x00b", .active⟩] ∧
      after.HasMode selective.service.home.id .allowlist ∧
      Decision.answer DomainName.hasForm (DomainName.normalize "a\x00c") [⟨"a\x00b", .active⟩] =
        .error (.peerNotAllowed "a\x00c") ∧
      (authorize selective.service.home.id "a\x00c").toProgram.run .silent after =
        (some (.ok ()), after) := by
  refine ⟨?_, ?_, ?_⟩
  · obtain ⟨after, reachable, decided, allowlist, gate⟩ :=
      exists_hasDecided_selective [⟨"friend.example.", .active⟩]
    have refused : Decision.answer sameName (DomainName.normalize "friend.example.")
        [⟨"friend.example.", .active⟩] = .error (.peerNotAllowed "friend.example") := by decide +kernel
    exact ⟨after, reachable, decided, allowlist, by decide +kernel, (gate _).trans (by rw [refused])⟩
  · obtain ⟨after, reachable, decided, allowlist, gate⟩ :=
      exists_hasDecided_selective [⟨"friend.example.", .revoked⟩, ⟨"friend.example", .active⟩]
    have letIn : Decision.answer sameName (DomainName.normalize "friend.example.")
        [⟨"friend.example.", .revoked⟩, ⟨"friend.example", .active⟩] = .ok () := by decide +kernel
    exact ⟨after, reachable, decided, allowlist, by decide +kernel, (gate _).trans (by rw [letIn])⟩
  · obtain ⟨after, reachable, decided, allowlist, gate⟩ :=
      exists_hasDecided_selective [⟨"a\x00b", .active⟩]
    have letIn : Decision.answer sameName (DomainName.normalize "a\x00c") [⟨"a\x00b", .active⟩] =
        .ok () := by decide +kernel
    exact ⟨after, reachable, decided, allowlist, by decide +kernel, (gate _).trans (by rw [letIn])⟩

end Site

end HandleFederation
