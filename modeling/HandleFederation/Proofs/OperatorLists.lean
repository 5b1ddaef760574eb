/-
This file follows the lists of an operator from the environment to what they do. Each
entry goes through two forms that drop things differently: settings drop every dot at
its end, and the normal form of a domain drops one. Where either of them is made of
labels, both are the same, and no later form changes it. So a name on the list of
blocked domains is the suffix that handles and URLs are compared with, and a name on
the list of allowed peers is the one that the gate asks for. The lists do not meet: a
name on both passes the gate, and is refused after it.
-/

import HandleFederation.Proofs.DomainGrammar
import HandleFederation.Proofs.HomeDomain
import HandleFederation.Proofs.SharedAccounts

namespace HandleFederation

open Program Resolution Text

/-! ### Entries of a list -/

/-- Nothing is dropped from the end of a text whose last character is kept. -/
theorem Text.dropTrailing_eq_self {test : Char → Bool} {letters : List Char}
    (kept : ∀ letter ∈ letters.getLast?, test letter = false) : dropTrailing test letters = letters := by
  rcases List.eq_nil_or_concat' letters with rfl | ⟨front, last, rfl⟩
  · rfl
  · exact dropTrailing_append_cons (kept last List.getLast?_concat) front []

namespace DomainName

variable {letters : List Char}

/-- If no dot is left at the end when one was dropped there, then there was no more than one. -/
theorem dropTrailing_eq_dropTrailingDot (noDot : (dropTrailingDot letters).getLast? ≠ some '.') :
    dropTrailing (· == '.') letters = dropTrailingDot letters := by
  have keeps : dropTrailing (· == '.') (dropTrailingDot letters) = dropTrailingDot letters := by
    refine dropTrailing_eq_self fun letter isLast => beq_eq_false_iff_ne.mpr fun isDot => ?_
    rw [isDot] at isLast
    exact noDot isLast
  rw [← keeps, dropTrailingDot]
  split
  · rename_i endsInDot
    obtain ⟨front, rfl⟩ := List.getLast?_eq_some_iff.mp endsInDot
    rw [List.dropLast_concat, dropTrailing_append_of_all (List.forall_mem_singleton.mpr rfl)]
  · rfl

/-- A sequence of labels. -/
def IsSequence (name : List Char) : Prop :=
  ∀ label ∈ labels name, IsLabel label

instance (name : List Char) : Decidable (IsSequence name) :=
  inferInstanceAs (Decidable (∀ label ∈ labels name, IsLabel label))

namespace IsSequence

variable {name : String}

theorem areLabels (sequence : IsSequence letters) : ∀ label ∈ labels letters, isLabel label = true :=
  fun label member => isLabel_iff.mpr (sequence label member)

/-- A sequence of labels is in normal form. -/
theorem normalize_eq (sequence : IsSequence name.toList) : normalize name = name := by
  rw [normalize, normalizeLetters_of_letters (letters_of_labels sequence.areLabels)
    (getLast?_ne_of_labels sequence.areLabels), String.ofList_toList]

theorem isEmpty_eq (sequence : IsSequence name.toList) : name.isEmpty = false := by
  refine Bool.eq_false_iff.mpr fun isEmpty => ?_
  rw [String.isEmpty_iff.mp isEmpty] at sequence
  exact absurd (sequence.areLabels [] (by decide)) (by decide)

end IsSequence

end DomainName

namespace Environment

open DomainName

variable {environment : Environment} {name entry : String}

/-- The entries of a list with commas between them. -/
def entries (environment : Environment) (name : String) : List String :=
  ((environment.valueOr name "").toList.splitOn ',').map String.ofList

/-- A name that an entry of a list stands for: the normal form of the entry, or its form in settings, where
that is a sequence of labels. -/
structure IsNameOf (entry name : String) : Prop where
  form : name = DomainName.normalize entry ∨ name = settledDomain entry
  sequence : IsSequence name.toList

/-- Either way it is the form in settings. -/
theorem IsNameOf.settledDomain_eq (isName : IsNameOf entry name) : settledDomain entry = name := by
  obtain ⟨rfl | rfl, sequence⟩ := isName
  · have noDot : (dropTrailingDot (trimLetters entry.toList)).getLast? ≠ some '.' := by
      intro endsInDot
      refine getLast?_ne_of_labels sequence.areLabels ?_
      rw [toList_normalize, normalizeLetters, List.getLast?_map, endsInDot]
      rfl
    rw [settledDomain, dropTrailing_eq_dropTrailingDot noDot, lower, String.toList_ofList,
      DomainName.normalize, normalizeLetters]
  · rfl

theorem IsNameOf.mem_readDomains {text : String}
    (isEntry : entry ∈ (text.toList.splitOn ',').map String.ofList) (isName : IsNameOf entry name) :
    name ∈ readDomains text := by
  obtain ⟨letters, member, rfl⟩ := List.mem_map.mp isEntry
  refine List.mem_filter.mpr ⟨List.mem_map.mpr ⟨letters, member, isName.settledDomain_eq⟩, ?_⟩
  rw [isName.sequence.isEmpty_eq]
  rfl

/-- What settings from an environment say about other instances. -/
theorem federation_of_configuration {configuration : Configuration}
    (isRead : environment.configuration = .ok configuration) :
    environment.mode = .ok configuration.federation.mode ∧
      configuration.federation.allowedPeers =
        readDomains (environment.valueOr "FEDERATION_ALLOWED_PEERS" "") ∧
      configuration.federation.blockedDomains =
        readDomains (environment.valueOr "FEDERATION_BLOCKED_DOMAINS" "") ∧
      configuration.federation.stubLifetime =
        environment.secondsOr "FEDERATION_STUB_TTL" FederationSettings.standard.stubLifetime ∧
      configuration.federation.missLifetime =
        environment.secondsOr "FEDERATION_NEGATIVE_TTL" FederationSettings.standard.missLifetime ∧
      configuration.federation.discoveryCooldown =
        environment.secondsOr "FEDERATION_DISCOVERY_COOLDOWN"
          FederationSettings.standard.discoveryCooldown := by
  unfold Environment.configuration at isRead
  obtain ⟨_, -, isRead⟩ := exists_of_bind_eq_ok isRead
  obtain ⟨_, -, isRead⟩ := exists_of_bind_eq_ok isRead
  obtain ⟨_, -, isRead⟩ := exists_of_bind_eq_ok isRead
  obtain ⟨_, isMode, isRead⟩ := exists_of_bind_eq_ok isRead
  obtain ⟨_, -, isRead⟩ := exists_of_bind_eq_ok isRead
  rw [← Except.ok.inj isRead]
  exact ⟨isMode, rfl, rfl, rfl, rfl, rfl⟩

end Environment

/-! ### Blocked names -/

/-- A domain is a name or lies below it. -/
def DomainName.IsWithin (name domain : String) : Prop :=
  domain = name ∨ '.' :: name.toList <:+ domain.toList

/-- Whatever lies within a blocked name is refused, for this reason or an earlier one. -/
theorem DomainName.exists_fault_of_isWithin {blocked : List String} {name text : String}
    (isBlocked : name ∈ blocked) (within : IsWithin name (DomainName.normalize text)) :
    ∃ fault, validate blocked text = .error fault := by
  cases validated : validate blocked text with
  | error fault => exact ⟨fault, rfl⟩
  | ok domain =>
    obtain ⟨accepted, -⟩ := validate_eq_ok_iff.mp validated
    have outside := (bounds_of_fault? accepted).2.2 name (List.mem_append_right _ isBlocked)
    obtain ⟨differs, notBelow⟩ := not_liesUnder_iff.mp outside
    rw [← toList_normalize] at differs notBelow
    rcases within with same | below
    · exact absurd (congrArg String.toList same) differs
    · exact absurd below notBelow

namespace Resolution

variable (surroundings : Surroundings) {service : Service} {handle : Handle} {domain : String}
  {fault : DomainName.Fault}

/-- A handle of a domain that is not acceptable is refused for that, if for nothing else before. -/
theorem run_resolveHandle_of_unacceptable (foreign : foreignDomain? service handle = some domain)
    (refused : DomainName.validate service.blocked domain = .error fault) (world : World) :
    ∃ failure, (resolveHandle service handle).toProgram.run surroundings world =
        (some (.error failure), world) ∧
      (Username.validate handle.username = .ok () → world.permission service.home.id domain = .ok () →
        failure = .invalidDomain fault.message) := by
  have unaccepted : acceptDomain service.blocked domain = .error (.invalidDomain fault.message) := by
    rw [acceptDomain, refused]
  rw [run_resolveHandle]
  cases Username.validate handle.username with
  | error failure => exact ⟨failure, rfl, by rintro ⟨⟩⟩
  | ok _ =>
    rw [foreign]
    dsimp only
    cases world.permission service.home.id domain with
    | error failure => exact ⟨failure, rfl, by rintro - ⟨⟩⟩
    | ok _ =>
      dsimp only
      rw [unaccepted]
      exact ⟨_, rfl, fun _ _ => rfl⟩

end Resolution

theorem Redirect.exists_fault_of_host {blocked : List String} {url : Url} {host : Host}
    {fault : DomainName.Fault} (isHost : url.host? = some host)
    (refused : DomainName.validate blocked (String.ofList host.write) = .error fault) :
    ∃ transportFault, checkTarget blocked url = .error transportFault := by
  cases checked : checkTarget blocked url with
  | error transportFault => exact ⟨transportFault, rfl⟩
  | ok _ =>
    obtain ⟨-, -, -, other, isOther, accepted⟩ := isPermitted_iff.mp checked
    cases isHost.symm.trans isOther
    rw [DomainName.validate, String.toList_ofList, accepted] at refused
    cases refused

/-! ### Allowed peers -/

/-- Where all decisions approve, any one about a name lets it in. -/
theorem Decision.answer_of_active {has : String → String → Bool} {name : String} {decisions : List Decision}
    (active : ∀ decision ∈ decisions, decision.status = .active)
    (decided : ∃ decision ∈ decisions, isAbout has name decision = true) :
    answer has name decisions = .ok () := by
  have found : (decisions.find? (isAbout has name)).isSome = true := List.find?_isSome.mpr decided
  obtain ⟨latest, isLatest⟩ := Option.isSome_iff_exists.mp found
  have approved : latest.status = .active := active latest (List.mem_of_find?_eq_some isLatest)
  rw [answer, approves, isLatest, Option.any_some, approved]
  rfl

/-- Where only the peers of some settings were decided about, the gate of an allow-list lets in whoever has the
name of one of them. -/
theorem Resolution.run_authorize_of_mem {service : Service} {world : World} {peers : List String}
    {name domain : String} (allowlist : world.HasMode service.home.id .allowlist)
    (decided : world.HasDecided service.home.id (peers.reverse.map (⟨·, .active⟩))) (isPeer : name ∈ peers)
    (isNormal : DomainName.normalize domain = name) (surroundings : Surroundings) :
    (authorize service.home.id domain).toProgram.run surroundings world = (some (.ok ()), world) := by
  have active : ∀ decision ∈ peers.reverse.map (Decision.mk · .active), decision.status = .active := by
    intro decision member
    obtain ⟨peer, -, rfl⟩ := List.mem_map.mp member
    rfl
  have isAbout : Decision.isAbout sameName name ⟨name, .active⟩ = true := sameName_refl name
  have letIn := Decision.answer_of_active active
    ⟨⟨name, .active⟩, List.mem_map.mpr ⟨name, List.mem_reverse.mpr isPeer, rfl⟩, isAbout⟩
  rw [Service.run_authorize_of_hasDecided decided allowlist, isNormal, letIn]

/-! ### The lists of an environment -/

namespace Environment

open DomainName

variable {environment : Environment} {configuration : Configuration}

/-- A name on the list of blocked domains is one of the suffixes that are compared with. -/
theorem IsNameOf.mem_blockedSuffixes (isRead : environment.configuration = .ok configuration)
    {entry name : String} (isEntry : entry ∈ environment.entries "FEDERATION_BLOCKED_DOMAINS")
    (isName : IsNameOf entry name) :
    name ∈ blockedSuffixes configuration.federation.blockedDomains := by
  obtain ⟨-, -, blockedDomains, -⟩ := federation_of_configuration isRead
  have member := isName.mem_readDomains isEntry
  rw [← blockedDomains] at member
  refine DomainName.mem_blockedSuffixes (List.mem_map.mpr ⟨name, member, isName.sequence.normalize_eq⟩) ?_
  rintro rfl
  exact absurd isName.sequence.isEmpty_eq (by decide)

/-- What settings from an environment block and allow is so once a service is started with them over an
empty database. A handle of another instance whose domain lies within a blocked name is refused at any time
without a request, and so is a URL with such a host. In the mode of an allow-list the gate lets every
spelling of an allowed name in, and still the handle is refused if the name lies within a blocked one. -/
theorem lists_take_effect (isRead : environment.configuration = .ok configuration)
    (surroundings : Surroundings) (store : ShortTermStore) (now : Nat) :
    ∃ service after,
      (Service.start configuration).toProgram.run surroundings (.fresh store now) =
        (some (.ok service), after) ∧
      (∀ entry ∈ environment.entries "FEDERATION_BLOCKED_DOMAINS", ∀ blocked, IsNameOf entry blocked →
        (∀ (later : Surroundings) (world : World) (text domain : String),
          (Handle.read text).domain = some domain → DomainName.normalize domain ≠ service.domain →
          IsWithin blocked (DomainName.normalize domain) →
            let outcome := (service.resolve text).toProgram.run later world
            (∃ failure, outcome.1 = some (.error failure)) ∧ outcome.2.requested = world.requested) ∧
        ∀ (url : Url) (host : Host), url.host? = some host →
          IsWithin blocked (DomainName.normalize (String.ofList host.write)) →
            ∃ fault, Redirect.checkTarget service.blocked url = .error fault) ∧
      (configuration.federation.mode = .allowlist →
        ∀ entry ∈ environment.entries "FEDERATION_ALLOWED_PEERS", ∀ allowed, IsNameOf entry allowed →
          ∀ (later : Surroundings) (domain : String), DomainName.normalize domain = allowed →
            (authorize service.home.id domain).toProgram.run later after = (some (.ok ()), after) ∧
            ∀ other ∈ environment.entries "FEDERATION_BLOCKED_DOMAINS", ∀ blocked, IsNameOf other blocked →
              IsWithin blocked allowed → allowed ≠ service.domain →
              ∀ text, (Handle.read text).domain = some domain →
                Username.validate (Handle.read text).username = .ok () →
                ∃ fault, validate service.blocked domain = .error fault ∧
                  let outcome := (service.resolve text).toProgram.run later after
                  outcome.1 = some (.error (.invalidDomain fault.message)) ∧
                    outcome.2.requested = after.requested) := by
  obtain ⟨service, after, run, rfl, -, hasMode, decides⟩ :=
    Service.exists_run_start (.fresh store now) surroundings configuration
  refine ⟨service, after, run, fun entry isEntry blocked isName => ⟨?_, ?_⟩, ?_⟩
  · intro later world text domain named isForeign within
    have isBlocked := isName.mem_blockedSuffixes isRead isEntry
    obtain ⟨fault, refused⟩ := exists_fault_of_isWithin isBlocked within
    have foreign := foreignDomain?_eq_some_iff.mpr ⟨named, isForeign⟩
    obtain ⟨failure, handled, -⟩ := run_resolveHandle_of_unacceptable later foreign refused world
    obtain ⟨sameResult, sameRequested, -⟩ := Service.run_resolve_counts later service text world
    rw [handled] at sameResult sameRequested
    exact ⟨⟨failure, sameResult⟩, sameRequested⟩
  · intro url host isHost within
    have isBlocked := isName.mem_blockedSuffixes isRead isEntry
    obtain ⟨fault, refused⟩ := exists_fault_of_isWithin isBlocked within
    exact Redirect.exists_fault_of_host isHost refused
  · intro isAllowlist entry isEntry allowed isName later domain isNormal
    obtain ⟨-, allowedPeers, -⟩ := federation_of_configuration isRead
    rw [isAllowlist] at hasMode
    have isAllowed := isName.mem_readDomains isEntry
    rw [← allowedPeers] at isAllowed
    have decided := decides [] (.fresh store now)
    rw [List.append_nil] at decided
    have letsIn := run_authorize_of_mem hasMode decided isAllowed isNormal later
    refine ⟨letsIn, fun other isOther blocked isBlockedName within isForeign text named valid => ?_⟩
    have isBlocked := isBlockedName.mem_blockedSuffixes isRead isOther
    obtain ⟨fault, refused⟩ := exists_fault_of_isWithin isBlocked (isNormal.symm ▸ within)
    have foreign := foreignDomain?_eq_some_iff.mpr ⟨named, isNormal.symm ▸ isForeign⟩
    obtain ⟨failure, handled, isReason⟩ := run_resolveHandle_of_unacceptable later foreign refused after
    have permitted := congrArg Prod.fst ((run_authorize later _ domain after).symm.trans letsIn)
    obtain ⟨sameResult, sameRequested, -⟩ := Service.run_resolve_counts later service text after
    rw [handled] at sameResult sameRequested
    rw [isReason valid (Option.some.inj permitted)] at sameResult
    exact ⟨fault, refused, sameResult, sameRequested⟩

/-- An environment with both lists, on which one name is allowed below a blocked one. -/
def listing : Environment :=
  [("INSTANCE_DOMAIN", "home.example"), ("INSTANCE_PUBLIC_KEY", "key"), ("FEDERATION_MODE", "allowlist"),
    ("FEDERATION_BLOCKED_DOMAINS", "tracker.example, Spam.Example. "),
    ("FEDERATION_ALLOWED_PEERS", " Friend.Example.,mail.spam.example")]

/-- The settings that it describes. -/
def listed : Configuration where
  service := ⟨"home.example", "0.0.0.0", 8080, "home.example", "key", serverVersion⟩
  storage := ⟨"./data", "./data/federation.sqlite"⟩
  federation := { FederationSettings.standard with
    mode := .allowlist
    allowedPeers := ["friend.example", "mail.spam.example"]
    blockedDomains := ["tracker.example", "spam.example"] }
  cache := .standard
  logLevel := "federated_identity=debug,tower_http=debug"

/-- Both allowed names pass the gate in another spelling, and the one below the blocked name is refused after
it, without a request. The blocked name is refused as a host as well. -/
theorem listing_takes_effect :
    listing.configuration = .ok listed ∧ ∃ service after,
      (Service.start listed).toProgram.run .silent (.fresh (.memory .empty) 0) = (some (.ok service), after) ∧
      (authorize service.home.id "friend.EXAMPLE").toProgram.run .silent after = (some (.ok ()), after) ∧
      (authorize service.home.id "Mail.Spam.example").toProgram.run .silent after = (some (.ok ()), after) ∧
      (∃ message, ((service.resolve "alice@Mail.Spam.example").toProgram.run .silent after).1 =
        some (.error (.invalidDomain message))) ∧
      ((service.resolve "alice@Mail.Spam.example").toProgram.run .silent after).2.requested = [] ∧
      ∃ fault, Redirect.checkTarget service.blocked
        ⟨"https".toList, some ⟨[], none, .name "SPAM.example.".toList, none⟩, .segments [], none, none⟩ =
          .error fault := by
  have isRead : listing.configuration = .ok listed := by rfl
  obtain ⟨service, after, run, blocks, allows⟩ := lists_take_effect isRead .silent (.memory .empty) 0
  have isHome : service.domain = "home.example" := by
    have started : ((Service.start listed).toProgram.run .silent (.fresh (.memory .empty) 0)).1.map
        (fun result => result.toOption.map Service.domain) = some (some "home.example") := by decide
    rw [run] at started
    exact Option.some.inj (Option.some.inj started)
  have noRequests : after.requested = [] := by
    have started : ((Service.start listed).toProgram.run .silent (.fresh (.memory .empty) 0)).2.requested =
        [] := by decide
    rwa [run] at started
  have friend : " Friend.Example." ∈ listing.entries "FEDERATION_ALLOWED_PEERS" := by decide
  have mail : "mail.spam.example" ∈ listing.entries "FEDERATION_ALLOWED_PEERS" := by decide
  have spam : " Spam.Example. " ∈ listing.entries "FEDERATION_BLOCKED_DOMAINS" := by decide
  have friendIsName : IsNameOf " Friend.Example." "friend.example" := ⟨Or.inl (by decide), by decide⟩
  have mailIsName : IsNameOf "mail.spam.example" "mail.spam.example" := ⟨Or.inl (by decide), by decide⟩
  have spamIsName : IsNameOf " Spam.Example. " "spam.example" := ⟨Or.inl (by decide), by decide⟩
  have isForeign : "mail.spam.example" ≠ service.domain := by
    rw [isHome]
    decide
  obtain ⟨friendIn, -⟩ := allows rfl _ friend _ friendIsName .silent "friend.EXAMPLE" (by decide)
  obtain ⟨mailIn, refuses⟩ := allows rfl _ mail _ mailIsName .silent "Mail.Spam.example" (by decide)
  obtain ⟨fault, -, isRefused, requested⟩ := refuses _ spam _ spamIsName (Or.inr (by decide)) isForeign
    "alice@Mail.Spam.example" (by decide) (by decide)
  have hostRefused := (blocks _ spam _ spamIsName).2
  exact ⟨isRead, service, after, run, friendIn, mailIn, ⟨_, isRefused⟩, requested.trans noRequests,
    hostRefused _ (.name "SPAM.example.".toList) rfl (Or.inl (by decide))⟩

end Environment

end HandleFederation
