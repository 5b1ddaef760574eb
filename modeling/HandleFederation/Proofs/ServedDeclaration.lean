/-
This file says that a service discovers another one. What a service declares are its
settings as they were at its start, with the mode that is stored when it is asked, and
there is always such a mode. The settings are not measured at the start but by whoever
reads the declaration, so it is accepted where they keep to the bounds of a declaration,
and where a URL can be made of the domain. Beyond the bounds it is malformed to everybody.
-/

import HandleFederation.Proofs.Convergence
import HandleFederation.Proofs.ServedAnswer
import HandleFederation.Proofs.Succession

namespace HandleFederation

open Program Text

/-! ### Stored modes -/

/-- Every mode that is stored is the word of one. -/
def Tables.HasModes (tables : Tables) : Prop :=
  ∀ row ∈ tables.instances, ∃ mode : FederationMode, row.mode = mode.word

namespace Tables.HasModes

variable {issued : Nat} {tables changed : Tables}

theorem changeInstance (hasModes : tables.HasModes) (test : InstanceRow → Bool)
    {change : InstanceRow → InstanceRow} (mode : FederationMode)
    (writes : ∀ row, (change row).mode = mode.word) :
    HasModes { tables with instances := changeFirst test change tables.instances } :=
  forall_mem_changeFirst (fun row _ => ⟨mode, writes row⟩) hasModes

theorem addInstance (hasModes : tables.HasModes) {row : InstanceRow} (mode : FederationMode)
    (isWritten : row.mode = mode.word) : HasModes { tables with instances := tables.instances ++ [row] } := by
  intro other isOther
  rcases List.mem_append.mp isOther with before | added
  · exact hasModes other before
  · rw [List.mem_singleton.mp added]
    exact ⟨mode, isWritten⟩

theorem of_instances (hasModes : tables.HasModes) (same : changed.instances = tables.instances) :
    changed.HasModes := by
  rw [HasModes, same]
  exact hasModes

theorem putRemote (hasModes : tables.HasModes) {settings : RemoteSettings} {id : String} {now : Timestamp}
    {row : InstanceRow} (written : tables.putRemote settings id now = .ok (row, changed)) :
    changed.HasModes := by
  unfold Tables.putRemote at written
  split at written
  · split at written
    · cases written
    · cases written
      exact hasModes.changeInstance _ settings.mode fun _ => rfl
  · cases written
    exact hasModes.addInstance settings.mode rfl

/-- Every write writes the word of a mode, or none. -/
theorem canBecome (hasModes : tables.HasModes) {command : Command}
    (becomes : tables.CanBecome issued command changed) : changed.HasModes := by
  cases becomes with
  | same command => exact hasModes
  | home settings now =>
    unfold Tables.putLocal
    split
    · exact hasModes.changeInstance _ settings.mode fun _ => rfl
    · exact hasModes.addInstance settings.mode rfl
  | remote written => exact hasModes.putRemote written
  | mode instanceId mode => exact hasModes.changeInstance _ mode fun _ => rfl
  | peer written => exact hasModes.of_instances (instances_putPeer written)
  | account written => exact hasModes.of_instances (instances_register written)
  | stub written => exact hasModes.of_instances (instances_putStub written)
  | remoteUser written =>
    unfold Tables.putRemoteUser at written
    split at written
    · cases written
    · rename_i row between first
      exact (hasModes.putRemote first).of_instances (instances_putStub written)

end Tables.HasModes

/-- In a reached world every stored mode can be read. -/
theorem World.IsReachable.hasModes {world : World} (reachable : world.IsReachable) : world.tables.HasModes := by
  induction reachable with
  | fresh store now => exact fun _ isRow => absurd isRow List.not_mem_nil
  | carriedOut _ surroundings command inductionHypothesis =>
    exact inductionHypothesis.canBecome (canBecome_carryOut surroundings command)
  | later _ now le inductionHypothesis => exact inductionHypothesis

/-- The mode of an instance is known from the instances alone. -/
theorem World.HasMode.of_instances {world other : World} {instanceId : String} {mode : FederationMode}
    (hasMode : world.HasMode instanceId mode) (isOpen : other.isDatabaseOpen = true)
    (sameInstances : other.tables.instances = world.tables.instances) : other.HasMode instanceId mode := by
  have wasOpen := isDatabaseOpen_of_hasMode hasMode
  rw [HasMode, readTables, if_pos isOpen, modeOf, Tables.instanceWithId?, sameInstances]
  rwa [HasMode, readTables, if_pos wasOpen, modeOf, Tables.instanceWithId?] at hasMode

/-- An instance with a row has a mode. -/
theorem World.IsSound.exists_hasMode {world : World} (sound : world.IsSound) (hasModes : world.tables.HasModes)
    {row : InstanceRow} (isRow : row ∈ world.tables.instances) : ∃ mode, world.HasMode row.id mode := by
  obtain ⟨mode, isWritten⟩ := hasModes row isRow
  refine ⟨mode, ?_⟩
  rw [HasMode, readTables, if_pos sound.isOpen, modeOf, sound.tables.instanceWithId?_eq isRow]
  dsimp only
  rw [isWritten, FederationMode.read_word]

/-- An instance that has just written its row is in the mode of its settings. -/
theorem World.IsSound.hasMode_of_writeLocal {world : World} (sound : world.IsSound)
    {surroundings : Surroundings} {settings : LocalSettings} {now : Timestamp} {home : Instance}
    {after : World}
    (wrote : world.carryOut surroundings (.writeLocal settings now) = (some (.ok home), after)) :
    after.HasMode home.id settings.mode := by
  have soundThen := isSound_carryOut sound surroundings (.writeLocal settings now)
  rw [wrote] at soundThen
  rw [carryOut_writeLocal_of_isSound sound] at wrote
  cases wrote
  have isWritten : (world.tables.putLocal settings (identifier world.issued) now).1.mode =
      settings.mode.word := by
    unfold Tables.putLocal
    split <;> rfl
  rw [HasMode, readTables, if_pos soundThen.isOpen, modeOf,
    soundThen.tables.instanceWithId?_eq (Tables.mem_putLocal world.tables settings _ now)]
  dsimp only
  rw [isWritten, FederationMode.read_word]

/-- A site that has just started has the mode of its settings. -/
theorem Site.hasMode_atStart (configuration : Configuration) (surroundings : Surroundings)
    (store : ShortTermStore) (now : Nat) : (atStart configuration surroundings store now).world.HasMode
      (atStart configuration surroundings store now).service.home.id configuration.federation.mode :=
  (World.IsReachable.fresh store now).isSound.hasMode_of_writeLocal
    (carryOut_writeLocal_fresh configuration surroundings store now)

namespace Service

variable {service : Service} {world : World}

/-- A service has a mode at any time. -/
theorem IsReachable.exists_hasMode (reachable : service.IsReachable world) :
    ∃ mode, world.HasMode service.home.id mode := by
  obtain ⟨row, isRow, same⟩ := List.mem_map.mp reachable.address
  have sameId : row.id = service.home.id := congrArg Prod.fst same
  rw [← sameId]
  exact reachable.isReachable.isSound.exists_hasMode reachable.isReachable.hasModes isRow

/-! ### What a service declares -/

/-- What a service declares about itself in a mode. -/
def declared (service : Service) (mode : FederationMode) : Declaration :=
  ⟨service.home.id, service.domain, service.home.publicKey, service.home.name, service.home.software, mode⟩

/-- A service declares its settings. -/
theorem IsReachable.declared_eq (reachable : service.IsReachable world) (mode : FederationMode) :
    service.declared mode =
      ⟨service.home.id, service.domain, service.configuration.service.publicKey,
        service.configuration.service.name, softwareName service.configuration.service.version, mode⟩ := by
  suffices settings : service.home.publicKey = service.configuration.service.publicKey ∧
      service.home.name = service.configuration.service.name ∧
      service.home.software = softwareName service.configuration.service.version by
    obtain ⟨publicKey, name, software⟩ := settings
    rw [declared, publicKey, name, software]
  induction reachable with
  | @started before after reached surroundings now wrote =>
    rw [World.carryOut_writeLocal_of_isSound reached.isSound, Prod.mk.injEq, Option.some_inj,
      Except.ok.injEq] at wrote
    obtain ⟨isHome, -⟩ := wrote
    have isRowOf := isRowOf_putLocal isHome
    rw [← isHome]
    exact ⟨isRowOf.publicKey, isRowOf.name, isRowOf.software⟩
  | carriedOut _ _ _ inductionHypothesis => exact inductionHypothesis
  | later _ _ _ inductionHypothesis => exact inductionHypothesis

/-- A service answers with its declaration in the mode that is stored. -/
theorem run_declaration {mode : FederationMode} (hasMode : world.HasMode service.home.id mode)
    (surroundings : Surroundings) (query : List Char) :
    (Endpoint.declaration.answer service query).run surroundings world =
      (some (.json 200 (service.declared mode).toJson), world) := by
  have reads : world.carryOut surroundings (.readMode service.home.id) = (some (.ok mode), world) := by
    rw [← hasMode]
    rfl
  simp only [Endpoint.answer, Answer.ofAction, Endpoint.answerDeclaration, Action.toProgram_bind,
    Action.toProgram_ofProgram, bind_eq_andThen, perform, step_andThen, done_andThen, pure_eq_done, run_step,
    reads, Action.toProgram_pure, run_done]
  rfl

end Service

/-! ### What is accepted -/

/-- A declaration that is received as it was written is accepted within its bounds, and is malformed beyond
them. -/
theorem Declaration.ofExchange_toText (declaration : Declaration) :
    ofExchange declaration.domain (.ok ⟨200, Utf8.bytes declaration.toJson.toText⟩) =
      if declaration.isWithinBounds then .ok declaration else .error .malformed := by
  have isNamed : sameUpToCase declaration.domain declaration.domain = true := (sameUpToCase_iff _ _).mpr rfl
  have isAnswered : (200 != 200) = false := by decide
  simp only [ofExchange, isAnswered, ofBody, declaration.reads_toText, isNamed]
  cases declaration.isWithinBounds <;> rfl

/-- A service that can be contacted is discovered if what it declares is within the bounds. -/
theorem Surroundings.Reaches.run_askDeclaration {client : Surroundings} {service : Service} {world : World}
    (reaches : client.Reaches service world.tables) {mode : FederationMode}
    (hasMode : world.HasMode service.home.id mode) {url : Url}
    (declaredAt : declarationUrl service.domain = .ok url) (asks : url.Asks service.domain declarationPath)
    (elsewhere : World) :
    ((Resolution.askDeclaration service.domain).run client elsewhere).1 =
      some (if (service.declared mode).isWithinBounds then .ok (service.declared mode)
        else .error .malformed) := by
  have asksEndpoint : url.Asks service.domain Endpoint.declaration.path := asks
  have brings : client.transport elsewhere.requested url =
      .ok ⟨200, Utf8.bytes (service.declared mode).toJson.toText⟩ :=
    reaches.transport_eq asksEndpoint
      (fun there other isOpen sameTables => ⟨other, service.run_declaration
        (hasMode.of_instances isOpen (congrArg Tables.instances sameTables)) there _⟩) _
  simp only [Resolution.askDeclaration, declaredAt, bind_eq_andThen, perform, step_andThen, done_andThen,
    pure_eq_done, run_step, World.carryOut, run_done, brings]
  exact congrArg some (Declaration.ofExchange_toText (service.declared mode))

/-! ### Bounds of the settings -/

theorem Declaration.lengthWithin_iff (least most : Nat) (text : String) :
    lengthWithin least most text = true ↔ least ≤ text.length ∧ text.length ≤ most := by
  rw [lengthWithin, Bool.and_eq_true, decide_eq_true_iff, decide_eq_true_iff]

/-- An accepted domain has some characters, and not too many of them. -/
theorem DomainName.length_le_of_validate {blocked : List String} {text domain : String}
    (accepted : validate blocked text = .ok domain) : 1 ≤ domain.length ∧ domain.length ≤ 253 := by
  obtain ⟨noFault, isNormal⟩ := validate_eq_ok_iff.mp accepted
  rw [← toList_normalize, ← isNormal] at noFault
  have notEmpty := List.length_pos_of_ne_nil (isPlain_of_validate accepted).ne_nil
  have fits : (Utf8.encode domain.toList).length ≤ 253 := by
    unfold fault? at noFault
    split at noFault
    · cases noFault
    · split at noFault
      · cases noFault
      · rename_i notTooLong
        exact Nat.not_lt.mp notTooLong
  have fewer := Utf8.length_le_length_encode domain.toList
  rw [← String.length_toList]
  omega

/-- Settings with which a service can start have a public key. -/
theorem Configuration.publicKey_of_validate {configuration : Configuration}
    (isValid : configuration.validate = .ok ()) : 1 ≤ configuration.service.publicKey.length := by
  rw [← String.length_toList]
  refine List.length_pos_of_ne_nil fun isEmpty => ?_
  have trimmed : (trim configuration.service.publicKey).isEmpty = true := by
    rw [trim, isEmpty]
    rfl
  unfold validate at isValid
  split at isValid
  · cases isValid
  · cases isValid

theorem length_softwareName (version : String) : (softwareName version).length = 19 + version.length :=
  calc (softwareName version).length
    _ = "federated-identity/".length + version.length := String.length_append _ _
    _ = 19 + version.length := congrArg (· + version.length) (by decide)

namespace Service

variable {service : Service} {world : World}

/-- The identifier of a service is one that was issued. -/
theorem IsReachable.isIssued_id (reachable : service.IsReachable world) :
    IsIssued world.issued service.home.id := by
  obtain ⟨row, isRow, same⟩ := List.mem_map.mp reachable.address
  have sameId : row.id = service.home.id := congrArg Prod.fst same
  rw [← sameId]
  exact reachable.isReachable.isSound.tables.instancesIssued row isRow

/-- What a service declares is within the bounds if its settings are. -/
theorem IsReachable.isWithinBounds (reachable : service.IsReachable world)
    (numbered : world.issued ≤ 16 ^ 104) {blocked : List String}
    (isValid : service.configuration.validate = .ok ())
    (isAccepted : DomainName.validate blocked service.domain = .ok service.domain)
    (keyFits : service.configuration.service.publicKey.length ≤ 4096)
    (nameFits : service.configuration.service.name.length ≤ 256)
    (versionFits : service.configuration.service.version.length ≤ 109) (mode : FederationMode) :
    (service.declared mode).isWithinBounds = true := by
  have idFits := reachable.isIssued_id.length_le numbered
  have domainFits := DomainName.length_le_of_validate isAccepted
  have hasKey := Configuration.publicKey_of_validate isValid
  have softwareFits := length_softwareName service.configuration.service.version
  simp only [reachable.declared_eq, Declaration.isWithinBounds, Bool.and_eq_true, Declaration.lengthWithin_iff]
  omega

/-- What a service declares is beyond the bounds if one of its settings is. -/
theorem IsReachable.not_isWithinBounds (reachable : service.IsReachable world)
    (isBeyond : 4096 < service.configuration.service.publicKey.length ∨
      256 < service.configuration.service.name.length ∨ 109 < service.configuration.service.version.length)
    (mode : FederationMode) : ¬ (service.declared mode).isWithinBounds = true := by
  have software := length_softwareName service.configuration.service.version
  simp only [reachable.declared_eq, Declaration.isWithinBounds, Bool.and_eq_true, Declaration.lengthWithin_iff]
  omega

/-- A service can be asked at a domain of which a URL can be made. -/
theorem asks_of_isNamed {blocked : List String} (isAccepted : DomainName.validate blocked service.domain =
      .ok service.domain)
    (notHexadecimal : DomainName.endsInHexadecimal service.domain.toList = false)
    (isNamed : (HostName.toAscii? service.domain.toList).isSome = true) :
    ∃ url, declarationUrl service.domain = .ok url ∧ url.Asks service.domain declarationPath := by
  have plain := DomainName.isPlain_of_validate isAccepted
  have declaredAt := DomainName.declarationUrl_of_isPlain plain notHexadecimal
  rw [if_pos isNamed] at declaredAt
  exact ⟨_, declaredAt, DomainName.asks_of_declarationUrl plain notHexadecimal declaredAt⟩

/-- The domain of a service is the one in its settings if that is accepted as it is. -/
theorem IsReachable.domain_eq_of_validate (reachable : service.IsReachable world) {blocked : List String}
    (isAccepted : DomainName.validate blocked service.configuration.service.domain =
      .ok service.configuration.service.domain) : service.domain = service.configuration.service.domain := by
  rw [reachable.domain_eq_of_isNulFree (DomainName.isNulFree_of_validate isAccepted),
    ← DomainName.normalize_of_validate isAccepted, DomainName.lower_normalize]

/-- A service whose settings are within the bounds is discovered at its domain, with what it serves and with
the mode that it has at the moment. -/
theorem declaration_is_accepted (reachable : service.IsReachable world) (numbered : world.issued ≤ 16 ^ 104)
    (isValid : service.configuration.validate = .ok ()) {blocked : List String} {domain : String}
    (isDomain : service.configuration.service.domain = domain)
    (isAccepted : DomainName.validate blocked domain = .ok domain)
    (notHexadecimal : DomainName.endsInHexadecimal domain.toList = false)
    (isNamed : (HostName.toAscii? domain.toList).isSome = true)
    (keyFits : service.configuration.service.publicKey.length ≤ 4096)
    (nameFits : service.configuration.service.name.length ≤ 256)
    (versionFits : service.configuration.service.version.length ≤ 109) :
    ∃ (mode : FederationMode) (declaration : Declaration),
      world.HasMode service.home.id mode ∧
      declaration = ⟨service.home.id, domain, service.configuration.service.publicKey,
        service.configuration.service.name, softwareName service.configuration.service.version, mode⟩ ∧
      (∀ there query headers, ∃ response,
        ((service.answer ⟨"GET", declarationPath, query, headers⟩).run there world).1 = some response ∧
        response.status = 200 ∧ response.body = declaration.toJson.toText) ∧
      ∀ client : Surroundings, client.Reaches service world.tables → ∀ elsewhere,
        ((Resolution.askDeclaration domain).run client elsewhere).1 = some (.ok declaration) := by
  subst isDomain
  have sameDomain := reachable.domain_eq_of_validate isAccepted
  obtain ⟨mode, hasMode⟩ := reachable.exists_hasMode
  refine ⟨mode, service.declared mode, hasMode, ?_, fun there query headers => ?_,
    fun client reaches elsewhere => ?_⟩
  · rw [reachable.declared_eq, sameDomain]
  · obtain ⟨event, run⟩ :=
      service.run_answer there ⟨"GET", declarationPath, query, headers⟩ rfl .declaration rfl
      (run_declaration hasMode there _)
    exact ⟨_, congrArg Prod.fst run, rfl, rfl⟩
  · rw [← sameDomain] at isAccepted notHexadecimal isNamed ⊢
    obtain ⟨url, declaredAt, asks⟩ := asks_of_isNamed isAccepted notHexadecimal isNamed
    have within := reachable.isWithinBounds numbered isValid isAccepted keyFits nameFits versionFits mode
    rw [reaches.run_askDeclaration hasMode declaredAt asks elsewhere, if_pos within]

/-- What a service with a setting that is beyond the bounds declares is malformed to everybody. -/
theorem declaration_is_malformed (reachable : service.IsReachable world) {blocked : List String}
    (isAccepted : DomainName.validate blocked service.domain = .ok service.domain)
    (notHexadecimal : DomainName.endsInHexadecimal service.domain.toList = false)
    (isNamed : (HostName.toAscii? service.domain.toList).isSome = true)
    (isBeyond : 4096 < service.configuration.service.publicKey.length ∨
      256 < service.configuration.service.name.length ∨ 109 < service.configuration.service.version.length)
    {client : Surroundings} (reaches : client.Reaches service world.tables) (elsewhere : World) :
    ((Resolution.askDeclaration service.domain).run client elsewhere).1 = some (.error .malformed) := by
  obtain ⟨mode, hasMode⟩ := reachable.exists_hasMode
  obtain ⟨url, declaredAt, asks⟩ := asks_of_isNamed isAccepted notHexadecimal isNamed
  rw [reaches.run_askDeclaration hasMode declaredAt asks elsewhere,
    if_neg (reachable.not_isWithinBounds isBeyond mode)]

end Service

/-! ### A service that is discovered, and some that are not -/

/-- Settings with a public key, a name and a version of so many letters. -/
def Configuration.lettered (key name version : Nat) : Configuration :=
  { plain "home.example" with
    service := ⟨"home.example", "127.0.0.1", 8080, String.ofList (List.replicate name 'n'),
      String.ofList (List.replicate key 'k'), String.ofList (List.replicate version 'v')⟩ }

/-- A server can start with such settings if there is a public key. -/
theorem Configuration.validate_lettered {key : Nat} (positive : 0 < key) (name version : Nat) :
    (lettered key name version).validate = .ok () := by
  have noBlank : ∀ letter ∈ List.replicate key 'k', isBlank letter = false := by
    intro letter member
    rw [List.eq_of_mem_replicate member]
    decide
  have trimmed : trim (lettered key name version).service.publicKey =
      String.ofList (List.replicate key 'k') := by
    rw [trim, lettered, String.toList_ofList, trimLetters, stripWhile_eq_self noBlank]
  have notEmpty : ¬ (String.ofList (List.replicate key 'k')).isEmpty = true := by
    rw [String.isEmpty_iff, ← String.toList_inj, String.toList_ofList]
    exact fun isEmpty => absurd (congrArg List.length isEmpty) (by simpa using positive.ne')
  have hasDomain : ¬ "home.example".isEmpty = true := by decide
  have hasAgent : ¬ (trim FederationSettings.standard.userAgent).isEmpty = true := by decide
  rw [validate, trimmed, if_neg notEmpty]
  exact (if_neg hasDomain).trans (if_neg hasAgent)

namespace Site

/-- The service at home is discovered by everybody who reaches it. -/
theorem home_is_discovered :
    ∃ client : Surroundings, client.Reaches empty.service empty.world.tables ∧
      ∃ mode, empty.world.HasMode empty.service.home.id mode ∧
        ((Resolution.askDeclaration "home.example").run client empty.world).1 =
          some (.ok ⟨empty.service.home.id, "home.example", "key", "home.example", softwareName serverVersion,
            mode⟩) := by
  have reachable : empty.IsReachable := isReachable_atStart _ _ _ _
  have reaches := Surroundings.reaches_facing empty.service reachable.isReachable.isSound.isOpen
  have isAccepted : DomainName.validate [] "home.example" = .ok "home.example" := by decide
  obtain ⟨mode, declaration, hasMode, rfl, -, discovers⟩ :=
    Service.declaration_is_accepted reachable (by decide) (by decide) rfl isAccepted (by decide)
      (HostName.isSome_toAscii?_of_validate isAccepted (by decide)) (by decide) (by decide) (by decide)
  exact ⟨_, reaches, mode, hasMode, discovers _ reaches empty.world⟩

/-- Three services that can be started with one setting beyond the bounds, and one under a domain of which no
URL can be made. Nobody discovers them. -/
theorem declarations_not_discovered :
    (∀ configuration ∈ [Configuration.lettered 4097 256 109, .lettered 4096 257 109, .lettered 4096 256 110],
      configuration.validate = .ok () ∧ configuration.service.domain = "home.example" ∧
      ∃ site : Site, site.IsReachable ∧ site.service.configuration = configuration ∧
        ∃ client : Surroundings, client.Reaches site.service site.world.tables ∧
          ((Resolution.askDeclaration "home.example").run client site.world).1 = some (.error .malformed)) ∧
    (DomainName.validate [] "home.example" = .ok "home.example") ∧
    DomainName.validate [] "xn--z.example" = .ok "xn--z.example" ∧
    (Configuration.plain "xn--z.example").validate = .ok () ∧
    ∀ client world, ((Resolution.askDeclaration "xn--z.example").run client world).1 =
      some (.error (.transport (.invalidUrl "invalid international domain name"))) := by
  have isAccepted : DomainName.validate [] "home.example" = .ok "home.example" := by decide
  have beyond : ∀ key name version, 0 < key → (4096 < key ∨ 256 < name ∨ 109 < version) →
      (Configuration.lettered key name version).validate = .ok () ∧
      (Configuration.lettered key name version).service.domain = "home.example" ∧
      ∃ site : Site, site.IsReachable ∧ site.service.configuration = .lettered key name version ∧
        ∃ client : Surroundings, client.Reaches site.service site.world.tables ∧
          ((Resolution.askDeclaration "home.example").run client site.world).1 = some (.error .malformed) := by
    intro key name version positive isBeyond
    refine ⟨Configuration.validate_lettered positive name version, rfl, ?_⟩
    let site := atStart (.lettered key name version) .silent (.memory .empty) 0
    have reachable : site.service.IsReachable site.world := isReachable_atStart _ _ _ _
    have reaches := Surroundings.reaches_facing site.service reachable.isReachable.isSound.isOpen
    have isDomain : site.service.domain = "home.example" :=
      (reachable.domain_eq_of_isNulFree (by decide : IsNulFree "home.example")).trans
        (by decide : lower "home.example" = "home.example")
    have isBeyondHere : 4096 < site.service.configuration.service.publicKey.length ∨
        256 < site.service.configuration.service.name.length ∨
        109 < site.service.configuration.service.version.length := by
      show 4096 < (String.ofList (List.replicate key 'k')).length ∨
        256 < (String.ofList (List.replicate name 'n')).length ∨
        109 < (String.ofList (List.replicate version 'v')).length
      rwa [String.length_ofList, String.length_ofList, String.length_ofList, List.length_replicate,
        List.length_replicate, List.length_replicate]
    have refused := Service.declaration_is_malformed reachable (isDomain.symm ▸ isAccepted)
      (isDomain.symm ▸ by decide) (isDomain.symm ▸ HostName.isSome_toAscii?_of_validate isAccepted (by decide))
      isBeyondHere reaches site.world
    rw [isDomain] at refused
    exact ⟨site, reachable, rfl, _, reaches, refused⟩
  refine ⟨?_, isAccepted, by decide, by decide, fun client world => ?_⟩
  · exact List.forall_mem_cons.mpr ⟨beyond _ _ _ (by decide) (by decide), List.forall_mem_cons.mpr
      ⟨beyond _ _ _ (by decide) (by decide), List.forall_mem_singleton.mpr
        (beyond _ _ _ (by decide) (by decide))⟩⟩
  · rw [Resolution.askDeclaration, DomainName.declarationUrl_misspelt]
    rfl

end Site

end HandleFederation
