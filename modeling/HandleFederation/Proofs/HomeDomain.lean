/-
This file says when the domain that an instance is configured with is its own. A handle
belongs here if the normal form of its domain is that of the row of the instance, and that row
has the configured domain in lower case, with nothing taken from its ends, unless an older row
was found under that name which differs from it behind a NUL. So the configured domain names
this instance exactly if it has no blanks around it and no dot at its end. Then a user is
resolved under it as without a domain, in every mode, and nobody is asked. Otherwise the
instance takes its own handles for those of another one. Settings that are read from an
environment are brought to a form of their own, which may still end in a blank.
-/

import HandleFederation.Configuration.Environment
import HandleFederation.Proofs.HandleSpelling
import HandleFederation.Proofs.PeerDecision
import HandleFederation.Proofs.SuppressionWindow

namespace HandleFederation

open Program Resolution Text

/-! ### What is dropped from a domain -/

namespace DomainName

/-- A domain whose normal form is the domain in lower case is one from which nothing is dropped. -/
theorem normalize_eq_lower_iff {domain : String} : normalize domain = lower domain ↔ IsNeat domain := by
  refine ⟨fun same => ?_, normalize_of_isNeat⟩
  have sameLetters : (dropTrailingDot (trimLetters domain.toList)).map Char.toLower =
      domain.toList.map Char.toLower := by
    rw [← toList_lower, ← same, toList_normalize, normalizeLetters]
  have sameLength : (dropTrailingDot (trimLetters domain.toList)).length = domain.toList.length := by
    rw [← List.length_map Char.toLower, sameLetters, List.length_map]
  have trimmed := trimLetters_sublist domain.toList
  have undotted := dropTrailingDot_sublist (trimLetters domain.toList)
  have whole : trimLetters domain.toList = domain.toList :=
    trimmed.eq_of_length_le (sameLength ▸ undotted.length_le)
  refine ⟨?_, fun endsInDot => ?_⟩
  · rw [trim, whole, String.ofList_toList]
  · rw [whole, dropTrailingDot, if_pos endsInDot, List.length_dropLast] at sameLength
    have notEmpty : domain.toList ≠ [] := List.getLast?_isSome.mp (endsInDot ▸ rfl)
    have positive := List.length_pos_iff.mpr notEmpty
    omega

end DomainName

/-! ### Settings from an environment -/

namespace Text

variable {letters : List Char}

/-- What is left at the end of a text when something was dropped there is not to be dropped. -/
theorem kept_of_mem_getLast? {test : Char → Bool} {letter : Char}
    (isLast : letter ∈ (dropTrailing test letters).getLast?) : test letter = false := by
  have kept := List.head?_dropWhile_not test letters.reverse
  rw [dropTrailing, List.getLast?_reverse, Option.mem_def] at isLast
  rwa [isLast] at kept

/-- What a text starts with after something was dropped at its end is what it started with. -/
theorem mem_head?_of_mem_head?_dropTrailing {test : Char → Bool} {letter : Char}
    (isFirst : letter ∈ (dropTrailing test letters).head?) : letter ∈ letters.head? := by
  obtain ⟨after, -, whole⟩ := exists_eq_dropTrailing_append test letters
  have isFirstOfAll : (dropTrailing test letters ++ after).head? = some letter := by
    rw [List.head?_append, isFirst, Option.some_or]
  rwa [← whole] at isFirstOfAll

theorem isBlank_of_mem_head?_trimLetters {letter : Char} (isFirst : letter ∈ (trimLetters letters).head?) :
    isBlank letter = false := by
  have kept := List.head?_dropWhile_not isBlank letters
  have isFirstKept : (letters.dropWhile isBlank).head? = some letter :=
    mem_head?_of_mem_head?_dropTrailing isFirst
  rwa [isFirstKept] at kept

/-- A text has no blanks to drop if there is none at either end of it. -/
theorem trimLetters_eq_self (front : ∀ letter ∈ letters.head?, isBlank letter = false)
    (back : ∀ letter ∈ letters.getLast?, isBlank letter = false) : trimLetters letters = letters := by
  rcases letters with _ | ⟨first, rest⟩
  · rfl
  · have kept : isBlank first = false := front first rfl
    rw [trimLetters, stripWhile, List.dropWhile_cons_of_neg (Bool.eq_false_iff.mp kept)]
    have notEmpty := List.cons_ne_nil first rest
    have last := back _ (List.getLast?_eq_some_getLast notEmpty)
    rw [← List.dropLast_append_getLast notEmpty]
    exact dropTrailing_append_cons last _ []

/-- A text that ends in a blank has something to drop. -/
theorem isBlank_of_trimLetters_eq_self (trimmed : trimLetters letters = letters) {letter : Char}
    (isLast : letter ∈ letters.getLast?) : isBlank letter = false := by
  obtain ⟨front, rfl⟩ := List.getLast?_eq_some_iff.mp isLast
  refine Bool.eq_false_iff.mpr fun blank => ?_
  have shorter : trimLetters (front ++ [letter]) = trimLetters front :=
    stripWhile_append_append (List.forall_mem_nil _) (List.forall_mem_singleton.mpr blank) front
  have length_le := (trimLetters_sublist front).length_le
  rw [← shorter, trimmed, List.length_append, List.length_singleton] at length_le
  omega

theorem isBlank_toLower (letter : Char) : isBlank letter.toLower = isBlank letter :=
  apply_toLower isBlank (by decide +kernel) letter

theorem eq_dot_of_toLower_eq {letter : Char} (isDot : letter.toLower = '.') : letter = '.' := by
  have same := apply_toLower (· == '.') (by decide +kernel) letter
  rwa [beq_iff_eq.mpr isDot, eq_comm, beq_iff_eq] at same

end Text

namespace Environment

/-- A domain that is brought to the form of settings has no blanks around it and no dot at its end, unless
there was a blank in front of the dots at its end. -/
theorem isNeat_settledDomain_iff {text : String} :
    DomainName.IsNeat (settledDomain text) ↔
      ∀ letter ∈ (settledDomain text).toList.getLast?, isBlank letter = false := by
  have settled : (settledDomain text).toList =
      (dropTrailing (· == '.') (trimLetters text.toList)).map Char.toLower := by
    rw [settledDomain, toList_lower, String.toList_ofList]
  refine ⟨fun neat letter isLast => ?_, fun lastKept => ⟨?_, fun endsInDot => ?_⟩⟩
  · refine isBlank_of_trimLetters_eq_self ?_ isLast
    rw [← toList_trim, neat.1]
  · have trimmed : trimLetters (settledDomain text).toList = (settledDomain text).toList := by
      refine trimLetters_eq_self (fun letter isFirst => ?_) lastKept
      rw [settled, List.head?_map, Option.mem_def, Option.map_eq_some_iff] at isFirst
      obtain ⟨first, isFirst, rfl⟩ := isFirst
      rw [isBlank_toLower]
      exact isBlank_of_mem_head?_trimLetters (mem_head?_of_mem_head?_dropTrailing isFirst)
    rw [trim, trimmed, String.ofList_toList]
  · rw [settled, List.getLast?_map, Option.map_eq_some_iff] at endsInDot
    obtain ⟨last, isLast, isDot⟩ := endsInDot
    have kept := kept_of_mem_getLast? isLast
    rw [eq_dot_of_toLower_eq isDot] at kept
    cases kept

example : settledDomain " Home.Example. " = "home.example" ∧ settledDomain "home.example ." = "home.example " := by
  decide

/-- The domain in settings from an environment is brought to that form. -/
theorem domain_of_configuration {environment : Environment} {configuration : Configuration}
    (isRead : environment.configuration = .ok configuration) :
    ∃ text, configuration.service.domain = settledDomain text := by
  unfold Environment.configuration at isRead
  cases required : environment.required "INSTANCE_DOMAIN" with
  | error failure =>
    rw [required] at isRead
    cases isRead
  | ok text =>
    refine ⟨text, ?_⟩
    simp only [required, bind, Except.bind] at isRead
    split at isRead
    · cases isRead
    · split at isRead
      · cases isRead
      · split at isRead
        · cases isRead
        · split at isRead
          · cases isRead
          · rw [← Except.ok.inj isRead]

end Environment

/-! ### Handles at home -/

/-- Results that agree apart from a name are the same if the name is. -/
theorem Resolution.Agrees.eq_of_self {Result : Type} {name : String} {result again : Except Failure Result}
    (agrees : Agrees name name result again) : again = result := by
  rcases agrees with found | respells
  · rfl
  · cases respells <;> rfl

theorem Resolution.EndAsOne.eq_of_self {Result : Type} {name : String}
    {outcome again : Option (Except Failure Result) × World} (endAsOne : EndAsOne name name outcome again) :
    again = outcome := by
  refine Prod.ext ?_ endAsOne.world
  have result := endAsOne.result
  revert result
  generalize outcome.1 = left
  generalize again.1 = right
  rintro (agrees | _)
  · rw [agrees.eq_of_self]
  · rfl

/-- A user of the domain that an instance is configured with is written in two ways. -/
theorem Handle.isWritten_of_eq {username domain text : String} (isWord : Username.IsWord username)
    (isText : text = username ++ "@" ++ domain ∨ text = "@" ++ username ++ "@" ++ domain) :
    Handle.IsWritten ⟨username, some domain⟩ text := by
  rcases isText with rfl | rfl
  · exact ⟨isWord, [], [], [], by simp [Handle.letters], by simp, Or.inl rfl, by simp⟩
  · exact ⟨isWord, [], ['@'], [], by simp [Handle.letters], by simp, Or.inr rfl, by simp⟩

/-- An instance and the domain it is configured with. A user is resolved under that domain, with an at sign
in front or without, just as without any domain if the normal form is that of the row: the answer and the
world that is left are the same, and nothing is requested, in whatever mode the instance is. If not, the handle
is that of another instance. For the first instance over its database, and for any one without a NUL in its
domain, that is a matter of blanks around the domain and of a dot at its end. In settings from an environment
only a blank at the end can be in the way. -/
theorem Site.own_domain_is_home {site : Site} (reachable : site.IsReachable) {username text : String}
    (valid : Username.validate username = .ok ())
    (isText : text = username ++ "@" ++ site.service.configuration.service.domain ∨
      text = "@" ++ username ++ "@" ++ site.service.configuration.service.domain) :
    let domain := site.service.configuration.service.domain
    let isOwn := DomainName.normalize domain = site.service.domain
    (isOwn → site.resolve text = site.resolve username ∧
      (site.resolve text).2.requested = site.world.requested) ∧
    (foreignDomain? site.service (Handle.read text) = none ↔ isOwn) ∧
    (site.service.IsFirst ∨ IsNulFree domain → (isOwn ↔ DomainName.IsNeat domain)) ∧
    ∀ environment : Environment, environment.configuration = .ok site.service.configuration →
      (DomainName.IsNeat domain ↔ ∀ letter ∈ domain.toList.getLast?, isBlank letter = false) := by
  intro domain isOwn
  have isWord := Username.isWord_of_validate valid
  have alone : Handle.IsWritten ⟨username, none⟩ username :=
    ⟨isWord, [], [], [], by simp [Handle.letters], by simp, Or.inl rfl, by simp⟩
  have readsAlone : Handle.read username = ⟨username, none⟩ := alone.read
  have reads := (Handle.isWritten_of_eq isWord isText).read
  have named : site.service.domainOf (Handle.read text) = DomainName.normalize domain := by
    rw [reads, Service.domainOf_bare]
    rfl
  refine ⟨fun own => ?_, ?_, fun isNamed => ?_, fun environment isRead => ?_⟩
  · have isHome : site.service.domainOf (Handle.read text) = site.service.domain := named.trans own
    have sameName : (Handle.read username).username = (Handle.read text).username := by
      rw [readsAlone, reads, Handle.bare]
    have sameDomain : site.service.domainOf (Handle.read username) =
        site.service.domainOf (Handle.read text) := by
      rw [isHome, readsAlone]
      rfl
    have endAsOne := site.endAsOne_resolve (congrArg lower sameName) sameDomain
    rw [sameName] at endAsOne
    exact ⟨endAsOne.eq_of_self, site.requested_resolve_of_isHome isHome⟩
  · rcases site.service.foreignDomain?_cases (Handle.read text) with
      ⟨none, isHome⟩ | ⟨other, foreign, -, isForeign⟩
    · exact iff_of_true none (named.symm.trans isHome)
    · rw [foreign]
      exact iff_of_false (Option.some_ne_none _) fun own => isForeign (named.trans own)
  · have isDomain : site.service.domain = lower domain :=
      isNamed.elim Service.IsFirst.domain_eq (Service.IsReachable.domain_eq_of_isNulFree reachable)
    rw [← DomainName.normalize_eq_lower_iff, ← isDomain]
  · obtain ⟨value, isSettled⟩ := Environment.domain_of_configuration isRead
    have settled : domain = Environment.settledDomain value := isSettled
    rw [settled]
    exact Environment.isNeat_settledDomain_iff

/-- An account is found under the domain of its instance, without any request. -/
theorem Site.bob_is_home :
    Site.inhabited.IsReachable ∧
    (Site.inhabited.resolve "bob").1 = some (.ok ⟨Site.bob, "home.example", .home⟩) ∧
    Site.inhabited.resolve "@bob@home.example" = Site.inhabited.resolve "bob" ∧
    (Site.inhabited.resolve "@bob@home.example").2.requested = [] := by
  have reachable := Site.isReachable_inhabited
  have valid : Username.validate "bob" = .ok () := by decide
  have isText : "@bob@home.example" =
      "@" ++ "bob" ++ "@" ++ Site.inhabited.service.configuration.service.domain := by decide
  have isNamed : IsNulFree Site.inhabited.service.configuration.service.domain := by decide
  have neat : DomainName.IsNeat Site.inhabited.service.configuration.service.domain :=
    ⟨by decide, by decide⟩
  obtain ⟨resolves, -, own_iff, -⟩ := Site.own_domain_is_home reachable valid (Or.inr isText)
  obtain ⟨same, requested⟩ := resolves ((own_iff (Or.inr isNamed)).mpr neat)
  exact ⟨reachable, by decide, same, requested⟩

/-- Settings with a dot behind the domain are valid. An instance that is started with them answers for a user
without a domain, and asks another instance for the same user under its own domain. -/
theorem Site.dotted_domain_is_foreign :
    let site := Site.atStart (.plain "home.example.") .silent (.memory .empty) 0
    (Configuration.plain "home.example.").validate = .ok () ∧ site.IsReachable ∧
    (site.resolve "alice").1 = some (.error (.userNotFound "alice")) ∧
    (site.resolve "alice@home.example.").1 = some (.error (.remoteLookupFailed "home.example")) ∧
    (site.resolve "alice@home.example.").2.requested ≠ site.world.requested := by
  intro site
  let call : Call := ⟨.silent, site.world, "alice@home.example."⟩
  have accepted : DomainName.validate site.service.blocked "home.example" = .ok "home.example" := by decide
  have admits : site.service.Admits site.world "alice@home.example." "alice" "home.example" :=
    ⟨⟨"home.example.", by decide, by decide⟩, by decide, by decide, by decide, accepted⟩
  have noValue : ∀ key, site.world.store.get? site.world.now key = none := fun _ => rfl
  have mayAsk : site.world.MayAsk .silent site.service.windows "alice" "home.example" :=
    ⟨nofun, World.recalls_of_get?_eq_none _ (noValue _), World.recalls_of_get?_eq_none _ (noValue _)⟩
  have asks : call.Asks site.service "alice" "home.example" := ⟨admits, mayAsk⟩
  obtain ⟨declaredAt, -, isUrl, -⟩ := DomainName.exists_urls (DomainName.isPlain_of_validate accepted)
    (by decide) (HostName.isSome_toAscii?_of_validate accepted (by decide)) "alice"
  obtain ⟨others, requested⟩ := asks.exists_requested_eq rfl isUrl
  have undiscovered : call.world.finding call.surroundings site.service.windows "alice" "home.example" =
      .undiscovered :=
    mayAsk.finding_eq.trans (World.inquiry_eq_undiscovered_iff.mpr (isUndiscoverable_silent _ _))
  have isOpen : call.world.isDatabaseOpen = true := rfl
  have settles := Call.settles isOpen admits undiscovered
  have sameRun : site.resolve "alice@home.example." = call.outcome site.service := by
    rw [Call.outcome_eq]
    rfl
  have alone : (site.resolve "alice").1 = some (.error (.userNotFound "alice")) := by decide
  have failed : (call.outcome site.service).1 = some (.error (.remoteLookupFailed "home.example")) := by
    rw [settles.result]
    decide
  rw [sameRun]
  have isValid : (Configuration.plain "home.example.").validate = .ok () := by decide
  have reachable : site.IsReachable := isReachable_atStart _ _ _ _
  refine ⟨isValid, reachable, alone, failed, fun same => ?_⟩
  exact List.append_ne_nil_of_right_ne_nil others (List.cons_ne_nil _ _) (requested.symm.trans same)

end HandleFederation
