/-
This file says that the spellings of a handle are equivalent. A handle may be written with or
without an at sign in front, with blanks around it, its username in any case, and its domain
in any form that has the same normal form; an account of this instance may be written without
a domain as well. At whatever site such texts are resolved, the world is left in the same
state, down to the identifiers and the counts, and the answer is the same, but for the
username that a failure to find the user repeats as it was written. What folds the case is
not one place: the split of the handle, the rows, the keys of what is remembered, the URLs and
the answers each do it on their own, and each equation below is about one of them.
-/

import HandleFederation.Proofs.Finding
import HandleFederation.Proofs.ResolvedIdentity

namespace HandleFederation

open Program Resolution Text

/-! ### Trimming -/

namespace Text

variable {test : Char → Bool}

/-- What is dropped from the end of a text does not reach beyond a character that is kept. -/
theorem dropTrailing_append_cons {letter : Char} (kept : test letter = false) (front back : List Char) :
    dropTrailing test (front ++ letter :: back) = front ++ letter :: dropTrailing test back := by
  have shape : (front ++ letter :: back).reverse = back.reverse ++ letter :: front.reverse := by
    rw [List.reverse_append, List.reverse_cons, List.append_assoc, List.singleton_append]
  rw [dropTrailing, dropTrailing, shape, List.dropWhile_append]
  split
  · rename_i nothingLeft
    rw [List.isEmpty_iff.mp nothingLeft, List.dropWhile_cons_of_neg (Bool.eq_false_iff.mp kept),
      List.reverse_cons, List.reverse_reverse, List.reverse_nil]
  · rw [List.reverse_append, List.reverse_cons, List.reverse_reverse, List.append_assoc,
      List.singleton_append]

/-- What has nothing but dropped characters behind it is dropped from all the same. -/
theorem dropTrailing_append_of_all {after : List Char} (dropped : ∀ letter ∈ after, test letter = true)
    (letters : List Char) : dropTrailing test (letters ++ after) = dropTrailing test letters := by
  rw [dropTrailing, dropTrailing, List.reverse_append, List.dropWhile_append_of_pos]
  exact fun letter member => dropped letter (List.mem_reverse.mp member)

/-- What is dropped from the end of a text stands behind what is left of it. -/
theorem exists_eq_dropTrailing_append (test : Char → Bool) (letters : List Char) :
    ∃ after, (∀ letter ∈ after, test letter = true) ∧ letters = dropTrailing test letters ++ after := by
  refine ⟨(letters.reverse.takeWhile test).reverse, fun letter member => ?_, ?_⟩
  · exact List.mem_takeWhile_imp (List.mem_reverse.mp member)
  · rw [dropTrailing, ← List.reverse_append, List.takeWhile_append_dropWhile, List.reverse_reverse]

/-- What stands around a text and is dropped makes no difference to what is left. -/
theorem stripWhile_append_append {before after : List Char}
    (droppedBefore : ∀ letter ∈ before, test letter = true)
    (droppedAfter : ∀ letter ∈ after, test letter = true) (letters : List Char) :
    stripWhile test (before ++ (letters ++ after)) = stripWhile test letters := by
  rw [stripWhile, stripWhile, List.dropWhile_append_of_pos droppedBefore, List.dropWhile_append]
  split
  · rename_i nothingLeft
    rw [List.isEmpty_iff.mp nothingLeft, List.dropWhile_eq_nil_iff.mpr droppedAfter]
  · exact dropTrailing_append_of_all droppedAfter _

/-- Nothing changes for what is dropped from both ends if something was dropped from the end before. -/
theorem stripWhile_dropTrailing (test : Char → Bool) (letters : List Char) :
    stripWhile test (dropTrailing test letters) = stripWhile test letters := by
  obtain ⟨after, dropped, whole⟩ := exists_eq_dropTrailing_append test letters
  calc stripWhile test (dropTrailing test letters)
    _ = stripWhile test ([] ++ (dropTrailing test letters ++ after)) :=
      (stripWhile_append_append (List.forall_mem_nil _) dropped _).symm
    _ = stripWhile test letters := by rw [List.nil_append, ← whole]

end Text

/-- The normal form of a domain does not depend on blanks behind it. -/
theorem DomainName.normalize_dropTrailing (domain : String) :
    normalize (String.ofList (dropTrailing isBlank domain.toList)) = normalize domain := by
  rw [normalize, normalize, normalizeLetters, normalizeLetters, String.toList_ofList, trimLetters,
    stripWhile_dropTrailing, trimLetters]

/-! ### Handles as they are written -/

/-- A username that can be told apart from what stands around it: it is not empty, and has neither an at
sign nor a blank in it. -/
structure Username.IsWord (username : String) : Prop where
  notEmpty : username.toList ≠ []
  noMark : '@' ∉ username.toList
  noBlank : ∀ letter ∈ username.toList, isBlank letter = false

namespace Username

theorem toNat_lt_of_isLetter {letter : Char} (isLetter : isLetter letter = true) : letter.toNat < 0x80 := by
  simp only [Username.isLetter, Bool.or_eq_true, beq_iff_eq] at isLetter
  rcases isLetter with ((isAlphanum | rfl) | rfl) | rfl
  · have kinds : (letter.isUpper || letter.isLower || letter.isDigit) = true := isAlphanum
    simp only [Bool.or_eq_true] at kinds
    rcases kinds with (isUpper | isLower) | isDigit
    · have bounds : 'A'.toNat ≤ letter.toNat ∧ letter.toNat ≤ 'Z'.toNat := of_decide_eq_true isUpper
      exact Nat.lt_of_le_of_lt bounds.2 (by decide)
    · exact Nat.lt_of_le_of_lt (Utf8.toNat_of_between 'a' 'z' letter isLower).2 (by decide)
    · exact Nat.lt_of_le_of_lt (Utf8.toNat_of_between '0' '9' letter isDigit).2 (by decide)
  · decide
  · decide
  · decide

/-- A character of a username is neither an at sign nor a blank. -/
theorem ne_at_and_isBlank_of_isLetter {letter : Char} (isLetter : isLetter letter = true) :
    letter ≠ '@' ∧ isBlank letter = false :=
  forall_ascii (fun letter => Username.isLetter letter = true → letter ≠ '@' ∧ isBlank letter = false)
    (by decide +kernel) (toNat_lt_of_isLetter isLetter) isLetter

/-- A valid username can be told apart from what stands around it. -/
theorem isWord_of_validate {username : String} (valid : validate username = .ok ()) : IsWord username := by
  obtain ⟨notEmpty, letters⟩ := letters_of_validate valid
  exact ⟨notEmpty, fun member => (ne_at_and_isBlank_of_isLetter (letters _ member)).1 rfl,
    fun letter member => (ne_at_and_isBlank_of_isLetter (letters letter member)).2⟩

end Username

namespace Handle

/-- The characters of a handle without anything around it. -/
def letters (handle : Handle) : List Char :=
  match handle.domain with
  | none => handle.username.toList
  | some domain => handle.username.toList ++ '@' :: domain.toList

/-- A text is one of the ways to write a handle: with or without an at sign in front, and with any blanks
around it. -/
structure IsWritten (handle : Handle) (text : String) : Prop where
  isWord : Username.IsWord handle.username
  around : ∃ before mark after, text.toList = before ++ ((mark ++ handle.letters) ++ after) ∧
    (∀ letter ∈ before, isBlank letter = true) ∧ (mark = [] ∨ mark = ['@']) ∧
    ∀ letter ∈ after, isBlank letter = true

variable {handle : Handle} {text : String}

/-- What is left of a handle when the blanks around it and the at sign in front are gone: blanks at the end
of the domain are gone with them. -/
def bare (handle : Handle) : Handle :=
  ⟨handle.username, handle.domain.map fun domain => String.ofList (dropTrailing isBlank domain.toList)⟩

/-- A handle and an at sign in front have no blanks but at the end of the domain. -/
theorem trimLetters_mark_append (isWord : Username.IsWord handle.username) {mark : List Char}
    (isMark : mark = [] ∨ mark = ['@']) :
    trimLetters (mark ++ handle.letters) = mark ++ handle.bare.letters := by
  have notBlank : ∀ letter ∈ mark ++ handle.username.toList, isBlank letter = false := by
    intro letter member
    rcases List.mem_append.mp member with inMark | inName
    · rcases isMark with rfl | rfl
      · cases inMark
      · obtain rfl := List.mem_singleton.mp inMark
        decide
    · exact isWord.noBlank letter inName
  obtain ⟨username, _ | domain⟩ := handle
  · exact stripWhile_eq_self notBlank
  · have notEmpty : mark ++ username.toList ≠ [] := fun empty =>
      isWord.notEmpty (List.append_eq_nil_iff.mp empty).2
    obtain ⟨first, rest, shape⟩ := List.exists_cons_of_ne_nil notEmpty
    have front : isBlank first = false := notBlank first (shape ▸ List.mem_cons_self)
    rw [letters, letters, bare, trimLetters, stripWhile]
    dsimp only [Option.map_some]
    rw [← List.append_assoc, ← List.append_assoc, shape, List.cons_append,
      List.dropWhile_cons_of_neg (Bool.eq_false_iff.mp front), ← List.cons_append, String.toList_ofList]
    exact dropTrailing_append_cons (by decide) _ _

/-- An at sign in front of a handle is dropped, and nothing else is. -/
theorem dropLeadingAt_mark_append (isWord : Username.IsWord handle.username) {mark : List Char}
    (isMark : mark = [] ∨ mark = ['@']) : dropLeadingAt (mark ++ handle.letters) = handle.letters := by
  rcases isMark with rfl | rfl
  · obtain ⟨first, rest, shape⟩ := List.exists_cons_of_ne_nil isWord.notEmpty
    have notMark : first ≠ '@' := by
      rintro rfl
      exact isWord.noMark (shape ▸ List.mem_cons_self)
    have starts : ∃ others, handle.letters = first :: others := by
      unfold letters
      split
      · exact ⟨rest, shape⟩
      · exact ⟨_, congrArg (· ++ _) shape⟩
    obtain ⟨others, isLetters⟩ := starts
    rw [List.nil_append, isLetters, dropLeadingAt]
    rintro again ⟨⟩
    exact notMark rfl
  · rfl

/-- The characters of a handle stand for it. -/
theorem ofLetters_letters (isWord : Username.IsWord handle.username) : ofLetters handle.letters = handle := by
  have noMark : ∀ letter ∈ handle.username.toList, (letter != '@') = true := by
    rintro letter member
    refine bne_iff_ne.mpr ?_
    rintro rfl
    exact isWord.noMark member
  obtain ⟨username, _ | domain⟩ := handle
  · rw [ofLetters, letters, Url.span_of_all noMark]
    exact congrArg (Handle.mk · none) String.ofList_toList
  · rw [ofLetters, letters, Url.span_append_cons noMark (by decide)]
    dsimp only
    rw [String.ofList_toList, String.ofList_toList]

/-- A text that a handle is written as is read as that handle, apart from blanks at the end of the domain. -/
theorem IsWritten.read (written : handle.IsWritten text) : Handle.read text = handle.bare := by
  obtain ⟨isWord, before, mark, after, shape, blankBefore, isMark, blankAfter⟩ := written
  have alsoWord : Username.IsWord handle.bare.username := isWord
  rw [Handle.read, shape, trimLetters, stripWhile_append_append blankBefore blankAfter, ← trimLetters,
    trimLetters_mark_append isWord isMark, dropLeadingAt_mark_append alsoWord isMark,
    ofLetters_letters alsoWord]

end Handle

/-- The domain of a handle that is written somehow is the one that is read. -/
theorem Service.domainOf_bare (service : Service) (handle : Handle) :
    service.domainOf handle.bare = service.domainOf handle := by
  obtain ⟨username, _ | domain⟩ := handle
  · rfl
  · exact DomainName.normalize_dropTrailing domain

/-- A handle has a foreign domain exactly if it names another domain than that of this instance. -/
theorem Service.foreignDomain?_cases (service : Service) (handle : Handle) :
    (foreignDomain? service handle = none ∧ service.domainOf handle = service.domain) ∨
    ∃ domain, foreignDomain? service handle = some domain ∧
      DomainName.normalize domain = service.domainOf handle ∧
      service.domainOf handle ≠ service.domain := by
  cases foreign : foreignDomain? service handle with
  | none => exact Or.inl ⟨rfl, domainOf_of_foreignDomain?_eq_none foreign⟩
  | some domain =>
    obtain ⟨names, isForeign⟩ := foreignDomain?_eq_some_iff.mp foreign
    have named : service.domainOf handle = DomainName.normalize domain := by
      rw [domainOf, names]
      rfl
    exact Or.inr ⟨domain, rfl, named.symm, named ▸ isForeign⟩

/-- Whether the domain of a handle is foreign depends on the domain it names. -/
theorem Service.isSome_foreignDomain? (service : Service) (handle : Handle) :
    (foreignDomain? service handle).isSome = (service.domainOf handle != service.domain) := by
  rcases service.foreignDomain?_cases handle with ⟨none, isHome⟩ | ⟨domain, foreign, -, isForeign⟩
  · rw [none, isHome, bne_self_eq_false, Option.isSome_none]
  · rw [foreign, bne_iff_ne.mpr isForeign, Option.isSome_some]

/-! ### Answers to two spellings -/

/-- Two failures are the same, or say of a user, each under a name of its own, that there is none. -/
inductive Failure.Respells (name other : String) : Failure → Failure → Prop
  | same (failure : Failure) : Respells name other failure failure
  | account : Respells name other (.userNotFound name) (.userNotFound other)
  | remote (domain : String) :
    Respells name other (.userNotFound (fullName name domain)) (.userNotFound (fullName other domain))

namespace Failure.Respells

variable {name other : String} {failure again : Failure}

theorem kind_eq (respells : Respells name other failure again) : again.kind = failure.kind := by
  cases respells <;> rfl

/-- What is said is the same, apart from the name. -/
theorem message_eq (respells : Respells name other failure again) :
    again.message = failure.message ∨
      ∃ front back, failure.message = front ++ name ++ back ∧ again.message = front ++ other ++ back := by
  have notFound : ∀ handle, (Failure.userNotFound handle).message = "User not found: " ++ handle :=
    fun _ => rfl
  cases respells with
  | same => exact Or.inl rfl
  | account =>
    refine Or.inr ⟨"User not found: ", "", ?_, ?_⟩
    · rw [notFound, String.append_empty]
    · rw [notFound, String.append_empty]
  | remote domain =>
    have whole : ∀ username, fullName username domain = username ++ ("@" ++ domain) := fun _ =>
      String.append_assoc
    refine Or.inr ⟨"User not found: ", "@" ++ domain, ?_, ?_⟩
    · rw [notFound, whole, String.append_assoc]
    · rw [notFound, whole, String.append_assoc]

end Failure.Respells

/-- Two results are the same, or failures that are the same apart from the name of a user. -/
inductive Resolution.Agrees {Result : Type} (name other : String) :
    Except Failure Result → Except Failure Result → Prop
  | ok (result : Result) : Agrees name other (.ok result) (.ok result)
  | error {failure again : Failure} (respells : failure.Respells name other again) :
    Agrees name other (.error failure) (.error again)

/-- Two runs leave the same world, and agree about the result apart from the name of a user. -/
structure Resolution.EndAsOne {Result : Type} (name other : String)
    (outcome again : Option (Except Failure Result) × World) : Prop where
  result : Option.Rel (Agrees name other) outcome.1 again.1
  world : again.2 = outcome.2

namespace Resolution

variable {name other : String}

theorem Agrees.refl {Result : Type} (result : Except Failure Result) : Agrees name other result result := by
  cases result with
  | ok found => exact .ok found
  | error failure => exact .error (.same failure)

theorem EndAsOne.refl {Result : Type} (outcome : Option (Except Failure Result) × World) :
    EndAsOne name other outcome outcome := by
  refine ⟨?_, rfl⟩
  cases outcome.1 with
  | none => exact .none
  | some result => exact .some (.refl result)

/-- Results that agree settle answers that agree: a user who is not found is not replaced by a stub. -/
theorem Agrees.settle {result again : Except Failure User} (agrees : Agrees name other result again)
    (domain : String) (stale : Option User) :
    Agrees name other (Resolution.settle domain stale result) (Resolution.settle domain stale again) := by
  rcases agrees with user | respells
  · exact .refl _
  · cases respells with
    | same => exact .refl _
    | account => exact .error .account
    | remote => exact .error (.remote _)

/-- Resolutions that agree are counted as one. -/
theorem Agrees.resolutionEvent_eq {result again : Except Failure Resolved}
    (agrees : Agrees name other result again) (isForeign : Bool) :
    resolutionEvent isForeign again = resolutionEvent isForeign result := by
  cases agrees with
  | ok resolved => rfl
  | error respells => rw [resolutionEvent, resolutionEvent, respells.kind_eq]

theorem EndAsOne.settle {outcome again : Option (Except Failure User) × World}
    (endAsOne : EndAsOne name other outcome again) (domain : String) (stale : Option User) :
    EndAsOne name other (outcome.1.map (Resolution.settle domain stale), outcome.2)
      (again.1.map (Resolution.settle domain stale), again.2) := by
  refine ⟨?_, endAsOne.world⟩
  rcases outcome with ⟨result, after⟩
  rcases again with ⟨resultAgain, afterAgain⟩
  rcases endAsOne.result with agrees | _
  · exact .some (agrees.settle domain stale)
  · exact .none

variable (same : lower name = lower other) (surroundings : Surroundings)
include same

/-- A user is looked up in the same way under all spellings of the name. -/
theorem askProfile_eq_of_lower_eq (domain : String) : askProfile other domain = askProfile name domain := by
  have sameAnswer : Profile.Answer.ofExchange other = Profile.Answer.ofExchange name :=
    funext (Profile.ofExchange_eq_of_lower_eq same.symm)
  rw [askProfile, askProfile, same, sameAnswer]

theorem endAsOne_run_fetch (windows : Windows) (domain : String) (world : World) :
    EndAsOne name other ((fetch windows name domain).toProgram.run surroundings world)
      ((fetch windows other domain).toProgram.run surroundings world) := by
  rw [run_fetch, run_fetch, askProfile_eq_of_lower_eq same, missKey_eq_of_lower_eq same]
  rcases (discover windows domain).toProgram.run surroundings world with ⟨_ | failure | declaration, found⟩
  · exact .refl _
  · exact .refl _
  · dsimp only
    rcases (askProfile name domain).toProgram.run surroundings found with
      ⟨_ | failure | profile | _ | _, answered⟩
    · exact .refl _
    · exact .refl _
    · exact .refl _
    · refine ⟨?_, rfl⟩
      dsimp only
      cases (answered.remembering surroundings (missKey other domain) windows.missLifetime).1 with
      | none => exact .none
      | some _ => exact .some (.error (.remote domain))
    · exact .refl _

theorem endAsOne_run_resolveRemote (windows : Windows) (domain : String) (world : World) :
    EndAsOne name other ((resolveRemote windows name domain).toProgram.run surroundings world)
      ((resolveRemote windows other domain).toProgram.run surroundings world) := by
  have sameStub : world.stubFound windows.stubLifetime other domain =
      world.stubFound windows.stubLifetime name domain := by
    rw [World.stubFound, World.stubFound, World.readTables, World.readTables,
      Tables.stub?_eq_of_lower_eq same.symm]
  rw [run_resolveRemote, run_resolveRemote, sameStub, missKey_eq_of_lower_eq same]
  cases world.stubFound windows.stubLifetime name domain with
  | error failure => exact .refl _
  | ok cached =>
    have fetched := endAsOne_run_fetch same surroundings windows domain
      (world.counted (.cacheAccess "user_stub" false)).called
    cases cached with
    | fresh user => exact .refl _
    | stale user =>
      dsimp only
      split
      · exact ⟨.some (.error (.remote domain)), rfl⟩
      · exact fetched.settle domain _
    | missing =>
      dsimp only
      split
      · exact ⟨.some (.error (.remote domain)), rfl⟩
      · exact fetched.settle domain _

/-- An account is found under all spellings of its name. -/
theorem agrees_accountAnswer (service : Service) (world : World) :
    Agrees name other (world.accountAnswer service name) (world.accountAnswer service other) := by
  rw [World.accountAnswer, World.accountAnswer, World.readTables, World.readTables,
    Tables.user?_eq_of_lower_eq same.symm]
  split
  · dsimp only [Except.bind]
    cases world.tables.user? service.home.id name with
    | none => exact .error .account
    | some user => exact .refl _
  · exact .refl _

end Resolution

/-! ### Spellings of one handle -/

/-- A user is resolved in the same way under all spellings of the name and of the domain. -/
theorem Resolution.endAsOne_run_resolveHandle (surroundings : Surroundings) (service : Service)
    {handle again : Handle} (sameName : lower handle.username = lower again.username)
    (sameDomain : service.domainOf handle = service.domainOf again) (world : World) :
    EndAsOne handle.username again.username
      ((resolveHandle service handle).toProgram.run surroundings world)
      ((resolveHandle service again).toProgram.run surroundings world) := by
  rw [run_resolveHandle, run_resolveHandle, Username.validate_eq_of_lower_eq sameName.symm]
  cases Username.validate handle.username with
  | error failure => exact .refl _
  | ok _ =>
    rcases service.foreignDomain?_cases handle with ⟨none, isHome⟩ | ⟨text, foreign, normal, isForeign⟩
    · rcases service.foreignDomain?_cases again with ⟨noneAgain, -⟩ | ⟨-, -, -, isForeignAgain⟩
      · rw [none, noneAgain]
        exact ⟨.some (agrees_accountAnswer sameName service world), rfl⟩
      · exact absurd (sameDomain.symm.trans isHome) isForeignAgain
    · rcases service.foreignDomain?_cases again with
        ⟨-, isHomeAgain⟩ | ⟨textAgain, foreignAgain, normalAgain, -⟩
      · exact absurd (sameDomain.trans isHomeAgain) isForeign
      · have sameNormal : DomainName.normalize textAgain = DomainName.normalize text :=
          normalAgain.trans (sameDomain.symm.trans normal.symm)
        have sameAcceptance : acceptDomain service.blocked textAgain = acceptDomain service.blocked text := by
          rw [acceptDomain, acceptDomain, DomainName.validate_eq_of_normalize_eq sameNormal]
        rw [foreign, foreignAgain]
        dsimp only
        rw [World.permission_eq_of_normalize_eq sameNormal, sameAcceptance]
        cases world.permission service.home.id text with
        | error failure => exact .refl _
        | ok _ =>
          cases acceptDomain service.blocked text with
          | error failure => exact .refl _
          | ok place =>
            exact endAsOne_run_resolveRemote sameName surroundings service.windows place world

/-- Texts that name one user of one domain, whatever case the name is in, are resolved in the same way. -/
theorem Site.endAsOne_resolve (site : Site) {text again : String}
    (sameName : lower (Handle.read text).username = lower (Handle.read again).username)
    (sameDomain : site.service.domainOf (Handle.read text) = site.service.domainOf (Handle.read again)) :
    EndAsOne (Handle.read text).username (Handle.read again).username (site.resolve text)
      (site.resolve again) := by
  have sameForeign : (foreignDomain? site.service (Handle.read again)).isSome =
      (foreignDomain? site.service (Handle.read text)).isSome := by
    rw [site.service.isSome_foreignDomain?, site.service.isSome_foreignDomain?, sameDomain]
  have handled := endAsOne_run_resolveHandle site.surroundings site.service sameName sameDomain site.world
  rw [resolve, resolve, run_resolve, run_resolve, sameForeign]
  revert handled
  rcases (resolveHandle site.service (Handle.read text)).toProgram.run site.surroundings site.world with
    ⟨result, after⟩
  rcases (resolveHandle site.service (Handle.read again)).toProgram.run site.surroundings site.world with
    ⟨resultAgain, afterAgain⟩
  rintro ⟨agrees | _, rfl⟩
  · refine ⟨.some agrees, ?_⟩
    dsimp only
    rw [agrees.resolutionEvent_eq]
  · exact ⟨.none, rfl⟩

/-- Nothing is requested for an account of this instance. -/
theorem Site.requested_resolve_of_isHome (site : Site) {text : String}
    (isHome : site.service.domainOf (Handle.read text) = site.service.domain) :
    (site.resolve text).2.requested = site.world.requested := by
  obtain ⟨-, requested, -, -⟩ :=
    Service.run_resolve_counts site.surroundings site.service text site.world
  rw [resolve, requested]
  rcases run_resolveHandle_cases site.surroundings site.service (Handle.read text) site.world with
    ⟨domain, name, through, -⟩ | ⟨result, stays, -⟩
  · have isName := (Service.domainOf_of_isLetThrough through).symm.trans isHome
    have normal := DomainName.normalize_of_validate through.isAccepted
    exact absurd (normal.trans isName) through.isForeign
  · rw [stays]

/-- A handle is resolved in the same way whatever it is written like. Two texts may be two spellings of
one handle: each written with an at sign in front or without, with any blanks around it, the usernames
equal up to case, and the domains named the same, where none is as good as that of this instance. Then
the world is left the same by both, at every site; and the answers are the same, or failures of one kind
that differ at most in the name. An account of this instance is asked for nowhere else. -/
theorem Site.resolve_of_spellings (site : Site) {handle other : Handle} {text again : String}
    (written : handle.IsWritten text) (writtenAgain : other.IsWritten again)
    (sameName : lower handle.username = lower other.username)
    (sameDomain : site.service.domainOf handle = site.service.domainOf other) :
    (site.resolve again).2 = (site.resolve text).2 ∧
    Option.Rel (Agrees handle.username other.username) (site.resolve text).1 (site.resolve again).1 ∧
    (∀ failure failureAgain, (site.resolve text).1 = some (.error failure) →
      (site.resolve again).1 = some (.error failureAgain) →
      failureAgain.kind = failure.kind ∧
        (failureAgain.message = failure.message ∨
          ∃ front back, failure.message = front ++ handle.username ++ back ∧
            failureAgain.message = front ++ other.username ++ back)) ∧
    (site.service.domainOf handle = site.service.domain →
      (site.resolve text).2.requested = site.world.requested) := by
  have isBare := written.read
  have isBareAgain := writtenAgain.read
  have bareDomain : site.service.domainOf (Handle.read text) = site.service.domainOf handle := by
    rw [isBare, Service.domainOf_bare]
  have bareDomainAgain : site.service.domainOf (Handle.read again) = site.service.domainOf other := by
    rw [isBareAgain, Service.domainOf_bare]
  have bareName : (Handle.read text).username = handle.username := by
    rw [isBare, Handle.bare]
  have bareNameAgain : (Handle.read again).username = other.username := by
    rw [isBareAgain, Handle.bare]
  have sameBareName : lower (Handle.read text).username = lower (Handle.read again).username := by
    rw [bareName, bareNameAgain, sameName]
  have endAsOne := site.endAsOne_resolve sameBareName
    (bareDomain.trans (sameDomain.trans bareDomainAgain.symm))
  rw [bareName, bareNameAgain] at endAsOne
  refine ⟨endAsOne.world, endAsOne.result, fun failure failureAgain failed failedAgain => ?_, fun isHome =>
    site.requested_resolve_of_isHome (bareDomain.trans isHome)⟩
  have agrees := endAsOne.result
  rw [failed, failedAgain] at agrees
  obtain ⟨_ | respells⟩ := agrees
  exact ⟨respells.kind_eq, respells.message_eq⟩

/-- Two spellings of one handle bring the same profile from another instance. -/
theorem Site.resolve_of_two_spellings :
    ∃ user, (Site.elsewhere.resolve "alice@other.example").1 =
        some (.ok ⟨user, "other.example", .remote⟩) ∧
      (Site.elsewhere.resolve " @ALICE@Other.Example. ").1 =
        some (.ok ⟨user, "other.example", .remote⟩) ∧
      (Site.elsewhere.resolve " @ALICE@Other.Example. ").2 =
        (Site.elsewhere.resolve "alice@other.example").2 := by
  have written : Handle.IsWritten ⟨"alice", some "other.example"⟩ "alice@other.example" :=
    ⟨Username.isWord_of_validate (by decide), [], [], [], by decide, nofun, Or.inl rfl, nofun⟩
  have isBlank : ∀ letter ∈ [' '], isBlank letter = true := List.forall_mem_singleton.mpr rfl
  have writtenAgain : Handle.IsWritten ⟨"ALICE", some "Other.Example."⟩ " @ALICE@Other.Example. " :=
    ⟨Username.isWord_of_validate (by decide), [' '], ['@'], [' '], by decide, isBlank, Or.inr rfl, isBlank⟩
  obtain ⟨sameWorld, agrees, -, -⟩ :=
    Site.elsewhere.resolve_of_spellings written writtenAgain (by decide) (by decide)
  obtain ⟨user, answer⟩ := Site.exists_resolve_answered
  refine ⟨user, answer, ?_, sameWorld⟩
  rw [answer] at agrees
  revert agrees
  generalize (Site.elsewhere.resolve " @ALICE@Other.Example. ").1 = result
  rintro ⟨_ | _⟩
  rfl

end HandleFederation
