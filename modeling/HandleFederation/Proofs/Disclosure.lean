/-
This file says what an instance shows of its users. A lookup is answered from the mode and
from the accounts that were registered, and from nothing else: not from the profiles of
other instances, which stand in the same table and may have the same usernames. What is
shown of an account is what was registered, and whoever has asked for it accepts it, as long
as its texts keep the limits of a profile.
-/

import HandleFederation.Proofs.AcceptedDocument
import HandleFederation.Proofs.LastingAccounts
import HandleFederation.Proofs.SharedAccounts

namespace HandleFederation

open Program Resolution Text

variable {home : Instance} {latest : Startup}

/-! ### The mode of an instance -/

namespace Threads

variable {threads later : Threads Report}

theorem GoesOn.hasModes (goesOn : GoesOn home threads later) (hasModes : threads.world.tables.HasModes) :
    later.world.tables.HasModes := by
  cases goesOn with
  | called errand keepsDomain hasStarted => exact hasModes
  | meanwhile _ _ _ _ _ => exact hasModes
  | advanced surroundings place =>
    by_cases isStep : ∃ command next, threads.programs[place]? = some (some (.step command next))
    · obtain ⟨command, next, isThere⟩ := isStep
      rw [advanceAt_of_step isThere]
      exact hasModes.canBecome (World.canBecome_carryOut surroundings command)
    · rw [advanceAt_of_not_step fun command next isThere => isStep ⟨command, next, isThere⟩]
      exact hasModes

/-- Every mode that is stored can be read at any time. -/
theorem Arises.hasModes (arises : threads.Arises home) : threads.world.tables.HasModes := by
  obtain ⟨first, isFirst, leads⟩ := arises
  induction leads with
  | refl =>
    cases isFirst with
    | @wrote configuration surroundings store now time home world wrote =>
      have reachable := (World.IsReachable.fresh store now).carriedOut surroundings
        (.writeLocal (Service.localSettings configuration) time)
      rw [wrote] at reachable
      exact reachable.hasModes
  | tail _ goesOn inductionHypothesis => exact goesOn.hasModes inductionHypothesis

theorem Arises.exists_hasMode (arises : threads.Arises home) :
    ∃ mode, threads.world.HasMode home.id mode := by
  obtain ⟨latest, isHomeOf⟩ := arises.isInOrder.isHomeOf
  obtain ⟨row, isRow, isHome⟩ := isHomeOf.hasHome.isThere
  rw [← isHome.id]
  exact isHomeOf.isSound.exists_hasMode arises.hasModes isRow

end Threads

/-! ### What is shown -/

/-- An account was registered: under this username and with this display name. -/
def Threads.HasRegistered (threads : Threads Report) (username : String) (displayName : Option String)
    (user : User) : Prop :=
  ∃ place, threads.Ended place (.registered username displayName (.ok user))

/-- A response shows a profile to somebody who has asked for a username, and who accepts it just when its
texts are neither too short nor too long. -/
structure HttpResponse.Shows (username : String) (profile : Profile) (response : HttpResponse) : Prop where
  body : response.body = profile.toJson.toText
  accepted_iff : Profile.ofBody? username (Utf8.bytes response.body) = some profile ↔ profile.KeepsLimits

/-- What comes of a lookup of a username at an instance in a mode. -/
structure HttpResponse.Discloses (threads : Threads Report) (mode : FederationMode) (username : String)
    (response : HttpResponse) : Prop where
  isForbidden : response.status = 403 ↔ mode = .closed
  isRefused : response.status = 400 ↔ mode ≠ .closed ∧ Username.validate username ≠ .ok ()
  isMissing : response.status = 404 ↔ mode ≠ .closed ∧ Username.validate username = .ok () ∧
    ∀ name displayName user, threads.HasRegistered name displayName user → lower name ≠ lower username
  isEmpty : response.status = 404 → response.body = ""
  isFound : response.status = 200 ↔ mode ≠ .closed ∧ Username.validate username = .ok () ∧
    ∃ name displayName user, threads.HasRegistered name displayName user ∧ lower name = lower username
  shows : response.status = 200 → ∀ name displayName user, threads.HasRegistered name displayName user →
    lower name = lower username →
      response.Shows username
        ⟨user.id, name, displayName, user.avatarId, user.bio, some user.createdAt.toWholeSecondsText⟩ ∧
      (user.createdAt.IsInFourDigits →
        Timestamp.ofText? user.createdAt.toWholeSecondsText = some ⟨user.createdAt.seconds, 0⟩)

namespace HttpResponse.Discloses

variable {threads : Threads Report} {mode : FederationMode} {username : String} {response : HttpResponse}

theorem of_closed (isClosed : mode = .closed) (status : response.status = 403) :
    response.Discloses threads mode username := by
  constructor <;> simp [status, isClosed]

theorem of_invalid (takesPart : mode ≠ .closed) (isInvalid : Username.validate username ≠ .ok ())
    (status : response.status = 400) : response.Discloses threads mode username := by
  constructor <;> simp [status, takesPart, isInvalid]

theorem of_nobody (takesPart : mode ≠ .closed) (isValid : Username.validate username = .ok ())
    (isNobody : ∀ name displayName user, threads.HasRegistered name displayName user →
      lower name ≠ lower username)
    (status : response.status = 404) (isEmpty : response.body = "") :
    response.Discloses threads mode username where
  isForbidden := by simp [status, takesPart]
  isRefused := by simp [status, isValid]
  isMissing := iff_of_true status ⟨takesPart, isValid, isNobody⟩
  isEmpty _ := isEmpty
  isFound := by
    refine iff_of_false (by simp [status]) fun ⟨_, _, name, displayName, user, registered, named⟩ => ?_
    exact isNobody name displayName user registered named
  shows isShown := by simp [status] at isShown

theorem of_account (takesPart : mode ≠ .closed) (isValid : Username.validate username = .ok ())
    {name : String} {displayName : Option String} {user : User}
    (registered : threads.HasRegistered name displayName user) (named : lower name = lower username)
    (status : response.status = 200)
    (shows : ∀ name displayName user, threads.HasRegistered name displayName user →
      lower name = lower username → response.Shows username
        ⟨user.id, name, displayName, user.avatarId, user.bio, some user.createdAt.toWholeSecondsText⟩ ∧
      (user.createdAt.IsInFourDigits →
        Timestamp.ofText? user.createdAt.toWholeSecondsText = some ⟨user.createdAt.seconds, 0⟩)) :
    response.Discloses threads mode username where
  isForbidden := by simp [status, takesPart]
  isRefused := by simp [status, isValid]
  isMissing := by
    refine iff_of_false (by simp [status]) fun ⟨_, _, isNobody⟩ => ?_
    exact isNobody name displayName user registered named
  isEmpty := by simp [status]
  isFound := iff_of_true status ⟨takesPart, isValid, name, displayName, user, registered, named⟩
  shows _ := shows

end HttpResponse.Discloses

/-- A profile is accepted as it was written, if it has the username and keeps the limits. -/
theorem Profile.ofBody?_toText_eq_some_iff {profile : Profile} {username : String}
    (named : lower profile.username = lower username) :
    ofBody? username (Utf8.bytes profile.toJson.toText) = some profile ↔ profile.KeepsLimits := by
  have isNamed : sameUpToCase profile.username username = true := (sameUpToCase_iff _ _).mpr named
  rw [ofBody?, profile.reads_toText, ← isWithinBounds_iff]
  dsimp only
  rw [isNamed, Bool.and_true]
  split <;> simp_all

namespace Threads

variable {threads : Threads Report} {username : String}

/-- A name is found just when an account was registered under a spelling of it, and then as that account. -/
theorem IsInOrder.user?_eq_some_iff (inOrder : threads.IsInOrder home) {user : User} :
    threads.world.tables.user? home.id username = some user ↔
      ∃ name displayName, threads.HasRegistered name displayName user ∧ lower name = lower username := by
  obtain ⟨latest, isHomeOf⟩ := inOrder.isHomeOf
  rw [isHomeOf.isSound.tables.user?_eq_some_iff_usersOf]
  constructor
  · rintro ⟨isThere, named⟩
    obtain ⟨place, ended⟩ := inOrder.reported user isThere
    obtain ⟨-, isAccount, -⟩ := inOrder.granted _ _ _ _ ended
    have sameName := (Username.nameKey_eq_iff isAccount.validUsername).mp named.symm
    exact ⟨user.username, user.displayName, ⟨place, ended⟩, sameName.symm⟩
  · rintro ⟨name, displayName, ⟨place, ended⟩, named⟩
    obtain ⟨isAccount, -, rfl, -⟩ := inOrder.granted _ _ _ _ ended
    exact ⟨isAccount, nameKey_eq_of_lower_eq named⟩

/-- The answer to a lookup is given from the mode and the accounts. -/
theorem IsInOrder.discloses (inOrder : threads.IsInOrder home) (mode : FederationMode) (username : String)
    (request : HttpRequest) :
    (HttpResponse.ofAnswer request (.toLookup mode username (threads.world.tables.user? home.id username))
      []).Discloses threads mode username := by
  by_cases isClosed : mode = .closed
  · have isAnswer : Answer.toLookup mode username (threads.world.tables.user? home.id username) =
        .ofFailure .federationDisabled := if_pos isClosed
    rw [isAnswer]
    exact .of_closed isClosed rfl
  · cases isValid : Username.validate username with
    | error failure =>
      obtain ⟨detail, rfl⟩ := Username.validate_eq_error isValid
      have isAnswer : Answer.toLookup mode username (threads.world.tables.user? home.id username) =
          .ofFailure (.invalidHandle detail) := by rw [Answer.toLookup, if_neg isClosed, isValid]
      rw [isAnswer]
      refine .of_invalid isClosed (fun isOk => ?_) rfl
      rw [isOk] at isValid
      cases isValid
    | ok _ =>
      have isAnswer : Answer.toLookup mode username (threads.world.tables.user? home.id username) =
          .ofLookup (threads.world.tables.user? home.id username) := by
        rw [Answer.toLookup, if_neg isClosed, isValid]
      rw [isAnswer]
      cases found : threads.world.tables.user? home.id username with
      | none =>
        refine .of_nobody isClosed isValid (fun name displayName user registered named => ?_) rfl rfl
        have isSomebody := inOrder.user?_eq_some_iff.mpr ⟨name, displayName, registered, named⟩
        rw [found] at isSomebody
        cases isSomebody
      | some user =>
        obtain ⟨name, displayName, registered, named⟩ := inOrder.user?_eq_some_iff.mp found
        refine .of_account isClosed isValid registered named rfl fun otherName otherDisplay other isOther same =>
          ?_
        have alsoFound := inOrder.user?_eq_some_iff.mpr ⟨otherName, otherDisplay, isOther, same⟩
        obtain rfl := Option.some_inj.mp (found.symm.trans alsoFound)
        obtain ⟨place, ended⟩ := isOther
        obtain ⟨-, isAccount, rfl, rfl⟩ := inOrder.granted _ _ _ _ ended
        refine ⟨⟨rfl, Profile.ofBody?_toText_eq_some_iff same⟩, fun isInFourDigits => ?_⟩
        exact Timestamp.ofText?_toWholeSecondsText isInFourDigits isAccount.notLeap

end Threads

/-! ### Lookups -/

/-- Who is found under a name is known from the users of the row. -/
theorem Tables.user?_eq_of_usersOf_eq {tables other : Tables} {instanceId : String}
    (same : other.usersOf instanceId = tables.usersOf instanceId) (username : String) :
    other.user? instanceId username = tables.user? instanceId username := by
  have among (tables : Tables) : tables.user? instanceId username =
      (tables.usersOf instanceId).find? fun user => sameName user.username username := by
    simp only [user?, usersOf, List.find?_filter, Bool.decide_and, Bool.decide_eq_true]
    rfl
  rw [among, among, same]

/-- A service counts the request and answers it from its mode and the account that is found. -/
theorem Service.run_answer_lookup {service : Service} {world : World} {mode : FederationMode}
    (hasMode : world.HasMode service.home.id mode) {request : HttpRequest} (isGet : request.method = "GET")
    (isPath : request.path = Endpoint.lookup.path) {username : String}
    (asked : Form.field "username" request.query.toList = .ok username) (surroundings : Surroundings) :
    ∃ event, (service.answer request).run surroundings world =
      (some (.ofAnswer request (.toLookup mode username (world.tables.user? service.home.id username)) []),
        world.counted event) :=
  service.run_answer surroundings request isGet .lookup isPath (service.run_lookup hasMode asked surroundings)

namespace Threads

variable {threads : Threads Report}

/-- At every moment, whatever else goes on and whatever is known of users of other instances, a lookup is
answered from the mode that is stored and from the accounts that were registered. Another world with the same
mode and the same accounts gives the same answer, and but for the counts nothing changes. -/
theorem Arises.lookup_discloses_accounts (arises : threads.Arises home) {service : Service}
    (hasStarted : threads.HasStarted service) {request : HttpRequest} (isGet : request.method = "GET")
    (isPath : request.path = Endpoint.lookup.path) {username : String}
    (asked : Form.field "username" request.query.toList = .ok username) (surroundings : Surroundings) :
    ∃ mode response event, threads.world.HasMode home.id mode ∧
      (service.answer request).run surroundings threads.world = (some response, threads.world.counted event) ∧
      response.Discloses threads mode username ∧
      ∀ other : World, other.HasMode home.id mode → other.tables.usersOf home.id = threads.accounts home →
        ∀ elsewhere, ((service.answer request).run elsewhere other).1 = some response := by
  have inOrder := arises.isInOrder
  obtain ⟨sameId, -⟩ := inOrder.isOf hasStarted
  obtain ⟨mode, hasMode⟩ := arises.exists_hasMode
  rw [← sameId] at hasMode
  obtain ⟨event, run⟩ := Service.run_answer_lookup hasMode isGet isPath asked surroundings
  refine ⟨mode, _, event, sameId ▸ hasMode, run, sameId ▸ inOrder.discloses mode username request, ?_⟩
  intro other hasModeThere sameAccounts elsewhere
  rw [← sameId] at hasModeThere
  obtain ⟨counted, runThere⟩ := Service.run_answer_lookup hasModeThere isGet isPath asked elsewhere
  rw [runThere, sameId, Tables.user?_eq_of_usersOf_eq sameAccounts]

/-- A lookup of a user, whose username is asked for in upper case. -/
def askingForAlice : HttpRequest :=
  ⟨"GET", Endpoint.lookup.path, "username=ALICE", []⟩

/-- The account is shown with the spelling under which it was registered. -/
theorem lookup_discloses_alice :
    withAlice.Arises Site.empty.service.home ∧ withAlice.HasStarted Site.empty.service ∧
    Form.field "username" askingForAlice.query.toList = .ok "ALICE" ∧
    ∃ response event, (Site.empty.service.answer askingForAlice).run .silent withAlice.world =
        (some response, withAlice.world.counted event) ∧
      response.status = 200 ∧
      response.Shows "ALICE" ⟨identifier 1, "Alice", none, none, none,
        some (Timestamp.ofNanoseconds 0).toWholeSecondsText⟩ := by
  have hasStarted : withAlice.HasStarted Site.empty.service := ⟨0, rfl⟩
  have asked : Form.field "username" askingForAlice.query.toList = .ok "ALICE" := by decide +kernel
  have stored : withAlice.world.HasMode Site.empty.service.home.id .anyone := rfl
  have isValid : Username.validate "ALICE" = .ok () := by decide
  have registered : withAlice.HasRegistered "Alice" none
      (.newAccount (identifier 1) Site.empty.service.home.id "Alice" none (.ofNanoseconds 0)) := ⟨1, rfl⟩
  have named : lower "Alice" = lower "ALICE" := by decide
  obtain ⟨mode, response, event, hasMode, run, discloses, -⟩ :=
    arises_withAlice.lookup_discloses_accounts hasStarted rfl rfl asked .silent
  have sameMode : FederationMode.anyone = mode := Except.ok.inj (stored.symm.trans hasMode)
  have takesPart : mode ≠ .closed := sameMode ▸ FederationMode.noConfusion
  have isFound := discloses.isFound.mpr ⟨takesPart, isValid, _, _, _, registered, named⟩
  exact ⟨arises_withAlice, hasStarted, asked, response, event, run, isFound,
    (discloses.shows isFound _ _ _ registered named).1⟩

end Threads

end HandleFederation
