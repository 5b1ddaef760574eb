/-
This file says that an account that has been registered is there for good. A registration is
settled by the accounts that are there in the moment in which it ends, whatever else is going
on, so that of several ones for spellings of one free name just one is granted. From then on
every service of the instance finds the account under every spelling of its name, in every
moment that is still to come and for every call that is begun by then.
-/

import HandleFederation.Proofs.Registration

namespace HandleFederation

open Program Resolution Text

variable {home : Instance} {latest : Startup}

/-! ### Calls that come to their end -/

namespace Program

variable {Result : Type}

/-- A program does not break down and comes to a result of a kind in so many turns at most, as long as the
worlds that it finds in its turns are of a kind. -/
inductive ComesTo (isWorld : World → Prop) (isEnd : Result → Prop) : Nat → Program Result → Prop
  | done {turns : Nat} {result : Result} (ends : isEnd result) : ComesTo isWorld isEnd turns (.done result)
  | step {turns : Nat} {command : Command} {next : Reply command → Program Result}
    (survives : ∀ world, isWorld world → ∀ surroundings, (world.carryOut surroundings command).1.isSome)
    (later : ∀ world, isWorld world → ∀ surroundings reply,
      (world.carryOut surroundings command).1 = some reply → ComesTo isWorld isEnd turns (next reply)) :
    ComesTo isWorld isEnd (turns + 1) (.step command next)

namespace ComesTo

variable {isWorld : World → Prop} {isEnd : Result → Prop} {turns : Nat}

theorem succ {program : Program Result} (comesTo : program.ComesTo isWorld isEnd turns) :
    program.ComesTo isWorld isEnd (turns + 1) := by
  induction comesTo with
  | done ends => exact .done ends
  | step survives _ inductionHypothesis => exact .step survives inductionHypothesis

theorem exists_reply {command : Command} {next : Reply command → Program Result}
    (comesTo : (Program.step command next).ComesTo isWorld isEnd (turns + 1)) {world : World}
    (isThere : isWorld world) (surroundings : Surroundings) : ∃ reply,
      (world.carryOut surroundings command).1 = some reply ∧ (next reply).ComesTo isWorld isEnd turns := by
  cases comesTo with
  | step survives later =>
    obtain ⟨reply, replied⟩ := Option.isSome_iff_exists.mp (survives world isThere surroundings)
    exact ⟨reply, replied, later world isThere surroundings reply replied⟩

theorem isEnd_of_done {result : Result} (comesTo : (Program.done result).ComesTo isWorld isEnd turns) :
    isEnd result := by
  cases comesTo with
  | done ends => exact ends

end ComesTo

end Program

namespace Threads

variable {threads later : Threads Report} {place : Nat} {program : Program Report}

/-- Two turns of its own bring the program at a place to a report of a kind. -/
def EndsSoon (threads : Threads Report) (place : Nat) (isEnd : Report → Prop) : Prop :=
  ∀ first second, ∃ report, isEnd report ∧
    ((threads.advanceAt first place).advanceAt second place).Ended place report

/-- What a program is after its turn. -/
theorem exists_getElem?_advanceAt {holds : Program Report → Prop}
    (isThere : threads.programs[place]? = some (some program)) (surroundings : Surroundings)
    (rest : ∀ report, program = .done report → holds (.done report))
    (turn : ∀ command next, program = .step command next → ∃ reply,
      (threads.world.carryOut surroundings command).1 = some reply ∧ holds (next reply)) :
    ∃ next, (threads.advanceAt surroundings place).programs[place]? = some (some next) ∧ holds next := by
  have isPlace : place < threads.programs.length := (List.getElem?_eq_some_iff.mp isThere).1
  cases program with
  | done report =>
    rw [advanceAt_of_not_step fun command next isStep => nomatch isThere.symm.trans isStep]
    exact ⟨_, isThere, rest report rfl⟩
  | step command next =>
    obtain ⟨reply, replied, holdsThen⟩ := turn command next rfl
    rw [advanceAt_of_step isThere, List.getElem?_set_self isPlace, replied]
    exact ⟨_, rfl, holdsThen⟩

/-- A program that comes to its end in some more turns needs one less after a turn. -/
theorem exists_comesTo_advanceAt {isWorld : World → Prop} {isEnd : Report → Prop} {turns : Nat}
    (isThere : threads.programs[place]? = some (some program))
    (comesTo : program.ComesTo isWorld isEnd (turns + 1)) (isHere : isWorld threads.world)
    (surroundings : Surroundings) :
    ∃ next, (threads.advanceAt surroundings place).programs[place]? = some (some next) ∧
      next.ComesTo isWorld isEnd turns := by
  refine exists_getElem?_advanceAt isThere surroundings (fun report same => ?_) fun command next same => ?_
  · subst same
    exact .done comesTo.isEnd_of_done
  · subst same
    exact comesTo.exists_reply isHere surroundings

/-- What is true of a program, and stays so in each of its turns, is true of it in every later moment. -/
theorem LeadsTo.exists_getElem? {holds : Program Report → Prop} (leads : LeadsTo home threads later)
    (isThere : threads.programs[place]? = some (some program)) (before : holds program)
    (turn : ∀ moment, LeadsTo home threads moment → ∀ surroundings command next, holds (.step command next) →
      ∃ reply, (moment.world.carryOut surroundings command).1 = some reply ∧ holds (next reply)) :
    ∃ next, later.programs[place]? = some (some next) ∧ holds next := by
  induction leads with
  | refl => exact ⟨program, isThere, before⟩
  | @tail moment _ leads goesOn inductionHypothesis =>
    obtain ⟨next, isNext, holdsThen⟩ := inductionHypothesis
    cases goesOn with
    | called errand keepsDomain hasStarted =>
      refine ⟨next, ?_, holdsThen⟩
      rw [add, List.getElem?_append_left (List.getElem?_eq_some_iff.mp isNext).1]
      exact isNext
    | meanwhile _ _ _ _ _ => exact ⟨next, isNext, holdsThen⟩
    | advanced surroundings other =>
      by_cases same : other = place
      · subst same
        exact exists_getElem?_advanceAt isNext surroundings (fun _ isDone => isDone ▸ holdsThen)
          fun command next isStep => turn moment leads surroundings command next (isStep ▸ holdsThen)
      · have stays : (moment.move surroundings (.step other)).programs[place]? = moment.programs[place]? :=
          getElem?_move_of_ne fun turns => same (Move.step.inj turns)
        exact ⟨next, stays.trans isNext, holdsThen⟩

theorem getElem?_add (threads : Threads Report) (program : Program Report) :
    (threads.add program).programs[threads.programs.length]? = some (some program) :=
  List.getElem?_concat_length

/-- A program that comes to its end in two turns does so from every moment after it was begun. -/
theorem LeadsTo.endsSoon {isWorld : World → Prop} {isEnd : Report → Prop}
    (leads : LeadsTo home (threads.add program) later) (comesTo : program.ComesTo isWorld isEnd 2)
    (always : ∀ moment, LeadsTo home (threads.add program) moment → isWorld moment.world) :
    later.EndsSoon threads.programs.length isEnd := by
  intro first second
  have leadsOn := leads.tail (.advanced later first threads.programs.length)
  obtain ⟨now, isNow, endsInTwo⟩ := leads.exists_getElem? (getElem?_add threads program) comesTo
    fun moment leads surroundings command next endsInTwo =>
      (endsInTwo.exists_reply (always moment leads) surroundings).imp fun _ => .imp_right .succ
  obtain ⟨next, isNext, endsInOne⟩ := exists_comesTo_advanceAt isNow endsInTwo (always later leads) first
  obtain ⟨last, isLast, hasEnded⟩ := exists_comesTo_advanceAt isNext endsInOne (always _ leadsOn) second
  cases hasEnded with
  | done ends => exact ⟨_, ends, isLast⟩

end Threads

/-! ### What settles a registration -/

/-- What comes of a registration when one world becomes another one by it. -/
structure World.Settles (home : Instance) (username : String) (displayName : Option String)
    (before after : World) (result : Except Failure User) : Prop where
  /-- It succeeds just when the name is valid and no account has it. -/
  succeeds_iff : (∃ user, result = .ok user) ↔ Username.validate username = .ok () ∧
    ∀ other ∈ before.tables.usersOf home.id, lower other.username ≠ lower username
  /-- An account as it was asked for is then added to those that are there. -/
  added : ∀ user, result = .ok user → user.IsAccount ∧ user.username = username ∧
    user.displayName = displayName ∧
    after.tables.usersOf home.id = before.tables.usersOf home.id ++ [user]
  /-- It fails without a change of any table, for the name itself or because it is taken. -/
  fails : ∀ failure, result = .error failure → after.tables = before.tables ∧
    ((Username.validate username = .error failure ∧ ∃ detail, failure = .invalidHandle detail) ∨
      (Username.validate username = .ok () ∧ failure = .taken username))

theorem Username.validate_eq_error {username : String} {failure : Failure}
    (refused : validate username = .error failure) : ∃ detail, failure = .invalidHandle detail := by
  unfold validate at refused
  split at refused
  · cases refused
    exact ⟨_, rfl⟩
  · cases refused

namespace World.Settles

variable {before after : World} {username : String} {displayName : Option String}

theorem of_ok {user : User}
    (isFree : ∀ other ∈ before.tables.usersOf home.id, lower other.username ≠ lower username)
    (isAccount : user.IsAccount) (named : user.username = username) (shown : user.displayName = displayName)
    (added : after.tables.usersOf home.id = before.tables.usersOf home.id ++ [user]) :
    Settles home username displayName before after (.ok user) := by
  refine ⟨iff_of_true ⟨user, rfl⟩ ⟨?_, isFree⟩, fun other same => ?_, fun _ isError => nomatch isError⟩
  · rw [← named]
    exact isAccount.validUsername
  · cases same
    exact ⟨isAccount, named, shown, added⟩

theorem of_error {failure : Failure} (unchanged : after.tables = before.tables)
    (refuses : Username.validate username = .error failure ∨
      (Username.validate username = .ok () ∧ failure = .taken username ∧
        ∃ user ∈ before.tables.usersOf home.id, lower user.username = lower username)) :
    Settles home username displayName before after (.error failure) := by
  refine ⟨iff_of_false (fun ⟨_, isOk⟩ => nomatch isOk) ?_, (fun _ isOk => nomatch isOk), ?_⟩
  · rintro ⟨isValid, isFree⟩
    rcases refuses with isInvalid | ⟨-, -, user, isAccount, named⟩
    · exact nomatch isValid.symm.trans isInvalid
    · exact isFree user isAccount named
  · intro other same
    cases same
    refine ⟨unchanged, refuses.imp (fun isInvalid => ?_) fun ⟨isValid, isTaken, _⟩ => ⟨isValid, isTaken⟩⟩
    exact ⟨isInvalid, Username.validate_eq_error isInvalid⟩

end World.Settles

/-- A registration that nothing comes in between of is settled by the accounts that are there. -/
theorem Service.run_register_settles {service : Service} (isOf : service.IsOf home) {world : World}
    (isHomeOf : world.IsHomeOf home latest) (surroundings : Surroundings) (username : String)
    (displayName : Option String) : ∃ result after,
      (service.register username displayName).toProgram.run surroundings world = (some result, after) ∧
        world.Settles home username displayName after result := by
  rw [run_register, isOf.1]
  split
  · rename_i failure refused
    exact ⟨_, _, rfl, .of_error rfl (.inl refused)⟩
  · rename_i isValid
    rcases isHomeOf.carryOut_writeAccount surroundings isValid displayName world.time with
      ⟨taken, isAccount, named, carried⟩ | ⟨isFree, user, isNew, carried⟩
    · exact ⟨_, _, carried, .of_error rfl (.inr ⟨isValid, rfl, taken, isAccount, named⟩)⟩
    · subst isNew
      refine ⟨_, _, carried, .of_ok isFree ?_ rfl rfl ?_⟩
      · exact ⟨rfl, rfl, rfl, isValid, Timestamp.nanoseconds_ofNanoseconds_lt _⟩
      · rw [Tables.usersOf, Tables.usersOf, List.filter_append]
        simp [User.newAccount]

/-! ### Accounts that are there -/

/-- An account is at an instance in a world. -/
def World.HasAccount (home : Instance) (user : User) (world : World) : Prop :=
  (∃ latest, world.IsHomeOf home latest) ∧ user ∈ world.tables.usersOf home.id

section

variable {world : World} {user : User} {username : String}

/-- An account is found under every spelling of its name. -/
theorem World.HasAccount.readTables_user? (hasAccount : world.HasAccount home user)
    (named : lower username = lower user.username) :
    (world.readTables fun tables => .ok (tables.user? home.id username)) = .ok (some user) := by
  obtain ⟨⟨latest, isHomeOf⟩, isAccount⟩ := hasAccount
  rw [readTables, if_pos isHomeOf.isSound.isOpen,
    isHomeOf.isSound.tables.user?_eq_some_iff_usersOf.mpr ⟨isAccount, nameKey_eq_of_lower_eq named.symm⟩]

theorem World.HasAccount.accountAnswer_eq (hasAccount : world.HasAccount home user) {service : Service}
    (isOf : service.IsOf home) (named : lower username = lower user.username) :
    world.accountAnswer service username = .ok ⟨user, home.domain, .home⟩ := by
  rw [accountAnswer, isOf.1, hasAccount.readTables_user? named, Service.domain, isOf.2]
  rfl

/-- A handle is one of this instance: it has no domain, or that of the instance. -/
def Handle.IsAt (home : Instance) (handle : Handle) : Prop :=
  ∀ domain, handle.domain = some domain → DomainName.normalize domain = home.domain

theorem Handle.IsAt.foreignDomain?_eq_none {handle : Handle} (isAt : handle.IsAt home) {service : Service}
    (isOf : service.IsOf home) : foreignDomain? service handle = none := by
  rw [Option.eq_none_iff_forall_ne_some]
  intro domain foreign
  obtain ⟨names, isForeign⟩ := foreignDomain?_eq_some_iff.mp foreign
  exact isForeign ((isAt domain names).trans isOf.2.symm)

theorem Errand.comesTo_find {service : Service} (isOf : service.IsOf home)
    (named : lower username = lower user.username) :
    ((Errand.toFind username).program service).ComesTo (World.HasAccount home user)
      (· = .found username (.ok (some user))) 2 := by
  refine .step (fun _ _ _ => rfl) fun world hasAccount surroundings reply replied => .done ?_
  cases replied
  rw [isOf.1, hasAccount.readTables_user? named]

/-- A resolution of a handle of this instance looks for the account and counts what it has found. -/
theorem Errand.comesTo_resolve {service : Service} (isOf : service.IsOf home) {text : String}
    (isAccount : user.IsAccount) (isAt : (Handle.read text).IsAt home)
    (named : lower (Handle.read text).username = lower user.username) :
    ((Errand.toDo (.resolve text)).program service).ComesTo (World.HasAccount home user)
      (· = .resolved text (.ok ⟨user, home.domain, .home⟩)) 2 := by
  have isValid : Username.validate (Handle.read text).username = .ok () :=
    (Username.validate_eq_of_lower_eq named).trans isAccount.validUsername
  simp only [program, Service.resolve, resolveHandle, isValid, isAt.foreignDomain?_eq_none isOf,
    Service.resolveAccount, Service.findAccount, Action.toProgram_bind, Action.toProgram_ofProgram,
    Action.toProgram_ofExcept, bind_eq_andThen, perform, step_andThen, done_andThen]
  refine .step (fun _ _ _ => rfl) fun world hasAccount surroundings reply replied => ?_
  cases replied
  rw [isOf.1, hasAccount.readTables_user? named, Service.domain, isOf.2]
  exact .step (fun _ _ _ => rfl) fun _ _ _ _ _ => .done rfl

end

/-! ### Calls to register -/

namespace Program.Registers

variable {username : String} {displayName : Option String} {program : Program Report}

theorem comesTo (registers : program.Registers home username displayName) :
    program.ComesTo (fun _ => True) (fun report => ∃ result, report = .registered username displayName result)
      2 := by
  cases registers with
  | looks _ =>
    exact .step (fun _ _ _ => rfl) fun _ _ _ _ _ => .step (fun _ _ _ => rfl) fun _ _ _ _ _ => .done ⟨_, rfl⟩
  | writes _ _ => exact .step (fun _ _ _ => rfl) fun _ _ _ _ _ => .done ⟨_, rfl⟩
  | ended result => exact .done ⟨result, rfl⟩

end Program.Registers

namespace Threads

variable {threads later : Threads Report} {place : Nat} {user : User}

/-- A turn of a call to register changes no table, unless the call ends with an account. -/
theorem tables_advanceAt_of_registers (isHomeOf : threads.world.IsHomeOf home latest)
    {program : Program Report} (isThere : threads.programs[place]? = some (some program)) {username : String}
    {displayName : Option String} (registers : program.Registers home username displayName)
    (surroundings : Surroundings) :
    (threads.advanceAt surroundings place).world.tables = threads.world.tables ∨
      ∃ user, (threads.advanceAt surroundings place).Ended place
        (.registered username displayName (.ok user)) := by
  have isPlace : place < threads.programs.length := (List.getElem?_eq_some_iff.mp isThere).1
  cases registers with
  | looks _ =>
    rw [advanceAt_of_step isThere]
    exact .inl rfl
  | @writes isValid now _ =>
    rw [advanceAt_of_step isThere]
    rcases isHomeOf.carryOut_writeAccount surroundings isValid displayName now with
      ⟨_, -, -, carried⟩ | ⟨-, user, -, carried⟩
    · rw [carried]
      exact .inl rfl
    · rw [carried]
      exact .inr ⟨user, List.getElem?_set_self isPlace⟩
  | ended result =>
    rw [advanceAt_of_not_step fun command next isStep => nomatch isThere.symm.trans isStep]
    exact .inl rfl

/-! ### One registration for each name -/

/-- A registration for a spelling of a name has come to a result at a place. -/
def Answers (threads : Threads Report) (place : Nat) (username : String) (result : Except Failure User) :
    Prop :=
  ∃ name displayName, lower name = lower username ∧ threads.Ended place (.registered name displayName result)

/-- A registration is settled by the accounts of the moment in which it ends. -/
theorem IsInOrder.settles (inOrder : threads.IsInOrder home) (goesOn : GoesOn home threads later)
    {username : String} {displayName : Option String} {result : Except Failure User}
    (ended : later.Ended place (.registered username displayName result)) :
    threads.Ended place (.registered username displayName result) ∨
      threads.world.Settles home username displayName later.world result := by
  rcases goesOn.grants_or_leaves inOrder with ⟨winner, name, shown, user, grants⟩ | leaves
  · refine (grants.others _ _ ended).symm.imp_right fun isWinner => ?_
    subst isWinner
    cases ended.unique grants.ended
    exact .of_ok grants.isFree grants.isAccount grants.named grants.shown grants.added
  · refine (leaves.ended _ _ _ _ ended).imp_right fun ⟨unchanged, failure, isError, refuses⟩ => ?_
    subst isError
    exact .of_error unchanged refuses

/-- When a registration for a valid name has ended, just one registration for the name has been granted. -/
theorem IsInOrder.exists_winner (inOrder : threads.IsInOrder home) {username : String}
    (isValid : Username.validate username = .ok ()) {result : Except Failure User}
    (answers : threads.Answers place username result) :
    ∃ user ∈ threads.accounts home, lower user.username = lower username ∧
      ∃ winner, threads.Ended winner (.registered user.username user.displayName (.ok user)) ∧
        ∀ other, (∃ account, threads.Answers other username (.ok account)) → other = winner := by
  obtain ⟨name, displayName, named, ended⟩ := answers
  obtain ⟨latest, isHomeOf⟩ := inOrder.isHomeOf
  have isTaken : ∃ user ∈ threads.accounts home, lower user.username = lower name := by
    cases result with
    | ok user =>
      obtain ⟨isAccount, -, sameName, -⟩ := inOrder.granted _ _ _ _ ended
      exact ⟨user, isAccount, congrArg lower sameName⟩
    | error failure =>
      rcases inOrder.refused _ _ _ _ ended with isInvalid | ⟨-, -, isTaken⟩
      · rw [Username.validate_eq_of_lower_eq named, isValid] at isInvalid
        cases isInvalid
      · exact isTaken
  obtain ⟨user, isAccount, sameName⟩ := isTaken
  obtain ⟨winner, won⟩ := inOrder.reported user isAccount
  refine ⟨user, isAccount, sameName.trans named, winner, won, ?_⟩
  rintro other ⟨account, otherName, otherDisplay, otherNamed, otherEnded⟩
  obtain ⟨isOther, -, rfl, rfl⟩ := inOrder.granted _ _ _ _ otherEnded
  have found := isHomeOf.isSound.tables.user?_eq_some_iff_usersOf.mpr
    ⟨isAccount, nameKey_eq_of_lower_eq (sameName.trans named)⟩
  have alsoFound := isHomeOf.isSound.tables.user?_eq_some_iff_usersOf.mpr
    ⟨isOther, nameKey_eq_of_lower_eq otherNamed⟩
  cases Option.some_inj.mp (found.symm.trans alsoFound)
  exact inOrder.once _ _ _ otherEnded won

/-! ### Accounts for good -/

theorem IsInOrder.hasAccount (inOrder : threads.IsInOrder home) (isAccount : user ∈ threads.accounts home)
    (leads : LeadsTo home threads later) : later.world.HasAccount home user := by
  obtain ⟨inOrderThen, subset⟩ := inOrder.leadsTo leads
  exact ⟨inOrderThen.isHomeOf, subset isAccount⟩

/-- The services of an instance know an account: they find it under every spelling of its name, now and
in every call that is begun now. -/
structure Knows (home : Instance) (user : User) (threads : Threads Report) : Prop where
  finds : ∀ service, threads.HasStarted service → ∀ username, lower username = lower user.username →
    ∀ surroundings, (service.findAccount username).toProgram.run surroundings threads.world =
      (some (.ok (some user)), threads.world)
  resolvesAccount : ∀ service, threads.HasStarted service → ∀ username, lower username = lower user.username →
    ∀ surroundings, (service.resolveAccount username).toProgram.run surroundings threads.world =
      (some (.ok ⟨user, home.domain, .home⟩), threads.world)
  resolves : ∀ service, threads.HasStarted service → ∀ text, (Handle.read text).IsAt home →
    lower (Handle.read text).username = lower user.username → ∀ surroundings,
      (service.resolve text).toProgram.run surroundings threads.world =
        (some (.ok ⟨user, home.domain, .home⟩),
          threads.world.counted (resolutionEvent false (.ok ⟨user, home.domain, .home⟩)))
  findsSoon : ∀ service, threads.HasStarted service → ∀ username, lower username = lower user.username →
    ∀ later, LeadsTo home (threads.add ((Errand.toFind username).program service)) later →
      later.EndsSoon threads.programs.length (· = .found username (.ok (some user)))
  resolvesSoon : ∀ service, threads.HasStarted service → ∀ text, (Handle.read text).IsAt home →
    lower (Handle.read text).username = lower user.username →
    ∀ later, LeadsTo home (threads.add ((Errand.toDo (.resolve text)).program service)) later →
      later.EndsSoon threads.programs.length (· = .resolved text (.ok ⟨user, home.domain, .home⟩))

theorem IsInOrder.knows (inOrder : threads.IsInOrder home) (isUser : user ∈ threads.accounts home)
    (isAccount : user.IsAccount) : threads.Knows home user := by
  have hasAccount := inOrder.hasAccount isUser .refl
  have always {program : Program Report} (goesOn : GoesOn home threads (threads.add program))
      (moment : Threads Report) (leads : LeadsTo home (threads.add program) moment) :
      moment.world.HasAccount home user := inOrder.hasAccount isUser (.head goesOn leads)
  refine ⟨?_, ?_, ?_, ?_, ?_⟩
  · intro service hasStarted username named surroundings
    rw [Service.findAccount, (inOrder.isOf hasStarted).1, Action.toProgram_ofProgram, perform, run_step,
      World.carryOut, hasAccount.readTables_user? named]
    rfl
  · intro service hasStarted username named surroundings
    rw [run_resolveAccount, hasAccount.accountAnswer_eq (inOrder.isOf hasStarted) named]
  · intro service hasStarted text isAt named surroundings
    have isValid := (Username.validate_eq_of_lower_eq named).trans isAccount.validUsername
    rw [run_resolve, run_resolveHandle, isValid, isAt.foreignDomain?_eq_none (inOrder.isOf hasStarted),
      hasAccount.accountAnswer_eq (inOrder.isOf hasStarted) named]
    rfl
  · intro service hasStarted username named later leads
    exact leads.endsSoon (Errand.comesTo_find (inOrder.isOf hasStarted) named)
      (always (.called (.toFind username) trivial fun _ => hasStarted))
  · intro service hasStarted text isAt named later leads
    have comesTo := Errand.comesTo_resolve (inOrder.isOf hasStarted) isAccount isAt named
    exact leads.endsSoon comesTo (always (.called (.toDo (.resolve text)) trivial fun _ => hasStarted))

/-- How an instance registers accounts, from some moment on. -/
structure RegistersForGood (home : Instance) (threads : Threads Report) : Prop where
  /-- A registration on its own is settled by the accounts that are there. -/
  alone : ∀ service, threads.HasStarted service → ∀ surroundings username displayName, ∃ result after,
    (service.register username displayName).toProgram.run surroundings threads.world = (some result, after) ∧
      threads.world.Settles home username displayName after result
  /-- Among other calls it is settled by those that are there in the step in which it ends. -/
  together : ∀ later, GoesOn home threads later → ∀ place username displayName result,
    later.Ended place (.registered username displayName result) →
      threads.Ended place (.registered username displayName result) ∨
        threads.world.Settles home username displayName later.world result
  /-- When it is begun, two turns of its own bring it to its end, and none of its turns changes a table
  but the one in which it succeeds. -/
  begun : ∀ service, threads.HasStarted service → ∀ username displayName later,
    LeadsTo home (threads.add ((Errand.toDo (.register username displayName)).program service)) later →
      (later.EndsSoon threads.programs.length fun report =>
        ∃ result, report = .registered username displayName result) ∧
      ∀ surroundings,
        (later.advanceAt surroundings threads.programs.length).world.tables = later.world.tables ∨
          ∃ user, (later.advanceAt surroundings threads.programs.length).Ended threads.programs.length
            (.registered username displayName (.ok user))
  /-- Of the registrations for spellings of one free name, one and only one is granted as soon as there
  is one that has ended. -/
  once : ∀ username, Username.validate username = .ok () →
    (∀ other ∈ threads.accounts home, lower other.username ≠ lower username) →
      ∀ later, LeadsTo home threads later → (∃ place result, later.Answers place username result) →
        ∃ winner, (∀ result, ¬ threads.Answers winner username result) ∧
          ∀ place, (∃ user, later.Answers place username (.ok user)) ↔ place = winner
  /-- The account that it has led to is known in every moment from then on. -/
  lasting : ∀ place username displayName user,
    threads.Ended place (.registered username displayName (.ok user)) →
      ∀ later, LeadsTo home threads later → later.Knows home user

/-- Since an instance was first started, whatever goes on there at the same time and whatever other
instances answer, names are given away once and for good. -/
theorem Arises.registersForGood (arises : threads.Arises home) : threads.RegistersForGood home := by
  have inOrder := arises.isInOrder
  obtain ⟨latest, isHomeOf⟩ := inOrder.isHomeOf
  refine ⟨?_, ?_, ?_, ?_, ?_⟩
  · intro service hasStarted surroundings username displayName
    exact Service.run_register_settles (inOrder.isOf hasStarted) isHomeOf surroundings username displayName
  · intro later goesOn place username displayName result ended
    exact inOrder.settles goesOn ended
  · intro service hasStarted username displayName later leads
    have registers := Errand.registers (inOrder.isOf hasStarted) username displayName
    refine ⟨leads.endsSoon registers.comesTo fun _ _ => trivial, fun surroundings => ?_⟩
    obtain ⟨program, isThere, stillRegisters⟩ := leads.exists_getElem? (getElem?_add _ _) registers
      fun moment _ surroundings _ _ registers => registers.turn surroundings moment.world
    have begins : GoesOn home threads _ :=
      .called (.toDo (.register username displayName)) trivial fun _ => hasStarted
    obtain ⟨latest, isHomeOfThen⟩ := (inOrder.leadsTo (.head begins leads)).1.isHomeOf
    exact tables_advanceAt_of_registers isHomeOfThen isThere stillRegisters surroundings
  · rintro username isValid isFree later leads ⟨place, result, answers⟩
    obtain ⟨user, -, named, winner, won, isAlone⟩ := (inOrder.leadsTo leads).1.exists_winner isValid answers
    refine ⟨winner, fun earlier ⟨name, displayName, _, ended⟩ => ?_, fun other => ⟨isAlone other, ?_⟩⟩
    · cases (ended.leadsTo leads).unique won
      exact isFree user (inOrder.granted _ _ _ _ ended).1 named
    · rintro rfl
      exact ⟨user, _, _, named, won⟩
  · intro place username displayName user ended later leads
    obtain ⟨isUser, isAccount, -⟩ := inOrder.granted _ _ _ _ ended
    obtain ⟨inOrderThen, subset⟩ := inOrder.leadsTo leads
    exact inOrderThen.knows (subset isUser) isAccount

/-- An instance at which one account has been registered since it was started. -/
def withAlice : Threads Report :=
  let first : Threads Report :=
    ⟨[some (Errand.approving (.plain "home.example") Site.empty.service.home)], Site.empty.world⟩
  let begun := first.add ((Errand.toDo (.register "Alice" none)).program Site.empty.service)
  (begun.advanceAt .silent 1).advanceAt .silent 1

theorem arises_withAlice : withAlice.Arises Site.empty.service.home := by
  refine ⟨_, .wrote (Site.carryOut_writeLocal_fresh (.plain "home.example") .silent (.memory .empty) 0), ?_⟩
  have hasStarted : Threads.HasStarted
      ⟨[some (Errand.approving (.plain "home.example") Site.empty.service.home)], Site.empty.world⟩
      Site.empty.service := ⟨0, rfl⟩
  have begun : GoesOn Site.empty.service.home _ _ :=
    .called (.toDo (.register "Alice" none)) trivial fun _ => hasStarted
  exact .tail (.tail (.single begun) (.advanced _ .silent 1)) (.advanced _ .silent 1)

/-- The account is there for good. -/
theorem registersForGood_withAlice : withAlice.Arises Site.empty.service.home ∧
    withAlice.Ended 1 (.registered "Alice" none
      (.ok (.newAccount (identifier 1) Site.empty.service.home.id "Alice" none (.ofNanoseconds 0)))) ∧
    withAlice.RegistersForGood Site.empty.service.home :=
  ⟨arises_withAlice, rfl, arises_withAlice.registersForGood⟩

end Threads

end HandleFederation
