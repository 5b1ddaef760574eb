/-
This file holds the laws by which programs are taken apart. A program that goes on
after another one runs as the two runs one after the other, and it breaks down where
the first of them does. An action is a program whose result may be a failure, and
its rules say the same once more with failures: what follows a failure is not run.
What a program may ask other instances for can be told from the program alone, for all
the replies that it may get.
-/

import HandleFederation.World

namespace HandleFederation

variable {First Second Result : Type}

/-! ### Commands carried out -/

namespace World

variable (surroundings : Surroundings) (world : World)

theorem carryOut_clock : world.carryOut surroundings .clock = (some world.time, world) := rfl

theorem carryOut_writeLocal (settings : LocalSettings) (now : Timestamp) :
    world.carryOut surroundings (.writeLocal settings now) =
      let written := world.changeTables 1 fun tables =>
        readChanged (tables.putLocal settings (identifier world.issued) now)
      (some written.1, written.2) := rfl

theorem carryOut_writeRemote (settings : RemoteSettings) (now : Timestamp) :
    world.carryOut surroundings (.writeRemote settings now) =
      let written := world.changeTables 1 fun tables =>
        (tables.putRemote settings (identifier world.issued) now).bind readChanged
      (some written.1, written.2) := rfl

theorem carryOut_writeMode (instanceId : String) (mode : FederationMode) :
    world.carryOut surroundings (.writeMode instanceId mode) =
      let written := world.changeTables 0 (setMode instanceId mode)
      (some written.1, written.2) := rfl

theorem carryOut_writePeer (instanceId domain : String) (status : PeerStatus) (now : Timestamp) :
    world.carryOut surroundings (.writePeer instanceId domain status now) =
      let written := world.changeTables 0 (Tables.putPeer instanceId domain status now)
      (some written.1, written.2) := rfl

theorem carryOut_writeAccount (instanceId username : String) (displayName : Option String)
    (now : Timestamp) :
    world.carryOut surroundings (.writeAccount instanceId username displayName now) =
      let written := world.changeTables 1
        (Tables.register instanceId username displayName (identifier world.issued) now)
      (some written.1, written.2) := rfl

theorem carryOut_writeStub (instanceId : String) (fields : StubFields) (now : Timestamp) :
    world.carryOut surroundings (.writeStub instanceId fields now) =
      let written := world.changeTables 1
        (Tables.putStub instanceId fields (identifier world.issued) now)
      (some written.1, written.2) := rfl

theorem carryOut_writeRemoteUser (settings : RemoteSettings) (fields : StubFields)
    (now : Timestamp) :
    world.carryOut surroundings (.writeRemoteUser settings fields now) =
      let written := world.changeTables 2
        (Tables.putRemoteUser settings fields (identifier world.issued)
          (identifier (world.issued + 1)) now)
      (some written.1, written.2) := rfl

end World

namespace Program

/-! ### Programs one after the other -/

@[simp] theorem pure_eq_done (result : Result) : (pure result : Program Result) = .done result := rfl

@[simp] theorem bind_eq_andThen (program : Program First) (next : First → Program Second) :
    (program >>= next) = program.andThen next := rfl

@[simp] theorem done_andThen (result : First) (next : First → Program Second) :
    (Program.done result).andThen next = next result := rfl

@[simp] theorem step_andThen (command : Command) (rest : Reply command → Program First)
    (next : First → Program Second) :
    (Program.step command rest).andThen next =
      .step command fun reply => (rest reply).andThen next := rfl

/-! ### Runs one after the other -/

variable (surroundings : Surroundings)

@[simp] theorem run_done (result : Result) (world : World) :
    (Program.done result).run surroundings world = (some result, world) := rfl

/-- The run of a program that starts with a command. -/
theorem run_step (command : Command) (next : Reply command → Program Result) (world : World) :
    (Program.step command next).run surroundings world =
      match world.carryOut surroundings command with
      | (some reply, world) => (next reply).run surroundings world
      | (none, world) => (none, world) := by
  rcases outcome : world.carryOut surroundings command with ⟨_ | reply, after⟩
  · simp only [run, outcome]
  · simp only [run, outcome]

/-- A program that goes on after another one runs after it. -/
theorem run_andThen (program : Program First) (next : First → Program Second) (world : World) :
    (program.andThen next).run surroundings world =
      match program.run surroundings world with
      | (some result, world) => (next result).run surroundings world
      | (none, world) => (none, world) := by
  induction program generalizing world with
  | done result => rfl
  | step command rest inductionHypothesis =>
    rw [step_andThen, run_step, run_step]
    rcases world.carryOut surroundings command with ⟨_ | reply, after⟩
    · rfl
    · exact inductionHypothesis reply after

/-! ### What a program may ask other instances for -/

/-- A program asks other instances for nothing but certain URLs, whatever the replies are that it
gets to its commands. -/
inductive RequestsOnly (allowed : Url → Prop) : Program Result → Prop
  | done (result : Result) : RequestsOnly allowed (.done result)
  | step {command : Command} {next : Reply command → Program Result}
    (permitted : ∀ url, command = .request url → allowed url)
    (later : ∀ reply, RequestsOnly allowed (next reply)) : RequestsOnly allowed (.step command next)

namespace RequestsOnly

variable {allowed : Url → Prop}

theorem perform {command : Command} (permitted : ∀ url, command = .request url → allowed url) :
    (perform command).RequestsOnly allowed :=
  .step permitted fun reply => .done reply

theorem andThen {program : Program First} {next : First → Program Second}
    (earlier : program.RequestsOnly allowed) (later : ∀ result, (next result).RequestsOnly allowed) :
    (program.andThen next).RequestsOnly allowed := by
  induction earlier with
  | done result => exact later result
  | step permitted _ inductionHypothesis => exact .step permitted inductionHypothesis

end RequestsOnly

end Program

/-! ### Actions one after the other -/

namespace Action

@[simp] theorem toProgram_pure (result : Result) :
    (pure result : Action Result).toProgram = .done (.ok result) := rfl

@[simp] theorem toProgram_throw (failure : Failure) :
    (throw failure : Action Result).toProgram = .done (.error failure) := rfl

@[simp] theorem toProgram_ofProgram (program : Program (Except Failure Result)) :
    (ofProgram program).toProgram = program := rfl

@[simp] theorem toProgram_ofExcept (result : Except Failure Result) :
    (ofExcept result).toProgram = .done result := rfl

/-- What follows a failure of an action is not carried out. -/
@[simp] theorem toProgram_bind (action : Action First) (next : First → Action Second) :
    (action >>= next).toProgram =
      action.toProgram.andThen fun
        | .ok result => (next result).toProgram
        | .error failure => .done (.error failure) := by
  refine congrArg (Program.andThen action.toProgram) (funext fun result => ?_)
  cases result <;> rfl

theorem requestsOnly_bind {allowed : Url → Prop} {action : Action First} {next : First → Action Second}
    (earlier : action.toProgram.RequestsOnly allowed)
    (later : ∀ result, (next result).toProgram.RequestsOnly allowed) :
    (action >>= next).toProgram.RequestsOnly allowed := by
  rw [toProgram_bind]
  refine earlier.andThen fun outcome => ?_
  cases outcome with
  | error failure => exact .done _
  | ok result => exact later result

end Action

end HandleFederation
