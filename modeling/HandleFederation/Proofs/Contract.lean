/-
This file says what it is for a program to keep a contract with the world. A contract
names the commands that may be carried out and says what is promised about the replies.
A program keeps it if it carries out no other command for as long as the promises are
kept, and what it comes to in the end is then as agreed. Contracts are what programs
that run together know of each other: whatever the others do between two commands of
one, they do within the contract too.
-/

import HandleFederation.Proofs.Program
import HandleFederation.Service

namespace HandleFederation

/-- The commands that may be carried out, and what is promised about the replies. -/
structure Contract where
  allows : Command → Prop
  promises : (command : Command) → Reply command → Prop

variable {First Second Result : Type}

namespace Program

/-- A program carries out only commands that a contract allows, as long as the replies are what it
promises, and its results are then of a certain kind. -/
inductive Keeps (contract : Contract) (ends : Result → Prop) : Program Result → Prop
  | done {result : Result} (isEnd : ends result) : Keeps contract ends (.done result)
  | step {command : Command} {next : Reply command → Program Result}
    (allowed : contract.allows command)
    (later : ∀ reply, contract.promises command reply → Keeps contract ends (next reply)) :
    Keeps contract ends (.step command next)

namespace Keeps

variable {contract : Contract}

theorem perform {command : Command} (allowed : contract.allows command) :
    (perform command).Keeps contract (contract.promises command) :=
  .step allowed fun _ promised => .done promised

/-- A program that goes on after another one keeps the contract when both do. -/
theorem andThen {middle : First → Prop} {ends : Second → Prop} {program : Program First}
    {next : First → Program Second} (earlier : program.Keeps contract middle)
    (later : ∀ result, middle result → (next result).Keeps contract ends) :
    (program.andThen next).Keeps contract ends := by
  induction earlier with
  | done isEnd => exact later _ isEnd
  | step allowed _ inductionHypothesis => exact .step allowed inductionHypothesis

end Keeps

end Program

/-- An action that goes on after another one keeps the contract when both do, and ends with the
failure of the first as it may end with a failure. -/
theorem Action.keeps_bind {contract : Contract} {middle : Except Failure First → Prop}
    {ends : Except Failure Second → Prop} {action : Action First} {next : First → Action Second}
    (earlier : action.toProgram.Keeps contract middle)
    (failing : ∀ failure, middle (.error failure) → ends (.error failure))
    (later : ∀ result, middle (.ok result) → (next result).toProgram.Keeps contract ends) :
    (action >>= next).toProgram.Keeps contract ends := by
  rw [toProgram_bind]
  refine earlier.andThen fun outcome isMiddle => ?_
  cases outcome with
  | error failure => exact .done (failing failure isMiddle)
  | ok result => exact later result isMiddle

theorem keeps_currentTime {contract : Contract} (allowsClock : contract.allows .clock) :
    currentTime.toProgram.Keeps contract fun outcome => ∃ now, outcome = .ok now :=
  .step allowsClock fun now _ => .done ⟨now, rfl⟩

theorem keeps_timed {contract : Contract} {ends : Result → Prop} (allowsClock : contract.allows .clock)
    {program : Program Result} (keeps : program.Keeps contract ends) :
    (timed program).Keeps contract fun outcome => ends outcome.1 :=
  .step allowsClock fun _ _ => keeps.andThen fun _ isEnd => .step allowsClock fun _ _ => .done isEnd

/-! ### Contracts that the world honours -/

/-- A world gives the replies that a contract promises. -/
def Contract.IsHonoured (contract : Contract) (surroundings : Surroundings) (world : World) : Prop :=
  ∀ command, contract.allows command →
    ∀ reply, (world.carryOut surroundings command).1 = some reply → contract.promises command reply

variable {contract : Contract} {ends : Result → Prop} {surroundings : Surroundings}

/-- What is true of a world in which a contract is honoured, and stays true whatever is done within the
contract, is true after a program that keeps it, which then ends as agreed. -/
theorem Program.Keeps.run {holds : World → Prop}
    (honoured : ∀ world, holds world → contract.IsHonoured surroundings world)
    (stays : ∀ world, holds world → ∀ command, contract.allows command →
      holds (world.carryOut surroundings command).2)
    {program : Program Result} (keeps : program.Keeps contract ends) {world : World}
    (before : holds world) :
    holds (program.run surroundings world).2 ∧
      ∀ result, (program.run surroundings world).1 = some result → ends result := by
  induction keeps generalizing world with
  | done isEnd => exact ⟨before, fun _ same => Option.some_inj.mp same ▸ isEnd⟩
  | step allowed _ inductionHypothesis =>
    have promised := honoured world before _ allowed
    have between := stays world before _ allowed
    rw [run_step]
    generalize world.carryOut surroundings _ = outcome at between promised ⊢
    rcases outcome with ⟨_ | reply, after⟩
    · exact ⟨between, fun _ same => nomatch same⟩
    · exact inductionHypothesis reply (promised reply rfl) between

/-! ### Programs that run together -/

namespace Threads

variable {threads : Threads Result}

theorem advanceAt_of_step {place : Nat} {command : Command} {next : Reply command → Program Result}
    (isThere : threads.programs[place]? = some (some (.step command next))) :
    threads.advanceAt surroundings place =
      ⟨threads.programs.set place ((threads.world.carryOut surroundings command).1.map next),
        (threads.world.carryOut surroundings command).2⟩ := by
  rw [advanceAt, isThere]
  dsimp only [Program.advance]
  rcases threads.world.carryOut surroundings command with ⟨_ | reply, after⟩ <;> rfl

/-- Where no program has anything left to do, nothing happens. -/
theorem advanceAt_of_not_step {place : Nat}
    (noStep : ∀ command next, threads.programs[place]? ≠ some (some (.step command next))) :
    threads.advanceAt surroundings place = threads := by
  have setSame : ∀ program, threads.programs[place]? = some program →
      threads.programs.set place program = threads.programs := by
    intro program isThere
    obtain ⟨isPlace, rfl⟩ := List.getElem?_eq_some_iff.mp isThere
    exact List.set_getElem_self isPlace
  rw [advanceAt]
  split
  · rfl
  · rename_i program isThere
    have unchanged := setSame program isThere
    rcases program with _ | result | ⟨command, next⟩
    · dsimp only [Program.advance]
      rw [unchanged]
    · dsimp only [Program.advance]
      rw [unchanged]
    · exact absurd isThere (noStep command next)

/-- All programs that have not broken down keep a contract. -/
def Keep (contract : Contract) (ends : Result → Prop) (threads : Threads Result) : Prop :=
  ∀ program, some program ∈ threads.programs → program.Keeps contract ends

/-- The next command of a program is one that the contract allows. -/
theorem Keep.allows (keep : threads.Keep contract ends) {place : Nat} {command : Command}
    {next : Reply command → Program Result}
    (isThere : threads.programs[place]? = some (some (.step command next))) :
    contract.allows command := by
  cases keep _ (List.mem_of_getElem? isThere) with
  | step allowed later => exact allowed

/-- All programs keep the contract when one of them gets a reply as promised. -/
theorem Keep.advanceAt (keep : threads.Keep contract ends) {place : Nat} {command : Command}
    {next : Reply command → Program Result}
    (isThere : threads.programs[place]? = some (some (.step command next)))
    (promised : ∀ reply, (threads.world.carryOut surroundings command).1 = some reply →
      contract.promises command reply) :
    (threads.advanceAt surroundings place).Keep contract ends := by
  rw [advanceAt_of_step isThere]
  intro program member
  rcases List.mem_or_eq_of_mem_set member with isBefore | isLater
  · exact keep program isBefore
  · obtain ⟨reply, replied, rfl⟩ := Option.map_eq_some_iff.mp isLater.symm
    cases keep _ (List.mem_of_getElem? isThere) with
    | step allowed later => exact later reply (promised reply replied)

end Threads

end HandleFederation
