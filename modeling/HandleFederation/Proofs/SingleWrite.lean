/-
This file counts the writes of a program. Most commands leave the tables alone, and a
program that carries out no other command but a few of a certain kind is told from its
tree alone, for all replies that it may get. A resolution writes at most once, and then
another instance together with one of its users. So wherever it is left off, it has
done nothing to the tables or all that it was going to do.
-/

import HandleFederation.Proofs.Contract
import HandleFederation.Proofs.TableWrites

namespace HandleFederation

open Program Text

/-! ### Commands that write -/

/-- Whether a command leaves the tables alone. -/
def Command.isQuiet : Command → Bool
  | .writeLocal _ _ => false
  | .writeRemote _ _ => false
  | .writeMode _ _ => false
  | .writePeer _ _ _ _ => false
  | .writeAccount _ _ _ _ => false
  | .writeStub _ _ _ => false
  | .writeRemoteUser _ _ _ => false
  | _ => true

theorem World.tables_carryOut_of_isQuiet {command : Command} (isQuiet : command.isQuiet = true)
    (surroundings : Surroundings) (world : World) :
    (world.carryOut surroundings command).2.tables = world.tables := by
  have becomes : world.tables.CanBecome world.issued command
      (world.carryOut surroundings command).2.tables := World.canBecome_carryOut surroundings command
  generalize (world.carryOut surroundings command).2.tables = tables at becomes ⊢
  cases becomes with
  | same command => rfl
  | _ => cases isQuiet

/-! ### Programs that write so many times -/

variable {First Second Result : Type}

namespace Program

/-- A program carries out at most so many commands that write, all of a certain kind, whatever the
replies are that it gets. -/
inductive WritesAtMost (permitted : Command → Prop) : Nat → Program Result → Prop
  | done (count : Nat) (result : Result) : WritesAtMost permitted count (.done result)
  | quiet {count : Nat} {command : Command} {next : Reply command → Program Result}
    (isQuiet : command.isQuiet = true)
    (later : ∀ reply, WritesAtMost permitted count (next reply)) :
    WritesAtMost permitted count (.step command next)
  | write {count : Nat} {command : Command} {next : Reply command → Program Result}
    (isPermitted : permitted command)
    (later : ∀ reply, WritesAtMost permitted count (next reply)) :
    WritesAtMost permitted (count + 1) (.step command next)

namespace WritesAtMost

variable {permitted : Command → Prop} {count more : Nat}

theorem mono {program : Program Result} (writes : program.WritesAtMost permitted count)
    (le : count ≤ more) : program.WritesAtMost permitted more := by
  induction writes generalizing more with
  | done count result => exact .done more result
  | quiet isQuiet _ inductionHypothesis =>
    exact .quiet isQuiet fun reply => inductionHypothesis reply le
  | write isPermitted _ inductionHypothesis =>
    obtain ⟨rest, rfl⟩ := Nat.exists_eq_add_of_le' (Nat.one_le_of_lt le)
    exact .write isPermitted fun reply => inductionHypothesis reply (Nat.le_of_succ_le_succ le)

/-- What goes on after a program that does not write may write as often as both of them. -/
theorem andThen {program : Program First} {next : First → Program Second}
    (earlier : program.WritesAtMost permitted 0)
    (later : ∀ result, (next result).WritesAtMost permitted count) :
    (program.andThen next).WritesAtMost permitted count := by
  induction program with
  | done result => exact later result
  | step command rest inductionHypothesis =>
    cases earlier with
    | quiet isQuiet further => exact .quiet isQuiet fun reply => inductionHypothesis reply (further reply)

/-- A program may be followed by one that does not write. -/
theorem andThen_quiet {program : Program First} {next : First → Program Second}
    (earlier : program.WritesAtMost permitted count)
    (later : ∀ result, (next result).WritesAtMost permitted 0) :
    (program.andThen next).WritesAtMost permitted count := by
  induction earlier with
  | done count result => exact (later result).mono (Nat.zero_le count)
  | quiet isQuiet _ inductionHypothesis => exact .quiet isQuiet inductionHypothesis
  | write isPermitted _ inductionHypothesis => exact .write isPermitted inductionHypothesis

/-- A program that may write keeps any contract that allows what it writes and what does not write. -/
theorem keeps {contract : Contract}
    (allowsQuiet : ∀ command, command.isQuiet = true → contract.allows command)
    (allowsPermitted : ∀ command, permitted command → contract.allows command)
    {program : Program Result} (writes : program.WritesAtMost permitted count) :
    program.Keeps contract fun _ => True := by
  induction writes with
  | done count result => exact .done trivial
  | quiet isQuiet _ inductionHypothesis =>
    exact .step (allowsQuiet _ isQuiet) fun reply _ => inductionHypothesis reply
  | write isPermitted _ inductionHypothesis =>
    exact .step (allowsPermitted _ isPermitted) fun reply _ => inductionHypothesis reply

end WritesAtMost

/-! ### Programs that are abandoned -/

/-- The world that a program leaves when it is abandoned after so many commands. -/
def abandoned (surroundings : Surroundings) : Nat → Option (Program Result) → World → World
  | 0, _, world => world
  | count + 1, program, world =>
    let (later, after) := advance surroundings world program
    abandoned surroundings count later after

variable (surroundings : Surroundings)

theorem abandoned_none (count : Nat) (world : World) :
    abandoned surroundings count (none : Option (Program Result)) world = world := by
  induction count with
  | zero => rfl
  | succ count inductionHypothesis => exact inductionHypothesis

theorem abandoned_done (count : Nat) (result : Result) (world : World) :
    abandoned surroundings count (some (.done result)) world = world := by
  induction count with
  | zero => rfl
  | succ count inductionHypothesis => exact inductionHypothesis

theorem abandoned_step (count : Nat) (command : Command) (next : Reply command → Program Result)
    (world : World) :
    abandoned surroundings (count + 1) (some (.step command next)) world =
      match world.carryOut surroundings command with
      | (some reply, after) => abandoned surroundings count (some (next reply)) after
      | (none, after) => after := by
  rw [abandoned, advance]
  rcases world.carryOut surroundings command with ⟨_ | reply, after⟩
  · exact abandoned_none surroundings count after
  · rfl

variable {permitted : Command → Prop}

/-- A program that does not write leaves the tables alone, abandoned or not. -/
theorem tables_of_writesAtMost_zero {program : Program Result}
    (writes : program.WritesAtMost permitted 0) (world : World) :
    (program.run surroundings world).2.tables = world.tables ∧
      ∀ count, (abandoned surroundings count (some program) world).tables = world.tables := by
  induction program generalizing world with
  | done result => exact ⟨rfl, fun count => by rw [abandoned_done]⟩
  | step command next inductionHypothesis =>
    cases writes with
    | quiet isQuiet later =>
      have unchanged := World.tables_carryOut_of_isQuiet isQuiet surroundings world
      have cases_abandoned := fun count => abandoned_step surroundings count command next world
      rw [run_step]
      generalize world.carryOut surroundings command = outcome at unchanged cases_abandoned ⊢
      rcases outcome with ⟨_ | reply, after⟩
      · refine ⟨unchanged, fun count => ?_⟩
        cases count with
        | zero => rfl
        | succ count =>
          rw [cases_abandoned]
          exact unchanged
      · obtain ⟨runs, leaves⟩ := inductionHypothesis reply (later reply) after
        refine ⟨runs.trans unchanged, fun count => ?_⟩
        cases count with
        | zero => rfl
        | succ count =>
          rw [cases_abandoned]
          exact (leaves count).trans unchanged

/-- A program that writes once at most has, wherever it is abandoned, done nothing to the tables or all
that it does when it comes to its end. -/
theorem tables_abandoned {program : Program Result} (writes : program.WritesAtMost permitted 1)
    (world : World) (count : Nat) :
    (abandoned surroundings count (some program) world).tables = world.tables ∨
      (abandoned surroundings count (some program) world).tables =
        (program.run surroundings world).2.tables := by
  induction program generalizing world count with
  | done result => exact Or.inl (by rw [abandoned_done])
  | step command next inductionHypothesis =>
    cases count with
    | zero => exact Or.inl rfl
    | succ count =>
      rw [abandoned_step, run_step]
      cases writes with
      | quiet isQuiet later =>
        have unchanged := World.tables_carryOut_of_isQuiet isQuiet surroundings world
        generalize world.carryOut surroundings command = outcome at unchanged ⊢
        rcases outcome with ⟨_ | reply, after⟩
        · exact Or.inl unchanged
        · exact (inductionHypothesis reply (later reply) after count).imp_left (·.trans unchanged)
      | write isPermitted later =>
        rcases world.carryOut surroundings command with ⟨_ | reply, after⟩
        · exact Or.inr rfl
        · obtain ⟨runs, leaves⟩ := tables_of_writesAtMost_zero surroundings (later reply) after
          exact Or.inr ((leaves count).trans runs.symm)

end Program

theorem Action.writesAtMost_bind {permitted : Command → Prop} {count : Nat}
    {action : Action First} {next : First → Action Second}
    (earlier : action.toProgram.WritesAtMost permitted 0)
    (later : ∀ result, (next result).toProgram.WritesAtMost permitted count) :
    (action >>= next).toProgram.WritesAtMost permitted count := by
  rw [toProgram_bind]
  refine earlier.andThen fun outcome => ?_
  cases outcome with
  | error failure => exact .done count _
  | ok result => exact later result

/-! ### Resolutions -/

namespace Resolution

/-- Writing another instance together with one of its users. -/
def IsRemoteWrite (command : Command) : Prop :=
  ∃ settings fields now, command = .writeRemoteUser settings fields now

variable {permitted : Command → Prop} {username domain : String}

theorem writesNothing_isRemembered (key : String) : (isRemembered key).WritesAtMost permitted 0 := by
  refine .quiet rfl fun reply => ?_
  cases reply <;> exact .done 0 _

theorem writesNothing_remember (key : String) (seconds : Nat) :
    (remember key seconds).WritesAtMost permitted 0 := by
  unfold remember
  split
  · exact .done 0 _
  · exact .quiet rfl fun _ => .done 0 _

theorem writesNothing_timed {program : Program Result} (writes : program.WritesAtMost permitted 0) :
    (timed program).WritesAtMost permitted 0 :=
  .quiet rfl fun _ => writes.andThen fun _ => .quiet rfl fun _ => .done 0 _

theorem writesNothing_currentTime : currentTime.toProgram.WritesAtMost permitted 0 :=
  .quiet rfl fun _ => .done 0 _

theorem writesNothing_discover (windows : Windows) :
    (discover windows domain).toProgram.WritesAtMost permitted 0 := by
  have asks : (askDeclaration domain).WritesAtMost permitted 0 := by
    unfold askDeclaration
    split
    · exact .done 0 _
    · exact .quiet rfl fun _ => .done 0 _
  refine (writesNothing_isRemembered _).andThen fun isRemembered => ?_
  cases isRemembered with
  | true => exact .done 0 _
  | false =>
    refine (writesNothing_timed asks).andThen fun outcome => ?_
    rcases outcome with ⟨fault | declaration, seconds⟩
    · exact .quiet rfl fun _ => (writesNothing_remember _ _).andThen fun _ => .done 0 _
    · refine .quiet rfl fun _ => ?_
      dsimp only [done_andThen]
      split
      · exact (writesNothing_remember _ _).andThen fun _ => .done 0 _
      · exact .done 0 _

theorem writesNothing_askProfile : (askProfile username domain).toProgram.WritesAtMost permitted 0 := by
  simp only [askProfile, Action.toProgram_bind, Action.toProgram_ofExcept, done_andThen]
  cases Profile.lookupUrl domain (lower username) with
  | error failure => exact .done 0 _
  | ok url =>
    refine (writesNothing_timed (.quiet rfl fun reply => .done 0 reply)).andThen fun _ => ?_
    exact .quiet rfl fun _ => .done 0 _

theorem writesNothing_lookForStub (lifetime : Option Nat) :
    (lookForStub lifetime username domain).toProgram.WritesAtMost permitted 0 := by
  have reads : (readStub lifetime username domain).toProgram.WritesAtMost permitted 0 := by
    unfold readStub
    refine Action.writesAtMost_bind (.quiet rfl fun reply => .done 0 reply) fun stub => ?_
    cases stub with
    | none => exact .done 0 _
    | some user => exact Action.writesAtMost_bind writesNothing_currentTime fun now => .done 0 _
  refine Action.writesAtMost_bind reads fun cached => ?_
  exact Action.writesAtMost_bind (.quiet rfl fun _ => .done 0 _) fun _ => .done 0 _

theorem writesNothing_authorize (instanceId : String) :
    (authorize instanceId domain).toProgram.WritesAtMost permitted 0 := by
  refine Action.writesAtMost_bind (.quiet rfl fun reply => .done 0 reply) fun mode => ?_
  cases mode with
  | closed => exact .done 0 _
  | allowlist =>
    refine Action.writesAtMost_bind (.quiet rfl fun reply => .done 0 reply) fun isActive => ?_
    cases isActive <;> exact .done 0 _
  | anyone => exact .done 0 _

/-- Fetching a profile writes once at most. -/
theorem writesOnce_fetch (windows : Windows) :
    (fetch windows username domain).toProgram.WritesAtMost IsRemoteWrite 1 := by
  refine Action.writesAtMost_bind (writesNothing_discover windows) fun declaration => ?_
  refine Action.writesAtMost_bind writesNothing_askProfile fun answer => ?_
  cases answer with
  | found profile =>
    refine Action.writesAtMost_bind writesNothing_currentTime fun now => ?_
    exact .write ⟨_, _, now, rfl⟩ fun reply => .done 0 reply
  | missing => exact (writesNothing_remember _ _).andThen fun _ => .done 1 _
  | unusable => exact .done 1 _

theorem writesOnce_fetchOr (windows : Windows) (stale : Option User) :
    (fetchOr windows username domain stale).toProgram.WritesAtMost IsRemoteWrite 1 := by
  refine (writesOnce_fetch windows).andThen_quiet fun outcome => ?_
  split <;> exact .done 0 _

/-- Resolving a user of another instance writes once at most. -/
theorem writesOnce_resolveRemote (windows : Windows) (username domain : String) :
    (resolveRemote windows username domain).toProgram.WritesAtMost IsRemoteWrite 1 := by
  have recalls : (Action.ofProgram do
      return .ok (← isRemembered (missKey username domain)) : Action Bool).toProgram.WritesAtMost
        IsRemoteWrite 0 :=
    (writesNothing_isRemembered _).andThen fun _ => .done 0 _
  unfold resolveRemote
  refine Action.writesAtMost_bind (writesNothing_lookForStub _) fun cached => ?_
  split
  · exact .done 1 _
  · refine Action.writesAtMost_bind recalls fun remembered => ?_
    split
    · exact .done 1 _
    · split
      · exact writesOnce_fetchOr windows _
      · exact writesOnce_fetchOr windows none

theorem writesOnce_resolveHandle (service : Service) (handle : Handle) :
    (resolveHandle service handle).toProgram.WritesAtMost IsRemoteWrite 1 := by
  unfold resolveHandle
  refine Action.writesAtMost_bind (.done 0 _) fun _ => ?_
  cases foreignDomain? service handle with
  | none =>
    refine Action.writesAtMost_bind (.quiet rfl fun reply => .done 0 reply) fun account => ?_
    cases account <;> exact .done 1 _
  | some domainText =>
    refine Action.writesAtMost_bind (writesNothing_authorize _) fun _ => ?_
    exact Action.writesAtMost_bind (.done 0 _) fun name => writesOnce_resolveRemote _ _ _

/-- Resolving a handle writes once at most. -/
theorem writesOnce_resolve (service : Service) (text : String) :
    (service.resolve text).toProgram.WritesAtMost IsRemoteWrite 1 := by
  unfold Service.resolve
  rw [Action.toProgram_ofProgram]
  refine (writesOnce_resolveHandle service (Handle.read text)).andThen_quiet fun outcome => ?_
  exact .quiet rfl fun _ => .done 0 outcome

end Resolution

end HandleFederation
