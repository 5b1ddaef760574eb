/-
This file puts programs side by side whose commands are carried out in two different ways.
The replies that they get are not the same but alike, and a program that does not tell replies
apart that are alike carries out the same commands as its counterpart and comes to a result
that corresponds. So two worlds that correspond keep doing so, whatever programs run together
in them and in whatever order, if every single command keeps them so. A likeness says which
commands these are and which replies are alike.
-/

import HandleFederation.Proofs.History
import HandleFederation.Proofs.Schedule

namespace HandleFederation

/-- The commands that may be carried out, and which replies to them are alike. -/
structure Likeness where
  allows : Command → Prop
  alike : (command : Command) → Reply command → Reply command → Prop

variable {First Second Third Fourth Result : Type} {likeness : Likeness}

/-! ### Programs side by side -/

namespace Program

/-- Two programs carry out the same commands, none that a likeness does not allow, as long as they get
replies that are alike, and they come to results that correspond. -/
inductive Matches (likeness : Likeness) (ends : First → Second → Prop) :
    Program First → Program Second → Prop
  | done {result : First} {counterpart : Second} (isEnd : ends result counterpart) :
    Matches likeness ends (.done result) (.done counterpart)
  | step {command : Command} {next : Reply command → Program First}
    {nextThere : Reply command → Program Second} (allowed : likeness.allows command)
    (later : ∀ reply other, likeness.alike command reply other →
      Matches likeness ends (next reply) (nextThere other)) :
    Matches likeness ends (.step command next) (.step command nextThere)

/-- A program does not tell replies apart that are alike: with one or the other it does the same. -/
def Overlooks (likeness : Likeness) (program : Program Result) : Prop :=
  Matches likeness Eq program program

namespace Matches

theorem andThen {middle : First → Second → Prop} {ends : Third → Fourth → Prop}
    {program : Program First} {counterpart : Program Second} {next : First → Program Third}
    {nextThere : Second → Program Fourth} (earlier : Matches likeness middle program counterpart)
    (later : ∀ result other, middle result other → Matches likeness ends (next result) (nextThere other)) :
    Matches likeness ends (program.andThen next) (counterpart.andThen nextThere) := by
  induction earlier with
  | done isEnd => exact later _ _ isEnd
  | step allowed _ inductionHypothesis => exact .step allowed inductionHypothesis

/-- Where every reply is like itself, programs that match with the same results are the same. -/
theorem eq_of_alike_self (alikeSelf : ∀ command reply, likeness.alike command reply reply)
    {program counterpart : Program Result} (same : Matches likeness Eq program counterpart) :
    program = counterpart := by
  induction same with
  | done isEnd => exact congrArg Program.done isEnd
  | step _ _ inductionHypothesis =>
    exact congrArg _ (funext fun reply => inductionHypothesis reply reply (alikeSelf _ reply))

end Matches

namespace Overlooks

theorem done (result : Result) : (Program.done result).Overlooks likeness :=
  Matches.done rfl

theorem andThen {program : Program First} {next : First → Program Second}
    (earlier : program.Overlooks likeness) (later : ∀ result, (next result).Overlooks likeness) :
    (program.andThen next).Overlooks likeness := by
  refine Matches.andThen earlier fun result other same => ?_
  subst same
  exact later result

/-- A command to which only one reply is like another one, itself, is told apart by nobody. -/
theorem step {command : Command} {next : Reply command → Program Result}
    (allowed : likeness.allows command)
    (distinct : ∀ reply other, likeness.alike command reply other → reply = other)
    (later : ∀ reply, (next reply).Overlooks likeness) :
    (Program.step command next).Overlooks likeness := by
  refine Matches.step allowed fun reply other isAlike => ?_
  cases distinct reply other isAlike
  exact later reply

theorem timed (allowsClock : likeness.allows .clock)
    (distinct : ∀ reply other, likeness.alike .clock reply other → reply = other)
    {program : Program Result} (overlooks : program.Overlooks likeness) :
    (timed program).Overlooks likeness :=
  step allowsClock distinct fun _ => overlooks.andThen fun _ => step allowsClock distinct fun _ => done _

end Overlooks

end Program

theorem Action.overlooks_bind {action : Action First} {next : First → Action Second}
    (earlier : action.toProgram.Overlooks likeness)
    (later : ∀ result, (next result).toProgram.Overlooks likeness) :
    (action >>= next).toProgram.Overlooks likeness := by
  rw [toProgram_bind]
  refine Program.Overlooks.andThen earlier fun outcome => ?_
  cases outcome with
  | error failure => exact .done _
  | ok result => exact later result

/-! ### Time that passes -/

/-- The nanoseconds that pass in so many moves. -/
def Move.span (moves : Nat → Move) : Nat → Nat
  | 0 => 0
  | count + 1 =>
    match moves count with
    | .step _ => span moves count
    | .wait nanoseconds => span moves count + nanoseconds

theorem Move.span_mono (moves : Nat → Move) {earlier later : Nat} (le : earlier ≤ later) :
    span moves earlier ≤ span moves later := by
  induction later, le using Nat.le_induction with
  | base => exact Nat.le_refl _
  | succ later _ inductionHypothesis =>
    rw [span]
    split
    · exact inductionHypothesis
    · exact Nat.le_trans inductionHypothesis (Nat.le_add_right _ _)

/-! ### Ways of carrying out commands -/

/-- A way of carrying out commands: the reply, where the server does not break down, and the world
afterwards. -/
abbrev Handling := (command : Command) → World → Option (Reply command) × World

/-- Two ways of carrying out commands give replies that are alike in worlds that correspond, and lead to
worlds that correspond again. This is asked for in certain worlds only. -/
structure Likeness.Joins (likeness : Likeness) (possible : World → Prop) (related : World → World → Prop)
    (here there : Handling) : Prop where
  carriesOut : ∀ command, likeness.allows command → ∀ world other, possible world → related world other →
    Option.Rel (likeness.alike command) (here command world).1 (there command other).1 ∧
      related (here command world).2 (there command other).2
  waits : ∀ span world other, related world other → related (world.waited span) (other.waited span)

namespace Threads

/-- Makes a move by a way of carrying out commands. -/
def moveBy (handling : Handling) (threads : Threads Result) : Move → Threads Result
  | .step place =>
    match threads.programs[place]? with
    | some (some (.step command next)) =>
      ⟨threads.programs.set place ((handling command threads.world).1.map next),
        (handling command threads.world).2⟩
    | _ => threads
  | .wait span => ⟨threads.programs, threads.world.waited span⟩

/-- What is come to after so many moves by a way of carrying out commands. -/
def afterBy (handling : Handling) (moves : Nat → Move) (threads : Threads Result) : Nat → Threads Result
  | 0 => threads
  | count + 1 => (afterBy handling moves threads count).moveBy handling (moves count)

variable {handling : Handling} {threads : Threads Result}

theorem moveBy_of_step {place : Nat} {command : Command} {next : Reply command → Program Result}
    (isThere : threads.programs[place]? = some (some (.step command next))) :
    threads.moveBy handling (.step place) =
      ⟨threads.programs.set place ((handling command threads.world).1.map next),
        (handling command threads.world).2⟩ := by
  rw [moveBy, isThere]

theorem moveBy_of_not_step {place : Nat}
    (noStep : ∀ command next, threads.programs[place]? ≠ some (some (.step command next))) :
    threads.moveBy handling (.step place) = threads := by
  rw [moveBy]
  split
  · rename_i command next isThere
    exact absurd isThere (noStep command next)
  · rfl

variable (surroundings : Surroundings)

theorem move_eq_moveBy (threads : Threads Result) (move : Move) :
    threads.move surroundings move = threads.moveBy (World.carryOut surroundings) move := by
  cases move with
  | wait span => rfl
  | step place =>
    rw [Threads.move]
    by_cases isStep : ∃ command next, threads.programs[place]? = some (some (.step command next))
    · obtain ⟨command, next, isThere⟩ := isStep
      rw [advanceAt_of_step isThere, moveBy_of_step isThere]
    · have noStep : ∀ command next, threads.programs[place]? ≠ some (some (.step command next)) :=
        fun command next isThere => isStep ⟨command, next, isThere⟩
      rw [advanceAt_of_not_step noStep, moveBy_of_not_step noStep]

/-- Moves are made by carrying out commands as a world does. -/
theorem after_eq_afterBy (moves : Nat → Move) (threads : Threads Result) (count : Nat) :
    threads.after surroundings moves count = threads.afterBy (World.carryOut surroundings) moves count := by
  induction count with
  | zero => rfl
  | succ count inductionHypothesis => rw [after, afterBy, inductionHypothesis, move_eq_moveBy]

/-- The clock goes on by what passes between the commands. -/
theorem now_after (moves : Nat → Move) (threads : Threads Result) (count : Nat) :
    (threads.after surroundings moves count).world.now = threads.world.now + Move.span moves count := by
  induction count with
  | zero => rfl
  | succ count inductionHypothesis =>
    rw [after, Move.span]
    cases moves count with
    | wait nanoseconds =>
      rw [Threads.move]
      dsimp only
      rw [inductionHypothesis, Nat.add_assoc]
    | step place =>
      rw [move_eq_moveBy]
      unfold Threads.moveBy
      dsimp only
      split
      · rw [← inductionHypothesis]
        exact World.now_carryOut surroundings _ _
      · exact inductionHypothesis

/-! ### Worlds side by side -/

/-- What has come of the program at a place. -/
def outcome? (threads : Threads Result) (place : Nat) : Option Result :=
  threads.programs[place]?.bind Program.result?

/-- Programs that run together match others place by place, and their worlds correspond. -/
structure Matches (likeness : Likeness) (ends : First → Second → Prop) (related : World → World → Prop)
    (threads : Threads First) (others : Threads Second) : Prop where
  programs : ∀ place : Nat, Option.Rel (Option.Rel (Program.Matches likeness ends))
    threads.programs[place]? others.programs[place]?
  world : related threads.world others.world

namespace Matches

variable {ends : First → Second → Prop} {related : World → World → Prop} {possible : World → Prop}
  {here there : Handling} {threads : Threads First} {others : Threads Second}

/-- Where a program goes on by a command its counterpart goes on by the same one. -/
theorem exists_step (isMatch : threads.Matches likeness ends related others) {place : Nat}
    {command : Command} {next : Reply command → Program First}
    (isThere : threads.programs[place]? = some (some (.step command next))) :
    ∃ nextThere, others.programs[place]? = some (some (.step command nextThere)) ∧
      likeness.allows command ∧ ∀ reply other, likeness.alike command reply other →
        Program.Matches likeness ends (next reply) (nextThere other) := by
  have pair := isMatch.programs place
  rw [isThere] at pair
  generalize others.programs[place]? = counterpart at pair ⊢
  cases pair with | some pair => ?_
  cases pair with | some pair => ?_
  cases pair with
  | step allowed later => exact ⟨_, rfl, allowed, later⟩

/-- Where a program has nothing left to do its counterpart has nothing left to do either. -/
theorem not_step (isMatch : threads.Matches likeness ends related others) {place : Nat}
    (noStep : ∀ command next, threads.programs[place]? ≠ some (some (.step command next)))
    (command : Command) (next : Reply command → Program Second) :
    others.programs[place]? ≠ some (some (.step command next)) := by
  intro isThere
  have pair := isMatch.programs place
  rw [isThere] at pair
  generalize atPlace : threads.programs[place]? = program at pair
  cases pair with | some pair => ?_
  cases pair with | some pair => ?_
  cases pair with
  | step allowed later => exact noStep _ _ atPlace

theorem step (isMatch : threads.Matches likeness ends related others)
    (joins : likeness.Joins possible related here there) (isPossible : possible threads.world)
    (place : Nat) :
    (threads.moveBy here (.step place)).Matches likeness ends related
      (others.moveBy there (.step place)) := by
  by_cases isStep : ∃ command next, threads.programs[place]? = some (some (.step command next))
  · obtain ⟨command, next, isThere⟩ := isStep
    obtain ⟨nextThere, atPlace, allowed, later⟩ := isMatch.exists_step isThere
    obtain ⟨replies, worlds⟩ := joins.carriesOut command allowed _ _ isPossible isMatch.world
    have goesOn : Option.Rel (Program.Matches likeness ends)
        ((here command threads.world).1.map next) ((there command others.world).1.map nextThere) := by
      generalize (here command threads.world).1 = reply at replies
      generalize (there command others.world).1 = counterReply at replies
      cases replies with
      | none => exact .none
      | some isAlike => exact .some (later _ _ isAlike)
    have isPlace : place < threads.programs.length := (List.getElem?_eq_some_iff.mp isThere).1
    have isPlaceThere : place < others.programs.length := (List.getElem?_eq_some_iff.mp atPlace).1
    rw [moveBy_of_step isThere, moveBy_of_step atPlace]
    refine ⟨fun other => ?_, worlds⟩
    dsimp only
    by_cases isOther : place = other
    · subst isOther
      rw [List.getElem?_set_self isPlace, List.getElem?_set_self isPlaceThere]
      exact .some goesOn
    · rw [List.getElem?_set_ne isOther, List.getElem?_set_ne isOther]
      exact isMatch.programs other
  · have noStep : ∀ command next, threads.programs[place]? ≠ some (some (.step command next)) :=
      fun command next isThere => isStep ⟨command, next, isThere⟩
    rw [moveBy_of_not_step noStep, moveBy_of_not_step (isMatch.not_step noStep)]
    exact isMatch

theorem moveBy (isMatch : threads.Matches likeness ends related others)
    (joins : likeness.Joins possible related here there) (isPossible : possible threads.world)
    (move : Move) :
    (threads.moveBy here move).Matches likeness ends related (others.moveBy there move) := by
  cases move with
  | step place => exact isMatch.step joins isPossible place
  | wait span => exact ⟨isMatch.programs, joins.waits span _ _ isMatch.world⟩

/-- What matches at first matches after any number of moves, if up to then the worlds are such as the two
ways of carrying out commands are compared in. -/
theorem afterBy (isMatch : threads.Matches likeness ends related others)
    (joins : likeness.Joins possible related here there) (moves : Nat → Move) (count : Nat)
    (isPossible : ∀ earlier < count, possible (threads.afterBy here moves earlier).world) :
    (threads.afterBy here moves count).Matches likeness ends related
      (others.afterBy there moves count) := by
  induction count with
  | zero => exact isMatch
  | succ count inductionHypothesis =>
    have before := inductionHypothesis fun earlier le => isPossible earlier (Nat.lt_succ_of_lt le)
    exact before.moveBy joins (isPossible count (Nat.lt_succ_self count)) (moves count)

/-- Programs that match come to their end together, with results that correspond. -/
theorem outcome? (isMatch : threads.Matches likeness ends related others) (place : Nat) :
    Option.Rel ends (threads.outcome? place) (others.outcome? place) := by
  unfold Threads.outcome?
  have pair := isMatch.programs place
  generalize threads.programs[place]? = program at pair
  generalize others.programs[place]? = counterpart at pair
  cases pair with
  | none => exact .none
  | some pair =>
    cases pair with
    | none => exact .none
    | some pair =>
      cases pair with
      | done isEnd => exact .some isEnd
      | step _ _ => exact .none

/-- Where every reply is like itself, programs that match with the same results, in the same world, are the
same. -/
theorem eq_of_alike_self {threads others : Threads Result}
    (isMatch : threads.Matches likeness Eq Eq others)
    (alikeSelf : ∀ command reply, likeness.alike command reply reply) : threads = others := by
  obtain ⟨programs, world⟩ := threads
  obtain ⟨programsThere, worldThere⟩ := others
  obtain rfl : world = worldThere := isMatch.world
  congr 1
  refine List.ext_getElem? fun place => ?_
  have pair := isMatch.programs place
  dsimp only at pair
  generalize programs[place]? = program at pair
  generalize programsThere[place]? = counterpart at pair
  cases pair with
  | none => rfl
  | some pair =>
    cases pair with
    | none => rfl
    | some same => rw [same.eq_of_alike_self alikeSelf]

end Matches

end Threads

end HandleFederation
