/-
This file runs programs together in any order. At each moment one of them goes on by a
command, or nothing happens but that time passes, and a schedule says which of these
comes next, for ever. A schedule is fair when no program is kept waiting for ever. Under
a fair one every program that does not break down comes to its end: a program is a tree
without infinite branches, so that each of its turns leaves less of it to be done.
-/

import HandleFederation.Proofs.Contract
import Mathlib.Data.Nat.Init

namespace HandleFederation

variable {Result : Type} (surroundings : Surroundings)

/-- What may come next where programs run together. -/
inductive Move where
  /-- The program at a place carries out its next command. -/
  | step (place : Nat)
  /-- So many nanoseconds pass. -/
  | wait (span : Nat)

/-- No program at so many places is kept waiting for ever. -/
def Move.IsFair (moves : Nat → Move) (places : Nat) : Prop :=
  ∀ place < places, ∀ time, ∃ later, time ≤ later ∧ moves later = .step place

namespace Threads

/-! ### One move after another -/

/-- Makes a move. -/
def move (threads : Threads Result) : Move → Threads Result
  | .step place => threads.advanceAt surroundings place
  | .wait span =>
    ⟨threads.programs, { threads.world with now := threads.world.now + span }⟩

/-- What is come to after so many moves. -/
def after (moves : Nat → Move) (threads : Threads Result) : Nat → Threads Result
  | 0 => threads
  | count + 1 => (after moves threads count).move surroundings (moves count)

variable {surroundings} {threads : Threads Result} {moves : Nat → Move}

/-- What a run starts with, and every move keeps, it always has. -/
theorem holds_after {holds : Threads Result → Prop}
    (stays : ∀ threads : Threads Result, holds threads → ∀ move, holds (threads.move surroundings move))
    (before : holds threads) (time : Nat) : holds (threads.after surroundings moves time) := by
  induction time with
  | zero => exact before
  | succ time inductionHypothesis => exact stays _ inductionHypothesis (moves time)

/-! ### One program among others -/

/-- A program stays as it is until it is its turn. -/
theorem getElem?_move_of_ne {place : Nat} {move : Move} (notTurn : move ≠ .step place) :
    (threads.move surroundings move).programs[place]? = threads.programs[place]? := by
  cases move with
  | step other =>
    have differs : other ≠ place := fun same => notTurn (congrArg Move.step same)
    show (threads.advanceAt surroundings other).programs[place]? = threads.programs[place]?
    unfold advanceAt
    split
    · rfl
    · exact List.getElem?_set_ne differs
  | wait span => rfl

/-- A program that has come to its end stays there. -/
theorem getElem?_move_of_done {place : Nat} {result : Result}
    (isDone : threads.programs[place]? = some (some (.done result))) (move : Move) :
    (threads.move surroundings move).programs[place]? = some (some (.done result)) := by
  by_cases turn : move = .step place
  · subst turn
    have same : threads.advanceAt surroundings place = threads :=
      advanceAt_of_not_step fun command next isStep => nomatch isDone.symm.trans isStep
    rw [Threads.move, same]
    exact isDone
  · rw [getElem?_move_of_ne turn]
    exact isDone

/-- A program whose turn it is goes on, unless it breaks down. -/
theorem exists_getElem?_move {place : Nat} {command : Command} {next : Reply command → Program Result}
    (isThere : threads.programs[place]? = some (some (.step command next)))
    (unbroken : (threads.move surroundings (.step place)).programs[place]? ≠ some none) :
    ∃ reply, (threads.move surroundings (.step place)).programs[place]? = some (some (next reply)) := by
  have isPlace : place < threads.programs.length := (List.getElem?_eq_some_iff.mp isThere).1
  rw [Threads.move, advanceAt_of_step isThere] at unbroken ⊢
  rw [List.getElem?_set_self isPlace] at unbroken ⊢
  cases replied : (threads.world.carryOut surroundings command).1 with
  | none =>
    rw [replied] at unbroken
    exact absurd rfl unbroken
  | some reply => exact ⟨reply, rfl⟩

/-! ### Fair schedules -/

section

variable {place : Nat}

theorem getElem?_after_of_done {result : Result} {time later : Nat} (le : time ≤ later)
    (isDone : (threads.after surroundings moves time).programs[place]? = some (some (.done result))) :
    (threads.after surroundings moves later).programs[place]? = some (some (.done result)) := by
  induction later, le using Nat.le_induction with
  | base => exact isDone
  | succ later _ inductionHypothesis => exact getElem?_move_of_done inductionHypothesis (moves later)

/-- A program that is there when its turn is so many moves away is still there at its first turn. -/
theorem exists_turn {program : Option (Program Result)} {wait time : Nat}
    (turn : moves (time + wait) = .step place)
    (isThere : (threads.after surroundings moves time).programs[place]? = some program) :
    ∃ later, time ≤ later ∧ moves later = .step place ∧
      (threads.after surroundings moves later).programs[place]? = some program := by
  induction wait generalizing time with
  | zero => exact ⟨time, Nat.le_refl time, turn, isThere⟩
  | succ wait inductionHypothesis =>
    by_cases now : moves time = .step place
    · exact ⟨time, Nat.le_refl time, now, isThere⟩
    · have still : (threads.after surroundings moves (time + 1)).programs[place]? = some program :=
        (getElem?_move_of_ne now).trans isThere
      rw [Nat.add_succ, ← Nat.succ_add] at turn
      obtain ⟨later, le, itsTurn, stillThere⟩ := inductionHypothesis turn still
      exact ⟨later, Nat.le_trans (Nat.le_succ time) le, itsTurn, stillThere⟩

/-- A program that gets its turn again and again and does not break down comes to its end. The induction
is on what is left of the program. -/
theorem exists_done (turns : ∀ time, ∃ later, time ≤ later ∧ moves later = .step place)
    (unbroken : ∀ time, (threads.after surroundings moves time).programs[place]? ≠ some none)
    (program : Program Result) {time : Nat}
    (isThere : (threads.after surroundings moves time).programs[place]? = some (some program)) :
    ∃ later result,
      (threads.after surroundings moves later).programs[place]? = some (some (.done result)) := by
  induction program generalizing time with
  | done result => exact ⟨time, result, isThere⟩
  | step command next inductionHypothesis =>
    obtain ⟨itsTime, le, turn⟩ := turns time
    obtain ⟨wait, rfl⟩ := Nat.exists_eq_add_of_le le
    obtain ⟨later, -, itsTurn, stillThere⟩ := exists_turn turn isThere
    have unbrokenThen := unbroken (later + 1)
    rw [after, itsTurn] at unbrokenThen
    obtain ⟨reply, goesOn⟩ := exists_getElem?_move stillThere unbrokenThen
    rw [← itsTurn, ← after] at goesOn
    exact inductionHypothesis reply goesOn

end

/-- Under a fair schedule there is a time from which on all programs have come to their end, if none of
them breaks down. -/
theorem exists_forall_done (isFair : Move.IsFair moves threads.programs.length)
    (unbroken : ∀ time, none ∉ (threads.after surroundings moves time).programs) :
    ∃ time, ∀ later, time ≤ later → ∀ place < threads.programs.length,
      ∃ result, (threads.after surroundings moves later).programs[place]? =
        some (some (.done result)) := by
  have upTo : ∀ places ≤ threads.programs.length, ∃ time, ∀ later, time ≤ later → ∀ place < places,
      ∃ result, (threads.after surroundings moves later).programs[place]? =
        some (some (.done result)) := by
    intro places
    induction places with
    | zero => exact fun _ => ⟨0, fun _ _ _ absurdly => absurd absurdly (Nat.not_lt_zero _)⟩
    | succ places inductionHypothesis =>
      intro isWithin
      obtain ⟨time, others⟩ := inductionHypothesis (Nat.le_of_succ_le isWithin)
      obtain ⟨program, isThere⟩ : ∃ program, threads.programs[places]? = some program :=
        ⟨_, List.getElem?_eq_getElem isWithin⟩
      cases program with
      | none => exact absurd (List.mem_of_getElem? isThere) (unbroken 0)
      | some program =>
        have begins : (threads.after surroundings moves 0).programs[places]? = some (some program) :=
          isThere
        obtain ⟨itsTime, result, isDone⟩ := exists_done (isFair places isWithin)
          (fun time isBroken => unbroken time (List.mem_of_getElem? isBroken)) program begins
        refine ⟨max time itsTime, fun later le place isPlace => ?_⟩
        rcases Nat.lt_succ_iff_lt_or_eq.mp isPlace with isBefore | rfl
        · exact others later (Nat.le_trans (Nat.le_max_left _ _) le) place isBefore
        · exact ⟨result, getElem?_after_of_done (Nat.le_trans (Nat.le_max_right _ _) le) isDone⟩
  exact upTo _ (Nat.le_refl _)

end Threads

end HandleFederation
