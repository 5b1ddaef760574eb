/-
This file says that a failing store fails no resolution. A resolution asks the store whether
something is remembered, and takes a failure for a no; it has things remembered, and does not
ask whether they were. So it cannot tell a store that fails from one that finds nothing, or
keeps nothing, in the same place. That is told from the tree of a resolution alone, once for
all that it may be compared with, and so it holds of resolutions that run together, with every
single operation failing or not as it pleases.
-/

import HandleFederation.Proofs.Likeness

namespace HandleFederation

open Program Text

/-! ### What a resolution overlooks -/

/-- Whether a command is one to the store for short-lived values. -/
def Command.usesStore : Command → Bool
  | .recall _ => true
  | .remember _ _ _ => true
  | .forget _ => true
  | .purge => true
  | _ => false

/-- Whether the reply of a store tells that something is remembered. A failure does not. -/
def Resolution.tellsRemembered : Except Failure (Option String) → Bool
  | .ok value => value.isSome
  | .error _ => false

/-- A likeness sees to the commands of resolutions: it allows them, with the windows of the service and
none that is empty, and of the replies that are alike both say that something is remembered or neither
does. Where the store has no part in a reply it is like no other one. -/
structure Likeness.SuitsResolutions (likeness : Likeness) (windows : Windows) : Prop where
  allows : ∀ command, command.usesStore = false → likeness.allows command
  distinct : ∀ command, command.usesStore = false →
    ∀ reply other, likeness.alike command reply other → reply = other
  allowsRecall : ∀ key, likeness.allows (.recall key)
  allowsRemember : ∀ key value, ∀ seconds ∈ [windows.missLifetime, windows.discoveryCooldown],
    seconds ≠ 0 → likeness.allows (.remember key value seconds)
  recalls : ∀ key reply other, likeness.alike (.recall key) reply other →
    Resolution.tellsRemembered reply = Resolution.tellsRemembered other

variable {Result : Type} {likeness : Likeness} {windows : Windows}

namespace Likeness.SuitsResolutions

variable (suits : likeness.SuitsResolutions windows)
include suits

/-- A reply in which the store has no part is told apart from any other one. -/
theorem step {command : Command} (noStore : command.usesStore = false)
    {next : Reply command → Program Result} (later : ∀ reply, (next reply).Overlooks likeness) :
    (Program.step command next).Overlooks likeness :=
  Overlooks.step (suits.allows command noStore) (suits.distinct command noStore) later

theorem perform {command : Command} (noStore : command.usesStore = false) :
    (Program.perform command).Overlooks likeness :=
  suits.step noStore fun reply => .done reply

theorem timed {program : Program Result} (overlooks : program.Overlooks likeness) :
    (timed program).Overlooks likeness :=
  overlooks.timed (suits.allows .clock rfl) (suits.distinct .clock rfl)

end Likeness.SuitsResolutions

namespace Resolution

variable {username domain : String} (suits : likeness.SuitsResolutions windows)
include suits

theorem overlooks_isRemembered (key : String) : (isRemembered key).Overlooks likeness := by
  refine Matches.step (suits.allowsRecall key) fun reply other isAlike => ?_
  have same := suits.recalls key reply other isAlike
  rcases reply with failure | value <;> rcases other with failureThere | valueThere <;>
    exact Matches.done same

theorem overlooks_remember (key : String) {seconds : Nat}
    (isWindow : seconds ∈ [windows.missLifetime, windows.discoveryCooldown]) :
    (remember key seconds).Overlooks likeness := by
  unfold remember
  split
  · exact .done _
  · rename_i notNone
    exact Matches.step (suits.allowsRemember key "1" seconds isWindow notNone) fun _ _ _ =>
      Matches.done rfl

theorem overlooks_discover : (discover windows domain).toProgram.Overlooks likeness := by
  have asks : (askDeclaration domain).Overlooks likeness := by
    unfold askDeclaration
    split
    · exact .done _
    · exact suits.step rfl fun _ => .done _
  have isWindow : windows.discoveryCooldown ∈ [windows.missLifetime, windows.discoveryCooldown] :=
    List.mem_cons_of_mem _ List.mem_cons_self
  have remembers := overlooks_remember suits (cooldownKey domain) isWindow
  refine (overlooks_isRemembered suits _).andThen fun isRemembered => ?_
  cases isRemembered with
  | true => exact .done _
  | false =>
    refine (suits.timed asks).andThen fun outcome => ?_
    rcases outcome with ⟨fault | declaration, seconds⟩
    · exact suits.step rfl fun _ => remembers.andThen fun _ => .done _
    · refine suits.step rfl fun _ => ?_
      dsimp only [done_andThen]
      split
      · exact remembers.andThen fun _ => .done _
      · exact .done _

theorem overlooks_askProfile : (askProfile username domain).toProgram.Overlooks likeness := by
  simp only [askProfile, Action.toProgram_bind, Action.toProgram_ofExcept, done_andThen]
  cases Profile.lookupUrl domain (lower username) with
  | error failure => exact .done _
  | ok url =>
    refine (suits.timed (suits.perform rfl)).andThen fun _ => ?_
    exact suits.step rfl fun _ => .done _

theorem overlooks_lookForStub (lifetime : Option Nat) :
    (lookForStub lifetime username domain).toProgram.Overlooks likeness := by
  have reads : (readStub lifetime username domain).toProgram.Overlooks likeness := by
    unfold readStub
    refine Action.overlooks_bind (suits.perform rfl) fun stub => ?_
    cases stub with
    | none => exact .done _
    | some user => exact Action.overlooks_bind (suits.step rfl fun _ => .done _) fun now => .done _
  refine Action.overlooks_bind reads fun cached => ?_
  exact Action.overlooks_bind (suits.step rfl fun _ => .done _) fun _ => .done _

theorem overlooks_authorize (instanceId : String) :
    (authorize instanceId domain).toProgram.Overlooks likeness := by
  refine Action.overlooks_bind (suits.perform rfl) fun mode => ?_
  cases mode with
  | closed => exact .done _
  | allowlist =>
    refine Action.overlooks_bind (suits.perform rfl) fun isActive => ?_
    cases isActive <;> exact .done _
  | anyone => exact .done _

theorem overlooks_fetch : (fetch windows username domain).toProgram.Overlooks likeness := by
  refine Action.overlooks_bind (overlooks_discover suits) fun declaration => ?_
  refine Action.overlooks_bind (overlooks_askProfile suits) fun answer => ?_
  cases answer with
  | found profile =>
    refine Action.overlooks_bind (suits.step rfl fun _ => .done _) fun now => ?_
    exact suits.perform rfl
  | missing => exact (overlooks_remember suits _ List.mem_cons_self).andThen fun _ => .done _
  | unusable => exact .done _

theorem overlooks_fetchOr (stale : Option User) :
    (fetchOr windows username domain stale).toProgram.Overlooks likeness := by
  refine (overlooks_fetch suits).andThen fun outcome => ?_
  split <;> exact .done _

theorem overlooks_resolveRemote (username domain : String) :
    (resolveRemote windows username domain).toProgram.Overlooks likeness := by
  have recalls : (Action.ofProgram do
      return .ok (← isRemembered (missKey username domain)) : Action Bool).toProgram.Overlooks
        likeness :=
    (overlooks_isRemembered suits _).andThen fun _ => .done _
  unfold resolveRemote
  refine Action.overlooks_bind (overlooks_lookForStub suits _) fun cached => ?_
  split
  · exact .done _
  · refine Action.overlooks_bind recalls fun remembered => ?_
    split
    · exact .done _
    · split
      · exact overlooks_fetchOr suits _
      · exact overlooks_fetchOr suits none

end Resolution

namespace Service

variable {service : Service} (suits : likeness.SuitsResolutions service.windows)
include suits

theorem overlooks_resolveHandle (handle : Handle) :
    (Resolution.resolveHandle service handle).toProgram.Overlooks likeness := by
  unfold Resolution.resolveHandle
  refine Action.overlooks_bind (.done _) fun _ => ?_
  cases Resolution.foreignDomain? service handle with
  | none =>
    refine Action.overlooks_bind (suits.perform rfl) fun account => ?_
    cases account <;> exact .done _
  | some domainText =>
    refine Action.overlooks_bind (Resolution.overlooks_authorize suits _) fun _ => ?_
    exact Action.overlooks_bind (.done _) fun name => Resolution.overlooks_resolveRemote suits _ _

/-- A resolution does not tell replies of the store apart by anything but what they say is remembered. -/
theorem overlooks_resolve (text : String) : (service.resolve text).toProgram.Overlooks likeness := by
  unfold Service.resolve
  rw [Action.toProgram_ofProgram]
  refine (overlooks_resolveHandle suits (Handle.read text)).andThen fun outcome => ?_
  exact suits.step rfl fun _ => .done outcome

end Service

/-! ### A store that finds nothing and keeps nothing -/

/-- Carries out a command over another store: where the store fails to give a value this one finds nothing,
and where the store fails to keep a value this one keeps nothing, and says nothing of it. -/
def World.carryOutForgetfully (surroundings : Surroundings) : Handling
  | .recall key, world =>
    match surroundings.storeFailure .get world.storeCalls with
    | some _ => (some (.ok none), world.called)
    | none => world.carryOut surroundings (.recall key)
  | .remember key value seconds, world =>
    match surroundings.storeFailure .set world.storeCalls with
    | some _ => (some (.ok ()), world.called)
    | none => world.carryOut surroundings (.remember key value seconds)
  | command, world => world.carryOut surroundings command

/-- The reply of a store that fails is like that of one that finds nothing, or keeps nothing. -/
def Likeness.ofForgetting : Likeness where
  allows _ := True
  alike
    | .recall _, reply, other => reply = other ∨ (∃ failure, reply = .error failure) ∧ other = .ok none
    | .remember _ _ _, reply, other =>
      reply = other ∨ (∃ failure, reply = .error failure) ∧ other = .ok ()
    | _, reply, other => reply = other

namespace Likeness

theorem ofForgetting_self (command : Command) (reply : Reply command) :
    ofForgetting.alike command reply reply := by
  cases command with
  | «recall» key => exact Or.inl rfl
  | remember key value seconds => exact Or.inl rfl
  | _ => rfl

theorem suitsResolutions_ofForgetting (windows : Windows) : ofForgetting.SuitsResolutions windows where
  allows _ _ := trivial
  distinct command noStore reply other isAlike := by
    cases command with
    | «recall» key => cases noStore
    | remember key value seconds => cases noStore
    | _ => exact isAlike
  allowsRecall _ := trivial
  allowsRemember _ _ _ _ _ := trivial
  recalls key reply other isAlike := by
    rcases isAlike with rfl | ⟨⟨failure, rfl⟩, rfl⟩ <;> rfl

/-- A command over a store that fails and over one that forgets instead leads to the same world, with
replies that are alike. -/
theorem joins_ofForgetting (surroundings : Surroundings) :
    ofForgetting.Joins (fun _ => True) Eq (World.carryOut surroundings)
      (World.carryOutForgetfully surroundings) where
  carriesOut command _ world other _ same := by
    subst same
    have self : ∀ outcome : Option (Reply command) × World,
        Option.Rel (ofForgetting.alike command) outcome.1 outcome.1 ∧ outcome.2 = outcome.2 := by
      rintro ⟨_ | reply, after⟩
      · exact ⟨.none, rfl⟩
      · exact ⟨.some (ofForgetting_self command reply), rfl⟩
    cases command with
    | «recall» key =>
      unfold World.carryOutForgetfully
      dsimp only
      split
      · rename_i failure fails
        rw [World.carryOut, World.useStore, fails]
        exact ⟨.some (Or.inr ⟨⟨failure, rfl⟩, rfl⟩), rfl⟩
      · exact self _
    | remember key value seconds =>
      unfold World.carryOutForgetfully
      dsimp only
      split
      · rename_i failure fails
        rw [World.carryOut, World.useStore, fails]
        exact ⟨.some (Or.inr ⟨⟨failure, rfl⟩, rfl⟩), rfl⟩
      · exact self _
    | _ => exact self _
  waits span world other same := congrArg (World.waited span) same

end Likeness

/-- Resolutions that run together in a world. -/
def Service.resolving (service : Service) (texts : List String) (world : World) :
    Threads (Except Failure Resolved) :=
  ⟨texts.map fun text => some (service.resolve text).toProgram, world⟩

/-- Resolutions go on just as they would over a store that finds nothing where this one fails to give a
value, and keeps nothing where this one fails to keep one: whatever operations fail, and in whatever order
the resolutions take turns, they come to the same results, and the world to the same requests and the same
tables. -/
theorem Service.resolving_forgetfully (service : Service) (surroundings : Surroundings)
    (texts : List String) (world : World) (moves : Nat → Move) (count : Nat) :
    (service.resolving texts world).afterBy (World.carryOutForgetfully surroundings) moves count =
      (service.resolving texts world).after surroundings moves count := by
  have suits := Likeness.suitsResolutions_ofForgetting service.windows
  have begins : (service.resolving texts world).Matches Likeness.ofForgetting Eq Eq
      (service.resolving texts world) := by
    refine ⟨fun place => ?_, rfl⟩
    rw [resolving, List.getElem?_map]
    cases texts[place]? with
    | none => exact .none
    | some text => exact .some (.some (overlooks_resolve suits text))
  have ends := begins.afterBy (Likeness.joins_ofForgetting surroundings) moves count fun _ _ => trivial
  rw [Threads.after_eq_afterBy]
  exact (ends.eq_of_alike_self Likeness.ofForgetting_self).symm

end HandleFederation
