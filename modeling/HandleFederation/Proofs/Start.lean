/-
This file says what a start does. It writes the row of this instance and then approves
the peers in the settings, one after another. All of that succeeds over an open database,
since the row to which the peers belong has just been written. What is to be known about
the world after a start is therefore known once it is true when the row is there and stays true
when a peer is approved.
-/

import HandleFederation.Proofs.DomainShare

namespace HandleFederation

open Program

namespace World

variable {world : World} {instanceId : String}

/-- An instance is there as soon as its place is. -/
theorem hasInstance_of_mem_addresses {domain : String}
    (isAddress : (instanceId, domain) ∈ world.tables.addresses) :
    world.tables.hasInstance instanceId = true := by
  obtain ⟨row, isRow, same⟩ := List.mem_map.mp isAddress
  exact Tables.hasInstance_of_mem (List.mem_map.mpr ⟨row, isRow, congrArg Prod.fst same⟩)

/-- Approving a peer of an instance that is there succeeds, and touches the peers alone. -/
theorem IsSound.run_approve (sound : world.IsSound) (isThere : world.tables.hasInstance instanceId = true)
    (surroundings : Surroundings) (domain : String) (status : PeerStatus) :
    ∃ peer tables, tables.instances = world.tables.instances ∧
      world.carryOut surroundings (.writePeer instanceId domain status world.time) =
        (some (.ok peer), { world with tables := tables }) ∧
      (Service.approve instanceId domain status).toProgram.run surroundings world =
        (some (.ok peer), { world with tables := tables }) := by
  obtain ⟨peer, tables, written⟩ : ∃ peer tables,
      world.tables.putPeer instanceId domain status world.time = .ok (peer, tables) := by
    unfold Tables.putPeer
    split
    · exact ⟨_, _, rfl⟩
    · rw [if_pos isThere]
      exact ⟨_, _, rfl⟩
  have carried : world.carryOut surroundings (.writePeer instanceId domain status world.time) =
      (some (.ok peer), { world with tables := tables }) := by
    rw [carryOut_writePeer, changeTables_of_ok sound.isOpen written]
    rfl
  refine ⟨peer, tables, Tables.instances_putPeer written, carried, ?_⟩
  simp only [Service.approve, currentTime, Action.toProgram_bind, Action.toProgram_ofProgram,
    bind_eq_andThen, perform, step_andThen, done_andThen, pure_eq_done, run_step, carryOut_clock, carried,
    run_done]

/-- What is true, and stays true when a peer is approved, is true after a list of them was. The domains
that were approved so far are given with the latest one first. -/
theorem IsSound.run_approveAll (surroundings : Surroundings) (holds : List String → World → Prop)
    (stays : ∀ approved between domain peer after, holds approved between →
      between.carryOut surroundings (.writePeer instanceId domain .active between.time) =
        (some (.ok peer), after) → holds (domain :: approved) after) (domains : List String) :
    ∀ (approved : List String) (world : World), world.IsSound →
      world.tables.hasInstance instanceId = true → holds approved world →
      ∃ after, (Service.approveAll instanceId domains).toProgram.run surroundings world =
          (some (.ok ()), after) ∧ holds (domains.reverse ++ approved) after := by
  induction domains with
  | nil => exact fun _ world _ _ holdsNow => ⟨world, rfl, holdsNow⟩
  | cons domain rest inductionHypothesis =>
    intro approved world sound isThere holdsNow
    obtain ⟨peer, tables, sameInstances, carried, run⟩ := sound.run_approve isThere surroundings domain .active
    have soundThen := isSound_carryOut sound surroundings (.writePeer instanceId domain .active world.time)
    rw [carried] at soundThen
    have stillThere : tables.hasInstance instanceId = true := by
      rw [Tables.hasInstance, Tables.instanceWithId?, sameInstances]
      exact isThere
    obtain ⟨after, restApproved, holdsThen⟩ := inductionHypothesis (domain :: approved) _ soundThen stillThere
      (stays approved world domain peer _ holdsNow carried)
    refine ⟨after, ?_, ?_⟩
    · rw [Service.approveAll, Action.toProgram_bind, run_andThen, run]
      exact restApproved
    · rw [List.reverse_cons, List.append_assoc]
      exact holdsThen

/-- A start succeeds. What is true once the row is written, and stays true when a peer is approved, is true
after it. -/
theorem IsSound.run_start (sound : world.IsSound) (surroundings : Surroundings) (configuration : Configuration) :
    ∃ home between after,
      world.carryOut surroundings (.writeLocal (Service.localSettings configuration) world.time) =
        (some (.ok home), between) ∧
      (Service.start configuration).toProgram.run surroundings world =
        (some (.ok ⟨configuration, home⟩), after) ∧
      ∀ holds : List String → World → Prop, holds [] between →
        (∀ approved between domain peer after, holds approved between →
          between.carryOut surroundings (.writePeer home.id domain .active between.time) =
            (some (.ok peer), after) → holds (domain :: approved) after) →
        holds configuration.federation.allowedPeers.reverse after := by
  obtain ⟨home, between, wrote⟩ : ∃ home between, world.carryOut surroundings
      (.writeLocal (Service.localSettings configuration) world.time) = (some (.ok home), between) :=
    ⟨_, _, carryOut_writeLocal_of_isSound sound surroundings _ _⟩
  have soundThen := isSound_carryOut sound surroundings
    (.writeLocal (Service.localSettings configuration) world.time)
  rw [wrote] at soundThen
  have isThere := hasInstance_of_mem_addresses (Service.address_of_writeLocal wrote).1
  obtain ⟨after, approved, -⟩ := run_approveAll surroundings (fun _ _ => True)
    (fun _ _ _ _ _ _ _ => trivial) configuration.federation.allowedPeers [] between soundThen isThere trivial
  refine ⟨home, between, after, wrote, ?_, fun holds holdsNow stays => ?_⟩
  · rw [Service.start, Action.toProgram_bind, run_andThen, Service.run_writeHome, wrote]
    dsimp only
    rw [Action.toProgram_bind, run_andThen, approved]
    rfl
  · obtain ⟨last, alsoApproved, holdsThen⟩ := run_approveAll surroundings holds stays
      configuration.federation.allowedPeers [] between soundThen isThere holdsNow
    rw [approved] at alsoApproved
    cases alsoApproved
    rwa [List.append_nil] at holdsThen

end World

end HandleFederation
