/-
This file says how a store in the memory of the process keeps its values. No key stands
twice in it, so that what is dropped, because it is forgotten or has expired, uncovers
nothing else: a value is there until its time, unless its key is set or forgotten, and
purging takes nothing away that could still be asked for. A chore sets and forgets no
key but the one by which the store is probed.
-/

import HandleFederation.Proofs.History

namespace HandleFederation

open Program

/-! ### Entries -/

namespace TimedEntries

variable {store : TimedEntries}

/-- No key stands twice. -/
def IsKeyed (store : TimedEntries) : Prop :=
  (store.entries.map Prod.fst).Nodup

theorem isKeyed_empty : empty.IsKeyed :=
  List.nodup_nil

theorem map_fst_putEntry (key : String) (entry : TimedValue) (entries : List (String × TimedValue)) :
    (putEntry key entry entries).map Prod.fst =
      if key ∈ entries.map Prod.fst then entries.map Prod.fst else entries.map Prod.fst ++ [key] := by
  induction entries with
  | nil => rfl
  | cons head rest inductionHypothesis =>
    obtain ⟨held, kept⟩ := head
    unfold putEntry
    by_cases same : held = key
    · simp [same]
    · have differs : key ≠ held := fun other => same other.symm
      simp only [if_neg same, List.map_cons, inductionHypothesis, List.mem_cons, differs, false_or]
      split <;> rfl

theorem IsKeyed.put (keyed : store.IsKeyed) (key value : String) (expiry : Nat) :
    (store.put key value expiry).IsKeyed := by
  unfold IsKeyed TimedEntries.put
  dsimp only
  rw [map_fst_putEntry]
  split
  · exact keyed
  · rename_i isNew
    exact List.nodup_append.mpr ⟨keyed, List.nodup_singleton key, by
      intro held isHeld other isOther same
      rw [List.mem_singleton.mp isOther] at same
      exact isNew (same ▸ isHeld)⟩

theorem IsKeyed.filter (keyed : store.IsKeyed) (test : String × TimedValue → Bool) :
    IsKeyed ⟨store.entries.filter test⟩ :=
  List.Nodup.sublist (List.Sublist.map Prod.fst List.filter_sublist) keyed

/-- What is dropped uncovers nothing else. -/
theorem lookup_filter {entries : List (String × TimedValue)} (keyed : (entries.map Prod.fst).Nodup)
    (test : String × TimedValue → Bool) (key : String) :
    (entries.filter test).lookup key = (entries.lookup key).filter fun value => test (key, value) := by
  induction entries with
  | nil => rfl
  | cons head rest inductionHypothesis =>
    obtain ⟨held, value⟩ := head
    rw [List.map_cons, List.nodup_cons] at keyed
    have later := inductionHypothesis keyed.2
    rw [List.filter_cons, lookup_cons_eq_ite]
    by_cases same : key = held
    · subst same
      have noOther : rest.lookup key = none :=
        List.lookup_eq_none_iff.mpr fun entry member => bne_iff_ne.mpr fun isKey =>
          keyed.1 (List.mem_map.mpr ⟨entry, member, isKey.symm⟩)
      rw [noOther, Option.filter_none] at later
      rw [if_pos rfl, Option.filter_some]
      split
      · rw [lookup_cons_eq_ite, if_pos rfl]
      · exact later
    · rw [if_neg same, ← later]
      split
      · rw [lookup_cons_eq_ite, if_neg same]
      · rfl

theorem get?_put (now expiry : Nat) (key value other : String) :
    (store.put key value expiry).get? now other =
      if other = key then if now < expiry then some value else none else store.get? now other := by
  unfold get? put
  dsimp only
  rw [lookup_putEntry]
  by_cases same : other = key <;> simp [same]

theorem IsKeyed.get?_delete (keyed : store.IsKeyed) (now : Nat) {key other : String} (differs : other ≠ key) :
    (store.delete key).get? now other = store.get? now other := by
  have keeps : ∀ value : TimedValue, ((other, value).1 != key) = true := fun _ => bne_iff_ne.mpr differs
  unfold get? delete
  dsimp only
  rw [lookup_filter keyed]
  cases store.entries.lookup other with
  | none => rfl
  | some value => rw [Option.filter_some, if_pos (keeps value)]

/-- What has expired cannot be asked for later. -/
theorem IsKeyed.get?_live (keyed : store.IsKeyed) {now later : Nat} (le : now ≤ later) (key : String) :
    (store.live now).get? later key = store.get? later key := by
  unfold get? live
  dsimp only
  rw [lookup_filter keyed]
  cases store.entries.lookup key with
  | none => rfl
  | some value =>
    rw [Option.filter_some]
    by_cases isLive : now < value.expiry
    · simp [isLive]
    · have isOver : ¬ later < value.expiry := fun early => isLive (Nat.lt_of_le_of_lt le early)
      simp [isLive, isOver]

/-- What can be asked for at one time could be asked for before. -/
theorem isSome_get?_of_le {now later : Nat} (le : now ≤ later) {key : String}
    (isThere : (store.get? later key).isSome = true) : (store.get? now key).isSome = true := by
  unfold get? at isThere ⊢
  cases found : store.entries.lookup key with
  | none =>
    rw [found] at isThere
    cases isThere
  | some value =>
    rw [found] at isThere
    dsimp only at isThere ⊢
    split at isThere
    · rename_i early
      rw [if_pos (Nat.lt_of_le_of_lt le early)]
      rfl
    · cases isThere

theorem eq_of_expiry? {now seconds expiry : Nat} (isExpiry : expiry? now seconds = some expiry) :
    expiry = now + seconds * perSecond := by
  unfold expiry? at isExpiry
  dsimp only at isExpiry
  split at isExpiry
  · exact (Option.some.inj isExpiry).symm
  · cases isExpiry

/-- A value can be kept for so many seconds unless they reach beyond the last point of time. -/
theorem expiry?_eq_none_iff {now seconds : Nat} :
    expiry? now seconds = none ↔ secondsLimit ≤ now / perSecond + seconds := by
  have whole : (now + seconds * perSecond) / perSecond = now / perSecond + seconds :=
    Nat.add_mul_div_right now seconds (by decide)
  unfold expiry?
  dsimp only
  rw [whole, ite_eq_right_iff, ← Nat.not_lt]
  exact forall_congr' fun _ => iff_of_false (Option.some_ne_none _) id

end TimedEntries

/-! ### The store -/

namespace ShortTermStore

/-- A store is in the memory of the process, where no key stands twice. -/
inductive IsInProcess : ShortTermStore → Prop
  | memory {entries : TimedEntries} (keyed : entries.IsKeyed) : IsInProcess (.memory entries)

/-- A store has the same values as another one for all keys but one, from a time on. -/
def AgreesFrom (now : Nat) (key : String) (before after : ShortTermStore) : Prop :=
  ∀ other ≠ key, ∀ later, now ≤ later → after.get? later other = before.get? later other

variable {store : ShortTermStore}

theorem IsInProcess.exists_memory (inProcess : store.IsInProcess) :
    ∃ entries, store = .memory entries ∧ entries.IsKeyed := by
  cases inProcess with
  | memory keyed => exact ⟨_, rfl, keyed⟩

/-- A value that is set is there until its time, and others stay. -/
theorem IsInProcess.of_set? (inProcess : store.IsInProcess) {now seconds : Nat} {key value : String}
    {after : ShortTermStore} (isSet : store.set? now key value seconds = some after) :
    after.IsInProcess ∧ ∀ later other, after.get? later other =
      if other = key then
        if later < now + seconds * TimedEntries.perSecond then some value else none
      else store.get? later other := by
  obtain ⟨entries, rfl, keyed⟩ := inProcess.exists_memory
  obtain ⟨expiry, isExpiry, rfl⟩ := Option.map_eq_some_iff.mp isSet
  obtain rfl := TimedEntries.eq_of_expiry? isExpiry
  exact ⟨.memory (keyed.put key value _), fun later other => TimedEntries.get?_put later _ key value other⟩

theorem IsInProcess.delete (inProcess : store.IsInProcess) (now : Nat) (key : String) :
    (store.delete now key).IsInProcess ∧ AgreesFrom now key store (store.delete now key) := by
  obtain ⟨entries, rfl, keyed⟩ := inProcess.exists_memory
  exact ⟨.memory (keyed.filter _), fun other differs later _ => keyed.get?_delete later differs⟩

/-- Purging takes nothing away that could still be asked for. -/
theorem IsInProcess.purge (inProcess : store.IsInProcess) (now : Nat) :
    (store.purge now).2.IsInProcess ∧
      ∀ key later, now ≤ later → (store.purge now).2.get? later key = store.get? later key := by
  obtain ⟨entries, rfl, keyed⟩ := inProcess.exists_memory
  exact ⟨.memory (keyed.filter _), fun key later le => keyed.get?_live le key⟩

theorem IsInProcess.isSome_get?_of_le (inProcess : store.IsInProcess) {now later : Nat} (le : now ≤ later)
    {key : String} (isThere : (store.get? later key).isSome = true) :
    (store.get? now key).isSome = true := by
  obtain ⟨entries, rfl, -⟩ := inProcess.exists_memory
  exact TimedEntries.isSome_get?_of_le le isThere

end ShortTermStore

/-! ### Chores -/

/-- The use of a store leaves it alone or leads to another one. -/
theorem World.store_useStore_cases {Result : Type} (surroundings : Surroundings) (operation : StoreOperation)
    (use : World → Option (Result × ShortTermStore)) (world : World) :
    (world.useStore surroundings operation use).2.store = world.store ∨
      ∃ used, use world = some used ∧ (world.useStore surroundings operation use).2.store = used.2 := by
  unfold useStore
  dsimp only
  split
  · exact Or.inl rfl
  · split
    · rename_i result store used
      exact Or.inr ⟨_, used, rfl⟩
    · exact Or.inl rfl

/-- What a chore does with a store in the memory leaves all values as they are but the one by which the
store is probed. -/
theorem World.store_carryOut_of_chore {home : Instance} {world : World}
    (inProcess : world.store.IsInProcess) (surroundings : Surroundings) {command : Command}
    (allowed : (Contract.ofChore home).allows command) :
    (world.carryOut surroundings command).2.store.IsInProcess ∧
      world.store.AgreesFrom world.now Health.probeKey (world.carryOut surroundings command).2.store := by
  have ofSame : ∀ store, store = world.store →
      store.IsInProcess ∧ world.store.AgreesFrom world.now Health.probeKey store := by
    rintro store rfl
    exact ⟨inProcess, fun _ _ _ _ => rfl⟩
  cases command with
  | writeLocal settings now => cases allowed
  | writeRemote settings now => cases allowed
  | writeStub instanceId fields now => cases allowed
  | writeRemoteUser settings fields now => cases allowed
  | writeMode instanceId mode =>
    rw [carryOut_writeMode]
    exact ofSame _ (store_changeTables world _ _)
  | writePeer instanceId domain status now =>
    rw [carryOut_writePeer]
    exact ofSame _ (store_changeTables world _ _)
  | writeAccount instanceId username displayName now =>
    rw [carryOut_writeAccount]
    exact ofSame _ (store_changeTables world _ _)
  | «recall» key =>
    rcases store_useStore_cases surroundings .get (fun world =>
      some (world.store.get? world.now key, world.store)) world with unchanged | ⟨used, isUsed, same⟩
    · exact ofSame _ unchanged
    · cases isUsed
      exact ofSame _ same
  | remember key value seconds =>
    obtain rfl := allowed
    rcases store_useStore_cases surroundings .set (fun world =>
      (world.store.set? world.now Health.probeKey value seconds).map fun store => ((), store)) world with
      unchanged | ⟨used, isUsed, same⟩
    · exact ofSame _ unchanged
    · obtain ⟨store, isSet, rfl⟩ := Option.map_eq_some_iff.mp isUsed
      obtain ⟨kept, values⟩ := inProcess.of_set? isSet
      have agrees : world.store.AgreesFrom world.now Health.probeKey store := by
        intro other differs later _
        rw [values, if_neg differs]
      dsimp only at same
      rw [← same] at kept agrees
      exact ⟨kept, agrees⟩
  | forget key =>
    obtain rfl := allowed
    have deleted := inProcess.delete world.now Health.probeKey
    rcases store_useStore_cases surroundings .delete (fun world =>
      some ((), world.store.delete world.now Health.probeKey)) world with unchanged | ⟨used, isUsed, same⟩
    · exact ofSame _ unchanged
    · cases isUsed
      dsimp only at same
      rw [← same] at deleted
      exact deleted
  | purge =>
    obtain ⟨kept, values⟩ := inProcess.purge world.now
    rcases store_useStore_cases surroundings .purge (fun world => some (world.store.purge world.now))
      world with unchanged | ⟨used, isUsed, same⟩
    · exact ofSame _ unchanged
    · cases isUsed
      rw [← same] at kept values
      exact ⟨kept, fun other _ => values other⟩
  | _ => exact ofSame _ rfl

/-- Doing a chore leaves the values of a store in the memory as they are, but the one by which the store is
probed. -/
theorem Chore.store_run (service : Service) (chore : Chore) (surroundings : Surroundings) {world : World}
    (inProcess : world.store.IsInProcess) :
    ((chore.program service).run surroundings world).2.store.IsInProcess ∧
      world.store.AgreesFrom world.now Health.probeKey
        ((chore.program service).run surroundings world).2.store := by
  have honoured : ∀ between : World, (between.now = world.now ∧ between.store.IsInProcess ∧
      world.store.AgreesFrom world.now Health.probeKey between.store) →
      (Contract.ofChore service.home).IsHonoured surroundings between := fun _ _ _ _ _ _ => trivial
  refine ((chore.keeps service).run honoured (fun between holds command allowed => ?_)
    ⟨rfl, inProcess, fun _ _ _ _ => rfl⟩).1.2
  obtain ⟨sameNow, kept, agrees⟩ := holds
  obtain ⟨stillKept, stillAgrees⟩ := World.store_carryOut_of_chore kept surroundings allowed
  refine ⟨(World.now_carryOut surroundings between command).trans sameNow, stillKept, ?_⟩
  intro other differs later le
  exact (stillAgrees other differs later (sameNow ▸ le)).trans (agrees other differs later le)

end HandleFederation
