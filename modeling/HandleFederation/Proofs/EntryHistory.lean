/-
This file tells what a store in the memory holds from what was done with it. A value is
given for a key when the latest operation on the key set it and its time has not passed;
an entry is there when no purge since then came at its expiry or later. The step is one
lemma: an operation puts an entry in its place, or spares it, or takes it away. A purge
and a look both compare the present with the expiry, and because they do it alike, a
purge takes nothing away that a look would still find. All of this is about operations
that were carried out. A value that would expire later than there are points of time is
not kept, and its setting comes to no end.
-/

import HandleFederation.Proofs.InProcessStore
import Mathlib.Data.Set.Card

namespace HandleFederation

namespace TimedEntries

/-! ### Operations -/

/-- Keeps a value for some nanoseconds, if there is a point of time that late. -/
def set? (now : Nat) (key value : String) (lifetime : Nat) (store : TimedEntries) : Option TimedEntries :=
  if (now + lifetime) / perSecond < secondsLimit then some (store.put key value (now + lifetime)) else none

/-- What a store is asked to do with its entries. -/
inductive Operation where
  | set (key value : String) (lifetime : Nat)
  | get (key : String)
  | delete (key : String)
  | purge
deriving DecidableEq, Repr

/-- An operation at a time. -/
structure Occasion where
  time : Nat
  operation : Operation
deriving DecidableEq, Repr

namespace Occasion

/-- Whether an operation sets or deletes a key. -/
def touches (key : String) (occasion : Occasion) : Bool :=
  match occasion.operation with
  | .set other _ _ => other == key
  | .delete other => other == key
  | _ => false

/-- What an operation makes of the entries. Only a setting can fail to come to an end. -/
def change? (occasion : Occasion) (store : TimedEntries) : Option TimedEntries :=
  match occasion.operation with
  | .set key value lifetime => store.set? occasion.time key value lifetime
  | .get _ => some store
  | .delete key => some (store.delete key)
  | .purge => some (store.purge occasion.time).2

/-- An operation can be carried out: if it sets a value, there is a point of time at which the value
expires. -/
def HasTime (occasion : Occasion) : Prop :=
  match occasion.operation with
  | .set _ _ lifetime => (occasion.time + lifetime) / perSecond < secondsLimit
  | _ => True

instance : DecidablePred HasTime
  | ⟨time, .set _ _ lifetime⟩ => inferInstanceAs (Decidable ((time + lifetime) / perSecond < secondsLimit))
  | ⟨_, .get _⟩ => isTrue trivial
  | ⟨_, .delete _⟩ => isTrue trivial
  | ⟨_, .purge⟩ => isTrue trivial

end Occasion

/-- The entries after operations on an empty store, the latest of which is given first. -/
def after? : List Occasion → Option TimedEntries
  | [] => some .empty
  | occasion :: earlier => (after? earlier).bind occasion.change?

/-! ### What stands among the entries -/

/-- A key is stored with a value and an expiry: the latest operation on it set it to that value, up to that
time, and no purge since then came as late. -/
structure IsStored (history : List Occasion) (key value : String) (expiry : Nat) : Prop where
  lastSet : ∃ time lifetime,
    history.find? (Occasion.touches key) = some ⟨time, .set key value lifetime⟩ ∧ expiry = time + lifetime
  notPurged : ∀ occasion ∈ history.takeWhile (fun occasion => !occasion.touches key),
    occasion.operation = .purge → occasion.time < expiry

namespace Occasion

variable {occasion : Occasion} {key value : String} {expiry : Nat}

/-- An operation puts an entry where it stands. -/
def Puts (key value : String) (expiry : Nat) (occasion : Occasion) : Prop :=
  ∃ lifetime, occasion.operation = .set key value lifetime ∧ expiry = occasion.time + lifetime

/-- An operation takes no entry of a key with an expiry away. -/
def Spares (key : String) (expiry : Nat) (occasion : Occasion) : Prop :=
  occasion.touches key = false ∧ (occasion.operation = .purge → occasion.time < expiry)

theorem touches_of_puts (puts : occasion.Puts key value expiry) : occasion.touches key = true := by
  obtain ⟨lifetime, isSet, -⟩ := puts
  rw [touches, isSet]
  exact beq_self_eq_true key

end Occasion

/-- Entries stand where the latest operation put them, or where they stood before if it spared them. -/
theorem isStored_cons_iff {occasion : Occasion} {earlier : List Occasion} {key value : String}
    {expiry : Nat} :
    IsStored (occasion :: earlier) key value expiry ↔
      occasion.Puts key value expiry ∨ occasion.Spares key expiry ∧ IsStored earlier key value expiry := by
  cases touches : occasion.touches key with
  | true =>
    have isLast : (occasion :: earlier).find? (Occasion.touches key) = some occasion :=
      List.find?_cons_of_pos touches
    have noneSince : (occasion :: earlier).takeWhile (fun occasion => !occasion.touches key) = [] := by
      rw [List.takeWhile_cons, touches]
      rfl
    constructor
    · rintro ⟨⟨time, lifetime, isSet, isExpiry⟩, -⟩
      cases isLast.symm.trans isSet
      exact Or.inl ⟨lifetime, rfl, isExpiry⟩
    · rintro (⟨lifetime, isSet, isExpiry⟩ | ⟨⟨untouched, -⟩, -⟩)
      · refine ⟨⟨occasion.time, lifetime, ?_, isExpiry⟩, by rw [noneSince]; exact List.forall_mem_nil _⟩
        rw [isLast, ← isSet]
      · cases touches.symm.trans untouched
  | false =>
    have notPut : ¬ occasion.Puts key value expiry := fun puts => by
      cases touches.symm.trans (Occasion.touches_of_puts puts)
    have sameLast : (occasion :: earlier).find? (Occasion.touches key) =
        earlier.find? (Occasion.touches key) := by
      rw [List.find?_cons, touches]
    have oneSince : (occasion :: earlier).takeWhile (fun occasion => !occasion.touches key) =
        occasion :: earlier.takeWhile (fun occasion => !occasion.touches key) := by
      rw [List.takeWhile_cons, touches]
      rfl
    constructor
    · rintro ⟨lastSet, notPurged⟩
      rw [sameLast] at lastSet
      rw [oneSince, List.forall_mem_cons] at notPurged
      exact Or.inr ⟨⟨touches, notPurged.1⟩, lastSet, notPurged.2⟩
    · rintro (puts | ⟨⟨-, spared⟩, lastSet, notPurged⟩)
      · exact absurd puts notPut
      · refine ⟨sameLast ▸ lastSet, ?_⟩
        rw [oneSince, List.forall_mem_cons]
        exact ⟨spared, notPurged⟩

section Steps

variable {store changed : TimedEntries} {occasion : Occasion}

theorem exists_change?_iff : (∃ changed, occasion.change? store = some changed) ↔ occasion.HasTime := by
  obtain ⟨time, operation⟩ := occasion
  cases operation with
  | set key value lifetime =>
    simp [Occasion.change?, Occasion.HasTime, set?]
  | _ => simp [Occasion.change?, Occasion.HasTime]

theorem IsKeyed.change? (keyed : store.IsKeyed) (changes : occasion.change? store = some changed) :
    changed.IsKeyed := by
  obtain ⟨time, operation⟩ := occasion
  cases operation with
  | set key value lifetime =>
    dsimp only [Occasion.change?, set?] at changes
    split at changes
    · cases changes
      exact keyed.put key value _
    · cases changes
  | get key =>
    cases changes
    exact keyed
  | delete key =>
    cases changes
    exact keyed.filter _
  | purge =>
    cases changes
    exact keyed.filter _

/-- An operation puts an entry in its place, spares it or takes it away. -/
theorem lookup_change? (keyed : store.IsKeyed) (changes : occasion.change? store = some changed)
    (key value : String) (expiry : Nat) :
    changed.entries.lookup key = some ⟨value, expiry⟩ ↔ occasion.Puts key value expiry ∨
      occasion.Spares key expiry ∧ store.entries.lookup key = some ⟨value, expiry⟩ := by
  obtain ⟨time, operation⟩ := occasion
  cases operation with
  | set other given lifetime =>
    dsimp only [Occasion.change?, set?] at changes
    split at changes
    · cases changes
      rw [put, lookup_putEntry]
      by_cases same : key = other
      · subst same
        simp [Occasion.Puts, Occasion.Spares, Occasion.touches, eq_comm]
      · simp [Occasion.Puts, Occasion.Spares, Occasion.touches, same, Ne.symm same]
    · cases changes
  | get other =>
    cases changes
    simp [Occasion.Puts, Occasion.Spares, Occasion.touches]
  | delete other =>
    cases changes
    rw [delete, lookup_filter keyed]
    by_cases same : key = other
    · simp [Occasion.Puts, Occasion.Spares, Occasion.touches, same]
    · simp [Occasion.Puts, Occasion.Spares, Occasion.touches, Option.filter_eq_some_iff, same, Ne.symm same]
  | purge =>
    cases changes
    rw [purge, live, lookup_filter keyed]
    simp [Occasion.Puts, Occasion.Spares, Occasion.touches, Option.filter_eq_some_iff, and_comm]

end Steps

/-- Operations come to an end if each of them does. -/
theorem exists_after?_iff {history : List Occasion} :
    (∃ store, after? history = some store) ↔ ∀ occasion ∈ history, occasion.HasTime := by
  induction history with
  | nil => exact iff_of_true ⟨.empty, rfl⟩ (List.forall_mem_nil _)
  | cons occasion earlier inductionHypothesis =>
    rw [List.forall_mem_cons, ← inductionHypothesis, after?]
    constructor
    · rintro ⟨store, isAfter⟩
      obtain ⟨before, isBefore, changes⟩ := Option.bind_eq_some_iff.mp isAfter
      exact ⟨exists_change?_iff.mp ⟨store, changes⟩, before, isBefore⟩
    · rintro ⟨hasTime, before, isBefore⟩
      obtain ⟨store, changes⟩ := exists_change?_iff.mpr hasTime
      exact ⟨store, Option.bind_eq_some_iff.mpr ⟨before, isBefore, changes⟩⟩

variable {history : List Occasion} {store : TimedEntries}

/-- What stands among the entries after operations is what they put there and spared since. -/
theorem lookup_after? (isAfter : after? history = some store) :
    store.IsKeyed ∧ ∀ key value expiry,
      store.entries.lookup key = some ⟨value, expiry⟩ ↔ IsStored history key value expiry := by
  induction history generalizing store with
  | nil =>
    cases isAfter
    refine ⟨isKeyed_empty, fun key value expiry => iff_of_false nofun ?_⟩
    rintro ⟨⟨_, _, isSet, -⟩, -⟩
    cases isSet
  | cons occasion earlier inductionHypothesis =>
    obtain ⟨before, isBefore, changes⟩ := Option.bind_eq_some_iff.mp isAfter
    obtain ⟨keyed, stored⟩ := inductionHypothesis isBefore
    refine ⟨keyed.change? changes, fun key value expiry => ?_⟩
    rw [lookup_change? keyed changes, stored, isStored_cons_iff]

/-! ### Values that are given -/

theorem get?_eq_some_iff {now : Nat} {key value : String} : store.get? now key = some value ↔
    ∃ expiry, store.entries.lookup key = some ⟨value, expiry⟩ ∧ now < expiry := by
  unfold get?
  cases store.entries.lookup key with
  | none => simp
  | some entry =>
    obtain ⟨kept, expiry⟩ := entry
    by_cases early : now < expiry <;> simp [early]

/-- A value is given for a key exactly when the latest operation on the key set it and its time has not
passed. No purge up to now could have come as late as that. -/
theorem get?_after?_iff (isAfter : after? history = some store) {now : Nat}
    (past : ∀ occasion ∈ history, occasion.time ≤ now) (key value : String) :
    store.get? now key = some value ↔ ∃ time lifetime,
      history.find? (Occasion.touches key) = some ⟨time, .set key value lifetime⟩ ∧
        now < time + lifetime := by
  rw [get?_eq_some_iff]
  constructor
  · rintro ⟨expiry, found, early⟩
    obtain ⟨⟨time, lifetime, lastSet, rfl⟩, -⟩ := ((lookup_after? isAfter).2 _ _ _).mp found
    exact ⟨time, lifetime, lastSet, early⟩
  · rintro ⟨time, lifetime, lastSet, early⟩
    refine ⟨time + lifetime,
      ((lookup_after? isAfter).2 _ _ _).mpr ⟨⟨time, lifetime, lastSet, rfl⟩, ?_⟩, early⟩
    intro occasion member _
    exact Nat.lt_of_le_of_lt (past occasion (List.takeWhile_subset _ member)) early

/-- A purge that was done or not makes no difference to what is given later. -/
theorem exists_after?_purge (isAfter : after? history = some store) {now time : Nat}
    (past : ∀ occasion ∈ history, occasion.time ≤ now) (le : time ≤ now) {later earlier : List Occasion}
    (split : history = later ++ earlier) :
    ∃ purged, after? (later ++ ⟨time, .purge⟩ :: earlier) = some purged ∧
      ∀ key, purged.get? now key = store.get? now key := by
  subst split
  have hasTime := exists_after?_iff.mp ⟨store, isAfter⟩
  rw [List.forall_mem_append] at hasTime past
  have purgeHasTime : Occasion.HasTime ⟨time, .purge⟩ := trivial
  obtain ⟨purged, isPurged⟩ := exists_after?_iff.mpr
    (List.forall_mem_append.mpr ⟨hasTime.1, List.forall_mem_cons.mpr ⟨purgeHasTime, hasTime.2⟩⟩)
  refine ⟨purged, isPurged, fun key => Option.ext fun value => ?_⟩
  have purgePast : (⟨time, .purge⟩ : Occasion).time ≤ now := le
  have pastThere := List.forall_mem_append.mpr ⟨past.1, List.forall_mem_cons.mpr ⟨purgePast, past.2⟩⟩
  have sameLast : (later ++ ⟨time, .purge⟩ :: earlier).find? (Occasion.touches key) =
      (later ++ earlier).find? (Occasion.touches key) := by
    rw [List.find?_append, List.find?_append, List.find?_cons_of_neg (by simp [Occasion.touches])]
  rw [get?_after?_iff isPurged pastThere, get?_after?_iff isAfter (List.forall_mem_append.mpr past), sameLast]

/-! ### Numbers of entries -/

theorem IsKeyed.mem_entries_iff (keyed : store.IsKeyed) {key : String} {entry : TimedValue} :
    (key, entry) ∈ store.entries ↔ store.entries.lookup key = some entry := by
  rw [List.lookup_eq_some_iff]
  constructor
  · intro member
    obtain ⟨front, back, split⟩ := List.append_of_mem member
    refine ⟨front, back, split, fun other isFront => bne_iff_ne.mpr fun same => ?_⟩
    rw [IsKeyed, split, List.map_append, List.map_cons] at keyed
    have notTwice := (List.nodup_append.mp keyed).2.2 _ (List.mem_map_of_mem isFront) _ List.mem_cons_self
    exact notTwice same.symm
  · rintro ⟨front, back, split, -⟩
    rw [split]
    exact List.mem_append_right _ List.mem_cons_self

/-- Entries of a kind are as many as their keys. -/
theorem IsKeyed.length_filter_eq_ncard (keyed : store.IsKeyed) (test : TimedValue → Bool) :
    (store.entries.filter fun entry => test entry.2).length =
      {key | ∃ entry, store.entries.lookup key = some entry ∧ test entry = true}.ncard := by
  have keyedThere := keyed.filter fun entry => test entry.2
  have keys : {key | ∃ entry, store.entries.lookup key = some entry ∧ test entry = true} =
      (((store.entries.filter fun entry => test entry.2).map Prod.fst).toFinset : Set String) := by
    ext key
    simp [← keyed.mem_entries_iff]
  rw [keys, Set.ncard_coe_finset, List.toFinset_card_of_nodup keyedThere, List.length_map]

/-- A purge counts what it takes away. -/
theorem purge_fst (now : Nat) (store : TimedEntries) :
    (store.purge now).1 = (store.entries.filter fun entry => !decide (now < entry.2.expiry)).length := by
  have parts := List.length_eq_length_filter_add (l := store.entries)
    fun entry => decide (now < entry.2.expiry)
  rw [purge, live, size, size]
  dsimp only
  omega

/-- The stored keys are those that some operation left, and each of them is counted once. -/
theorem ncard_isStored (isAfter : after? history = some store) (now : Nat) :
    (∀ key, (∃ entry, (key, entry) ∈ store.entries) ↔ ∃ value expiry, IsStored history key value expiry) ∧
      store.size = {key | ∃ value expiry, IsStored history key value expiry}.ncard ∧
      (store.purge now).1 =
        {key | ∃ value expiry, IsStored history key value expiry ∧ expiry ≤ now}.ncard := by
  obtain ⟨keyed, stored⟩ := lookup_after? isAfter
  have ofEntry (key : String) (holds : Nat → Prop) :
      (∃ entry, store.entries.lookup key = some entry ∧ holds entry.expiry) ↔
        ∃ value expiry, IsStored history key value expiry ∧ holds expiry := by
    constructor
    · rintro ⟨⟨value, expiry⟩, found, held⟩
      exact ⟨value, expiry, (stored key value expiry).mp found, held⟩
    · rintro ⟨value, expiry, isStored, held⟩
      exact ⟨⟨value, expiry⟩, (stored key value expiry).mpr isStored, held⟩
  refine ⟨fun key => ?_, ?_, ?_⟩
  · simpa [keyed.mem_entries_iff] using ofEntry key fun _ => True
  · have all := keyed.length_filter_eq_ncard fun _ => true
    have sameKeys := Set.ext fun key => ofEntry key fun _ => True
    simp only [and_true] at sameKeys
    rw [List.filter_true] at all
    rw [size, all, ← sameKeys]
    simp only [and_true]
  · rw [purge_fst, keyed.length_filter_eq_ncard fun entry => !decide (now < entry.expiry)]
    simp [ofEntry _ (· ≤ now)]

/-- What a store in the memory does with whole seconds it does with nanoseconds as well. -/
theorem set?_memory (now : Nat) (key value : String) (seconds : Nat) (entries : TimedEntries) :
    (ShortTermStore.memory entries).set? now key value seconds =
      (entries.set? now key value (seconds * perSecond)).map .memory := by
  unfold ShortTermStore.set? TimedEntries.set? TimedEntries.expiry?
  dsimp only
  split <;> rfl

/-- What a store in the memory holds after operations, as long as each of them can be carried out. A value
is given for a key exactly when the latest operation on the key set it and its time has not passed. A purge
that is done at some place in between makes no difference to what is given for any key, and a purge now gives
the number of stored keys whose expiry has come. A key is stored, and counted, exactly when the latest
operation on it set it and no purge since then came at its expiry or later. When a resolution keeps a value
for some seconds, its store becomes what the operations with that one make of it. -/
theorem entries_follow_history {history : List Occasion} {now : Nat}
    (hasTime : ∀ occasion ∈ history, occasion.HasTime)
    (past : ∀ occasion ∈ history, occasion.time ≤ now) :
    ∃ store, after? history = some store ∧
      (∀ key value, store.get? now key = some value ↔ ∃ time lifetime,
        history.find? (Occasion.touches key) = some ⟨time, .set key value lifetime⟩ ∧
          now < time + lifetime) ∧
      (∀ later earlier time, history = later ++ earlier → time ≤ now →
        ∃ purged, after? (later ++ ⟨time, .purge⟩ :: earlier) = some purged ∧
          ∀ key, purged.get? now key = store.get? now key) ∧
      (store.purge now).1 = {key | ∃ value expiry, IsStored history key value expiry ∧ expiry ≤ now}.ncard ∧
      (∀ key, (∃ entry, (key, entry) ∈ store.entries) ↔ ∃ value expiry, IsStored history key value expiry) ∧
      store.size = {key | ∃ value expiry, IsStored history key value expiry}.ncard ∧
      ∀ key value seconds, (ShortTermStore.memory store).set? now key value seconds =
        (after? (⟨now, .set key value (seconds * perSecond)⟩ :: history)).map .memory := by
  obtain ⟨store, isAfter⟩ := exists_after?_iff.mpr hasTime
  obtain ⟨stored, size, purged⟩ := ncard_isStored isAfter now
  refine ⟨store, isAfter, get?_after?_iff isAfter past, ?_, purged, stored, size, ?_⟩
  · exact fun later earlier time split le => exists_after?_purge isAfter past le split
  · intro key value seconds
    rw [set?_memory, after?, isAfter, Option.bind_some, Occasion.change?]

/-- An entry is swept at its very expiry, and its key is set again for no time at all: then nothing is given
for it, but it is stored until the next purge. Another entry outlives both. -/
theorem swept_and_set_again :
    let history : List Occasion :=
      [⟨10, .set "a" "z" 0⟩, ⟨10, .purge⟩, ⟨5, .set "b" "y" 100⟩, ⟨0, .set "a" "x" 10⟩]
    (∀ occasion ∈ history, occasion.HasTime) ∧ (∀ occasion ∈ history, occasion.time ≤ 20) ∧
    ∃ store, after? history = some store ∧ store.get? 20 "b" = some "y" ∧ store.get? 20 "a" = none ∧
      ∃ entry, ("a", entry) ∈ store.entries := by
  intro history
  have hasTime : ∀ occasion ∈ history, occasion.HasTime := by decide
  have past : ∀ occasion ∈ history, occasion.time ≤ 20 := by decide
  obtain ⟨store, isAfter, given, -, -, stored, -⟩ := entries_follow_history hasTime past
  have lastSet : history.find? (Occasion.touches "a") = some ⟨10, .set "a" "z" 0⟩ := by decide
  refine ⟨hasTime, past, store, isAfter, (given "b" "y").mpr ⟨5, 100, by decide, by decide⟩, ?_, ?_⟩
  · refine Option.eq_none_iff_forall_ne_some.mpr fun value isGiven => ?_
    obtain ⟨time, lifetime, isSet, early⟩ := (given "a" value).mp isGiven
    cases lastSet.symm.trans isSet
    exact absurd early (by decide)
  · exact (stored "a").mpr ⟨"z", 10, ⟨10, 0, lastSet, rfl⟩, by decide⟩

/-- There is a lifetime in whole seconds over which a setting comes to no end. The store is left as it was, so
nothing is given a nanosecond later, long before the value would have expired. -/
theorem setting_breaks_down :
    let seconds := 18446744073709551615
    let setting : Occasion := ⟨0, .set "k" "v" (seconds * perSecond)⟩
    seconds < Text.bound64 ∧ after? [setting] = none ∧
      ShortTermStore.set? 0 "k" "v" seconds (.memory .empty) = none ∧
      [setting].find? (Occasion.touches "k") = some setting ∧ 1 < 0 + seconds * perSecond ∧
      empty.get? 1 "k" = none := by
  intro seconds setting
  exact ⟨by decide, by decide, by decide, by decide, by decide, by decide⟩

end TimedEntries

end HandleFederation
