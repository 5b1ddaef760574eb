/-
This file holds values that are kept for a while. Each value has a time at which it
expires; it is no longer given from then on, but it stays among the entries until it
is purged, replaced or forgotten. Times are in nanoseconds.
-/

import HandleFederation.Text.Number

namespace HandleFederation

/-- A value with the time at which it expires. -/
structure TimedValue where
  value : String
  expiry : Nat
deriving DecidableEq, Repr

/-- Values by their keys; each key stands at most once. -/
structure TimedEntries where
  entries : List (String × TimedValue)
deriving DecidableEq, Repr

namespace TimedEntries

/-- No entries. -/
def empty : TimedEntries := ⟨[]⟩

/-- The number of nanoseconds in a second. -/
def perSecond : Nat := 1000000000

/-- The number of entries, expired ones included. -/
def size (store : TimedEntries) : Nat :=
  store.entries.length

/-- The value of a key at a time. -/
def get? (now : Nat) (key : String) (store : TimedEntries) : Option String :=
  match store.entries.lookup key with
  | some entry => if now < entry.expiry then some entry.value else none
  | none => none

/-- A list of entries with a value for a key in it. -/
def putEntry (key : String) (entry : TimedValue) :
    List (String × TimedValue) → List (String × TimedValue)
  | [] => [(key, entry)]
  | (other, kept) :: rest =>
    if other = key then (key, entry) :: rest else (other, kept) :: putEntry key entry rest

/-- Keeps a value until a time. -/
def put (key value : String) (expiry : Nat) (store : TimedEntries) : TimedEntries :=
  ⟨putEntry key ⟨value, expiry⟩ store.entries⟩

/-- Forgets a key. -/
def delete (key : String) (store : TimedEntries) : TimedEntries :=
  ⟨store.entries.filter fun entry => entry.1 != key⟩

/-- Forgets what has expired. -/
def live (now : Nat) (store : TimedEntries) : TimedEntries :=
  ⟨store.entries.filter fun entry => now < entry.2.expiry⟩

/-- Forgets what has expired, and gives the number of entries that were forgotten. -/
def purge (now : Nat) (store : TimedEntries) : Nat × TimedEntries :=
  (store.size - (store.live now).size, store.live now)

/-! ### The last point of time -/

/-- The first number of seconds that a point of time cannot have. -/
def secondsLimit : Nat := Text.bound63

/-- The time so many seconds later, if there is a point of time that late. -/
def expiry? (now seconds : Nat) : Option Nat :=
  let expiry := now + seconds * perSecond
  if expiry / perSecond < secondsLimit then some expiry else none

end TimedEntries

end HandleFederation
