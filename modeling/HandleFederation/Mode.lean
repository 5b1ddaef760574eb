/-
This file holds the small alternatives that configuration and storage spell as
words: how open an instance is to others, how far a peer is approved, and where
short-lived answers are kept.
-/

import HandleFederation.Json.Fields
import HandleFederation.Text.Blank
import HandleFederation.Text.Case

namespace HandleFederation

open Text

/-- A word that names none of the alternatives. -/
structure UnknownWord where
  word : String
deriving DecidableEq, Repr

/-- The wording of an unknown word. -/
def UnknownWord.message (unknown : UnknownWord) : String :=
  s!"unknown value: {unknown.word}"

/-! ### Federation modes -/

/-- How open an instance is to others. -/
inductive FederationMode where
  /-- Any domain may federate. -/
  | anyone
  /-- Only active peers may federate. -/
  | allowlist
  /-- Nobody may federate. -/
  | closed
deriving DecidableEq, Repr, Inhabited

namespace FederationMode

/-- The word for a mode. -/
def word : FederationMode → String
  | .anyone => "open"
  | .allowlist => "allowlist"
  | .closed => "closed"

/-- The mode that a word stands for exactly. -/
def ofWord? (word : String) : Option FederationMode :=
  if word = "open" then some .anyone
  else if word = "allowlist" then some .allowlist
  else if word = "closed" then some .closed
  else none

/-- Reads a mode from a text, whatever its case and the blanks around it. -/
def read (text : String) : Except UnknownWord FederationMode :=
  match ofWord? (lower (trim text)) with
  | some mode => .ok mode
  | none => .error ⟨lower (trim text)⟩

/-- Reads a mode from a document, where only the exact word will do. -/
def ofJson? (value : Json) : Option FederationMode :=
  value.alternative?.bind ofWord?

end FederationMode

/-! ### Peer statuses -/

/-- How far a peer is approved. -/
inductive PeerStatus where
  | active
  | pending
  | revoked
deriving DecidableEq, Repr, Inhabited

namespace PeerStatus

/-- The word for a status. -/
def word : PeerStatus → String
  | .active => "active"
  | .pending => "pending"
  | .revoked => "revoked"

/-- The status that a word stands for exactly. -/
def ofWord? (word : String) : Option PeerStatus :=
  if word = "active" then some .active
  else if word = "pending" then some .pending
  else if word = "revoked" then some .revoked
  else none

/-- Reads a status, for which only the exact word will do. -/
def read (text : String) : Except UnknownWord PeerStatus :=
  match ofWord? text with
  | some status => .ok status
  | none => .error ⟨text⟩

/-- Reads a status from a document. -/
def ofJson? (value : Json) : Option PeerStatus :=
  value.alternative?.bind ofWord?

end PeerStatus

/-! ### Backends of the short-lived store -/

/-- Where short-lived answers are kept. -/
inductive CacheBackend where
  /-- In the memory of the process. -/
  | memory
  /-- In a store that several processes share. -/
  | redis
deriving DecidableEq, Repr, Inhabited

namespace CacheBackend

/-- The word for a backend. -/
def word : CacheBackend → String
  | .memory => "memory"
  | .redis => "redis"

/-- The backend that a word stands for exactly. -/
def ofWord? (word : String) : Option CacheBackend :=
  if word = "memory" then some .memory
  else if word = "redis" then some .redis
  else none

/-- Reads a backend from a document. -/
def ofJson? (value : Json) : Option CacheBackend :=
  value.alternative?.bind ofWord?

end CacheBackend

end HandleFederation
