/-
This file holds the records that the server keeps: the instances it knows, itself
among them, the users of these instances, and its peers. It also gives their form as
documents, and the answer to a resolution, which is a user with the domain of the
instance and the way the record was come by.
-/

import HandleFederation.Json.Basic
import HandleFederation.Mode
import HandleFederation.Timestamp

namespace HandleFederation

/-! ### Identifiers -/

/-- The identifier that is issued after a number of others. Identifiers have the form of random
ones of version 4, and no two are the same. -/
def identifier (number : Nat) : String :=
  let digits := Text.hexDigits number
  "00000000-0000-4000-8000-" ++ String.ofList (List.replicate (12 - digits.length) '0' ++ digits)

/-! ### Instances -/

/-- An instance, with its mode in some form. -/
structure InstanceRecord (Mode : Type) where
  /-- The identifier of the record, assigned here. -/
  id : String
  domain : String
  /-- The identifier that another instance gives itself. -/
  remoteInstanceId : Option String
  publicKey : String
  name : String
  software : String
  mode : Mode
  isLocal : Bool
  createdAt : Timestamp
  lastSeenAt : Timestamp
deriving DecidableEq, Repr

/-- An instance as it is stored, with its mode as a word. -/
abbrev InstanceRow := InstanceRecord String

/-- An instance as it is used. -/
abbrev Instance := InstanceRecord FederationMode

/-- Reads the mode of a stored instance. -/
def InstanceRow.read (row : InstanceRow) : Except UnknownWord Instance :=
  (FederationMode.read row.mode).map fun mode => { row with mode := mode }

/-- An instance as a document. -/
def Instance.toJson (record : Instance) : Json :=
  .object [("id", .string record.id), ("domain", .string record.domain),
    ("remote_instance_id", Json.ofOption record.remoteInstanceId),
    ("public_key", .string record.publicKey), ("name", .string record.name),
    ("software", .string record.software), ("federation_mode", .string record.mode.word),
    ("is_local", .bool record.isLocal), ("created_at", .string record.createdAt.toText),
    ("last_seen_at", .string record.lastSeenAt.toText)]

/-! ### Users -/

/-- A user: an account of this instance, or a cached profile of a user of another one. -/
structure User where
  id : String
  instanceId : String
  /-- The identifier that the other instance gave the user; accounts have none. -/
  remoteUserId : Option String
  username : String
  displayName : Option String
  avatarId : Option String
  bio : Option String
  createdAt : Timestamp
  updatedAt : Timestamp
deriving DecidableEq, Repr

/-- The members of a user as a document. The identifier that another instance gave is left out when
there is none. -/
def User.members (user : User) : List (String × Json) :=
  [("id", .string user.id), ("instance_id", .string user.instanceId)]
    ++ (match user.remoteUserId with
      | some remoteUserId => [("remote_user_id", Json.string remoteUserId)]
      | none => [])
    ++ [("username", .string user.username), ("display_name", Json.ofOption user.displayName),
      ("avatar_id", Json.ofOption user.avatarId), ("bio", Json.ofOption user.bio),
      ("created_at", .string user.createdAt.toText), ("updated_at", .string user.updatedAt.toText)]

/-- A user as a document. -/
def User.toJson (user : User) : Json :=
  .object user.members

/-! ### Peers -/

/-- A domain that an instance has approved, or not yet, or no longer. -/
structure Peer where
  instanceId : String
  domain : String
  status : PeerStatus
  createdAt : Timestamp
  updatedAt : Timestamp
deriving DecidableEq, Repr

/-- A peer as a document. -/
def Peer.toJson (peer : Peer) : Json :=
  .object [("instance_id", .string peer.instanceId), ("peer_domain", .string peer.domain),
    ("status", .string peer.status.word), ("created_at", .string peer.createdAt.toText),
    ("updated_at", .string peer.updatedAt.toText)]

/-! ### Answers -/

/-- How the record in an answer was come by. -/
inductive Source where
  /-- It is an account of this instance. -/
  | home
  /-- It was cached and fresh. -/
  | cache
  /-- It was fetched from the other instance. -/
  | remote
  /-- It was cached and no longer fresh, but could not be fetched. -/
  | staleCache
deriving DecidableEq, Repr

/-- The word for a source. -/
def Source.word : Source → String
  | .home => "local"
  | .cache => "cache"
  | .remote => "remote"
  | .staleCache => "stale_cache"

/-- The answer to a resolution. -/
structure Resolved where
  user : User
  domain : String
  source : Source
deriving DecidableEq, Repr

/-- An answer as a document. -/
def Resolved.toJson (resolved : Resolved) : Json :=
  .object (resolved.user.members
    ++ [("domain", .string resolved.domain), ("source", .string resolved.source.word)])

end HandleFederation
