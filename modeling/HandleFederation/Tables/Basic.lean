/-
This file holds the tables of the server and what is looked up in them. A row is
found by its name, which stands for every spelling: an instance by its domain, a
user by the instance and the username, a peer by the instance and the domain.
-/

import HandleFederation.Record

namespace HandleFederation

open Text

/-- The tables, each with its rows in the order in which they were added. -/
structure Tables where
  instances : List InstanceRow
  users : List User
  peers : List Peer
deriving DecidableEq, Repr

namespace Tables

/-- The tables of a new database. -/
def empty : Tables := ⟨[], [], []⟩

/-! ### Instances -/

/-- The instance of a domain. -/
def instanceAt? (tables : Tables) (domain : String) : Option InstanceRow :=
  tables.instances.find? fun row => sameName row.domain domain

/-- The instance with an identifier. -/
def instanceWithId? (tables : Tables) (id : String) : Option InstanceRow :=
  tables.instances.find? fun row => row.id == id

/-- The first instance that is this one. -/
def localInstance? (tables : Tables) : Option InstanceRow :=
  tables.instances.find? InstanceRecord.isLocal

/-- Whether there is an instance with an identifier, so that users and peers may belong to it. -/
def hasInstance (tables : Tables) (id : String) : Bool :=
  (tables.instanceWithId? id).isSome

/-! ### Users -/

/-- Whether a user is the one of an instance with a username. -/
def isUser (instanceId username : String) (user : User) : Bool :=
  user.instanceId == instanceId && sameName user.username username

/-- The user of an instance with a username. -/
def user? (tables : Tables) (instanceId username : String) : Option User :=
  tables.users.find? (isUser instanceId username)

/-- The cached profile of a user of another instance. -/
def stub? (tables : Tables) (username domain : String) : Option User :=
  match tables.instanceAt? domain with
  | some row => if row.isLocal then none else tables.user? row.id username
  | none => none

/-! ### Peers -/

/-- Whether a peer is the one of an instance with a domain. -/
def isPeer (instanceId domain : String) (peer : Peer) : Bool :=
  peer.instanceId == instanceId && sameName peer.domain domain

/-- The peer of an instance with a domain. -/
def peer? (tables : Tables) (instanceId domain : String) : Option Peer :=
  tables.peers.find? (isPeer instanceId domain)

/-- Whether a domain is an active peer of an instance. -/
def hasActivePeer (tables : Tables) (instanceId domain : String) : Bool :=
  match tables.peer? instanceId domain with
  | some peer => peer.status == .active
  | none => false

/-- The peers of an instance, by domain. -/
def peersOf (tables : Tables) (instanceId : String) : List Peer :=
  (tables.peers.filter fun peer => peer.instanceId == instanceId).mergeSort fun left right =>
    namePrecedes left.domain right.domain

/-! ### Listings -/

/-- All instances, by domain. -/
def listInstances (tables : Tables) : List InstanceRow :=
  tables.instances.mergeSort fun left right => namePrecedes left.domain right.domain

/-- The users of an instance, by username. -/
def listUsers (tables : Tables) (instanceId : String) : List User :=
  (tables.users.filter fun user => user.instanceId == instanceId).mergeSort fun left right =>
    namePrecedes left.username right.username

/-- All users, by the domain of their instance and their username. -/
def listAllUsers (tables : Tables) : List User :=
  tables.listInstances.flatMap fun row => tables.listUsers row.id

end Tables

end HandleFederation
