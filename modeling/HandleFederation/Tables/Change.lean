/-
This file holds the changes that the server makes to its tables. Each one either
changes the row that has the name in question already, and then keeps its identifier,
or adds a new row; a user or a peer can only be added to an instance that exists.
-/

import HandleFederation.Failure
import HandleFederation.Tables.Basic

namespace HandleFederation

open Text

/-! ### What is written -/

/-- What this instance declares about itself when it starts. -/
structure LocalSettings where
  domain : String
  publicKey : String
  name : String
  software : String
  mode : FederationMode
deriving DecidableEq, Repr

/-- What another instance declared about itself. -/
structure RemoteSettings where
  domain : String
  remoteInstanceId : String
  publicKey : String
  name : String
  software : String
  mode : FederationMode
deriving DecidableEq, Repr

/-- What another instance answered about one of its users. -/
structure StubFields where
  remoteId : String
  username : String
  displayName : Option String
  avatarId : Option String
  bio : Option String
  /-- When the user was created there, if the answer says so in a readable way. -/
  createdAt : Option Timestamp
deriving DecidableEq, Repr

namespace Tables

/-- Changes the first row that passes a test. -/
def changeFirst {Row : Type} (test : Row → Bool) (change : Row → Row) : List Row → List Row
  | [] => []
  | row :: rest => if test row then change row :: rest else row :: changeFirst test change rest

/-! ### Instances -/

/-- The row of this instance as it starts, on top of the row that its domain has already. -/
def refreshLocal (settings : LocalSettings) (now : Timestamp) (row : InstanceRow) : InstanceRow :=
  { row with
    publicKey := settings.publicKey
    name := settings.name
    software := settings.software
    mode := settings.mode.word
    isLocal := true
    lastSeenAt := now }

/-- The row of an instance on top of which nothing is known yet. -/
def newLocal (settings : LocalSettings) (id : String) (now : Timestamp) : InstanceRow :=
  { id := id
    domain := lower settings.domain
    remoteInstanceId := none
    publicKey := settings.publicKey
    name := settings.name
    software := settings.software
    mode := settings.mode.word
    isLocal := true
    createdAt := now
    lastSeenAt := now }

/-- Writes the row of this instance and gives it. -/
def putLocal (settings : LocalSettings) (id : String) (now : Timestamp) (tables : Tables) :
    InstanceRow × Tables :=
  match tables.instanceAt? settings.domain with
  | some row =>
    (refreshLocal settings now row,
      { tables with
        instances := changeFirst (fun row => sameName row.domain settings.domain)
          (refreshLocal settings now) tables.instances })
  | none =>
    let row := newLocal settings id now
    (row, { tables with instances := tables.instances ++ [row] })

/-- The row of another instance on top of the row that its domain has already. -/
def refreshRemote (settings : RemoteSettings) (now : Timestamp) (row : InstanceRow) : InstanceRow :=
  { row with
    remoteInstanceId := some settings.remoteInstanceId
    publicKey := settings.publicKey
    name := settings.name
    software := settings.software
    mode := settings.mode.word
    lastSeenAt := now }

/-- The row of another instance of which nothing is known yet. -/
def newRemote (settings : RemoteSettings) (id : String) (now : Timestamp) : InstanceRow :=
  { id := id
    domain := lower settings.domain
    remoteInstanceId := some settings.remoteInstanceId
    publicKey := settings.publicKey
    name := settings.name
    software := settings.software
    mode := settings.mode.word
    isLocal := false
    createdAt := now
    lastSeenAt := now }

/-- Writes the row of another instance and gives it; the row of this instance is never given away. -/
def putRemote (settings : RemoteSettings) (id : String) (now : Timestamp) (tables : Tables) :
    Except Failure (InstanceRow × Tables) :=
  match tables.instanceAt? settings.domain with
  | some row =>
    if row.isLocal then
      .error (.internal
        s!"Refusing to overwrite local instance record for {lower settings.domain}")
    else
      .ok (refreshRemote settings now row,
        { tables with
          instances := changeFirst (fun row => sameName row.domain settings.domain)
            (refreshRemote settings now) tables.instances })
  | none =>
    let row := newRemote settings id now
    .ok (row, { tables with instances := tables.instances ++ [row] })

/-- The number of rows with an identifier, and the tables with another mode in them. -/
def putMode (instanceId word : String) (tables : Tables) : Nat × Tables :=
  (if tables.hasInstance instanceId then 1 else 0,
    { tables with
      instances := changeFirst (fun row => row.id == instanceId)
        (fun row => { row with mode := word }) tables.instances })

/-- Deletes an instance with its users and its peers, and gives the number of instances deleted. -/
def dropInstance (instanceId : String) (tables : Tables) : Nat × Tables :=
  (if tables.hasInstance instanceId then 1 else 0,
    { instances := tables.instances.filter fun row => row.id != instanceId
      users := tables.users.filter fun user => user.instanceId != instanceId
      peers := tables.peers.filter fun peer => peer.instanceId != instanceId })

/-! ### Users -/

/-- Adds an account and gives it, unless the username is taken. -/
def register (instanceId username : String) (displayName : Option String) (id : String)
    (now : Timestamp) (tables : Tables) : Except Failure (User × Tables) :=
  match tables.user? instanceId username with
  | some _ => .error (.conflict s!"Username {username} is already taken")
  | none =>
    if tables.hasInstance instanceId then
      let user : User := ⟨id, instanceId, none, username, displayName, none, none, now, now⟩
      .ok (user, { tables with users := tables.users ++ [user] })
    else .error (.database .danglingReference)

/-- Whether a row is the cached profile that a user had under another username. -/
def isRenamed (instanceId : String) (fields : StubFields) (user : User) : Bool :=
  user.instanceId == instanceId && user.remoteUserId == some fields.remoteId
    && !sameName user.username fields.username

/-- A cached profile on top of the one that the username has already. The username keeps its
spelling, and the creation time changes only if a new one is known. -/
def refreshStub (fields : StubFields) (now : Timestamp) (user : User) : User :=
  { user with
    remoteUserId := some fields.remoteId
    displayName := fields.displayName
    avatarId := fields.avatarId
    bio := fields.bio
    createdAt := fields.createdAt.getD user.createdAt
    updatedAt := now }

/-- A cached profile of a user of whom nothing is known yet. -/
def newStub (instanceId : String) (fields : StubFields) (id : String) (now : Timestamp) : User :=
  ⟨id, instanceId, some fields.remoteId, fields.username, fields.displayName, fields.avatarId,
    fields.bio, fields.createdAt.getD now, now⟩

/-- The tables without the cached profiles that a user had under other usernames. -/
def dropRenamed (instanceId : String) (fields : StubFields) (tables : Tables) : Tables :=
  { tables with users := tables.users.filter fun user => !isRenamed instanceId fields user }

/-- Writes a cached profile and gives it. -/
def putStub (instanceId : String) (fields : StubFields) (id : String) (now : Timestamp)
    (tables : Tables) : Except Failure (User × Tables) :=
  let kept := dropRenamed instanceId fields tables
  match kept.user? instanceId fields.username with
  | some user =>
    .ok (refreshStub fields now user,
      { kept with
        users := changeFirst (isUser instanceId fields.username) (refreshStub fields now) kept.users })
  | none =>
    if tables.hasInstance instanceId then
      let user := newStub instanceId fields id now
      .ok (user, { kept with users := kept.users ++ [user] })
    else .error (.database .danglingReference)

/-- Writes another instance and a cached profile of one of its users together, and gives the
profile. -/
def putRemoteUser (settings : RemoteSettings) (fields : StubFields) (instanceId userId : String)
    (now : Timestamp) (tables : Tables) : Except Failure (User × Tables) :=
  match tables.putRemote settings instanceId now with
  | .error failure => .error failure
  | .ok (row, changed) => changed.putStub row.id fields userId now

/-- Moves the last change of cached profiles and accounts with a username, at the instances of a
domain, some seconds back, and gives the number of users. -/
def backdate (username domain : String) (seconds : Int) (tables : Tables) : Nat × Tables :=
  let concerned := fun (user : User) =>
    sameName user.username username
      && match tables.instanceAt? domain with
        | some row => user.instanceId == row.id
        | none => false
  ((tables.users.filter concerned).length,
    { tables with
      users := tables.users.map fun user =>
        if concerned user then { user with updatedAt := user.updatedAt.addSeconds (-seconds) }
        else user })

/-! ### Peers -/

/-- Writes how far a peer is approved and gives the peer. -/
def putPeer (instanceId domain : String) (status : PeerStatus) (now : Timestamp) (tables : Tables) :
    Except Failure (Peer × Tables) :=
  match tables.peer? instanceId domain with
  | some peer =>
    let change := fun (peer : Peer) => { peer with status := status, updatedAt := now }
    .ok (change peer,
      { tables with peers := changeFirst (isPeer instanceId domain) change tables.peers })
  | none =>
    if tables.hasInstance instanceId then
      let peer : Peer := ⟨instanceId, lower domain, status, now, now⟩
      .ok (peer, { tables with peers := tables.peers ++ [peer] })
    else .error (.database .danglingReference)

end Tables

end HandleFederation
