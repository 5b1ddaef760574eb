/-
This file says what becomes of the commands of a server. The world holds the tables,
the store for short-lived values, the counts and the clock, and remembers what was
asked of other instances; what these answer, and which operations of the store fail,
is up to the surroundings. Programs run one after another, or together with one
command of each at a time.
-/

import HandleFederation.Command
import HandleFederation.ShortTerm.Store

namespace HandleFederation

/-! ### The world and its surroundings -/

/-- All that a server finds and changes. -/
structure World where
  tables : Tables
  isDatabaseOpen : Bool
  store : ShortTermStore
  metrics : Metrics
  /-- The time, in nanoseconds since the start of 1970. -/
  now : Nat
  /-- The number of identifiers issued so far. -/
  issued : Nat
  /-- The number of operations of the store so far. -/
  storeCalls : Nat
  /-- What other instances were asked for, the latest first. -/
  requested : List Url

/-- What a server has no part in. -/
structure Surroundings where
  /-- What another instance answers, after the requests so far, the latest first. -/
  transport : List Url → Url → Exchange
  /-- How an operation of the store fails, if it does, after so many operations. -/
  storeFailure : StoreOperation → Nat → Option Failure
  /-- Why a directory cannot be made, if it cannot. -/
  directoryFault : String → Option String
  /-- Why it is not possible to listen at an address, if it is not. -/
  listenFault : String → Option String
  /-- What the host counts about the process, line by line. -/
  hostMetrics : List String

namespace World

/-- A world in which nothing has happened yet. -/
def fresh (store : ShortTermStore) (now : Nat) : World :=
  { tables := .empty
    isDatabaseOpen := true
    store := store
    metrics := .empty
    now := now
    issued := 0
    storeCalls := 0
    requested := [] }

/-- The time as records keep it. -/
def time (world : World) : Timestamp :=
  .ofNanoseconds world.now

/-! ### The database -/

/-- Reads from the tables. -/
def readTables {Result : Type} (read : Tables → Except Failure Result) (world : World) :
    Except Failure Result :=
  if world.isDatabaseOpen then read world.tables else .error (.database .closed)

/-- Changes the tables, with so many new identifiers; a failure changes nothing. -/
def changeTables {Result : Type} (identifiers : Nat)
    (change : Tables → Except Failure (Result × Tables)) (world : World) :
    Except Failure Result × World :=
  if world.isDatabaseOpen then
    let world := { world with issued := world.issued + identifiers }
    match change world.tables with
    | .ok (result, tables) => (.ok result, { world with tables := tables })
    | .error failure => (.error failure, world)
  else (.error (.database .closed), world)

/-- How it is reported that there is no instance with an identifier. -/
def noInstance (instanceId : String) : Failure :=
  .internal s!"Instance {instanceId} does not exist"

/-- The instance that a row stands for. -/
def readRow (row : InstanceRow) : Except Failure Instance :=
  match row.read with
  | .ok record => .ok record
  | .error unknown => .error (.database (.undecodable unknown.message))

/-- The mode of an instance. -/
def modeOf (instanceId : String) (tables : Tables) : Except Failure FederationMode :=
  match tables.instanceWithId? instanceId with
  | none => .error (noInstance instanceId)
  | some row =>
    match FederationMode.read row.mode with
    | .ok mode => .ok mode
    | .error unknown => .error (.internal s!"Invalid federation mode: {unknown.message}")

/-- This instance. -/
def localOf (tables : Tables) : Except Failure Instance :=
  match tables.localInstance? with
  | none => .error (.internal "Local instance is not initialized")
  | some row => readRow row

/-- Reads the row that a change gives. -/
def readChanged (changed : InstanceRow × Tables) : Except Failure (Instance × Tables) :=
  (readRow changed.1).map fun record => (record, changed.2)

/-- Writes the mode of an instance. -/
def setMode (instanceId : String) (mode : FederationMode) (tables : Tables) :
    Except Failure (Unit × Tables) :=
  match tables.putMode instanceId mode.word with
  | (0, _) => .error (noInstance instanceId)
  | (_, changed) => .ok ((), changed)

/-! ### The store -/

/-- Carries out an operation of the store unless it fails. -/
def useStore {Result : Type} (surroundings : Surroundings) (operation : StoreOperation)
    (use : World → Option (Result × ShortTermStore)) (world : World) :
    Option (Except Failure Result) × World :=
  let after := { world with storeCalls := world.storeCalls + 1 }
  match surroundings.storeFailure operation world.storeCalls with
  | some failure => (some (.error failure), after)
  | none =>
    match use world with
    | some (result, store) => (some (.ok result), { after with store := store })
    | none => (none, after)

/-! ### Commands -/

/-- Success, unless there is a fault. -/
def unlessFault : Option String → Except String Unit
  | some fault => .error fault
  | none => .ok ()

/-- Carries out a command. There is no reply when the server breaks down over it. -/
def carryOut (surroundings : Surroundings) : (command : Command) → World →
    Option (Reply command) × World
  | .clock, world => (some world.time, world)
  | .ping, world => (some (world.readTables fun _ => .ok ()), world)
  | .readMode instanceId, world => (some (world.readTables (modeOf instanceId)), world)
  | .readLocal, world => (some (world.readTables localOf), world)
  | .findUser instanceId username, world =>
    (some (world.readTables fun tables => .ok (tables.user? instanceId username)), world)
  | .findStub username domain, world =>
    (some (world.readTables fun tables => .ok (tables.stub? username domain)), world)
  | .isActivePeer instanceId domain, world =>
    (some (world.readTables fun tables => .ok (tables.hasActivePeer instanceId domain)), world)
  | .listPeers instanceId, world =>
    (some (world.readTables fun tables => .ok (tables.peersOf instanceId)), world)
  | .writeLocal settings now, world =>
    let (reply, world) := world.changeTables 1 fun tables =>
      readChanged (tables.putLocal settings (identifier world.issued) now)
    (some reply, world)
  | .writeRemote settings now, world =>
    let (reply, world) := world.changeTables 1 fun tables =>
      (tables.putRemote settings (identifier world.issued) now).bind readChanged
    (some reply, world)
  | .writeMode instanceId mode, world =>
    let (reply, world) := world.changeTables 0 (setMode instanceId mode)
    (some reply, world)
  | .writePeer instanceId domain status now, world =>
    let (reply, world) := world.changeTables 0 (Tables.putPeer instanceId domain status now)
    (some reply, world)
  | .writeAccount instanceId username displayName now, world =>
    let (reply, world) := world.changeTables 1
      (Tables.register instanceId username displayName (identifier world.issued) now)
    (some reply, world)
  | .writeStub instanceId fields now, world =>
    let (reply, world) := world.changeTables 1
      (Tables.putStub instanceId fields (identifier world.issued) now)
    (some reply, world)
  | .writeRemoteUser settings fields now, world =>
    let (reply, world) := world.changeTables 2
      (Tables.putRemoteUser settings fields (identifier world.issued)
        (identifier (world.issued + 1)) now)
    (some reply, world)
  | .recall key, world =>
    world.useStore surroundings .get fun world =>
      some (world.store.get? world.now key, world.store)
  | .remember key value seconds, world =>
    world.useStore surroundings .set fun world =>
      (world.store.set? world.now key value seconds).map fun store => ((), store)
  | .forget key, world =>
    world.useStore surroundings .delete fun world =>
      some ((), world.store.delete world.now key)
  | .purge, world =>
    world.useStore surroundings .purge fun world => some (world.store.purge world.now)
  | .request url, world =>
    (some (surroundings.transport world.requested url),
      { world with requested := url :: world.requested })
  | .makeDirectory path, world => (some (unlessFault (surroundings.directoryFault path)), world)
  | .listen address, world => (some (unlessFault (surroundings.listenFault address)), world)
  | .count event, world => (some (), { world with metrics := world.metrics.record event })
  | .readMetrics, world => (some (world.metrics.lines ++ surroundings.hostMetrics), world)

end World

/-! ### Running programs -/

namespace Program

variable {Result : Type}

/-- Runs a program to its end. There is no result when the server breaks down. -/
def run (surroundings : Surroundings) : Program Result → World → Option Result × World
  | .done result, world => (some result, world)
  | .step command next, world =>
    match world.carryOut surroundings command with
    | (some reply, world) => (next reply).run surroundings world
    | (none, world) => (none, world)

/-- Carries out the next command of a program that has not broken down. -/
def advance (surroundings : Surroundings) (world : World) :
    Option (Program Result) → Option (Program Result) × World
  | some (.step command next) =>
    match world.carryOut surroundings command with
    | (some reply, world) => (some (next reply), world)
    | (none, world) => (none, world)
  | finished => (finished, world)

/-- The result of a program that has come to its end. -/
def result? : Option (Program Result) → Option Result
  | some (.done result) => some result
  | _ => none

end Program

/-! ### Programs that run together -/

/-- Programs that run together in one world; one that has broken down is absent. -/
structure Threads (Result : Type) where
  programs : List (Option (Program Result))
  world : World

namespace Threads

variable {Result : Type}

/-- Carries out the next command of the program at a place. -/
def advanceAt (surroundings : Surroundings) (place : Nat) (threads : Threads Result) :
    Threads Result :=
  match threads.programs[place]? with
  | none => threads
  | some program =>
    let (later, world) := Program.advance surroundings threads.world program
    ⟨threads.programs.set place later, world⟩

/-- Carries out commands of the programs at the places of a schedule. -/
def runSchedule (surroundings : Surroundings) (schedule : List Nat) (threads : Threads Result) :
    Threads Result :=
  schedule.foldl (fun threads place => threads.advanceAt surroundings place) threads

/-- Carries out one command of every program in turn, so many times. -/
def runRounds (surroundings : Surroundings) (rounds : Nat) (threads : Threads Result) :
    Threads Result :=
  let round := List.range threads.programs.length
  threads.runSchedule surroundings (List.replicate rounds round).flatten

end Threads

end HandleFederation
