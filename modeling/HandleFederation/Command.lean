/-
This file lists what a server does one step at a time: look at the clock, read or
change its tables, ask the store for short-lived values, ask another instance, count
an event. Each command is carried out whole or not at all, and whatever other
requests the server is busy with, they come in between two commands and never within
one.
-/

import HandleFederation.Metrics
import HandleFederation.Tables.Change
import HandleFederation.Transport
import HandleFederation.Url.Basic

namespace HandleFederation

/-- A step of the server. -/
inductive Command where
  /-- Looks at the clock. -/
  | clock
  /-- Asks the database for a sign of life. -/
  | ping
  /-- Reads the mode of an instance. -/
  | readMode (instanceId : String)
  /-- Reads the row of this instance. -/
  | readLocal
  /-- Looks for the user of an instance with a username. -/
  | findUser (instanceId username : String)
  /-- Looks for the cached profile of a user of another instance. -/
  | findStub (username domain : String)
  /-- Asks whether a domain is an active peer. -/
  | isActivePeer (instanceId domain : String)
  /-- Lists the peers of an instance. -/
  | listPeers (instanceId : String)
  /-- Writes the row of this instance. -/
  | writeLocal (settings : LocalSettings) (now : Timestamp)
  /-- Writes the row of another instance. -/
  | writeRemote (settings : RemoteSettings) (now : Timestamp)
  /-- Writes the mode of an instance. -/
  | writeMode (instanceId : String) (mode : FederationMode)
  /-- Writes how far a peer is approved. -/
  | writePeer (instanceId domain : String) (status : PeerStatus) (now : Timestamp)
  /-- Adds an account. -/
  | writeAccount (instanceId username : String) (displayName : Option String) (now : Timestamp)
  /-- Writes a cached profile. -/
  | writeStub (instanceId : String) (fields : StubFields) (now : Timestamp)
  /-- Writes another instance and a cached profile of one of its users together. -/
  | writeRemoteUser (settings : RemoteSettings) (fields : StubFields) (now : Timestamp)
  /-- Asks for a short-lived value. -/
  | recall (key : String)
  /-- Keeps a value for some seconds. -/
  | remember (key value : String) (seconds : Nat)
  /-- Forgets a short-lived value. -/
  | forget (key : String)
  /-- Forgets the short-lived values that have expired. -/
  | purge
  /-- Asks another instance. -/
  | request (url : Url)
  /-- Makes a directory unless there is one. -/
  | makeDirectory (path : String)
  /-- Starts to listen at an address. -/
  | listen (address : String)
  /-- Counts an event. -/
  | count (event : Event)
  /-- Reads the counts, and those that the host keeps about the process. -/
  | readMetrics

/-- What comes of a command. -/
abbrev Reply : Command → Type
  | .clock => Timestamp
  | .ping => Except Failure Unit
  | .readMode _ => Except Failure FederationMode
  | .readLocal => Except Failure Instance
  | .findUser _ _ => Except Failure (Option User)
  | .findStub _ _ => Except Failure (Option User)
  | .isActivePeer _ _ => Except Failure Bool
  | .listPeers _ => Except Failure (List Peer)
  | .writeLocal _ _ => Except Failure Instance
  | .writeRemote _ _ => Except Failure Instance
  | .writeMode _ _ => Except Failure Unit
  | .writePeer _ _ _ _ => Except Failure Peer
  | .writeAccount _ _ _ _ => Except Failure User
  | .writeStub _ _ _ => Except Failure User
  | .writeRemoteUser _ _ _ => Except Failure User
  | .recall _ => Except Failure (Option String)
  | .remember _ _ _ => Except Failure Unit
  | .forget _ => Except Failure Unit
  | .purge => Except Failure Nat
  | .request _ => Exchange
  | .makeDirectory _ => Except String Unit
  | .listen _ => Except String Unit
  | .count _ => Unit
  | .readMetrics => List String

/-! ### Programs -/

/-- What a server does for one request: nothing more, or a command and then what depends on the reply
to it. -/
inductive Program (Result : Type) where
  | done (result : Result)
  | step (command : Command) (next : Reply command → Program Result)

namespace Program

variable {First Second : Type}

/-- Goes on with another program after one has come to its end. -/
def andThen (program : Program First) (next : First → Program Second) : Program Second :=
  match program with
  | .done result => next result
  | .step command rest => .step command fun reply => (rest reply).andThen next

instance : Monad Program where
  pure := .done
  bind := andThen

/-- The program of one command. -/
def perform (command : Command) : Program (Reply command) :=
  .step command .done

end Program

/-- What a server does for one request when it may come to a failure. -/
abbrev Action (Result : Type) := ExceptT Failure Program Result

namespace Action

variable {Result : Type}

/-- What a program does, with its failure as that of the action. -/
def ofProgram (program : Program (Except Failure Result)) : Action Result :=
  ExceptT.mk program

/-- Accepts a result or fails. -/
def ofExcept (result : Except Failure Result) : Action Result :=
  ExceptT.mk (.done result)

/-- The program of an action, whose result may be a failure. -/
def toProgram (action : Action Result) : Program (Except Failure Result) :=
  action.run

end Action

end HandleFederation
