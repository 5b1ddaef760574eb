/-
This file holds the commands by which a store that several processes share is kept on
a server of its own, and what such a server does with them. Every key is sent with a
fixed text in front of it, and every value with the whole number of seconds after
which the server forgets it, which is at least one.
-/

import HandleFederation.ShortTerm.Entries

namespace HandleFederation

/-- A command to the server of a shared store. -/
inductive ServerCommand where
  | get (key : String)
  | setExpiring (key : String) (seconds : Nat) (value : String)
  | delete (key : String)
deriving DecidableEq, Repr

namespace ServerCommand

/-- The words that make up a command as it is sent. -/
def words : ServerCommand → List String
  | .get key => ["GET", key]
  | .setExpiring key seconds value => ["SETEX", key, toString seconds, value]
  | .delete key => ["DEL", key]

/-- Carries out a command at a time: gives the value that was asked for, and what the server holds
afterwards. -/
def execute (now : Nat) (command : ServerCommand) (server : TimedEntries) :
    Option String × TimedEntries :=
  match command with
  | .get key => (server.get? now key, server)
  | .setExpiring key seconds value =>
    (none, server.put key value (now + seconds * TimedEntries.perSecond))
  | .delete key => (none, server.delete key)

end ServerCommand

/-! ### Keys and lifetimes as they are sent -/

/-- The command by which the value of a key is asked for. -/
def sendGet (keyPrefix key : String) : ServerCommand :=
  .get (keyPrefix ++ key)

/-- The command by which a value is kept for some seconds. -/
def sendSet (keyPrefix key value : String) (seconds : Nat) : ServerCommand :=
  .setExpiring (keyPrefix ++ key) (max seconds 1) value

/-- The command by which a key is forgotten. -/
def sendDelete (keyPrefix key : String) : ServerCommand :=
  .delete (keyPrefix ++ key)

end HandleFederation
