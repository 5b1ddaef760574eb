/-
This file holds the store for short-lived values, of which there are two kinds: one in
the memory of the process, which keeps expired values until they are purged, and one
on a server that several processes share, which forgets them by itself.
-/

import HandleFederation.Configuration.Basic
import HandleFederation.ShortTerm.Server
import HandleFederation.Url.Reader

namespace HandleFederation

open Text

/-- A store for short-lived values. -/
inductive ShortTermStore where
  /-- In the memory of the process. -/
  | memory (entries : TimedEntries)
  /-- On a server, with a fixed text in front of every key. -/
  | shared (keyPrefix : String) (server : TimedEntries)
deriving DecidableEq, Repr

/-- What a store is asked to do. -/
inductive StoreOperation where
  | get
  | set
  | delete
  | purge
deriving DecidableEq, Repr

/-- The word for an operation. -/
def StoreOperation.word : StoreOperation → String
  | .get => "get"
  | .set => "set"
  | .delete => "delete"
  | .purge => "purge"

/-- How it is reported that the server of a shared store did not carry out an operation. -/
def StoreOperation.serverFailure (operation : StoreOperation) (detail : String) : Failure :=
  .internal s!"Cache {operation.word} failed: {detail}"

namespace ShortTermStore

/-! ### Operations -/

/-- The value of a key at a time. -/
def get? (now : Nat) (key : String) : ShortTermStore → Option String
  | .memory entries => entries.get? now key
  | .shared keyPrefix server => ((sendGet keyPrefix key).execute now server).1

/-- Keeps a value for some seconds. Nothing comes of it in memory when there is no point of time that
late. -/
def set? (now : Nat) (key value : String) (seconds : Nat) : ShortTermStore → Option ShortTermStore
  | .memory entries =>
    (TimedEntries.expiry? now seconds).map fun expiry => .memory (entries.put key value expiry)
  | .shared keyPrefix server =>
    some (.shared keyPrefix ((sendSet keyPrefix key value seconds).execute now server).2)

/-- Forgets a key. -/
def delete (now : Nat) (key : String) : ShortTermStore → ShortTermStore
  | .memory entries => .memory (entries.delete key)
  | .shared keyPrefix server =>
    .shared keyPrefix ((sendDelete keyPrefix key).execute now server).2

/-- Forgets what has expired, and gives the number of values that were forgotten; a server has
nothing left to forget. -/
def purge (now : Nat) : ShortTermStore → Nat × ShortTermStore
  | .memory entries =>
    let (count, live) := entries.purge now
    (count, .memory live)
  | .shared keyPrefix server => (0, .shared keyPrefix server)

/-- The number of stored values, expired ones included. -/
def size : ShortTermStore → Nat
  | .memory entries => entries.size
  | .shared _ server => server.size

/-! ### Opening -/

/-- Whether a text is a whole number that fits in sixty-four bits with a sign. -/
def isSignedNumber : List Char → Bool
  | '-' :: digits => digits.head? != some '+' && (readBelow (bound63 + 1) digits).isSome
  | letters => (readBelow bound63 letters).isSome

/-- Whether a path is empty but for slashes or gives the number of a database. -/
def namesDatabase (path : UrlPath) : Bool :=
  let letters := stripWhile (· == '/') path.write
  letters.isEmpty || isSignedNumber letters

/-- Whether a URL gives the path of a socket on the machine itself. -/
def namesSocket (url : Url) : Bool :=
  url.path.write.head? = some '/'
    && (url.host?.isNone || url.host? = some (.name "localhost".toList))

/-- Whether a URL can name the server of a shared store: a host and perhaps a database on it, or a
socket. -/
def namesServer (url : Url) : Bool :=
  if url.scheme = "redis".toList then url.host?.isSome && namesDatabase url.path
  else if url.scheme = "unix".toList || url.scheme = "redis+unix".toList then namesSocket url
  else false

/-- Whether a text is a URL that can name the server of a shared store. -/
def isServerUrl (text : String) : Bool :=
  match Url.read text with
  | .ok url => namesServer url
  | .error _ => false

/-- A new store as the settings describe it. -/
def ofSettings (settings : CacheSettings) : Except Failure ShortTermStore :=
  match settings.backend with
  | .memory => .ok (.memory .empty)
  | .redis =>
    if isServerUrl settings.redisUrl then .ok (.shared settings.keyPrefix .empty)
    else .error (.configuration "Redis client creation failed: Redis URL did not parse")

end ShortTermStore

end HandleFederation
