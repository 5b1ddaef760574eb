/-
This file holds URLs and writes them. A URL has a scheme, perhaps an authority (who
asks, which host, which port), a path, and perhaps a query and a fragment. All parts
are kept in the form in which they are written, so that writing only puts them
together.
-/

import HandleFederation.Address.Literal

namespace HandleFederation

/-- The host of a URL. -/
inductive Host where
  /-- A name to look up; it is empty where a scheme needs no host. -/
  | name (letters : List Char)
  | v4 (address : Ipv4)
  | v6 (address : Ipv6)
deriving DecidableEq, Repr

/-- The part of a URL that says who asks, at which host and at which port. A port is absent where it
is the usual one of the scheme. -/
structure Authority where
  username : List Char
  password : Option (List Char)
  host : Host
  port : Option Nat
deriving DecidableEq, Repr

/-- The path of a URL. -/
inductive UrlPath where
  /-- Segments that each follow a slash. -/
  | segments (parts : List (List Char))
  /-- One text without structure, which nothing can be relative to. -/
  | whole (text : List Char)
deriving DecidableEq, Repr

/-- A URL. -/
structure Url where
  scheme : List Char
  authority : Option Authority
  path : UrlPath
  query : Option (List Char)
  fragment : Option (List Char)
deriving DecidableEq, Repr

/-! ### Schemes -/

/-- What the rules of reading depend on: ordinary schemes, the one for files, and the ones that
name a host and have a usual port. -/
inductive SchemeKind where
  | ordinary
  | file
  | hosted
deriving DecidableEq, Repr

/-- Whether a scheme has rules of its own for slashes, hosts and queries. -/
def SchemeKind.isSpecial : SchemeKind → Bool
  | .ordinary => false
  | .file => true
  | .hosted => true

/-- The schemes that name a host, each with its usual port. -/
def hostedSchemes : List (List Char × Nat) :=
  [("http".toList, 80), ("https".toList, 443), ("ws".toList, 80), ("wss".toList, 443),
    ("ftp".toList, 21)]

/-- The kind of a scheme. -/
def SchemeKind.ofScheme (scheme : List Char) : SchemeKind :=
  if scheme == "file".toList then .file
  else if (hostedSchemes.lookup scheme).isSome then .hosted
  else .ordinary

/-! ### Writing -/

/-- A host as it is written. An address of version 6 stands in brackets, in hexadecimal. -/
def Host.write : Host → List Char
  | .name letters => letters
  | .v4 address => address.letters
  | .v6 address => '[' :: compressSegments address.segments.toList ++ [']']

/-- An authority as it is written, after its two slashes. -/
def Authority.write (authority : Authority) : List Char :=
  let credentials := authority.username ++ match authority.password with
    | some password => ':' :: password
    | none => []
  (if credentials.isEmpty then [] else credentials ++ ['@'])
    ++ authority.host.write
    ++ match authority.port with
      | some port => ':' :: Nat.toDigits 10 port
      | none => []

/-- A path as it is written. -/
def UrlPath.write : UrlPath → List Char
  | .segments parts => parts.flatMap ('/' :: ·)
  | .whole text => text

/-- A part of a URL after its mark, or nothing when it is absent. -/
def writePart (mark : Char) : Option (List Char) → List Char
  | some text => mark :: text
  | none => []

namespace Url

/-- A URL as it is written. -/
def write (url : Url) : List Char :=
  url.scheme ++ ':' ::
    (match url.authority with
      | some authority => '/' :: '/' :: authority.write
      | none => [])
    ++ url.path.write ++ writePart '?' url.query ++ writePart '#' url.fragment

/-- The text of a URL. -/
def toText (url : Url) : String :=
  String.ofList url.write

/-- The host of a URL, if it has one. -/
def host? (url : Url) : Option Host :=
  url.authority.bind fun authority =>
    match authority.host with
    | .name [] => none
    | host => some host

/-- Whether a URL carries a username or a password. -/
def hasCredentials (url : Url) : Bool :=
  match url.authority with
  | some authority => !authority.username.isEmpty || authority.password.isSome
  | none => false

/-- The port of a URL, unless it is the usual one of its scheme. -/
def port? (url : Url) : Option Nat :=
  url.authority.bind Authority.port

/-- Whether other URLs can be relative to a URL. -/
def isBase (url : Url) : Bool :=
  url.authority.isSome || match url.path with
    | .segments _ => true
    | .whole _ => false

end Url

end HandleFederation
