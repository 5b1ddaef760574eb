/-
This file holds the rules on what may be requested from another instance, and
follows redirects under them. A URL may be requested when it uses `https`, carries
no credentials, has the usual port, and its host is an acceptable domain. Every step
of a chain of redirects is held to these rules, and the chain has at most five steps.
-/

import HandleFederation.DomainName
import HandleFederation.Transport
import HandleFederation.Url.Reader

namespace HandleFederation.Redirect

/-! ### Targets -/

/-- Checks that a URL may be requested. The blocked suffixes are given in normal form. -/
def checkTarget (blocked : List String) (url : Url) : Except TransportFault Unit :=
  if url.scheme != "https".toList then .error (.insecureScheme (String.ofList url.scheme))
  else if url.hasCredentials then .error (.blockedHost "URL carries credentials")
  else
    match url.port? with
    | some port => .error (.blockedHost s!"non-standard port {port}")
    | none =>
      match url.host? with
      | none => .error (.invalidUrl "URL has no host")
      | some host =>
        let text := String.ofList host.write
        match DomainName.validate blocked text with
        | .error fault => .error (.blockedHost s!"{text}: {fault.message}")
        | .ok _ => .ok ()

/-! ### Chains -/

/-- The most redirects that are followed. -/
def limit : Nat := 5

/-- The URL to request after a number of redirects, when the last one names a location. -/
def nextHop (blocked : List String) (followed : Nat) (current : Url) (location : String) :
    Except TransportFault Url :=
  if limit ≤ followed then .error (.tooManyRedirects limit)
  else
    match current.join location with
    | .error fault => .error (.invalidUrl s!"{location}: {fault.message}")
    | .ok next =>
      match checkTarget blocked next with
      | .error fault => .error fault
      | .ok () => .ok next

/-- A next step is only given below the limit. -/
theorem lt_of_nextHop {blocked : List String} {followed : Nat} {current next : Url}
    {location : String} (given : nextHop blocked followed current location = .ok next) :
    followed < limit := by
  unfold nextHop at given
  split at given
  · simp at given
  · omega

/-- What comes of a single request. -/
inductive Hop where
  /-- A redirect, with its location if that was readable. -/
  | redirect (location : Option String)
  | final (response : Response)
deriving DecidableEq, Repr

/-- A chain of requests: the URLs that were requested, in order, and what came of it. -/
structure Chain where
  requested : List Url
  result : Exchange

/-- Requests a permitted URL and follows redirects from it. What a request gives may depend on the
URLs that were requested before it, the latest first. -/
def walk (blocked : List String) (fetch : List Url → Url → Except TransportFault Hop)
    (followed : Nat) (before : List Url) (current : Url) : Chain :=
  match fetch before current with
  | .error fault => ⟨[current], .error fault⟩
  | .ok (.final response) => ⟨[current], .ok response⟩
  | .ok (.redirect none) => ⟨[current], .error .missingLocation⟩
  | .ok (.redirect (some location)) =>
    match _given : nextHop blocked followed current location with
    | .error fault => ⟨[current], .error fault⟩
    | .ok next =>
      let rest := walk blocked fetch (followed + 1) (current :: before) next
      ⟨current :: rest.requested, rest.result⟩
termination_by limit - followed
decreasing_by
  have below := lt_of_nextHop _given
  omega

/-- Requests a URL and follows redirects, when the URL may be requested at all. -/
def follow (blocked : List String) (fetch : List Url → Url → Except TransportFault Hop) (url : Url) :
    Chain :=
  match checkTarget blocked url with
  | .error fault => ⟨[], .error fault⟩
  | .ok () => walk blocked fetch 0 [] url

end HandleFederation.Redirect
