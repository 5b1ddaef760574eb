/-
This file says what comes of asking another instance over the network: a response,
or the reason why there is none. It also holds the rule that keeps a name from being
resolved to an address inside the local network, and the one on what a client may
call itself.
-/

import HandleFederation.Address.Literal
import HandleFederation.Text.Utf8

namespace HandleFederation

open Text

/-! ### Responses -/

/-- A final response to a request. -/
structure Response where
  status : Nat
  body : List UInt8
deriving DecidableEq, Repr, Inhabited

/-- Why a request has no response. -/
inductive TransportFault where
  | invalidUrl (detail : String)
  | insecureScheme (scheme : String)
  | blockedHost (detail : String)
  | tooManyRedirects (limit : Nat)
  | missingLocation
  | timeout
  | connect (detail : String)
  | bodyTooLarge (limit : Nat)
  | other (detail : String)
deriving DecidableEq, Repr

/-- The wording of a fault. -/
def TransportFault.message : TransportFault → String
  | .invalidUrl detail => s!"invalid URL: {detail}"
  | .insecureScheme scheme => s!"scheme {quote scheme} is not allowed"
  | .blockedHost detail => s!"host refused: {detail}"
  | .tooManyRedirects limit => s!"too many redirects (limit {limit})"
  | .missingLocation => "redirect without a usable Location header"
  | .timeout => "request timed out"
  | .connect detail => s!"connection failed: {detail}"
  | .bodyTooLarge limit => s!"response body exceeds {limit} bytes"
  | .other detail => s!"transport error: {detail}"

/-- What comes of a request. -/
abbrev Exchange := Except TransportFault Response

/-! ### Names and addresses -/

/-- Lets the addresses of a name through when there are some and every one is public, so that a name
with one public address cannot be used to reach another one. -/
def guardAddresses (host : String) (addresses : List Address) : Except String (List Address) :=
  if addresses.isEmpty then .error s!"{host} did not resolve"
  else
    match addresses.find? fun address => !address.isPublic with
    | some address => .error s!"{host} resolves to internal address {address.literal}"
    | none => .ok addresses

/-! ### Clients -/

/-- A byte that may stand in the value of a header. -/
def isHeaderByte (byte : UInt8) : Bool :=
  byte == 9 || (32 ≤ byte && byte != 127)

/-- Accepts what a client calls itself if it can be the value of a header. -/
def acceptUserAgent (userAgent : String) : Except TransportFault Unit :=
  if (Utf8.bytes userAgent).all isHeaderByte then .ok ()
  else .error (.other "Failed to create HTTP client: builder error")

end HandleFederation
