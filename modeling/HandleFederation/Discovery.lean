/-
This file holds what an instance declares about itself, and reads such a declaration
from another instance. A declaration is accepted only when it has exactly its six
fields, each within its bounds, and names the domain it was fetched from.
-/

import HandleFederation.Json.Reader
import HandleFederation.Mode
import HandleFederation.Redirect

namespace HandleFederation

open Text

/-- What an instance declares about itself. -/
structure Declaration where
  instanceId : String
  domain : String
  publicKey : String
  name : String
  software : String
  mode : FederationMode
deriving DecidableEq, Repr

/-- Why an instance could not be discovered. -/
inductive DiscoveryFault where
  | transport (fault : TransportFault)
  | unexpectedStatus (status : Nat)
  | malformed
  | domainMismatch (expected found : String)
deriving DecidableEq, Repr

namespace Declaration

/-! ### Reading and writing -/

/-- The names of the fields, in order. -/
def fieldNames : List String :=
  ["instance_id", "domain", "public_key", "name", "software", "federation_mode"]

/-- Reads a declaration from a document. -/
def ofJson? (value : Json) : Option Declaration := do
  match ← value.fields? true fieldNames with
  | [instanceId, domain, publicKey, name, software, mode] =>
    return ⟨← Json.requiredText? instanceId, ← Json.requiredText? domain,
      ← Json.requiredText? publicKey, ← Json.requiredText? name, ← Json.requiredText? software,
      ← mode.bind FederationMode.ofJson?⟩
  | _ => none

/-- A declaration as a document. -/
def toJson (declaration : Declaration) : Json :=
  .object [("instance_id", .string declaration.instanceId), ("domain", .string declaration.domain),
    ("public_key", .string declaration.publicKey), ("name", .string declaration.name),
    ("software", .string declaration.software),
    ("federation_mode", .string declaration.mode.word)]

/-! ### Bounds -/

/-- Whether the number of characters of a text lies between two bounds. -/
def lengthWithin (least most : Nat) (text : String) : Bool :=
  least ≤ text.length && text.length ≤ most

/-- Whether every field is within its bounds. -/
def isWithinBounds (declaration : Declaration) : Bool :=
  lengthWithin 1 128 declaration.instanceId && lengthWithin 1 253 declaration.domain
    && lengthWithin 1 4096 declaration.publicKey && lengthWithin 0 256 declaration.name
    && lengthWithin 1 128 declaration.software

/-! ### Acceptance -/

/-- The declaration in the body of a response, if it is acceptable for a domain. -/
def ofBody (domain : String) (body : List UInt8) : Except DiscoveryFault Declaration :=
  match (Json.ofBytes? body).bind ofJson? with
  | none => .error .malformed
  | some declaration =>
    if !declaration.isWithinBounds then .error .malformed
    else if !sameUpToCase declaration.domain domain then
      .error (.domainMismatch domain declaration.domain)
    else .ok declaration

/-- The declaration that comes of a request, if it is acceptable for a domain. -/
def ofExchange (domain : String) : Exchange → Except DiscoveryFault Declaration
  | .error fault => .error (.transport fault)
  | .ok response =>
    if response.status != 200 then .error (.unexpectedStatus response.status)
    else ofBody domain response.body

end Declaration

/-- The wording of a fault. -/
def DiscoveryFault.message : DiscoveryFault → String
  | .transport fault => fault.message
  | .unexpectedStatus status => s!"unexpected status {status}"
  | .malformed => "malformed discovery document"
  | .domainMismatch expected found => s!"document declares domain {found}, expected {expected}"

/-! ### Addresses of the two documents -/

/-- Where every instance declares itself. -/
def declarationPath : String := "/.well-known/federation"

/-- Where every instance answers for its users. -/
def lookupPath : String := "/federation/v1/users/lookup"

/-- The URL at which the instance of a domain declares itself. -/
def declarationUrl (domain : String) : Except TransportFault Url :=
  match Url.read ("https://" ++ domain ++ declarationPath) with
  | .ok url => .ok url
  | .error fault => .error (.invalidUrl fault.message)

end HandleFederation
