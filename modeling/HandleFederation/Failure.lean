/-
This file holds the ways an operation of the server can fail: what each is called
in an answer, how it is worded, and with which status a caller over HTTP sees it.
A failure that is the server's own fault is never worded to such a caller.
-/

import HandleFederation.Json.Basic

namespace HandleFederation

/-! ### Faults of the database -/

/-- Why the database did not answer. -/
inductive DatabaseFault where
  /-- The database was closed. -/
  | closed
  /-- A row that had to exist does not. -/
  | rowMissing
  /-- A stored value cannot be read back. -/
  | undecodable (reason : String)
  /-- A row that another one refers to does not exist. -/
  | danglingReference
  /-- A row with the same key exists. -/
  | duplicateKey
deriving DecidableEq, Repr

/-- The wording of a fault of the database. -/
def DatabaseFault.message : DatabaseFault → String
  | .closed => "attempted to acquire a connection on a closed pool"
  | .rowMissing => "no rows returned by a query that expected to return at least one row"
  | .undecodable reason => s!"error occurred while decoding: {reason}"
  | .danglingReference => "error returned from database: (code: 787) FOREIGN KEY constraint failed"
  | .duplicateKey => "error returned from database: (code: 2067) UNIQUE constraint failed"

/-! ### Failures -/

/-- Why an operation of the server failed. The first six are what a resolution can tell its
caller. -/
inductive Failure where
  /-- The username of a handle is malformed. -/
  | invalidHandle (detail : String)
  /-- The domain of a handle is refused. -/
  | invalidDomain (detail : String)
  /-- This instance federates with nobody. -/
  | federationDisabled
  /-- This instance federates with its active peers only and the domain is not one. -/
  | peerNotAllowed (domain : String)
  /-- There is no such user, here or at the instance that was asked. -/
  | userNotFound (handle : String)
  /-- The other instance could not be asked or gave no usable answer. -/
  | remoteLookupFailed (domain : String)
  | database (fault : DatabaseFault)
  | validation (detail : String)
  | conflict (detail : String)
  | configuration (detail : String)
  | internal (detail : String)
  | inputOutput (detail : String)
deriving DecidableEq, Repr

namespace Failure

/-- The word by which an answer names a failure. -/
def kind : Failure → String
  | .invalidHandle _ => "invalid_handle"
  | .invalidDomain _ => "invalid_domain"
  | .federationDisabled => "federation_disabled"
  | .peerNotAllowed _ => "peer_not_allowed"
  | .userNotFound _ => "user_not_found"
  | .remoteLookupFailed _ => "remote_lookup_failed"
  | .validation _ => "invalid_request"
  | .conflict _ => "conflict"
  | .database _ | .configuration _ | .internal _ | .inputOutput _ => "internal_error"

/-- The wording of a failure. -/
def message : Failure → String
  | .invalidHandle detail => s!"Invalid handle: {detail}"
  | .invalidDomain detail => s!"Invalid domain: {detail}"
  | .federationDisabled => "Federation is disabled on this instance"
  | .peerNotAllowed domain => s!"Peer not allowed: {domain}"
  | .userNotFound handle => s!"User not found: {handle}"
  | .remoteLookupFailed domain => s!"Remote lookup failed for {domain}"
  | .database fault => s!"Database error: {fault.message}"
  | .validation detail => s!"Validation error: {detail}"
  | .conflict detail => s!"Conflict: {detail}"
  | .configuration detail => s!"Configuration error: {detail}"
  | .internal detail => s!"Internal error: {detail}"
  | .inputOutput detail => s!"IO error: {detail}"

/-! ### Answers over HTTP -/

/-- The status with which a caller over HTTP sees a failure. -/
def status : Failure → Nat
  | .invalidHandle _ | .invalidDomain _ | .validation _ => 400
  | .federationDisabled | .peerNotAllowed _ => 403
  | .userNotFound _ => 404
  | .conflict _ => 409
  | .remoteLookupFailed _ => 502
  | .database _ | .configuration _ | .internal _ | .inputOutput _ => 500

/-- What a caller over HTTP is told; nothing about a failure of the server itself. -/
def publicMessage (failure : Failure) : String :=
  if failure.status = 500 then "Internal server error" else failure.message

/-- The body of an answer that reports a failure. -/
def body (failure : Failure) : Json :=
  .object [("error", .string failure.kind), ("message", .string failure.publicMessage)]

end Failure

end HandleFederation
