/-
This file holds the profile of a user as instances show it to each other, and reads
one from the answer of another instance. A profile is accepted only when it has no
field but its own, each within its bounds, and is about the user who was asked for.
-/

import HandleFederation.Discovery
import HandleFederation.Failure

namespace HandleFederation

open Text

/-- The profile of a user. -/
structure Profile where
  id : String
  username : String
  displayName : Option String
  avatarId : Option String
  bio : Option String
  createdAt : Option String
deriving DecidableEq, Repr

namespace Profile

/-! ### Reading and writing -/

/-- The names of the fields, in order. -/
def fieldNames : List String :=
  ["id", "username", "display_name", "avatar_id", "bio", "created_at"]

/-- Reads a profile from a document. -/
def ofJson? (value : Json) : Option Profile := do
  match ← value.fields? true fieldNames with
  | [id, username, displayName, avatarId, bio, createdAt] =>
    return ⟨← Json.requiredText? id, ← Json.requiredText? username,
      ← Json.optionalText? displayName, ← Json.optionalText? avatarId, ← Json.optionalText? bio,
      ← Json.optionalText? createdAt⟩
  | _ => none

/-- A profile as a document. -/
def toJson (profile : Profile) : Json :=
  .object [("id", .string profile.id), ("username", .string profile.username),
    ("display_name", Json.ofOption profile.displayName),
    ("avatar_id", Json.ofOption profile.avatarId), ("bio", Json.ofOption profile.bio),
    ("created_at", Json.ofOption profile.createdAt)]

/-! ### Acceptance -/

/-- Whether a text is absent or has at most so many characters. -/
def absentOrWithin (most : Nat) : Option String → Bool
  | none => true
  | some text => text.length ≤ most

/-- Whether every field is within its bounds. -/
def isWithinBounds (profile : Profile) : Bool :=
  Declaration.lengthWithin 1 128 profile.id && Declaration.lengthWithin 1 32 profile.username
    && absentOrWithin 128 profile.displayName && absentOrWithin 256 profile.avatarId
    && absentOrWithin 2048 profile.bio

/-- The profile in the body of a response, if it is acceptable for a username. -/
def ofBody? (username : String) (body : List UInt8) : Option Profile :=
  match (Json.ofBytes? body).bind ofJson? with
  | none => none
  | some profile =>
    if profile.isWithinBounds && sameUpToCase profile.username username then some profile else none

/-! ### Lookups -/

/-- What an instance answers about one of its users. -/
inductive Answer where
  | found (profile : Profile)
  /-- There is no such user. -/
  | missing
  /-- Nothing that can be used. -/
  | unusable
deriving DecidableEq, Repr

/-- What the outcome of a request says about a user. -/
def Answer.ofExchange (username : String) : Exchange → Answer
  | .error _ => .unusable
  | .ok response =>
    if response.status = 200 then
      match ofBody? username response.body with
      | some profile => .found profile
      | none => .unusable
    else if response.status = 404 then .missing
    else .unusable

/-- The URL at which the instance of a domain answers for a user. -/
def lookupUrl (domain username : String) : Except Failure Url :=
  let query := String.ofList (Percent.encode Percent.isUnreserved username.toList)
  match Url.read ("https://" ++ domain ++ lookupPath ++ "?username=" ++ query) with
  | .ok url => .ok url
  | .error _ => .error (.invalidDomain domain)

end Profile

end HandleFederation
