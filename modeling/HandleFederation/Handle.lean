/-
This file reads handles. A handle is a username, or a username and a domain with an
at sign between them, with one more at sign allowed in front. Reading never fails:
what is no username is only found out when the username is looked at on its own.
-/

import HandleFederation.Failure
import HandleFederation.Text.Blank

namespace HandleFederation

open Text

/-- A handle: a username and perhaps the domain of its instance. -/
structure Handle where
  username : String
  domain : Option String
deriving DecidableEq, Repr

namespace Handle

/-! ### Reading -/

/-- Drops one at sign from the front of a list of characters. -/
def dropLeadingAt : List Char → List Char
  | '@' :: rest => rest
  | letters => letters

/-- The handle that a list of characters stands for: the part before the first at sign, and the
part after it if there is one. -/
def ofLetters (letters : List Char) : Handle :=
  match letters.span (· != '@') with
  | (username, []) => ⟨String.ofList username, none⟩
  | (username, _ :: domain) => ⟨String.ofList username, some (String.ofList domain)⟩

/-- Reads a handle from a text, without regard to the blanks around it. -/
def read (text : String) : Handle :=
  ofLetters (dropLeadingAt (trimLetters text.toList))

end Handle

/-! ### Usernames -/

namespace Username

/-- The largest number of characters a username may have. -/
def maxLength : Nat := 32

/-- Why a username is refused. -/
inductive Fault where
  | empty
  | tooLong
  | invalidLetters
deriving DecidableEq, Repr

/-- The wording of a fault. -/
def Fault.message : Fault → String
  | .empty => "Username cannot be empty"
  | .tooLong => s!"Username too long (max {maxLength} characters)"
  | .invalidLetters => "Username contains invalid characters"

/-- A character of a username: a letter, a digit, an underscore, a dot or a hyphen. -/
def isLetter (letter : Char) : Bool :=
  letter.isAlphanum || letter == '_' || letter == '.' || letter == '-'

/-- The fault of a username, if it has one. -/
def fault? (username : String) : Option Fault :=
  if username.isEmpty then some .empty
  else if maxLength < username.toList.length then some .tooLong
  else if !username.toList.all isLetter then some .invalidLetters
  else none

/-- Accepts a username or reports its fault. -/
def validate (username : String) : Except Failure Unit :=
  match fault? username with
  | some fault => .error (.invalidHandle fault.message)
  | none => .ok ()

end Username

end HandleFederation
