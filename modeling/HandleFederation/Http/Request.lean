/-
This file reads the requests that the server is sent: the method, the target, and the
headers. A target is a path with perhaps a query, or a whole URL, or only the name of
a host; a request whose method, target or headers are malformed is refused before the
server looks at it.
-/

import HandleFederation.Transport

namespace HandleFederation

open Text

/-- A request to the server. -/
structure HttpRequest where
  method : String
  path : String
  /-- The text after the question mark of the target; empty where there is none. -/
  query : String
  /-- The headers by their names in lower case. -/
  headers : List (String × String)
deriving DecidableEq, Repr

namespace HttpRequest

/-! ### Methods and headers -/

/-- A character of a method or of the name of a header. -/
def isTokenLetter (letter : Char) : Bool :=
  letter.isAlphanum
    || ['!', '#', '$', '%', '&', '\'', '*', '+', '-', '.', '^', '_', '`', '|', '~'].contains letter

/-- Whether a text can be a method or the name of a header. -/
def isToken (text : String) : Bool :=
  !text.isEmpty && text.toList.all isTokenLetter

/-- Whether a header is well formed. -/
def isHeader (header : String × String) : Bool :=
  isToken header.1 && (Utf8.bytes header.2).all isHeaderByte

/-! ### Paths and queries -/

/-- A character of the path of a target. -/
def isPathLetter (letter : Char) : Bool :=
  let code := letter.toNat
  code == 0x21 || code == 0x22 || (0x24 ≤ code && code ≤ 0x3B) || code == 0x3D
    || (0x40 ≤ code && code ≤ 0x5F) || (0x61 ≤ code && code ≤ 0x7E) || 0x7F ≤ code

/-- A character of the query of a target. -/
def isQueryLetter (letter : Char) : Bool :=
  let code := letter.toNat
  code == 0x21 || (0x24 ≤ code && code ≤ 0x3B) || code == 0x3D || 0x3F ≤ code

/-- The path and the query of a target. -/
structure Target where
  path : List Char
  query : List Char

/-- Reads a path and a query; what follows a number sign has no meaning. -/
def readPathAndQuery? (letters : List Char) : Option Target :=
  let front := letters.takeWhile (· != '#')
  let (path, rest) := front.span (· != '?')
  let query := rest.drop 1
  if path.all isPathLetter && query.all isQueryLetter then some ⟨path, query⟩ else none

/-! ### Hosts -/

/-- A character of the part of a target that names a host, apart from the percent sign. -/
def isHostLetter (letter : Char) : Bool :=
  letter.isAlphanum
    || ['!', '$', '&', '\'', '(', ')', '*', '+', ',', '-', '.', ':', ';', '=', '@', '[', ']', '_',
      '~'].contains letter

/-- What has been seen of the part of a target that names a host. -/
structure HostScan where
  colons : Nat
  isOpened : Bool
  isClosed : Bool
  hasPercent : Bool
  endsInAt : Bool

/-- Takes in a character of the part that names a host. What stands before an at sign or in brackets
has colons and percent signs of its own. -/
def HostScan.take? (scan : HostScan) (letter : Char) : Option HostScan :=
  let scan := { scan with endsInAt := letter == '@' }
  if letter == ':' then if 8 ≤ scan.colons then none else some { scan with colons := scan.colons + 1 }
  else if letter == '[' then
    if scan.hasPercent || scan.isOpened then none else some { scan with isOpened := true }
  else if letter == ']' then
    if !scan.isOpened || scan.isClosed then none
    else some { scan with isClosed := true, colons := 0, hasPercent := false }
  else if letter == '@' then some { scan with colons := 0, hasPercent := false }
  else if letter == '%' then some { scan with hasPercent := true }
  else if isHostLetter letter then some scan
  else none

/-- Whether a text can be the part of a target that names a host. -/
def isHost (letters : List Char) : Bool :=
  match letters.foldlM HostScan.take? ⟨0, false, false, false, false⟩ with
  | none => false
  | some scan =>
    scan.isOpened == scan.isClosed && scan.colons ≤ 1 && !scan.endsInAt && !scan.hasPercent

/-! ### Whole targets -/

/-- The longest target, in bytes. -/
def maxTargetBytes : Nat := 65534

/-- The longest scheme of a target. -/
def maxSchemeLength : Nat := 64

/-- A character of a scheme. -/
def isSchemeLetter (letter : Char) : Bool :=
  letter.isAlphanum || letter == '+' || letter == '-' || letter == '.'

/-- The scheme of a target and what follows its slashes, if it has one. -/
def splitScheme? (letters : List Char) : Option (List Char × List Char) :=
  match letters.span isSchemeLetter with
  | (scheme, ':' :: '/' :: '/' :: rest) => some (scheme, rest)
  | _ => none

/-- Reads a target that does not start with a slash. -/
def readFullTarget? (letters : List Char) : Option Target :=
  match splitScheme? letters with
  | some (scheme, rest) =>
    let (host, path) := rest.span fun letter => !(letter == '/' || letter == '?' || letter == '#')
    if maxSchemeLength < scheme.length || host.isEmpty || !isHost host then none
    else (readPathAndQuery? path).map fun target =>
      if target.path.isEmpty then { target with path := ['/'] } else target
  | none => if isHost letters then some ⟨[], []⟩ else none

/-- Reads a target. -/
def readTarget? (letters : List Char) : Option Target :=
  if maxTargetBytes < (Utf8.encode letters).length then none
  else
    match letters with
    | [] => none
    | ['*'] => some ⟨['*'], []⟩
    | '/' :: _ => readPathAndQuery? letters
    | _ => readFullTarget? letters

/-- Reads a request, or refuses it. -/
def read? (method target : String) (headers : List (String × String)) : Option HttpRequest :=
  if !isToken method || !headers.all isHeader then none
  else (readTarget? target.toList).map fun found =>
    { method := method
      path := String.ofList found.path
      query := String.ofList found.query
      headers := headers.map fun header => (String.ofList (header.1.toList.map Char.toLower), header.2) }

end HttpRequest

end HandleFederation
