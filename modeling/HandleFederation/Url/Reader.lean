/-
This file reads URLs, on their own or relative to another one. What is read is
always brought to one written form: the scheme and the host in lower case, the usual
port left out, dot segments resolved and every other part percent-encoded where it
has to be.
-/

import HandleFederation.Url.Host
import HandleFederation.Text.Blank

namespace HandleFederation

open Text

namespace Url

/-! ### The text to read -/

/-- Drops what has no meaning in a URL: blanks and controls at both ends, and tabs and line ends
anywhere. -/
def meaningful (letters : List Char) : List Char :=
  (stripWhile (fun letter => letter.toNat ≤ 0x20) letters).filter fun letter =>
    !(letter == '\t' || letter == '\n' || letter == '\r')

/-- A slash, or a backslash, which counts as one where the scheme has rules of its own. -/
def isSlash (special : Bool) (letter : Char) : Bool :=
  letter == '/' || (special && letter == '\\')

/-- Whether a character ends an authority. -/
def endsAuthority (special : Bool) (letter : Char) : Bool :=
  isSlash special letter || letter == '?' || letter == '#'

/-! ### Schemes -/

/-- A character of a scheme after its first. -/
def isSchemeLetter (letter : Char) : Bool :=
  letter.isAlphanum || letter == '+' || letter == '-' || letter == '.'

/-- Reads a scheme and the colon after it. -/
def readScheme? (letters : List Char) : Option (List Char × List Char) :=
  match letters.span isSchemeLetter with
  | (first :: others, ':' :: rest) =>
    if first.isAlpha then some ((first :: others).map Char.toLower, rest) else none
  | _ => none

/-! ### Authorities -/

/-- Reads the text before an at sign as a username and a password. An empty password is none. -/
def readCredentials (letters : List Char) : List Char × Option (List Char) :=
  let (username, rest) := letters.span (· != ':')
  let password := rest.drop 1
  (Percent.encode Percent.keptInCredentials username,
    if password.isEmpty then none else some (Percent.encode Percent.keptInCredentials password))

/-- The text before the last at sign of an authority and the text after it, if it has one. -/
def splitAtLastAt? (authority : List Char) : Option (List Char × List Char) :=
  match authority.reverse.span (· != '@') with
  | (_, []) => none
  | (after, _ :: before) => some (before.reverse, after.reverse)

/-- The host of an authority, up to a colon outside of brackets, and what follows it. -/
def splitHost : Bool → List Char → List Char × List Char
  | _, [] => ([], [])
  | inBrackets, letter :: rest =>
    if letter == ':' && !inBrackets then ([], letter :: rest)
    else
      let (host, after) := splitHost (letter == '[' || (inBrackets && letter != ']')) rest
      (letter :: host, after)

/-- A port, unless it is the usual one or has no digits. -/
def portOfDigits (usual : Option Nat) (digits : List Char) : Option Nat :=
  if digits.isEmpty || usual = some (readDigits digits) then none else some (readDigits digits)

/-- Reads the colon and the port after a host, and gives what follows them. A backslash ends a
port. -/
def readPort (usual : Option Nat) (letters : List Char) :
    Except UrlFault (Option Nat × List Char) :=
  let (digits, rest) := (letters.drop 1).span (· != '\\')
  if !digits.all Char.isDigit || 65535 < readDigits digits then .error .invalidPort
  else .ok (portOfDigits usual digits, rest)

/-- Reads a host and a port, and gives what follows them. Only an ordinary host without a port may
be empty. -/
def readHostAndPort (kind : SchemeKind) (usual : Option Nat) (letters : List Char) :
    Except UrlFault (Host × Option Nat × List Char) := do
  let (text, after) := splitHost false letters
  if text.isEmpty && (kind.isSpecial || !after.isEmpty) then throw .emptyHost
  let host ← if kind.isSpecial then readSpecialHost text else readOrdinaryHost text
  return (host, ← readPort usual after)

/-- Reads an authority, and gives what follows it. Nothing may ask at an empty host. -/
def readAuthority (kind : SchemeKind) (usual : Option Nat) (letters : List Char)
    (moreFollows : Bool) : Except UrlFault (Authority × List Char) := do
  let (before, rest) := (splitAtLastAt? letters).getD ([], letters)
  if before.isEmpty && rest.length < letters.length && rest.isEmpty && moreFollows then
    throw .emptyHost
  let (username, password) := readCredentials before
  let (host, port, after) ← readHostAndPort kind usual rest
  if host = .name [] && !(username.isEmpty && password.isNone) then throw .emptyHost
  return (⟨username, password, host, port⟩, after)

/-! ### Paths -/

/-- Whether a segment stands for the place it is in; a dot may be percent-encoded. -/
def isSingleDot (segment : List Char) : Bool :=
  [".", "%2e"].contains (String.ofList (segment.map Char.toLower))

/-- Whether a segment stands for the place above; a dot may be percent-encoded. -/
def isDoubleDot (segment : List Char) : Bool :=
  ["..", ".%2e", "%2e.", "%2e%2e"].contains (String.ofList (segment.map Char.toLower))

/-- Resolves the segments of a path against the ones before them. -/
def resolveSegments (before : List (List Char)) : List (List Char) → List (List Char)
  | [] => before
  | segment :: rest =>
    let closing := if rest.isEmpty then [[]] else []
    if isDoubleDot segment then resolveSegments (before.dropLast ++ closing) rest
    else if isSingleDot segment then resolveSegments (before ++ closing) rest
    else resolveSegments (before ++ [Percent.encode Percent.keptInPath segment]) rest

/-- The segments of a text: what stands between its slashes. -/
def splitSegments (special : Bool) (letters : List Char) : List (List Char) :=
  letters.splitOnP (isSlash special)

/-- Drops one slash from the front of a path. -/
def dropSlash : List Char → List Char
  | [] => []
  | letter :: rest => if isSlash true letter then rest else letter :: rest

/-- Reads a path relative to the segments before it. -/
def readPath (special : Bool) (before : List (List Char)) (letters : List Char) : UrlPath :=
  .segments (resolveSegments before (splitSegments special letters))

/-! ### Queries and fragments -/

/-- The path of a text, its query and its fragment, none of them read yet. -/
def splitParts (letters : List Char) : List Char × Option (List Char) × Option (List Char) :=
  let (front, fragment) := letters.span (· != '#')
  let (path, query) := front.span (· != '?')
  (path, if query.isEmpty then none else some (query.drop 1),
    if fragment.isEmpty then none else some (fragment.drop 1))

/-- Reads a query. -/
def readQuery (special : Bool) (letters : List Char) : List Char :=
  Percent.encode (Percent.keptInQuery special) letters

/-- Reads a fragment. -/
def readFragment (letters : List Char) : List Char :=
  Percent.encode Percent.keptInFragment letters

/-! ### URLs with a scheme -/

/-- Reads what follows the two slashes in front of an authority. -/
def readAfterSlashes (scheme : List Char) (letters : List Char) : Except UrlFault Url := do
  let kind := SchemeKind.ofScheme scheme
  let (authorityText, rest) := letters.span fun letter => !endsAuthority kind.isSpecial letter
  let (authority, left) ←
    readAuthority kind (hostedSchemes.lookup scheme) authorityText (!rest.isEmpty)
  let (path, query, fragment) := splitParts (left ++ rest)
  let path := if path.isEmpty && !kind.isSpecial then .segments []
    else readPath kind.isSpecial [] (dropSlash path)
  return ⟨scheme, some authority, path, query.map (readQuery kind.isSpecial),
    fragment.map readFragment⟩

/-- Reads what follows the colon of an ordinary scheme. -/
def readOrdinary (scheme : List Char) (letters : List Char) : Except UrlFault Url :=
  match letters with
  | '/' :: '/' :: rest => readAfterSlashes scheme rest
  | _ =>
    let (path, query, fragment) := splitParts letters
    let path := match path with
      | '/' :: rest => readPath false [] rest
      | _ => .whole (Percent.encode (fun letter => !Percent.isControl letter) path)
    .ok ⟨scheme, none, path, query.map (readQuery false), fragment.map readFragment⟩

/-- A letter and a colon or bar, which name a drive and never a host. -/
def isDrive (letters : List Char) : Bool :=
  match letters with
  | [letter, mark] => letter.isAlpha && (mark == ':' || mark == '|')
  | _ => false

/-- Reads what follows the colon of the scheme for files, or a text relative to a file. Two slashes
come before a host, which may be empty and must be well formed otherwise. -/
def readFile (base : Option Url) (letters : List Char) : Except UrlFault Url := do
  let scheme := "file".toList
  let noHost : Authority := ⟨[], none, .name [], none⟩
  let finish := fun (authority : Authority) (before : List (List Char)) (rest : List Char) =>
    let (path, query, fragment) := splitParts rest
    let url : Url := ⟨scheme, some authority, readPath true before path,
      query.map (readQuery true), fragment.map readFragment⟩
    url
  match letters with
  | first :: second :: rest =>
    if isSlash true first && isSlash true second then
      let (text, after) := rest.span fun letter => !endsAuthority true letter
      if text.isEmpty || isDrive text then return finish noHost [] rest
      let host ← readSpecialHost text
      let host := if host = .name "localhost".toList then .name [] else host
      return finish { noHost with host := host } [] (dropSlash after)
    else if isSlash true first then return finish noHost [] (second :: rest)
    else return finish ((base.bind Url.authority).getD noHost) [] letters
  | _ => return finish ((base.bind Url.authority).getD noHost) [] letters

/-! ### Relative URLs -/

/-- The segments of the path of a URL. -/
def segments (url : Url) : List (List Char) :=
  match url.path with
  | .segments parts => parts
  | .whole _ => []

/-- Reads a text without a scheme relative to a URL of any scheme but the one for files. -/
def readRelative (base : Url) (letters : List Char) : Except UrlFault Url :=
  let special := (SchemeKind.ofScheme base.scheme).isSpecial
  let (path, query, fragment) := splitParts letters
  let query := query.map (readQuery special)
  let fragment := fragment.map readFragment
  match path with
  | [] => .ok { base with query := if query.isSome then query else base.query, fragment := fragment }
  | first :: rest =>
    if isSlash true first then
      match rest with
      | second :: _ =>
        if isSlash true second then
          if first == '/' && second == '/' then readAfterSlashes base.scheme (letters.drop 2)
          else readAfterSlashes base.scheme (letters.dropWhile (isSlash true))
        else .ok { base with path := readPath special [] rest, query := query, fragment := fragment }
      | [] => .ok { base with path := readPath special [] rest, query := query, fragment := fragment }
    else
      .ok { base with
        path := readPath special base.segments.dropLast path
        query := query
        fragment := fragment }

/-! ### Reading -/

/-- Reads what follows a scheme and its colon. -/
def readWithScheme (base : Option Url) (scheme letters : List Char) : Except UrlFault Url :=
  match SchemeKind.ofScheme scheme with
  | .file => readFile (base.filter fun url => url.scheme == scheme) letters
  | .ordinary => readOrdinary scheme letters
  | .hosted =>
    let slashes := letters.takeWhile (isSlash true)
    match base with
    | some base =>
      if slashes.length < 2 && base.scheme == scheme then readRelative base letters
      else readAfterSlashes scheme (letters.drop slashes.length)
    | none => readAfterSlashes scheme (letters.drop slashes.length)

/-- Reads a text without a scheme. -/
def readWithoutScheme (base : Option Url) (letters : List Char) : Except UrlFault Url :=
  match base with
  | none => .error .relativeWithoutBase
  | some base =>
    if letters.head? = some '#' then
      .ok { base with fragment := some (readFragment (letters.drop 1)) }
    else if !base.isBase then .error .relativeToWhole
    else if SchemeKind.ofScheme base.scheme = .file then readFile (some base) letters
    else readRelative base letters

/-- Reads a list of characters, relative to a URL if there is one. -/
def readLetters (base : Option Url) (letters : List Char) : Except UrlFault Url :=
  let letters := meaningful letters
  match readScheme? letters with
  | some (scheme, rest) => readWithScheme base scheme rest
  | none => readWithoutScheme base letters

/-- Reads a URL from a text. -/
def read (text : String) : Except UrlFault Url :=
  readLetters none text.toList

/-- Reads a text that may be relative to a URL. -/
def join (base : Url) (text : String) : Except UrlFault Url :=
  readLetters (some base) text.toList

end Url

end HandleFederation
