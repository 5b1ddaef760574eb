/-
This file reads the host of a URL. A host in brackets is an address of version 6.
Any other is decoded and brought to its plain form first, and if its last label is
then a number, it has to be an address of version 4: one to four numbers, decimal,
octal or hexadecimal, the last of which fills all the octets that remain.
-/

import HandleFederation.HostName.Ascii
import HandleFederation.Url.Basic
import HandleFederation.Url.Percent

namespace HandleFederation

open Text Unicode

/-! ### Faults -/

/-- Why a text is no URL. -/
inductive UrlFault where
  | emptyHost
  | invalidPort
  | invalidIpv4
  | invalidIpv6
  | invalidName
  | invalidNameCharacter
  | relativeWithoutBase
  | relativeToWhole
deriving DecidableEq, Repr

/-- The wording of a fault. -/
def UrlFault.message : UrlFault → String
  | .emptyHost => "empty host"
  | .invalidPort => "invalid port number"
  | .invalidIpv4 => "invalid IPv4 address"
  | .invalidIpv6 => "invalid IPv6 address"
  | .invalidName => "invalid international domain name"
  | .invalidNameCharacter => "invalid domain character"
  | .relativeWithoutBase => "relative URL without a base"
  | .relativeToWhole => "relative URL with a cannot-be-a-base base"

/-! ### Numbers of an address -/

/-- The number that digits stand for to a base, when each of them is below it. -/
def readToBase? (base : Nat) (digits : List Char) : Option Nat :=
  if digits.all fun letter => isHexDigit letter && hexDigitValue letter < base then
    some (digits.foldl (fun value letter => value * base + hexDigitValue letter) 0)
  else none

/-- Reads one number of an address. Zero and an x in front make it hexadecimal, any other zero in
front octal; without digits after that it is zero. -/
def readAddressNumber? (letters : List Char) : Option Nat :=
  match letters with
  | [] => none
  | '0' :: 'x' :: digits => readToBase? 16 digits
  | '0' :: 'X' :: digits => readToBase? 16 digits
  | '0' :: second :: digits => readToBase? 8 (second :: digits)
  | digits => readToBase? 10 digits

/-- The labels of a host without an empty one at the end. -/
def hostLabels (host : List Char) : List (List Char) :=
  let parts := host.splitOn '.'
  if parts.getLast? = some [] then parts.dropLast else parts

/-- Whether the last label of a host is a number, so that the host has to be an address. -/
def endsInNumber (host : List Char) : Bool :=
  match (hostLabels host).getLast? with
  | none => false
  | some last => (!last.isEmpty && last.all Char.isDigit) || (readAddressNumber? last).isSome

/-- Puts the numbers of an address together: each but the last is an octet. -/
def addressOfNumbers? (numbers : List Nat) : Option Ipv4 :=
  match numbers.reverse with
  | [] => none
  | last :: others =>
    if 4 < numbers.length || others.any (255 < ·) || Nat.pow 256 (5 - numbers.length) ≤ last then none
    else
      let front := others.reverse.foldl (fun value octet => value * 256 + octet) 0
      some (Ipv4.ofNat (front * Nat.pow 256 (5 - numbers.length) + last))

/-- Reads an address of version 4 in any of its notations. -/
def readAnyIpv4? (host : List Char) : Option Ipv4 :=
  ((hostLabels host).mapM readAddressNumber?).bind addressOfNumbers?

/-! ### Hosts -/

/-- What stands between the brackets of a host that starts with one. -/
def bracketed? (host : List Char) : Option (List Char) :=
  match host.getLast? with
  | some ']' => some (host.dropLast.drop 1)
  | _ => none

/-- Reads an address of version 6 in brackets. -/
def readBracketed (host : List Char) : Except UrlFault Host :=
  match (bracketed? host).bind Ipv6.read? with
  | some address => .ok (.v6 address)
  | none => .error .invalidIpv6

/-- Reads the plain form of a host that is not in brackets. -/
def readPlainHost (name : List Char) : Except UrlFault Host :=
  if name.isEmpty then .error .emptyHost
  else if endsInNumber name then
    match readAnyIpv4? name with
    | some address => .ok (.v4 address)
    | none => .error .invalidIpv4
  else .ok (.name name)

/-- Reads the host of a URL whose scheme has rules of its own. -/
def readSpecialHost (host : List Char) : Except UrlFault Host :=
  if host.head? = some '[' then readBracketed host
  else
    match (Utf8.decode? (Percent.decode host)).bind HostName.toAscii? with
    | some name => readPlainHost name
    | none => .error .invalidName

/-- The characters that may not stand in the host of an ordinary URL. -/
def isForbiddenInHost (letter : Char) : Bool :=
  ['\x00', '\t', '\n', '\r', ' ', '#', '/', ':', '<', '>', '?', '@', '[', '\\', ']', '^', '|'].contains letter

/-- Reads the host of an ordinary URL, which has no form to be brought to. -/
def readOrdinaryHost (host : List Char) : Except UrlFault Host :=
  if host.head? = some '[' then readBracketed host
  else if host.any isForbiddenInHost then .error .invalidNameCharacter
  else .ok (.name (Percent.encode (fun letter => !Percent.isControl letter) host))

end HandleFederation
