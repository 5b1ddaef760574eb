/-
This file reads and writes internet addresses as literals. A literal of version 4
is four decimal numbers without leading zeros; one of version 6 is eight segments
of at most four hexadecimal digits, of which one run may be left out as `::` and
the last two may be written as an address of version 4.
-/

import HandleFederation.Address.Basic
import HandleFederation.Text.Number
import HandleFederation.Text.Quoted

namespace HandleFederation

open Text Unicode

/-! ### Reading version 4 -/

/-- Reads one octet: one to three digits, no zero in front of another digit, at most 255. -/
def readOctet (letters : List Char) : Option (UInt8 × List Char) :=
  let digits := letters.takeWhile Char.isDigit
  if digits.isEmpty || 3 < digits.length || (1 < digits.length && digits.head? == some '0') then none
  else
    let value := readDigits digits
    if value < 256 then some (value.toUInt8, letters.drop digits.length) else none

/-- Reads one given character. -/
def readMark (mark : Char) : List Char → Option (List Char)
  | [] => none
  | letter :: rest => if letter == mark then some rest else none

/-- Reads an address of version 4 from the front of a list of characters. -/
def Ipv4.read (letters : List Char) : Option (Ipv4 × List Char) := do
  let (first, letters) ← readOctet letters
  let (second, letters) ← readOctet (← readMark '.' letters)
  let (third, letters) ← readOctet (← readMark '.' letters)
  let (fourth, letters) ← readOctet (← readMark '.' letters)
  return (⟨first, second, third, fourth⟩, letters)

/-- The two segments that an address of version 4 takes up. -/
def Ipv4.toSegments (address : Ipv4) : List UInt16 :=
  [address.first.toUInt16 * 256 + address.second.toUInt16,
    address.third.toUInt16 * 256 + address.fourth.toUInt16]

/-! ### Reading version 6 -/

/-- Reads one segment: one to four hexadecimal digits. -/
def readSegment (letters : List Char) : Option (UInt16 × List Char) :=
  let digits := letters.takeWhile isHexDigit
  if digits.isEmpty || 4 < digits.length then none
  else some ((readHex digits).toUInt16, letters.drop digits.length)

/-- Some segments read from the front of a text, whether they end in an address of version 4, and
what follows them. -/
structure SegmentRun where
  segments : List UInt16
  endsInIpv4 : Bool
  rest : List Char

/-- Reads segments with colons between them while there is room for them. An address of version 4
is tried first wherever there is room for its two segments, and ends the run. -/
def readSegments : Nat → Bool → List Char → SegmentRun
  | 0, _, letters => ⟨[], false, letters⟩
  | room + 1, isFirst, letters =>
    match if isFirst then some letters else readMark ':' letters with
    | none => ⟨[], false, letters⟩
    | some body =>
      match if room = 0 then none else Ipv4.read body with
      | some (address, rest) => ⟨address.toSegments, true, rest⟩
      | none =>
        match readSegment body with
        | none => ⟨[], false, letters⟩
        | some (segment, rest) =>
          let more := readSegments room false rest
          ⟨segment :: more.segments, more.endsInIpv4, more.rest⟩

/-- The address with the given segments, when there are eight of them. -/
def Ipv6.ofSegments? (segments : List UInt16) : Option Ipv6 :=
  if size : segments.toArray.size = 8 then some ⟨⟨segments.toArray, size⟩⟩ else none

/-- Reads an address of version 6 from the whole of a list of characters. -/
def Ipv6.read? (letters : List Char) : Option Ipv6 :=
  let front := readSegments 8 true letters
  if front.segments.length = 8 then
    if front.rest.isEmpty then Ipv6.ofSegments? front.segments else none
  else if front.endsInIpv4 then none
  else do
    let afterColons ← readMark ':' (← readMark ':' front.rest)
    let back := readSegments (7 - front.segments.length) true afterColons
    if back.rest.isEmpty then
      let missing := 8 - front.segments.length - back.segments.length
      Ipv6.ofSegments? (front.segments ++ List.replicate missing 0 ++ back.segments)
    else none

/-- Reads an address from the whole of a list of characters. -/
def Address.readLetters? (letters : List Char) : Option Address :=
  match Ipv4.read letters with
  | some (address, []) => some (.v4 address)
  | some _ => none
  | none => (Ipv6.read? letters).map .v6

/-- Reads an address from the whole of a text. -/
def Address.ofLiteral? (text : String) : Option Address :=
  Address.readLetters? text.toList

/-! ### Writing -/

/-- An address of version 4 as four decimal numbers. -/
def Ipv4.letters (address : Ipv4) : List Char :=
  let number := fun (octet : UInt8) => Nat.toDigits 10 octet.toNat
  number address.first ++ '.' :: number address.second ++ '.' :: number address.third
    ++ '.' :: number address.fourth

/-- The length of the run of zeros at the front of a list of segments. -/
def leadingZeros (segments : List UInt16) : Nat :=
  (segments.takeWhile (· == 0)).length

/-- Where the first longest run of zeros starts and how long it is. -/
def longestZeros : List UInt16 → Nat × Nat
  | [] => (0, 0)
  | segment :: rest =>
    let here := leadingZeros (segment :: rest)
    let later := longestZeros rest
    if later.2 ≤ here then (0, here) else (later.1 + 1, later.2)

/-- Segments with colons between them. -/
def joinSegments (segments : List UInt16) : List Char :=
  [':'].intercalate (segments.map fun segment => hexDigits segment.toNat)

/-- Segments in hexadecimal with the first longest run of at least two zeros left out. -/
def compressSegments (segments : List UInt16) : List Char :=
  let (start, length) := longestZeros segments
  if length < 2 then joinSegments segments
  else joinSegments (segments.take start) ++ [':', ':'] ++ joinSegments (segments.drop (start + length))

/-- An address of version 6; one that holds an address of version 4 shows it in decimal. -/
def Ipv6.letters (address : Ipv6) : List Char :=
  match address.mapped? with
  | some inner => "::ffff:".toList ++ inner.letters
  | none => compressSegments address.segments.toList

/-- The text of an address. -/
def Address.literal : Address → String
  | .v4 address => String.ofList address.letters
  | .v6 address => String.ofList address.letters

end HandleFederation
