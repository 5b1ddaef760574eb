/-
This file holds points of time and their written form, which is that of RFC 3339
in Coordinated Universal Time. A point of time is kept to the nanosecond, and a
leap second is kept as the second before it with more than a second of fraction.
-/

import HandleFederation.Text.Number

namespace HandleFederation

open Text

/-- A point of time: whole seconds since the start of 1970, and nanoseconds after them. Within a
leap second the nanoseconds are a thousand million or more. -/
structure Timestamp where
  seconds : Int
  nanoseconds : Nat
deriving DecidableEq, Repr, Inhabited

namespace Timestamp

/-- The number of nanoseconds in a second. -/
def perSecond : Nat := 1000000000

/-! ### Reckoning -/

/-- The nanoseconds since the start of 1970. -/
def toNanoseconds (time : Timestamp) : Int :=
  time.seconds * perSecond + time.nanoseconds

/-- The point of time a number of whole seconds later. -/
def addSeconds (time : Timestamp) (seconds : Int) : Timestamp :=
  { time with seconds := time.seconds + seconds }

/-- The point of time a number of nanoseconds after the start of 1970. -/
def ofNanoseconds (nanoseconds : Int) : Timestamp :=
  ⟨nanoseconds.fdiv perSecond, (nanoseconds.fmod perSecond).toNat⟩

/-- The nanoseconds from one point of time to another, or zero when the other is earlier. -/
def elapsed (start stop : Timestamp) : Nat :=
  (stop.toNanoseconds - start.toNanoseconds).toNat

/-! ### The calendar -/

/-- A day of the calendar. -/
structure Day where
  year : Int
  month : Nat
  day : Nat
deriving DecidableEq, Repr

/-- Whether a year has a leap day. -/
def isLeapYear (year : Int) : Bool :=
  year % 4 == 0 && (year % 100 != 0 || year % 400 == 0)

/-- The number of days of a month. -/
def daysInMonth (year : Int) (month : Nat) : Nat :=
  if month == 2 then (if isLeapYear year then 29 else 28)
  else if month == 4 || month == 6 || month == 9 || month == 11 then 30
  else 31

/-- The number of days from the start of 1970 to a day. Years are counted from March, so that the
leap day is the last of its year. -/
def Day.number (day : Day) : Int :=
  let year := if day.month ≤ 2 then day.year - 1 else day.year
  let era := year.fdiv 400
  let yearOfEra := year - era * 400
  let month : Int := (day.month + 9) % 12
  let dayOfYear := (153 * month + 2) / 5 + (day.day - 1)
  let dayOfEra := yearOfEra * 365 + yearOfEra / 4 - yearOfEra / 100 + dayOfYear
  era * 146097 + dayOfEra - 719468

/-- The day that comes a number of days after the start of 1970. -/
def Day.ofNumber (number : Int) : Day :=
  let shifted := number + 719468
  let era := shifted.fdiv 146097
  let dayOfEra := shifted - era * 146097
  let yearOfEra := (dayOfEra - dayOfEra / 1460 + dayOfEra / 36524 - dayOfEra / 146096) / 365
  let dayOfYear := dayOfEra - (365 * yearOfEra + yearOfEra / 4 - yearOfEra / 100)
  let march := (5 * dayOfYear + 2) / 153
  let day := dayOfYear - (153 * march + 2) / 5 + 1
  let month := if march < 10 then march + 3 else march - 9
  let year := yearOfEra + era * 400
  ⟨if month ≤ 2 then year + 1 else year, month.toNat, day.toNat⟩

/-! ### Writing -/

/-- A year: four digits from 0 to 9999, and a sign with at least four digits outside. -/
def writeYear (year : Int) : List Char :=
  if 0 ≤ year && year ≤ 9999 then paddedDigits 4 year.toNat
  else if year < 0 then '-' :: paddedDigits 4 year.natAbs
  else '+' :: paddedDigits 4 year.natAbs

/-- A fraction of a second in as few groups of three digits as show it whole. -/
def writeFraction (nanoseconds : Nat) : List Char :=
  if nanoseconds = 0 then []
  else if nanoseconds % 1000000 = 0 then '.' :: paddedDigits 3 (nanoseconds / 1000000)
  else if nanoseconds % 1000 = 0 then '.' :: paddedDigits 6 (nanoseconds / 1000)
  else '.' :: paddedDigits 9 nanoseconds

/-- The date and the time of day down to the second, and the rest of the nanoseconds. -/
def writeSeconds (time : Timestamp) : List Char × Nat :=
  let day := Day.ofNumber (time.seconds.fdiv 86400)
  let second := (time.seconds.fmod 86400).toNat
  let leap := perSecond ≤ time.nanoseconds
  let clock := paddedDigits 2 (second / 3600) ++ ':' :: paddedDigits 2 (second / 60 % 60) ++ ':' ::
    paddedDigits 2 (second % 60 + if leap then 1 else 0)
  (writeYear day.year ++ '-' :: paddedDigits 2 day.month ++ '-' :: paddedDigits 2 day.day
    ++ 'T' :: clock, if leap then time.nanoseconds - perSecond else time.nanoseconds)

/-- The written form of a point of time. -/
def toText (time : Timestamp) : String :=
  let (whole, rest) := time.writeSeconds
  String.ofList (whole ++ writeFraction rest ++ ['Z'])

/-- The written form of a point of time cut to whole seconds. -/
def toWholeSecondsText (time : Timestamp) : String :=
  String.ofList (time.writeSeconds.1 ++ ['Z'])

/-! ### Reading -/

/-- Reads a number of exactly so many digits. -/
def readCount (width : Nat) (letters : List Char) : Option (Nat × List Char) :=
  let digits := letters.take width
  if digits.length = width && digits.all Char.isDigit then some (readDigits digits, letters.drop width)
  else none

/-- Reads one of some characters. -/
def readOneOf (marks : List Char) : List Char → Option (List Char)
  | [] => none
  | letter :: rest => if marks.contains letter then some rest else none

/-- Reads a fraction of a second, if there is one, as nanoseconds; digits after the ninth count for
nothing. -/
def readFraction : List Char → Option (Nat × List Char)
  | '.' :: rest =>
    let (digits, after) := rest.span Char.isDigit
    let kept := digits.take 9
    if digits.isEmpty then none
    else some (readDigits kept * Nat.pow 10 (9 - kept.length), after)
  | letters => some (0, letters)

/-- Reads the distance of a local time from universal time, in seconds. -/
def readOffset : List Char → Option (Int × List Char)
  | 'Z' :: rest => some (0, rest)
  | 'z' :: rest => some (0, rest)
  | sign :: rest => do
    let factor : Int ←
      if sign == '+' then some 1 else if sign == '-' || sign == '\u2212' then some (-1) else none
    let (hours, rest) ← readCount 2 rest
    let (minutes, rest) ← readCount 2 (← readOneOf [':'] rest)
    if hours < 24 && minutes < 60 then some (factor * (hours * 3600 + minutes * 60 : Nat), rest)
    else none
  | [] => none

/-- Reads a point of time from the whole of a list of characters: a date, a time of day with an
optional fraction, and the distance from universal time. The sixtieth second is a leap second. -/
def readLetters? (letters : List Char) : Option Timestamp := do
  let (year, letters) ← readCount 4 letters
  let (month, letters) ← readCount 2 (← readOneOf ['-'] letters)
  let (day, letters) ← readCount 2 (← readOneOf ['-'] letters)
  let (hour, letters) ← readCount 2 (← readOneOf ['T', 't', ' '] letters)
  let (minute, letters) ← readCount 2 (← readOneOf [':'] letters)
  let (second, letters) ← readCount 2 (← readOneOf [':'] letters)
  let (fraction, letters) ← readFraction letters
  let (offset, letters) ← readOffset letters
  if !letters.isEmpty then none
  else if month < 1 || 12 < month || day < 1 || daysInMonth year month < day then none
  else if 23 < hour || 59 < minute || 60 < second then none
  else
    let leap := second = 60
    let local_ : Int := Day.number ⟨year, month, day⟩ * 86400
      + (hour * 3600 + minute * 60 + (if leap then 59 else second) : Nat)
    some ⟨local_ - offset, fraction + if leap then perSecond else 0⟩

/-- Reads a point of time from the whole of a text. -/
def ofText? (text : String) : Option Timestamp :=
  readLetters? text.toList

end Timestamp

end HandleFederation
