/-
This file reads a JSON document. The whole text has to be one value with nothing
but blanks around it; a string may hold no bare control character and no lone half
of a surrogate pair. What a reader makes of unknown or doubled members is left to
it: every member is kept.
-/

import HandleFederation.Json.Basic
import HandleFederation.Unicode.CodeSet
import HandleFederation.Text.Utf8

namespace HandleFederation.Json

open Unicode

/-! ### Blanks -/

/-- The characters that may stand between the parts of a document. -/
def isGap (letter : Char) : Bool :=
  letter == ' ' || letter == '\n' || letter == '\r' || letter == '\t'

/-- What follows the blanks at the front of a text. -/
def skipGap (letters : List Char) : List Char :=
  letters.dropWhile isGap

/-! ### Strings -/

/-- The number of a code unit of four hexadecimal digits. -/
def codeUnit? (first second third fourth : Char) : Option Nat :=
  let digits := [first, second, third, fourth]
  if digits.all isHexDigit then some (readHex digits) else none

/-- The first half of a surrogate pair. -/
def isHighSurrogate (unit : Nat) : Bool :=
  0xD800 ≤ unit && unit < 0xDC00

/-- The second half of a surrogate pair. -/
def isLowSurrogate (unit : Nat) : Bool :=
  0xDC00 ≤ unit && unit < 0xE000

/-- The character that a surrogate pair stands for. -/
def ofSurrogates (high low : Nat) : Char :=
  Char.ofNat (0x10000 + (high - 0xD800) * 0x400 + (low - 0xDC00))

/-- The character that a backslash and a letter stand for. -/
def shortEscape? : Char → Option Char
  | '"' => some '"'
  | '\\' => some '\\'
  | '/' => some '/'
  | 'b' => some '\x08'
  | 'f' => some '\x0C'
  | 'n' => some '\n'
  | 'r' => some '\r'
  | 't' => some '\t'
  | _ => none

/-- Reads the characters of a string and its closing mark, after its opening mark. -/
def readStringBody : List Char → Option (List Char × List Char)
  | [] => none
  | '"' :: rest => some ([], rest)
  | '\\' :: 'u' :: first :: second :: third :: fourth :: rest =>
    match codeUnit? first second third fourth with
    | none => none
    | some unit =>
      if isLowSurrogate unit then none
      else if isHighSurrogate unit then
        match rest with
        | '\\' :: 'u' :: first' :: second' :: third' :: fourth' :: rest' =>
          match codeUnit? first' second' third' fourth' with
          | none => none
          | some low =>
            if isLowSurrogate low then
              (readStringBody rest').map fun (body, after) => (ofSurrogates unit low :: body, after)
            else none
        | _ => none
      else (readStringBody rest).map fun (body, after) => (Char.ofNat unit :: body, after)
  | '\\' :: letter :: rest =>
    match shortEscape? letter with
    | none => none
    | some value => (readStringBody rest).map fun (body, after) => (value :: body, after)
  | letter :: rest =>
    if letter == '\\' || letter.toNat < 0x20 then none
    else (readStringBody rest).map fun (body, after) => (letter :: body, after)

/-! ### Numbers -/

/-- Reads one or more digits. -/
def readDigitRun (letters : List Char) : Option (List Char × List Char) :=
  let (digits, rest) := letters.span Char.isDigit
  if digits.isEmpty then none else some (digits, rest)

/-- Reads the whole part of a number: zero, or digits that do not start with zero. -/
def readWhole : List Char → Option (List Char × List Char)
  | '0' :: rest => some (['0'], rest)
  | letters => readDigitRun letters

/-- Reads the fraction of a number, if there is one. -/
def readFraction : List Char → Option (List Char × List Char)
  | '.' :: rest => (readDigitRun rest).map fun (digits, after) => ('.' :: digits, after)
  | letters => some ([], letters)

/-- Reads the sign of an exponent, if there is one. -/
def readSign : List Char → List Char × List Char
  | '+' :: rest => (['+'], rest)
  | '-' :: rest => (['-'], rest)
  | letters => ([], letters)

/-- Reads the exponent of a number, if there is one. -/
def readExponent : List Char → Option (List Char × List Char)
  | letter :: rest =>
    if letter == 'e' || letter == 'E' then
      let (sign, digits) := readSign rest
      (readDigitRun digits).map fun (digits, after) => (letter :: sign ++ digits, after)
    else some ([], letter :: rest)
  | [] => some ([], [])

/-- Reads a number and keeps its characters. -/
def readNumber (letters : List Char) : Option (List Char × List Char) := do
  let (minus, letters) := match letters with
    | '-' :: rest => (['-'], rest)
    | _ => ([], letters)
  let (whole, letters) ← readWhole letters
  let (fraction, letters) ← readFraction letters
  let (exponent, letters) ← readExponent letters
  return (minus ++ whole ++ fraction ++ exponent, letters)

/-! ### Values -/

/-- Reads a word that stands for a value. -/
def readWord (word : List Char) (value : Json) (letters : List Char) : Option (Json × List Char) :=
  if word.isPrefixOf letters then some (value, letters.drop word.length) else none

mutual

/-- Reads a value from the front of a text. The bound is on the number of steps; the length of the
text is always enough. -/
def readValue : Nat → List Char → Option (Json × List Char)
  | 0, _ => none
  | bound + 1, letters =>
    match skipGap letters with
    | '"' :: rest =>
      (readStringBody rest).map fun (body, after) => (.string (String.ofList body), after)
    | '[' :: rest =>
      match skipGap rest with
      | ']' :: after => some (.array [], after)
      | _ => do
        let (first, after) ← readValue bound rest
        let (others, after) ← readElements bound after
        return (.array (first :: others), after)
    | '\x7b' :: rest =>
      match skipGap rest with
      | '\x7d' :: after => some (.object [], after)
      | _ => do
        let (first, after) ← readMember bound rest
        let (others, after) ← readMembers bound after
        return (.object (first :: others), after)
    | 'n' :: rest => readWord ['n', 'u', 'l', 'l'] .null ('n' :: rest)
    | 't' :: rest => readWord ['t', 'r', 'u', 'e'] (.bool true) ('t' :: rest)
    | 'f' :: rest => readWord ['f', 'a', 'l', 's', 'e'] (.bool false) ('f' :: rest)
    | rest => (readNumber rest).map fun (literal, after) => (.number literal, after)

/-- Reads the elements of an array after its first, and its end. -/
def readElements : Nat → List Char → Option (List Json × List Char)
  | 0, _ => none
  | bound + 1, letters =>
    match skipGap letters with
    | ']' :: after => some ([], after)
    | ',' :: rest => do
      let (next, after) ← readValue bound rest
      let (others, after) ← readElements bound after
      return (next :: others, after)
    | _ => none

/-- Reads one member of an object: its name, a colon and its value. -/
def readMember : Nat → List Char → Option ((String × Json) × List Char)
  | 0, _ => none
  | bound + 1, letters =>
    match skipGap letters with
    | '"' :: rest => do
      let (name, after) ← readStringBody rest
      match skipGap after with
      | ':' :: afterColon =>
        let (value, after) ← readValue bound afterColon
        return ((String.ofList name, value), after)
      | _ => none
    | _ => none

/-- Reads the members of an object after its first, and its end. -/
def readMembers : Nat → List Char → Option (List (String × Json) × List Char)
  | 0, _ => none
  | bound + 1, letters =>
    match skipGap letters with
    | '\x7d' :: after => some ([], after)
    | ',' :: rest => do
      let (next, after) ← readMember bound rest
      let (others, after) ← readMembers bound after
      return (next :: others, after)
    | _ => none

end

/-! ### Documents -/

/-- Reads the whole of a list of characters as one value. -/
def ofLetters? (letters : List Char) : Option Json :=
  match readValue (letters.length + 1) letters with
  | some (value, rest) => if (skipGap rest).isEmpty then some value else none
  | none => none

/-- Reads the whole of a text as one value. -/
def ofText? (text : String) : Option Json :=
  ofLetters? text.toList

/-- Reads the whole of a list of bytes as one value; the bytes must be well-formed UTF-8. -/
def ofBytes? (bytes : List UInt8) : Option Json :=
  (Text.Utf8.decode? bytes).bind ofLetters?

end HandleFederation.Json
