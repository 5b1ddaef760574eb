/-
This file holds the values of JSON documents and writes them. An object keeps its
members in the order they were written, doubled names included, so a reader can be
as strict about them as it likes; a number keeps the characters it was written with.
-/

import HandleFederation.Text.Quoted
import HandleFederation.Text.Number

namespace HandleFederation

/-- A value of a JSON document. -/
inductive Json where
  | null
  | bool (value : Bool)
  | number (literal : List Char)
  | string (value : String)
  | array (elements : List Json)
  | object (members : List (String × Json))
deriving Inhabited

namespace Json

/-! ### Building -/

/-- A natural number as a value. -/
def ofNat (value : Nat) : Json :=
  .number (Nat.toDigits 10 value)

/-- A text, or null when there is none. -/
def ofOption (value : Option String) : Json :=
  match value with
  | some text => .string text
  | none => .null

/-! ### Taking apart -/

/-- The first member of a given name of an object. -/
def member? (value : Json) (name : String) : Option Json :=
  match value with
  | .object members => members.lookup name
  | _ => none

/-- The text of a string. -/
def string? : Json → Option String
  | .string value => some value
  | _ => none

/-- A whole number below a bound, written as digits alone. -/
def natBelow? (bound : Nat) : Json → Option Nat
  | .number literal =>
    if literal.head? = some '+' then none else Text.readBelow bound literal
  | _ => none

/-! ### Writing -/

/-- Four hexadecimal digits, as a control character is written. -/
def unicodeEscape (letter : Char) : List Char :=
  let digits := Text.hexDigits letter.toNat
  ['\\', 'u'] ++ List.replicate (4 - digits.length) '0' ++ digits

/-- A character as it stands in a string. -/
def writeLetter (letter : Char) : List Char :=
  if letter = '"' then ['\\', '"']
  else if letter = '\\' then ['\\', '\\']
  else if letter = '\n' then ['\\', 'n']
  else if letter = '\r' then ['\\', 'r']
  else if letter = '\t' then ['\\', 't']
  else if letter = '\x08' then ['\\', 'b']
  else if letter = '\x0C' then ['\\', 'f']
  else if letter.toNat < 0x20 then unicodeEscape letter
  else [letter]

/-- A string with its marks. -/
def writeString (text : String) : List Char :=
  '"' :: text.toList.flatMap writeLetter ++ ['"']

mutual

/-- A value without any blanks. -/
def write : Json → List Char
  | .null => ['n', 'u', 'l', 'l']
  | .bool true => ['t', 'r', 'u', 'e']
  | .bool false => ['f', 'a', 'l', 's', 'e']
  | .number literal => literal
  | .string value => writeString value
  | .array [] => ['[', ']']
  | .array (first :: others) => '[' :: write first ++ writeElements others
  | .object [] => ['\x7b', '\x7d']
  | .object ((name, first) :: others) =>
    '\x7b' :: writeString name ++ ':' :: write first ++ writeMembers others

/-- The elements of an array after its first, and its end. -/
def writeElements : List Json → List Char
  | [] => [']']
  | next :: others => ',' :: write next ++ writeElements others

/-- The members of an object after its first, and its end. -/
def writeMembers : List (String × Json) → List Char
  | [] => ['\x7d']
  | (name, next) :: others =>
    ',' :: writeString name ++ ':' :: write next ++ writeMembers others

end

/-- The text of a value without any blanks. -/
def toText (value : Json) : String :=
  String.ofList value.write

end Json

end HandleFederation
