/-
This file writes a text between quotation marks so that every character of it can
be read off the page: marks, backslashes and the common controls get a backslash,
and a character without a printed form of its own is written by its number.
-/

import HandleFederation.Unicode.Hidden

namespace HandleFederation.Text

/-! ### Writing by number -/

/-- The digits of a number to the base sixteen, in lower case. -/
def hexDigits (value : Nat) : List Char :=
  Nat.toDigits 16 value

/-- A character written by its number, as in `\u{301}` for U+0301. -/
def byNumber (letter : Char) : List Char :=
  ['\\', 'u', '\x7b'] ++ hexDigits letter.toNat ++ ['\x7d']

/-- Whether a character is written by its number: the controls, and above `~` the characters
without a printed form of their own. -/
def writtenByNumber (letter : Char) : Bool :=
  letter.toNat < 0x20 || (0x7F ≤ letter.toNat && Unicode.hidden.contains letter.toNat)

/-! ### Quoting -/

/-- A character as it stands between quotation marks. -/
def quoteLetter (letter : Char) : List Char :=
  if letter = '"' then ['\\', '"']
  else if letter = '\\' then ['\\', '\\']
  else if letter = '\n' then ['\\', 'n']
  else if letter = '\r' then ['\\', 'r']
  else if letter = '\t' then ['\\', 't']
  else if letter = '\x00' then ['\\', '0']
  else if writtenByNumber letter then byNumber letter
  else [letter]

/-- A text between quotation marks. -/
def quote (text : String) : String :=
  String.ofList ('"' :: text.toList.flatMap quoteLetter ++ ['"'])

end HandleFederation.Text
