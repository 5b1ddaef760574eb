/-
This file writes and reads percent-encoded text. A byte that may not stand for
itself is written as a percent sign and two hexadecimal digits; reading puts such
bytes back and leaves a percent sign alone that is not followed by two digits.
Which bytes may stand for themselves depends on the part of a URL they are in.
-/

import HandleFederation.Text.Utf8
import HandleFederation.Unicode.CodeSet

namespace HandleFederation.Percent

open Text Unicode

/-! ### Writing -/

/-- The upper-case digit to the base sixteen of a number below sixteen. -/
def digit (value : Nat) : Char :=
  if value < 10 then Char.ofNat (48 + value) else Char.ofNat (55 + value)

/-- A byte as a percent sign and two digits. -/
def encodeByte (byte : UInt8) : List Char :=
  ['%', digit (byte.toNat / 16), digit (byte.toNat % 16)]

/-- The percent-encoded form of a list of characters, in which the characters that pass a test stand
for themselves. The test is asked about the characters of ASCII only. -/
def encode (kept : Char → Bool) (letters : List Char) : List Char :=
  (Utf8.encode letters).flatMap fun byte =>
    let letter := Char.ofNat byte.toNat
    if byte < 0x80 && kept letter then [letter] else encodeByte byte

/-! ### What stands for itself -/

/-- A control character of ASCII. -/
def isControl (letter : Char) : Bool :=
  letter.toNat < 0x20 || letter.toNat == 0x7F

/-- The characters that stand for themselves in a fragment. -/
def keptInFragment (letter : Char) : Bool :=
  !isControl letter && !([' ', '"', '<', '>', '`'].contains letter)

/-- The characters that stand for themselves in a path. -/
def keptInPath (letter : Char) : Bool :=
  keptInFragment letter && !(['#', '?', '\x7b', '\x7d'].contains letter)

/-- The characters that stand for themselves in a username or a password. -/
def keptInCredentials (letter : Char) : Bool :=
  keptInPath letter && !(['/', ':', ';', '=', '@', '[', '\\', ']', '^', '|'].contains letter)

/-- The characters that stand for themselves in a query; a single quotation mark does so only where
the scheme has no rules of its own. -/
def keptInQuery (special : Bool) (letter : Char) : Bool :=
  !isControl letter && !([' ', '"', '#', '<', '>'].contains letter) && !(special && letter == '\'')

/-- The characters that stand for themselves everywhere: letters, digits and four marks. -/
def isUnreserved (letter : Char) : Bool :=
  letter.isAlphanum || ['-', '_', '.', '~'].contains letter

/-! ### Reading -/

/-- The byte that two hexadecimal digits stand for. -/
def byteOfDigits (high low : Char) : UInt8 :=
  (hexDigitValue high * 16 + hexDigitValue low).toUInt8

/-- Puts back the bytes that are written as a percent sign and two digits. -/
def decode : List Char → List UInt8
  | [] => []
  | '%' :: high :: low :: rest =>
    if isHexDigit high && isHexDigit low then byteOfDigits high low :: decode rest
    else Utf8.encode ['%'] ++ decode (high :: low :: rest)
  | letter :: rest => Utf8.encode [letter] ++ decode rest

end HandleFederation.Percent
