/-
This file reads the numbers that stand alone in a text, such as ports and counts of
seconds. A number is one or more decimal digits after an optional plus sign, with
nothing around it, and has to fit below a given bound.
-/

namespace HandleFederation.Text

/-- The number that a list of decimal digits stands for. -/
def readDigits (digits : List Char) : Nat :=
  digits.foldl (fun value digit => value * 10 + (digit.toNat - 48)) 0

/-- Reads a number below a bound from the whole of a list of characters: a plus sign or nothing,
and then at least one digit. -/
def readBelow (bound : Nat) (letters : List Char) : Option Nat :=
  let digits := match letters with
    | '+' :: rest => rest
    | _ => letters
  if digits.isEmpty || !digits.all Char.isDigit then none
  else
    let value := readDigits digits
    if value < bound then some value else none

/-- The first number that does not fit in sixteen bits. -/
def bound16 : Nat := 0x10000

/-- The first number that does not fit in sixty-four bits with a sign. -/
def bound63 : Nat := 0x8000000000000000

/-- The first number that does not fit in sixty-four bits. -/
def bound64 : Nat := 0x10000000000000000

/-- The decimal digits of a number, with zeros in front up to a width. -/
def paddedDigits (width value : Nat) : List Char :=
  let digits := Nat.toDigits 10 value
  List.replicate (width - digits.length) '0' ++ digits

end HandleFederation.Text
