/-
This file says which labels of an internationalised host name are well formed: no
mark comes first, a joiner stands only where it changes the shape of the letters
around it, and in a name that is partly written from right to left every label
keeps to one direction.
-/

import HandleFederation.Unicode.LabelProperties

namespace HandleFederation.HostName

open Unicode

/-! ### Joiners -/

/-- The character that keeps two letters apart. -/
def nonJoiner : Char := '\u200C'

/-- The character that joins two letters. -/
def joiner : Char := '\u200D'

/-- Whether the letters before a non-joiner, read backwards, and those after it would join. -/
def wouldJoin (before after : List Char) : Bool :=
  let isThrough := fun (letter : Char) => joinsThrough.contains letter.toNat
  let joins := fun (side : CodeSet) (letters : List Char) =>
    match letters.dropWhile isThrough with
    | letter :: _ => joinsBoth.contains letter.toNat || side.contains letter.toNat
    | [] => false
  joins joinsLeft before && joins joinsRight after

/-- Whether every joiner of a label stands where it may; the letters before are read backwards. -/
def joinersAllowed : List Char → List Char → Bool
  | _, [] => true
  | before, letter :: after =>
    let afterVirama := (before.head?.map fun previous => viramas.contains previous.toNat).getD false
    let allowed :=
      if letter == joiner then afterVirama
      else if letter == nonJoiner then afterVirama || wouldJoin before after
      else true
    allowed && joinersAllowed (letter :: before) after

/-! ### Directions -/

/-- The kinds of characters that the rules on direction tell apart. -/
inductive Direction where
  | leftToRight
  | rightToLeft
  | arabicNumber
  | europeanNumber
  | neutral
  | spacelessMark
deriving DecidableEq, Repr

/-- The kind of a character. -/
def Direction.ofLetter (letter : Char) : Direction :=
  let code := letter.toNat
  if Unicode.rightToLeft.contains code || arabicLetters.contains code then .rightToLeft
  else if arabicNumbers.contains code then .arabicNumber
  else if europeanNumbers.contains code then .europeanNumber
  else if spacelessMarks.contains code then .spacelessMark
  else if numberSigns.contains code || commonSeparators.contains code || numberEnds.contains code
      || otherNeutrals.contains code || boundaryNeutrals.contains code then .neutral
  else .leftToRight

/-- The last kind of a label that is not a mark without space of its own. -/
def lastDirection? (label : List Direction) : Option Direction :=
  label.reverse.find? (· != .spacelessMark)

/-- Whether a label keeps to one direction. -/
def keepsDirection (label : List Direction) : Bool :=
  match label with
  | [] => true
  | .rightToLeft :: _ =>
    !label.contains .leftToRight
      && [some .rightToLeft, some .europeanNumber, some .arabicNumber].contains (lastDirection? label)
      && !(label.contains .europeanNumber && label.contains .arabicNumber)
  | .leftToRight :: _ =>
    !label.contains .rightToLeft && !label.contains .arabicNumber
      && [some .leftToRight, some .europeanNumber].contains (lastDirection? label)
  | _ => false

/-- Whether a name is partly written from right to left. -/
def hasRightToLeft (letters : List Char) : Bool :=
  letters.any fun letter =>
    let direction := Direction.ofLetter letter
    direction == .rightToLeft || direction == .arabicNumber

/-! ### Well-formed labels -/

/-- Whether a label of more than the characters of ASCII is well formed by itself. -/
def isWellFormed (label : List Char) : Bool :=
  match label with
  | [] => true
  | first :: _ => !marks.contains first.toNat && joinersAllowed [] label

end HandleFederation.HostName
