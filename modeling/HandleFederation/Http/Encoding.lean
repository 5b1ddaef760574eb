/-
This file decides whether an answer is compressed. A client lists the encodings it
accepts, each perhaps with a weight between zero and one; the heaviest of those that
are known wins, and compression wins over none at the same weight.
-/

import HandleFederation.Text.Blank
import HandleFederation.Text.Case

namespace HandleFederation.ContentEncoding

open Text

/-- The known encodings. -/
inductive Kind where
  | identity
  | gzip
deriving DecidableEq, Repr

/-- The encoding that a name stands for, whatever its case. -/
def Kind.ofName? (name : String) : Option Kind :=
  if sameUpToCase name "gzip" || sameUpToCase name "x-gzip" then some .gzip
  else if sameUpToCase name "identity" then some .identity
  else none

/-- The thousandths that at most three digits after a point stand for. -/
def readThousandths? (digits : List Char) : Option Nat :=
  if digits.all Char.isDigit then
    match digits.map fun digit => digit.toNat - 48 with
    | [] => some 0
    | [first] => some (first * 100)
    | [first, second] => some (first * 100 + second * 10)
    | [first, second, third] => some (first * 100 + second * 10 + third)
    | _ => none
  else none

/-- Reads a weight, in thousandths: `q=`, zero or one, and at most three digits after a point. -/
def readWeight? (letters : List Char) : Option Nat :=
  match letters with
  | mark :: '=' :: whole :: rest =>
    if mark.toLower != 'q' || !(whole == '0' || whole == '1') then none
    else
      let units := if whole == '1' then 1000 else 0
      match rest with
      | [] => some units
      | '.' :: digits =>
        (readThousandths? digits).bind fun thousandths =>
          if units + thousandths ≤ 1000 then some (units + thousandths) else none
      | _ => none
  | _ => none

/-- Reads an entry of a list of encodings: a name, and a weight after a semicolon. -/
def readEntry? (entry : List Char) : Option (Kind × Nat) := do
  let (name, rest) := entry.span (· != ';')
  let kind ← Kind.ofName? (String.ofList (trimLetters name))
  match rest with
  | [] => return (kind, 1000)
  | _ :: weight => return (kind, ← readWeight? (trimLetters weight))

/-- Whether a character may stand in a header that is read. -/
def isReadable (letter : Char) : Bool :=
  letter == '\t' || (0x20 ≤ letter.toNat && letter.toNat < 0x7F)

/-- The entries of the headers that list encodings. -/
def entries (values : List String) : List (Kind × Nat) :=
  (values.filter fun value => value.toList.all isReadable).flatMap fun value =>
    (value.toList.splitOn ',').filterMap readEntry?

/-- The greatest weight of an encoding, zero if it is not listed. -/
def weight (kind : Kind) (listed : List (Kind × Nat)) : Nat :=
  ((listed.filter fun entry => entry.1 = kind).map Prod.snd).foldl max 0

/-- Whether an answer to a client that sent these headers is compressed. -/
def wantsGzip (values : List String) : Bool :=
  let listed := entries values
  0 < weight .gzip listed && weight .identity listed ≤ weight .gzip listed

end HandleFederation.ContentEncoding
