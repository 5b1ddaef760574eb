/-
This file reads the tables of character properties. A table is a text of entries
separated by spaces and ends of lines, with code points written in hexadecimal, and a set of
code points is a table whose entries are single code points or runs of them.
-/

namespace HandleFederation.Unicode

/-! ### Hexadecimal numbers -/

/-- Whether a character is a digit of a number to the base sixteen. -/
def isHexDigit (letter : Char) : Bool :=
  letter.isDigit || ('a' ≤ letter && letter ≤ 'f') || ('A' ≤ letter && letter ≤ 'F')

/-- The value of a digit to the base sixteen. -/
def hexDigitValue (letter : Char) : Nat :=
  if letter.isDigit then letter.toNat - 48
  else if 'a' ≤ letter && letter ≤ 'f' then letter.toNat - 87
  else letter.toNat - 55

/-- The number that a list of digits to the base sixteen stands for. -/
def readHex (digits : List Char) : Nat :=
  digits.foldl (fun value digit => value * 16 + hexDigitValue digit) 0

/-! ### Tables -/

/-- The entries of a table: what stands between its spaces and the ends of its lines. -/
def entries (table : String) : List (List Char) :=
  (table.toList.splitOnP fun letter => letter == ' ' || letter == '\n').filter fun entry =>
    !entry.isEmpty

/-! ### Sets of code points -/

/-- A set of code points as runs from a first to a last one. -/
structure CodeSet where
  /-- The runs, each with its first and its last code point. -/
  runs : Array (Nat × Nat)

/-- Reads a run such as `300-36f`, or a single code point such as `5bf`. -/
def CodeSet.readRun (entry : List Char) : Nat × Nat :=
  let (first, last) := entry.span isHexDigit
  if last.isEmpty then (readHex first, readHex first) else (readHex first, readHex (last.drop 1))

/-- The set that a table of runs describes. -/
def CodeSet.ofText (table : String) : CodeSet :=
  ⟨((entries table).map CodeSet.readRun).toArray⟩

/-- Whether a code point lies in one of the runs of a set. -/
def CodeSet.contains (set : CodeSet) (code : Nat) : Bool :=
  set.runs.any fun run => run.1 ≤ code && code ≤ run.2

end HandleFederation.Unicode
