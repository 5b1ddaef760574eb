/-
This file says which characters are blank and how a text is trimmed. Blank
characters are those with the Unicode property White_Space. Handles, domains,
list entries and mode names are all read after trimming, so a blank on either
side of one never changes what it names.
-/

namespace HandleFederation.Text

/-! ### Blank characters -/

/-- The characters of the Unicode property White_Space. -/
def isBlank (letter : Char) : Bool :=
  let code := letter.toNat
  (9 ≤ code && code ≤ 13) || code == 0x20 || code == 0x85 || code == 0xA0 || code == 0x1680
    || (0x2000 ≤ code && code ≤ 0x200A) || code == 0x2028 || code == 0x2029 || code == 0x202F
    || code == 0x205F || code == 0x3000

/-! ### Trimming -/

/-- Drops the characters that satisfy a test from the end of a list. -/
def dropTrailing (test : Char → Bool) (letters : List Char) : List Char :=
  (letters.reverse.dropWhile test).reverse

/-- Drops the characters that satisfy a test from both ends of a list. -/
def stripWhile (test : Char → Bool) (letters : List Char) : List Char :=
  dropTrailing test (letters.dropWhile test)

/-- Drops the blanks from both ends of a list of characters. -/
def trimLetters (letters : List Char) : List Char :=
  stripWhile isBlank letters

/-- Drops the blanks from both ends of a text. -/
def trim (text : String) : String :=
  String.ofList (trimLetters text.toList)

/-- Trimming a text trims its characters. -/
@[simp] theorem toList_trim (text : String) : (trim text).toList = trimLetters text.toList := by
  simp [trim]

end HandleFederation.Text
