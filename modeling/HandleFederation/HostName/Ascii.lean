/-
This file brings a host name of any characters to the form in which hosts are
looked up, which uses the characters of ASCII only. A name that is plain already
only has its letters folded. In any other name each character is prepared by table
and composed, and each label is checked and written in plain letters after the mark
`xn--`; a label that comes with the mark has to be one that writing would produce.
-/

import HandleFederation.HostName.Composition
import HandleFederation.HostName.Label
import HandleFederation.HostName.Punycode
import HandleFederation.Unicode.HostMapping
import HandleFederation.Text.Utf8

namespace HandleFederation.HostName

open Text Unicode

/-! ### Plain names -/

/-- Whether a character is one of ASCII. -/
def isAscii (letter : Char) : Bool :=
  letter.toNat < 0x80

/-- The characters of ASCII that no host name may hold. -/
def isForbidden (letter : Char) : Bool :=
  letter.toNat ≤ 0x20 || letter.toNat == 0x7F
    || ['%', '#', '/', ':', '<', '>', '?', '@', '[', '\\', ']', '^', '|'].contains letter

/-- The mark of a label that stands for characters outside ASCII. -/
def mark : List Char := ['x', 'n', '-', '-']

/-- The labels of a name: what stands between its dots. -/
def labels (name : List Char) : List (List Char) :=
  name.splitOn '.'

/-- Whether a name needs no more than folding: it is of ASCII and no label has the mark. -/
def isPlain (name : List Char) : Bool :=
  name.all isAscii && !(labels (name.map Char.toLower)).any mark.isPrefixOf

/-! ### Preparation -/

/-- Prepares the characters of a name, or nothing when one of them is refused. -/
def prepare? : List Char → Option (List Char)
  | [] => some []
  | letter :: rest => do
    let others ← prepare? rest
    match hostFate letter with
    | .kept => some (letter :: others)
    | .dropped => some others
    | .replaced letters => some (letters ++ others)
    | .refused => none

/-- Whether a label is what preparation would make of it. -/
def isPrepared (label : List Char) : Bool :=
  (prepare? label).map Composition.normalForm == some label

/-! ### Labels -/

/-- The most characters of a label that are read after the mark. -/
def maxMarkedLength : Nat := 2000

/-- The most characters of a label that are written after the mark. -/
def maxForeignLength : Nat := 1000

/-- A label in both of its forms: the one of ASCII, and the characters it stands for. -/
structure LabelForms where
  ascii : List Char
  full : List Char

/-- Both forms of a label of a prepared name, or nothing when it is refused. -/
def labelForms? (label : List Char) : Option LabelForms :=
  if mark.isPrefixOf label then
    let body := label.drop mark.length
    if maxMarkedLength < body.length then none
    else
      match Punycode.decode? body with
      | none => none
      | some full =>
        if full.all isAscii || !isPrepared full || full.contains '.' || !isWellFormed full then none
        else some ⟨label, full⟩
  else if label.all isAscii then some ⟨label, label⟩
  else if maxForeignLength < label.length || !isWellFormed label then none
  else some ⟨mark ++ Punycode.encode label, label⟩

/-- Joins labels with dots. -/
def joinLabels (labels : List (List Char)) : List Char :=
  ['.'].intercalate labels

/-! ### Names -/

/-- The form of a name that uses the characters of ASCII only, or nothing when it is refused. -/
def toAscii? (name : List Char) : Option (List Char) :=
  if isPlain name then
    if name.any isForbidden then none else some (name.map Char.toLower)
  else do
    let prepared := Composition.normalForm (← prepare? name)
    let forms ← (labels prepared).mapM labelForms?
    let full := forms.map LabelForms.full
    if prepared.any isForbidden then none
    else if full.any hasRightToLeft
        && !full.all fun label => keepsDirection (label.map Direction.ofLetter) then none
    else some (joinLabels (forms.map LabelForms.ascii))

end HandleFederation.HostName
