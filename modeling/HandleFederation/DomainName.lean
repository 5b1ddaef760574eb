/-
This file says which domains may be asked about users. A domain is brought to its
normal form first: trimmed, without one trailing dot, and in lower case. It is then
accepted when it is a sequence of at least two plain labels that is neither an
address, nor reserved for local use, nor below a domain that the operator blocks.
The faults are tried in a fixed order, so each domain has one reason to be refused.
-/

import HandleFederation.Address.Literal
import HandleFederation.Text.Blank
import HandleFederation.Text.Case
import HandleFederation.Text.Quoted
import HandleFederation.Text.Utf8

namespace HandleFederation

open Text

namespace DomainName

/-! ### The normal form -/

/-- Drops one dot from the end of a list of characters. -/
def dropTrailingDot (letters : List Char) : List Char :=
  if letters.getLast? = some '.' then letters.dropLast else letters

/-- The characters of the normal form: trimmed, without one trailing dot, in lower case. -/
def normalizeLetters (letters : List Char) : List Char :=
  (dropTrailingDot (trimLetters letters)).map Char.toLower

/-- The normal form of a domain. -/
def normalize (text : String) : String :=
  String.ofList (normalizeLetters text.toList)

/-- Normalizing a text normalizes its characters. -/
@[simp] theorem toList_normalize (text : String) :
    (normalize text).toList = normalizeLetters text.toList := by
  simp [normalize]

/-! ### Labels -/

/-- The labels of a domain: what stands between its dots. -/
def labels (domain : List Char) : List (List Char) :=
  domain.splitOn '.'

/-- A character of a label: a lower-case letter, a digit or a hyphen. -/
def isLabelLetter (letter : Char) : Bool :=
  letter.isLower || letter.isDigit || letter == '-'

/-- A label: one to sixty-three letters, digits and hyphens, with no hyphen at either end. -/
def isLabel (label : List Char) : Bool :=
  !label.isEmpty && label.length ≤ 63 && label.head? != some '-' && label.getLast? != some '-'
    && label.all isLabelLetter

/-! ### Suffixes -/

/-- The suffixes that always lead back into a local network. -/
def reservedSuffixes : List String :=
  ["localhost", "local", "localdomain", "internal", "home.arpa", "arpa"]

/-- Whether a domain is a suffix or ends in it after a dot. -/
def liesUnder (suffix domain : List Char) : Bool :=
  domain == suffix || ('.' :: suffix).isSuffixOf domain

/-! ### Faults -/

/-- Why a domain is refused. -/
inductive Fault where
  | empty
  | tooLong
  | addressLiteral (reach : Address.Reach)
  | invalidLabel (label : String)
  | singleLabel
  | numericTop
  | reserved (suffix : String)
  | blocked (suffix : String)
deriving DecidableEq, Repr

/-- The wording of a fault. -/
def Fault.message : Fault → String
  | .empty => "domain is empty"
  | .tooLong => "domain exceeds 253 characters"
  | .addressLiteral reach => s!"IP address literals are not accepted ({reach.word})"
  | .invalidLabel label => s!"invalid DNS label: {quote label}"
  | .singleLabel => "domain must contain at least two labels"
  | .numericTop => "top-level label cannot be numeric"
  | .reserved suffix => s!"reserved domain: {suffix}"
  | .blocked suffix => s!"domain is blocked by operator policy: {suffix}"

/-! ### Acceptance -/

/-- The largest number of bytes a domain may have. -/
def maxBytes : Nat := 253

/-- What stands between the brackets of a bracketed text, or the whole of any other. -/
def unbracketed (domain : List Char) : List Char :=
  match domain with
  | '[' :: rest => if rest.getLast? = some ']' then rest.dropLast else domain
  | _ => domain

/-- The suffixes an operator blocks: the normal forms of the configured entries, without those
that are empty. -/
def blockedSuffixes (entries : List String) : List String :=
  (entries.map normalize).filter fun entry => !entry.isEmpty

/-- The first of the suffixes that a domain lies under. -/
def suffixOver? (suffixes : List String) (domain : List Char) : Option String :=
  suffixes.find? fun suffix => liesUnder suffix.toList domain

/-- The fault of a domain in normal form, if it has one. -/
def fault? (blocked : List String) (domain : List Char) : Option Fault :=
  if domain.isEmpty then some .empty
  else if maxBytes < (Utf8.encode domain).length then some .tooLong
  else
    match Address.readLetters? (unbracketed domain) with
    | some address => some (.addressLiteral address.reach)
    | none =>
      match (labels domain).find? fun label => !isLabel label with
      | some label => some (.invalidLabel (String.ofList label))
      | none =>
        if (labels domain).length < 2 then some .singleLabel
        else if ((labels domain).getLast?.getD []).all Char.isDigit then some .numericTop
        else
          match suffixOver? reservedSuffixes domain with
          | some suffix => some (.reserved suffix)
          | none => (suffixOver? blocked domain).map .blocked

/-- Accepts a domain and gives its normal form, or tells its fault. The blocked suffixes are given
in normal form. -/
def validate (blocked : List String) (text : String) : Except Fault String :=
  match fault? blocked (normalizeLetters text.toList) with
  | some fault => .error fault
  | none => .ok (normalize text)

/-- What is accepted is a normal form without a fault. -/
theorem validate_eq_ok_iff {blocked : List String} {text domain : String} :
    validate blocked text = .ok domain ↔
      fault? blocked (normalizeLetters text.toList) = none ∧ domain = normalize text := by
  unfold validate
  split
  · rename_i fault isFault
    simp [isFault]
  · rename_i noFault
    simp [noFault, eq_comm]

theorem normalize_of_validate {blocked : List String} {text domain : String}
    (accepted : validate blocked text = .ok domain) : normalize text = domain :=
  (validate_eq_ok_iff.mp accepted).2.symm

end DomainName

end HandleFederation
