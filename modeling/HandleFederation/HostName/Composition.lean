/-
This file brings a text to its composed normal form: every character is taken apart
as far as it goes, runs of combining characters are put in the order of their
classes, and what can be composed with the character it belongs to is composed.
Syllables of Hangul are taken apart and composed by rule, all else by table.
-/

import HandleFederation.Unicode.Composition

namespace HandleFederation.Composition

open Unicode

/-! ### Syllables -/

/-- The first syllable. -/
def firstSyllable : Nat := 0xAC00

/-- The code point before the first trailing consonant. -/
def trailBase : Nat := 0x11A7

/-- The first leading consonant. -/
def firstLead : Nat := 0x1100

/-- The first vowel. -/
def firstVowel : Nat := 0x1161

/-- Whether a code point is a syllable. -/
def isSyllable (code : Nat) : Bool :=
  firstSyllable ≤ code && code < firstSyllable + 11172

/-- The consonants and the vowel of a syllable. -/
def takeSyllableApart (code : Nat) : List Nat :=
  let place := code - firstSyllable
  let front := [firstLead + place / 588, firstVowel + place % 588 / 28]
  if place % 28 = 0 then front else front ++ [trailBase + place % 28]

/-- The syllable that two parts make up. -/
def composeSyllable? (first second : Nat) : Option Nat :=
  if firstLead ≤ first && first < firstLead + 19 && firstVowel ≤ second && second < firstVowel + 21 then
    some (firstSyllable + ((first - firstLead) * 21 + (second - firstVowel)) * 28)
  else if isSyllable first && (first - firstSyllable) % 28 == 0 && trailBase < second
      && second < trailBase + 28 then
    some (first + (second - trailBase))
  else none

/-! ### Taking apart -/

/-- The first code point that comes apart. -/
def firstComposed : Nat := 0xC0

/-- The parts of a code point that comes apart. Parts found in the table may come apart again. -/
def parts? (code : Nat) : Option (List Nat) :=
  if code < firstComposed then none
  else if isSyllable code then some (takeSyllableApart code)
  else decompositions.lookup code

/-- Takes a code point apart as far as it goes. The bound is on the depth, which is at most four. -/
def takeApart : Nat → Nat → List Nat
  | 0, code => [code]
  | bound + 1, code =>
    match parts? code with
    | some parts => parts.flatMap (takeApart bound)
    | none => [code]

/-- Puts a code point with its class among others whose classes rise. -/
def insertByClass (item : Nat × Nat) : List (Nat × Nat) → List (Nat × Nat)
  | [] => [item]
  | other :: rest =>
    if item.2 < other.2 then item :: other :: rest else other :: insertByClass item rest

/-- Puts runs of combining characters in the order of their classes. -/
def order : List (Nat × Nat) → List (Nat × Nat) → List (Nat × Nat)
  | run, [] => run
  | run, item :: rest =>
    if item.2 = 0 then run ++ item :: order [] rest else order (insertByClass item run) rest

/-- The code points of a text taken apart, with their classes, in order. -/
def ordered (codes : List Nat) : List (Nat × Nat) :=
  order [] ((codes.flatMap (takeApart 4)).map fun code => (code, combiningClass code))

/-! ### Putting together -/

/-- What two code points compose to. -/
def compose? (first second : Nat) : Option Nat :=
  if second < firstCombining then none
  else
    match composeSyllable? first second with
    | some whole => some whole
    | none => compositions.lookup (first, second)

/-- Composes the code points that follow a starter with it. Between them stands a pending run, whose
last class tells whether a code point can still reach the starter. -/
def composeAfter (starter : Nat) (pending : List Nat) (lastClass : Nat) : List (Nat × Nat) → List Nat
  | [] => starter :: pending
  | (code, level) :: rest =>
    let reaches := pending.isEmpty || (lastClass < level && lastClass != 0)
    match if reaches then compose? starter code else none with
    | some whole => composeAfter whole pending lastClass rest
    | none =>
      if level = 0 then starter :: pending ++ composeAfter code [] 0 rest
      else composeAfter starter (pending ++ [code]) level rest

/-- Composes code points that are in order. -/
def compose : List (Nat × Nat) → List Nat
  | [] => []
  | (code, level) :: rest =>
    if level = 0 then composeAfter code [] 0 rest else code :: compose rest

/-- The composed normal form of a text. -/
def normalForm (letters : List Char) : List Char :=
  (compose (ordered (letters.map Char.toNat))).map Char.ofNat

end HandleFederation.Composition
