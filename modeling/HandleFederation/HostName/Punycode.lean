/-
This file writes a label of any characters in the letters and digits that host
names are made of, and reads it back. The plain characters come first; the others
follow as a list of steps, each of which says how far to count through all the
places where the next greater character could be put. A step is a number to the
base thirty-six whose digits end early, at thresholds that adapt to the steps
before.
-/

namespace HandleFederation.Punycode

/-! ### Numbers -/

/-- The number of digits. -/
def base : Nat := 36

/-- The first character that is not plain. -/
def firstCode : Nat := 0x80

/-- The threshold that the first step starts with. -/
def firstBias : Nat := 72

/-- The first number that does not fit in thirty-two bits; no step may reach it. -/
def limit : Nat := 0x100000000

/-- The digit of a value below thirty-six: the letters, and then the numerals. -/
def digit (value : Nat) : Char :=
  if value < 26 then Char.ofNat (0x61 + value) else Char.ofNat (0x30 + (value - 26))

/-- The value of a digit. -/
def digitValue? (letter : Char) : Option Nat :=
  if letter.isLower then some (letter.toNat - 0x61)
  else if letter.isUpper then some (letter.toNat - 0x41)
  else if letter.isDigit then some (letter.toNat - 0x30 + 26)
  else none

/-- The least value of a digit that another digit follows, at a given place. -/
def threshold (bias place : Nat) : Nat :=
  if place ≤ bias then 1 else min 26 (place - bias)

/-- A digit that ends a step is never the only kind: thresholds are at least one. -/
theorem threshold_pos (bias place : Nat) : 1 ≤ threshold bias place := by
  unfold threshold
  split <;> omega

/-- The bias after a step that was scaled down: how often it has to be divided to become small. -/
def scaledBias (delta places : Nat) : Nat :=
  if delta ≤ 455 then places * base + 36 * delta / (delta + 38)
  else scaledBias (delta / 35) (places + 1)
termination_by delta
decreasing_by omega

/-- The bias for the step after a given one. -/
def adapt (delta size : Nat) (isFirst : Bool) : Nat :=
  let damped := if isFirst then delta / 700 else delta / 2
  scaledBias (damped + damped / size) 0

/-! ### Writing -/

/-- The digits of a step from a given place on. -/
def encodeStep (bias : Nat) (place rest : Nat) : List Char :=
  let least := threshold bias place
  if _small : rest < least then [digit rest]
  else
    digit (least + (rest - least) % (base - least)) ::
      encodeStep bias (place + base) ((rest - least) / (base - least))
termination_by rest
decreasing_by
  have atLeast : 1 ≤ least := threshold_pos bias place
  have smaller : (rest - least) / (base - least) ≤ rest - least := Nat.div_le_self _ _
  exact Nat.lt_of_le_of_lt smaller (by omega)

/-- What writing has reached: the next character, the places counted since the last step, the bias,
and how many characters have been put. -/
structure Progress where
  code : Nat
  delta : Nat
  bias : Nat
  size : Nat

/-- Writes the steps of one character: one for each of its places in the label. -/
def encodeCode (plain : Nat) (code : Nat) : List Nat → Progress → List Char × Progress
  | [], progress => ([], progress)
  | letter :: rest, progress =>
    if letter < code then
      encodeCode plain code rest { progress with delta := progress.delta + 1 }
    else if letter = code then
      let step := encodeStep progress.bias base progress.delta
      let bias := adapt progress.delta (progress.size + 1) (progress.size = plain)
      let (others, last) := encodeCode plain code rest
        { progress with delta := 0, bias := bias, size := progress.size + 1 }
      (step ++ others, last)
    else encodeCode plain code rest progress

/-- Writes the steps of the given characters, which are the ones of the label in rising order. -/
def encodeCodes (plain : Nat) (label : List Nat) : List Nat → Progress → List Char
  | [], _ => []
  | code :: codes, progress =>
    let skipped := { progress with delta := progress.delta + (code - progress.code) * (progress.size + 1) }
    let (steps, last) := encodeCode plain code label skipped
    steps ++ encodeCodes plain label codes { last with code := code + 1, delta := last.delta + 1 }

/-- The characters of a label that are not plain, in rising order and each once. -/
def foreignCodes (label : List Nat) : List Nat :=
  ((label.filter (firstCode ≤ ·)).mergeSort).eraseDups

/-- Writes a label. -/
def encode (label : List Char) : List Char :=
  let codes := label.map Char.toNat
  let plain := label.filter fun letter => letter.toNat < firstCode
  let start : Progress := ⟨firstCode, 0, firstBias, plain.length⟩
  plain ++ (if plain.isEmpty then [] else ['-'])
    ++ encodeCodes plain.length codes (foreignCodes codes) start

/-! ### Reading -/

/-- Reads the digits of a step from a given place on. -/
def decodeStep (bias : Nat) : Nat → Nat → Nat → List Char → Option (Nat × List Char)
  | _, _, _, [] => none
  | place, weight, value, letter :: rest =>
    match digitValue? letter with
    | none => none
    | some digit =>
      let reached := value + digit * weight
      let scale := base - threshold bias place
      if limit ≤ reached then none
      else if digit < threshold bias place then some (reached, rest)
      else if limit ≤ weight * scale then none
      else decodeStep bias (place + base) (weight * scale) reached rest

/-- A step takes at least one digit. -/
theorem length_decodeStep {bias place weight value step : Nat} {letters rest : List Char}
    (read : decodeStep bias place weight value letters = some (step, rest)) :
    rest.length < letters.length := by
  induction letters generalizing place weight value with
  | nil => simp [decodeStep] at read
  | cons letter tail inductionHypothesis =>
    rw [decodeStep] at read
    split at read
    · simp at read
    · dsimp only at read
      split at read
      · simp at read
      · split at read
        · simp only [Option.some.injEq, Prod.mk.injEq] at read
          simp [← read.2]
        · split at read
          · simp at read
          · have shorter := inductionHypothesis read
            simp only [List.length_cons]
            omega

/-- Whether a number is the code point of a character. -/
def isCode (code : Nat) : Bool :=
  code < 0xD800 || (0xE000 ≤ code && code < 0x110000)

/-- Reads the steps that remain and puts their characters into the label. -/
def decodeSteps (label : List Char) (code delta bias : Nat) (letters : List Char) :
    Option (List Char) :=
  match letters with
  | [] => some label
  | letter :: tail =>
    match _read : decodeStep bias base 1 delta (letter :: tail) with
    | none => none
    | some (reached, rest) =>
      let size := label.length + 1
      let next := code + reached / size
      if isCode next then
        let place := reached % size
        decodeSteps (label.take place ++ Char.ofNat next :: label.drop place) next (place + 1)
          (adapt (reached - delta) size (delta = 0)) rest
      else none
termination_by letters.length
decreasing_by exact length_decodeStep _read

/-- Reads a label; only characters of ASCII stand in it. -/
def decode? (letters : List Char) : Option (List Char) :=
  if letters.any fun letter => firstCode ≤ letter.toNat then none
  else
    let (steps, plain) := letters.reverse.span (· != '-')
    match plain with
    | [] | [_] => decodeSteps [] firstCode 0 firstBias letters
    | _ :: body => decodeSteps body.reverse firstCode 0 firstBias steps.reverse

end HandleFederation.Punycode
