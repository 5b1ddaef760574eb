/-
This file writes binary floating-point numbers in decimal, with the fewest digits
that read back as the same number and never with an exponent. All the numbers that
round to a given one lie in an interval around it; the digits are those of the point
nearest to it on the coarsest decimal grid that has a point in the interval.
-/

namespace HandleFederation.Decimal

/-! ### Numbers and their intervals -/

/-- A positive number as a quotient, with the ends of the interval of numbers that round to it, all
over one denominator. -/
structure Rounding where
  lower : Nat
  value : Nat
  upper : Nat
  denominator : Nat
  /-- Whether the ends themselves round to the number. -/
  closed : Bool
deriving Repr

/-- The interval of a number with a given significand and a power of two as its unit. Below a power
of two the next number is half as far away as above it. -/
def Rounding.ofParts (significand : Nat) (exponent : Int) (isPower : Bool) : Rounding :=
  let scale := Nat.pow 2 exponent.toNat
  { lower := (4 * significand - if isPower then 1 else 2) * scale
    value := 4 * significand * scale
    upper := (4 * significand + 2) * scale
    denominator := 4 * Nat.pow 2 (-exponent).toNat
    closed := significand % 2 = 0 }

/-! ### Grids -/

/-- A count of steps on a decimal grid: the digits, and the power of ten that a step is. -/
structure Point where
  digits : Nat
  exponent : Int
deriving Repr

/-- Whether one quotient is at most another, or below it when equality is not wanted. -/
def below (orEqual : Bool) (left right : Nat) : Bool :=
  if orEqual then left ≤ right else left < right

/-- Whether a number of steps of a size given as a quotient lies in an interval. -/
def Rounding.holds (interval : Rounding) (digits top bottom : Nat) : Bool :=
  let point := digits * top * interval.denominator
  below interval.closed (interval.lower * bottom) point
    && below interval.closed point (interval.upper * bottom)

/-- The point of a grid in the interval that is nearest to the number, if there is one. -/
def Rounding.nearest? (interval : Rounding) (exponent : Int) : Option Point :=
  let top := Nat.pow 10 exponent.toNat
  let bottom := Nat.pow 10 (-exponent).toNat
  let step := top * interval.denominator
  let down := interval.value * bottom / step
  let remainder := interval.value * bottom % step
  let downHolds := interval.holds down top bottom && 0 < down
  let upHolds := interval.holds (down + 1) top bottom
  if upHolds && (!downHolds || step ≤ 2 * remainder) then some ⟨down + 1, exponent⟩
  else if downHolds then some ⟨down, exponent⟩
  else none

/-- The nearest point on the coarsest of so many grids, each ten times finer than the one before. -/
def Rounding.coarsest (interval : Rounding) : Nat → Int → Point
  | 0, exponent => ⟨0, exponent⟩
  | bound + 1, exponent =>
    match interval.nearest? exponent with
    | some point => point
    | none => interval.coarsest bound (exponent - 1)

/-- The finest grid that any number needs is this much finer than the coarsest one. -/
def gridCount : Nat := 640

/-- The power of ten of the coarsest grid that any number needs. -/
def coarsestExponent : Int := 309

/-! ### Positional writing -/

/-- The digits of a point with a decimal point where it has to be. -/
def Point.write (point : Point) : List Char :=
  let digits := Nat.toDigits 10 point.digits
  if 0 ≤ point.exponent then digits ++ List.replicate point.exponent.toNat '0'
  else
    let places := (-point.exponent).toNat
    let padded := List.replicate (places + 1 - digits.length) '0' ++ digits
    padded.take (padded.length - places) ++ '.' :: padded.drop (padded.length - places)

/-! ### Floating-point numbers -/

/-- The number of fractions that a number of a given exponent may have, which is also the significand
of a power of two. -/
def fractionCount : Nat := 0x10000000000000

/-- The number of exponents that numbers may have. -/
def exponentCount : Nat := 0x800

/-- The significand of a number without its sign, and the power of two that is its unit. -/
def parts (number : Float) : Nat × Int :=
  let bits := number.toBits.toNat
  let fraction := bits % fractionCount
  let exponent := bits / fractionCount % exponentCount
  if exponent = 0 then (fraction, -1074) else (fractionCount + fraction, Int.ofNat exponent - 1075)

/-- Whether a number has its sign bit set. -/
def isNegative (number : Float) : Bool :=
  fractionCount * exponentCount ≤ number.toBits.toNat

/-- A number in decimal. -/
def write (number : Float) : List Char :=
  if number.isNaN then "NaN".toList
  else
    let sign := if isNegative number then ['-'] else []
    let (significand, exponent) := parts number
    if number.isInf then sign ++ "inf".toList
    else if significand = 0 then sign ++ ['0']
    else
      let isPower := significand = fractionCount && exponent != -1074
      let interval := Rounding.ofParts significand exponent isPower
      sign ++ (interval.coarsest gridCount coarsestExponent).write

/-- The text of a number in decimal. -/
def text (number : Float) : String :=
  String.ofList (write number)

end HandleFederation.Decimal
