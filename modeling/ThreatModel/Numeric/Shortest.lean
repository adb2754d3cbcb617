import ThreatModel.Numeric.Binary64

/-!
Contract: the decimal text of a binary floating-point value.

Owns:
- the interval of numbers that round to a given finite value;
- the fewest decimal digits that lie in it, the nearest such digits where there
  is a choice;
- the layout of digits as positional or scientific text.

Does not own: reading of decimal texts.
-/

namespace ThreatModel.Numeric

/-- A magnitude with the bounds between which every number rounds to it, as numerators over one
denominator. The bounds themselves round to it only for an even significand. -/
structure Neighbourhood where
  low : Nat
  value : Nat
  high : Nat
  denominator : Nat
  inclusive : Bool
deriving DecidableEq, Repr

namespace Neighbourhood

/-- Below a power of two the format is twice as fine as above it. -/
def ofFinite
    (significand : Nat)
    (exponent : Int) :
    Neighbourhood :=
  let scale := powerOfTwo exponent.toNat
  let finerBelow :=
    significand = Binary64.significandBound / 2 ∧ Binary64.leastExponent < exponent
  { low := (4 * significand - if finerBelow then 1 else 2) * scale
    value := 4 * significand * scale
    high := (4 * significand + 2) * scale
    denominator := 4 * powerOfTwo (-exponent).toNat
    inclusive := significand % 2 = 0 }

/-- The number `digits · unit`, the unit being `unitNumerator / unitDenominator`, lies within. -/
def holds
    (region : Neighbourhood)
    (unitNumerator unitDenominator digits : Nat) :
    Bool :=
  let candidate := digits * unitNumerator * region.denominator
  if region.inclusive then
    region.low * unitDenominator ≤ candidate && candidate ≤ region.high * unitDenominator
  else
    region.low * unitDenominator < candidate && candidate < region.high * unitDenominator

/-- Of the two multiples of the unit around the value, the nearest that lies within. -/
def gridPoint?
    (region : Neighbourhood)
    (unitNumerator unitDenominator : Nat) :
    Option Nat :=
  let numerator := region.value * unitDenominator
  let denominator := region.denominator * unitNumerator
  let nearest := roundHalfEven numerator denominator
  let below := numerator / denominator
  if region.holds unitNumerator unitDenominator nearest then some nearest
  else if region.holds unitNumerator unitDenominator below then some below
  else if region.holds unitNumerator unitDenominator (below + 1) then some (below + 1)
  else none

/-- The place of the first digit: the least `point` with the value below `10 ^ point`, looked for
upwards from the given one. -/
def pointFrom
    (region : Neighbourhood) :
    (fuel : Nat) → Int → Int
  | 0, point => point
  | fuel + 1, point =>
      if region.value * powerOfTen (-point).toNat < region.denominator * powerOfTen point.toNat then point
      else pointFrom region fuel (point + 1)

/-- The value is at least `10 ^ -324` and below `10 ^ 309`. -/
def point (region : Neighbourhood) : Int :=
  region.pointFrom 640 (-324)

/-- The digits on the coarsest decimal grid that has a point within, from `digitCount` digits on,
with the exponent of ten of the last digit. -/
def shortestFrom
    (region : Neighbourhood)
    (point : Int) :
    (fuel : Nat) → (digitCount : Nat) → Nat × Int
  | 0, digitCount => (0, point - digitCount)
  | fuel + 1, digitCount =>
      let unit := point - digitCount
      match region.gridPoint? (powerOfTen unit.toNat) (powerOfTen (-unit).toNat) with
      | some digits => (digits, unit)
      | none => shortestFrom region point fuel (digitCount + 1)

/-- Seventeen digits always suffice. -/
def shortest (region : Neighbourhood) : Nat × Int :=
  region.shortestFrom region.point 17 1

end Neighbourhood

/-- Where a number is written with an exponent, and how. -/
structure Layout where
  /-- Least decimal exponent of the first digit that is written positionally. -/
  leastPositional : Int
  /-- Greatest decimal exponent of the first digit that is written positionally. -/
  greatestPositional : Int
  /-- Least number of digits of an exponent. -/
  exponentDigits : Nat
deriving DecidableEq, Repr

/-- Whole numbers keep `.0`, and exponents have a sign and two digits or more. -/
def plainLayout : Layout where
  leastPositional := -4
  greatestPositional := 15
  exponentDigits := 2

def zeros (count : Nat) : List Char :=
  List.replicate count '0'

def padLeft
    (width : Nat)
    (digits : List Char) :
    List Char :=
  zeros (width - digits.length) ++ digits

/-- Splits decimal digits that end in zeros, keeping at least one digit. -/
def dropTrailingZeros (digits : List Char) : List Char :=
  match (digits.reverse.dropWhile (· = '0')).reverse with
  | [] => ['0']
  | kept => kept

namespace Layout

/-- Writes `0.d₁d₂… · 10 ^ point`. -/
def write
    (layout : Layout)
    (digits : List Char)
    (point : Int) :
    List Char :=
  let leading := point - 1
  if layout.leastPositional ≤ leading ∧ leading ≤ layout.greatestPositional then
    if point ≤ 0 then
      '0' :: '.' :: (zeros (-point).toNat ++ digits)
    else if digits.length ≤ point.toNat then
      digits ++ zeros (point.toNat - digits.length) ++ ['.', '0']
    else
      digits.take point.toNat ++ '.' :: digits.drop point.toNat
  else
    let mantissa :=
      match digits with
      | [] => ['0']
      | [digit] => [digit]
      | first :: others => first :: '.' :: others
    let sign := if leading < 0 then '-' else '+'
    mantissa ++ 'e' :: sign :: padLeft layout.exponentDigits (Nat.toDigits 10 leading.natAbs)

end Layout

namespace Binary64

/-- The shortest text that reads back as the value. -/
def text (value : Binary64) : String :=
  match value with
  | .notANumber => "nan"
  | .infinite negative => if negative then "-inf" else "inf"
  | .finite negative significand exponent =>
      let magnitude :=
        if significand = 0 then
          plainLayout.write ['0'] 1
        else
          let (digits, unit) := (Neighbourhood.ofFinite significand exponent).shortest
          let written := Nat.toDigits 10 digits
          plainLayout.write (dropTrailingZeros written) (unit + written.length)
      String.ofList (if negative then '-' :: magnitude else magnitude)

end Binary64

end ThreatModel.Numeric
