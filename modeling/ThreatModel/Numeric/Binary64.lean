import ThreatModel.Numeric.Power
import ThreatModel.Numeric.Rounding

/-!
Contract: the values of the binary floating-point format of 64 bits.

Owns:
- the values: signed finite ones as significand and exponent, infinities, and
  the absence of a number;
- the value nearest to an exact quotient, ties to the even significand, with
  gradual underflow and with overflow to infinity;
- the exact fraction that a finite value stands for.

Does not own: arithmetic between such values, or their texts.
-/

namespace ThreatModel.Numeric

/-- A finite value is `significand · 2 ^ exponent`, negated or not; zero keeps its sign. -/
inductive Binary64 where
  | finite (negative : Bool) (significand : Nat) (exponent : Int)
  | infinite (negative : Bool)
  | notANumber
deriving DecidableEq, Repr

namespace Binary64

/-- Significands have at most 53 bits. -/
def significandBound : Nat := powerOfTwo 53

def leastExponent : Int := -1074

def greatestExponent : Int := 971

def zero (negative : Bool) : Binary64 :=
  .finite negative 0 leastExponent

/-- `numerator / denominator` in units of `2 ^ exponent`, as a fraction. -/
def inUnits
    (exponent : Int)
    (numerator denominator : Nat) :
    Nat × Nat :=
  (numerator * powerOfTwo (-exponent).toNat, denominator * powerOfTwo exponent.toNat)

/-- The exponent at which the quotient of two positive numbers has a significand of 53 bits,
or the least exponent when the quotient is too small for that. -/
def exponentOf (numerator denominator : Nat) : Int :=
  let low : Int := (Nat.log2 numerator : Int) - (Nat.log2 denominator : Int) - 53
  let units := inUnits low numerator denominator
  let fitted := if units.1 / units.2 < significandBound then low else low + 1
  max fitted leastExponent

/-- The value nearest to `numerator / denominator`, negated on demand. -/
def ofQuotient
    (negative : Bool)
    (numerator denominator : Nat) :
    Binary64 :=
  if numerator = 0 then
    zero negative
  else
    let exponent := exponentOf numerator denominator
    let units := inUnits exponent numerator denominator
    let rounded := roundHalfEven units.1 units.2
    let (significand, exponent) :=
      if rounded = significandBound then (significandBound / 2, exponent + 1)
      else (rounded, exponent)
    if greatestExponent < exponent then .infinite negative
    else .finite negative significand exponent

/-- The magnitude of `significand · 2 ^ exponent` as a fraction of whole numbers. -/
def fraction
    (significand : Nat)
    (exponent : Int) :
    Nat × Nat :=
  (significand * powerOfTwo exponent.toNat, powerOfTwo (-exponent).toNat)

/-- The finite value with its sign is a whole number, which is returned. -/
def whole? : Binary64 → Option Int
  | .finite negative significand exponent =>
      let (numerator, denominator) := fraction significand exponent
      if numerator % denominator = 0 then
        let magnitude : Int := (numerator / denominator : Nat)
        some (if negative then -magnitude else magnitude)
      else
        none
  | .infinite _ => none
  | .notANumber => none

/-- The nearest value with `places` digits after the decimal point, and then the nearest value of
the format to that. The exact value decides, and a tie goes to the even last digit. -/
def roundPlaces
    (places : Nat) :
    Binary64 → Binary64
  | .finite negative significand exponent =>
      let (numerator, denominator) := fraction significand exponent
      ofQuotient
        negative
        (roundHalfEven (numerator * powerOfTen places) denominator)
        (powerOfTen places)
  | other => other

end Binary64

end ThreatModel.Numeric
