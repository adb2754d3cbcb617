import ThreatModel.Numeric.Binary64

/-!
Contract: binary values from decimal notation.

Owns:
- the binary value nearest to a row of digits times a power of ten, also where
  the power is far too large or too small to be written out.

Does not own: the notation itself.
-/

namespace ThreatModel.Numeric.Binary64

/-- The greatest finite value is below ten to this power, and ten to its negative is below half of
the least positive value, with room to spare. -/
def decimalRange : Nat := 400

/-- The value nearest to `digits · 10 ^ exponent`. The number of digits decides first whether the
power has to be written out at all. -/
def ofDecimal
    (negative : Bool)
    (digits : Nat)
    (exponent : Int) :
    Binary64 :=
  let magnitude : Int := (Nat.toDigits 10 digits).length + exponent
  if digits = 0 ∨ magnitude < -(decimalRange : Int) then zero negative
  else if (decimalRange : Int) < magnitude then .infinite negative
  else ofQuotient negative (digits * powerOfTen exponent.toNat) (powerOfTen (-exponent).toNat)

/-! ## Sums and products -/

/-- A finite value as a signed fraction, whose second part is positive. -/
def signedFraction? : Binary64 → Option (Int × Nat)
  | .finite negative significand exponent =>
      let (numerator, denominator) := fraction significand exponent
      some (if negative then -(numerator : Int) else numerator, denominator)
  | .infinite _ => none
  | .notANumber => none

def ofSignedQuotient
    (numerator : Int)
    (denominator : Nat) :
    Binary64 :=
  ofQuotient (decide (numerator < 0)) numerator.natAbs denominator

def negate : Binary64 → Binary64
  | .finite negative significand exponent => .finite (!negative) significand exponent
  | .infinite negative => .infinite (!negative)
  | .notANumber => .notANumber

/-- The sum of two values, rounded once. A value that is not finite stays what it is. -/
def add (left right : Binary64) : Binary64 :=
  match signedFraction? left, signedFraction? right with
  | some (leftTop, leftBottom), some (rightTop, rightBottom) =>
      ofSignedQuotient (leftTop * rightBottom + rightTop * leftBottom) (leftBottom * rightBottom)
  | none, _ => left
  | _, none => right

/-- A value times a whole number, rounded once. -/
def scale
    (value : Binary64)
    (factor : Nat) :
    Binary64 :=
  match signedFraction? value with
  | some (top, bottom) => ofSignedQuotient (top * factor) bottom
  | none => value

end ThreatModel.Numeric.Binary64
