import ThreatModel.Numeric.Shortest

/-!
Contract: percentages with two decimal places.

Owns:
- the percentage of one count in another, rounded once to the binary format and
  once more to two places;
- the refusal of quotients beyond the binary format.

Does not own: which counts are compared.
-/

namespace ThreatModel.Numeric

/-- `100 · numerator / denominator` to two places. Nothing is `0.0` percent of nothing, and a
quotient that is zero or rounds to zero keeps the sign of its operands. -/
def percentageOf (numerator denominator : Int) : Binary64 :=
  if denominator = 0 then
    .zero false
  else
    let negative := xor (decide (numerator < 0)) (decide (denominator < 0))
    (Binary64.ofQuotient negative (100 * numerator.natAbs) denominator.natAbs).roundPlaces 2

/-- The quotient is too large for the binary format. -/
inductive PercentageFault where
  | overflow
deriving DecidableEq, Repr

def PercentageFault.message : PercentageFault → String
  | .overflow => "integer division result too large for a float"

def percentage?
    (numerator denominator : Int) :
    Except PercentageFault Binary64 :=
  match percentageOf numerator denominator with
  | .infinite _ => .error .overflow
  | value => .ok value

end ThreatModel.Numeric
