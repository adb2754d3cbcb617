/-!
Contract: powers of two and of ten.

Owns: the powers with natural exponents.

Does not own: fractions; negative exponents are written as denominators.
-/

namespace ThreatModel.Numeric

def powerOfTwo (exponent : Nat) : Nat :=
  Nat.pow 2 exponent

def powerOfTen (exponent : Nat) : Nat :=
  Nat.pow 10 exponent

end ThreatModel.Numeric
