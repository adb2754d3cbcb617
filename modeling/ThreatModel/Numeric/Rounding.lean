/-!
Contract: rounding of exact fractions to whole numbers.

Owns:
- the whole number nearest to a fraction, a tie going to the even neighbour;
- the bounds that make it nearest.

Does not own: floating-point formats.
-/

namespace ThreatModel.Numeric

/-- The whole number nearest to `numerator / denominator`; a tie goes to the even one. -/
def roundHalfEven (numerator denominator : Nat) : Nat :=
  let whole := numerator / denominator
  let remainder := numerator % denominator
  if 2 * remainder < denominator then whole
  else if denominator < 2 * remainder then whole + 1
  else if whole % 2 = 0 then whole
  else whole + 1

theorem two_mul_roundHalfEven_le
    (numerator denominator : Nat) :
    2 * (roundHalfEven numerator denominator * denominator) ≤
      2 * numerator + denominator := by
  have division := Nat.div_add_mod numerator denominator
  rw [Nat.mul_comm] at division
  unfold roundHalfEven
  simp only
  split
  · omega
  · split
    · rw [Nat.add_mul]
      omega
    · split
      · omega
      · rw [Nat.add_mul]
        omega

theorem le_two_mul_roundHalfEven
    (numerator denominator : Nat)
    (positive : 0 < denominator) :
    2 * numerator ≤
      2 * (roundHalfEven numerator denominator * denominator) + denominator := by
  have division := Nat.div_add_mod numerator denominator
  rw [Nat.mul_comm] at division
  have small := Nat.mod_lt numerator positive
  unfold roundHalfEven
  simp only
  split
  · omega
  · split
    · rw [Nat.add_mul]
      omega
    · split
      · omega
      · rw [Nat.add_mul]
        omega

end ThreatModel.Numeric
