/-!
Contract: sets of characters given by inclusive ranges of code points.

Owns:
- membership of a character in a list of ranges;
- membership in ranges that are stepped through, which is how case tables are laid out.

Does not own: any particular class of characters.
-/

namespace ThreatModel.Text

/-- The character lies in one of the inclusive ranges `(first, last)`. -/
def inRanges
    (ranges : List (Nat × Nat))
    (character : Char) :
    Bool :=
  ranges.any fun range =>
    range.1 ≤ character.toNat && character.toNat ≤ range.2

theorem inRanges_iff
    {ranges : List (Nat × Nat)}
    {character : Char} :
    inRanges ranges character = true ↔
      ∃ range ∈ ranges,
        range.1 ≤ character.toNat ∧ character.toNat ≤ range.2 := by
  simp [inRanges]

end ThreatModel.Text
