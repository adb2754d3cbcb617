import ThreatModel.Ledger.Basic
import ThreatModel.Numeric.Percentage

/-!
Contract: coverage counts.

Owns:
- how many functions were found in code, how many declarations are covered, and
  how many functions are tested;
- the share of covered among found, and of tested among covered.

Does not own: which records cover a declaration.
-/

namespace ThreatModel

open ThreatModel.Numeric

structure Coverage where
  /-- Distinct signature names. -/
  found : Nat
  /-- Declarations with a record other than a test. -/
  covered : Nat
  /-- Distinct functions that tests name. -/
  tested : Nat
deriving DecidableEq, Repr

namespace Coverage

def ofLedger (ledger : Ledger) : Coverage where
  found := ledger.found.size
  covered := ledger.covered.size
  tested := ledger.tested.size

def coveredPercent (coverage : Coverage) : Binary64 :=
  percentageOf coverage.covered coverage.found

def testedPercent (coverage : Coverage) : Binary64 :=
  percentageOf coverage.tested coverage.covered

end Coverage

end ThreatModel
