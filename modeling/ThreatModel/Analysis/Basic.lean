import ThreatModel.Analysis.Coverage
import ThreatModel.Analysis.Index

/-!
Contract: the analysis of a ledger.

Owns: the models in order of first declaration, together with the functions, the
component index, the coverage and the orphans of one ledger.

Does not own: how any of them is presented.
-/

namespace ThreatModel

structure Analysis where
  models : List String
  functions : OrderedMap String Declaration
  components : ComponentIndex
  coverage : Coverage
  orphans : List Orphan
deriving DecidableEq, Repr

def Ledger.analyze (ledger : Ledger) : Analysis where
  models := (ledger.declarations.map Declaration.model).eraseDups
  functions := ledger.functions
  components := .ofFunctions ledger.functions
  coverage := .ofLedger ledger
  orphans := ledger.orphans

end ThreatModel
