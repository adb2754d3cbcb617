import ThreatModel.Analysis.Index
import ThreatModel.Proofs.OrderedMap.Collect
import ThreatModel.Risk.Interaction

/-!
Contract: which components the index of declared functions knows.

Owns:
- the keys of an index, in the order of the first fact about each;
- their agreement with the components that declared functions touch.

Does not own: what the index says about a component.
-/

namespace ThreatModel

theorem Declaration.map_key_facts
    (declaration : Declaration)
    (function : String) :
    (declaration.facts function).map (fun fact => fact.component.key) =
      declaration.mitigationKeys ++ declaration.exposureKeys ++ declaration.activityKeys := by
  simp only [Declaration.facts, List.map_append, List.map_map]
  rfl

namespace ComponentIndex

theorem keys_ofFacts (facts : List Fact) :
    (ofFacts facts).keys = (facts.map fun fact => fact.component.key).eraseDups :=
  OrderedMap.keys_foldl_alter (fun fact : Fact => fact.component.key)
    (fun fact (known : Option ComponentRecord) =>
      (known.getD (.ofComponent fact.component)).add fact.statement) ∅ facts

/-- The index knows a component just when some declared function touches it. -/
theorem mem_keys_ofFunctions
    {functions : OrderedMap String Declaration}
    {key : String} :
    key ∈ (ofFunctions functions).keys ↔
      ∃ function ∈ functions.entries, key ∈ function.2.touched := by
  rw [ofFunctions, keys_ofFacts, List.mem_eraseDups, List.map_flatMap, List.mem_flatMap]
  simp only [Declaration.map_key_facts, Declaration.touched, List.mem_eraseDups]

end ComponentIndex

end ThreatModel
