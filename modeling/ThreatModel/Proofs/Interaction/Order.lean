import ThreatModel.Proofs.Interaction.Edges
import ThreatModel.Proofs.Interaction.Tallies

/-!
Contract: interactions of functions and calls that come in another order.

Owns:
- call graphs with the same callers and callees, in whatever order;
- that the calls between declared functions, the boxes and what visited functions
  state are the same, up to the order of the calls.

Does not own: the order of what is made of the calls.
-/

namespace ThreatModel

/-- The same callers, each with the same callees and sites; callers and callees may come in another
order. -/
structure CallGraph.Reordered (graph other : CallGraph) : Prop where
  callers : graph.keys.Perm other.keys
  callees : ∀ caller ∈ graph.entries, ∃ callees,
    other.get? caller.1 = some callees ∧ caller.2.entries.Perm callees.entries

namespace CallGraph.Reordered

variable {graph other : CallGraph} (reordered : graph.Reordered other)

include reordered

theorem contains_eq (name : String) : graph.contains name = other.contains name := by
  rw [Bool.eq_iff_iff, OrderedMap.contains_iff, OrderedMap.contains_iff, reordered.callers.mem_iff]

theorem hasCall_eq (caller callee : String) :
    graph.hasCall caller callee = other.hasCall caller callee := by
  unfold CallGraph.hasCall
  cases found : graph.get? caller with
  | none =>
      have absent := OrderedMap.get?_eq_none_iff.mp found
      rw [reordered.callers.mem_iff] at absent
      rw [OrderedMap.get?_eq_none_iff.mpr absent]
  | some callees =>
      obtain ⟨others, otherFound, same⟩ :=
        reordered.callees (caller, callees) (OrderedMap.get?_eq_some_iff.mp found)
      have sameKeys : callees.keys.Perm others.keys := same.map Prod.fst
      rw [otherFound, Option.any_some, Option.any_some, Bool.eq_iff_iff, OrderedMap.contains_iff,
        OrderedMap.contains_iff, sameKeys.mem_iff]

end CallGraph.Reordered

namespace Interaction

/-- No call comes twice. -/
theorem nodup_calls
    (functions : OrderedMap String Declaration)
    (graph : CallGraph) :
    (calls functions graph).Nodup := by
  rw [calls, List.nodup_flatMap]
  constructor
  · intro caller _
    exact (callees_nodup functions graph caller.1).map fun _ _ same => (Call.mk.inj same).2
  · refine (nodup_entries functions).imp ?_
    intro left right different call inLeft inRight
    obtain ⟨_, _, rfl⟩ := List.mem_map.mp inLeft
    obtain ⟨_, _, same⟩ := List.mem_map.mp inRight
    exact different (Call.mk.inj same).1.symm

variable
  {functions others : OrderedMap String Declaration}
  {graph other : CallGraph}
  (sameFunctions : functions.entries.Perm others.entries)
  (reordered : graph.Reordered other)

include sameFunctions reordered

/-- Calls come once each, and which of them come does not depend on the order. -/
theorem calls_perm : (calls functions graph).Perm (calls others other) := by
  rw [List.perm_ext_iff_of_nodup (nodup_calls functions graph) (nodup_calls others other)]
  intro call
  rw [mem_calls, mem_calls, sameFunctions.mem_iff, sameFunctions.mem_iff, reordered.hasCall_eq]

theorem boxed_congr (key : String) : Boxed functions graph key ↔ Boxed others other key := by
  unfold Boxed
  simp only [(calls_perm sameFunctions reordered).mem_iff]

theorem visitStates_congr
    (keys : Declaration → List String)
    (key : String) :
    VisitStates functions graph keys key ↔ VisitStates others other keys key := by
  have sameNames : functions.keys.Perm others.keys := sameFunctions.map Prod.fst
  unfold VisitStates Visited
  simp only [sameFunctions.mem_iff, sameNames.mem_iff, reordered.contains_eq, reordered.hasCall_eq]

end Interaction

end ThreatModel
