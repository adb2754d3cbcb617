import ThreatModel.Proofs.Diagram.Drawn

/-!
Contract: diagrams of more functions, of more findings and of more calls.

Owns:
- when declared functions and call graphs are contained in larger ones;
- what the larger ones keep: calls, boxes, exposures on visits, and joined callees;
- that no box goes away, no call edge goes away, and nothing that alarms is calmed.

Does not own: the nodes and edges that are new in a larger diagram.
-/

namespace ThreatModel

/-! ## Contained inputs -/

/-- The findings and activities of a declaration, among those of another. -/
structure Declaration.Within (fewer more : Declaration) : Prop where
  mitigations : fewer.mitigations ⊆ more.mitigations
  exposures : fewer.exposures ⊆ more.exposures
  activities : fewer.activities ⊆ more.activities

/-- Every name stays declared, with what is declared for it and maybe more. -/
def DeclaredWithin (fewer more : OrderedMap String Declaration) : Prop :=
  ∀ function ∈ fewer.entries, ∃ larger,
    more.get? function.1 = some larger ∧ function.2.Within larger

/-- Callers stay callers, and calls stay calls. -/
structure CallGraph.Within (fewer more : CallGraph) : Prop where
  callers : fewer.keys ⊆ more.keys
  calls : ∀ caller ∈ fewer.entries, ∀ callee ∈ caller.2.keys,
    more.hasCall caller.1 callee = true

theorem CallGraph.Within.hasCall
    {fewer more : CallGraph}
    (within : fewer.Within more)
    {caller callee : String}
    (known : fewer.hasCall caller callee = true) :
    more.hasCall caller callee = true := by
  unfold CallGraph.hasCall at known
  obtain ⟨callees, found, isCallee⟩ := (Option.any_eq_true _ _).mp known
  exact within.calls (caller, callees) (OrderedMap.get?_eq_some_iff.mp found) callee
    (OrderedMap.contains_iff.mp isCallee)

namespace Declaration.Within

variable {fewer more : Declaration} (within : fewer.Within more)

include within

theorem exposureKeys : fewer.exposureKeys ⊆ more.exposureKeys :=
  List.map_subset _ within.exposures

theorem touched : fewer.touched ⊆ more.touched := by
  intro key touches
  unfold Declaration.touched at touches ⊢
  simp only [List.mem_eraseDups, List.mem_append] at touches ⊢
  rcases touches with (mitigated | exposed) | acted
  · exact .inl (.inl (List.map_subset _ within.mitigations mitigated))
  · exact .inl (.inr (within.exposureKeys exposed))
  · exact .inr (List.map_subset _ within.activities acted)

theorem touched_ne_nil (inhabited : fewer.touched ≠ []) : more.touched ≠ [] := by
  intro nothing
  exact inhabited (List.subset_nil.mp (nothing ▸ within.touched))

theorem exposures_ne_nil (exposes : fewer.exposures ≠ []) : more.exposures ≠ [] := by
  intro nothing
  exact exposes (List.subset_nil.mp (nothing ▸ within.exposures))

end Declaration.Within

/-! ## Kept calls and visits -/

namespace Interaction

/-- A call between the same functions, each with at least as much declared. -/
structure Call.Within (fewer more : Call) : Prop where
  caller : fewer.caller.2.Within more.caller.2
  callee : fewer.callee.2.Within more.callee.2

variable
  {fewer more : OrderedMap String Declaration}
  {graph larger : CallGraph}
  (declared : DeclaredWithin fewer more)
  (called : graph.Within larger)

include declared called

theorem exists_call
    {call : Call}
    (isCall : call ∈ calls fewer graph) :
    ∃ other ∈ calls more larger, call.Within other := by
  obtain ⟨callerDeclared, calleeDeclared, known⟩ := (mem_calls fewer graph).mp isCall
  obtain ⟨caller, callerFound, callerWithin⟩ := declared call.caller callerDeclared
  obtain ⟨callee, calleeFound, calleeWithin⟩ := declared call.callee calleeDeclared
  refine ⟨⟨(call.caller.1, caller), (call.callee.1, callee)⟩, ?_, callerWithin, calleeWithin⟩
  exact (mem_calls more larger).mpr
    ⟨OrderedMap.get?_eq_some_iff.mp callerFound, OrderedMap.get?_eq_some_iff.mp calleeFound,
      called.hasCall known⟩

theorem Boxed.grows
    {key : String}
    (boxed : Boxed fewer graph key) :
    Boxed more larger key := by
  obtain ⟨call, isCall, ends⟩ := boxed
  obtain ⟨other, isOther, within⟩ := exists_call declared called isCall
  refine ⟨other, isOther, ?_⟩
  rcases ends with ⟨touches, otherEnd⟩ | ⟨touches, otherEnd⟩
  · exact .inl ⟨within.caller.touched touches, within.callee.touched_ne_nil otherEnd⟩
  · exact .inr ⟨within.callee.touched touches, within.caller.touched_ne_nil otherEnd⟩

theorem Visited.grows
    {name : String}
    (visited : Visited fewer graph name) :
    Visited more larger name := by
  rcases visited with isCaller | ⟨caller, isDeclared, calls⟩
  · exact .inl (OrderedMap.contains_iff.mpr (called.callers (OrderedMap.contains_iff.mp isCaller)))
  · obtain ⟨entry, isEntry, rfl⟩ := List.mem_map.mp isDeclared
    obtain ⟨other, found, _⟩ := declared entry isEntry
    have stays : entry.1 ∈ more.keys :=
      List.mem_map.mpr ⟨(entry.1, other), OrderedMap.get?_eq_some_iff.mp found, rfl⟩
    exact .inr ⟨entry.1, stays, called.hasCall calls⟩

theorem exposure_grows
    {key : String}
    (exposed : VisitStates fewer graph Declaration.exposureKeys key) :
    VisitStates more larger Declaration.exposureKeys key := by
  obtain ⟨function, isDeclared, visited, states⟩ := exposed
  obtain ⟨other, found, within⟩ := declared function isDeclared
  exact ⟨(function.1, other), OrderedMap.get?_eq_some_iff.mp found,
    visited.grows declared called, within.exposureKeys states⟩

/-- A function that is called between two components is still called between them. -/
theorem exists_joinedCallee
    {ends : String × String}
    {callee : String × Declaration}
    (joined : callee ∈ joinedCallees fewer graph ends) :
    ∃ other ∈ joinedCallees more larger ends, callee.2.Within other.2 := by
  obtain ⟨call, known, rfl⟩ := List.mem_map.mp joined
  obtain ⟨isCall, joins⟩ := List.mem_filter.mp known
  obtain ⟨source, dest⟩ := of_decide_eq_true joins
  obtain ⟨other, isOther, within⟩ := exists_call declared called isCall
  have stillJoins : other.Joins ends.1 ends.2 :=
    ⟨within.caller.touched source, within.callee.touched dest⟩
  refine ⟨other.callee, List.mem_map.mpr ⟨other, ?_, rfl⟩, within.callee⟩
  exact List.mem_filter.mpr ⟨isOther, decide_eq_true stillJoins⟩

end Interaction

/-! ## Grown diagrams -/

/-- An edge of calls between the same components as another edge. -/
structure DiagramEdge.Renews (next edge : DiagramEdge) : Prop where
  source : next.source = edge.source
  dest : next.dest = edge.dest
  isCall : next.kind.risk?.isSome

namespace Diagram

/-- Boxes and edges of calls stay, and what alarms goes on alarming: it may turn from red to orange
or back, but neither green nor colourless. -/
structure GrowsInto (before after : Diagram) : Prop where
  boxes : ∀ key node, before.nodes.get? key = some node → node.shape = .box →
    ∃ next, after.nodes.get? key = some next ∧ next.shape = .box
  node_alarms : ∀ key node, before.nodes.get? key = some node → Risk.Alarming node.risk →
    ∃ next, after.nodes.get? key = some next ∧ Risk.Alarming next.risk
  node_colors : ∀ key node, before.nodes.get? key = some node →
    (∃ color ∈ Risk.warmColors, node.color? = some color) →
      ∃ next, after.nodes.get? key = some next ∧
        ∃ color ∈ Risk.warmColors, next.color? = some color
  calls : ∀ edge ∈ before.edges, edge.kind.risk?.isSome →
    ∃ next ∈ after.edges, next.Renews edge
  call_alarms : ∀ edge ∈ before.edges, Risk.Alarming edge.kind.risk? →
    ∀ next ∈ after.edges, next.Renews edge → Risk.Alarming next.kind.risk?
  call_colors : ∀ edge ∈ before.edges, edge.color ∈ Risk.warmColors →
    ∀ next ∈ after.edges, next.Renews edge → next.color ∈ Risk.warmColors

/-- The colours of flows are not warm. -/
theorem warm_iff_alarming
    {functions : OrderedMap String Declaration}
    {graph : CallGraph}
    {edge : DiagramEdge}
    (member : edge ∈ (drawn functions graph).edges) :
    edge.color ∈ Risk.warmColors ↔ Risk.Alarming edge.kind.risk? := by
  rw [edges_drawn] at member
  rcases List.mem_append.mp member with ofCall | ofFlow
  · obtain ⟨ends, _, rfl⟩ := List.mem_map.mp ofCall
    exact Risk.alarming_iff_labelColor.symm
  · obtain ⟨flow, _, rfl⟩ := List.mem_map.mp ofFlow
    change flow.direction.color ∈ Risk.warmColors ↔ Risk.Alarming none
    cases flow.direction <;> decide

section Growth

variable
  {fewer more : OrderedMap String Declaration}
  {graph larger : CallGraph}
  (declared : DeclaredWithin fewer more)
  (called : graph.Within larger)

include declared called

theorem exists_alarming
    {key : String}
    {node : Node}
    (found : (drawn fewer graph).nodes.get? key = some node)
    (alarms : Risk.Alarming node.risk) :
    ∃ next, (drawn more larger).nodes.get? key = some next ∧ Risk.Alarming next.risk := by
  obtain ⟨boxed, exposed⟩ := alarming_iff.mp ⟨node, found, alarms⟩
  have stillExposed := Interaction.exposure_grows declared called exposed
  exact alarming_iff.mpr ⟨boxed.grows declared called, stillExposed⟩

theorem exists_renewed
    {edge : DiagramEdge}
    (member : edge ∈ (drawn fewer graph).edges)
    (isCall : edge.kind.risk?.isSome) :
    ∃ next ∈ (drawn more larger).edges, next.Renews edge := by
  obtain ⟨joined, _⟩ := (mem_edges_drawn_iff fewer graph isCall).mp member
  obtain ⟨callee, isCallee⟩ := List.exists_mem_of_ne_nil _ joined
  obtain ⟨other, isOther, _⟩ := Interaction.exists_joinedCallee declared called isCallee
  have drawnAgain : callEdge more larger (edge.source, edge.dest) ∈ (drawn more larger).edges :=
    (mem_edges_drawn_iff more larger rfl).mpr ⟨List.ne_nil_of_mem isOther, rfl⟩
  exact ⟨_, drawnAgain, rfl, rfl, rfl⟩

/-- The called function that alarms is still called between the same components. -/
theorem alarming_of_renews
    {edge next : DiagramEdge}
    (member : edge ∈ (drawn fewer graph).edges)
    (alarms : Risk.Alarming edge.kind.risk?)
    (nextMember : next ∈ (drawn more larger).edges)
    (renews : next.Renews edge) :
    Risk.Alarming next.kind.risk? := by
  have isCall : edge.kind.risk?.isSome := by
    rcases alarms with exposed | partiallyMitigated
    · rw [exposed]
      rfl
    · rw [partiallyMitigated]
      rfl
  obtain ⟨_, isEdge⟩ := (mem_edges_drawn_iff fewer graph isCall).mp member
  obtain ⟨_, isNext⟩ := (mem_edges_drawn_iff more larger renews.isCall).mp nextMember
  rw [isEdge] at alarms
  obtain ⟨declaration, isCallee, exposes⟩ := alarming_gravest_iff.mp alarms
  obtain ⟨callee, joined, rfl⟩ := List.mem_map.mp isCallee
  obtain ⟨other, isOther, within⟩ := Interaction.exists_joinedCallee declared called joined
  rw [isNext, renews.source, renews.dest]
  exact alarming_gravest_iff.mpr
    ⟨other.2, List.mem_map_of_mem isOther, within.exposures_ne_nil exposes⟩

theorem drawn_grows : (drawn fewer graph).GrowsInto (drawn more larger) where
  boxes key node found isBox :=
    boxed_iff.mpr ((boxed_iff.mp ⟨node, found, isBox⟩).grows declared called)
  node_alarms key node found alarms := exists_alarming declared called found alarms
  node_colors key node found warm := by
    have alarms := Risk.alarming_iff_nodeColor?.mpr warm
    obtain ⟨next, nextFound, nextAlarms⟩ := exists_alarming declared called found alarms
    exact ⟨next, nextFound, Risk.alarming_iff_nodeColor?.mp nextAlarms⟩
  calls edge member isCall := exists_renewed declared called member isCall
  call_alarms edge member alarms next := alarming_of_renews declared called member alarms
  call_colors edge member warm next nextMember renews := by
    have alarms := (warm_iff_alarming member).mp warm
    exact (warm_iff_alarming nextMember).mpr
      (alarming_of_renews declared called member alarms nextMember renews)

end Growth

/-- Exposures are never hidden: with more functions, more findings or more calls, boxes and edges of
calls stay, and what alarms goes on alarming, however much is mitigated. -/
theorem ofFunctions_grows
    {fewer more : OrderedMap String Declaration}
    (declared : DeclaredWithin fewer more)
    {graph larger : CallGraph}
    (called : graph.Within larger) :
    ∃ before after,
      ofFunctions fewer graph (.ofFunctions fewer) = .ok before ∧
        ofFunctions more larger (.ofFunctions more) = .ok after ∧
        before.GrowsInto after :=
  ⟨_, _, ofFunctions_eq_drawn fewer graph, ofFunctions_eq_drawn more larger,
    drawn_grows declared called⟩

/-- A counter opens a vault, which is exposed. -/
def vault (guards : List Finding) : OrderedMap String Declaration :=
  .ofList
    [("open",
        { model := "bank", function := "open", raw := ""
          activities := [⟨"requests", ⟨"Bank", "Counter"⟩, none, ""⟩] }),
      ("unlock",
        { model := "bank", function := "unlock", raw := ""
          mitigations := guards
          exposures := [⟨⟨"Bank", "Vault"⟩, "theft", "one key", none, ""⟩] })]

def vaultCalls (callees : List (String × List CallSite)) : CallGraph :=
  .ofList [("open", .ofList callees)]

def guard : Finding :=
  ⟨⟨"Bank", "Vault"⟩, "theft", "a second key", none, ""⟩

/-- A second key does not hide what is exposed, nor does one more call. -/
theorem vault_grows :
    DeclaredWithin (vault []) (vault [guard]) ∧
      (vaultCalls [("unlock", [⟨3, 1⟩])]).Within
        (vaultCalls [("open", [⟨7, 1⟩]), ("unlock", [⟨3, 1⟩])]) ∧
      ∃ before after,
        ofFunctions (vault []) (vaultCalls [("unlock", [⟨3, 1⟩])]) (.ofFunctions (vault [])) =
            .ok before ∧
          ofFunctions (vault [guard]) (vaultCalls [("open", [⟨7, 1⟩]), ("unlock", [⟨3, 1⟩])])
              (.ofFunctions (vault [guard])) =
            .ok after ∧
          before.GrowsInto after := by
  have declared : DeclaredWithin (vault []) (vault [guard]) := by
    refine List.forall_mem_cons.mpr ⟨⟨_, rfl, ?_⟩, List.forall_mem_cons.mpr ⟨⟨_, rfl, ?_⟩, ?_⟩⟩
    · exact ⟨by decide, by decide, by decide⟩
    · exact ⟨by decide, by decide, by decide⟩
    · exact List.forall_mem_nil _
  have called : (vaultCalls [("unlock", [⟨3, 1⟩])]).Within
      (vaultCalls [("open", [⟨7, 1⟩]), ("unlock", [⟨3, 1⟩])]) :=
    ⟨by decide, by decide⟩
  exact ⟨declared, called, ofFunctions_grows declared called⟩

end Diagram

end ThreatModel
