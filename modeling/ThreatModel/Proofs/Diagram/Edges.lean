import Mathlib.Data.List.Forall2
import ThreatModel.Proofs.Diagram.Nodes
import ThreatModel.Proofs.Risk.Grades

/-!
Contract: the edges of the diagram of declared functions.

Owns:
- the pairs of components that an interaction links, each once and in order;
- what an edge shows of the calls that join two components, and of a flow;
- that the diagram has one edge for each pair and one for each flow, and no others.

Does not own: the nodes that edges stand between.
-/

namespace ThreatModel

/-! ## Linked pairs -/

namespace Interaction

/-- Pairs of source and destination with what is contributed to each. -/
def linked (interaction : Interaction) : List ((String × String) × List Contribution) :=
  interaction.edges.entries.flatMap fun (source, dests) =>
    dests.entries.map fun (dest, contributions) => ((source, dest), contributions)

/-- The pairs of source and destination: sources in their order, and under each its destinations in
theirs. -/
def linkedPairs (interaction : Interaction) : List (String × String) :=
  interaction.edges.entries.flatMap fun (source, dests) =>
    dests.keys.map fun dest => (source, dest)

variable {interaction : Interaction}

theorem map_fst_linked : interaction.linked.map Prod.fst = interaction.linkedPairs := by
  simp only [linked, linkedPairs, OrderedMap.keys, List.map_flatMap, List.map_map]
  rfl

theorem nodup_linkedPairs (interaction : Interaction) : interaction.linkedPairs.Nodup := by
  rw [linkedPairs, List.nodup_flatMap]
  constructor
  · intro entry _
    exact entry.2.keys_nodup.map fun _ _ same => (Prod.mk.inj same).2
  · have distinct := List.pairwise_map.mp interaction.edges.distinct
    refine distinct.imp ?_
    intro left right different pair inLeft inRight
    obtain ⟨_, _, rfl⟩ := List.mem_map.mp inLeft
    obtain ⟨_, _, same⟩ := List.mem_map.mp inRight
    exact different (Prod.mk.inj same).1.symm

theorem get?_get?_of_mem_linked
    {source dest : String}
    {contributions : List Contribution}
    (member : ((source, dest), contributions) ∈ interaction.linked) :
    (interaction.edges.get? source).bind (·.get? dest) = some contributions := by
  obtain ⟨⟨_, dests⟩, isSource, inner⟩ := List.mem_flatMap.mp member
  obtain ⟨⟨_, _⟩, isDest, same⟩ := List.mem_map.mp inner
  cases same
  rw [OrderedMap.get?_eq_some_iff.mpr isSource]
  exact OrderedMap.get?_eq_some_iff.mpr isDest

variable (functions : OrderedMap String Declaration) (graph : CallGraph)

/-- The functions whose calls join two components, in the order of the calls. -/
def joinedCallees (ends : String × String) : List (String × Declaration) :=
  ((calls functions graph).filter fun call => call.Joins ends.1 ends.2).map Call.callee

/-- A linked pair is joined by some call, and it is linked by nothing but the calls. -/
theorem mem_linked_ofCalls
    {ends : String × String}
    {contributions : List Contribution}
    (member : (ends, contributions) ∈ (ofCalls functions graph).linked) :
    joinedCallees functions graph ends ≠ [] ∧
      contributions =
        (joinedCallees functions graph ends).map fun callee => callee.2.contribution callee.1 := by
  have found := get?_get?_of_mem_linked member
  rw [edges_eq_collected, OrderedMap.get?_get?_collected, contributions_eq_links] at found
  have same : Interaction.contributions functions graph ends.1 ends.2 =
      (joinedCallees functions graph ends).map fun callee => callee.2.contribution callee.1 := by
    rw [Interaction.contributions, joinedCallees, List.map_map]
    rfl
  rw [same] at found
  cases joined : joinedCallees functions graph ends with
  | nil =>
      rw [joined] at found
      cases found
  | cons head rest =>
      rw [joined] at found
      exact ⟨List.cons_ne_nil head rest, (Option.some.inj found).symm⟩

end Interaction

/-! ## Edges of calls -/

/-- The grade of a function by its own findings. -/
def Declaration.ownRisk (declaration : Declaration) : Risk :=
  .classify declaration.exposures.length declaration.mitigations.length

theorem Declaration.ownRisk_eq_iff (declaration : Declaration) :
    (declaration.ownRisk = .exposed ↔
        declaration.exposures ≠ [] ∧ declaration.mitigations = []) ∧
      (declaration.ownRisk = .partiallyMitigated ↔
        declaration.exposures ≠ [] ∧ declaration.mitigations ≠ []) ∧
      (declaration.ownRisk = .mitigated ↔
        declaration.exposures = [] ∧ declaration.mitigations ≠ []) := by
  rw [ownRisk, Risk.classify_length]
  cases declaration.exposures with
  | nil => cases declaration.mitigations <;> simp
  | cons exposure _ => cases declaration.mitigations <;> simp

namespace Diagram

/-- The grade that the gravest of some functions gives. -/
def gravest (callees : List Declaration) : Risk :=
  if ∃ callee ∈ callees, callee.exposures ≠ [] ∧ callee.mitigations = [] then .exposed
  else if ∃ callee ∈ callees, callee.exposures ≠ [] ∧ callee.mitigations ≠ [] then
    .partiallyMitigated
  else if ∃ callee ∈ callees, callee.exposures = [] ∧ callee.mitigations ≠ [] then .mitigated
  else .neutral

theorem gravest_eq_escalate (callees : List Declaration) :
    gravest callees = Risk.escalate (callees.map Declaration.ownRisk) := by
  have graded
      {risk : Risk}
      {states : Declaration → Prop}
      (iff : ∀ callee, callee.ownRisk = risk ↔ states callee) :
      (∃ callee ∈ callees, states callee) ↔ risk ∈ callees.map Declaration.ownRisk := by
    simp only [List.mem_map, iff]
  have exposed := graded fun callee => callee.ownRisk_eq_iff.1
  have partiallyMitigated := graded fun callee => callee.ownRisk_eq_iff.2.1
  have mitigated := graded fun callee => callee.ownRisk_eq_iff.2.2
  rw [Risk.escalate_eq, gravest]
  exact if_congr exposed rfl (if_congr partiallyMitigated rfl (if_congr mitigated rfl rfl))

theorem exists_gravest
    {callees : List Declaration}
    (inhabited : callees ≠ []) :
    ∃ callee ∈ callees, callee.ownRisk = gravest callees := by
  have graded : callees.map Declaration.ownRisk ≠ [] := by
    rwa [ne_eq, List.map_eq_nil_iff]
  have highest := Risk.escalate_mem graded
  rw [← gravest_eq_escalate] at highest
  exact List.mem_map.mp highest

theorem rank_le_gravest
    {callees : List Declaration}
    {callee : Declaration}
    (member : callee ∈ callees) :
    callee.ownRisk.rank ≤ (gravest callees).rank := by
  rw [gravest_eq_escalate]
  exact Risk.rank_le_escalate (List.mem_map_of_mem member)

variable (functions : OrderedMap String Declaration) (graph : CallGraph)

/-- What an edge shows of the calls that join two components. -/
structure ShowsCalls
    (ends : String × String)
    (edge : DiagramEdge) :
    Prop where
  source_eq : edge.source = ends.1
  dest_eq : edge.dest = ends.2
  /-- Every called function has one label, at the place of its first call. -/
  texts_eq :
    edge.labels.map EdgeLabel.text =
      ((Interaction.joinedCallees functions graph ends).map Prod.fst).eraseDups
  label_colors :
    ∀ label ∈ edge.labels, ∃ callee,
      functions.get? label.text = some callee ∧ label.color = callee.ownRisk.labelColor
  kind_eq :
    edge.kind = .call (gravest ((Interaction.joinedCallees functions graph ends).map Prod.snd))
  color_mem : edge.color ∈ edge.labels.map EdgeLabel.color
  color_first :
    ∀ label ∈ edge.labels, Risk.colorOrder.idxOf edge.color ≤ Risk.colorOrder.idxOf label.color

/-- The label of a called function has the colour of its own grade. -/
def labelOf (callee : String × Declaration) : EdgeLabel :=
  ⟨callee.1, callee.2.ownRisk.labelColor⟩

theorem edge_of_callees
    (source dest : String)
    (callees : List (String × Declaration)) :
    Contribution.edge source dest (callees.map fun callee => callee.2.contribution callee.1) =
      { source := source
        dest := dest
        kind := .call (gravest (callees.map Prod.snd))
        labels := (callees.map labelOf).eraseDups
        color := (gravest (callees.map Prod.snd)).labelColor } := by
  rw [gravest_eq_escalate, Contribution.edge, List.map_map, List.map_map, List.map_map]
  rfl

variable {functions graph} {ends : String × String}

theorem get?_of_mem_joinedCallees
    {callee : String × Declaration}
    (joined : callee ∈ Interaction.joinedCallees functions graph ends) :
    functions.get? callee.1 = some callee.2 := by
  obtain ⟨call, known, rfl⟩ := List.mem_map.mp joined
  have isCall := (List.mem_filter.mp known).1
  exact OrderedMap.get?_eq_some_iff.mpr ((Interaction.mem_calls functions graph).mp isCall).2.1

/-- A name stands for one function, so that labels of one name are one label. -/
theorem map_text_labels :
    (((Interaction.joinedCallees functions graph ends).map labelOf).eraseDups).map EdgeLabel.text =
      ((Interaction.joinedCallees functions graph ends).map Prod.fst).eraseDups := by
  have sameLabel : ∀ left ∈ (Interaction.joinedCallees functions graph ends).map labelOf,
      ∀ right ∈ (Interaction.joinedCallees functions graph ends).map labelOf,
        left.text = right.text → left = right := by
    intro left isLeft right isRight sameText
    obtain ⟨leftCallee, leftJoined, rfl⟩ := List.mem_map.mp isLeft
    obtain ⟨rightCallee, rightJoined, rfl⟩ := List.mem_map.mp isRight
    have sameName : leftCallee.1 = rightCallee.1 := sameText
    have leftDeclared := get?_of_mem_joinedCallees leftJoined
    have rightDeclared := get?_of_mem_joinedCallees rightJoined
    rw [sameName, rightDeclared] at leftDeclared
    rw [Prod.ext sameName (Option.some.inj leftDeclared).symm]
  rw [← eraseDups_map_of_injOn sameLabel, List.map_map]
  rfl

theorem showsCalls_edge
    {contributions : List Contribution}
    (member : (ends, contributions) ∈ (Interaction.ofCalls functions graph).linked) :
    ShowsCalls functions graph ends (Contribution.edge ends.1 ends.2 contributions) := by
  obtain ⟨inhabited, rfl⟩ := Interaction.mem_linked_ofCalls functions graph member
  rw [edge_of_callees]
  constructor
  · rfl
  · rfl
  · exact map_text_labels
  · intro label isLabel
    obtain ⟨callee, joined, rfl⟩ := List.mem_map.mp (List.mem_eraseDups.mp isLabel)
    exact ⟨callee.2, get?_of_mem_joinedCallees joined, rfl⟩
  · rfl
  · obtain ⟨_, isCallee, isGravest⟩ := exists_gravest (mt List.map_eq_nil_iff.mp inhabited)
    obtain ⟨callee, joined, rfl⟩ := List.mem_map.mp isCallee
    have isLabel :
        labelOf callee ∈
          ((Interaction.joinedCallees functions graph ends).map labelOf).eraseDups :=
      List.mem_eraseDups.mpr (List.mem_map_of_mem joined)
    exact List.mem_map.mpr ⟨labelOf callee, isLabel, congrArg Risk.labelColor isGravest⟩
  · intro label isLabel
    obtain ⟨callee, joined, rfl⟩ := List.mem_map.mp (List.mem_eraseDups.mp isLabel)
    have below : callee.2.ownRisk.rank ≤ _ := rank_le_gravest (List.mem_map_of_mem joined)
    rw [labelOf, Risk.idxOf_labelColor, Risk.idxOf_labelColor]
    omega

/-! ## Edges of flows -/

/-- What an edge shows of a flow. -/
structure ShowsFlow
    (flow : Flow)
    (edge : DiagramEdge) :
    Prop where
  source_eq : edge.source = flow.source.key
  dest_eq : edge.dest = flow.dest.key
  kind_eq : edge.kind = .flow flow.direction
  labels_eq : edge.labels = [⟨flow.subject, edge.color⟩]
  color_eq :
    edge.color =
      match flow.direction with
      | .sends => "blue"
      | .receives => "purple"

theorem showsFlow_edge (flow : Flow) : ShowsFlow flow flow.edge := by
  refine ⟨rfl, rfl, rfl, rfl, ?_⟩
  unfold Flow.edge
  cases flow.direction <;> rfl

/-! ## The edges of a diagram -/

def Action.edge? : Action → Option DiagramEdge
  | .place _ _ _ _ => none
  | .connect edge => some edge

theorem edges_perform
    (diagram : Diagram)
    (action : Action) :
    (diagram.perform action).edges = diagram.edges ++ action.edge?.toList := by
  cases action with
  | connect edge => rfl
  | place key component shape risk =>
      rw [perform, addNode, Action.edge?, Option.toList_none, List.append_nil]
      split <;> rfl

theorem edges_foldl_perform
    (diagram : Diagram)
    (actions : List Action) :
    (actions.foldl perform diagram).edges =
      diagram.edges ++ actions.filterMap Action.edge? := by
  induction actions generalizing diagram with
  | nil => simp
  | cons action rest inductionHypothesis =>
      rw [List.foldl_cons, inductionHypothesis, edges_perform, List.append_assoc,
        List.filterMap_cons]
      cases action.edge? <;> rfl

variable (functions graph)

/-- The edge that a step of an interaction makes. -/
def stepEdge? : DiagramStep → Option DiagramEdge
  | .place _ => none
  | .connect source dest contributions => some (Contribution.edge source dest contributions)

theorem filterMap_edge?_callActions :
    (callActions functions graph).filterMap Action.edge? =
      (Interaction.ofCalls functions graph).linked.map fun link =>
        Contribution.edge link.1.1 link.1.2 link.2 := by
  have connected (step : DiagramStep) :
      (stepAction? (.ofFunctions functions) (.ofCalls functions graph) step).bind Action.edge? =
        stepEdge? step := by
    cases step with
    | place key =>
        rw [stepAction?, Option.bind_map]
        cases (ComponentIndex.ofFunctions functions).get? key <;> rfl
    | connect source dest contributions => rfl
  rw [callActions, List.filterMap_filterMap]
  simp only [connected]
  rw [Interaction.steps, Interaction.linked, List.filterMap_flatMap, List.map_flatMap]
  congr 1
  funext group
  obtain ⟨source, dests⟩ := group
  rw [List.filterMap_cons, List.filterMap_flatMap, List.map_map, List.map_eq_flatMap]
  rfl

theorem filterMap_edge?_flowActions :
    (flowActions functions).filterMap Action.edge? =
      (functions.values.flatMap Declaration.flows).map Flow.edge := by
  rw [flowActions, List.filterMap_flatMap, List.map_eq_flatMap]
  rfl

/-- The diagram has one edge for each linked pair, in the order of the links, and behind them one
for each flow, whatever the calls are. -/
theorem edges_ofFunctions :
    ∃ flowEdges,
      List.Forall₂ ShowsFlow (functions.values.flatMap Declaration.flows) flowEdges ∧
        ∀ graph, ∃ diagram callEdges,
          ofFunctions functions graph (.ofFunctions functions) = .ok diagram ∧
            diagram.edges = callEdges ++ flowEdges ∧
            (Interaction.ofCalls functions graph).linkedPairs.Nodup ∧
            List.Forall₂ (ShowsCalls functions graph)
              (Interaction.ofCalls functions graph).linkedPairs callEdges := by
  refine ⟨(functions.values.flatMap Declaration.flows).map Flow.edge, ?_, fun graph => ?_⟩
  · rw [List.forall₂_map_right_iff, List.forall₂_same]
    intro flow _
    exact showsFlow_edge flow
  refine ⟨_, (Interaction.ofCalls functions graph).linked.map fun link =>
      Contribution.edge link.1.1 link.1.2 link.2,
    ofFunctions_eq_foldl_perform functions graph, ?_, Interaction.nodup_linkedPairs _, ?_⟩
  · rw [edges_foldl_perform, List.filterMap_append, filterMap_edge?_callActions,
      filterMap_edge?_flowActions]
    rfl
  · rw [← Interaction.map_fst_linked, List.forall₂_map_left_iff, List.forall₂_map_right_iff,
      List.forall₂_same]
    intro link member
    exact showsCalls_edge member

end Diagram

end ThreatModel
