import ThreatModel.Proofs.Diagram.Order
import ThreatModel.Proofs.Ledger.OneLine

/-!
Contract: the labels of a diagram of texts that were read are on one line.

Owns:
- functions of which all that a diagram can show is on one line;
- the labels of the nodes and clusters of a diagram, as actions add them;
- that a diagram of such functions has labels on one line, and on each edge at least
  one of them;
- that its colours are on one line too, and that its nodes are boxes and ovals.

Does not own: how a language writes a label.
-/

namespace ThreatModel

/-- Names and records of the functions are on one line. -/
def OneLineFunctions (functions : OrderedMap String Declaration) : Prop :=
  ∀ name declaration, functions.get? name = some declaration →
    OneLine name ∧ declaration.OneLine

theorem Ledger.oneLineFunctions_readAll (files : List (String × String)) :
    OneLineFunctions (readAll ∅ files).functions :=
  fun _ _ found => oneLine_of_get?_functions found

namespace Diagram

/-- Nodes and clusters have labels on one line. -/
structure Labelled (diagram : Diagram) : Prop where
  nodes : ∀ key node, diagram.nodes.get? key = some node → OneLine node.label
  clusters : ∀ zone cluster, diagram.clusters.get? zone = some cluster → OneLine cluster.label

/-- The action places nothing but a component that is spelled on one line. -/
def Action.OneLine : Action → Prop
  | .place _ component _ _ => component.OneLine
  | .connect _ => True

namespace Labelled

theorem empty : Labelled ∅ := by
  constructor
  · intro key node found
    cases found
  · intro zone cluster found
    cases found

variable {diagram : Diagram} (labelled : diagram.Labelled)

include labelled

/-- A node and the cluster that it opens are labelled with the parts of its component. -/
theorem addNode
    (key : String)
    {component : Component}
    (oneLine : component.OneLine)
    (shape : NodeShape)
    (risk : Option Risk) :
    (diagram.addNode key component shape risk).Labelled := by
  by_cases known : diagram.nodes.contains key = true
  · rwa [addNode_of_known component shape risk known]
  constructor
  · intro other node found
    rw [get?_nodes_addNode component shape risk known] at found
    split at found
    · obtain rfl := Option.some.inj found
      exact oneLine.name
    · exact labelled.nodes other node found
  · intro zone cluster found
    rw [get?_clusters_addNode component shape risk known] at found
    split at found
    · obtain rfl := Option.some.inj found
      cases before : diagram.clusters.get? zone with
      | none => exact oneLine.zone
      | some cluster => exact labelled.clusters zone cluster before
    · exact labelled.clusters zone cluster found

theorem foldl_perform
    {actions : List Action}
    (oneLine : ∀ action ∈ actions, action.OneLine) :
    (actions.foldl perform diagram).Labelled := by
  induction actions generalizing diagram with
  | nil => exact labelled
  | cons action rest inductionHypothesis =>
      have here := oneLine action List.mem_cons_self
      have later : ∀ action ∈ rest, action.OneLine := fun other member =>
        oneLine other (List.mem_cons_of_mem action member)
      cases action with
      | place key component shape risk =>
          exact inductionHypothesis (labelled.addNode key here shape risk) later
      | connect edge => exact inductionHypothesis ⟨labelled.nodes, labelled.clusters⟩ later

end Labelled

section Drawn

variable
  {functions : OrderedMap String Declaration}
  (oneLine : OneLineFunctions functions)
  (graph : CallGraph)

include oneLine

theorem oneLine_of_mem_stated
    {component : Component}
    (isStated : component ∈ ComponentIndex.statedComponents functions) :
    component.OneLine := by
  obtain ⟨⟨name, declaration⟩, isEntry, isStated⟩ := List.mem_flatMap.mp isStated
  have found := OrderedMap.get?_eq_some_iff.mpr isEntry
  exact (oneLine name declaration found).2.stated component isStated

theorem oneLine_of_mem_flows
    {flow : Flow}
    (isFlow : flow ∈ functions.values.flatMap Declaration.flows) :
    flow.OneLine := by
  obtain ⟨declaration, isDeclaration, isFlow⟩ := List.mem_flatMap.mp isFlow
  obtain ⟨⟨name, _⟩, isEntry, rfl⟩ := List.mem_map.mp isDeclaration
  have found := OrderedMap.get?_eq_some_iff.mpr isEntry
  exact (oneLine name _ found).2.flows flow isFlow

theorem labelled_drawn : (drawn functions graph).Labelled := by
  apply Labelled.empty.foldl_perform
  intro action member
  rcases List.mem_append.mp member with ofCalls | ofFlows
  · obtain ⟨step, _, isAction⟩ := List.mem_filterMap.mp ofCalls
    cases step with
    | connect source dest contributions =>
        obtain rfl := Option.some.inj isAction
        trivial
    | place key =>
        obtain ⟨record, found, rfl⟩ := Option.map_eq_some_iff.mp isAction
        have spelled := (ComponentIndex.gathers_of_get? functions found).component_eq
        exact oneLine_of_mem_stated oneLine (List.mem_of_find?_eq_some spelled)
  · obtain ⟨flow, isFlow, isAction⟩ := List.mem_flatMap.mp ofFlows
    obtain ⟨_, source, dest⟩ := oneLine_of_mem_flows oneLine isFlow
    simp only [Flow.actions, List.mem_cons, List.not_mem_nil, or_false] at isAction
    rcases isAction with rfl | rfl | rfl
    · exact source
    · exact dest
    · trivial

/-- An edge of calls shows the names of callees, and an edge of a flow the subject. -/
theorem labels_of_mem_edges_drawn
    {edge : DiagramEdge}
    (isEdge : edge ∈ (drawn functions graph).edges) :
    edge.labels ≠ [] ∧ ∀ label ∈ edge.labels, ThreatModel.OneLine label.text := by
  rw [edges_drawn] at isEdge
  rcases List.mem_append.mp isEdge with ofCalls | ofFlow
  · obtain ⟨ends, isLinked, rfl⟩ := List.mem_map.mp ofCalls
    have joined := (mem_linkedPairs_iff functions graph).mp isLinked
    constructor
    · obtain ⟨callee, isCallee⟩ := List.exists_mem_of_ne_nil _ joined
      exact List.ne_nil_of_mem (List.mem_eraseDups.mpr (List.mem_map_of_mem isCallee))
    · intro label isLabel
      obtain ⟨callee, isCallee, rfl⟩ := List.mem_map.mp (List.mem_eraseDups.mp isLabel)
      have found := get?_of_mem_joinedCallees isCallee
      exact (oneLine callee.1 callee.2 found).1
  · obtain ⟨flow, isFlow, rfl⟩ := List.mem_map.mp ofFlow
    refine ⟨List.cons_ne_nil _ _, fun label isLabel => ?_⟩
    obtain rfl := List.mem_singleton.mp isLabel
    exact (oneLine_of_mem_flows oneLine isFlow).subject

end Drawn

/-! ## Colours and shapes -/

theorem oneLine_nodeColor
    {node : Node}
    {color : String}
    (colored : node.color? = some color) :
    OneLine color := by
  obtain ⟨risk, _, isColor⟩ := Option.bind_eq_some_iff.mp colored
  cases risk with
  | neutral => cases isColor
  | _ =>
      cases isColor
      decide

theorem oneLine_labelColor (risk : Risk) : OneLine risk.labelColor := by
  cases risk <;> decide

theorem oneLine_directionColor (direction : Direction) : OneLine direction.color := by
  cases direction <;> decide

section Drawn

variable {functions : OrderedMap String Declaration} {graph : CallGraph}

theorem oneLine_edgeColor
    {edge : DiagramEdge}
    (isEdge : edge ∈ (drawn functions graph).edges) :
    OneLine edge.color := by
  rw [edges_drawn] at isEdge
  rcases List.mem_append.mp isEdge with ofCalls | ofFlow
  · obtain ⟨ends, _, rfl⟩ := List.mem_map.mp ofCalls
    exact oneLine_labelColor _
  · obtain ⟨flow, _, rfl⟩ := List.mem_map.mp ofFlow
    exact oneLine_directionColor flow.direction

theorem shape_of_get?_drawn
    {key : String}
    {node : Node}
    (found : (drawn functions graph).nodes.get? key = some node) :
    node.shape = .box ∨ node.shape = .oval := by
  have shown := map_appearance_drawn functions graph key
  rw [found, Option.map_some] at shown
  split at shown
  · have sameShape := congrArg Appearance.shape (Option.some.inj shown)
    exact .inl (sameShape.trans (shape_boxOf key))
  · split at shown
    · have sameShape := congrArg Appearance.shape (Option.some.inj shown)
      exact .inr sameShape
    · cases shown

end Drawn

end Diagram

end ThreatModel
