import ThreatModel.Diagram.Builder

/-!
Contract: the building of a diagram as a list of actions.

Owns:
- the two actions that a diagram is built by, and their performance in a row;
- the actions behind an interaction and behind a flow;
- the nodes after a list of actions, of which the first for a key decides.

Does not own: which actions the declared functions give rise to.
-/

namespace ThreatModel

namespace Diagram

/-- What is done to a diagram: a node is placed, or two nodes are connected. -/
inductive Action where
  | place (key : String) (component : Component) (shape : NodeShape) (risk : Option Risk)
  | connect (edge : DiagramEdge)
deriving DecidableEq, Repr

/-- The node that an action would place. -/
def Action.node? : Action → Option Node
  | .place key component shape risk =>
      some ⟨key, component.name, Component.normalize component.zone, shape, risk⟩
  | .connect _ => none

def perform
    (diagram : Diagram) :
    Action → Diagram
  | .place key component shape risk => diagram.addNode key component shape risk
  | .connect edge => diagram.addEdge edge

/-! ## Nodes -/

/-- The first node that a list of actions would place under a key. -/
def firstNode?
    (actions : List Action)
    (key : String) :
    Option Node :=
  (actions.filterMap Action.node?).find? (·.key = key)

theorem firstNode?_cons
    (action : Action)
    (rest : List Action)
    (key : String) :
    firstNode? (action :: rest) key =
      (action.node?.filter (·.key = key)).or (firstNode? rest key) := by
  unfold firstNode?
  rw [List.filterMap_cons]
  cases action.node? with
  | none => rfl
  | some node =>
      rw [List.find?_cons, Option.filter_some]
      cases decide (node.key = key) <;> rfl

theorem firstNode?_append
    (front back : List Action)
    (key : String) :
    firstNode? (front ++ back) key = (firstNode? front key).or (firstNode? back key) := by
  unfold firstNode?
  rw [List.filterMap_append, List.find?_append]

/-- A view that all nodes for a key share is that of the first. -/
theorem map_firstNode?
    {α : Type}
    {actions : List Action}
    {key : String}
    {view : Node → α}
    {shared : α}
    {present : Prop}
    [Decidable present]
    (agree : ∀ node ∈ actions.filterMap Action.node?, node.key = key →
      present ∧ view node = shared)
    (found : present → ∃ node ∈ actions.filterMap Action.node?, node.key = key) :
    (firstNode? actions key).map view = if present then some shared else none := by
  unfold firstNode?
  cases first : (actions.filterMap Action.node?).find? (·.key = key) with
  | none =>
      have absent : ¬present := by
        intro isPresent
        obtain ⟨node, member, sameKey⟩ := found isPresent
        exact List.find?_eq_none.mp first node member (decide_eq_true sameKey)
      rw [if_neg absent]
      rfl
  | some node =>
      have sameKey : node.key = key := by simpa using List.find?_some first
      obtain ⟨isPresent, seen⟩ := agree node (List.mem_of_find?_eq_some first) sameKey
      rw [if_pos isPresent, Option.map_some, seen]

/-- A node that is there stays; else the action may bring it. -/
theorem get?_nodes_perform
    (diagram : Diagram)
    (action : Action)
    (key : String) :
    (diagram.perform action).nodes.get? key =
      (diagram.nodes.get? key).or (action.node?.filter (·.key = key)) := by
  cases action with
  | connect edge => simp [perform, addEdge, Action.node?]
  | place placed component shape risk =>
      simp only [perform, addNode, Action.node?]
      split
      · rename_i known
        unfold OrderedMap.contains at known
        by_cases here : placed = key
        · subst here
          rw [Option.or_of_isSome known]
        · rw [Option.filter_some]
          simp [here]
      · rename_i unknown
        unfold OrderedMap.contains at unknown
        rw [OrderedMap.get?_insert]
        by_cases here : placed = key
        · subst here
          rw [Option.not_isSome_iff_eq_none.mp unknown, Option.filter_some]
          simp
        · have elsewhere : ¬key = placed := fun equal => here equal.symm
          rw [Option.filter_some]
          simp [here, elsewhere]

/-- Of all actions for a key, the first decides; a node that was there before stays. -/
theorem get?_nodes_foldl_perform
    (diagram : Diagram)
    (actions : List Action)
    (key : String) :
    (actions.foldl perform diagram).nodes.get? key =
      (diagram.nodes.get? key).or (firstNode? actions key) := by
  induction actions generalizing diagram with
  | nil => simp [firstNode?]
  | cons action rest inductionHypothesis =>
      rw [List.foldl_cons, inductionHypothesis, get?_nodes_perform, firstNode?_cons,
        Option.or_assoc]

/-! ## The actions of interactions and flows -/

/-- The action of a step, if the index knows the component that it places. -/
def stepAction?
    (index : ComponentIndex)
    (interaction : Interaction) :
    DiagramStep → Option Action
  | .place key =>
      (index.get? key).map fun record =>
        .place key record.component .box (some (interaction.risk key))
  | .connect source dest contributions =>
      some (.connect (Contribution.edge source dest contributions))

theorem step_eq_perform
    (index : ComponentIndex)
    (interaction : Interaction)
    (diagram : Diagram)
    (step : DiagramStep)
    {action : Action}
    (known : stepAction? index interaction step = some action) :
    diagram.step index interaction step = .ok (diagram.perform action) := by
  cases step with
  | place key =>
      obtain ⟨record, found, rfl⟩ := Option.map_eq_some_iff.mp known
      simp [Diagram.step, found, perform]
  | connect source dest contributions =>
      obtain rfl := Option.some.inj known
      rfl

/-- Steps that only place what the index knows all succeed. -/
theorem run_eq_foldl_perform
    (index : ComponentIndex)
    (interaction : Interaction)
    (diagram : Diagram)
    (steps : List DiagramStep)
    (known : ∀ key, .place key ∈ steps → key ∈ index.keys) :
    diagram.run index interaction steps =
      ((steps.filterMap (stepAction? index interaction)).foldl perform diagram, none) := by
  induction steps generalizing diagram with
  | nil => rfl
  | cons step rest inductionHypothesis =>
      have isAction : ∃ action, stepAction? index interaction step = some action := by
        cases step with
        | place key =>
            have indexed := known key List.mem_cons_self
            obtain ⟨record, found⟩ := OrderedMap.mem_keys_iff.mp indexed
            exact ⟨_, by rw [stepAction?, found, Option.map_some]⟩
        | connect source dest contributions => exact ⟨_, rfl⟩
      obtain ⟨action, isAction⟩ := isAction
      have restKnown : ∀ key, .place key ∈ rest → key ∈ index.keys := fun key member =>
        known key (List.mem_cons_of_mem step member)
      rw [run, step_eq_perform index interaction diagram step isAction, List.filterMap_cons,
        isAction]
      exact inductionHypothesis (diagram.perform action) restKnown

end Diagram

/-- Both ends of a flow are placed before it connects them. -/
def Flow.actions (flow : Flow) : List Diagram.Action :=
  [.place flow.source.key flow.source .oval none, .place flow.dest.key flow.dest .oval none,
    .connect flow.edge]

theorem Diagram.addFlows_eq_foldl_perform
    (diagram : Diagram)
    (functions : OrderedMap String Declaration) :
    diagram.addFlows functions =
      ((functions.values.flatMap Declaration.flows).flatMap Flow.actions).foldl
        Diagram.perform diagram := by
  rw [List.foldl_flatMap]
  rfl

end ThreatModel
