import ThreatModel.Proofs.Diagram.Edges
import ThreatModel.Proofs.Diagram.WellFormed
import ThreatModel.Proofs.OrderedMap.Growth

/-!
Contract: what is in a diagram stays in it as it is, whatever is added.

Owns:
- when a diagram extends another;
- that each action extends the diagram, from any state;
- the actions that an addition performs, up to the first component that is missing,
  and that after additions the first action for a key has decided its node.

Does not own: which components an addition places.
-/

namespace ThreatModel

/-- The cluster may have more nodes, behind those that it had. -/
structure Cluster.Extends (before after : Cluster) : Prop where
  key : after.key = before.key
  label : after.label = before.label
  nodes : before.nodes <+: after.nodes

namespace Cluster.Extends

theorem refl (cluster : Cluster) : cluster.Extends cluster :=
  ⟨rfl, rfl, List.prefix_refl cluster.nodes⟩

theorem trans
    (first second third : Cluster)
    (before : first.Extends second)
    (after : second.Extends third) :
    first.Extends third where
  key := after.key.trans before.key
  label := after.label.trans before.label
  nodes := before.nodes.trans after.nodes

end Cluster.Extends

namespace Diagram

/-! ## Extensions -/

/-- Nodes and edges from before come first, as they were; so do clusters, which keep their labels
and may have more nodes. -/
structure Extends (before after : Diagram) : Prop where
  nodes : before.nodes.Extends Eq after.nodes
  clusters : before.clusters.Extends Cluster.Extends after.clusters
  edges : before.edges <+: after.edges

namespace Extends

theorem refl (diagram : Diagram) : diagram.Extends diagram where
  nodes := .refl (fun _ => rfl) diagram.nodes
  clusters := .refl Cluster.Extends.refl diagram.clusters
  edges := List.prefix_refl diagram.edges

theorem trans
    {first second third : Diagram}
    (before : first.Extends second)
    (after : second.Extends third) :
    first.Extends third where
  nodes := before.nodes.trans after.nodes fun _ _ _ => Eq.trans
  clusters := before.clusters.trans after.clusters Cluster.Extends.trans
  edges := before.edges.trans after.edges

/-- A node is added under a new key, and its cluster is opened or gets one node more. -/
theorem addNode
    (diagram : Diagram)
    (key : String)
    (component : Component)
    (shape : NodeShape)
    (risk : Option Risk) :
    diagram.Extends (diagram.addNode key component shape risk) := by
  by_cases known : diagram.nodes.contains key = true
  · rw [addNode_of_known component shape risk known]
    exact refl diagram
  rw [Diagram.addNode, if_neg known]
  refine ⟨.alter (fun _ => rfl) ?_, .alter Cluster.Extends.refl ?_, List.prefix_refl diagram.edges⟩
  · intro node found
    have isThere : diagram.nodes.contains key = true := by
      rw [OrderedMap.contains, found, Option.isSome_some]
    exact absurd isThere known
  · intro cluster _
    exact ⟨rfl, rfl, List.prefix_append cluster.nodes [key]⟩

/-- The step lemma: an action extends the diagram, in whatever state it is. -/
theorem perform
    (diagram : Diagram)
    (action : Action) :
    diagram.Extends (diagram.perform action) := by
  cases action with
  | place key component shape risk => exact addNode diagram key component shape risk
  | connect edge =>
      exact
        { nodes := (refl diagram).nodes
          clusters := (refl diagram).clusters
          edges := List.prefix_append diagram.edges [edge] }

/-- The run lemma. -/
theorem foldl_perform
    (diagram : Diagram)
    (actions : List Action) :
    diagram.Extends (actions.foldl Diagram.perform diagram) := by
  induction actions generalizing diagram with
  | nil => exact refl diagram
  | cons action rest inductionHypothesis =>
      exact (perform diagram action).trans (inductionHypothesis (diagram.perform action))

end Extends

/-! ## The actions of additions -/

/-- The actions of steps, up to the first step that places a component that is missing. -/
def performed
    (index : ComponentIndex)
    (interaction : Interaction) :
    List DiagramStep → List Action
  | [] => []
  | step :: rest =>
      match stepAction? index interaction step with
      | none => []
      | some action => action :: performed index interaction rest

/-- Steps leave behind what their actions have built, whether or not they come to their end. -/
theorem fst_run
    (index : ComponentIndex)
    (interaction : Interaction)
    (diagram : Diagram)
    (steps : List DiagramStep) :
    (diagram.run index interaction steps).1 =
      (performed index interaction steps).foldl perform diagram := by
  induction steps generalizing diagram with
  | nil => rfl
  | cons step rest inductionHypothesis =>
      cases known : stepAction? index interaction step with
      | some action =>
          rw [run, performed, step_eq_perform index interaction diagram step known, known]
          exact inductionHypothesis (diagram.perform action)
      | none =>
          cases step with
          | place key =>
              have missing : index.get? key = none := Option.map_eq_none_iff.mp known
              rw [run, performed, known, Diagram.step, missing]
              rfl
          | connect source dest contributions => cases known

/-- What an addition does to a diagram. An interaction does nothing more once a component is
missing. -/
def Addition.actions
    (index : ComponentIndex) :
    Addition → List Action
  | .interaction added => performed index added added.steps
  | .flow added => added.actions

theorem absorb_eq_foldl_perform
    (index : ComponentIndex)
    (diagram : Diagram)
    (addition : Addition) :
    diagram.absorb index addition = (addition.actions index).foldl perform diagram := by
  cases addition with
  | interaction interaction => exact fst_run index interaction diagram interaction.steps
  | flow flow => rfl

theorem foldl_absorb_eq_foldl_perform
    (index : ComponentIndex)
    (diagram : Diagram)
    (additions : List Addition) :
    additions.foldl (absorb index) diagram =
      (additions.flatMap (Addition.actions index)).foldl perform diagram := by
  rw [List.foldl_flatMap]
  congr 1
  funext diagram addition
  exact absorb_eq_foldl_perform index diagram addition

/-! ## Additions rewrite nothing -/

/-- Whatever is added to whatever diagram, and wherever an interaction stops, nothing that was there
is rewritten: the first action for a key decides its node for good, and the first spelling of a zone
decides the label of its cluster. -/
theorem extends_additions
    (index : ComponentIndex)
    (diagram : Diagram)
    (additions : List Addition) :
    let after := additions.foldl (absorb index) diagram
    diagram.Extends after ∧
      (∀ key,
        after.nodes.get? key =
          (diagram.nodes.get? key).or
            (firstNode? (additions.flatMap (Addition.actions index)) key)) ∧
      (∀ key node, diagram.nodes.get? key = some node → after.nodes.get? key = some node) ∧
      ∀ zone cluster, diagram.clusters.get? zone = some cluster →
        ∃ later, after.clusters.get? zone = some later ∧ later.label = cluster.label := by
  intro after
  have built : after = (additions.flatMap (Addition.actions index)).foldl perform diagram :=
    foldl_absorb_eq_foldl_perform index diagram additions
  have extended : diagram.Extends after := by
    rw [built]
    exact .foldl_perform diagram _
  refine ⟨extended, ?_, ?_, ?_⟩
  · intro key
    rw [built]
    exact get?_nodes_foldl_perform diagram _ key
  · intro key node found
    obtain ⟨later, foundLater, rfl⟩ := extended.nodes.values key node found
    exact foundLater
  · intro zone cluster found
    obtain ⟨later, foundLater, grown⟩ := extended.clusters.values zone cluster found
    exact ⟨later, foundLater, grown.label⟩

/-- A service that is exposed, drawn as a box. -/
def serviceNode : Node :=
  ⟨"web-api", "API", "web", .box, some .exposed⟩

def serviceDiagram : Diagram where
  clusters := .ofList [("web", ⟨"web", "Web", ["web-api"]⟩)]
  nodes := .ofList [("web-api", serviceNode)]

/-- All that is known of the components; the rows that the service calls are not among them. -/
def serviceIndex : ComponentIndex :=
  .ofList [("web-api", .ofComponent ⟨"Web", "API"⟩), ("web-logs", .ofComponent ⟨"WEB", "Logs"⟩)]

/-- The service calls its logs, and rows of no known component. -/
def halfKnown : Interaction where
  edges := .ofList
    [("web-api", .ofList [("web-logs", [⟨"log", 0, 0⟩]), ("data-rows", [⟨"read", 0, 0⟩])])]

/-- A flow from the service, spelled in another way. -/
def serviceFlow : Flow :=
  ⟨.sends, "keys", ⟨"WEB", "a p i"⟩, ⟨"web", "Cache"⟩, ""⟩

/-- The box stays a box with its risk though a flow ends there, and the cluster keeps its label
though the interaction breaks off after a node with another spelling of the zone. -/
theorem serviceNode_kept :
    serviceDiagram.nodes.get? "web-api" = some serviceNode ∧
      (serviceDiagram.addInteraction serviceIndex halfKnown).2 = some (.missing "data-rows") ∧
      let after := [.interaction halfKnown, .flow serviceFlow].foldl (absorb serviceIndex)
        serviceDiagram
      serviceDiagram.Extends after ∧
        after.nodes.keys = ["web-api", "web-logs", "web-cache"] ∧
        after.nodes.get? "web-api" = some serviceNode ∧
        ∃ later, after.clusters.get? "web" = some later ∧ later.label = "Web" := by
  obtain ⟨extended, _, keeps, labelled⟩ := extends_additions serviceIndex serviceDiagram
    [.interaction halfKnown, .flow serviceFlow]
  have found : serviceDiagram.nodes.get? "web-api" = some serviceNode := by decide
  have fails : (serviceDiagram.addInteraction serviceIndex halfKnown).2 =
      some (.missing "data-rows") := by
    decide +kernel
  have keys : ([.interaction halfKnown, .flow serviceFlow].foldl (absorb serviceIndex)
      serviceDiagram).nodes.keys = ["web-api", "web-logs", "web-cache"] := by
    decide +kernel
  exact ⟨found, fails, extended, keys, keeps "web-api" serviceNode found,
    labelled "web" ⟨"web", "Web", ["web-api"]⟩ (by decide)⟩

end Diagram

end ThreatModel
