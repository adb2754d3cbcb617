import Mathlib.Data.Multiset.Basic
import ThreatModel.Proofs.Component.Keys
import ThreatModel.Proofs.Diagram.Drawn
import ThreatModel.Proofs.Diagram.WellFormed
import ThreatModel.Proofs.Interaction.Order
import ThreatModel.Proofs.OrderedMap.Rows
import ThreatModel.Proofs.Text.Marks

/-!
Contract: diagrams of functions and calls that come in another order.

Owns:
- when two diagrams are alike: the same but for the labels of nodes and clusters and
  for the order of everything;
- the cluster of a node, which its key determines;
- that the same functions and calls make alike diagrams in whatever order.

Does not own: where the functions come from.
-/

namespace ThreatModel

open ThreatModel.Text

theorem ne_nil_congr
    {α : Type}
    {list other : List α}
    (reordered : list.Perm other) :
    list ≠ [] ↔ other ≠ [] := by
  rw [← List.length_pos_iff, ← List.length_pos_iff, reordered.length_eq]

/-! ## Alike diagrams -/

/-- What remains of a node without its label. -/
def Node.unlabelled (node : Node) : Appearance × String :=
  (node.appearance, node.cluster)

/-- An edge whose labels are in no order. -/
structure UnorderedEdge where
  source : String
  dest : String
  kind : EdgeKind
  labels : Multiset EdgeLabel
  color : String
deriving DecidableEq

def DiagramEdge.unordered (edge : DiagramEdge) : UnorderedEdge :=
  ⟨edge.source, edge.dest, edge.kind, edge.labels, edge.color⟩

namespace Diagram

/-- The edges of calls. -/
def calls (diagram : Diagram) : List DiagramEdge :=
  diagram.edges.filter (·.kind.risk?.isSome)

/-- The edges of flows. -/
def flows (diagram : Diagram) : List DiagramEdge :=
  diagram.edges.filter (·.kind.risk?.isNone)

/-- Two diagrams have the same nodes in the same clusters, the same edges of calls and the same
edges of flows. -/
structure Alike (left right : Diagram) : Prop where
  nodes : ∀ key,
    (left.nodes.get? key).map Node.unlabelled = (right.nodes.get? key).map Node.unlabelled
  clusters : left.clusters.keys.Perm right.clusters.keys
  listed : ∀ zone, (left.listed zone).Perm (right.listed zone)
  calls : (left.calls.map DiagramEdge.unordered).Perm (right.calls.map DiagramEdge.unordered)
  flows : left.flows.Perm right.flows

/-! ## Clusters -/

/-- The zone in a key ends before the first dash. -/
theorem Identifies.cluster_unique
    {left right : Diagram}
    {key : String}
    {node other : Node}
    (isNode : left.Identifies key node)
    (isOther : right.Identifies key other) :
    node.cluster = other.cluster := by
  obtain ⟨cluster, _, isCluster⟩ := isNode.cluster_eq
  obtain ⟨otherCluster, _, isOtherCluster⟩ := isOther.cluster_eq
  have isNormal := Component.isNormal_normalize cluster.label
  have otherNormal := Component.isNormal_normalize otherCluster.label
  rw [← isCluster] at isNormal
  rw [← isOtherCluster] at otherNormal
  exact (Component.joined_inj isNormal otherNormal (isNode.key_eq.symm.trans isOther.key_eq)).1

theorem WellFormed.mem_clusters_iff
    {diagram : Diagram}
    (wellFormed : diagram.WellFormed)
    {zone : String} :
    zone ∈ diagram.clusters.keys ↔ diagram.listed zone ≠ [] := by
  cases found : diagram.clusters.get? zone with
  | none => simp [listed, found, OrderedMap.get?_eq_none_iff.mp found]
  | some cluster =>
      have isKey : zone ∈ diagram.clusters.keys :=
        List.mem_map_of_mem (OrderedMap.get?_eq_some_iff.mp found)
      have inhabited := wellFormed.inhabited zone cluster found
      simp [listed, found, isKey, inhabited]

/-- Where the nodes are the same up to labels, so is what the clusters list. -/
theorem listed_perm
    {left right : Diagram}
    (leftFormed : left.WellFormed)
    (rightFormed : right.WellFormed)
    (sameNodes : ∀ key,
      (left.nodes.get? key).map Node.unlabelled = (right.nodes.get? key).map Node.unlabelled)
    (zone : String) :
    (left.listed zone).Perm (right.listed zone) := by
  rw [List.perm_iff_count]
  intro key
  obtain ⟨noLeft, noRight⟩ | ⟨node, other, found, otherFound, sameView⟩ :=
    map_eq_map_cases (sameNodes key)
  · have notLeft : key ∉ left.listed zone := fun member =>
      OrderedMap.get?_eq_none_iff.mp noLeft (leftFormed.listed_nodes zone key member)
    have notRight : key ∉ right.listed zone := fun member =>
      OrderedMap.get?_eq_none_iff.mp noRight (rightFormed.listed_nodes zone key member)
    rw [List.count_eq_zero_of_not_mem notLeft, List.count_eq_zero_of_not_mem notRight]
  · have sameCluster : node.cluster = other.cluster := congrArg Prod.snd sameView
    rw [leftFormed.listed_once key node found, rightFormed.listed_once key other otherFound,
      sameCluster]

/-! ## Diagrams of the same functions and calls -/

theorem wellFormed_drawn
    (functions : OrderedMap String Declaration)
    (graph : CallGraph) :
    (drawn functions graph).WellFormed :=
  wellFormed_of_ofFunctions (ofFunctions_eq_drawn functions graph)

theorem identified_drawn
    (functions : OrderedMap String Declaration)
    (graph : CallGraph) :
    (drawn functions graph).Identified := by
  apply Identified.empty.foldl_perform
  intro action member
  rcases List.mem_append.mp member with member | member
  · exact keyed_callActions functions graph action member
  · exact keyed_flowActions functions action member

theorem calls_drawn
    (functions : OrderedMap String Declaration)
    (graph : CallGraph) :
    (drawn functions graph).calls =
      (Interaction.ofCalls functions graph).linkedPairs.map (callEdge functions graph) := by
  rw [calls, edges_drawn, List.filter_append, List.filter_eq_self.mpr, List.filter_eq_nil_iff.mpr,
    List.append_nil]
  · intro edge member
    obtain ⟨flow, _, rfl⟩ := List.mem_map.mp member
    exact Bool.false_ne_true
  · intro edge member
    obtain ⟨ends, _, rfl⟩ := List.mem_map.mp member
    rfl

theorem flows_drawn
    (functions : OrderedMap String Declaration)
    (graph : CallGraph) :
    (drawn functions graph).flows =
      (functions.values.flatMap Declaration.flows).map Flow.edge := by
  rw [flows, edges_drawn, List.filter_append, List.filter_eq_nil_iff.mpr, List.filter_eq_self.mpr,
    List.nil_append]
  · intro edge member
    obtain ⟨flow, _, rfl⟩ := List.mem_map.mp member
    rfl
  · intro edge member
    obtain ⟨ends, _, rfl⟩ := List.mem_map.mp member
    exact Bool.false_ne_true

theorem gravest_congr
    {callees others : List Declaration}
    (reordered : callees.Perm others) :
    gravest callees = gravest others := by
  simp only [gravest, reordered.mem_iff]

section Reordered

variable
  {functions others : OrderedMap String Declaration}
  {graph other : CallGraph}
  (sameFunctions : functions.entries.Perm others.entries)
  (reordered : graph.Reordered other)

include sameFunctions reordered

theorem joinedCallees_perm (ends : String × String) :
    (Interaction.joinedCallees functions graph ends).Perm
      (Interaction.joinedCallees others other ends) :=
  ((Interaction.calls_perm sameFunctions reordered).filter _).map _

theorem linkedPairs_perm :
    (Interaction.ofCalls functions graph).linkedPairs.Perm
      (Interaction.ofCalls others other).linkedPairs := by
  rw [List.perm_ext_iff_of_nodup (Interaction.nodup_linkedPairs _)
    (Interaction.nodup_linkedPairs _)]
  intro ends
  rw [mem_linkedPairs_iff, mem_linkedPairs_iff]
  exact ne_nil_congr (joinedCallees_perm sameFunctions reordered ends)

theorem unordered_callEdge (ends : String × String) :
    (callEdge functions graph ends).unordered = (callEdge others other ends).unordered := by
  have joined := joinedCallees_perm sameFunctions reordered ends
  have sameLabels : ((Interaction.joinedCallees functions graph ends).map labelOf).eraseDups.Perm
      ((Interaction.joinedCallees others other ends).map labelOf).eraseDups := by
    rw [List.perm_ext_iff_of_nodup (OrderedMap.nodup_eraseDups _) (OrderedMap.nodup_eraseDups _)]
    intro label
    rw [List.mem_eraseDups, List.mem_eraseDups, (joined.map labelOf).mem_iff]
  rw [DiagramEdge.unordered, callEdge, gravest_congr (joined.map Prod.snd),
    Multiset.coe_eq_coe.mpr sameLabels]
  rfl

theorem boxOf_congr (key : String) : boxOf functions graph key = boxOf others other key := by
  simp only [boxOf, Interaction.visitStates_congr sameFunctions reordered]

theorem unlabelled_drawn (key : String) :
    ((drawn functions graph).nodes.get? key).map Node.unlabelled =
      ((drawn others other).nodes.get? key).map Node.unlabelled := by
  have sameFlows : (functions.values.flatMap Declaration.flows).Perm
      (others.values.flatMap Declaration.flows) :=
    (sameFunctions.map Prod.snd).flatMap_right Declaration.flows
  have sameEnds : key ∈ flowEnds functions ↔ key ∈ flowEnds others :=
    (sameFlows.flatMap_right _).mem_iff
  have shown : ((drawn functions graph).nodes.get? key).map Node.appearance =
      ((drawn others other).nodes.get? key).map Node.appearance := by
    simp only [map_appearance_drawn, Interaction.boxed_congr sameFunctions reordered,
      boxOf_congr sameFunctions reordered, sameEnds]
  obtain ⟨noNode, noNext⟩ | ⟨node, next, found, nextFound, sameAppearance⟩ :=
    map_eq_map_cases shown
  · rw [noNode, noNext]
  · have isNode := (identified_drawn functions graph).nodes key node found
    have isNext := (identified_drawn others other).nodes key next nextFound
    rw [found, nextFound, Option.map_some, Option.map_some, Node.unlabelled, Node.unlabelled,
      sameAppearance, isNode.cluster_unique isNext]

/-- The order of functions, callers and callees does not matter but for labels and order. -/
theorem drawn_alike : (drawn functions graph).Alike (drawn others other) := by
  have sameNodes := unlabelled_drawn sameFunctions reordered
  have leftFormed := wellFormed_drawn functions graph
  have rightFormed := wellFormed_drawn others other
  have sameListed := listed_perm leftFormed rightFormed sameNodes
  constructor
  · exact sameNodes
  · rw [List.perm_ext_iff_of_nodup (OrderedMap.keys_nodup _) (OrderedMap.keys_nodup _)]
    intro zone
    rw [leftFormed.mem_clusters_iff, rightFormed.mem_clusters_iff]
    exact ne_nil_congr (sameListed zone)
  · exact sameListed
  · rw [calls_drawn, calls_drawn, List.map_map, List.map_map]
    have sameEdges : DiagramEdge.unordered ∘ callEdge functions graph =
        DiagramEdge.unordered ∘ callEdge others other :=
      funext (unordered_callEdge sameFunctions reordered)
    rw [sameEdges]
    exact (linkedPairs_perm sameFunctions reordered).map _
  · rw [flows_drawn, flows_drawn]
    exact ((sameFunctions.map Prod.snd).flatMap_right Declaration.flows).map Flow.edge

end Reordered

end Diagram

end ThreatModel
