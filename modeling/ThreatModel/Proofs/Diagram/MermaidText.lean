import ThreatModel.Proofs.Diagram.Labels
import ThreatModel.Proofs.Diagram.Outline
import ThreatModel.Proofs.Text.Lines

/-!
Contract: the Mermaid text of a diagram tells its direction and its outline.

Owns:
- the outline of a diagram, and its lines as those that are written;
- when an outline can be read, and that the outline of texts that were read can;
- that two such diagrams with one text have one direction and one outline.

Does not own: what a reader of the text makes of a line.
-/

namespace ThreatModel.Diagram

open ThreatModel.Component
open ThreatModel.Text
open ThreatModel.Diagram.Mermaid

/-! ## The lines that are written -/

def nodeOutline (node : Node) : NodeOutline :=
  ⟨node.key, label node.label, node.shape, node.color?⟩

def edgeOutline (edge : DiagramEdge) : EdgeOutline :=
  ⟨edge.source, edge.dest, edge.labels.map fun entry => label entry.text, edge.color⟩

/-- The clusters with their nodes and the edges of a diagram, in order and with labels as they are
written. -/
def outline (diagram : Diagram) : Outline where
  clusters := diagram.clusters.values.map fun cluster =>
    ⟨cluster.key, label cluster.label, (diagram.nodesOf cluster).map nodeOutline⟩
  edges := diagram.edges.map edgeOutline

/-- The heading, and the lines below it. -/
def drawing
    (diagram : Diagram)
    (direction : RankDirection) :
    List DrawingLine :=
  .heading direction :: diagram.outline.lines

theorem zipWith_nodeLine (members : List Node) :
    List.zipWith nodeLine members (members.map Node.key) =
      ((members.map nodeOutline).map NodeOutline.line).map DrawingLine.text := by
  rw [List.zipWith_map_right, List.zipWith_self, List.map_map, List.map_map]
  rfl

theorem zipWith_nodeStyle? (members : List Node) :
    (List.zipWith nodeStyle? members (members.map Node.key)).filterMap id =
      ((members.map nodeOutline).filterMap NodeOutline.style?).map DrawingLine.text := by
  rw [List.zipWith_map_right, List.zipWith_self, List.filterMap_map, List.filterMap_map,
    List.map_filterMap]
  apply List.filterMap_congr
  intro node _
  simp only [Function.comp_apply, id, nodeStyle?, NodeOutline.style?, nodeOutline, Option.map_map]
  rfl

theorem WellFormed.clusterLines_eq
    {diagram : Diagram}
    (wellFormed : diagram.WellFormed)
    {cluster : Cluster}
    (isCluster : cluster ∈ diagram.clusters.values) :
    clusterLines cluster (diagram.nodesOf cluster) =
      (ClusterOutline.block ⟨cluster.key, label cluster.label,
        (diagram.nodesOf cluster).map nodeOutline⟩).map DrawingLine.text := by
  rw [clusterLines, ← wellFormed.map_key_nodesOf isCluster, zipWith_nodeLine,
    ClusterOutline.block, List.map_cons, List.map_append]
  rfl

theorem WellFormed.clusterStyles_eq
    {diagram : Diagram}
    (wellFormed : diagram.WellFormed)
    {cluster : Cluster}
    (isCluster : cluster ∈ diagram.clusters.values) :
    clusterStyles cluster (diagram.nodesOf cluster) =
      (((diagram.nodesOf cluster).map nodeOutline).filterMap NodeOutline.style?).map
        DrawingLine.text := by
  rw [clusterStyles, ← wellFormed.map_key_nodesOf isCluster, zipWith_nodeStyle?]

theorem WellFormed.map_text_blocks
    {diagram : Diagram}
    (wellFormed : diagram.WellFormed) :
    diagram.outline.blocks.map DrawingLine.text =
      diagram.clusters.values.flatMap fun cluster =>
        clusterLines cluster (diagram.nodesOf cluster) := by
  rw [Outline.blocks, outline, List.flatMap_map, List.map_flatMap]
  exact List.flatMap_congr fun cluster isCluster => (wellFormed.clusterLines_eq isCluster).symm

theorem map_text_edgeLines (diagram : Diagram) :
    diagram.outline.edgeLines.map DrawingLine.text = diagram.edges.map edgeLine := by
  rw [Outline.edgeLines, outline, List.map_map, List.map_map]
  rfl

theorem WellFormed.map_text_nodeStyles
    {diagram : Diagram}
    (wellFormed : diagram.WellFormed) :
    diagram.outline.nodeStyles.map DrawingLine.text =
      diagram.clusters.values.flatMap fun cluster =>
        clusterStyles cluster (diagram.nodesOf cluster) := by
  rw [Outline.nodeStyles, Outline.nodes, outline, List.flatMap_map, List.filterMap_flatMap,
    List.map_flatMap]
  exact List.flatMap_congr fun cluster isCluster => (wellFormed.clusterStyles_eq isCluster).symm

theorem map_text_edgeStyles (diagram : Diagram) :
    diagram.outline.edgeStyles.map DrawingLine.text =
      diagram.edges.zipIdx.map fun entry => edgeStyle entry.1 entry.2 := by
  rw [Outline.edgeStyles, outline, List.zipIdx_map, List.map_map, List.map_map]
  rfl

/-- What is written is the lines of the drawing. -/
theorem WellFormed.write_eq
    {diagram : Diagram}
    (wellFormed : diagram.WellFormed)
    (direction : RankDirection) :
    Mermaid.write diagram direction.name =
      .ok ("\n".intercalate ((diagram.drawing direction).map DrawingLine.text)) := by
  have written : Mermaid.lines diagram direction.name =
      .ok ((diagram.drawing direction).map DrawingLine.text) := by
    rw [Mermaid.lines, wellFormed.mapM_clusters Prod.mk, drawing, List.map_cons, Outline.lines,
      List.map_append, List.map_append, List.map_append, wellFormed.map_text_blocks,
      map_text_edgeLines, wellFormed.map_text_nodeStyles, map_text_edgeStyles,
      ← List.append_assoc, ← List.append_assoc]
    simp only [bind, Except.bind, pure, Except.pure, List.flatMap_map]
    rfl
  rw [Mermaid.write, written]
  rfl

theorem WellFormed.map_key_nodes_outline
    {diagram : Diagram}
    (wellFormed : diagram.WellFormed) :
    diagram.outline.nodes.map NodeOutline.key = diagram.listedKeys := by
  rw [Outline.nodes, outline, List.flatMap_map, List.map_flatMap, listedKeys]
  apply List.flatMap_congr
  intro cluster isCluster
  rw [List.map_map]
  exact wellFormed.map_key_nodesOf isCluster

/-! ## Outlines that can be read -/

/-- Nodes have distinct keys, and every line tells what it holds. -/
structure Outline.Legible (outline : Outline) : Prop where
  distinct : (outline.nodes.map NodeOutline.key).Nodup
  lines : ∀ line ∈ outline.lines, line.Legible

theorem map_text_inj
    {lines others : List DrawingLine}
    (legible : ∀ line ∈ lines, line.Legible)
    (otherLegible : ∀ line ∈ others, line.Legible)
    (same : lines.map DrawingLine.text = others.map DrawingLine.text) :
    lines = others := by
  induction lines generalizing others with
  | nil => exact (List.map_eq_nil_iff.mp same.symm).symm
  | cons head rest inductionHypothesis =>
      cases others with
      | nil => cases same
      | cons otherHead otherRest =>
          obtain ⟨sameHead, sameRest⟩ := List.cons.inj same
          have headRead := DrawingLine.text_inj (legible head List.mem_cons_self)
            (otherLegible otherHead List.mem_cons_self) sameHead
          have restRead := inductionHypothesis
            (fun line member => legible line (List.mem_cons_of_mem head member))
            (fun line member => otherLegible line (List.mem_cons_of_mem otherHead member)) sameRest
          rw [headRead, restRead]

namespace Outline.Legible

theorem drawing
    {diagram : Diagram}
    (legible : diagram.outline.Legible)
    (direction : RankDirection) :
    ∀ line ∈ diagram.drawing direction, line.Legible := by
  intro line member
  rcases List.mem_cons.mp member with rfl | below
  · trivial
  · exact legible.lines line below

/-- The text has the lines of the drawing and no others. -/
theorem textLines_eq
    {diagram : Diagram}
    (legible : diagram.outline.Legible)
    (direction : RankDirection) :
    textLines ("\n".intercalate ((diagram.drawing direction).map DrawingLine.text)) =
      (diagram.drawing direction).map DrawingLine.text := by
  refine textLines_intercalate (List.cons_ne_nil _ _) fun text (member : text ∈ List.map _ _) => ?_
  obtain ⟨line, isLine, rfl⟩ := List.mem_map.mp member
  exact DrawingLine.oneLine_text (legible.drawing direction line isLine)

theorem text_inj
    {diagram other : Diagram}
    (legible : diagram.outline.Legible)
    (otherLegible : other.outline.Legible)
    {direction otherDirection : RankDirection}
    (same : "\n".intercalate ((diagram.drawing direction).map DrawingLine.text) =
      "\n".intercalate ((other.drawing otherDirection).map DrawingLine.text)) :
    direction = otherDirection ∧ diagram.outline = other.outline := by
  have sameTexts := congrArg textLines same
  rw [legible.textLines_eq, otherLegible.textLines_eq] at sameTexts
  have sameLines := map_text_inj (legible.drawing direction) (otherLegible.drawing otherDirection)
    sameTexts
  obtain ⟨sameHeading, sameBelow⟩ := List.cons.inj sameLines
  exact ⟨DrawingLine.heading.inj sameHeading,
    Outline.lines_inj legible.distinct otherLegible.distinct sameBelow⟩

end Outline.Legible

/-! ## Diagrams of texts that were read -/

section Drawn

variable {functions : OrderedMap String Declaration} {graph : CallGraph}

variable (oneLine : OneLineFunctions functions)

include oneLine

theorem legible_cluster
    {cluster : Cluster}
    (isCluster : cluster ∈ (drawn functions graph).clusters.values) :
    IsNormal cluster.key ∧ Safe (label cluster.label) := by
  have keyed := keyed_drawn functions graph
  obtain ⟨zone, found⟩ := OrderedMap.mem_values_iff.mp isCluster
  have labelled := (labelled_drawn oneLine graph).clusters zone cluster found
  exact ⟨keyed.cluster_isNormal cluster isCluster, safe_label labelled⟩

theorem legible_node
    {node : Node}
    {cluster : Cluster}
    (isNode : node ∈ (drawn functions graph).nodesOf cluster) :
    (nodeOutline node).line.Legible := by
  have keyed := keyed_drawn functions graph
  obtain ⟨key, _, found⟩ := List.mem_filterMap.mp isNode
  have isKey : node.key ∈ (drawn functions graph).nodes.keys := by
    rw [(wellFormed_drawn functions graph).node_key key node found]
    exact OrderedMap.mem_keys_iff.mpr ⟨node, found⟩
  have labelled := (labelled_drawn oneLine graph).nodes key node found
  exact ⟨keyed.node_isKey node.key isKey, safe_label labelled, shape_of_get?_drawn found⟩

theorem legible_edge
    {edge : DiagramEdge}
    (isEdge : edge ∈ (drawn functions graph).edges) :
    (edgeOutline edge).line.Legible := by
  have keyed := keyed_drawn functions graph
  obtain ⟨sourceKnown, destKnown⟩ := (wellFormed_drawn functions graph).ends edge isEdge
  obtain ⟨inhabited, labelled⟩ := labels_of_mem_edges_drawn oneLine graph isEdge
  refine ⟨keyed.node_isKey _ sourceKnown, keyed.node_isKey _ destKnown, ?_, ?_⟩
  · simpa [edgeOutline] using inhabited
  · intro text member
    obtain ⟨entry, isEntry, rfl⟩ := List.mem_map.mp member
    exact safe_label (labelled entry isEntry)

theorem legible_outline_drawn : (drawn functions graph).outline.Legible := by
  have wellFormed := wellFormed_drawn functions graph
  constructor
  · rw [wellFormed.map_key_nodes_outline]
    exact wellFormed.nodup_listedKeys
  · intro line member
    simp only [Outline.lines, List.mem_append] at member
    rcases member with inBlocks | ofEdge | nodeStyle | edgeStyle
    · obtain ⟨_, isOutline, inBlock⟩ := List.mem_flatMap.mp inBlocks
      obtain ⟨cluster, isCluster, rfl⟩ := List.mem_map.mp isOutline
      rcases List.mem_cons.mp inBlock with rfl | rest
      · exact legible_cluster oneLine isCluster
      · rcases List.mem_append.mp rest with ofNode | closing
        · simp only [List.map_map, List.mem_map, Function.comp_apply] at ofNode
          obtain ⟨node, isNode, rfl⟩ := ofNode
          exact legible_node oneLine isNode
        · obtain rfl := List.mem_singleton.mp closing
          trivial
    · simp only [Outline.edgeLines, outline, List.map_map, List.mem_map, Function.comp_apply]
        at ofEdge
      obtain ⟨edge, isEdge, rfl⟩ := ofEdge
      exact legible_edge oneLine isEdge
    · obtain ⟨_, isOutline, styled⟩ := List.mem_filterMap.mp nodeStyle
      obtain ⟨_, isCluster, inCluster⟩ := List.mem_flatMap.mp isOutline
      obtain ⟨cluster, _, rfl⟩ := List.mem_map.mp isCluster
      obtain ⟨node, isNode, rfl⟩ := List.mem_map.mp inCluster
      obtain ⟨color, isColor, rfl⟩ := Option.map_eq_some_iff.mp styled
      exact ⟨(legible_node oneLine isNode).1, oneLine_nodeColor isColor⟩
    · simp only [Outline.edgeStyles, outline, List.zipIdx_map, List.map_map, List.mem_map,
        Function.comp_apply] at edgeStyle
      obtain ⟨⟨edge, number⟩, isNumbered, rfl⟩ := edgeStyle
      exact oneLine_edgeColor (List.fst_mem_of_mem_zipIdx isNumbered)

end Drawn

/-- Two diagrams of texts that were read, drawn along any call graphs and in any directions, have
one text just when they have one direction and one outline; and every line of a text is a line of
its own drawing. -/
theorem mermaid_text_eq_iff
    (files otherFiles : List (String × String))
    (graph otherGraph : CallGraph)
    (direction otherDirection : RankDirection) :
    let functions := (Ledger.readAll ∅ files).functions
    let otherFunctions := (Ledger.readAll ∅ otherFiles).functions
    ∃ diagram other text otherText,
      ofFunctions functions graph (.ofFunctions functions) = .ok diagram ∧
        ofFunctions otherFunctions otherGraph (.ofFunctions otherFunctions) = .ok other ∧
        Mermaid.write diagram direction.name = .ok text ∧
        Mermaid.write other otherDirection.name = .ok otherText ∧
        textLines text = (diagram.drawing direction).map DrawingLine.text ∧
        (text = otherText ↔ direction = otherDirection ∧ diagram.outline = other.outline) := by
  intro functions otherFunctions
  have oneLine := Ledger.oneLineFunctions_readAll files
  have otherOneLine := Ledger.oneLineFunctions_readAll otherFiles
  have built := ofFunctions_eq_drawn functions graph
  have otherBuilt := ofFunctions_eq_drawn otherFunctions otherGraph
  have legible : (drawn functions graph).outline.Legible := legible_outline_drawn oneLine
  have otherLegible : (drawn otherFunctions otherGraph).outline.Legible :=
    legible_outline_drawn otherOneLine
  refine ⟨_, _, _, _, built, otherBuilt, (wellFormed_drawn functions graph).write_eq direction,
    (wellFormed_drawn otherFunctions otherGraph).write_eq otherDirection,
    legible.textLines_eq direction, legible.text_inj otherLegible, ?_⟩
  rintro ⟨rfl, sameOutline⟩
  rw [drawing, drawing, sameOutline]

end ThreatModel.Diagram
