import ThreatModel.Proofs.Diagram.MermaidLines

/-!
Contract: the outline of a diagram, which its Mermaid lines determine.

Owns:
- the outline: clusters with their nodes, and edges, with labels as they are written;
- the lines of an outline, in their four parts;
- the reading of each part, and so of an outline from its lines.

Does not own: which outline a diagram has, or the text of a line.
-/

namespace ThreatModel.Diagram

open ThreatModel.Text
open ThreatModel.Diagram.Mermaid

/-! ## Outlines and their lines -/

structure NodeOutline where
  key : String
  label : String
  shape : NodeShape
  color : Option String
deriving DecidableEq

structure ClusterOutline where
  key : String
  label : String
  nodes : List NodeOutline
deriving DecidableEq

structure EdgeOutline where
  source : String
  dest : String
  labels : List String
  color : String
deriving DecidableEq

structure Outline where
  clusters : List ClusterOutline
  edges : List EdgeOutline
deriving DecidableEq

def NodeOutline.line (node : NodeOutline) : DrawingLine :=
  .node node.key node.label node.shape

def NodeOutline.style? (node : NodeOutline) : Option DrawingLine :=
  node.color.map (.nodeStyle node.key)

/-- The lines of a cluster, which tell everything but the colours of its nodes. -/
def ClusterOutline.block (cluster : ClusterOutline) : List DrawingLine :=
  .opening cluster.key cluster.label :: (cluster.nodes.map NodeOutline.line ++ [.closing])

def EdgeOutline.line (edge : EdgeOutline) : DrawingLine :=
  .edge edge.source edge.dest edge.labels

namespace Outline

def nodes (outline : Outline) : List NodeOutline :=
  outline.clusters.flatMap ClusterOutline.nodes

def blocks (outline : Outline) : List DrawingLine :=
  outline.clusters.flatMap ClusterOutline.block

def edgeLines (outline : Outline) : List DrawingLine :=
  outline.edges.map EdgeOutline.line

def nodeStyles (outline : Outline) : List DrawingLine :=
  outline.nodes.filterMap NodeOutline.style?

/-- Edges are numbered in their order. -/
def edgeStyles (outline : Outline) : List DrawingLine :=
  outline.edges.zipIdx.map fun (edge, number) => .edgeStyle number edge.color

/-- The lines below the heading. -/
def lines (outline : Outline) : List DrawingLine :=
  outline.blocks ++ (outline.edgeLines ++ (outline.nodeStyles ++ outline.edgeStyles))

/-! ## The four parts -/

/-- All lines are of these kinds. -/
def HaveKinds
    (kinds : List LineKind)
    (lines : List DrawingLine) :
    Prop :=
  ∀ line ∈ lines, line.kind ∈ kinds

section Parts

variable
  {kinds otherKinds : List LineKind}
  {front back other otherBack : List DrawingLine}

theorem HaveKinds.append
    (ofFront : HaveKinds kinds front)
    (ofBack : HaveKinds otherKinds back) :
    HaveKinds (kinds ++ otherKinds) (front ++ back) := by
  intro line member
  rcases List.mem_append.mp member with inFront | inBack
  · exact List.mem_append_left otherKinds (ofFront line inFront)
  · exact List.mem_append_right kinds (ofBack line inBack)

/-- The front ends where the kinds of lines change. -/
theorem append_inj_of_haveKinds
    (apart : ∀ kind ∈ otherKinds, kind ∉ kinds)
    (ofFront : HaveKinds kinds front)
    (ofOther : HaveKinds kinds other)
    (ofBack : HaveKinds otherKinds back)
    (ofOtherBack : HaveKinds otherKinds otherBack)
    (same : front ++ back = other ++ otherBack) :
    front = other ∧ back = otherBack := by
  have passes {lines : List DrawingLine} (ofLines : HaveKinds kinds lines) :
      ∀ line ∈ lines, decide (line.kind ∈ kinds) = true :=
    fun line member => decide_eq_true (ofLines line member)
  have fails {lines : List DrawingLine} (ofLines : HaveKinds otherKinds lines) :
      ∀ line ∈ lines, decide (line.kind ∈ kinds) = false :=
    fun line member => decide_eq_false (apart line.kind (ofLines line member))
  exact append_inj_of_test (passes ofFront) (passes ofOther) (fails ofBack) (fails ofOtherBack) same

end Parts

theorem blocks_haveKinds (outline : Outline) :
    HaveKinds [.opening, .node, .closing] outline.blocks := by
  intro line member
  obtain ⟨cluster, _, inBlock⟩ := List.mem_flatMap.mp member
  simp only [ClusterOutline.block, List.mem_cons, List.mem_append, List.mem_map, List.not_mem_nil,
    or_false] at inBlock
  rcases inBlock with rfl | ⟨node, _, rfl⟩ | rfl
  · exact List.mem_cons_self
  · exact List.mem_cons_of_mem _ List.mem_cons_self
  · exact List.mem_cons_of_mem _ (List.mem_cons_of_mem _ List.mem_cons_self)

theorem edgeLines_haveKinds (outline : Outline) : HaveKinds [.edge] outline.edgeLines := by
  intro line member
  obtain ⟨edge, _, rfl⟩ := List.mem_map.mp member
  exact List.mem_singleton.mpr rfl

theorem nodeStyles_haveKinds (outline : Outline) : HaveKinds [.nodeStyle] outline.nodeStyles := by
  intro line member
  obtain ⟨node, _, styled⟩ := List.mem_filterMap.mp member
  obtain ⟨color, _, rfl⟩ := Option.map_eq_some_iff.mp styled
  exact List.mem_singleton.mpr rfl

theorem edgeStyles_haveKinds (outline : Outline) : HaveKinds [.edgeStyle] outline.edgeStyles := by
  intro line member
  obtain ⟨numbered, _, rfl⟩ := List.mem_map.mp member
  exact List.mem_singleton.mpr rfl

/-- The parts come in order, and no two of them have lines of one kind. -/
theorem parts_inj
    {outline other : Outline}
    (same : outline.lines = other.lines) :
    outline.blocks = other.blocks ∧
      outline.edgeLines = other.edgeLines ∧
      outline.nodeStyles = other.nodeStyles ∧
      outline.edgeStyles = other.edgeStyles := by
  have styles (outline : Outline) :=
    outline.nodeStyles_haveKinds.append outline.edgeStyles_haveKinds
  have rest (outline : Outline) := outline.edgeLines_haveKinds.append (styles outline)
  obtain ⟨sameBlocks, sameRest⟩ := append_inj_of_haveKinds (by decide)
    outline.blocks_haveKinds other.blocks_haveKinds (rest outline) (rest other) same
  obtain ⟨sameEdges, sameStyles⟩ := append_inj_of_haveKinds (by decide)
    outline.edgeLines_haveKinds other.edgeLines_haveKinds (styles outline) (styles other) sameRest
  obtain ⟨sameNodeStyles, sameEdgeStyles⟩ := append_inj_of_haveKinds (by decide)
    outline.nodeStyles_haveKinds other.nodeStyles_haveKinds
    outline.edgeStyles_haveKinds other.edgeStyles_haveKinds sameStyles
  exact ⟨sameBlocks, sameEdges, sameNodeStyles, sameEdgeStyles⟩

/-! ## Clusters -/

/-- The colour that style lines give to a node. -/
def colorIn
    (styles : List DrawingLine)
    (key : String) :
    Option String :=
  styles.findSome? fun line =>
    match line with
    | .nodeStyle styled color => if styled = key then some color else none
    | _ => none

theorem colorIn_cons
    (head : NodeOutline)
    (rest : List NodeOutline)
    (key : String) :
    colorIn ((head :: rest).filterMap NodeOutline.style?) key =
      if head.key = key then
        head.color.or (colorIn (rest.filterMap NodeOutline.style?) key)
      else colorIn (rest.filterMap NodeOutline.style?) key := by
  cases color : head.color with
  | none =>
      rw [List.filterMap_cons_none (by rw [NodeOutline.style?, color]; rfl), Option.none_or, ite_id]
  | some shade =>
      rw [List.filterMap_cons_some (by rw [NodeOutline.style?, color]; rfl), colorIn,
        List.findSome?_cons]
      by_cases own : head.key = key
      · simp [own]
      · simp [own, colorIn]

theorem colorIn_eq_none
    {nodes : List NodeOutline}
    {key : String}
    (absent : key ∉ nodes.map NodeOutline.key) :
    colorIn (nodes.filterMap NodeOutline.style?) key = none := by
  induction nodes with
  | nil => rfl
  | cons head rest inductionHypothesis =>
      rw [List.map_cons, List.mem_cons, not_or] at absent
      rw [colorIn_cons, if_neg (Ne.symm absent.1), inductionHypothesis absent.2]

/-- A node without a colour has no style line, and no other node has its key. -/
theorem colorIn_eq_color
    {nodes : List NodeOutline}
    (distinct : (nodes.map NodeOutline.key).Nodup)
    {node : NodeOutline}
    (member : node ∈ nodes) :
    colorIn (nodes.filterMap NodeOutline.style?) node.key = node.color := by
  induction nodes with
  | nil => cases member
  | cons head rest inductionHypothesis =>
      rw [List.map_cons, List.nodup_cons] at distinct
      rw [colorIn_cons]
      rcases List.mem_cons.mp member with rfl | later
      · rw [if_pos rfl, colorIn_eq_none distinct.1, Option.or_none]
      · have differ : head.key ≠ node.key := fun same =>
          distinct.1 (same ▸ List.mem_map_of_mem later)
        rw [if_neg differ, inductionHypothesis distinct.2 later]

/-- The node of a line, in the colour that is given to its key. -/
def nodeIn (colors : String → Option String) : DrawingLine → NodeOutline
  | .node key label shape => ⟨key, label, shape, colors key⟩
  | _ => ⟨"", "", .box, none⟩

theorem map_nodeIn_line
    {colors : String → Option String}
    {nodes : List NodeOutline}
    (colored : ∀ node ∈ nodes, colors node.key = node.color) :
    (nodes.map NodeOutline.line).map (nodeIn colors) = nodes := by
  rw [List.map_map]
  refine (List.map_congr_left fun node member => ?_).trans (List.map_id nodes)
  simp only [Function.comp_apply, NodeOutline.line, nodeIn, colored node member, id]

/-- A cluster ends at the first closing line, and its nodes are the lines up to that. -/
theorem flatMap_block_inj
    {colors : String → Option String}
    {clusters others : List ClusterOutline}
    (colored : ∀ cluster ∈ clusters, ∀ node ∈ cluster.nodes, colors node.key = node.color)
    (otherColored : ∀ cluster ∈ others, ∀ node ∈ cluster.nodes, colors node.key = node.color)
    (same : clusters.flatMap ClusterOutline.block = others.flatMap ClusterOutline.block) :
    clusters = others := by
  have unclosed (nodes : List NodeOutline) : DrawingLine.closing ∉ nodes.map NodeOutline.line := by
    simp [NodeOutline.line]
  induction clusters generalizing others with
  | nil =>
      cases others with
      | nil => rfl
      | cons otherHead otherRest => cases same
  | cons head rest inductionHypothesis =>
      cases others with
      | nil => cases same
      | cons otherHead otherRest =>
          simp only [List.flatMap_cons, ClusterOutline.block, List.cons_append, List.append_assoc,
            List.nil_append, List.cons.injEq, DrawingLine.opening.injEq] at same
          obtain ⟨⟨sameKey, sameLabel⟩, sameBody⟩ := same
          obtain ⟨sameLines, sameRest⟩ :=
            append_cons_inj_of_first (unclosed head.nodes) (unclosed otherHead.nodes) sameBody
          have sameNodes : head.nodes = otherHead.nodes := by
            rw [← map_nodeIn_line (colored head List.mem_cons_self), sameLines,
              map_nodeIn_line (otherColored otherHead List.mem_cons_self)]
          have later := inductionHypothesis
            (fun cluster member => colored cluster (List.mem_cons_of_mem head member))
            (fun cluster member => otherColored cluster (List.mem_cons_of_mem otherHead member))
            sameRest
          obtain ⟨key, label, nodes⟩ := head
          cases sameKey
          cases sameLabel
          cases sameNodes
          rw [later]

/-! ## Edges -/

/-- The edge of its two lines. -/
def edgeOf : DrawingLine → DrawingLine → EdgeOutline
  | .edge source dest labels, .edgeStyle _ color => ⟨source, dest, labels, color⟩
  | _, _ => ⟨"", "", [], ""⟩

theorem zipWith_edgeOf
    (edges : List EdgeOutline)
    (first : Nat) :
    List.zipWith edgeOf (edges.map EdgeOutline.line)
        ((edges.zipIdx first).map fun (edge, number) => .edgeStyle number edge.color) =
      edges := by
  induction edges generalizing first with
  | nil => rfl
  | cons head rest inductionHypothesis =>
      rw [List.zipIdx_cons, List.map_cons, List.map_cons, List.zipWith_cons_cons,
        inductionHypothesis]
      rfl

/-! ## Outlines -/

theorem edges_eq_zipWith (outline : Outline) :
    List.zipWith edgeOf outline.edgeLines outline.edgeStyles = outline.edges :=
  zipWith_edgeOf outline.edges 0

theorem colored
    {outline : Outline}
    (distinct : (outline.nodes.map NodeOutline.key).Nodup) :
    ∀ cluster ∈ outline.clusters, ∀ node ∈ cluster.nodes,
      colorIn outline.nodeStyles node.key = node.color :=
  fun cluster isCluster _ member =>
    colorIn_eq_color distinct (List.mem_flatMap.mpr ⟨cluster, isCluster, member⟩)

/-- An outline of nodes with distinct keys is read back from its lines. -/
theorem lines_inj
    {outline other : Outline}
    (distinct : (outline.nodes.map NodeOutline.key).Nodup)
    (otherDistinct : (other.nodes.map NodeOutline.key).Nodup)
    (same : outline.lines = other.lines) :
    outline = other := by
  obtain ⟨sameBlocks, sameEdgeLines, sameNodeStyles, sameEdgeStyles⟩ := parts_inj same
  have sameClusters : outline.clusters = other.clusters := by
    refine flatMap_block_inj (colored distinct) ?_ sameBlocks
    rw [sameNodeStyles]
    exact colored otherDistinct
  have sameEdges : outline.edges = other.edges := by
    rw [← edges_eq_zipWith outline, sameEdgeLines, sameEdgeStyles, edges_eq_zipWith]
  cases outline
  cases other
  cases sameClusters
  cases sameEdges
  rfl

end Outline

end ThreatModel.Diagram
