import ThreatModel.Proofs.Diagram.MermaidText
import ThreatModel.Proofs.Text.Tags

/-!
Contract: drawings of texts that were read, and the tags of their Mermaid text.

Owns:
- a drawing, which there is for all texts, call graphs and directions;
- that the only tags of a drawing are the breaks between the labels of one edge.

Does not own: the page that shows a drawing.
-/

namespace ThreatModel

open ThreatModel.Text
open ThreatModel.Diagram.Mermaid

namespace Diagram

/-! ## What is written has no bracket -/

theorem unopened_identifier (text : String) : '<' ∉ (identifier text).toList := by
  have replaced : '<' ∉ (trim text.toList).map fun character =>
      if isAlphanumeric character then character else '_' := by
    intro member
    obtain ⟨character, _, written⟩ := List.mem_map.mp member
    by_cases plain : isAlphanumeric character = true
    · rw [if_pos plain] at written
      rw [written] at plain
      exact absurd plain (by decide +kernel)
    · rw [if_neg plain] at written
      exact absurd written (by decide)
  rw [identifier, String.toList_ofList, identifierChars]
  split
  · decide
  · rename_i first rest parted
    rw [parted] at replaced
    split
    · simpa using replaced
    · exact replaced

theorem unopened_label (text : String) : '<' ∉ (label text).toList := by
  intro member
  rw [label, String.toList_ofList, List.mem_filterMap] at member
  obtain ⟨character, _, kept⟩ := member
  rw [eq_newline_of_labelChar? (by decide) kept] at kept
  exact absurd kept (by decide)

theorem unopened_nodeColor
    {node : Node}
    {color : String}
    (colored : node.color? = some color) :
    '<' ∉ color.toList := by
  obtain ⟨risk, _, isColor⟩ := Option.bind_eq_some_iff.mp colored
  cases risk with
  | neutral => cases isColor
  | _ =>
      cases isColor
      decide

theorem unopened_edgeColor
    {functions : OrderedMap String Declaration}
    {graph : CallGraph}
    {edge : DiagramEdge}
    (isEdge : edge ∈ (drawn functions graph).edges) :
    '<' ∉ edge.color.toList := by
  have ofRisk (risk : Risk) : '<' ∉ risk.labelColor.toList := by
    cases risk <;> decide
  have ofDirection (direction : Direction) : '<' ∉ direction.color.toList := by
    cases direction <;> decide
  rw [edges_drawn] at isEdge
  rcases List.mem_append.mp isEdge with ofCalls | ofFlow
  · obtain ⟨ends, _, rfl⟩ := List.mem_map.mp ofCalls
    exact ofRisk _
  · obtain ⟨flow, _, rfl⟩ := List.mem_map.mp ofFlow
    exact ofDirection flow.direction

/-! ## The tags of lines -/

namespace Mermaid.DrawingLine

/-- The labels of an edge are parted by breaks. -/
def tags : DrawingLine → List String
  | edge _ _ labels => List.replicate (labels.length - 1) "<br/>"
  | _ => []

/-- Labels and colours have no opening bracket. -/
def Unopened : DrawingLine → Prop
  | opening _ label => '<' ∉ label.toList
  | node _ label _ => '<' ∉ label.toList
  | edge _ _ labels => ∀ label ∈ labels, '<' ∉ label.toList
  | nodeStyle _ color => '<' ∉ color.toList
  | edgeStyle _ color => '<' ∉ color.toList
  | _ => True

theorem tagged_edge
    {source dest : String}
    {labels : List String}
    (unopened : ∀ label ∈ labels, '<' ∉ label.toList) :
    Tagged (edge source dest labels).text (edge source dest labels).tags := by
  have breaks (count : Nat) :
      ["<br/>"].intercalate (List.replicate count ([] : List String)) =
        List.replicate (count - 1) "<br/>" := by
    induction count with
    | zero => rfl
    | succ count inductionHypothesis =>
        cases count with
        | zero => rfl
        | succ count =>
            rw [List.replicate_succ, List.replicate_succ, List.intercalate_cons_cons,
              ← List.replicate_succ, inductionHypothesis]
            rfl
  have ofLabels : Tagged ("<br/>".intercalate labels) (edge source dest labels).tags := by
    have ofBreak : Tagged "<br/>" ["<br/>"] := by decide
    have joined := ofBreak.intercalate fun label member => .of_unopened (unopened label member)
    rwa [List.map_const', breaks, List.map_id'] at joined
  have front : Tagged ("    " ++ identifier source ++ " -->|") [] :=
    ((Tagged.of_unopened (by decide)).append (.of_unopened (unopened_identifier source))).append
      (.of_unopened (by decide))
  have back : Tagged ("| " ++ identifier dest) [] :=
    (Tagged.of_unopened (by decide)).append (.of_unopened (unopened_identifier dest))
  have whole := (front.append ofLabels).append back
  rwa [List.nil_append, List.append_nil, ← String.append_assoc] at whole

/-- Only the breaks of an edge are tags. -/
theorem tagged_text
    {line : DrawingLine}
    (unopened : line.Unopened) :
    Tagged line.text line.tags := by
  cases line with
  | heading direction => exact .of_unopened (by cases direction <;> decide)
  | closing => exact .of_unopened (by decide)
  | opening zone label =>
      refine .of_unopened ?_
      have plain : '<' ∉ label.toList := unopened
      simp [toList_opening, unopened_identifier, plain]
  | node key label shape =>
      refine .of_unopened ?_
      have plain : '<' ∉ label.toList := unopened
      cases shape <;> simp [toList_node, unopened_identifier, plain, brackets]
  | edge source dest labels => exact tagged_edge unopened
  | nodeStyle key color =>
      refine .of_unopened ?_
      have plain : '<' ∉ color.toList := unopened
      simp [toList_nodeStyle, unopened_identifier, plain]
  | edgeStyle number color =>
      refine .of_unopened ?_
      have plain : '<' ∉ color.toList := unopened
      simp [toList_edgeStyle, Numeric.not_mem_toDigits, plain]

theorem flatMap_tags_of_haveKinds
    {kinds : List LineKind}
    (edgeless : LineKind.edge ∉ kinds)
    {lines : List DrawingLine}
    (ofLines : Outline.HaveKinds kinds lines) :
    lines.flatMap tags = [] := by
  rw [List.flatMap_eq_nil_iff]
  intro line member
  cases line with
  | edge source dest labels => exact absurd (ofLines _ member) edgeless
  | _ => rfl

end Mermaid.DrawingLine

/-! ## The tags of a diagram -/

variable (functions : OrderedMap String Declaration) (graph : CallGraph)

theorem unopened_drawing_drawn (direction : RankDirection) :
    ∀ line ∈ (drawn functions graph).drawing direction, line.Unopened := by
  intro line member
  simp only [drawing, Outline.lines, List.mem_cons, List.mem_append] at member
  rcases member with rfl | inBlocks | ofEdge | nodeStyle | edgeStyle
  · trivial
  · obtain ⟨_, isOutline, inBlock⟩ := List.mem_flatMap.mp inBlocks
    obtain ⟨cluster, _, rfl⟩ := List.mem_map.mp isOutline
    simp only [ClusterOutline.block, List.map_map, List.mem_cons, List.mem_append, List.mem_map,
      List.not_mem_nil, or_false] at inBlock
    rcases inBlock with rfl | ⟨node, _, rfl⟩ | rfl
    · exact unopened_label cluster.label
    · exact unopened_label node.label
    · trivial
  · simp only [Outline.edgeLines, outline, List.map_map, List.mem_map] at ofEdge
    obtain ⟨edge, _, rfl⟩ := ofEdge
    intro text isLabel
    obtain ⟨entry, _, rfl⟩ := List.mem_map.mp isLabel
    exact unopened_label entry.text
  · obtain ⟨_, isNode, styled⟩ := List.mem_filterMap.mp nodeStyle
    obtain ⟨_, isOutline, inCluster⟩ := List.mem_flatMap.mp isNode
    obtain ⟨cluster, _, rfl⟩ := List.mem_map.mp isOutline
    obtain ⟨node, _, rfl⟩ := List.mem_map.mp inCluster
    obtain ⟨color, isColor, rfl⟩ := Option.map_eq_some_iff.mp styled
    exact unopened_nodeColor isColor
  · simp only [Outline.edgeStyles, outline, List.zipIdx_map, List.map_map, List.mem_map]
      at edgeStyle
    obtain ⟨⟨edge, number⟩, isNumbered, rfl⟩ := edgeStyle
    exact unopened_edgeColor (List.fst_mem_of_mem_zipIdx isNumbered)

/-- Each edge has one break less than labels. -/
def breaks (diagram : Diagram) : List String :=
  diagram.edges.flatMap fun edge => List.replicate (edge.labels.length - 1) "<br/>"

theorem flatMap_tags_drawing
    (diagram : Diagram)
    (direction : RankDirection) :
    (diagram.drawing direction).flatMap DrawingLine.tags = diagram.breaks := by
  have blocks := DrawingLine.flatMap_tags_of_haveKinds (by decide) diagram.outline.blocks_haveKinds
  have nodeStyles :=
    DrawingLine.flatMap_tags_of_haveKinds (by decide) diagram.outline.nodeStyles_haveKinds
  have edgeStyles :=
    DrawingLine.flatMap_tags_of_haveKinds (by decide) diagram.outline.edgeStyles_haveKinds
  rw [drawing, List.flatMap_cons, Outline.lines, List.flatMap_append, List.flatMap_append,
    List.flatMap_append, blocks, nodeStyles, edgeStyles]
  simp [Outline.edgeLines, outline, List.flatMap_map, DrawingLine.tags, EdgeOutline.line,
    edgeOutline, breaks]

end Diagram

/-! ## Drawings -/

/-- The Mermaid text of the diagram of texts that were read, along a call graph and in a
direction. -/
structure Drawing where
  files : List (String × String)
  graph : CallGraph
  direction : RankDirection
  diagram : Diagram
  text : String
  built :
    Diagram.ofFunctions (Ledger.readAll ∅ files).functions graph
      (.ofFunctions (Ledger.readAll ∅ files).functions) = .ok diagram
  written : Diagram.Mermaid.write diagram direction.name = .ok text

namespace Drawing

open ThreatModel.Diagram

/-- There is a drawing of all texts. -/
def ofTexts
    (files : List (String × String))
    (graph : CallGraph)
    (direction : RankDirection) :
    Drawing where
  files := files
  graph := graph
  direction := direction
  diagram := drawn (Ledger.readAll ∅ files).functions graph
  text := "\n".intercalate
    (((drawn (Ledger.readAll ∅ files).functions graph).drawing direction).map DrawingLine.text)
  built := ofFunctions_eq_drawn _ graph
  written := (wellFormed_drawn _ graph).write_eq direction

variable (drawing : Drawing)

theorem diagram_eq :
    drawing.diagram = drawn (Ledger.readAll ∅ drawing.files).functions drawing.graph :=
  Except.ok.inj (drawing.built.symm.trans (ofFunctions_eq_drawn _ drawing.graph))

theorem text_eq :
    drawing.text =
      "\n".intercalate ((drawing.diagram.drawing drawing.direction).map DrawingLine.text) := by
  have written := drawing.written
  rw [drawing.diagram_eq] at written ⊢
  exact Except.ok.inj (written.symm.trans ((wellFormed_drawn _ drawing.graph).write_eq _))

/-- The heading comes first. -/
theorem text_ne_empty : drawing.text ≠ "" := by
  intro empty
  have legible : drawing.diagram.outline.Legible := by
    rw [diagram_eq]
    exact legible_outline_drawn (Ledger.oneLineFunctions_readAll drawing.files)
  have sameLines := congrArg textLines empty
  rw [text_eq, legible.textLines_eq] at sameLines
  have noHeading : (DrawingLine.heading drawing.direction).text = "" :=
    (List.cons.inj sameLines).1
  cases direction : drawing.direction <;> rw [direction] at noHeading <;>
    exact absurd noHeading (by decide)

theorem tagged_text : Tagged drawing.text drawing.diagram.breaks := by
  have unopened : ∀ line ∈ drawing.diagram.drawing drawing.direction, line.Unopened := by
    rw [diagram_eq]
    exact unopened_drawing_drawn _ drawing.graph drawing.direction
  have newline : Tagged "\n" [] := by decide
  have joined := newline.intercalate fun line member => DrawingLine.tagged_text (unopened line member)
  rw [text_eq, ← flatMap_tags_drawing drawing.diagram drawing.direction]
  rwa [nil_intercalate, ← List.flatMap_def] at joined

end Drawing

end ThreatModel
