import ThreatModel.Format
import ThreatModel.Proofs.Diagram.DotTokens
import ThreatModel.Proofs.Diagram.EdgeLabels
import ThreatModel.Proofs.Diagram.Labels
import ThreatModel.Proofs.Text.Lines

/-!
Contract: the statements that a reader finds in a DOT drawing, line by line.

Owns:
- the reading of one line, and of a text;
- what each piece that is written adds to what is read;
- that a drawing reads as its clusters with their members and then its edges, and that
  each end of an edge is the token of one node.

Does not own: the attributes of statements.
-/

namespace ThreatModel.Diagram.Dot

open ThreatModel.Component
open ThreatModel.Text

/-! ## Reading -/

/-- The statements of a drawing, with the tokens that stand in them. -/
inductive DrawingStatement where
  | opening (name : String)
  | node (key : String)
  | closing
  | edge (source dest : String)
deriving DecidableEq

/-- The key of a node statement. -/
def DrawingStatement.node? : DrawingStatement → Option String
  | node key => some key
  | _ => none

theorem count_node
    (key : String)
    (found : List DrawingStatement) :
    found.count (.node key) = (found.filterMap DrawingStatement.node?).count key := by
  induction found with
  | nil => rfl
  | cons head rest inductionHypothesis =>
      rw [List.count_cons, inductionHypothesis]
      cases head with
      | node other => simp [DrawingStatement.node?, List.count_cons]
      | _ => simp [DrawingStatement.node?, List.filterMap_cons]

/-- The text before the first blank. -/
def firstWord (text : List Char) : List Char :=
  text.takeWhile (· ≠ ' ')

/-- The text behind the first blank. -/
def behindWord (text : List Char) : List Char :=
  (text.dropWhile (· ≠ ' ')).drop 1

/-- A line within a subgraph begins with a node, unless it begins with an attribute. -/
def DrawingStatement.ofInnerLine? (line : List Char) : Option DrawingStatement :=
  let word := firstWord line
  if '=' ∈ word then none else some (.node (String.ofList word))

/-- A line outside of subgraphs opens one or closes one, or it has an arrow behind its first
word. -/
def DrawingStatement.ofOuterLine? (line : List Char) : Option DrawingStatement :=
  let word := firstWord line
  let next := behindWord line
  if line = ['\x7d'] then some .closing
  else if word = "subgraph".toList then some (.opening (String.ofList (firstWord next)))
  else if firstWord next = "->".toList then
    some (.edge (String.ofList word) (String.ofList (firstWord (behindWord next))))
  else none

/-- Statements are indented, and those within subgraphs twice. -/
def DrawingStatement.ofLine? : List Char → Option DrawingStatement
  | '\t' :: '\t' :: line => ofInnerLine? line
  | '\t' :: line => ofOuterLine? line
  | _ => none

def statementsIn (text : List Char) : List DrawingStatement :=
  (lines text).filterMap DrawingStatement.ofLine?

def statements (text : String) : List DrawingStatement :=
  statementsIn text.toList

theorem firstWord_append
    {word : List Char}
    (blankless : ' ' ∉ word)
    (rest : List Char) :
    firstWord (word ++ ' ' :: rest) = word :=
  takeWhile_append_cons blankless rest

theorem behindWord_append
    {word : List Char}
    (blankless : ' ' ∉ word)
    (rest : List Char) :
    behindWord (word ++ ' ' :: rest) = rest := by
  rw [behindWord, dropWhile_append_cons blankless, List.drop_one, List.tail_cons]

theorem ofInnerLine?_label (rest : List Char) :
    DrawingStatement.ofInnerLine? ("label=".toList ++ rest) = none := by
  have assigned : '=' ∈ firstWord ("label=".toList ++ rest) := by simp [firstWord]
  rw [DrawingStatement.ofInnerLine?, if_pos assigned]

/-- A word and a blank are no closing of a subgraph. -/
theorem append_blank_ne_closing (word rest : List Char) : word ++ ' ' :: rest ≠ ['\x7d'] := by
  intro same
  have member : ' ' ∈ ['\x7d'] := same ▸ List.mem_append_right word List.mem_cons_self
  revert member
  decide

theorem ofLine?_outer
    {word : List Char}
    (untabbed : '\t' ∉ word)
    (rest : List Char) :
    DrawingStatement.ofLine? ('\t' :: (word ++ ' ' :: rest)) =
      DrawingStatement.ofOuterLine? (word ++ ' ' :: rest) := by
  cases word with
  | nil => rfl
  | cons first later =>
      have unindented : first ≠ '\t' := fun isTab => untabbed (isTab ▸ List.mem_cons_self)
      rw [List.cons_append, DrawingStatement.ofLine?]
      intro _ same
      exact unindented (List.cons.inj same).1

theorem ofOuterLine?_opening
    {name : List Char}
    (blankless : ' ' ∉ name)
    (rest : List Char) :
    DrawingStatement.ofOuterLine? ("subgraph".toList ++ ' ' :: (name ++ ' ' :: rest)) =
      some (.opening (String.ofList name)) := by
  have word := firstWord_append (by decide : ' ' ∉ "subgraph".toList) (name ++ ' ' :: rest)
  have next := behindWord_append (by decide : ' ' ∉ "subgraph".toList) (name ++ ' ' :: rest)
  rw [DrawingStatement.ofOuterLine?, if_neg (append_blank_ne_closing _ _), word, if_pos rfl, next,
    firstWord_append blankless]

theorem ofOuterLine?_edge
    {source dest : List Char}
    (sourceBlankless : ' ' ∉ source)
    (destBlankless : ' ' ∉ dest)
    (noOpening : source ≠ "subgraph".toList)
    (rest : List Char) :
    DrawingStatement.ofOuterLine? (source ++ ' ' :: ("->".toList ++ ' ' :: (dest ++ ' ' :: rest))) =
      some (.edge (String.ofList source) (String.ofList dest)) := by
  have arrow : ' ' ∉ "->".toList := by decide
  rw [DrawingStatement.ofOuterLine?, if_neg (append_blank_ne_closing _ _),
    firstWord_append sourceBlankless, if_neg noOpening, behindWord_append sourceBlankless,
    firstWord_append arrow, if_pos rfl, behindWord_append arrow, firstWord_append destBlankless]

theorem ofOuterLine?_other
    {word next : List Char}
    (blankless : ' ' ∉ word)
    (nextBlankless : ' ' ∉ next)
    (noOpening : word ≠ "subgraph".toList)
    (noArrow : next ≠ "->".toList)
    (rest : List Char) :
    DrawingStatement.ofOuterLine? (word ++ ' ' :: (next ++ ' ' :: rest)) = none := by
  rw [DrawingStatement.ofOuterLine?, if_neg (append_blank_ne_closing _ _),
    firstWord_append blankless, if_neg noOpening, behindWord_append blankless,
    firstWord_append nextBlankless, if_neg noArrow]

/-! ## What pieces add -/

/-- A piece of a text, up to the end of a line, adds these statements. -/
def Adds (piece : List Char) (added : List DrawingStatement) : Prop :=
  ∀ back, statementsIn (piece ++ back) = added ++ statementsIn back

namespace Adds

theorem statementsIn_eq
    {text : List Char}
    {added : List DrawingStatement}
    (adds : Adds text added) :
    statementsIn text = added := by
  have whole := adds []
  rwa [List.append_nil, show statementsIn [] = [] from rfl, List.append_nil] at whole

theorem nil : Adds [] [] :=
  fun _ => rfl

theorem line
    {text : List Char}
    {added : List DrawingStatement}
    (sameLine : '\n' ∉ text)
    (read : (DrawingStatement.ofLine? text).toList = added) :
    Adds (text ++ ['\n']) added := by
  intro back
  rw [List.append_assoc, List.singleton_append, statementsIn, lines_append_newline,
    lines_of_sameLine sameLine, List.filterMap_append, ← read]
  cases read : DrawingStatement.ofLine? text <;> simp [read, statementsIn]

theorem append
    {front back : List Char}
    {added later : List DrawingStatement}
    (ofFront : Adds front added)
    (ofBack : Adds back later) :
    Adds (front ++ back) (added ++ later) := by
  intro rest
  rw [List.append_assoc, ofFront, ofBack, List.append_assoc]

theorem appendText
    {front back : String}
    {added later : List DrawingStatement}
    (ofFront : Adds front.toList added)
    (ofBack : Adds back.toList later) :
    Adds (front ++ back).toList (added ++ later) := by
  rw [String.toList_append]
  exact ofFront.append ofBack

/-- Texts in a row add what each of them adds. -/
theorem join
    {α : Type}
    {elements : List α}
    {text : α → String}
    {added : α → List DrawingStatement}
    (each : ∀ element ∈ elements, Adds (text element).toList (added element)) :
    Adds (String.join (elements.map text)).toList (elements.flatMap added) := by
  rw [String.toList_join]
  induction elements with
  | nil => exact nil
  | cons head rest inductionHypothesis =>
      rw [List.forall_mem_cons] at each
      exact each.1.append (inductionHypothesis each.2)

end Adds

/-! ## Around the clusters and edges -/

theorem adds_heading (direction : RankDirection) :
    Adds ("digraph G \x7b\n" ++ "\tcompound=true nodesep=0.6 overlap=scalexy rankdir=" ++
      token direction.name ++ "\n").toList [] := by
  have opening : Adds ("digraph G \x7b".toList ++ ['\n']) [] :=
    .line (by decide) (by decide)
  have directionOnLine : '\n' ∉ (token direction.name).toList := by
    cases direction <;> decide
  have ranks : Adds ('\t' :: ("compound=true".toList ++ ' ' :: ("nodesep=0.6".toList ++ ' ' ::
      ("overlap=scalexy rankdir=".toList ++ (token direction.name).toList))) ++ ['\n']) [] := by
    refine .line (by simp [directionOnLine]) ?_
    rw [ofLine?_outer (by decide),
      ofOuterLine?_other (by decide) (by decide) (by decide) (by decide)]
    rfl
  have both := opening.append ranks
  simpa using both

theorem adds_closing : Adds "\x7d\n".toList [] :=
  show Adds (['\x7d'] ++ ['\n']) [] from .line (by decide) (by decide)

/-! ## Nodes -/

/-- What stands behind the key of a node. -/
def nodeAttributes (node : Node) : String :=
  let color := (node.color?.map fun color => "color=" ++ token color ++ " ").getD ""
  "[label=" ++ token node.label ++ " " ++ color ++ "shape=" ++ token node.shape.name ++ "]"

theorem toList_nodeStatement
    (node : Node)
    (key : String) :
    (nodeStatement node key).toList =
      '\t' :: '\t' :: ((token key).toList ++ ' ' :: (nodeAttributes node).toList) ++ ['\n'] := by
  unfold nodeStatement nodeAttributes
  simp

/-- What a node shows is on one line. -/
structure NodeOnLine (node : Node) : Prop where
  label : OneLine node.label
  color : ∀ color, node.color? = some color → OneLine color
  shape : node.shape = .box ∨ node.shape = .oval

theorem oneLine_token
    {text : String}
    (oneLine : OneLine text) :
    OneLine (token text) :=
  not_mem_token (by decide) (by decide) oneLine

theorem NodeOnLine.attributes
    {node : Node}
    (onLine : NodeOnLine node) :
    OneLine (nodeAttributes node) := by
  have label : '\n' ∉ (token node.label).toList := oneLine_token onLine.label
  have color :
      '\n' ∉ ((node.color?.map fun color => "color=" ++ token color ++ " ").getD "").toList := by
    cases colored : node.color? with
    | none => simp
    | some color =>
        have inToken : '\n' ∉ (token color).toList := oneLine_token (onLine.color color colored)
        simp [inToken]
  have shape : '\n' ∉ (token node.shape.name).toList := by
    rcases onLine.shape with isBox | isOval
    · rw [isBox]
      decide
    · rw [isOval]
      decide
  unfold nodeAttributes
  simp [OneLine, label, color, shape]

theorem ofLine?_node
    {key : String}
    (isKey : IsKey key)
    (rest : List Char) :
    DrawingStatement.ofLine? ('\t' :: '\t' :: ((token key).toList ++ ' ' :: rest)) =
      some (.node (token key)) := by
  have blankless : ' ' ∉ (token key).toList :=
    not_mem_token_key isKey (by decide) (by decide) (by decide) (by decide)
  have unassigned : '=' ∉ (token key).toList :=
    not_mem_token_key isKey (by decide) (by decide) (by decide) (by decide)
  rw [DrawingStatement.ofLine?, DrawingStatement.ofInnerLine?, firstWord_append blankless,
    if_neg unassigned, String.ofList_toList]

theorem adds_nodeStatement
    {node : Node}
    (onLine : NodeOnLine node)
    {key : String}
    (isKey : IsKey key) :
    Adds (nodeStatement node key).toList [.node (token key)] := by
  have keyOnLine : '\n' ∉ (token key).toList :=
    not_mem_token_key isKey (by decide) (by decide) (by decide) (by decide)
  have attributesOnLine : '\n' ∉ (nodeAttributes node).toList := onLine.attributes
  rw [toList_nodeStatement]
  exact .line (by simp [keyOnLine, attributesOnLine]) (by rw [ofLine?_node isKey]; rfl)

/-! ## Clusters -/

/-- The statements of a cluster: that it is opened, a node for each member, that it is closed. -/
def clusterBlock (cluster : Cluster) : List DrawingStatement :=
  .opening (token cluster.name) :: (cluster.nodes.map fun key => .node (token key)) ++ [.closing]

theorem adds_opening
    {cluster : Cluster}
    (isNormal : IsNormal cluster.key) :
    Adds ("\tsubgraph " ++ token cluster.name ++ " \x7b\n").toList
      [.opening (token cluster.name)] := by
  have clear {mark : Char} (noKeyChar : isKeyChar mark = false)
      (noName : mark ∉ "cluster_".toList) :
      mark ∉ (token cluster.name).toList := by
    rw [token_clusterName isNormal, Cluster.name, String.toList_append, List.mem_append, not_or]
    exact ⟨noName, isNormal.not_mem noKeyChar⟩
  have blankless : ' ' ∉ (token cluster.name).toList := clear (by decide) (by decide)
  have nameOnLine : '\n' ∉ (token cluster.name).toList := clear (by decide) (by decide)
  have spelled : ("\tsubgraph " ++ token cluster.name ++ " \x7b\n").toList =
      '\t' :: ("subgraph".toList ++ ' ' :: ((token cluster.name).toList ++ ' ' :: ['\x7b'])) ++
        ['\n'] := by
    simp
  have read : DrawingStatement.ofLine?
      ('\t' :: ("subgraph".toList ++ ' ' :: ((token cluster.name).toList ++ ' ' :: ['\x7b']))) =
        some (.opening (token cluster.name)) := by
    rw [ofLine?_outer (by decide), ofOuterLine?_opening blankless, String.ofList_toList]
  rw [spelled]
  exact .line (by simp [nameOnLine]) (by rw [read]; rfl)

theorem adds_clusterStatement
    {cluster : Cluster}
    (isNormal : IsNormal cluster.key)
    (oneLine : OneLine cluster.label)
    {members : List Node}
    (keys : members.map Node.key = cluster.nodes)
    (onLine : ∀ node ∈ members, IsKey node.key ∧ NodeOnLine node) :
    Adds (clusterStatement cluster members).toList (clusterBlock cluster) := by
  have ofMembers : List.zipWith nodeStatement members cluster.nodes =
      members.map fun node => nodeStatement node node.key := by
    rw [← keys, List.zipWith_map_right, List.zipWith_self]
  have parted : clusterStatement cluster members =
      "\tsubgraph " ++ token cluster.name ++ " \x7b\n" ++
        ("\t\tlabel=" ++ token cluster.label ++ " style=dashed\n") ++
        String.join (members.map fun node => nodeStatement node node.key) ++ "\t\x7d\n" := by
    unfold clusterStatement
    simp only [ofMembers, String.append_assoc]
  have label : Adds ("\t\tlabel=" ++ token cluster.label ++ " style=dashed\n").toList [] := by
    have spelled : ("\t\tlabel=" ++ token cluster.label ++ " style=dashed\n").toList =
        '\t' :: '\t' :: ("label=".toList ++ ((token cluster.label).toList ++
          " style=dashed".toList)) ++ ['\n'] := by
      simp
    have labelOnLine : '\n' ∉ (token cluster.label).toList := oneLine_token oneLine
    rw [spelled]
    exact .line (by simp [labelOnLine]) (by rw [DrawingStatement.ofLine?, ofInnerLine?_label]; rfl)
  have nodes : Adds (String.join (members.map fun node => nodeStatement node node.key)).toList
      (members.flatMap fun node => [.node (token node.key)]) :=
    .join fun node member => adds_nodeStatement (onLine node member).2 (onLine node member).1
  have closing : Adds "\t\x7d\n".toList [.closing] :=
    show Adds (['\t', '\x7d'] ++ ['\n']) _ from .line (by decide) (by decide)
  have added : clusterBlock cluster =
      [DrawingStatement.opening (token cluster.name)] ++ [] ++
        (members.flatMap fun node => [DrawingStatement.node (token node.key)]) ++
        [DrawingStatement.closing] := by
    rw [clusterBlock, ← keys, List.map_map, List.map_eq_flatMap]
    rfl
  rw [parted, added]
  exact (((adds_opening isNormal).appendText label).appendText nodes).appendText closing

/-! ## Edges -/

/-- The labels are on one line each, and their colours are of the palette. -/
def LabelsOnLine (labels : List EdgeLabel) : Prop :=
  ∀ label ∈ labels, OneLine label.text ∧ label.color ∈ palette

theorem oneLine_labelMarkup
    {label : EdgeLabel}
    (oneLine : OneLine label.text)
    (colored : label.color ∈ palette) :
    OneLine (labelMarkup label) := by
  have textOnLine : '\n' ∉ (markup label.text).toList := sameLine_markup oneLine
  have colorOnLine : '\n' ∉ label.color.toList := not_mem_color colored (.inr rfl)
  rw [OneLine, toList_labelMarkup]
  simp [textOnLine, colorOnLine]

/-- Labels after the first stand on lines of their own, which are no statements. The induction is on
these labels, and `front` is the line that the first of them ends. -/
theorem adds_behindLabel
    {labels : List EdgeLabel}
    (onLine : LabelsOnLine labels)
    {front back : List Char}
    (frontOnLine : '\n' ∉ front)
    (backOnLine : '\n' ∉ back)
    {added : List DrawingStatement}
    (read : ∀ rest, (DrawingStatement.ofLine? (front ++ rest)).toList = added) :
    Adds (front ++ behindLabel labels ++ back ++ ['\n']) added := by
  induction labels generalizing front added with
  | nil =>
      refine .line ?_ ?_
      · simp [behindLabel, frontOnLine, backOnLine]
      · rw [List.append_assoc]
        exact read _
  | cons next later inductionHypothesis =>
      obtain ⟨⟨oneLine, colored⟩, laterOnLine⟩ := List.forall_mem_cons.mp onLine
      have nextOnLine : '\n' ∉ (labelMarkup next).toList := oneLine_labelMarkup oneLine colored
      have nothing (rest : List Char) :
          (DrawingStatement.ofLine? ((labelMarkup next).toList ++ rest)).toList = [] := by
        rw [toList_labelMarkup]
        rfl
      have first : Adds (front ++ "<br/>".toList ++ ['\n']) added :=
        .line (by simp [frontOnLine]) (read _)
      have rest := inductionHypothesis laterOnLine nextOnLine nothing
      have parted : front ++ behindLabel (next :: later) ++ back ++ ['\n'] =
          (front ++ "<br/>".toList ++ ['\n']) ++
            ((labelMarkup next).toList ++ behindLabel later ++ back ++ ['\n']) := by
        rw [behindLabel, labelRows_cons_append]
        simp
      rw [parted, ← List.append_nil added]
      exact first.append rest

/-- An edge on the line of its ends and first label, and on those of its other labels. -/
theorem toList_edgeStatement
    {edge : DiagramEdge}
    {label : EdgeLabel}
    {rest : List EdgeLabel}
    (labels : edge.labels = label :: rest) :
    (edgeStatement edge).toList =
      '\t' :: ((endpoint edge.source).toList ++ ' ' :: ("->".toList ++ ' ' ::
        ((endpoint edge.dest).toList ++ ' ' :: ("[label=<".toList ++
          (labelMarkup label).toList)))) ++
        behindLabel rest ++ (" color=".toList ++ ((token edge.color).toList ++ [']'])) ++
        ['\n'] := by
  have enclosed := toList_edgeLabel edge.labels
  have written : (token (edgeLabel edge.labels)).toList =
      '<' :: ((labelMarkup label).toList ++ behindLabel rest) := by
    rw [token_of_enclosed enclosed, enclosed, labels, labelRows_cons_append]
  unfold edgeStatement
  simp [written]

theorem ofLine?_edge
    {source dest : String}
    (isSource : IsKey source)
    (isDest : IsKey dest)
    (rest : List Char) :
    DrawingStatement.ofLine? ('\t' :: ((endpoint source).toList ++ ' ' :: ("->".toList ++ ' ' ::
        ((endpoint dest).toList ++ ' ' :: rest)))) =
      some (.edge (endpoint source) (endpoint dest)) := by
  have blankless {key : String} (isKey : IsKey key) : ' ' ∉ (token key).toList :=
    not_mem_token_key isKey (by decide) (by decide) (by decide) (by decide)
  have untabbed : '\t' ∉ (token source).toList :=
    not_mem_token_key isSource (by decide) (by decide) (by decide) (by decide)
  have noOpening : (token source).toList ≠ "subgraph".toList := fun same =>
    absurd (same ▸ dash_mem_token_key isSource) (by decide)
  rw [endpoint_key isSource, endpoint_key isDest, ofLine?_outer untabbed,
    ofOuterLine?_edge (blankless isSource) (blankless isDest) noOpening, String.ofList_toList,
    String.ofList_toList]

/-- The ends of an edge are parted by an arrow, and blanks set them off. -/
theorem adds_edgeStatement
    {edge : DiagramEdge}
    (isSource : IsKey edge.source)
    (isDest : IsKey edge.dest)
    (inhabited : edge.labels ≠ [])
    (onLine : LabelsOnLine edge.labels)
    (colorOneLine : OneLine edge.color) :
    Adds (edgeStatement edge).toList [.edge (endpoint edge.source) (endpoint edge.dest)] := by
  obtain ⟨label, rest, labels⟩ := List.exists_cons_of_ne_nil inhabited
  rw [labels] at onLine
  obtain ⟨⟨oneLine, colored⟩, restOnLine⟩ := List.forall_mem_cons.mp onLine
  have endOnLine {key : String} (isKey : IsKey key) : '\n' ∉ (endpoint key).toList := by
    rw [endpoint_key isKey]
    exact not_mem_token_key isKey (by decide) (by decide) (by decide) (by decide)
  have labelOnLine : '\n' ∉ (labelMarkup label).toList := oneLine_labelMarkup oneLine colored
  have colorOnLine : '\n' ∉ (token edge.color).toList := oneLine_token colorOneLine
  rw [toList_edgeStatement labels]
  refine adds_behindLabel restOnLine ?_ ?_ fun more => ?_
  · simp [endOnLine isSource, endOnLine isDest, labelOnLine]
  · simp [colorOnLine]
  · simp only [List.cons_append, List.append_assoc]
    rw [ofLine?_edge isSource isDest]
    rfl

end ThreatModel.Diagram.Dot

namespace ThreatModel.Diagram

open ThreatModel.Diagram.Dot
open ThreatModel.Text

/-! ## Drawings of texts that were read -/

/-- What a reader is to find: the clusters with their members, and the edges. -/
def drawingStatements (diagram : Diagram) : List DrawingStatement :=
  diagram.clusters.values.flatMap clusterBlock ++
    diagram.edges.map fun edge => DrawingStatement.edge (endpoint edge.source) (endpoint edge.dest)

section Drawn

variable {functions : OrderedMap String Declaration} (graph : CallGraph)

/-- Edges of calls have the colours of risks, and edges of flows those of directions. -/
theorem color_mem_palette_drawn
    {edge : DiagramEdge}
    (isEdge : edge ∈ (drawn functions graph).edges)
    {label : EdgeLabel}
    (isLabel : label ∈ edge.labels) :
    label.color ∈ palette := by
  have ofRisk (risk : Risk) : risk.labelColor ∈ palette := by
    cases risk <;> decide
  have ofDirection (direction : Direction) : direction.color ∈ palette := by
    cases direction <;> decide
  rw [edges_drawn] at isEdge
  rcases List.mem_append.mp isEdge with ofCalls | ofFlow
  · obtain ⟨ends, _, rfl⟩ := List.mem_map.mp ofCalls
    obtain ⟨callee, _, rfl⟩ := List.mem_map.mp (List.mem_eraseDups.mp isLabel)
    exact ofRisk _
  · obtain ⟨flow, _, rfl⟩ := List.mem_map.mp ofFlow
    obtain rfl := List.mem_singleton.mp isLabel
    exact ofDirection flow.direction

variable (oneLine : OneLineFunctions functions)

include oneLine

theorem adds_clusterStatement_drawn
    {cluster : Cluster}
    (isCluster : cluster ∈ (drawn functions graph).clusters.values) :
    Adds (clusterStatement cluster ((drawn functions graph).nodesOf cluster)).toList
      (clusterBlock cluster) := by
  have wellFormed := wellFormed_drawn functions graph
  have keyed := keyed_drawn functions graph
  have labelled := labelled_drawn oneLine graph
  obtain ⟨zone, found⟩ := OrderedMap.mem_values_iff.mp isCluster
  refine adds_clusterStatement (keyed.cluster_isNormal cluster isCluster)
    (labelled.clusters zone cluster found) (wellFormed.map_key_nodesOf isCluster) ?_
  intro node isNode
  obtain ⟨key, _, isNode⟩ := List.mem_filterMap.mp isNode
  have isKey : node.key ∈ (drawn functions graph).nodes.keys := by
    rw [wellFormed.node_key key node isNode]
    exact OrderedMap.mem_keys_iff.mpr ⟨node, isNode⟩
  exact ⟨keyed.node_isKey node.key isKey, labelled.nodes key node isNode,
    fun _ => oneLine_nodeColor, shape_of_get?_drawn isNode⟩

theorem adds_edgeStatement_drawn
    {edge : DiagramEdge}
    (isEdge : edge ∈ (drawn functions graph).edges) :
    Adds (edgeStatement edge).toList [.edge (endpoint edge.source) (endpoint edge.dest)] := by
  have keyed := keyed_drawn functions graph
  obtain ⟨sourceKnown, destKnown⟩ := (wellFormed_drawn functions graph).ends edge isEdge
  obtain ⟨inhabited, labelled⟩ := labels_of_mem_edges_drawn oneLine graph isEdge
  exact adds_edgeStatement (keyed.node_isKey _ sourceKnown) (keyed.node_isKey _ destKnown) inhabited
    (fun label isLabel => ⟨labelled label isLabel, color_mem_palette_drawn graph isEdge isLabel⟩)
    (oneLine_edgeColor isEdge)

theorem statements_drawn (direction : RankDirection) :
    ∃ text,
      Dot.write (drawn functions graph) direction.name = .ok text ∧
        statements text = (drawn functions graph).drawingStatements := by
  refine ⟨_, (wellFormed_drawn functions graph).dotWrite_eq direction.name, ?_⟩
  have clusters : Adds (String.join (drawn functions graph).clusterStatements).toList
      ((drawn functions graph).clusters.values.flatMap clusterBlock) :=
    .join fun cluster isCluster => adds_clusterStatement_drawn graph oneLine isCluster
  have edges : Adds (String.join ((drawn functions graph).edges.map edgeStatement)).toList
      ((drawn functions graph).edges.flatMap fun edge =>
        [.edge (endpoint edge.source) (endpoint edge.dest)]) :=
    .join fun edge isEdge => adds_edgeStatement_drawn graph oneLine isEdge
  have whole :=
    (((adds_heading direction).appendText clusters).appendText edges).appendText adds_closing
  rw [List.nil_append, List.append_nil, ← List.map_eq_flatMap] at whole
  exact whole.statementsIn_eq

end Drawn

/-! ## Each node once -/

theorem filterMap_node?_drawingStatements (diagram : Diagram) :
    diagram.drawingStatements.filterMap DrawingStatement.node? = diagram.listedKeys.map token := by
  have ofCluster (cluster : Cluster) :
      (clusterBlock cluster).filterMap DrawingStatement.node? = cluster.nodes.map token := by
    simp [clusterBlock, List.filterMap_cons, List.filterMap_map, Function.comp_def,
      DrawingStatement.node?]
  have ofEdges : (diagram.edges.map fun edge =>
      DrawingStatement.edge (endpoint edge.source) (endpoint edge.dest)).filterMap
        DrawingStatement.node? = [] := by
    simp [List.filterMap_map, Function.comp_def, DrawingStatement.node?]
  rw [drawingStatements, List.filterMap_append, ofEdges, List.append_nil, List.filterMap_flatMap,
    listedKeys, List.map_flatMap]
  exact List.flatMap_congr fun cluster _ => ofCluster cluster

section Keyed

variable {diagram : Diagram} (wellFormed : diagram.WellFormed) (keyed : diagram.Keyed)

include keyed

theorem nodup_map_token
    {keys : List String}
    (distinct : keys.Nodup)
    (known : keys ⊆ diagram.nodes.keys) :
    (keys.map token).Nodup := by
  refine List.Nodup.map_on (fun key isKey other isOther same => ?_) distinct
  exact token_key_inj (keyed.node_isKey key (known isKey)) (keyed.node_isKey other (known isOther))
    same

include wellFormed

theorem count_node_drawingStatements
    {key : String}
    (isNode : key ∈ diagram.nodes.keys) :
    diagram.drawingStatements.count (.node (token key)) = 1 := by
  have distinct : (diagram.listedKeys.map token).Nodup :=
    nodup_map_token keyed wellFormed.nodup_listedKeys fun _ => wellFormed.mem_listedKeys_iff.mp
  have isListed : token key ∈ diagram.listedKeys.map token :=
    List.mem_map_of_mem (wellFormed.mem_listedKeys_iff.mpr isNode)
  rw [count_node, filterMap_node?_drawingStatements]
  exact List.count_eq_one_of_mem distinct isListed

theorem nodup_clusterNames :
    (diagram.clusters.values.map fun cluster => token cluster.name).Nodup := by
  have spelled : (diagram.clusters.values.map fun cluster => token cluster.name) =
      (diagram.clusters.values.map Cluster.key).map ("cluster_" ++ ·) := by
    rw [List.map_map]
    exact List.map_congr_left fun cluster isCluster =>
      token_clusterName (keyed.cluster_isNormal cluster isCluster)
  rw [spelled]
  refine wellFormed.nodup_map_key.map fun zone other same => ?_
  have sameChars := congrArg String.toList same
  simp only [String.toList_append] at sameChars
  exact String.toList_injective (List.append_cancel_left sameChars)

end Keyed

/-- In the drawing of texts that were read, along any call graph, a reader finds the clusters in
order, each with its members, and then the edges in order. Every node has one statement, no two
nodes share a token and no two clusters do, and the ends of edges are tokens of nodes. -/
theorem dot_statements_resolve
    (files : List (String × String))
    (graph : CallGraph)
    (direction : RankDirection) :
    let functions := (Ledger.readAll ∅ files).functions
    ∃ diagram text,
      ofFunctions functions graph (.ofFunctions functions) = .ok diagram ∧
        Dot.write diagram direction.name = .ok text ∧
        statements text = diagram.drawingStatements ∧
        (∀ cluster ∈ diagram.clusters.values, token cluster.name = "cluster_" ++ cluster.key) ∧
        (∀ edge ∈ diagram.edges, ∀ key ∈ [edge.source, edge.dest],
          key ∈ diagram.nodes.keys ∧ endpoint key = token key) ∧
        (∀ key ∈ diagram.nodes.keys, (statements text).count (.node (token key)) = 1) ∧
        (diagram.nodes.keys.map token).Nodup ∧
        (diagram.clusters.values.map fun cluster => token cluster.name).Nodup := by
  intro functions
  have oneLine := Ledger.oneLineFunctions_readAll files
  have built := ofFunctions_eq_drawn functions graph
  have wellFormed := wellFormed_drawn functions graph
  have keyed := keyed_drawn functions graph
  obtain ⟨text, written, read⟩ := statements_drawn graph oneLine direction
  have known (edge : DiagramEdge) (isEdge : edge ∈ (drawn functions graph).edges)
      (key : String) (isEnd : key ∈ [edge.source, edge.dest]) :
      key ∈ (drawn functions graph).nodes.keys := by
    obtain ⟨sourceKnown, destKnown⟩ := wellFormed.ends edge isEdge
    rcases List.mem_pair.mp isEnd with rfl | rfl
    · exact sourceKnown
    · exact destKnown
  refine ⟨_, text, built, written, read,
    fun cluster isCluster => token_clusterName (keyed.cluster_isNormal cluster isCluster),
    fun edge isEdge key isEnd => ?_, fun key isNode => ?_,
    nodup_map_token keyed (drawn functions graph).nodes.keys_nodup (List.Subset.refl _),
    nodup_clusterNames wellFormed keyed⟩
  · have isNode := known edge isEdge key isEnd
    exact ⟨isNode, endpoint_key (keyed.node_isKey key isNode)⟩
  · rw [read]
    exact count_node_drawingStatements wellFormed keyed isNode

end ThreatModel.Diagram
