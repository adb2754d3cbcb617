import ThreatModel.Diagram.Basic
import ThreatModel.Text.Alphanumeric
import ThreatModel.Text.Blank

/-!
Contract: diagrams in the Mermaid language.

Owns:
- the identifiers and the labels that the language can hold;
- the lines of clusters, nodes and edges, and the style lines after them.

Does not own: the layout of the drawing.
-/

namespace ThreatModel.Diagram.Mermaid

open ThreatModel.Text

/-- Every character that may not stand in a name becomes a low line. -/
def identifierChars (text : List Char) : List Char :=
  match (trim text).map fun character => if isAlphanumeric character then character else '_' with
  | [] => "NODE".toList
  | first :: rest => if isDigit first then 'N' :: '_' :: first :: rest else first :: rest

def identifier (text : String) : String :=
  String.ofList (identifierChars text.toList)

/-- Brackets are left out, a double quote becomes a single one, and a bar becomes a hyphen. -/
def labelChar? : Char → Option Char
  | '\x22' => some '\x27'
  | '|' => some '-'
  | '(' | ')' | '[' | ']' | '<' | '>' => none
  | character => some character

def label (text : String) : String :=
  String.ofList (text.toList.filterMap labelChar?)

/-- What opens and closes a node of a shape. -/
def brackets : NodeShape → String × String
  | .oval => ("([", "])")
  | _ => ("[", "]")

def nodeLine (node : Node) (key : String) : String :=
  let (opening, closing) := brackets node.shape
  "        " ++ identifier key ++ opening ++ "\"" ++ label node.label ++ "\"" ++ closing

def nodeStyle? (node : Node) (key : String) : Option String :=
  node.color?.map fun color =>
    "    style " ++ identifier key ++ " stroke:" ++ color ++ ",stroke-width:2px"

def clusterLines
    (cluster : Cluster)
    (members : List Node) :
    List String :=
  ("    subgraph " ++ identifier cluster.name ++ "[\"" ++ label cluster.label ++ "\"]") ::
    (List.zipWith nodeLine members cluster.nodes ++ ["    end"])

def clusterStyles
    (cluster : Cluster)
    (members : List Node) :
    List String :=
  (List.zipWith nodeStyle? members cluster.nodes).filterMap id

def edgeLine (edge : DiagramEdge) : String :=
  "    " ++ identifier edge.source ++ " -->|" ++
    "<br/>".intercalate (edge.labels.map fun entry => label entry.text) ++
    "| " ++ identifier edge.dest

/-- Edges are numbered from zero. -/
def edgeStyle (edge : DiagramEdge) (number : Nat) : String :=
  "    linkStyle " ++ toString number ++ " stroke:" ++ edge.color

/-- The lines of the whole drawing; `direction` is the direction of its ranks. -/
def lines
    (diagram : Diagram)
    (direction : String) :
    Except MissingKey (List String) := do
  let clusters ← diagram.clusters.values.mapM fun cluster => do
    return (cluster, ← diagram.members cluster)
  return ("flowchart " ++ direction) ::
    (clusters.flatMap (fun (cluster, members) => clusterLines cluster members) ++
      diagram.edges.map edgeLine ++
      clusters.flatMap (fun (cluster, members) => clusterStyles cluster members) ++
      (diagram.edges.zipIdx.map fun (edge, number) => edgeStyle edge number))

def write
    (diagram : Diagram)
    (direction : String) :
    Except MissingKey String :=
  (lines diagram direction).map "\n".intercalate

end ThreatModel.Diagram.Mermaid
