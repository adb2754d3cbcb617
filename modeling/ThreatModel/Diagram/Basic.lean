import ThreatModel.Entry.Basic
import ThreatModel.Component.Basic
import ThreatModel.OrderedMap
import ThreatModel.Risk.Basic
import ThreatModel.Text.Quoted

/-!
Contract: the diagram of components at risk.

Owns:
- clusters of nodes, nodes with shape and risk, and labelled edges, all in the
  order in which they were added;
- the addition of a node with its cluster, and of an edge.

Does not own: why a node or an edge is added, or how a diagram is written.
-/

namespace ThreatModel

inductive NodeShape where
  | box
  | oval
  | named (name : String)
deriving DecidableEq, Repr

def NodeShape.name : NodeShape → String
  | .box => "box"
  | .oval => "oval"
  | .named name => name

def NodeShape.ofName (name : String) : NodeShape :=
  if name = NodeShape.box.name then .box
  else if name = NodeShape.oval.name then .oval
  else .named name

/-- The components of one zone. -/
structure Cluster where
  key : String
  label : String
  nodes : List String
deriving DecidableEq, Repr

def Cluster.name (cluster : Cluster) : String :=
  "cluster_" ++ cluster.key

structure Node where
  key : String
  label : String
  cluster : String
  shape : NodeShape
  risk : Option Risk
deriving DecidableEq, Repr

def Node.color? (node : Node) : Option String :=
  node.risk.bind Risk.nodeColor?

structure EdgeLabel where
  text : String
  color : String
deriving DecidableEq, Repr

inductive EdgeKind where
  | call (risk : Risk)
  | flow (direction : Direction)
deriving DecidableEq, Repr

def EdgeKind.name : EdgeKind → String
  | .call _ => "call"
  | .flow direction => direction.name

def EdgeKind.risk? : EdgeKind → Option Risk
  | .call risk => some risk
  | .flow _ => none

structure DiagramEdge where
  source : String
  dest : String
  kind : EdgeKind
  labels : List EdgeLabel
  color : String
deriving DecidableEq, Repr

structure Diagram where
  clusters : OrderedMap String Cluster := ∅
  nodes : OrderedMap String Node := ∅
  edges : List DiagramEdge := []
deriving DecidableEq, Repr

/-- A node or component that is referred to is not there. -/
inductive MissingKey where
  | missing (key : String)
deriving DecidableEq, Repr

def MissingKey.message : MissingKey → String
  | .missing key => Text.quoted key

namespace Diagram

def empty : Diagram := {}

instance : EmptyCollection Diagram :=
  ⟨empty⟩

/-- Adds a node to the cluster of its zone, which is opened for its first node. A node that is
there already stays as it is. -/
def addNode
    (diagram : Diagram)
    (key : String)
    (component : Component)
    (shape : NodeShape)
    (risk : Option Risk) :
    Diagram :=
  if diagram.nodes.contains key then
    diagram
  else
    let zone := Component.normalize component.zone
    { diagram with
      clusters := diagram.clusters.alter zone fun known =>
        let cluster := known.getD ⟨zone, component.zone, []⟩
        { cluster with nodes := cluster.nodes ++ [key] }
      nodes := diagram.nodes.insert key ⟨key, component.name, zone, shape, risk⟩ }

def addEdge
    (diagram : Diagram)
    (edge : DiagramEdge) :
    Diagram :=
  { diagram with edges := diagram.edges ++ [edge] }

/-- The nodes of a cluster, or the first of its members that is not a node. -/
def members
    (diagram : Diagram)
    (cluster : Cluster) :
    Except MissingKey (List Node) :=
  cluster.nodes.mapM fun key =>
    match diagram.nodes.get? key with
    | some node => .ok node
    | none => .error (.missing key)

end Diagram

end ThreatModel
