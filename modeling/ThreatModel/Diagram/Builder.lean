import ThreatModel.Analysis.Index
import ThreatModel.Diagram.Basic
import ThreatModel.Risk.Interaction

/-!
Contract: the diagram of the interactions and flows of declared functions.

Owns:
- the steps that interactions ask for, and a run of steps, which stops at the
  first component that is not in the index and keeps what it has built;
- the edge and the end nodes of a flow;
- the diagram of declared functions along a call graph.

Does not own: the interactions themselves.
-/

namespace ThreatModel

def Direction.color : Direction → String
  | .sends => "blue"
  | .receives => "purple"

/-- What is done for an interaction, one after the other. -/
inductive DiagramStep where
  | place (key : String)
  | connect (source dest : String) (contributions : List Contribution)
deriving DecidableEq, Repr

/-- Each source is placed first; each destination is placed and then connected. -/
def Interaction.steps (interaction : Interaction) : List DiagramStep :=
  interaction.edges.entries.flatMap fun (source, dests) =>
    .place source ::
      dests.entries.flatMap fun (dest, contributions) =>
        [.place dest, .connect source dest contributions]

/-- One label for each distinct callee and colour, and the highest risk of all contributions. -/
def Contribution.edge
    (source dest : String)
    (contributions : List Contribution) :
    DiagramEdge :=
  let risk := Risk.escalate (contributions.map Contribution.risk)
  { source := source
    dest := dest
    kind := .call risk
    labels :=
      (contributions.map fun contribution =>
        EdgeLabel.mk contribution.callee contribution.risk.labelColor).eraseDups
    color := risk.labelColor }

def Flow.edge (flow : Flow) : DiagramEdge where
  source := flow.source.key
  dest := flow.dest.key
  kind := .flow flow.direction
  labels := [⟨flow.subject, flow.direction.color⟩]
  color := flow.direction.color

namespace Diagram

/-- One step, unless it places a component that is not in the index. -/
def step
    (index : ComponentIndex)
    (interaction : Interaction)
    (diagram : Diagram) :
    DiagramStep → Except MissingKey Diagram
  | .place key =>
      match index.get? key with
      | none => .error (.missing key)
      | some record => .ok (diagram.addNode key record.component .box (interaction.risk key))
  | .connect source dest contributions =>
      .ok (diagram.addEdge (Contribution.edge source dest contributions))

/-- Runs steps until one fails; what was built before stays. -/
def run
    (index : ComponentIndex)
    (interaction : Interaction)
    (diagram : Diagram) :
    List DiagramStep → Diagram × Option MissingKey
  | [] => (diagram, none)
  | head :: rest =>
      match diagram.step index interaction head with
      | .error missing => (diagram, some missing)
      | .ok next => run index interaction next rest

def addInteraction
    (index : ComponentIndex)
    (diagram : Diagram)
    (interaction : Interaction) :
    Diagram × Option MissingKey :=
  diagram.run index interaction interaction.steps

/-- The end nodes of a flow have no risk of their own. -/
def addFlow
    (diagram : Diagram)
    (flow : Flow) :
    Diagram :=
  ((diagram.addNode flow.source.key flow.source .oval none).addNode
    flow.dest.key flow.dest .oval none).addEdge flow.edge

def addFlows
    (diagram : Diagram)
    (functions : OrderedMap String Declaration) :
    Diagram :=
  (functions.values.flatMap Declaration.flows).foldl addFlow diagram

/-- Interactions come first, then all flows. -/
def ofFunctions
    (functions : OrderedMap String Declaration)
    (graph : CallGraph)
    (index : ComponentIndex) :
    Except MissingKey Diagram :=
  match addInteraction index ∅ (Interaction.ofCalls functions graph) with
  | (_, some missing) => .error missing
  | (diagram, none) => .ok (diagram.addFlows functions)

end Diagram

end ThreatModel
