import ThreatModel.CallGraph.Basic
import ThreatModel.Ledger.Basic
import ThreatModel.Risk.Basic

/-!
Contract: the interactions between components that a call graph brings about.

Owns:
- the components that a function touches;
- the contributions of called functions to each pair of components, and the
  tallies of mitigations and exposures over all visits;
- the called functions that are not declared.

Does not own: the diagram that is made of them.
-/

namespace ThreatModel

/-- What one called function brings to a pair of components. -/
structure Contribution where
  callee : String
  mitigations : Int
  exposures : Int
deriving DecidableEq, Repr

def Contribution.risk (contribution : Contribution) : Risk :=
  .classify contribution.exposures contribution.mitigations

abbrev Destinations := OrderedMap String (List Contribution)

structure Interaction where
  edges : OrderedMap String Destinations := ∅
  mitigations : OrderedMap String Int := ∅
  exposures : OrderedMap String Int := ∅
deriving DecidableEq, Repr

namespace Declaration

def mitigationKeys (declaration : Declaration) : List String :=
  declaration.mitigations.map fun finding => finding.component.key

def exposureKeys (declaration : Declaration) : List String :=
  declaration.exposures.map fun finding => finding.component.key

def activityKeys (declaration : Declaration) : List String :=
  declaration.activities.map fun activity => activity.component.key

/-- The keys of the components that a function touches, each once; flows touch none. -/
def touched (declaration : Declaration) : List String :=
  (declaration.mitigationKeys ++ declaration.exposureKeys ++ declaration.activityKeys).eraseDups

def contribution
    (declaration : Declaration)
    (callee : String) :
    Contribution :=
  ⟨callee, declaration.mitigations.length, declaration.exposures.length⟩

end Declaration

namespace Interaction

def risk
    (interaction : Interaction)
    (key : String) :
    Risk :=
  .classify ((interaction.exposures.get? key).getD 0) ((interaction.mitigations.get? key).getD 0)

/-- Tallies the mitigations and exposures of a visited function. -/
def visit
    (interaction : Interaction)
    (declaration : Declaration) :
    Interaction :=
  { interaction with
    mitigations := declaration.mitigationKeys.foldl OrderedMap.tally interaction.mitigations
    exposures := declaration.exposureKeys.foldl OrderedMap.tally interaction.exposures }

/-- Adds a contribution to one pair of components. -/
def link
    (interaction : Interaction)
    (contribution : Contribution)
    (ends : String × String) :
    Interaction :=
  { interaction with
    edges := interaction.edges.alter ends.1 fun dests =>
      (dests.getD ∅).alter ends.2 fun contributions => contributions.getD [] ++ [contribution] }

/-- Every component of the caller with every component of the callee. -/
def pairs (sources dests : List String) : List (String × String) :=
  sources.flatMap fun source => dests.map fun dest => (source, dest)

/-- Follows one call between declared functions. -/
def call
    (interaction : Interaction)
    (caller : Declaration)
    (calleeName : String)
    (callee : Declaration) :
    Interaction :=
  (pairs caller.touched callee.touched).foldl
    (·.link (callee.contribution calleeName))
    (interaction.visit callee)

/-- Follows the calls of one declared function to declared functions, each callee once. -/
def callAll
    (interaction : Interaction)
    (functions : OrderedMap String Declaration)
    (caller : Declaration)
    (calleeNames : List String) :
    Interaction :=
  calleeNames.foldl
    (fun interaction name =>
      match functions.get? name with
      | none => interaction
      | some callee => interaction.call caller name callee)
    interaction

/-- Visits one declared function if it calls anything. -/
def addCaller
    (functions : OrderedMap String Declaration)
    (graph : CallGraph)
    (interaction : Interaction)
    (caller : String × Declaration) :
    Interaction :=
  match graph.get? caller.1 with
  | none => interaction
  | some callees => (interaction.visit caller.2).callAll functions caller.2 callees.keys

/-- The interactions of declared functions, given by name, along a call graph. -/
def ofCalls
    (functions : OrderedMap String Declaration)
    (graph : CallGraph) :
    Interaction :=
  functions.entries.foldl (addCaller functions graph) {}

/-- The called names that are not declared, once for each declared caller. -/
def undeclared
    (functions : OrderedMap String Declaration)
    (graph : CallGraph) :
    List String :=
  functions.entries.flatMap fun (name, _) =>
    match graph.get? name with
    | none => []
    | some callees => callees.keys.filter fun callee => !functions.contains callee

end Interaction

end ThreatModel
