import ThreatModel.Entry.Basic
import ThreatModel.Component.Basic

/-!
Contract: the records that annotations become.

Owns:
- findings (mitigations and exposures), activities, flows and tests, each with
  the line that it came from;
- a declared function with its records and the definition found for it;
- the directions that a flow may be given by name.

Does not own: which function a record belongs to.
-/

namespace ThreatModel

open ThreatModel.Text

/-- A mitigation or an exposure: what a function does, or fails to do, about a threat to a
component. -/
structure Finding where
  component : Component
  threat : String
  text : String
  ref : Option String
  raw : String
deriving DecidableEq, Repr

/-- Something a function does for a component, at no risk. -/
structure Activity where
  action : String
  component : Component
  ref : Option String
  raw : String
deriving DecidableEq, Repr

/-- A directed flow of data between two components. -/
structure Flow where
  direction : Direction
  subject : String
  source : Component
  dest : Component
  raw : String
deriving DecidableEq, Repr

/-- A test of a function against a threat; the function need not be declared. -/
structure TestRecord where
  function : String
  threat : String
  ref : Option String
  raw : String
deriving DecidableEq, Repr

/-- Where the code of a declared function stands. -/
structure Definition where
  code : String
  file : String
  line : Int
deriving DecidableEq, Repr

structure Declaration where
  model : String
  function : String
  raw : String
  mitigations : List Finding := []
  exposures : List Finding := []
  activities : List Activity := []
  flows : List Flow := []
  tests : List TestRecord := []
  definition : Option Definition := none
deriving DecidableEq, Repr

/-- A flow names its direction in any case. -/
inductive DirectionFault where
  | unknown (given : String)
deriving DecidableEq, Repr

def DirectionFault.message : DirectionFault → String
  | .unknown _ => "String should match pattern '^(sends|receives)$'"

def Direction.ofText? (given : String) : Except DirectionFault Direction :=
  let lowered := String.ofList (lowercase given.toList)
  if lowered = Direction.sends.name then .ok .sends
  else if lowered = Direction.receives.name then .ok .receives
  else .error (.unknown given)

namespace Declaration

/-- The declaration with one more record, made of an item and its line. -/
def add
    (declaration : Declaration)
    (item : Entry.Item)
    (raw : String) :
    Declaration :=
  match item with
  | .mitigation component threat text ref =>
      { declaration with
        mitigations := declaration.mitigations ++ [⟨.ofReference component, threat, text, ref, raw⟩] }
  | .exposure component threat text ref =>
      { declaration with
        exposures := declaration.exposures ++ [⟨.ofReference component, threat, text, ref, raw⟩] }
  | .activity action component ref =>
      { declaration with
        activities := declaration.activities ++ [⟨action, .ofReference component, ref, raw⟩] }
  | .flow direction subject source dest =>
      { declaration with
        flows :=
          declaration.flows ++ [⟨direction, subject, .ofReference source, .ofReference dest, raw⟩] }
  | .test function threat ref =>
      { declaration with tests := declaration.tests ++ [⟨function, threat, ref, raw⟩] }

/-- The number of records other than tests. -/
def coverCount (declaration : Declaration) : Nat :=
  declaration.mitigations.length + declaration.exposures.length +
    declaration.activities.length + declaration.flows.length

end Declaration

end ThreatModel
