import ThreatModel.Ledger.Basic

/-!
Contract: the index of components.

Owns:
- the facts that declarations state about components, in order;
- per component the actions, and per threat the mitigations and exposures, each
  with the function that states it;
- the wording of where an occurrence comes from.

Does not own: how risky a component is.
-/

namespace ThreatModel

/-- A mitigation or exposure with the function that states it, and the place of that function's
definition where it is known. -/
structure Occurrence where
  text : String
  ref : Option String
  function : String
  file : Option String
  line : Option Int
deriving DecidableEq, Repr

/-- `function in file:line`, an unknown file or line being left empty. -/
def provenanceOf
    (function : String)
    (file : Option String)
    (line : Option Int) :
    String :=
  function ++ " in " ++ file.getD "" ++ ":" ++ (line.map toString).getD ""

def Occurrence.provenance (occurrence : Occurrence) : String :=
  provenanceOf occurrence.function occurrence.file occurrence.line

structure ThreatRecord where
  name : String
  mitigations : List Occurrence := []
  exposures : List Occurrence := []
deriving DecidableEq, Repr

/-- What is known of a component; zone and name are spelled as they were first. -/
structure ComponentRecord where
  key : String
  component : Component
  threats : OrderedMap String ThreatRecord := ∅
  actions : List String := []
deriving DecidableEq, Repr

/-- What one record of a declaration says about a component. -/
inductive Statement where
  | mitigated (threat : String) (occurrence : Occurrence)
  | exposed (threat : String) (occurrence : Occurrence)
  | acted (action : String)
deriving DecidableEq, Repr

structure Fact where
  component : Component
  statement : Statement
deriving DecidableEq, Repr

def Finding.occurrence
    (finding : Finding)
    (function : String)
    (definition : Option Definition) :
    Occurrence where
  text := finding.text
  ref := finding.ref
  function := function
  file := definition.map Definition.file
  line := definition.map Definition.line

/-- Mitigations come first, then exposures, then actions. -/
def Declaration.facts
    (declaration : Declaration)
    (function : String) :
    List Fact :=
  let occurrence := fun (finding : Finding) =>
    finding.occurrence function declaration.definition
  (declaration.mitigations.map fun finding =>
    ⟨finding.component, .mitigated finding.threat (occurrence finding)⟩) ++
  (declaration.exposures.map fun finding =>
    ⟨finding.component, .exposed finding.threat (occurrence finding)⟩) ++
  (declaration.activities.map fun activity =>
    ⟨activity.component, .acted activity.action⟩)

namespace ComponentRecord

def ofComponent (component : Component) : ComponentRecord where
  key := component.key
  component := component

def alterThreat
    (record : ComponentRecord)
    (threat : String)
    (change : ThreatRecord → ThreatRecord) :
    ComponentRecord :=
  { record with
    threats := record.threats.alter threat fun known => change (known.getD { name := threat }) }

def add
    (record : ComponentRecord) :
    Statement → ComponentRecord
  | .mitigated threat occurrence =>
      record.alterThreat threat fun known =>
        { known with mitigations := known.mitigations ++ [occurrence] }
  | .exposed threat occurrence =>
      record.alterThreat threat fun known =>
        { known with exposures := known.exposures ++ [occurrence] }
  | .acted action => { record with actions := record.actions ++ [action] }

end ComponentRecord

/-- The records of all components by key, in the order of the first fact about each. -/
abbrev ComponentIndex := OrderedMap String ComponentRecord

namespace ComponentIndex

def add
    (index : ComponentIndex)
    (fact : Fact) :
    ComponentIndex :=
  index.alter fact.component.key fun known =>
    (known.getD (.ofComponent fact.component)).add fact.statement

def ofFacts (facts : List Fact) : ComponentIndex :=
  facts.foldl add ∅

/-- The index of declared functions, given by name. -/
def ofFunctions (functions : OrderedMap String Declaration) : ComponentIndex :=
  ofFacts (functions.entries.flatMap fun (name, declaration) => declaration.facts name)

end ComponentIndex

end ThreatModel
