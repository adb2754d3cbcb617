import ThreatModel.Text.Split
import ThreatModel.Yaml.Node.Document
import ThreatModel.Yaml.Scalar
import ThreatModel.Yaml.Token.Stream

/-!
Contract: the value of a YAML text.

Owns:
- the values of nodes;
- which of several faults counts: of those in the values, the one that is least
  deep in the document, and of these the first;
- reading of a whole text.

Does not own: what a value is good for.
-/

namespace ThreatModel.Yaml

open ThreatModel.Text

namespace Node

/-! ## The scalar that a node stands for -/

mutual

/-- A mapping may stand for the scalar that it has under its default key. -/
def scalarText? : Node → Option ScalarText
  | .scalar _ text => some text
  | .sequence _ _ => none
  | .mapping _ pairs _ => defaultText? pairs

def defaultText? : List (Node × Node) → Option ScalarText
  | [] => none
  | (key, value) :: rest =>
      if key.tag = .default then scalarText? value else defaultText? rest

end

/-- The value of a node in a type that only scalars have. -/
def scalarValue
    (tag : Tag)
    (text : Option ScalarText) :
    Except Fault Value :=
  match text with
  | some text => Scalar.value tag text
  | none => .error .malformed

/-! ## Faults -/

/-- Faults by depth: the first list holds those of a node itself, the next one those of the nodes
directly in it, and so on. -/
abbrev Levels := List (List Fault)

def Levels.beside : Levels → Levels → Levels
  | [], right => right
  | left, [] => left
  | first :: left, second :: right => (first ++ second) :: beside left right

def faultOf (value : Except Fault Value) : Levels :=
  match value with
  | .ok _ => []
  | .error fault => [[fault]]

/-- A key may not be a collection. Under the default key a mapping keeps its value like under any
other text. -/
def keyFaults
    (key : Node)
    (own : Levels) :
    Levels :=
  if key.isCollection then own.beside [[.malformed]]
  else if key.tag = .default then []
  else own

mutual

def faults : Node → Levels
  | .scalar tag text => faultOf (Scalar.value tag text)
  | .sequence tag items =>
      if tag = .sequence then [] :: faultsOfItems items
      else if tag = .orderedMapping ∨ tag = .pairs then [] :: faultsOfEntries items
      else [[.malformed]]
  | .mapping tag pairs merges =>
      if tag = .mapping ∨ tag = .set then
        if merges then [] :: faultsOfPairs pairs else [[], [.malformed]]
      else
        faultOf (scalarValue tag (defaultText? pairs))

def faultsOfItems : List Node → Levels
  | [] => []
  | item :: rest => (faults item).beside (faultsOfItems rest)

/-- Entries are mappings of one pair each. -/
def faultsOfEntries : List Node → Levels
  | [] => []
  | .mapping _ [(key, value)] _ :: rest =>
      ((faults key).beside (faults value)).beside (faultsOfEntries rest)
  | _ :: _ => [[.malformed]]

def faultsOfPairs : List (Node × Node) → Levels
  | [] => []
  | (key, value) :: rest =>
      ((keyFaults key (faults key)).beside (faults value)).beside (faultsOfPairs rest)

end

/-! ## Values -/

mutual

def value : Node → Except Fault Value
  | .scalar tag text => Scalar.value tag text
  | .sequence tag items =>
      if tag = .sequence then (valuesOfItems items).map .sequence
      else if tag = .orderedMapping ∨ tag = .pairs then (valuesOfEntries items).map .sequence
      else .error .malformed
  | .mapping tag pairs merges =>
      if tag = .mapping ∨ tag = .set then
        if merges then
          (valuesOfPairs pairs).map fun pairs =>
            if tag = .set then .sequence (pairs.map Prod.fst) else .mapping pairs
        else
          .error .malformed
      else
        scalarValue tag (defaultText? pairs)

def valuesOfItems : List Node → Except Fault (List Value)
  | [] => .ok []
  | item :: rest => do
      let first ← value item
      return first :: (← valuesOfItems rest)

def valuesOfEntries : List Node → Except Fault (List Value)
  | [] => .ok []
  | .mapping _ [(key, under)] _ :: rest => do
      let keyValue ← value key
      let underValue ← value under
      return .sequence [keyValue, underValue] :: (← valuesOfEntries rest)
  | _ :: _ => .error .malformed

def valuesOfPairs : List (Node × Node) → Except Fault (List (Value × Value))
  | [] => .ok []
  | (key, under) :: rest => do
      let keyValue ← keyValue key (value key)
      let underValue ← value under
      return (keyValue, underValue) :: (← valuesOfPairs rest)
where
  keyValue (key : Node) (own : Except Fault Value) : Except Fault Value :=
    if key.isCollection then .error .malformed
    else if key.tag = .default then scalarValue .text key.scalarText?
    else own

end

end Node

/-! ## Texts -/

/-- The value of a text of accepted characters. An empty text has the empty value. -/
def read (text : String) : Except Fault Value := do
  let characters := unifyLineEnds text.toList
  if characters.all isAccepted then
    let root ← Node.ofTokens (← Token.ofChars characters)
    match root.faults.flatten.head? with
    | some fault => .error fault
    | none => root.value
  else
    .error .malformed

end ThreatModel.Yaml
