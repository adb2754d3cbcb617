import ThreatModel.Yaml.Tag
import ThreatModel.Yaml.Token

/-!
Contract: the nodes of a document.

Owns:
- nodes with their types, aliases being replaced by what they stand for;
- the merging of mappings into others.

Does not own: values.
-/

namespace ThreatModel.Yaml

inductive Node where
  | scalar (tag : Tag) (text : ScalarText)
  | sequence (tag : Tag) (items : List Node)
  /-- `merges` tells that whatever was to be merged in could be merged in. -/
  | mapping (tag : Tag) (pairs : List (Node × Node)) (merges : Bool)

namespace Node

/-- What stands where a node is left out. -/
def empty : Node :=
  .scalar .null (some [])

instance : Inhabited Node :=
  ⟨empty⟩

def tag : Node → Tag
  | .scalar tag _ => tag
  | .sequence tag _ => tag
  | .mapping tag _ _ => tag

def isCollection : Node → Bool
  | .scalar _ _ => false
  | _ => true

/-- The pairs that a node adds to a mapping that it is merged into, unless it cannot be merged. -/
def mergedPairs? : Node → Option (List (Node × Node))
  | .mapping _ pairs true => some pairs
  | .sequence _ items => do
      let rows ← items.mapM fun (item : Node) =>
        match item with
        | .mapping _ pairs true => some pairs
        | _ => none
      return rows.reverse.flatten
  | _ => none

/-- A mapping of pairs as they are written. What is merged in comes first, so that the mapping's own
pairs count, and of several mappings merged in together the earlier ones. -/
def ofPairs
    (tag : Tag)
    (pairs : List (Node × Node)) :
    Node :=
  let merged := (pairs.filter fun pair => pair.1.tag = .merge).mapM fun pair => pair.2.mergedPairs?
  let own := pairs.filter fun pair => pair.1.tag ≠ .merge
  .mapping tag ((merged.getD []).flatten ++ own) merged.isSome

end Node

end ThreatModel.Yaml
