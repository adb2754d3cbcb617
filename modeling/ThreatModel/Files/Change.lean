import ThreatModel.Files.Tree

/-!
Contract: what differs between two states of a tree.

Owns: the files that are new or hold something else, in the order of their paths,
which are compared part by part.

Does not own: files that are gone; none ever goes.
-/

namespace ThreatModel.Tree

structure Change where
  parts : List String
  octets : List UInt8
deriving DecidableEq, Repr

/-- The order of texts by the code points of their characters. -/
def textBefore : List Char → List Char → Bool
  | _, [] => false
  | [], _ :: _ => true
  | left :: leftRest, right :: rightRest =>
      if left = right then textBefore leftRest rightRest
      else decide (left.toNat < right.toNat)

/-- The order of paths, part by part; a folder comes before what is in it. -/
def partsUpTo : List String → List String → Bool
  | [], _ => true
  | _ :: _, [] => false
  | left :: leftRest, right :: rightRest =>
      if left = right then partsUpTo leftRest rightRest
      else textBefore left.toList right.toList

/-- The file with these parts holds these octets. -/
def holds
    (tree : Tree)
    (parts : List String)
    (octets : List UInt8) :
    Bool :=
  tree.files.get? parts = some octets

/-- The files of `after` that `before` does not have as they are. -/
def changes (before after : Tree) : List Change :=
  let changed := after.files.entries.filter fun entry =>
    !before.holds entry.1 entry.2
  (changed.map fun entry => Change.mk entry.1 entry.2).mergeSort fun left right =>
    partsUpTo left.parts right.parts

/-- The changes in the working folder, with their paths from there. -/
def workingChanges (before after : Tree) : List Change :=
  ((before.changes after).filter fun change => before.working.isPrefixOf change.parts).map
    fun change => { change with parts := change.parts.drop before.working.length }

/-- The folders of `after` that `before` does not have. -/
def newFolders (before after : Tree) : List (List String) :=
  after.folders.filter fun folder => !before.hasFolder folder

end ThreatModel.Tree
