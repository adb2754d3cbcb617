import ThreatModel.Text.Split

/-!
Contract: path names.

Owns:
- the normal form of a path name: no empty and no `.` parts, and `.` for nothing
  at all; `..` stays, since it need not undo the part before it;
- the parent of a path, and the paths that a path passes through.

Does not own: what exists under a path.
-/

namespace ThreatModel

open ThreatModel.Text

/-- A path as its slashes part it. The root is empty for a path within the working folder. -/
structure Pathname where
  root : String
  parts : List String
deriving DecidableEq, Repr

namespace Pathname

def isSlash (character : Char) : Bool :=
  character = '/'

/-- One leading slash, or three and more, mean the same root; exactly two are a root of their own. -/
def rootOf (text : List Char) : String :=
  match (text.takeWhile isSlash).length with
  | 0 => ""
  | 2 => "//"
  | _ => "/"

def partsOf (text : List Char) : List String :=
  ((splitWhere isSlash text).map String.ofList).filter fun part => part ≠ "" && part ≠ "."

def ofText (text : String) : Pathname :=
  ⟨rootOf text.toList, partsOf text.toList⟩

def text (path : Pathname) : String :=
  if path.root = "" ∧ path.parts = [] then "."
  else path.root ++ "/".intercalate path.parts

/-- The folder that a path stands in; a root, and the working folder, are their own. -/
def parent (path : Pathname) : Pathname :=
  { path with parts := path.parts.dropLast }

/-- What names the folders on the way of a path and the path itself, each as it is written there:
all starts of the text that end where a part ends. -/
def writtenStarts (text : List Char) : List String :=
  ((List.range text.length).filter fun index =>
      (text[index]?.any fun character => !isSlash character) && text[index + 1]?.all isSlash).map
    fun index => String.ofList (text.take (index + 1))

end Pathname

/-- The normal form of a path name. -/
def normalPath (text : String) : String :=
  (Pathname.ofText text).text

end ThreatModel
