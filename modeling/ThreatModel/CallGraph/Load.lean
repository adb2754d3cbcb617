import ThreatModel.CallGraph.Basic
import ThreatModel.Files.Text

/-!
Contract: the places that call graphs come from.

Owns:
- the text of a call graph, from a file or from what is given directly;
- the faults of reading, and which of them are faults of the call graph file.

Does not own: edge lines.
-/

namespace ThreatModel.CallGraph

inductive LoadFault where
  | unreadable (path : String) (fault : Files.Fault)
  | encoding (fault : Text.Utf8.Fault)
  | line (fault : Fault)
deriving DecidableEq, Repr

def LoadFault.message : LoadFault → String
  | .unreadable path fault => "Cannot read call graph " ++ path ++ ": " ++ fault.message
  | .encoding fault => fault.message
  | .line fault => fault.message

/-- The lines of a call graph file. -/
def linesOfFile
    (tree : Tree)
    (path : String) :
    Except LoadFault (List String) :=
  match Files.readText tree path with
  | .ok text => .ok (Text.textLines text)
  | .error (.file fault) => .error (.unreadable path fault)
  | .error (.encoding fault) => .error (.encoding fault)

def loadLines (lines : List String) : Except LoadFault CallGraph :=
  match ofLines lines with
  | .ok graph => .ok graph
  | .error fault => .error (.line fault)

def loadFile
    (tree : Tree)
    (path : String) :
    Except LoadFault CallGraph := do
  loadLines (← linesOfFile tree path)

end ThreatModel.CallGraph
