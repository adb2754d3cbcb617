import ThreatModel.Files.Tree
import ThreatModel.Text.Split
import ThreatModel.Text.Utf8

/-!
Contract: text files.

Owns: the text of a file, whose line ends become newlines, or the fault of reading
or decoding it.

Does not own: what the texts say.
-/

namespace ThreatModel

namespace Files

inductive TextFault where
  | file (fault : Fault)
  | encoding (fault : Text.Utf8.Fault)
deriving DecidableEq, Repr

def TextFault.message : TextFault → String
  | .file fault => fault.message
  | .encoding fault => fault.message

/-- The text that octets hold, as it is. -/
def decode (octets : List UInt8) : Except TextFault String :=
  match Text.Utf8.decode octets with
  | .ok text => .ok (String.ofList text)
  | .error fault => .error (.encoding fault)

/-- The text of a file, with a newline for each line end. -/
def readText
    (tree : Tree)
    (path : String) :
    Except TextFault String :=
  match tree.readOctets path with
  | .error fault => .error (.file fault)
  | .ok octets => (decode octets).map fun text => String.ofList (Text.unifyLineEnds text.toList)

end Files

end ThreatModel
