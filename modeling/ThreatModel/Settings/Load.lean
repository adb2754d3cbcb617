import ThreatModel.Files.Tree
import ThreatModel.Settings.Check
import ThreatModel.Yaml.Read

/-!
Contract: the settings that a file holds.

Owns:
- which file is read, and what a missing one means;
- the faults of reading, and which of them are faults of the settings.

Does not own: what the settings are good for.
-/

namespace ThreatModel

namespace Settings

/-- Why a file holds no settings. -/
inductive LoadFault where
  | missing (path : String)
  | malformed (path : String)
  | notMapping (path : String)
  | invalid (faults : List Fault)
  /-- A key of the mapping is no text. -/
  | namelessKey
  | file (fault : Files.Fault)
  | encoding (fault : Text.Utf8.Fault)
  | scalar (fault : Yaml.Fault)
deriving DecidableEq, Repr

namespace LoadFault

def message : LoadFault → String
  | missing path => "Config file does not exist: " ++ path
  | malformed path => "YAML parse error in " ++ path
  | notMapping path => path ++ " must contain a mapping"
  | invalid _ => "Config validation error"
  | namelessKey => "keywords must be strings"
  | file fault => fault.message
  | encoding fault => fault.message
  | scalar fault => fault.message

/-- The fault is one of the settings, and not of something that happened on the way to them. -/
def isReported : LoadFault → Bool
  | missing _ => true
  | malformed _ => true
  | notMapping _ => true
  | invalid _ => true
  | _ => false

end LoadFault

/-- The file that is read where no other one is named. -/
def usualPath : String := ".threatspec.yaml"

/-- The text of octets. Octets that are left over at the end are looked at by themselves. -/
def decodeText (octets : List UInt8) : Except LoadFault String :=
  match Text.Utf8.decode octets with
  | .ok text => .ok (String.ofList text)
  | .error fault =>
      if fault.cause = .unexpectedEnd then .error (.encoding { fault with position := 0 })
      else .error (.encoding fault)

/-- The settings that a text holds; an empty document stands for the usual ones. -/
def ofText (path text : String) : Except LoadFault Settings :=
  match Yaml.read text with
  | .error .malformed => .error (.malformed path)
  | .error fault => .error (.scalar fault)
  | .ok .null => .ok {}
  | .ok (.mapping pairs) =>
      if pairs.all fun pair => pair.1.isText then
        match ofPairs pairs with
        | .ok settings => .ok settings
        | .error faults => .error (.invalid faults)
      else
        .error .namelessKey
  | .ok _ => .error (.notMapping path)

def loadFile
    (tree : Tree)
    (path : String) :
    Except LoadFault Settings := do
  match tree.readOctets path with
  | .error fault => .error (.file fault)
  | .ok octets => ofText path (← decodeText octets)

/-- The settings of a file. A file that is named has to be there; without a name, the usual file is
read if it is there. -/
def load
    (tree : Tree)
    (named : Option String) :
    Except LoadFault Settings :=
  match named with
  | none => if tree.isThere usualPath then loadFile tree usualPath else .ok {}
  | some given =>
      let path := normalPath given
      if tree.isThere path then loadFile tree path else .error (.missing path)

end Settings

end ThreatModel
