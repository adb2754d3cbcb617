import ThreatModel.Files.Text
import ThreatModel.Ledger.Basic

/-!
Contract: the files that annotated texts come from.

Owns:
- the text of a source file with the name that records know it by, or the fault
  of reading it;
- the reading of several files into one ledger, which stops at the first fault.

Does not own: the lines of a text.
-/

namespace ThreatModel

/-- A text with the normal form of its path. -/
structure Source where
  name : String
  text : String
deriving DecidableEq, Repr

namespace Source

inductive Fault where
  | missing (name : String)
  | unreadable (name : String) (cause : Files.TextFault)
deriving DecidableEq, Repr

def Fault.message : Fault → String
  | .missing name => "Source file does not exist: " ++ name
  | .unreadable name cause => "Cannot read source file " ++ name ++ ": " ++ cause.message

def load
    (tree : Tree)
    (path : String) :
    Except Fault Source :=
  let name := normalPath path
  match Files.readText tree name with
  | .ok text => .ok ⟨name, text⟩
  | .error (.file ⟨.notFound, _⟩) => .error (.missing name)
  | .error cause => .error (.unreadable name cause)

/-- The sources up to the first fault, and that fault. -/
def loadAll
    (tree : Tree) :
    List String → List Source × Option Fault
  | [] => ([], none)
  | path :: rest =>
      match load tree path with
      | .error fault => ([], some fault)
      | .ok source =>
          let (sources, fault) := loadAll tree rest
          (source :: sources, fault)

end Source

def Ledger.readSource
    (ledger : Ledger)
    (source : Source) :
    Ledger :=
  ledger.read source.name source.text

def Ledger.ofSources (sources : List Source) : Ledger :=
  sources.foldl Ledger.readSource ∅

end ThreatModel
