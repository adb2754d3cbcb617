import ThreatModel.CallGraph.Load
import ThreatModel.Command.Usage
import ThreatModel.Diagram.Output
import ThreatModel.Ledger.Basic
import ThreatModel.Settings.Load

/-!
Contract: what a command leaves behind.

Owns:
- the records of a log, with their levels;
- the reasons for which a command stops, and what is told of them;
- outcomes, and one outcome after another: what comes after a stop does not happen;
- what the two output streams show.

Does not own: what the commands do.
-/

namespace ThreatModel.Command

/-! ## Logs -/

inductive Level where
  | debug
  | warning
deriving DecidableEq, Repr

def Level.name : Level → String
  | .debug => "DEBUG"
  | .warning => "WARNING"

inductive LogRecord where
  | parsing (file : String)
  | notice (notice : Notice)
  | skipped (line : String)
  | undeclared (function : String)
  | drawing (action : String)
deriving DecidableEq, Repr

namespace LogRecord

/-- Only an orphan is worth a warning. -/
def level : LogRecord → Level
  | notice (.orphaned _ _ _) => .warning
  | _ => .debug

def message : LogRecord → String
  | parsing file => "Parsing " ++ file
  | notice (.matched function file line) =>
      "Matched " ++ function ++ " to " ++ file ++ ":" ++ toString line
  | notice (.orphaned raw file line) =>
      "Orphaned: " ++ raw ++ " (" ++ file ++ ":" ++ toString line ++ ")"
  | skipped line => "Skipping call graph line: " ++ Text.quoted line
  | undeclared function => "Call graph node " ++ function ++ " is not annotated"
  | drawing action => action

end LogRecord

/-- What is told while a command runs. -/
inductive Message where
  | log (entry : LogRecord)
  | status (text : String)
deriving DecidableEq, Repr

namespace Message

/-- Only a verbose run shows what is there for the search of errors. -/
def isShown (verbose : Bool) : Message → Bool
  | log entry => verbose || entry.level ≠ .debug
  | status _ => true

def text : Message → String
  | log entry => "[" ++ entry.level.name ++ "] " ++ entry.message
  | status text => text

end Message

/-! ## Stops -/

/-- A fault that a command is not prepared for. -/
inductive Failure where
  | settings (fault : Settings.LoadFault)
  | callGraph (fault : CallGraph.LoadFault)
  | diagram (fault : Diagram.OutputFault)
  | file (fault : Files.Fault)
deriving DecidableEq, Repr

def Failure.message : Failure → String
  | .settings fault => fault.message
  | .callGraph fault => fault.message
  | .diagram fault => fault.message
  | .file fault => fault.message

/-- Why a command stops before its end. -/
inductive Stop where
  | usage (fault : UsageFault)
  | reported (text : String)
  | unforeseen (failure : Failure)
deriving DecidableEq, Repr

namespace Stop

def exitCode : Stop → Nat
  | usage _ => 2
  | _ => 1

/-- The last line on the error stream; an unforeseen failure leaves none. -/
def lastLine? : Stop → Option String
  | usage fault => some ("Error: " ++ fault.message)
  | reported text => some text
  | unforeseen _ => none

end Stop

/-! ## Outcomes -/

structure Outcome where
  messages : List Message := []
  stdout : String := ""
  /-- The files afterwards. -/
  tree : Tree
  stop : Option Stop := none

namespace Outcome

/-- Goes on with the files that an outcome leaves, unless it is a stop. -/
def andThen
    (outcome : Outcome)
    (proceed : Tree → Outcome) :
    Outcome :=
  match outcome.stop with
  | some _ => outcome
  | none =>
      let later := proceed outcome.tree
      { messages := outcome.messages ++ later.messages
        stdout := outcome.stdout ++ later.stdout
        tree := later.tree
        stop := later.stop }

def exitCode (outcome : Outcome) : Nat :=
  (outcome.stop.map Stop.exitCode).getD 0

def failure? (outcome : Outcome) : Option Failure :=
  match outcome.stop with
  | some (.unforeseen failure) => some failure
  | _ => none

/-- The lines that the error stream shows. -/
def errorLines
    (outcome : Outcome)
    (verbose : Bool) :
    List String :=
  (outcome.messages.filter (·.isShown verbose)).map Message.text ++
    (outcome.stop.bind Stop.lastLine?).toList

def stderr
    (outcome : Outcome)
    (verbose : Bool) :
    String :=
  String.join ((outcome.errorLines verbose).map (· ++ "\n"))

end Outcome

end ThreatModel.Command
