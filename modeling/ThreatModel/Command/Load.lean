import ThreatModel.Analysis.Basic
import ThreatModel.Command.Outcome
import ThreatModel.Command.Request
import ThreatModel.Diagram.Builder
import ThreatModel.Ledger.Source

/-!
Contract: all that a command reads before it writes anything.

Owns:
- the settings and sources of a request, in this order, and then its call graph;
- what standard input may give;
- the log of the reading;
- which faults of reading are reported, and which are not foreseen.

Does not own: what is written.
-/

namespace ThreatModel.Command

/-- Something read, or the reason for which a command stops, with the log up to there. -/
structure Reading (α : Type) where
  log : List LogRecord := []
  result : Except Stop α

/-! ## Settings and sources -/

/-- The settings and the ledger that a request is met with. -/
structure Materials where
  settings : Settings
  ledger : Ledger

def loadFailed (message : String) : Stop :=
  .reported ("Failed to load: " ++ message)

def settingsStop (fault : Settings.LoadFault) : Stop :=
  if fault.isReported then loadFailed fault.message
  else .unforeseen (.settings fault)

/-- The log of reading sources one after the other into a ledger. -/
def sourceLog
    (ledger : Ledger) :
    List Source → List LogRecord
  | [] => []
  | source :: rest =>
      .parsing source.name ::
        ((ledger.readNotices source.name source.text).map LogRecord.notice ++
          sourceLog (ledger.readSource source) rest)

def loadMaterials
    (request : Request)
    (tree : Tree) :
    Reading Materials :=
  match Settings.load tree request.settings with
  | .error fault => { result := .error (settingsStop fault) }
  | .ok settings =>
      let (sources, fault) := Source.loadAll tree request.files
      { log := sourceLog ∅ sources
        result :=
          match fault with
          | some fault => .error (loadFailed fault.message)
          | none => .ok ⟨request.overrides.apply settings, .ofSources sources⟩ }

/-! ## Standard input -/

inductive Input where
  | terminal
  | text (text : String)
  /-- Octets that are no text. -/
  | garbled (fault : Text.Utf8.Fault)
deriving DecidableEq, Repr

namespace Input

def ofOctets (octets : List UInt8) : Input :=
  match Text.Utf8.decode octets with
  | .ok characters => .text (String.ofList characters)
  | .error fault => .garbled fault

/-- Nothing is waited for at a terminal. -/
def lines : Input → Except CallGraph.LoadFault (List String)
  | .terminal => .ok []
  | .text given => .ok (Text.textLines given)
  | .garbled fault => .error (.encoding fault)

/-- A text, or `none` for a terminal. -/
instance : Coe (Option String) Input where
  coe given := given.elim terminal text

end Input

/-! ## Call graphs -/

/-- The lines of the call graph, which come from standard input where no file is named. -/
def callGraphLines
    (request : Request)
    (tree : Tree)
    (stdin : Input) :
    Except CallGraph.LoadFault (List String) :=
  match request.callGraph with
  | none => stdin.lines
  | some path => if path = "-" then stdin.lines else CallGraph.linesOfFile tree path

def callGraphStop (fault : CallGraph.LoadFault) : Stop :=
  match fault with
  | .unreadable _ _ => .reported ("Failed to load call graph: " ++ fault.message)
  | _ => .unforeseen (.callGraph fault)

def loadCallGraph
    (request : Request)
    (tree : Tree)
    (stdin : Input) :
    Reading CallGraph :=
  match callGraphLines request tree stdin with
  | .error fault => { result := .error (callGraphStop fault) }
  | .ok lines =>
      { log := (CallGraph.skipped lines).map .skipped
        result := (CallGraph.loadLines lines).mapError callGraphStop }

/-- The diagram of an analysis along the call graph. -/
def loadDiagram
    (request : Request)
    (analysis : Analysis)
    (tree : Tree)
    (stdin : Input) :
    Reading Diagram :=
  match loadCallGraph request tree stdin with
  | ⟨log, .error stop⟩ => ⟨log, .error stop⟩
  | ⟨log, .ok graph⟩ =>
      { log := log ++ (Interaction.undeclared analysis.functions graph).map .undeclared
        result :=
          (Diagram.ofFunctions analysis.functions graph analysis.components).mapError fun missing =>
            .unforeseen (.diagram (.noNode missing)) }

/-! ## Going on -/

/-- The outcome that follows from what was read, or the stop. Nothing is written in between. -/
def Reading.andThen {α : Type}
    (reading : Reading α)
    (tree : Tree)
    (proceed : α → Tree → Outcome) :
    Outcome :=
  let start : Outcome := { messages := reading.log.map .log, tree := tree }
  match reading.result with
  | .error stop => { start with stop := some stop }
  | .ok value => start.andThen (proceed value)

end ThreatModel.Command
