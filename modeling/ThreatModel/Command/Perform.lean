import ThreatModel.Command.Load
import ThreatModel.Report.Format
import ThreatModel.Report.Output

/-!
Contract: what the commands do.

Owns:
- the report and the diagram of a request, written where its settings say;
- the summary of the declarations;
- the outcome of a whole command line.

Does not own: the texts of reports and diagrams.
-/

namespace ThreatModel.Command

/-! ## Reports -/

/-- The diagram within a report, which only the HTML report has. -/
def shownDiagram
    (settings : Settings)
    (diagram : Option Diagram) :
    Except MissingKey (Option String) :=
  match diagram, settings.report.format with
  | some diagram, .html =>
      (Diagram.Mermaid.write diagram settings.diagram.direction.name).map some
  | _, _ => .ok none

/-- Writes a report to its file, or to standard output where there is none. -/
def emitReport
    (settings : Settings)
    (analysis : Analysis)
    (diagram : Option Diagram)
    (tree : Tree) :
    Outcome :=
  match shownDiagram settings diagram with
  | .error missing => { tree := tree, stop := some (.unforeseen (.diagram (.noNode missing))) }
  | .ok shown =>
      let text := Report.write settings.report.format analysis settings.title shown
      match inked settings.report.output with
      | none => { stdout := text, tree := tree }
      | some path =>
          match Report.writeFile tree path text with
          | (tree, .error fault) => { tree := tree, stop := some (.unforeseen (.file fault)) }
          | (tree, .ok path) =>
              { messages := [.status ("Report generated: " ++ path)], tree := tree }

/-! ## Diagrams -/

/-- Without a renderer an image cannot be drawn, which is reported. -/
def diagramStop (fault : Diagram.OutputFault) : Stop :=
  match fault with
  | .noRenderer =>
      .reported ("Failed to render diagram, is Graphviz installed? " ++ fault.message)
  | _ => .unforeseen (.diagram fault)

def emitDiagram
    (settings : DiagramSettings)
    (diagram : Diagram)
    (tree : Tree) :
    Outcome :=
  let output := diagram.writeFile settings.direction.name tree settings.output settings.format
  let drawing := output.actions.map fun action => Message.log (.drawing action)
  match output.result with
  | .error fault => { messages := drawing, tree := output.tree, stop := some (diagramStop fault) }
  | .ok path =>
      { messages := drawing ++ [.status ("Diagram generated: " ++ path)], tree := output.tree }

/-! ## Summaries -/

def declarationLines (declaration : Declaration) : List String :=
  [declaration.function ++ " (" ++ declaration.model ++ ")"] ++
    (match declaration.definition with
      | none => []
      | some definition =>
          if definition.file = "" then []
          else
            ["  Defined: " ++ definition.file ++ ":" ++ toString definition.line ++ "  " ++
              definition.code]) ++
    [s!"  Mitigations: {declaration.mitigations.length}, " ++
      s!"Exposures: {declaration.exposures.length}, Does: {declaration.activities.length}, " ++
      s!"Sends/Receives: {declaration.flows.length}, Tests: {declaration.tests.length}"]

def summary (ledger : Ledger) : String :=
  Report.ofLines
    (ledger.declarations.flatMap declarationLines ++
      if ledger.orphans.isEmpty then [] else [s!"{ledger.orphans.length} orphaned annotation(s)"])

/-! ## Commands -/

/-- Meets a request on a tree of files, with what standard input gives. -/
def perform
    (request : Request)
    (tree : Tree)
    (stdin : Input) :
    Outcome :=
  (loadMaterials request tree).andThen tree fun materials tree =>
    let settings := materials.settings
    let analysis := materials.ledger.analyze
    match request.action with
    | .report => emitReport settings analysis none tree
    | .summary => { stdout := summary materials.ledger, tree := tree }
    | .graph =>
        (loadDiagram request analysis tree stdin).andThen tree (emitDiagram settings.diagram)
    | .run =>
        (loadDiagram request analysis tree stdin).andThen tree fun diagram tree =>
          (emitReport settings analysis (some diagram) tree).andThen fun tree =>
            if settings.diagram.enabled && !request.noDiagram then
              emitDiagram settings.diagram diagram tree
            else
              { tree := tree }

/-- What a command line brings about, as the one who gave it sees it. -/
structure Execution where
  exitCode : Nat
  stdout : String
  stderr : String
  tree : Tree
  failure : Option Failure

def Outcome.execution
    (outcome : Outcome)
    (verbose : Bool) :
    Execution where
  exitCode := outcome.exitCode
  stdout := outcome.stdout
  stderr := outcome.stderr verbose
  tree := outcome.tree
  failure := outcome.failure?

def versionText : String := "cli, version 1.0.0\n"

def execute
    (arguments : List String)
    (tree : Tree)
    (stdin : Input) :
    Execution :=
  match readArguments tree arguments with
  | .error fault => Outcome.execution { tree := tree, stop := some (.usage fault) } false
  | .ok .version => Outcome.execution { stdout := versionText, tree := tree } false
  | .ok .help => Outcome.execution { tree := tree } false
  | .ok (.request request) => (perform request tree stdin).execution request.verbose

end ThreatModel.Command
