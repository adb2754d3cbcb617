import ThreatModel.Proofs.Command.Loading
import ThreatModel.Proofs.Command.Options
import ThreatModel.Proofs.Ledger.Notices
import ThreatModel.Proofs.Ledger.Sources

/-!
Contract: verbosity is of no effect but on the error stream.

Owns:
- all that is told of a command line, whether or not it is shown;
- the warnings of a run, one for each orphan line of the sources that were parsed;
- that the call for verbosity changes nothing but that it shows debug records.

Does not own: the wording of records.
-/

namespace ThreatModel.Command

/-! ## What is told -/

/-- What a command line brings about, with all that is told on the way. -/
def outcome
    (tree : Tree)
    (stdin : Input) :
    Except UsageFault Invocation → Outcome
  | .error fault => { tree := tree, stop := some (.usage fault) }
  | .ok .version => { stdout := versionText, tree := tree }
  | .ok .help => { tree := tree }
  | .ok (.request request) => perform request tree stdin

def asksVerbose : Except UsageFault Invocation → Bool
  | .ok (.request request) => request.verbose
  | _ => false

theorem execute_eq_outcome
    (arguments : List String)
    (tree : Tree)
    (stdin : Input) :
    execute arguments tree stdin =
      (outcome tree stdin (readArguments tree arguments)).execution
        (asksVerbose (readArguments tree arguments)) := by
  unfold execute
  cases readArguments tree arguments with
  | error fault => rfl
  | ok invocation => cases invocation <;> rfl

/-- Nothing that is done for a request depends on its verbosity. -/
theorem outcome_verbosely
    (tree : Tree)
    (stdin : Input)
    (asked : Except UsageFault Invocation) :
    outcome tree stdin (asked.map Invocation.verbosely) = outcome tree stdin asked := by
  cases asked with
  | error fault => rfl
  | ok invocation => cases invocation <;> rfl

def Message.isDebug : Message → Bool
  | log entry => entry.level = .debug
  | status _ => false

/-- The lines of an outcome on the error stream, those of debug records among them. -/
def Outcome.allLines (outcome : Outcome) : List String :=
  outcome.messages.map Message.text ++ (outcome.stop.bind Stop.lastLine?).toList

def Outcome.linesWithoutDebug (outcome : Outcome) : List String :=
  (outcome.messages.filter (!·.isDebug)).map Message.text ++
    (outcome.stop.bind Stop.lastLine?).toList

def streamText (lines : List String) : String :=
  String.join (lines.map (· ++ "\n"))

theorem Outcome.stderr_true (outcome : Outcome) :
    outcome.stderr true = streamText outcome.allLines := by
  have shown : outcome.messages.filter (·.isShown true) = outcome.messages :=
    List.filter_eq_self.mpr fun message _ => by cases message <;> rfl
  rw [stderr, errorLines, shown]
  rfl

theorem Outcome.stderr_false (outcome : Outcome) :
    outcome.stderr false = streamText outcome.linesWithoutDebug := by
  have shown : (Message.isShown false) = fun message => !message.isDebug := by
    funext message
    cases message with
    | log entry => cases level : entry.level <;> simp [Message.isShown, Message.isDebug, level]
    | status text => rfl
  rw [stderr, errorLines, shown]
  rfl

/-! ## Warnings -/

def LogRecord.isWarning (entry : LogRecord) : Bool :=
  entry.level = .warning

def Message.warning? : Message → Option LogRecord
  | log entry => if entry.isWarning then some entry else none
  | status _ => none

def Outcome.warnings (outcome : Outcome) : List LogRecord :=
  outcome.messages.filterMap Message.warning?

/-- The warnings that the lines of a source deserve. -/
def orphanWarnings (source : Source) : List LogRecord :=
  (SourceLine.orphaned source.lines).map fun line => .notice (line.orphanNotice source.name)

theorem filterMap_warning?_map_log (records : List LogRecord) :
    (records.map Message.log).filterMap Message.warning? = records.filter LogRecord.isWarning := by
  rw [List.filterMap_map, ← List.filterMap_eq_filter]
  exact List.filterMap_congr fun entry _ => by
    simp [Message.warning?, Option.guard]

/-- Only orphans are warned of. -/
theorem filter_isWarning_map_notice (notices : List Notice) :
    (notices.map LogRecord.notice).filter LogRecord.isWarning =
      (notices.filter Notice.isOrphaned).map LogRecord.notice := by
  rw [List.filter_map]
  congr 1
  exact List.filter_congr fun notice _ => by cases notice <;> rfl

/-- Each source adds its own warnings. -/
theorem filter_isWarning_sourceLog
    (ledger : Ledger)
    (sources : List Source) :
    (sourceLog ledger sources).filter LogRecord.isWarning = sources.flatMap orphanWarnings := by
  induction sources generalizing ledger with
  | nil => rfl
  | cons source rest inductionHypothesis =>
      have own : ((ledger.readNotices source.name source.text).map LogRecord.notice).filter
          LogRecord.isWarning = orphanWarnings source := by
        rw [filter_isWarning_map_notice, Ledger.filter_readNotices, List.map_map]
        rfl
      have parsing : LogRecord.isWarning (.parsing source.name) = false := rfl
      rw [sourceLog, List.filter_cons_of_neg (by simp [parsing]), List.filter_append, own,
        inductionHypothesis, List.flatMap_cons]

section Reading

variable {α : Type} {tree : Tree} {proceed : α → Tree → Outcome}

theorem warnings_andThen
    (reading : Reading α)
    (unwarned : ∀ value, (proceed value tree).warnings = []) :
    (reading.andThen tree proceed).warnings = reading.log.filter LogRecord.isWarning := by
  rw [← filterMap_warning?_map_log]
  cases found : reading.result with
  | error stop =>
      rw [Reading.andThen_of_error found]
      rfl
  | ok value =>
      have later := unwarned value
      rw [Outcome.warnings] at later
      rw [Reading.andThen_of_ok found, Outcome.warnings, List.filterMap_append, later,
        List.append_nil]

end Reading

theorem warnings_emitReport
    (settings : Settings)
    (analysis : Analysis)
    (diagram : Option Diagram)
    (tree : Tree) :
    (emitReport settings analysis diagram tree).warnings = [] := by
  unfold emitReport
  split
  · rfl
  · dsimp only
    split
    · rfl
    · split
      · rfl
      · rfl

theorem warnings_emitDiagram
    (settings : DiagramSettings)
    (diagram : Diagram)
    (tree : Tree) :
    (emitDiagram settings diagram tree).warnings = [] := by
  have drawing (actions : List String) :
      (actions.map fun action => Message.log (.drawing action)).filterMap Message.warning? = [] := by
    rw [List.filterMap_map]
    exact List.filterMap_eq_nil_iff.mpr fun _ _ => rfl
  unfold emitDiagram
  dsimp only
  split
  · exact drawing _
  · rw [Outcome.warnings, List.filterMap_append, drawing]
    rfl

theorem Outcome.warnings_andThen
    {outcome : Outcome}
    {proceed : Tree → Outcome}
    (unwarned : outcome.warnings = [])
    (later : ∀ tree, (proceed tree).warnings = []) :
    (outcome.andThen proceed).warnings = [] := by
  unfold andThen
  split
  · exact unwarned
  · have rest := later outcome.tree
    rw [warnings] at unwarned rest
    rw [warnings, List.filterMap_append, unwarned, rest]
    rfl

theorem filter_isWarning_loadDiagram
    (request : Request)
    (analysis : Analysis)
    (tree : Tree)
    (stdin : Input) :
    (loadDiagram request analysis tree stdin).log.filter LogRecord.isWarning = [] := by
  have ofGraph : ∀ entry ∈ (loadCallGraph request tree stdin).log, ¬entry.isWarning = true := by
    unfold loadCallGraph
    split
    · exact List.forall_mem_nil _
    · intro entry member
      obtain ⟨line, _, rfl⟩ := List.mem_map.mp member
      exact Bool.false_ne_true
  rw [List.filter_eq_nil_iff]
  unfold loadDiagram
  split
  · next log stop read =>
      rw [read] at ofGraph
      exact ofGraph
  · next log graph read =>
      rw [read] at ofGraph
      intro entry member
      rcases List.mem_append.mp member with inLog | added
      · exact ofGraph entry inLog
      · obtain ⟨function, _, rfl⟩ := List.mem_map.mp added
        exact Bool.false_ne_true

/-- The sources that a request parses: none without settings, and none from the first fault on. -/
def Request.parsed
    (request : Request)
    (tree : Tree) :
    List Source :=
  match Settings.load tree request.settings with
  | .error _ => []
  | .ok _ => (Source.loadAll tree request.files).1

theorem warnings_perform
    (request : Request)
    (tree : Tree)
    (stdin : Input) :
    (perform request tree stdin).warnings = (request.parsed tree).flatMap orphanWarnings := by
  have ofMaterials : (loadMaterials request tree).log.filter LogRecord.isWarning =
      (request.parsed tree).flatMap orphanWarnings := by
    unfold loadMaterials Request.parsed
    cases Settings.load tree request.settings with
    | error fault => rfl
    | ok settings => exact filter_isWarning_sourceLog ∅ _
  rw [← ofMaterials, perform]
  refine warnings_andThen _ fun materials => ?_
  dsimp only
  split
  · exact warnings_emitReport _ _ _ _
  · rfl
  · rw [warnings_andThen _ fun diagram => warnings_emitDiagram _ diagram _]
    exact filter_isWarning_loadDiagram _ _ _ _
  · rw [warnings_andThen, filter_isWarning_loadDiagram]
    intro diagram
    refine Outcome.warnings_andThen (warnings_emitReport _ _ _ _) fun tree => ?_
    split
    · exact warnings_emitDiagram _ _ _
    · rfl

/-- The warnings that a command line deserves. -/
def deservedWarnings (tree : Tree) : Except UsageFault Invocation → List LogRecord
  | .ok (.request request) => (request.parsed tree).flatMap orphanWarnings
  | _ => []

theorem warnings_outcome
    (tree : Tree)
    (stdin : Input)
    (asked : Except UsageFault Invocation) :
    (outcome tree stdin asked).warnings = deservedWarnings tree asked := by
  cases asked with
  | error fault => rfl
  | ok invocation =>
      cases invocation with
      | version => rfl
      | help => rfl
      | request request => exact warnings_perform request tree stdin

/-! ## The call for verbosity -/

theorem Outcome.stderr_asksVerbose
    (tree : Tree)
    (stdin : Input)
    (asked : Except UsageFault Invocation) :
    (outcome tree stdin asked).stderr (asksVerbose (asked.map Invocation.verbosely)) =
      streamText (outcome tree stdin asked).allLines := by
  rw [← stderr_true]
  cases asked with
  | error fault => rfl
  | ok invocation => cases invocation <;> rfl

/-- The flag stands anywhere behind the name of a command where an option can stand, as it can right
behind the name. It changes nothing but the error stream, which has all that is told instead of all
but the debug records; and the warnings are one for each orphan line of the parsed sources, in
order. -/
theorem flag_shows_debug_records
    {action : Action}
    {lead front : List String}
    (leads : lead = [] ∨ lead = ["--"])
    (settled : Settled action.switches front)
    {flag : String}
    (isFlag : flag = "-v" ∨ flag = "--verbose")
    (back : List String)
    (tree : Tree)
    (stdin : Input) :
    let line := lead ++ action.name :: (front ++ back)
    let quiet := execute line tree stdin
    let verbose := execute (lead ++ action.name :: (front ++ flag :: back)) tree stdin
    let asked := readArguments tree line
    let told := outcome tree stdin asked
    quiet.exitCode = verbose.exitCode ∧
      quiet.stdout = verbose.stdout ∧
      quiet.tree = verbose.tree ∧
      quiet.failure = verbose.failure ∧
      verbose.stderr = streamText told.allLines ∧
      (asksVerbose asked = true → quiet.stderr = verbose.stderr) ∧
      (asksVerbose asked = false → quiet.stderr = streamText told.linesWithoutDebug) ∧
      told.warnings = deservedWarnings tree asked := by
  intro line quiet verbose asked told
  have quietly : quiet = told.execution (asksVerbose asked) := execute_eq_outcome line tree stdin
  have verbosely : verbose =
      told.execution (asksVerbose (asked.map Invocation.verbosely)) := by
    change execute _ tree stdin = _
    rw [execute_eq_outcome, readArguments_flag isFlag leads settled tree back, outcome_verbosely]
  have all : verbose.stderr = streamText told.allLines := by
    rw [verbosely]
    exact Outcome.stderr_asksVerbose tree stdin asked
  refine ⟨?_, ?_, ?_, ?_, all, fun asks => ?_, fun asks => ?_,
    warnings_outcome tree stdin asked⟩
  · rw [quietly, verbosely]
    rfl
  · rw [quietly, verbosely]
    rfl
  · rw [quietly, verbosely]
    rfl
  · rw [quietly, verbosely]
    rfl
  · rw [all, quietly, asks]
    exact told.stderr_true
  · rw [quietly, asks]
    exact told.stderr_false

/-- A source with an orphan before its declaration and an item behind it. -/
def strayedText : String :=
  "// Mitigates a:b against c with d\n// ThreatSpec m for f\n// Does e for a:b\n"

def strayedTree : Tree where
  files := .ofList [(["a.go"], Text.Utf8.encode strayedText)]

/-- The flag stands behind an option with its value. One line of the source is warned of, with the
flag and without it. -/
theorem strayedText_warned_once :
    let quiet := execute ["report", "-o", "r.md", "a.go"] strayedTree .terminal
    let verbose := execute ["report", "-o", "r.md", "-v", "a.go"] strayedTree .terminal
    quiet.exitCode = verbose.exitCode ∧
      quiet.stdout = verbose.stdout ∧
      quiet.tree = verbose.tree ∧
      quiet.failure = verbose.failure ∧
      quiet.stderr = streamText
        ["[WARNING] Orphaned: // Mitigates a:b against c with d (a.go:1)",
          "Report generated: r.md"] ∧
      verbose.stderr = streamText
        ["[DEBUG] Parsing a.go",
          "[WARNING] Orphaned: // Mitigates a:b against c with d (a.go:1)",
          "Report generated: r.md"] := by
  intro quiet verbose
  have settled : Settled Action.report.switches ["-o", "r.md"] :=
    .valued (by decide) rfl .nil
  obtain ⟨sameCode, sameOutput, sameTree, sameFailure, shown, -, hidden, -⟩ :=
    flag_shows_debug_records (.inl rfl) settled (.inl rfl) ["a.go"] strayedTree .terminal
  refine ⟨sameCode, sameOutput, sameTree, sameFailure, ?_, ?_⟩
  · refine (hidden ?_).trans (congrArg streamText ?_)
    · decide +kernel
    · decide +kernel
  · refine shown.trans (congrArg streamText ?_)
    decide +kernel

end ThreatModel.Command
