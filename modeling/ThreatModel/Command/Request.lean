import ThreatModel.Command.Usage
import ThreatModel.Files.Tree
import ThreatModel.Format
import ThreatModel.Settings.Basic

/-!
Contract: what a command line asks for.

Owns:
- the commands and their options;
- requests, and the settings that they put in the place of others;
- which of several faults of a command line counts: the first one in the order in
  which options were first given, and then those of the files.

Does not own: how a request is met.
-/

namespace ThreatModel.Command

inductive Action where
  | run
  | report
  | graph
  | summary
deriving DecidableEq, Repr

/-- Settings given on the command line. -/
structure Overrides where
  reportFormat : Option ReportFormat := none
  reportOutput : Option String := none
  diagramFormat : Option DiagramFormat := none
  diagramOutput : Option String := none
deriving DecidableEq, Repr

structure Request where
  action : Action
  files : List String
  /-- The path of a call graph; a hyphen stands for standard input. -/
  callGraph : Option String := none
  overrides : Overrides := {}
  noDiagram : Bool := false
  settings : Option String := none
  verbose : Bool := false
deriving DecidableEq, Repr

inductive Invocation where
  | version
  | help
  | request (request : Request)
deriving DecidableEq, Repr

/-! ## Options -/

def helpSwitch : Switch :=
  { key := .help, long := "help", takesValue := false }

def versionSwitch : Switch :=
  { key := .version, long := "version", takesValue := false }

def callGraphSwitch : Switch :=
  { key := .callGraph, long := "call-graph", short := some 'g' }

def settingsSwitch : Switch :=
  { key := .settings, long := "config", short := some 'c' }

def verboseSwitch : Switch :=
  { key := .verbose, long := "verbose", short := some 'v', takesValue := false }

/-- A command that writes one thing has short names for its format and its output. -/
def formatSwitch (key : Key) : Switch :=
  { key := key, long := "format", short := some 'f' }

def outputSwitch (key : Key) : Switch :=
  { key := key, long := "output", short := some 'o' }

namespace Action

def name : Action → String
  | run => "run"
  | report => "report"
  | graph => "graph"
  | summary => "summary"

def all : List Action :=
  [run, report, graph, summary]

def ofName? (name : String) : Option Action :=
  all.find? (·.name = name)

def switches : Action → List Switch
  | run =>
      [callGraphSwitch, { key := .reportFormat, long := "report-format" },
        { key := .reportOutput, long := "report-output" },
        { key := .diagramFormat, long := "diagram-format" },
        { key := .diagramOutput, long := "diagram-output" },
        { key := .noDiagram, long := "no-diagram", takesValue := false },
        settingsSwitch, verboseSwitch, helpSwitch]
  | report =>
      [formatSwitch .reportFormat, outputSwitch .reportOutput, settingsSwitch, verboseSwitch,
        helpSwitch]
  | graph =>
      [callGraphSwitch, formatSwitch .diagramFormat, outputSwitch .diagramOutput, settingsSwitch,
        verboseSwitch, helpSwitch]
  | summary => [verboseSwitch, helpSwitch]

end Action

/-! ## Requests -/

/-- The value that was given last. -/
def valueOf?
    (given : List Given)
    (key : Key) :
    Option String :=
  (given.reverse.find? (·.key = key)).map Given.value

def isGiven
    (given : List Given)
    (key : Key) :
    Bool :=
  given.any (·.key = key)

/-- The names that the value of an option has to be among. -/
def namesFor : Key → Option (List String)
  | .reportFormat => some (ReportFormat.all.map ReportFormat.name)
  | .diagramFormat => some (DiagramFormat.all.map DiagramFormat.name)
  | _ => none

/-- What is wrong with the value of an option. -/
def valueFault?
    (switches : List Switch)
    (given : List Given)
    (key : Key) :
    Option UsageFault :=
  match switches.find? (·.key = key), valueOf? given key, namesFor key with
  | some switch, some value, some names =>
      if value ∈ names then none else some (.notAmong switch value names)
  | _, _, _ => none

/-- What is wrong with the files: there is none, or one of them is a folder. -/
def filesFault?
    (tree : Tree)
    (files : List String) :
    Option UsageFault :=
  match files.find? tree.isFolder with
  | some path => some (.folder path)
  | none => if files.isEmpty then some .missingFiles else none

def Request.ofParted
    (action : Action)
    (parted : Parted) :
    Request where
  action := action
  files := parted.positional
  callGraph := valueOf? parted.given .callGraph
  overrides :=
    { reportFormat := (valueOf? parted.given .reportFormat).bind ReportFormat.ofName?
      reportOutput := valueOf? parted.given .reportOutput
      diagramFormat := (valueOf? parted.given .diagramFormat).bind DiagramFormat.ofName?
      diagramOutput := valueOf? parted.given .diagramOutput }
  noDiagram := isGiven parted.given .noDiagram
  settings := valueOf? parted.given .settings
  verbose := isGiven parted.given .verbose

/-- The arguments after the name of a command. A call for help is met before values are looked
at. -/
def readAction
    (tree : Tree)
    (action : Action)
    (arguments : List String) :
    Except UsageFault Invocation := do
  let parted ← part action.switches true arguments
  let keys := parted.given.map Given.key
  if .help ∈ keys then
    return .help
  else
    let faults := keys.filterMap (valueFault? action.switches parted.given)
    match (faults ++ (filesFault? tree parted.positional).toList).head? with
    | some fault => .error fault
    | none => return .request (.ofParted action parted)

/-- The options before the name of a command, of which the first one counts, or what follows
them. -/
def readLeading (arguments : List String) : Except UsageFault (Invocation ⊕ List String) := do
  let parted ← part [versionSwitch, helpSwitch] false arguments
  match parted.given with
  | [] => return .inr parted.positional
  | first :: _ => return .inl (if first.key = .version then .version else .help)

/-- Reads a command line. What has the place of a command, but looks like an option, is read as an
option once more. -/
def readArguments
    (tree : Tree)
    (arguments : List String) :
    Except UsageFault Invocation := do
  if arguments.isEmpty then
    return .help
  else
    match ← readLeading arguments with
    | .inl invocation => return invocation
    | .inr [] => .error .missingCommand
    | .inr (name :: rest) =>
        match Action.ofName? name with
        | some action => readAction tree action rest
        | none =>
            if name.startsWith "-" then
              match ← readLeading (name :: rest) with
              | .inl invocation => return invocation
              | .inr _ => .error (.noSuchCommand name)
            else
              .error (.noSuchCommand name)

/-! ## Overrides -/

/-- A text that is empty says nothing. -/
def inked (text : Option String) : Option String :=
  text.filter (· ≠ "")

def Overrides.apply
    (overrides : Overrides)
    (settings : Settings) :
    Settings :=
  { settings with
    report :=
      { format := overrides.reportFormat.getD settings.report.format
        output := inked overrides.reportOutput <|> settings.report.output }
    diagram :=
      { settings.diagram with
        format := overrides.diagramFormat.getD settings.diagram.format
        output := (inked overrides.diagramOutput).getD settings.diagram.output } }

end ThreatModel.Command
