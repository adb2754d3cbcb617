import Mathlib.Data.List.Permutation
import ThreatModel.Command.Perform

/-!
Contract: a command that cannot load what it needs does nothing.

Owns:
- outcomes that stop with nothing printed and nothing written;
- the requests whose settings, sources or call graph cannot be loaded, whatever
  else can be;
- that such a request, and a command line that is no request, has such an outcome.

Does not own: faults of writing.
-/

namespace ThreatModel.Command

/-- A stop before anything was printed, and with the files as they were. -/
structure Outcome.StopsEmpty
    (outcome : Outcome)
    (tree : Tree) :
    Prop where
  stopped : outcome.stop.isSome = true
  stdout_eq : outcome.stdout = ""
  tree_eq : outcome.tree = tree

namespace Reading

variable {α : Type} {reading : Reading α} {tree : Tree} {proceed : α → Tree → Outcome}

theorem andThen_of_error
    {stop : Stop}
    (failed : reading.result = .error stop) :
    reading.andThen tree proceed =
      { messages := reading.log.map .log, tree := tree, stop := some stop } := by
  unfold andThen
  rw [failed]

/-- The log comes before what follows. -/
theorem andThen_of_ok
    {value : α}
    (found : reading.result = .ok value) :
    reading.andThen tree proceed =
      { proceed value tree with
        messages := reading.log.map .log ++ (proceed value tree).messages } := by
  unfold andThen Outcome.andThen
  rw [found]
  simp only [String.empty_append]

/-- What was read is of no effect where all that follows from it is a stop. -/
theorem stopsEmpty_andThen
    (later : ∀ value, reading.result = .ok value → (proceed value tree).StopsEmpty tree) :
    (reading.andThen tree proceed).StopsEmpty tree := by
  cases found : reading.result with
  | error stop =>
      rw [andThen_of_error found]
      exact ⟨rfl, rfl, rfl⟩
  | ok value =>
      obtain ⟨stopped, stdout_eq, tree_eq⟩ := later value found
      rw [andThen_of_ok found]
      exact ⟨stopped, stdout_eq, tree_eq⟩

end Reading

/-! ## What was loaded -/

theorem loadAll_cons
    (tree : Tree)
    (path : String)
    (rest : List String) :
    Source.loadAll tree (path :: rest) =
      match Source.load tree path with
      | .error fault => ([], some fault)
      | .ok source => (source :: (Source.loadAll tree rest).1, (Source.loadAll tree rest).2) := by
  rfl

theorem load_of_loadAll
    {tree : Tree}
    {paths : List String}
    (loaded : (Source.loadAll tree paths).2 = none) :
    ∀ path ∈ paths, ∃ source, Source.load tree path = .ok source := by
  induction paths with
  | nil => exact List.forall_mem_nil _
  | cons first rest inductionHypothesis =>
      rw [loadAll_cons] at loaded
      cases found : Source.load tree first with
      | error fault =>
          rw [found] at loaded
          cases loaded
      | ok source =>
          rw [found] at loaded
          exact List.forall_mem_cons.mpr ⟨⟨source, found⟩, inductionHypothesis loaded⟩

/-- The settings are loaded, with the overrides in their place, and every source. -/
theorem load_of_loadMaterials
    {request : Request}
    {tree : Tree}
    {materials : Materials}
    (loaded : (loadMaterials request tree).result = .ok materials) :
    (∃ settings, Settings.load tree request.settings = .ok settings ∧
        materials.settings = request.overrides.apply settings) ∧
      ∀ path ∈ request.files, ∃ source, Source.load tree path = .ok source := by
  unfold loadMaterials at loaded
  cases ofSettings : Settings.load tree request.settings with
  | error fault =>
      rw [ofSettings] at loaded
      cases loaded
  | ok settings =>
      rw [ofSettings] at loaded
      dsimp only at loaded
      cases ofSources : (Source.loadAll tree request.files).2 with
      | some fault =>
          rw [ofSources] at loaded
          cases loaded
      | none =>
          rw [ofSources] at loaded
          cases loaded
          exact ⟨⟨settings, rfl, rfl⟩, load_of_loadAll ofSources⟩

/-- The call graph of a request, or why there is none. -/
def Request.loadGraph
    (request : Request)
    (tree : Tree)
    (stdin : Input) :
    Except CallGraph.LoadFault CallGraph :=
  (callGraphLines request tree stdin).bind CallGraph.loadLines

theorem result_loadCallGraph
    (request : Request)
    (tree : Tree)
    (stdin : Input) :
    (loadCallGraph request tree stdin).result =
      (request.loadGraph tree stdin).mapError callGraphStop := by
  rw [loadCallGraph, Request.loadGraph]
  cases callGraphLines request tree stdin <;> rfl

/-- The diagram is drawn from the call graph, and a fault of the graph is one of the diagram. -/
theorem result_loadDiagram_eq
    (request : Request)
    (analysis : Analysis)
    (tree : Tree)
    (stdin : Input) :
    (loadDiagram request analysis tree stdin).result =
      ((request.loadGraph tree stdin).mapError callGraphStop).bind fun graph =>
        (Diagram.ofFunctions analysis.functions graph analysis.components).mapError fun missing =>
          .unforeseen (.diagram (.noNode missing)) := by
  rw [← result_loadCallGraph]
  unfold loadDiagram
  cases loadCallGraph request tree stdin with
  | mk log result => cases result <;> rfl

theorem loadGraph_of_loadDiagram
    {request : Request}
    {analysis : Analysis}
    {tree : Tree}
    {stdin : Input}
    {diagram : Diagram}
    (loaded : (loadDiagram request analysis tree stdin).result = .ok diagram) :
    ∃ graph, request.loadGraph tree stdin = .ok graph := by
  rw [result_loadDiagram_eq] at loaded
  cases found : request.loadGraph tree stdin with
  | ok graph => exact ⟨graph, rfl⟩
  | error fault =>
      rw [found] at loaded
      cases loaded

/-! ## What cannot be loaded -/

/-- Something that the request needs cannot be loaded, for whatever reason. -/
inductive Request.Unloadable
    (request : Request)
    (tree : Tree)
    (stdin : Input) :
    Prop where
  | settings {fault : Settings.LoadFault}
      (fails : Settings.load tree request.settings = .error fault)
  | source {path : String} {fault : Source.Fault}
      (named : path ∈ request.files)
      (fails : Source.load tree path = .error fault)
  | callGraph {fault : CallGraph.LoadFault}
      (needed : request.action = .run ∨ request.action = .graph)
      (fails : request.loadGraph tree stdin = .error fault)

theorem Request.Unloadable.stopsEmpty_perform
    {request : Request}
    {tree : Tree}
    {stdin : Input}
    (unloadable : request.Unloadable tree stdin) :
    (perform request tree stdin).StopsEmpty tree := by
  refine Reading.stopsEmpty_andThen fun materials loaded => ?_
  obtain ⟨⟨settings, ofSettings, -⟩, ofSources⟩ := load_of_loadMaterials loaded
  cases unloadable with
  | settings fails =>
      rw [ofSettings] at fails
      cases fails
  | source named fails =>
      obtain ⟨source, ofSource⟩ := ofSources _ named
      rw [ofSource] at fails
      cases fails
  | callGraph needed fails =>
      have noDiagram (analysis : Analysis) (diagram : Diagram)
          (drawn : (loadDiagram request analysis tree stdin).result = .ok diagram) : False := by
        obtain ⟨graph, ofGraph⟩ := loadGraph_of_loadDiagram drawn
        rw [ofGraph] at fails
        cases fails
      dsimp only
      rcases needed with isRun | isGraph
      · rw [isRun]
        exact Reading.stopsEmpty_andThen fun diagram drawn => (noDiagram _ diagram drawn).elim
      · rw [isGraph]
        exact Reading.stopsEmpty_andThen fun diagram drawn => (noDiagram _ diagram drawn).elim

theorem Stop.exitCode_ne_zero (stop : Stop) : stop.exitCode ≠ 0 := by
  cases stop <;> simp [exitCode]

theorem Outcome.StopsEmpty.exitCode_ne_zero
    {outcome : Outcome}
    {tree : Tree}
    (stops : outcome.StopsEmpty tree) :
    outcome.exitCode ≠ 0 := by
  obtain ⟨stop, isStop⟩ := Option.isSome_iff_exists.mp stops.stopped
  rw [Outcome.exitCode, isStop]
  exact stop.exitCode_ne_zero

/-- A command line that is no call for help or for the version fails before any output, unless it
is a request for which everything can be loaded. -/
theorem execute_stops_of_unloadable
    {arguments : List String}
    {tree : Tree}
    {stdin : Input}
    (noHelp : readArguments tree arguments ≠ .ok .help)
    (noVersion : readArguments tree arguments ≠ .ok .version)
    (unloadable : ∀ request, readArguments tree arguments = .ok (.request request) →
      request.Unloadable tree stdin) :
    (execute arguments tree stdin).exitCode ≠ 0 ∧
      (execute arguments tree stdin).stdout = "" ∧
      (execute arguments tree stdin).tree = tree := by
  have stops {outcome : Outcome} (verbose : Bool) (stops : outcome.StopsEmpty tree) :
      (outcome.execution verbose).exitCode ≠ 0 ∧ (outcome.execution verbose).stdout = "" ∧
        (outcome.execution verbose).tree = tree :=
    ⟨stops.exitCode_ne_zero, stops.stdout_eq, stops.tree_eq⟩
  rw [execute]
  cases reads : readArguments tree arguments with
  | error fault => exact stops false ⟨rfl, rfl, rfl⟩
  | ok invocation =>
      cases invocation with
      | version => exact absurd reads noVersion
      | help => exact absurd reads noHelp
      | request request => exact stops request.verbose (unloadable request reads).stopsEmpty_perform

/-- A folder with one source in it, which declares nothing. -/
def emptySource : Tree where
  files := .ofList [(["a.go"], [])]

/-- The source is read, but what comes from standard input is no text. -/
theorem execute_garbled_input :
    let stdin := Input.ofOctets [0x61, 0xff]
    let execution := execute ["run", "--report-output", "r.md", "a.go"] emptySource stdin
    execution.exitCode ≠ 0 ∧ execution.stdout = "" ∧ execution.tree = emptySource := by
  intro stdin execution
  have reads : readArguments emptySource ["run", "--report-output", "r.md", "a.go"] =
      .ok (.request
        { action := .run, files := ["a.go"], overrides := { reportOutput := some "r.md" } }) := by
    cbv
  have isGarbled : stdin = .garbled ⟨1, 0xff, 1, .invalidStart⟩ := by
    decide
  refine execute_stops_of_unloadable (by simp [reads]) (by simp [reads]) fun request isRequest => ?_
  rw [reads] at isRequest
  obtain rfl := Invocation.request.inj (Except.ok.inj isRequest)
  rw [isGarbled]
  exact .callGraph (.inl rfl) rfl

end ThreatModel.Command
