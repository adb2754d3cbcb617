import ThreatModel.Proofs.CallGraph.Routes
import ThreatModel.Proofs.Command.Frame
import ThreatModel.Proofs.Command.Options

/-!
Contract: a command does the same with a call graph, wherever it comes from.

Owns:
- command lines that ask for the same, but for the source of the call graph;
- that the call graph of a file, and the same text on standard input, named or not,
  lead to the same exit code, the same output and the same changes of files.

Does not own: texts with carriage returns within their lines.
-/

namespace ThreatModel.Command

open ThreatModel.Text
open ThreatModel.Tree (SameBut StillSameBut)

/-! ## Sources of a call graph -/

variable {tree other : Tree} {octets : List UInt8} {content : String}

theorem ofOctets_of_decode
    (isText : Files.decode octets = .ok content) :
    Input.ofOctets octets = .text content := by
  unfold Files.decode at isText
  unfold Input.ofOctets
  cases decoded : Utf8.decode octets with
  | error fault =>
      rw [decoded] at isText
      cases isText
  | ok characters =>
      rw [decoded] at isText
      cases isText
      rfl

theorem loadGraph_of_path
    (request : Request)
    {path : String}
    (named : path ≠ "-")
    (tree : Tree)
    (stdin : Input) :
    Request.loadGraph { request with callGraph := some path } tree stdin =
      CallGraph.loadFile tree path := by
  have isFile : callGraphLines { request with callGraph := some path } tree stdin =
      CallGraph.linesOfFile tree path :=
    if_neg named
  rw [Request.loadGraph, isFile, CallGraph.loadFile]
  rfl

theorem loadGraph_of_input
    (request : Request)
    {given : Option String}
    (unnamed : given = none ∨ given = some "-")
    (tree : Tree)
    (isText : Files.decode octets = .ok content) :
    Request.loadGraph { request with callGraph := given } tree (.ofOctets octets) =
      (CallGraph.ofText content).mapError .line := by
  have isInput : callGraphLines { request with callGraph := given } tree (.ofOctets octets) =
      .ok (textLines content) := by
    rw [ofOctets_of_decode isText]
    rcases unnamed with rfl | rfl <;> rfl
  have loaded : (Except.ok (textLines content) : Except CallGraph.LoadFault (List String)).bind
      CallGraph.loadLines = CallGraph.loadLines (textLines content) := rfl
  rw [Request.loadGraph, isInput, loaded, CallGraph.loadLines, CallGraph.ofText]
  cases CallGraph.ofLines (textLines content) with
  | error fault => rfl
  | ok graph => rfl

/-! ## Command lines -/

/-- The same request with another call graph. -/
def Invocation.withCallGraph
    (invocation : Invocation)
    (given : Option String) :
    Invocation :=
  match invocation with
  | .request asked => .request { asked with callGraph := given }
  | other => other

/-- Three command lines that ask for the same, but that the call graph comes from a path, from
standard input by name, and from standard input for want of a name. -/
structure Routes
    (tree other : Tree)
    (path : String)
    (asked : Except UsageFault Invocation)
    (arguments dashed bare : List String) :
    Prop where
  named : path ≠ "-"
  byPath : readArguments tree arguments = asked.map (·.withCallGraph (some path))
  byDash : readArguments other dashed = asked.map (·.withCallGraph (some "-"))
  byPipe : readArguments other bare = asked.map (·.withCallGraph none)

/-! ## The option -/

theorem valueOf?_cons
    (first : Given)
    (given : List Given)
    (key : Key) :
    valueOf? (first :: given) key =
      (valueOf? given key).or (if first.key = key then some first.value else none) := by
  rw [valueOf?, valueOf?, List.reverse_cons, List.find?_append]
  cases given.reverse.find? (·.key = key) with
  | some last => rfl
  | none =>
      by_cases sameKey : first.key = key
      · simp [sameKey]
      · simp [sameKey]

section Option

variable {action : Action} (draws : action = .run ∨ action = .graph)

include draws

theorem part_callGraph
    (value : String)
    (rest : List String) :
    part action.switches true ("--call-graph" :: value :: rest) =
      (part action.switches true rest).map fun parted =>
        { parted with given := ⟨.callGraph, value⟩ :: parted.given } := by
  have taken : takeOption action.switches "--call-graph" (some value) =
      .ok (some ⟨[⟨.callGraph, value⟩], true⟩) := by
    rcases draws with rfl | rfl <;> rfl
  rw [part, if_neg (by decide), List.head?_cons, taken]
  rfl

/-- The value of the option is the call graph of the request, where no other one is given. Nothing
else is read in another way, and there are no other faults. -/
theorem readAction_callGraph
    {tree : Tree}
    {rest : List String}
    (unnamed : ∀ request, readAction tree action rest = .ok (.request request) →
      request.callGraph = none)
    (value : String) :
    readAction tree action ("--call-graph" :: value :: rest) =
      (readAction tree action rest).map (·.withCallGraph (some value)) := by
  have longer := part_callGraph draws value rest
  cases reads : part action.switches true rest with
  | error fault =>
      rw [reads] at longer
      rw [readAction, readAction, longer, reads]
      rfl
  | ok parted =>
      rw [reads] at longer
      rw [readAction_of_part reads] at unnamed ⊢
      rw [readAction_of_part longer]
      dsimp only
      rw [List.map_cons, List.filterMap_cons, valueFault?_of_nameless rfl]
      -- The value itself is never at fault, and the checks of the other values do not see it.
      have sameFaults (key : Key) :
          valueFault? action.switches (⟨.callGraph, value⟩ :: parted.given) key =
            valueFault? action.switches parted.given key :=
        valueFault?_insert rfl action.switches [] parted.given key
      simp only [List.mem_cons, reduceCtorEq, false_or, sameFaults]
      split
      · rfl
      · next noHelp =>
          rw [if_neg noHelp] at unnamed
          cases fault : ((parted.given.map Given.key).filterMap
              (valueFault? action.switches parted.given) ++
                (filesFault? tree parted.positional).toList).head? with
          | some fault => rfl
          | none =>
              rw [fault] at unnamed
              have noPath : valueOf? parted.given .callGraph = none := unnamed _ rfl
              simp [Request.ofParted, valueOf?_cons, isGiven, noPath, Invocation.withCallGraph,
                Except.map]

end Option

/-- The option comes first in two of the command lines, and not at all in the third one. The trees
may differ in the file of the call graph. -/
theorem routes_of_option
    {place : List String}
    (same : SameBut place tree other)
    {action : Action}
    (draws : action = .run ∨ action = .graph)
    {path : String}
    (named : path ≠ "-")
    {rest : List String}
    (unnamed : ∀ request, readArguments other (action.name :: rest) = .ok (.request request) →
      request.callGraph = none) :
    Routes tree other path (readArguments other (action.name :: rest))
      (action.name :: "--call-graph" :: path :: rest)
      (action.name :: "--call-graph" :: "-" :: rest)
      (action.name :: rest) where
  named := named
  byPath := by
    rw [← readArguments_eq same] at unnamed ⊢
    simp only [readArguments_action] at unnamed ⊢
    exact readAction_callGraph draws unnamed path
  byDash := by
    simp only [readArguments_action] at unnamed ⊢
    exact readAction_callGraph draws unnamed "-"
  byPipe := by
    cases reads : readArguments other (action.name :: rest) with
    | error fault => rfl
    | ok invocation =>
        cases invocation with
        | version => rfl
        | help => rfl
        | request request =>
            have isUnnamed := unnamed request reads
            cases request
            cases isUnnamed
            rfl

/-! ## Executions -/

/-- Nothing that a request reads or writes, its call graph apart, passes the place. -/
structure Request.Spares
    (request : Request)
    (tree : Tree)
    (place : List String) :
    Prop where
  inputs : ∀ path ∈ request.inputs, place ∉ tree.way path
  outputs : ∀ settings, Settings.load tree request.settings = .ok settings →
    ∀ path ∈ request.outputs (request.overrides.apply settings), place ∉ tree.way path

/-- The one who gave the command lines sees the same, messages apart. -/
structure Execution.SameEffect
    (before otherBefore : Tree)
    (execution other : Execution) :
    Prop where
  exitCode_eq : execution.exitCode = other.exitCode
  stdout_eq : execution.stdout = other.stdout
  failure_eq : execution.failure = other.failure
  changes_iff : ∀ change,
    change ∈ before.changes execution.tree ↔ change ∈ otherBefore.changes other.tree

variable {related : Tree → Tree → Prop}

theorem Outcome.Alike.sameEffect
    {outcome otherOutcome : Outcome}
    (alike : outcome.Alike related otherOutcome)
    (sameChanges : ∀ after otherAfter, related after otherAfter →
      ∀ change, change ∈ tree.changes after ↔ change ∈ other.changes otherAfter)
    (verbose : Bool) :
    (outcome.execution verbose).SameEffect tree other (otherOutcome.execution verbose) where
  exitCode_eq := by simp only [execution, exitCode, alike.stop_eq]
  stdout_eq := alike.stdout_eq
  failure_eq := by simp only [execution, failure?, alike.stop_eq]
  changes_iff := sameChanges _ _ alike.relates

theorem sameEffect_execute
    {asked : Except UsageFault Invocation}
    {arguments otherArguments : List String}
    {given otherGiven : Option String}
    (reads : readArguments tree arguments = asked.map (·.withCallGraph given))
    (otherReads : readArguments other otherArguments = asked.map (·.withCallGraph otherGiven))
    (relates : related tree other)
    (sameChanges : ∀ after otherAfter, related after otherAfter →
      ∀ change, change ∈ tree.changes after ↔ change ∈ other.changes otherAfter)
    {stdin otherStdin : Input}
    (sameGraph : ∀ request : Request,
      Request.loadGraph { request with callGraph := given } tree stdin =
        Request.loadGraph { request with callGraph := otherGiven } other otherStdin)
    (sameMaterials : ∀ request, asked = .ok (.request request) →
      (loadMaterials request tree).result = (loadMaterials request other).result)
    (keeps : ∀ request, asked = .ok (.request request) →
      ∀ materials, (loadMaterials request other).result = .ok materials →
        request.KeepsFiles related materials.settings) :
    (execute arguments tree stdin).SameEffect tree other
      (execute otherArguments other otherStdin) := by
  have unmet (stdout : String) (stop : Option Stop) :
      (Outcome.execution { stdout := stdout, tree := tree, stop := stop } false).SameEffect tree other
        (Outcome.execution { stdout := stdout, tree := other, stop := stop } false) := by
    have alike : Outcome.Alike related { stdout := stdout, tree := tree, stop := stop }
        { stdout := stdout, tree := other, stop := stop } :=
      ⟨rfl, rfl, relates⟩
    exact alike.sameEffect sameChanges false
  rw [execute, execute, reads, otherReads]
  cases asked with
  | error fault => exact unmet "" (some (.usage fault))
  | ok invocation =>
      cases invocation with
      | version => exact unmet versionText none
      | help => exact unmet "" none
      | request request =>
          have alike := alike_perform relates (sameMaterials request rfl) (sameGraph request)
            (keeps request rfl)
          exact alike.sameEffect sameChanges request.verbose

theorem Request.Spares.result_loadMaterials_eq
    {request : Request}
    {place : List String}
    (spares : request.Spares tree place)
    (same : SameBut place tree other) :
    (loadMaterials request tree).result = (loadMaterials request other).result := by
  have unpassedFiles : ∀ path ∈ request.files, place ∉ tree.way path :=
    fun path member => spares.inputs path (List.mem_cons_of_mem _ member)
  rw [loadMaterials, loadMaterials, Settings.load_eq same (spares.inputs _ List.mem_cons_self),
    Source.loadAll_eq same unpassedFiles]

theorem Request.Spares.keepsFiles
    {request : Request}
    {place : List String}
    (spares : request.Spares tree place)
    (same : SameBut place tree other)
    {materials : Materials}
    (loaded : (loadMaterials request other).result = .ok materials) :
    request.KeepsFiles (StillSameBut place tree other) materials.settings := by
  obtain ⟨⟨settings, ofSettings, inForce⟩, -⟩ := load_of_loadMaterials loaded
  rw [← Settings.load_eq same (spares.inputs _ List.mem_cons_self)] at ofSettings
  rw [inForce]
  exact Request.keepsFiles_stillSameBut (spares.outputs settings ofSettings) other

/-- Where runs of carriage returns end lines, a file and its text lead to the same graph or the same
fault. A command does the same with either, on one tree of files as well as on trees that are the
same but for the file of the call graph, if it does not use this file for anything else. -/
theorem callGraph_routes_agree
    {path : String}
    (isFile : tree.readOctets path = .ok octets)
    (isText : Files.decode octets = .ok content)
    (ended : ReturnsEnd content.toList) :
    CallGraph.loadFile tree path = (CallGraph.ofText content).mapError .line ∧
      ∀ (other : Tree) (place : List String) (asked : Except UsageFault Invocation)
        (arguments dashed bare : List String) (unread : Input),
        Routes tree other path asked arguments dashed bare →
          (tree = other ∨
            SameBut place tree other ∧
              ∀ request, asked = .ok (.request request) → request.Spares tree place) →
          (execute arguments tree unread).SameEffect tree other
              (execute dashed other (.ofOctets octets)) ∧
            (execute bare other (.ofOctets octets)).SameEffect other other
              (execute dashed other (.ofOctets octets)) := by
  have sameGraph := CallGraph.loadFile_eq_ofText isFile isText ended
  refine ⟨sameGraph, ?_⟩
  intro other place asked arguments dashed bare unread routes elsewhere
  have fromFile (request : Request) :
      Request.loadGraph { request with callGraph := some path } tree unread =
        Request.loadGraph { request with callGraph := some "-" } other (.ofOctets octets) := by
    rw [loadGraph_of_path request routes.named, sameGraph,
      loadGraph_of_input request (.inr rfl) other isText]
  have fromPipe (request : Request) :
      Request.loadGraph { request with callGraph := none } other (.ofOctets octets) =
        Request.loadGraph { request with callGraph := some "-" } other (.ofOctets octets) := by
    rw [loadGraph_of_input request (.inl rfl) other isText,
      loadGraph_of_input request (.inr rfl) other isText]
  constructor
  -- On one tree the executions go through equal trees, on two trees through ones that stay alike.
  · rcases elsewhere with rfl | ⟨same, spares⟩
    · exact sameEffect_execute routes.byPath routes.byDash rfl (by rintro _ _ rfl _; rfl) fromFile
        (fun _ _ => rfl) fun request _ _ _ => request.keepsFiles_eq _
    · exact sameEffect_execute routes.byPath routes.byDash same.still
        (fun _ _ still _ => still.mem_changes_iff same) fromFile
        (fun request isAsked => (spares request isAsked).result_loadMaterials_eq same)
        fun request isAsked _ loaded => (spares request isAsked).keepsFiles same loaded
  · exact sameEffect_execute routes.byPipe routes.byDash rfl (by rintro _ _ rfl _; rfl) fromPipe
      (fun _ _ => rfl) fun request _ _ _ => request.keepsFiles_eq _

/-- An edge with two carriage returns before its newline, and a line that is no edge. -/
def returnedCalls : String :=
  "f\t--static-3:7-->\tg\r\r\nno edge\r"

/-- The folder of `emptySource` with a call graph beside the source. -/
def callsTree : Tree where
  files := .ofList [(["a.go"], []), (["calls.txt"], Utf8.encode returnedCalls)]

theorem callsTree_sameBut : SameBut ["calls.txt"] callsTree emptySource := by
  refine ⟨rfl, rfl, fun parts notPlace => ?_⟩
  have inserted : callsTree.files =
      emptySource.files.insert ["calls.txt"] (Utf8.encode returnedCalls) := rfl
  rw [inserted, OrderedMap.get?_insert, if_neg notPlace]

/-- A request that writes a report and a diagram beside the call graph. -/
def callsRequest : Request where
  action := .run
  files := ["a.go"]
  overrides := { reportOutput := some "out/r.md", diagramFormat := some .dot }

theorem callsRequest_spares : callsRequest.Spares callsTree ["calls.txt"] := by
  constructor
  · decide +kernel
  · intro settings loaded
    have ofSettings : Settings.load callsTree callsRequest.settings = .ok {} := by
      decide +kernel
    rw [ofSettings] at loaded
    cases loaded
    decide +kernel

theorem returnedCalls_routes_agree :
    let arguments := ["--report-output", "out/r.md", "--diagram-format", "dot", "a.go"]
    let octets := Utf8.encode returnedCalls
    let fromFile := execute ("run" :: "--call-graph" :: "calls.txt" :: arguments) callsTree .terminal
    let fromDash :=
      execute ("run" :: "--call-graph" :: "-" :: arguments) emptySource (.ofOctets octets)
    let fromPipe := execute ("run" :: arguments) emptySource (.ofOctets octets)
    CallGraph.loadFile callsTree "calls.txt" =
        .ok (.ofList [("f", .ofList [("g", [⟨3, 7⟩])])]) ∧
      fromFile.SameEffect callsTree emptySource fromDash ∧
      fromPipe.SameEffect emptySource emptySource fromDash := by
  intro arguments octets fromFile fromDash fromPipe
  have reads : readArguments emptySource ("run" :: arguments) = .ok (.request callsRequest) := by
    decide +kernel
  have isFile : callsTree.readOctets "calls.txt" = .ok octets := by
    decide +kernel
  have isText : Files.decode octets = .ok returnedCalls := by
    decide +kernel
  have ended : ReturnsEnd returnedCalls.toList := by
    decide +kernel
  have ofText : (CallGraph.ofText returnedCalls).mapError CallGraph.LoadFault.line =
      .ok (.ofList [("f", .ofList [("g", [⟨3, 7⟩])])]) := by
    decide +kernel
  have onlyRequest (request : Request)
      (isAsked : readArguments emptySource ("run" :: arguments) = .ok (.request request)) :
      request = callsRequest := by
    rw [reads] at isAsked
    exact (Invocation.request.inj (Except.ok.inj isAsked)).symm
  have routes : Routes callsTree emptySource "calls.txt"
      (readArguments emptySource ("run" :: arguments))
      ("run" :: "--call-graph" :: "calls.txt" :: arguments)
      ("run" :: "--call-graph" :: "-" :: arguments) ("run" :: arguments) := by
    apply routes_of_option callsTree_sameBut
      (.inl rfl : Action.run = .run ∨ Action.run = .graph) (by decide)
    intro request isAsked
    rw [onlyRequest request isAsked]
    rfl
  obtain ⟨sameGraph, agree⟩ := callGraph_routes_agree isFile isText ended
  obtain ⟨ofFile, ofPipe⟩ := agree emptySource ["calls.txt"] _ _ _ _ .terminal routes
    (.inr ⟨callsTree_sameBut, fun request isAsked => by
      rw [onlyRequest request isAsked]
      exact callsRequest_spares⟩)
  exact ⟨sameGraph.trans ofText, ofFile, ofPipe⟩

end ThreatModel.Command
