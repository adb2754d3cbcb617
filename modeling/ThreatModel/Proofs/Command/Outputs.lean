import ThreatModel.Proofs.Command.Frame
import ThreatModel.Proofs.Files.Written

/-!
Contract: a command writes nothing but the outputs of its request.

Owns:
- the files that reports and diagrams are written to, whether or not they come to an
  end;
- that a command line changes no file but where an output of its request goes;
- that no report is printed where a file is given for it.

Does not own: folders.
-/

namespace ThreatModel

open ThreatModel.Tree (WritesOnly)

/-! ## Reports and diagrams -/

theorem Report.writesOnly_writeFile (tree : Tree) (path text : String) :
    WritesOnly [tree.destination path] tree (writeFile tree path text).1 := by
  unfold writeFile
  dsimp only
  split
  · exact .refl _ tree
  · next made makes =>
      have folders : WritesOnly [] tree made := Tree.writesOnly_makeFoldersFrom makes
      have folders := folders.mono (List.nil_subset [tree.destination path])
      split
      · exact folders
      · next written writes =>
          have file := Tree.writesOnly_writeOctets writes
          rw [folders.destination_eq] at file
          rw [← tree.destination_normalPath] at folders ⊢
          exact folders.trans file

namespace Diagram

theorem writesOnly_writeTextFile
    (tree : Tree)
    (path suffix : String)
    (content : Except MissingKey String) :
    WritesOnly [tree.destination (path ++ suffix)] tree
      (writeTextFile tree path suffix content).tree := by
  unfold writeTextFile
  split
  · exact .refl _ tree
  · dsimp only
    split
    · exact .refl _ tree
    · next written writes =>
        rw [← tree.destination_normalPath]
        exact Tree.writesOnly_writeOctets writes

theorem writesOnly_writeImage
    (tree : Tree)
    (path : String)
    (format : DiagramFormat)
    (content : Except MissingKey String) :
    WritesOnly [tree.destination path] tree (writeImage tree path format content).tree := by
  unfold writeImage
  split
  · exact .refl _ tree
  · dsimp only
    split
    · exact .refl _ tree
    · next made makes =>
        have folders := (Tree.writesOnly_makeEach makes).mono
          (List.nil_subset [tree.destination path])
        split
        · exact folders
        · next written writes =>
            have file := Tree.writesOnly_writeOctets writes
            rw [folders.destination_eq] at file
            exact folders.trans file

theorem writesOnly_writeFile
    (diagram : Diagram)
    (direction : String)
    (tree : Tree)
    (path : String)
    (format : DiagramFormat) :
    WritesOnly [tree.destination (target path format)] tree
      (diagram.writeFile direction tree path format).tree := by
  cases format with
  | dot => exact writesOnly_writeTextFile tree path ".dot" _
  | mermaid => exact writesOnly_writeTextFile tree path ".mmd" _
  | png => exact writesOnly_writeImage tree path .png _
  | svg => exact writesOnly_writeImage tree path .svg _
  | pdf => exact writesOnly_writeImage tree path .pdf _

end Diagram

namespace Command

/-! ## Outcomes -/

/-- Nothing is written but at these paths. -/
def Outcome.WritesTo
    (outcome : Outcome)
    (paths : List String)
    (tree : Tree) :
    Prop :=
  WritesOnly (paths.map tree.destination) tree outcome.tree

theorem writesTo_emitReport
    (settings : Settings)
    (analysis : Analysis)
    (diagram : Option Diagram)
    (tree : Tree) :
    (emitReport settings analysis diagram tree).WritesTo (inked settings.report.output).toList
      tree := by
  unfold emitReport
  split
  · exact .refl _ tree
  · next shown _ =>
      dsimp only
      cases inked settings.report.output with
      | none => exact .refl _ tree
      | some path =>
          have writes := Report.writesOnly_writeFile tree path
            (Report.write settings.report.format analysis settings.title shown)
          dsimp only
          generalize Report.writeFile tree path
            (Report.write settings.report.format analysis settings.title shown) = written at writes
          obtain ⟨after, result⟩ := written
          cases result with
          | error fault => exact writes
          | ok path => exact writes

theorem writesTo_emitDiagram
    (settings : DiagramSettings)
    (diagram : Diagram)
    (tree : Tree) :
    (emitDiagram settings diagram tree).WritesTo
      [Diagram.target settings.output settings.format] tree := by
  have writes := diagram.writesOnly_writeFile settings.direction.name tree settings.output
    settings.format
  unfold emitDiagram
  dsimp only
  split
  · exact writes
  · exact writes

namespace Outcome.WritesTo

variable {outcome : Outcome} {paths : List String} {tree : Tree}

theorem mono
    (writes : outcome.WritesTo paths tree)
    {more : List String}
    (among : paths ⊆ more) :
    outcome.WritesTo more tree :=
  WritesOnly.mono writes (List.map_subset tree.destination among)

theorem andThen
    (writes : outcome.WritesTo paths tree)
    {proceed : Tree → Outcome}
    (proceeds : ∀ tree, (proceed tree).WritesTo paths tree) :
    (outcome.andThen proceed).WritesTo paths tree := by
  unfold Outcome.andThen
  split
  · exact writes
  · have later := proceeds outcome.tree
    have sameDestinations : outcome.tree.destination = tree.destination :=
      funext writes.destination_eq
    rw [WritesTo, sameDestinations] at later
    exact WritesOnly.trans writes later

end Outcome.WritesTo

/-- Reading writes nothing. -/
theorem Reading.writesTo_andThen
    {α : Type}
    {reading : Reading α}
    {tree : Tree}
    {proceed : α → Tree → Outcome}
    {paths : List String}
    (proceeds : ∀ value, reading.result = .ok value → (proceed value tree).WritesTo paths tree) :
    (reading.andThen tree proceed).WritesTo paths tree := by
  cases found : reading.result with
  | error stop =>
      rw [andThen_of_error found]
      exact .refl _ tree
  | ok value =>
      rw [andThen_of_ok found]
      exact proceeds value found

/-! ## Printing -/

theorem stdout_emitReport
    {settings : Settings}
    (toFile : inked settings.report.output ≠ none)
    (analysis : Analysis)
    (diagram : Option Diagram)
    (tree : Tree) :
    (emitReport settings analysis diagram tree).stdout = "" := by
  unfold emitReport
  split
  · rfl
  · dsimp only
    split
    · next noFile => exact absurd noFile toFile
    · split
      · rfl
      · rfl

theorem stdout_emitDiagram
    (settings : DiagramSettings)
    (diagram : Diagram)
    (tree : Tree) :
    (emitDiagram settings diagram tree).stdout = "" := by
  unfold emitDiagram
  dsimp only
  split
  · rfl
  · rfl

theorem Outcome.stdout_andThen
    {outcome : Outcome}
    (silent : outcome.stdout = "")
    {proceed : Tree → Outcome}
    (later : ∀ tree, (proceed tree).stdout = "") :
    (outcome.andThen proceed).stdout = "" := by
  unfold andThen
  split
  · exact silent
  · simp only [silent, later, String.append_empty]

theorem Reading.stdout_andThen
    {α : Type}
    {reading : Reading α}
    {tree : Tree}
    {proceed : α → Tree → Outcome}
    (later : ∀ value, reading.result = .ok value → (proceed value tree).stdout = "") :
    (reading.andThen tree proceed).stdout = "" := by
  cases found : reading.result with
  | error stop => rw [andThen_of_error found]
  | ok value =>
      rw [andThen_of_ok found]
      exact later value found

/-! ## Requests -/

section Perform

variable
  {request : Request}
  {tree : Tree}
  {settings : Settings}
  (loaded : Settings.load tree request.settings = .ok settings)

include loaded

/-- The settings in force are those that were loaded, under the overrides of the request. -/
theorem settings_eq_of_loadMaterials
    {materials : Materials}
    (found : (loadMaterials request tree).result = .ok materials) :
    materials.settings = request.overrides.apply settings := by
  obtain ⟨⟨other, otherLoaded, inForce⟩, _⟩ := load_of_loadMaterials found
  obtain rfl := Except.ok.inj (loaded.symm.trans otherLoaded)
  exact inForce

theorem writesTo_perform (stdin : Input) :
    (perform request tree stdin).WritesTo
      (request.outputs (request.overrides.apply settings)) tree := by
  refine Reading.writesTo_andThen fun materials found => ?_
  have inForce := settings_eq_of_loadMaterials loaded found
  rw [← inForce]
  dsimp only
  cases isAction : request.action with
  | report =>
      rw [Request.outputs, isAction]
      exact writesTo_emitReport _ _ _ _
  | summary => exact .refl _ tree
  | graph =>
      rw [Request.outputs, isAction]
      exact Reading.writesTo_andThen fun diagram _ => writesTo_emitDiagram _ diagram _
  | run =>
      rw [Request.outputs, isAction]
      refine Reading.writesTo_andThen fun diagram _ => ?_
      refine ((writesTo_emitReport _ _ _ _).mono (List.subset_append_left _ _)).andThen fun tree => ?_
      split
      · exact (writesTo_emitDiagram _ diagram tree).mono (List.subset_append_right _ _)
      · exact .refl _ tree

/-- A report goes to its file, and what follows it prints nothing. -/
theorem stdout_perform
    (reports : request.action = .run ∨ request.action = .report)
    (toFile : inked (request.overrides.apply settings).report.output ≠ none)
    (stdin : Input) :
    (perform request tree stdin).stdout = "" := by
  refine Reading.stdout_andThen fun materials found => ?_
  rw [← settings_eq_of_loadMaterials loaded found] at toFile
  dsimp only
  rcases reports with isAction | isAction
  · rw [isAction]
    refine Reading.stdout_andThen fun diagram _ => ?_
    refine Outcome.stdout_andThen (stdout_emitReport toFile _ _ _) fun tree => ?_
    split
    · exact stdout_emitDiagram _ _ _
    · rfl
  · rw [isAction]
    exact stdout_emitReport toFile _ _ _

end Perform

/-- Where settings cannot be loaded, nothing is written at all. -/
theorem perform_writes_outputs
    (request : Request)
    (tree : Tree)
    (stdin : Input)
    {parts : List String}
    (changed : (perform request tree stdin).tree.files.get? parts ≠ tree.files.get? parts) :
    ∃ settings,
      Settings.load tree request.settings = .ok settings ∧
        ∃ path ∈ request.outputs (request.overrides.apply settings),
          parts = tree.destination path := by
  cases loaded : Settings.load tree request.settings with
  | error fault =>
      have noMaterials : (loadMaterials request tree).result = .error (settingsStop fault) := by
        rw [loadMaterials, loaded]
      rw [perform, Reading.andThen_of_error noMaterials] at changed
      exact absurd rfl changed
  | ok settings =>
      by_contra elsewhere
      refine changed ((writesTo_perform loaded stdin).files_eq parts fun member => elsewhere ?_)
      obtain ⟨path, isOutput, isPlace⟩ := List.mem_map.mp member
      exact ⟨settings, rfl, path, isOutput, isPlace.symm⟩

/-! ## Command lines -/

/-- The settings that a command line is met with, where it asks for something and the settings can
be loaded. -/
def InForce
    (arguments : List String)
    (tree : Tree)
    (request : Request)
    (settings : Settings) :
    Prop :=
  readArguments tree arguments = .ok (.request request) ∧
    ∃ loaded,
      Settings.load tree request.settings = .ok loaded ∧
        settings = request.overrides.apply loaded

/-- A file that a command line changes is one of the outputs of its request under the settings in
force, whatever else fails. A run, or a report, that has a file for its report prints nothing. -/
theorem execute_writes_outputs
    (arguments : List String)
    (tree : Tree)
    (stdin : Input) :
    let execution := execute arguments tree stdin
    (∀ parts, execution.tree.files.get? parts ≠ tree.files.get? parts →
      ∃ request settings,
        InForce arguments tree request settings ∧
          ∃ path ∈ request.outputs settings, parts = tree.destination path) ∧
      ∀ request settings, InForce arguments tree request settings →
        request.action = .run ∨ request.action = .report →
        inked settings.report.output ≠ none →
          execution.stdout = "" := by
  intro execution
  constructor
  · intro parts changed
    change (execute arguments tree stdin).tree.files.get? parts ≠ _ at changed
    unfold execute at changed
    split at changed
    · exact absurd rfl changed
    · exact absurd rfl changed
    · exact absurd rfl changed
    · next request reads =>
        obtain ⟨settings, loaded, written⟩ := perform_writes_outputs request tree stdin changed
        exact ⟨request, _, ⟨reads, settings, loaded, rfl⟩, written⟩
  · rintro request _ ⟨reads, settings, loaded, rfl⟩ reports toFile
    change (execute arguments tree stdin).stdout = ""
    unfold execute
    rw [reads]
    exact stdout_perform loaded reports toFile stdin

/-- Both outputs of a run are left behind, though its image cannot be rendered. -/
theorem failedRun_writes_both :
    let arguments := ["run", "--report-output", "out/r.md", "--diagram-format", "png", "a.go"]
    let execution := execute arguments emptySource .terminal
    execution.exitCode = 1 ∧
      execution.tree.files.keys = [["a.go"], ["out", "r.md"], ["threatspec"]] ∧
      execution.stdout = "" := by
  intro arguments execution
  let request : Request :=
    { action := .run
      files := ["a.go"]
      overrides := { reportOutput := some "out/r.md", diagramFormat := some .png } }
  have inForce : InForce arguments emptySource request (request.overrides.apply {}) :=
    ⟨by decide +kernel, {}, by decide +kernel, rfl⟩
  obtain ⟨_, printsNothing⟩ := execute_writes_outputs arguments emptySource .terminal
  exact ⟨by decide +kernel, by decide +kernel,
    printsNothing request _ inForce (.inl rfl) (by decide +kernel)⟩

end Command

end ThreatModel
