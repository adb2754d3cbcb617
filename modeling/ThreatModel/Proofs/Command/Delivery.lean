import ThreatModel.Proofs.Command.Loading
import ThreatModel.Proofs.Diagram.Drawing
import ThreatModel.Proofs.Ledger.Sources
import ThreatModel.Proofs.Report.Lines

/-!
Contract: a run reports what the report command does, but for the block of its diagram.

Owns:
- the parts of an HTML page above and below its diagram, and the block between them;
- outcomes with the same effect, their messages apart;
- the delivery of a text, to standard output or to a file;
- that the call graph of a run comes to its report through that block only.

Does not own: the diagram that a run writes after its report.
-/

namespace ThreatModel

namespace Report

open ThreatModel.Text

/-! ## Pages around a diagram -/

/-- The page down to the summary of the analysis. -/
def aboveDiagram (analysis : Analysis) (title : String) : String :=
  ofLines (Html.headLines title ++ "<body>" :: Html.analysisLines title analysis.coverage)

/-- The page from the heading of the components on. -/
def belowDiagram (analysis : Analysis) : String :=
  ofLines (["", "  <h2>Components</h2>"] ++
    analysis.components.values.flatMap Html.componentLines ++
    "" :: (Html.orphanLines analysis.orphans ++ ["</body>", "</html>"]))

/-- The heading and the container of a drawing. -/
def diagramBlock (mermaid : String) : String :=
  ofLines ["  <h2>Diagram</h2>", "  <div class=\"mermaid\">" ++ mermaid ++ "</div>"]

/-- The lines are parted as lists, before what they say is looked at. -/
theorem ofLines_parted (head summary diagram below : List String) :
    ofLines (head ++ "<body>" :: (summary ++ diagram ++ below)) =
      ofLines (head ++ "<body>" :: summary) ++ ofLines diagram ++ ofLines below := by
  rw [← ofLines_append, ← ofLines_append]
  simp only [List.append_assoc, List.cons_append]

theorem html_eq
    (analysis : Analysis)
    (title diagram : Option String) :
    Html.write analysis title diagram =
      aboveDiagram analysis (Report.title analysis title) ++
        ofLines (Html.diagramLines diagram) ++ belowDiagram analysis := by
  rw [aboveDiagram, belowDiagram, ← ofLines_parted]
  unfold Html.write
  simp only [List.append_assoc]

theorem ofLines_diagramLines
    {mermaid : String}
    (inhabited : mermaid ≠ "") :
    ofLines (Html.diagramLines (some mermaid)) = diagramBlock mermaid :=
  congrArg ofLines (if_neg inhabited)

/-- `shown` is `plain` with the block of a diagram, in the format that shows diagrams. -/
def ShowsDiagram
    (format : ReportFormat)
    (analysis : Analysis)
    (title mermaid plain shown : String) :
    Prop :=
  match format with
  | .markdown => shown = plain
  | .html =>
      plain = aboveDiagram analysis title ++ belowDiagram analysis ∧
        shown = aboveDiagram analysis title ++ diagramBlock mermaid ++ belowDiagram analysis

end Report

namespace Command

/-! ## Effects -/

/-- What is printed, the files and the stop are the same. -/
structure Outcome.SameEffect (outcome other : Outcome) : Prop where
  stdout_eq : outcome.stdout = other.stdout
  tree_eq : outcome.tree = other.tree
  stop_eq : outcome.stop = other.stop

theorem Outcome.SameEffect.trans
    {first second third : Outcome}
    (same : first.SameEffect second)
    (later : second.SameEffect third) :
    first.SameEffect third :=
  ⟨same.stdout_eq.trans later.stdout_eq, same.tree_eq.trans later.tree_eq,
    same.stop_eq.trans later.stop_eq⟩

/-- The log of what was read is told, and has no effect. -/
theorem Reading.sameEffect_andThen
    {α : Type}
    {reading : Reading α}
    {tree : Tree}
    {proceed : α → Tree → Outcome}
    {value : α}
    (found : reading.result = .ok value) :
    (reading.andThen tree proceed).SameEffect (proceed value tree) := by
  rw [andThen_of_ok found]
  exact ⟨rfl, rfl, rfl⟩

theorem Outcome.SameEffect.andThen
    {outcome other : Outcome}
    (same : outcome.SameEffect other)
    (proceed : Tree → Outcome) :
    (outcome.andThen proceed).SameEffect (other.andThen proceed) := by
  obtain ⟨stdout_eq, tree_eq, stop_eq⟩ := same
  unfold Outcome.andThen
  rw [stdout_eq, tree_eq, stop_eq]
  cases other.stop with
  | some stop => exact ⟨stdout_eq, tree_eq, stop_eq⟩
  | none => exact ⟨rfl, rfl, rfl⟩

/-! ## Deliveries -/

/-- A text goes to the file that is named, or to standard output. -/
def deliver
    (output : Option String)
    (text : String)
    (tree : Tree) :
    Outcome :=
  match inked output with
  | none => { stdout := text, tree := tree }
  | some path =>
      match Report.writeFile tree path text with
      | (after, .error fault) => { tree := after, stop := some (.unforeseen (.file fault)) }
      | (after, .ok path) =>
          { messages := [.status ("Report generated: " ++ path)], tree := after }

theorem emitReport_eq
    {settings : Settings}
    {diagram : Option Diagram}
    {shown : Option String}
    (isShown : shownDiagram settings diagram = .ok shown)
    (analysis : Analysis)
    (tree : Tree) :
    emitReport settings analysis diagram tree =
      deliver settings.report.output
        (Report.write settings.report.format analysis settings.title shown) tree := by
  rw [emitReport, isShown]
  rfl

/-- What becomes of a text, whatever it says: it is printed, it is all that a file then holds, or
it comes to nothing. Folders may have been made on the way. -/
inductive Delivery where
  | printed
  | written (made : Tree) (place : List String)
  | refused (made : Tree) (stop : Stop)

def Delivery.receive
    (tree : Tree)
    (text : String) :
    Delivery → Outcome
  | printed => { stdout := text, tree := tree }
  | written made place =>
      { tree := { made with files := made.files.insert place (Text.Utf8.encode text) } }
  | refused made stop => { tree := made, stop := some stop }

/-- The text has no part in where it goes. -/
theorem exists_place
    (tree : Tree)
    (path : String) :
    (∃ fault, ∀ text, tree.writeText path text = .error fault) ∨
      ∃ place, ∀ text, tree.writeText path text =
        .ok { tree with files := tree.files.insert place (Text.Utf8.encode text) } := by
  simp only [Tree.writeText, Tree.writeOctets]
  cases tree.place? path with
  | error cause => exact .inl ⟨_, fun _ => rfl⟩
  | ok place =>
      dsimp only
      cases tree.object? place with
      | none =>
          by_cases folder : path.endsWith "/" = true
          · exact .inl ⟨⟨.isFolder, path⟩, fun _ => by simp [folder]⟩
          · exact .inr ⟨place, fun _ => by simp [folder]⟩
      | some object =>
          cases object with
          | folder => exact .inl ⟨_, fun _ => rfl⟩
          | file octets => exact .inr ⟨place, fun _ => by simp⟩

theorem exists_delivery
    (output : Option String)
    (tree : Tree) :
    ∃ delivery : Delivery,
      (delivery = .printed ↔ inked output = none) ∧
        ∀ text, (deliver output text tree).SameEffect (delivery.receive tree text) := by
  unfold deliver
  cases inked output with
  | none => exact ⟨.printed, by simp, fun _ => ⟨rfl, rfl, rfl⟩⟩
  | some path =>
      simp only [Report.writeFile]
      cases tree.makeFolders (Pathname.ofText path).parent with
      | error fault =>
          exact ⟨.refused tree (.unforeseen (.file fault)), by simp, fun _ => ⟨rfl, rfl, rfl⟩⟩
      | ok made =>
          rcases exists_place made (Pathname.ofText path).text with ⟨fault, fails⟩ | ⟨place, writes⟩
          · refine ⟨.refused made (.unforeseen (.file fault)), by simp, fun text => ?_⟩
            simp only [fails]
            exact ⟨rfl, rfl, rfl⟩
          · refine ⟨.written made place, by simp, fun text => ?_⟩
            simp only [writes]
            exact ⟨rfl, rfl, rfl⟩

/-! ## What is loaded -/

variable {request : Request} {tree : Tree} {stdin : Input}

theorem result_loadMaterials
    {settings : Settings}
    {sources : List Source}
    (ofSettings : Settings.load tree request.settings = .ok settings)
    (ofSources : Source.loadAll tree request.files = (sources, none)) :
    (loadMaterials request tree).result =
      .ok ⟨request.overrides.apply settings, .ofSources sources⟩ := by
  rw [loadMaterials, ofSettings, ofSources]

theorem result_loadDiagram
    {analysis : Analysis}
    {graph : CallGraph}
    {diagram : Diagram}
    (ofGraph : request.loadGraph tree stdin = .ok graph)
    (built : Diagram.ofFunctions analysis.functions graph analysis.components = .ok diagram) :
    (loadDiagram request analysis tree stdin).result = .ok diagram := by
  rw [result_loadDiagram_eq, ofGraph, Except.mapError, Except.bind, built]
  rfl

/-! ## A run and a report -/

/-- A run and a report name the same files, the same settings, and the same format and output of
the report. -/
structure SameReport (run report : Request) : Prop where
  runs : run.action = .run
  reports : report.action = .report
  files_eq : run.files = report.files
  settings_eq : run.settings = report.settings
  format_eq : run.overrides.reportFormat = report.overrides.reportFormat
  output_eq : run.overrides.reportOutput = report.overrides.reportOutput

/-- The options of the two commands have other names, but the same keys. -/
theorem SameReport.ofParted
    {run report : Parted}
    (sameFiles : run.positional = report.positional)
    (sameValues : ∀ key ∈ [Key.settings, .reportFormat, .reportOutput],
      valueOf? run.given key = valueOf? report.given key) :
    SameReport (.ofParted .run run) (.ofParted .report report) := by
  have ofFormat := sameValues .reportFormat (by simp)
  refine ⟨rfl, rfl, sameFiles, sameValues .settings (by simp), ?_,
    sameValues .reportOutput (by simp)⟩
  exact congrArg (·.bind ReportFormat.ofName?) ofFormat

theorem SameReport.report_apply
    {run report : Request}
    (same : SameReport run report)
    (settings : Settings) :
    (report.overrides.apply settings).report = (run.overrides.apply settings).report := by
  rw [Overrides.apply, Overrides.apply, same.format_eq, same.output_eq]

/-- What a run does after its report. -/
def runDiagram
    (run : Request)
    (settings : DiagramSettings)
    (diagram : Diagram)
    (tree : Tree) :
    Outcome :=
  if settings.enabled && !run.noDiagram then emitDiagram settings diagram tree
  else { tree := tree }

section Loaded

variable {settings : Settings} {sources : List Source}
  (ofSettings : Settings.load tree request.settings = .ok settings)
  (ofSources : Source.loadAll tree request.files = (sources, none))

include ofSettings ofSources

theorem sameEffect_perform_report (reports : request.action = .report) :
    let inForce := request.overrides.apply settings
    (perform request tree stdin).SameEffect
      (deliver inForce.report.output
        (Report.write inForce.report.format (Ledger.ofSources sources).analyze inForce.title none)
        tree) := by
  intro inForce
  refine (Reading.sameEffect_andThen (result_loadMaterials ofSettings ofSources)).trans ?_
  have isShown : shownDiagram inForce none = .ok none := rfl
  simp only [reports]
  rw [emitReport_eq isShown]
  exact ⟨rfl, rfl, rfl⟩

theorem sameEffect_perform_run
    (runs : request.action = .run)
    {graph : CallGraph}
    (ofGraph : request.loadGraph tree stdin = .ok graph)
    {diagram : Diagram}
    (built :
      let analysis := (Ledger.ofSources sources).analyze
      Diagram.ofFunctions analysis.functions graph analysis.components = .ok diagram)
    {shown : Option String}
    (isShown : shownDiagram (request.overrides.apply settings) (some diagram) = .ok shown) :
    let inForce := request.overrides.apply settings
    (perform request tree stdin).SameEffect
      ((deliver inForce.report.output
          (Report.write inForce.report.format (Ledger.ofSources sources).analyze inForce.title shown)
          tree).andThen
        (runDiagram request inForce.diagram diagram)) := by
  intro inForce
  refine (Reading.sameEffect_andThen (result_loadMaterials ofSettings ofSources)).trans ?_
  simp only [runs]
  refine (Reading.sameEffect_andThen (result_loadDiagram ofGraph built)).trans ?_
  rw [emitReport_eq isShown]
  exact ⟨rfl, rfl, rfl⟩

end Loaded

/-! ## What is shown -/

/-- Sources that were read have a diagram with every call graph: that of their texts. -/
theorem ofFunctions_ofSources
    (sources : List Source)
    (graph : CallGraph)
    (direction : RankDirection) :
    let analysis := (Ledger.ofSources sources).analyze
    Diagram.ofFunctions analysis.functions graph analysis.components =
      .ok (Drawing.ofTexts (sources.map fun source => (source.name, source.text)) graph
        direction).diagram := by
  intro analysis
  let drawing : Drawing :=
    .ofTexts (sources.map fun source => (source.name, source.text)) graph direction
  have read : analysis.functions = (Ledger.readAll ∅ drawing.files).functions :=
    congrArg Ledger.functions (Ledger.ofSources_eq_readAll sources)
  have ofIndex : analysis.components = .ofFunctions analysis.functions := rfl
  rw [ofIndex, read]
  exact drawing.built

/-- A report is given its drawing in the format that shows one, and nothing in the other. -/
theorem exists_shownDiagram
    {settings : Settings}
    {drawing : Drawing}
    (directed : drawing.direction = settings.diagram.direction)
    (analysis : Analysis)
    (title : Option String) :
    ∃ shown,
      shownDiagram settings (some drawing.diagram) = .ok shown ∧
        Report.ShowsDiagram settings.report.format analysis (Report.title analysis title)
          drawing.text (Report.write settings.report.format analysis title none)
          (Report.write settings.report.format analysis title shown) := by
  unfold shownDiagram
  cases settings.report.format with
  | markdown => exact ⟨none, rfl, rfl⟩
  | html =>
      have page (shown : Option String) : Report.write .html analysis title shown =
          Report.aboveDiagram analysis (Report.title analysis title) ++
            Report.ofLines (Report.Html.diagramLines shown) ++ Report.belowDiagram analysis := by
        rw [← Report.html_eq]
        rfl
      refine ⟨some drawing.text, ?_, ?_, ?_⟩
      · rw [← directed]
        exact congrArg (Except.map some) drawing.written
      · refine (page none).trans ?_
        exact congrArg (· ++ Report.belowDiagram analysis) String.append_empty
      · rw [page, Report.ofLines_diagramLines drawing.text_ne_empty]

/-- The report of a run goes where that of the report command goes. In Markdown it is the same
text; in HTML it is the same text with the block of the diagram above the components. -/
theorem run_reports_with_diagram
    {run report : Request}
    (same : SameReport run report)
    {settings : Settings}
    (ofSettings : Settings.load tree run.settings = .ok settings)
    {sources : List Source}
    (ofSources : Source.loadAll tree run.files = (sources, none))
    {graph : CallGraph}
    (ofGraph : run.loadGraph tree stdin = .ok graph)
    (reportInput : Input) :
    let analysis := (Ledger.ofSources sources).analyze
    let inForce := run.overrides.apply settings
    let plain := Report.write inForce.report.format analysis settings.title none
    ∃ delivery diagram mermaid shown,
      (delivery = Delivery.printed ↔ inked inForce.report.output = none) ∧
        (perform report tree reportInput).SameEffect (delivery.receive tree plain) ∧
        (perform run tree stdin).SameEffect
          ((delivery.receive tree shown).andThen (runDiagram run inForce.diagram diagram)) ∧
        Diagram.ofFunctions analysis.functions graph analysis.components = .ok diagram ∧
        Diagram.Mermaid.write diagram inForce.diagram.direction.name = .ok mermaid ∧
        Report.ShowsDiagram inForce.report.format analysis (Report.title analysis settings.title)
          mermaid plain shown := by
  intro analysis inForce plain
  let drawing : Drawing :=
    .ofTexts (sources.map fun source => (source.name, source.text)) graph inForce.diagram.direction
  have directed : drawing.direction = inForce.diagram.direction := rfl
  have built := ofFunctions_ofSources sources graph inForce.diagram.direction
  obtain ⟨shown, isShown, shows⟩ := exists_shownDiagram directed analysis settings.title
  obtain ⟨delivery, printed, delivers⟩ := exists_delivery inForce.report.output tree
  have reported : (perform report tree reportInput).SameEffect (delivery.receive tree plain) := by
    have ofReport : (perform report tree reportInput).SameEffect
        (deliver (report.overrides.apply settings).report.output
          (Report.write (report.overrides.apply settings).report.format analysis settings.title none)
          tree) :=
      sameEffect_perform_report (same.settings_eq ▸ ofSettings) (same.files_eq ▸ ofSources)
        same.reports
    rw [same.report_apply] at ofReport
    exact ofReport.trans (delivers _)
  have ran : (perform run tree stdin).SameEffect
      ((delivery.receive tree
          (Report.write inForce.report.format analysis settings.title shown)).andThen
        (runDiagram run inForce.diagram drawing.diagram)) :=
    (sameEffect_perform_run ofSettings ofSources same.runs ofGraph built isShown).trans
      ((delivers _).andThen _)
  exact ⟨delivery, drawing.diagram, drawing.text, _, printed, reported, ran, built,
    directed ▸ drawing.written, shows⟩

/-- A run that has an edge on standard input, and the report command, both for an HTML page. -/
def pageRun : Request where
  action := .run
  files := ["a.go"]
  overrides := { reportFormat := some .html }
  noDiagram := true

def pageReport : Request where
  action := .report
  files := ["a.go"]
  overrides := { reportFormat := some .html }

theorem pageRun_shows_diagram :
    readArguments emptySource ["run", "--report-format", "html", "--no-diagram", "a.go"] =
        .ok (.request pageRun) ∧
      readArguments emptySource ["report", "-f", "html", "a.go"] = .ok (.request pageReport) ∧
      ∃ mermaid above below,
        (perform pageReport emptySource .terminal).stdout = above ++ below ∧
          (perform pageRun emptySource (.text "f\t--static-3:7-->\tg")).stdout =
            above ++ Report.diagramBlock mermaid ++ below := by
  refine ⟨by cbv, by cbv, ?_⟩
  have same : SameReport pageRun pageReport := ⟨rfl, rfl, rfl, rfl, rfl, rfl⟩
  have noSettings : ¬emptySource.isThere Settings.usualPath = true := by
    decide
  have ofSettings : Settings.load emptySource pageRun.settings = .ok {} := by
    change (if emptySource.isThere Settings.usualPath then
      Settings.loadFile emptySource Settings.usualPath else .ok {}) = .ok {}
    rw [if_neg noSettings]
  have ofSources : Source.loadAll emptySource pageRun.files = ([⟨"a.go", ""⟩], none) := by
    decide
  have ofGraph : pageRun.loadGraph emptySource (.text "f\t--static-3:7-->\tg") =
      .ok (.ofList [("f", .ofList [("g", [⟨3, 7⟩])])]) := by
    cbv
  obtain ⟨delivery, diagram, mermaid, shown, printed, reported, ran, _, _, isPage⟩ :=
    run_reports_with_diagram same ofSettings ofSources ofGraph .terminal
  obtain ⟨plain_eq, shown_eq⟩ := isPage
  obtain rfl := printed.mpr rfl
  refine ⟨mermaid, _, _, reported.stdout_eq.trans plain_eq, ran.stdout_eq.trans ?_⟩
  rw [← shown_eq]
  exact String.append_empty

end Command

end ThreatModel
