import ThreatModel.Proofs.Diagram.Drawing
import ThreatModel.Proofs.Report.Lines
import ThreatModel.Report.Format

/-!
Contract: the tags of a report page.

Owns:
- the shape of a page, in which no text has a part;
- the tags of a page, which its shape tells;
- that pages of one shape have the same tags, whatever their texts are.

Does not own: the text between tags.
-/

namespace ThreatModel.Report

open ThreatModel.Text

/-! ## Shapes -/

/-- Per finding, whether its reference is shown. -/
structure ThreatShape where
  mitigations : List Bool
  exposures : List Bool
deriving DecidableEq, Repr

structure ComponentShape where
  acts : Bool
  threats : List ThreatShape
deriving DecidableEq, Repr

/-- The components, the number of orphans, and per edge of a diagram the number of its labels. -/
structure PageShape where
  components : List ComponentShape
  orphans : Nat
  diagram : Option (List Nat)
deriving DecidableEq, Repr

def showsRef (occurrence : Occurrence) : Bool :=
  occurrence.ref.any (· ≠ "")

def threatShape (threat : ThreatRecord) : ThreatShape where
  mitigations := threat.mitigations.map showsRef
  exposures := threat.exposures.map showsRef

def componentShape (record : ComponentRecord) : ComponentShape where
  acts := !record.actions.isEmpty
  threats := record.threats.values.map threatShape

/-- What a page is made of. -/
structure Page where
  analysis : Analysis
  title : Option String
  drawing : Option Drawing

namespace Page

def html (page : Page) : String :=
  Report.write .html page.analysis page.title (page.drawing.map Drawing.text)

def shape (page : Page) : PageShape where
  components := page.analysis.components.values.map componentShape
  orphans := page.analysis.orphans.length
  diagram := page.drawing.map fun drawing => drawing.diagram.edges.map (·.labels.length)

end Page

/-! ## The tags of a shape -/

def headTags : List String :=
  ["<!DOCTYPE html>", "<html lang=\"en\">", "<head>", "<meta charset=\"utf-8\">", "<title>",
    "</title>", "<style>", "</style>", "<script type=\"module\">", "</script>", "</head>"]

def analysisTags : List String :=
  ["<h1>", "</h1>", "<h2>", "</h2>", "<ul>", "<li>", "</li>", "<li>", "</li>", "<li>", "</li>",
    "</ul>"]

def diagramTags : Option (List Nat) → List String
  | none => []
  | some labels =>
      ["<h2>", "</h2>", "<div class=\"mermaid\">"] ++
        labels.flatMap (fun count => List.replicate (count - 1) "<br/>") ++ ["</div>"]

def findingTags (kind : FindingKind) : List String :=
  [kind.itemTag, "<span class=\"provenance\">", "</span>", "</li>"]

def ThreatShape.tags (shape : ThreatShape) : List String :=
  ["<h4>", "</h4>", "<ul>"] ++ shape.mitigations.flatMap (fun _ => findingTags .mitigation) ++
    shape.exposures.flatMap (fun _ => findingTags .exposure) ++ ["</ul>"]

def ComponentShape.tags (shape : ComponentShape) : List String :=
  ["<h3>", "</h3>"] ++ ((if shape.acts then ["<p>", "</p>"] else []) ++
    shape.threats.flatMap ThreatShape.tags)

def orphansTags (count : Nat) : List String :=
  if count = 0 then []
  else
    ["<h2>", "</h2>", "<ul>"] ++
      (List.replicate count ["<li class=\"orphan\">", "</li>"]).flatten ++ ["</ul>"]

def PageShape.tags (shape : PageShape) : List String :=
  headTags ++ (["<body>"] ++ (analysisTags ++ diagramTags shape.diagram ++ ["<h2>", "</h2>"] ++
    shape.components.flatMap ComponentShape.tags ++
    (orphansTags shape.orphans ++ ["</body>", "</html>"])))

/-! ## The tags of lines -/

/-- The lines, put one below the other, have these tags. -/
def LinesTagged (lines written : List String) : Prop :=
  Tagged (ofLines lines) written

namespace LinesTagged

theorem nil : LinesTagged [] [] :=
  .of_unopened List.not_mem_nil

theorem append
    {front back frontTags backTags : List String}
    (ofFront : LinesTagged front frontTags)
    (ofBack : LinesTagged back backTags) :
    LinesTagged (front ++ back) (frontTags ++ backTags) := by
  rw [LinesTagged, ofLines_append]
  exact Tagged.append ofFront ofBack

theorem single
    {line : String}
    {written : List String}
    (ofLine : Tagged line written) :
    LinesTagged [line] written := by
  have ended := ofLine.append (show Tagged "\n" [] by decide)
  rw [List.append_nil] at ended
  rwa [LinesTagged, ofLines_cons, ofLines_nil, String.append_empty]

theorem cons
    {line : String}
    {rest lineTags restTags : List String}
    (ofLine : Tagged line lineTags)
    (ofRest : LinesTagged rest restTags) :
    LinesTagged (line :: rest) (lineTags ++ restTags) :=
  (single ofLine).append ofRest

theorem flatMap
    {α : Type}
    {lines written : α → List String}
    {list : List α}
    (each : ∀ element ∈ list, LinesTagged (lines element) (written element)) :
    LinesTagged (list.flatMap lines) (list.flatMap written) := by
  induction list with
  | nil => exact nil
  | cons head rest inductionHypothesis =>
      rw [List.flatMap_cons, List.flatMap_cons]
      exact (each head List.mem_cons_self).append
        (inductionHypothesis fun element member => each element (List.mem_cons_of_mem head member))

theorem map
    {α : Type}
    {text : α → String}
    {written : α → List String}
    {list : List α}
    (each : ∀ element ∈ list, Tagged (text element) (written element)) :
    LinesTagged (list.map text) (list.flatMap written) := by
  rw [List.map_eq_flatMap]
  exact flatMap fun element member => single (each element member)

/-- Lines without texts in them are checked one by one. -/
theorem fixed
    {lines written : List String}
    (checked : (∀ line ∈ lines, Closed line.toList) ∧ lines.flatMap textTags = written) :
    LinesTagged lines written := by
  obtain ⟨closed, same⟩ := checked
  have each := flatMap fun line member => single ⟨closed line member, rfl⟩
  rwa [List.flatMap_singleton', same] at each

end LinesTagged

/-! ## The tags of a page -/

theorem tagged_headLines (title : String) : LinesTagged (Html.headLines title) headTags := by
  have before : LinesTagged
      ["<!DOCTYPE html>", "<html lang=\"en\">", "<head>", "  <meta charset=\"utf-8\">"]
      ["<!DOCTYPE html>", "<html lang=\"en\">", "<head>", "<meta charset=\"utf-8\">"] :=
    .fixed (by decide)
  have titled : Tagged ("  <title>ThreatSpec Report for " ++ markup title ++ "</title>")
      (["<title>"] ++ ["</title>"]) :=
    .around (by decide) (.markup title) (by decide)
  exact before.append (.cons titled (.fixed (by decide +kernel)))

theorem tagged_share
    (percent : Numeric.Binary64)
    (count : Nat) :
    Tagged (share percent count) [] :=
  ((Tagged.value percent).append (show Tagged "% (" [] by decide)).append (.nat count)
    |>.append (show Tagged ")" [] by decide)

theorem tagged_analysisLines
    (title : String)
    (coverage : Coverage) :
    LinesTagged (Html.analysisLines title coverage) analysisTags := by
  have titled : Tagged ("  <h1>ThreatSpec Report for " ++ markup title ++ "</h1>")
      (["<h1>"] ++ ["</h1>"]) :=
    .around (by decide) (.markup title) (by decide)
  have headed : LinesTagged ["", "  <h2>Analysis</h2>", "  <ul>"] ["<h2>", "</h2>", "<ul>"] :=
    .fixed (by decide)
  have found : Tagged ("    <li>Functions found: " ++ toString coverage.found ++ "</li>")
      (["<li>"] ++ ["</li>"]) :=
    .around (by decide) (.nat coverage.found) (by decide)
  have covered : Tagged ("    <li>Functions covered: " ++
      share coverage.coveredPercent coverage.covered ++ "</li>") (["<li>"] ++ ["</li>"]) :=
    .around (by decide) (tagged_share _ _) (by decide)
  have tested : Tagged ("    <li>Functions tested: " ++
      share coverage.testedPercent coverage.tested ++ "</li>") (["<li>"] ++ ["</li>"]) :=
    .around (by decide) (tagged_share _ _) (by decide)
  have closed : LinesTagged ["  </ul>", ""] ["</ul>"] :=
    .fixed (by decide)
  exact .cons titled (headed.append (.cons found (.cons covered (.cons tested closed))))

/-- The text of a drawing is never empty, so that its block is there. -/
theorem tagged_diagramLines (drawing : Option Drawing) :
    LinesTagged (Html.diagramLines (drawing.map Drawing.text))
      (diagramTags (drawing.map fun drawing => drawing.diagram.edges.map (·.labels.length))) := by
  cases drawing with
  | none => exact .nil
  | some drawing =>
      have headed : LinesTagged ["  <h2>Diagram</h2>"] ["<h2>", "</h2>"] :=
        .fixed (by decide)
      have opened : Tagged "  <div class=\"mermaid\">" ["<div class=\"mermaid\">"] := by
        decide
      have closed : Tagged "</div>" ["</div>"] := by
        decide
      have block := (opened.append drawing.tagged_text).append closed
      have lines := LinesTagged.append headed (.single block)
      rw [Option.map_some, Option.map_some, Html.diagramLines, if_neg drawing.text_ne_empty,
        diagramTags, List.flatMap_map]
      rwa [← List.append_assoc, ← List.append_assoc] at lines

theorem tagged_refText (ref : Option String) : Tagged (Html.refText ref) [] := by
  cases ref with
  | none => exact .of_unopened List.not_mem_nil
  | some ref =>
      rw [Html.refText]
      split
      · exact .of_unopened List.not_mem_nil
      · have opened : Tagged " [" [] := by
          decide
        have closed : Tagged "]" [] := by
          decide
        exact opened.around (.markup ref) closed

theorem tagged_occurrenceLine
    (kind : FindingKind)
    (occurrence : Occurrence) :
    Tagged (Html.occurrenceLine kind.cssClass kind.word occurrence) (findingTags kind) := by
  have opened : Tagged ("    <li class=\"" ++ kind.cssClass ++ "\">" ++ kind.word ++ ": ")
      [kind.itemTag] := by
    cases kind <;> decide
  have ofText := opened.append (.markup occurrence.text)
  have provided : Tagged " <span class=\"provenance\">(" ["<span class=\"provenance\">"] := by
    decide
  have closed : Tagged ")</span></li>" ["</span>", "</li>"] := by
    decide
  exact ((ofText.around (tagged_refText occurrence.ref) provided).around
    (.markup occurrence.provenance) closed)

theorem tagged_threatHeading (threat : ThreatRecord) :
    LinesTagged ["  <h4>Threat: " ++ markup threat.name ++ "</h4>", "  <ul>"]
      ["<h4>", "</h4>", "<ul>"] := by
  have named : Tagged ("  <h4>Threat: " ++ markup threat.name ++ "</h4>") (["<h4>"] ++ ["</h4>"]) :=
    .around (by decide) (.markup threat.name) (by decide)
  exact .cons named (.fixed (by decide))

theorem tagged_threatClosing : LinesTagged ["  </ul>"] ["</ul>"] :=
  .fixed (by decide)

theorem tagged_threatLines (threat : ThreatRecord) :
    LinesTagged (Html.threatLines threat) (threatShape threat).tags := by
  have mitigations := LinesTagged.map fun occurrence (_ : occurrence ∈ threat.mitigations) =>
    tagged_occurrenceLine .mitigation occurrence
  have exposures := LinesTagged.map fun occurrence (_ : occurrence ∈ threat.exposures) =>
    tagged_occurrenceLine .exposure occurrence
  rw [ThreatShape.tags, threatShape, List.flatMap_map, List.flatMap_map]
  exact (((tagged_threatHeading threat).append mitigations).append exposures).append
    tagged_threatClosing

theorem tagged_actionLines (actions : List String) :
    LinesTagged (Html.actionLines actions) (if !actions.isEmpty then ["<p>", "</p>"] else []) := by
  cases actions with
  | nil => exact .nil
  | cons action rest =>
      have opened : Tagged "  <p>Actions: " ["<p>"] := by
        decide
      have closed : Tagged "</p>" ["</p>"] := by
        decide
      exact .single (opened.around (.markup _) closed)

theorem tagged_componentHeading (component : Component) :
    Tagged ("  <h3>" ++ markup component.zone ++ " " ++ markup component.name ++ "</h3>")
      ["<h3>", "</h3>"] := by
  have opened : Tagged "  <h3>" ["<h3>"] := by
    decide
  have blank : Tagged " " [] := by
    decide
  have closed : Tagged "</h3>" ["</h3>"] := by
    decide
  exact (opened.around (.markup component.zone) blank).around (.markup component.name) closed

theorem tagged_componentLines (record : ComponentRecord) :
    LinesTagged (Html.componentLines record) (componentShape record).tags := by
  have threats := LinesTagged.flatMap fun threat (_ : threat ∈ record.threats.values) =>
    tagged_threatLines threat
  rw [ComponentShape.tags, componentShape, List.flatMap_map]
  exact .cons (tagged_componentHeading record.component)
    ((tagged_actionLines record.actions).append threats)

theorem tagged_orphanLine (orphan : Orphan) :
    Tagged (Html.orphanLine orphan) ["<li class=\"orphan\">", "</li>"] := by
  have opened : Tagged "    <li class=\"orphan\">" ["<li class=\"orphan\">"] := by
    decide
  have colon : Tagged ":" [] := by
    decide
  have blank : Tagged " " [] := by
    decide
  have closed : Tagged "</li>" ["</li>"] := by
    decide
  have placed := (opened.around (.markup orphan.file) colon).around (.int orphan.line) blank
  exact placed.around (.markup orphan.raw) closed

theorem tagged_orphanLines (orphans : List Orphan) :
    LinesTagged (Html.orphanLines orphans) (orphansTags orphans.length) := by
  rw [Html.orphanLines, orphansTags]
  by_cases none : orphans = []
  · rw [if_pos none, if_pos (List.length_eq_zero_iff.mpr none)]
    exact .nil
  · have headed : LinesTagged ["  <h2>Orphaned annotations</h2>", "  <ul>"]
        ["<h2>", "</h2>", "<ul>"] :=
      .fixed (by decide)
    have closed : LinesTagged ["  </ul>"] ["</ul>"] :=
      .fixed (by decide)
    have items := LinesTagged.map fun orphan (_ : orphan ∈ orphans) => tagged_orphanLine orphan
    rw [List.flatMap_def, List.map_const'] at items
    rw [if_neg none, if_neg (mt List.length_eq_zero_iff.mp none)]
    exact (headed.append items).append closed

theorem tagged_componentsHeading :
    LinesTagged ["", "  <h2>Components</h2>"] ["<h2>", "</h2>"] :=
  .fixed (by decide)

theorem tagged_pageClosing : LinesTagged ["</body>", "</html>"] ["</body>", "</html>"] :=
  .fixed (by decide)

theorem tagged_html (page : Page) : Tagged page.html page.shape.tags := by
  have body : Tagged "<body>" ["<body>"] := by
    decide
  have blank : Tagged "" [] := by
    decide
  have components := LinesTagged.flatMap fun record
    (_ : record ∈ page.analysis.components.values) => tagged_componentLines record
  have below := LinesTagged.cons blank ((tagged_orphanLines page.analysis.orphans).append
    tagged_pageClosing)
  rw [List.nil_append] at below
  have shown := ((((tagged_analysisLines (Report.title page.analysis page.title)
    page.analysis.coverage).append (tagged_diagramLines page.drawing)).append
    tagged_componentsHeading).append components).append below
  have whole := (tagged_headLines (Report.title page.analysis page.title)).append
    (.cons body shown)
  rw [PageShape.tags, Page.shape, List.flatMap_map]
  rwa [LinesTagged] at whole

/-- No text of a page makes a tag, or takes one away. -/
theorem textTags_html_eq_of_shape_eq
    {page other : Page}
    (same : page.shape = other.shape) :
    textTags page.html = textTags other.html := by
  rw [(tagged_html page).tags_eq, (tagged_html other).tags_eq, same]

/-- A page on which one text stands wherever a text can, with the drawing of some annotations. -/
def pageOfText (text annotations : String) : Page where
  analysis :=
    { models := [text]
      functions := ∅
      components := .ofFacts
        [⟨⟨text, text⟩, .exposed text ⟨text, some text, text, some text, none⟩⟩,
          ⟨⟨text, text⟩, .acted text⟩]
      coverage := ⟨0, 0, 0⟩
      orphans := [⟨text, 1, .test, text⟩] }
  title := some text
  drawing := some (.ofTexts [(text, annotations)] ∅ .leftRight)

/-- A script tag in every text, and tags for components and data of the drawing, make no tag. -/
theorem textTags_html_scriptPage :
    let plain := pageOfText "a" "// ThreatSpec m for f\n// Sends x from A to B\n"
    let scripted := pageOfText "<script>" "// ThreatSpec m for f\n// Sends <i> from <b> to B\n"
    plain.shape = scripted.shape ∧ textTags plain.html = textTags scripted.html := by
  intro plain scripted
  have shape : plain.shape = ⟨[⟨true, [⟨[], [true]⟩]⟩], 1, some [1]⟩ := by
    decide +kernel
  have scriptedShape : scripted.shape = ⟨[⟨true, [⟨[], [true]⟩]⟩], 1, some [1]⟩ := by
    decide +kernel
  have same := shape.trans scriptedShape.symm
  exact ⟨same, textTags_html_eq_of_shape_eq same⟩

end ThreatModel.Report
