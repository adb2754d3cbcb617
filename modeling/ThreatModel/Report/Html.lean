import ThreatModel.Report.Basic
import ThreatModel.Text.Markup

/-!
Contract: the report as HTML.

Owns: the lines of the page. Every text is escaped; only a diagram is written as
it is, since its lines are made without angle brackets but those of its own line
breaks and arrows.

Does not own: the diagram.
-/

namespace ThreatModel.Report.Html

open ThreatModel.Text

def headLines (title : String) : List String :=
  ["<!DOCTYPE html>",
    "<html lang=\"en\">",
    "<head>",
    "  <meta charset=\"utf-8\">",
    "  <title>ThreatSpec Report for " ++ markup title ++ "</title>",
    "  <style>",
    "    body \x7b font-family: Arial, sans-serif; margin: 2em; color: #333333; \x7d",
    "    .mitigation \x7b color: darkgreen; \x7d",
    "    .exposure \x7b color: red; \x7d",
    "    .provenance \x7b color: #666666; font-size: 0.9em; \x7d",
    "    .orphan \x7b font-family: monospace; \x7d",
    "  </style>",
    "  <script type=\"module\">",
    "    import mermaid from " ++
      "'https://cdn.jsdelivr.net/npm/mermaid@10/dist/mermaid.esm.min.mjs';",
    "    mermaid.initialize(\x7b startOnLoad: true \x7d);",
    "  </script>",
    "</head>"]

def analysisLines
    (title : String)
    (coverage : Coverage) :
    List String :=
  ["  <h1>ThreatSpec Report for " ++ markup title ++ "</h1>",
    "",
    "  <h2>Analysis</h2>",
    "  <ul>",
    "    <li>Functions found: " ++ toString coverage.found ++ "</li>",
    "    <li>Functions covered: " ++ share coverage.coveredPercent coverage.covered ++ "</li>",
    "    <li>Functions tested: " ++ share coverage.testedPercent coverage.tested ++ "</li>",
    "  </ul>",
    ""]

/-- An empty diagram is none. -/
def diagramLines : Option String → List String
  | none => []
  | some diagram =>
      if diagram = "" then []
      else
        ["  <h2>Diagram</h2>",
          "  <div class=\"mermaid\">" ++ diagram ++ "</div>"]

/-- An empty reference is not shown. -/
def refText : Option String → String
  | none => ""
  | some ref => if ref = "" then "" else " [" ++ markup ref ++ "]"

def occurrenceLine
    (cssClass kind : String)
    (occurrence : Occurrence) :
    String :=
  "    <li class=\"" ++ cssClass ++ "\">" ++ kind ++ ": " ++ markup occurrence.text ++
    refText occurrence.ref ++ " <span class=\"provenance\">(" ++ markup occurrence.provenance ++
    ")</span></li>"

def threatLines (threat : ThreatRecord) : List String :=
  ["  <h4>Threat: " ++ markup threat.name ++ "</h4>", "  <ul>"] ++
    threat.mitigations.map (occurrenceLine "mitigation" "Mitigation") ++
    threat.exposures.map (occurrenceLine "exposure" "Exposure") ++
    ["  </ul>"]

def actionLines (actions : List String) : List String :=
  if actions = [] then []
  else ["  <p>Actions: " ++ markup (", ".intercalate actions) ++ "</p>"]

def componentLines (record : ComponentRecord) : List String :=
  ("  <h3>" ++ markup record.component.zone ++ " " ++ markup record.component.name ++ "</h3>") ::
    (actionLines record.actions ++ record.threats.values.flatMap threatLines)

def orphanLine (orphan : Orphan) : String :=
  "    <li class=\"orphan\">" ++ markup orphan.file ++ ":" ++ toString orphan.line ++ " " ++
    markup orphan.raw ++ "</li>"

def orphanLines (orphans : List Orphan) : List String :=
  if orphans = [] then []
  else
    ["  <h2>Orphaned annotations</h2>", "  <ul>"] ++ orphans.map orphanLine ++ ["  </ul>"]

def write
    (analysis : Analysis)
    (title : Option String)
    (diagram : Option String) :
    String :=
  let title := Report.title analysis title
  ofLines <|
    headLines title ++
      "<body>" :: (analysisLines title analysis.coverage ++
      diagramLines diagram ++
      ["", "  <h2>Components</h2>"] ++
      analysis.components.values.flatMap componentLines ++
      "" :: (orphanLines analysis.orphans ++
      ["</body>", "</html>"]))

end ThreatModel.Report.Html
