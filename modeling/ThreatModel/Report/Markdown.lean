import ThreatModel.Report.Basic

/-!
Contract: the report as Markdown.

Owns: the lines of the header, of components, threats and occurrences, and the
empty line after each threat. Texts are written as they are.

Does not own: orphans and diagrams, which this format does not show.
-/

namespace ThreatModel.Report.Markdown

def occurrenceLine
    (kind : String)
    (occurrence : Occurrence) :
    String :=
  "* " ++ kind ++ ": " ++ occurrence.text ++ " (" ++ occurrence.provenance ++ ")"

def threatLines (threat : ThreatRecord) : List String :=
  ("### Threat: " ++ threat.name) ::
    (threat.mitigations.map (occurrenceLine "Mitigation") ++
      threat.exposures.map (occurrenceLine "Exposure") ++
      [""])

def componentLines (record : ComponentRecord) : List String :=
  ("## " ++ record.component.zone ++ " " ++ record.component.name) ::
    record.threats.values.flatMap threatLines

def headerLines
    (title : String)
    (coverage : Coverage) :
    List String :=
  ["# ThreatSpec Report for " ++ title,
    "",
    "# Analysis",
    "* Functions found: " ++ toString coverage.found,
    "* Functions covered: " ++ share coverage.coveredPercent coverage.covered,
    "* Functions tested: " ++ share coverage.testedPercent coverage.tested,
    "",
    "# Components"]

def write
    (analysis : Analysis)
    (title : Option String) :
    String :=
  ofLines <|
    headerLines (Report.title analysis title) analysis.coverage ++
      analysis.components.values.flatMap componentLines

end ThreatModel.Report.Markdown
