import ThreatModel.Settings.Basic
import ThreatModel.Settings.Field

/-!
Contract: the settings that a mapping makes.

Owns: the fields of the settings and of their sections, in the order in which
their faults are told. Other fields do not matter.

Does not own: files.
-/

namespace ThreatModel

open ThreatModel.Yaml (Value)
open ThreatModel.Settings

def ReportSettings.ofPairs (pairs : List (Value × Value)) : Checked ReportSettings :=
  let usual : ReportSettings := {}
  join ReportSettings.mk
    (field pairs "format" usual.format
      (choice (ReportFormat.all.map ReportFormat.name) ReportFormat.ofName?))
    (field pairs "output" usual.output textOrNothing)

def DiagramSettings.ofPairs (pairs : List (Value × Value)) : Checked DiagramSettings :=
  let usual : DiagramSettings := {}
  join (fun (enabled, format) (output, direction) => ⟨enabled, format, output, direction⟩)
    (join Prod.mk
      (field pairs "enabled" usual.enabled flag)
      (field pairs "format" usual.format
        (choice (DiagramFormat.all.map DiagramFormat.name) DiagramFormat.ofName?)))
    (join Prod.mk
      (field pairs "output" usual.output text)
      (field pairs "rankdir" usual.direction
        (choice (RankDirection.all.map RankDirection.name) RankDirection.ofName?)))

/-- The settings of a mapping from names to values, or all faults in it. -/
def Settings.ofPairs (pairs : List (Value × Value)) : Checked Settings :=
  let usual : Settings := {}
  join (fun (title, report) diagram => ⟨title, report, diagram⟩)
    (join Prod.mk
      (field pairs "title" usual.title textOrNothing)
      (group pairs "report" "ReportConfig" usual.report ReportSettings.ofPairs))
    (group pairs "diagram" "DiagramConfig" usual.diagram DiagramSettings.ofPairs)

end ThreatModel
