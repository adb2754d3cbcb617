import ThreatModel.Format
import ThreatModel.Yaml.Value

/-!
Contract: the settings of a run.

Owns:
- the settings with their usual values;
- the settings written out as a value, under their names.

Does not own: where settings come from.
-/

namespace ThreatModel

open ThreatModel.Yaml (Value)

structure ReportSettings where
  format : ReportFormat := .markdown
  /-- The file to write; without one, the report goes to standard output. -/
  output : Option String := none
deriving DecidableEq, Repr

structure DiagramSettings where
  enabled : Bool := true
  format : DiagramFormat := .png
  /-- The file to write, to which some formats add an ending. -/
  output : String := "threatspec"
  direction : RankDirection := .leftRight
deriving DecidableEq, Repr

structure Settings where
  title : Option String := none
  report : ReportSettings := {}
  diagram : DiagramSettings := {}
deriving DecidableEq, Repr

/-! ## Settings as values -/

def textOrNull : Option String → Value
  | none => .null
  | some text => .text text

/-- A mapping from names to values. -/
def namedValues (fields : List (String × Value)) : Value :=
  .mapping (fields.map fun field => (.text field.1, field.2))

def ReportSettings.toValue (settings : ReportSettings) : Value :=
  namedValues
    [("format", .text settings.format.name),
      ("output", textOrNull settings.output)]

def DiagramSettings.toValue (settings : DiagramSettings) : Value :=
  namedValues
    [("enabled", .boolean settings.enabled),
      ("format", .text settings.format.name),
      ("output", .text settings.output),
      ("rankdir", .text settings.direction.name)]

def Settings.toValue (settings : Settings) : Value :=
  namedValues
    [("title", textOrNull settings.title),
      ("report", settings.report.toValue),
      ("diagram", settings.diagram.toValue)]

end ThreatModel
