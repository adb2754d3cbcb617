/-!
Contract: the formats that outputs come in.

Owns: the formats of reports and of diagrams with their names, and the refusal of
other names.

Does not own: what is written in a format.
-/

namespace ThreatModel

inductive ReportFormat where
  | markdown
  | html
deriving DecidableEq, Repr

inductive DiagramFormat where
  | png
  | svg
  | pdf
  | dot
  | mermaid
deriving DecidableEq, Repr

/-- The direction in which the ranks of a diagram follow each other. -/
inductive RankDirection where
  | leftRight
  | topBottom
  | rightLeft
  | bottomTop
deriving DecidableEq, Repr

/-- A name that is not the name of a format. -/
inductive UnknownFormat where
  | report (given : String)
  | diagram (given : String)
deriving DecidableEq, Repr

def UnknownFormat.message : UnknownFormat → String
  | .report given => "Unsupported report format: " ++ given
  | .diagram given => "Unsupported diagram format: " ++ given

namespace ReportFormat

def name : ReportFormat → String
  | .markdown => "markdown"
  | .html => "html"

def all : List ReportFormat :=
  [.markdown, .html]

def ofName? (name : String) : Option ReportFormat :=
  all.find? (·.name = name)

def parse (given : String) : Except UnknownFormat ReportFormat :=
  match ofName? given with
  | some format => .ok format
  | none => .error (.report given)

end ReportFormat

namespace DiagramFormat

def name : DiagramFormat → String
  | .png => "png"
  | .svg => "svg"
  | .pdf => "pdf"
  | .dot => "dot"
  | .mermaid => "mermaid"

def all : List DiagramFormat :=
  [.png, .svg, .pdf, .dot, .mermaid]

def ofName? (name : String) : Option DiagramFormat :=
  all.find? (·.name = name)

def parse (given : String) : Except UnknownFormat DiagramFormat :=
  match ofName? given with
  | some format => .ok format
  | none => .error (.diagram given)

end DiagramFormat

namespace RankDirection

def name : RankDirection → String
  | .leftRight => "LR"
  | .topBottom => "TB"
  | .rightLeft => "RL"
  | .bottomTop => "BT"

def all : List RankDirection :=
  [.leftRight, .topBottom, .rightLeft, .bottomTop]

def ofName? (name : String) : Option RankDirection :=
  all.find? (·.name = name)

end RankDirection

end ThreatModel
