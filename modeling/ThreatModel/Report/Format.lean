import ThreatModel.Format
import ThreatModel.Report.Html
import ThreatModel.Report.Markdown

/-!
Contract: a report in the format asked for.

Owns: the choice of the format. The diagram reaches the HTML report only.

Does not own: where the report goes.
-/

namespace ThreatModel.Report

def write
    (format : ReportFormat)
    (analysis : Analysis)
    (title diagram : Option String) :
    String :=
  match format with
  | .markdown => Markdown.write analysis title
  | .html => Html.write analysis title diagram

end ThreatModel.Report
