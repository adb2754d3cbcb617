import ThreatModel.Proofs.Analysis.Findings
import ThreatModel.Proofs.Text.Lines
import ThreatModel.Report.Basic

/-!
Contract: reports as lists of lines.

Owns:
- the text of lines put one below the other, and the lines of that text;
- the words that reports have for the kinds of findings.

Does not own: which lines a report has.
-/

namespace ThreatModel

namespace FindingKind

def word : FindingKind → String
  | mitigation => "Mitigation"
  | exposure => "Exposure"

/-- How the line of a finding begins in Markdown. -/
def mark (kind : FindingKind) : String :=
  "* " ++ kind.word ++ ": "

def cssClass : FindingKind → String
  | mitigation => "mitigation"
  | exposure => "exposure"

/-- The tag that opens the list item of a finding. -/
def itemTag (kind : FindingKind) : String :=
  "<li class=\"" ++ kind.cssClass ++ "\">"

end FindingKind

namespace Report

open ThreatModel.Text

theorem ofLines_nil : ofLines [] = "" :=
  rfl

theorem ofLines_cons
    (line : String)
    (rest : List String) :
    ofLines (line :: rest) = line ++ "\n" ++ ofLines rest := by
  rw [ofLines, ofLines, List.map_cons, String.join_cons]

theorem ofLines_append (front back : List String) :
    ofLines (front ++ back) = ofLines front ++ ofLines back := by
  rw [ofLines, ofLines, ofLines, List.map_append, String.join_append]

/-- Every line ends, so that an empty one comes last. -/
theorem textLines_ofLines (written : List String) :
    textLines (ofLines written) = written.flatMap textLines ++ [""] := by
  induction written with
  | nil => rfl
  | cons line rest inductionHypothesis =>
      have spelled : (ofLines (line :: rest)).toList =
          line.toList ++ '\n' :: (ofLines rest).toList := by
        simp [ofLines_cons]
      rw [textLines, spelled, lines_append_newline, List.map_append, List.flatMap_cons,
        List.append_assoc, ← inductionHypothesis]
      rfl

end Report

end ThreatModel
