import ThreatModel.Analysis.Basic

/-!
Contract: what every report shows.

Owns:
- the title;
- the texts of the coverage.

Does not own: the layout of either format.
-/

namespace ThreatModel

namespace Report

/-- The title given, unless it is empty; else the models, or dots when there is none. -/
def title
    (analysis : Analysis)
    (given : Option String) :
    String :=
  match given with
  | some title => if title = "" then titleOfModels else title
  | none => titleOfModels
where
  titleOfModels : String :=
    if analysis.models = [] then "..." else ", ".intercalate analysis.models

/-- `percent% (count)`. -/
def share
    (percent : Numeric.Binary64)
    (count : Nat) :
    String :=
  percent.text ++ "% (" ++ toString count ++ ")"

/-- Lines with a newline after each. -/
def ofLines (lines : List String) : String :=
  String.join (lines.map (· ++ "\n"))

end Report

end ThreatModel
