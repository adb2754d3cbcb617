import ThreatModel.Proofs.Analysis.Shown
import ThreatModel.Proofs.Numeric.Marks
import ThreatModel.Proofs.Report.Lines
import ThreatModel.Proofs.Text.Marks
import ThreatModel.Report.Markdown

/-!
Contract: the lines of a report in Markdown.

Owns:
- what the lines below the header show, and how each is written;
- that the report of what is on single lines has these lines and no others;
- that the lines of findings, and no others, begin as such.

Does not own: which findings there are.
-/

namespace ThreatModel

open ThreatModel.Text

/-! ## Texts on one line -/

theorem OneLine.append
    {front back : String}
    (ofFront : OneLine front)
    (ofBack : OneLine back) :
    OneLine (front ++ back) := by
  rw [OneLine, String.toList_append, List.mem_append, not_or]
  exact ⟨ofFront, ofBack⟩

theorem OneLine.textLines_eq
    {text : String}
    (oneLine : OneLine text) :
    textLines text = [text] := by
  rw [textLines, lines_of_sameLine oneLine, List.map_singleton, String.ofList_toList]

theorem Occurrence.OneLine.provenance
    {occurrence : Occurrence}
    (oneLine : occurrence.OneLine) :
    ThreatModel.OneLine occurrence.provenance := by
  have ofFile : ThreatModel.OneLine (occurrence.file.getD "") := by
    cases isFile : occurrence.file with
    | none => decide
    | some file => exact oneLine.file file isFile
  have ofLine : ThreatModel.OneLine ((occurrence.line.map toString).getD "") := by
    cases occurrence.line with
    | none => decide
    | some line => exact Numeric.not_mem_toString_int line (by decide) (by decide)
  have located : ThreatModel.OneLine " in " := by
    decide
  have colon : ThreatModel.OneLine ":" := by
    decide
  exact (((oneLine.function.append located).append ofFile).append colon).append ofLine

namespace Report

/-! ## Lines below the header -/

/-- What a line below the header shows. -/
inductive BodyLine where
  | component (component : Component)
  | threat (name : String)
  | finding (kind : FindingKind) (occurrence : Occurrence)
  | blank
deriving DecidableEq, Repr

namespace BodyLine

def text : BodyLine → String
  | component shown => "## " ++ shown.zone ++ " " ++ shown.name
  | threat name => "### Threat: " ++ name
  | finding kind occurrence =>
      kind.mark ++ occurrence.text ++ " (" ++ occurrence.provenance ++ ")"
  | blank => ""

/-- A threat has its mitigations below it, then its exposures, then an empty line. -/
def ofThreat (record : ThreatRecord) : List BodyLine :=
  threat record.name ::
    (record.mitigations.map (finding .mitigation) ++ record.exposures.map (finding .exposure) ++
      [blank])

def ofComponent (record : ComponentRecord) : List BodyLine :=
  component record.component :: record.threats.values.flatMap ofThreat

def finding? : BodyLine → Option (FindingKind × Occurrence)
  | finding kind occurrence => some (kind, occurrence)
  | _ => none

end BodyLine

/-- The lines below the header of an analysis. -/
def body (analysis : Analysis) : List BodyLine :=
  analysis.components.values.flatMap BodyLine.ofComponent

/-- The findings that a report lists, in its order. -/
def findings (analysis : Analysis) : List (FindingKind × Occurrence) :=
  (body analysis).filterMap BodyLine.finding?

namespace BodyLine

theorem map_text_ofThreat (record : ThreatRecord) :
    (ofThreat record).map text = Markdown.threatLines record := by
  simp only [ofThreat, List.map_cons, List.map_append, List.map_map, List.map_nil]
  rfl

theorem map_text_ofComponent (record : ComponentRecord) :
    (ofComponent record).map text = Markdown.componentLines record := by
  rw [ofComponent, List.map_cons, List.map_flatMap]
  simp only [map_text_ofThreat]
  rfl

theorem oneLine_text_ofThreat
    {record : ThreatRecord}
    (oneLine : record.OneLine) :
    ∀ line ∈ ofThreat record, OneLine line.text := by
  have ofFinding (kind : FindingKind) (occurrence : Occurrence)
      (listed : occurrence ∈ kind.listed record) :
      OneLine (finding kind occurrence).text := by
    have shown := oneLine.listed kind occurrence listed
    have front : OneLine kind.mark := by
      cases kind <;> decide
    have opened : OneLine " (" := by
      decide
    have closed : OneLine ")" := by
      decide
    rw [text]
    exact (((front.append shown.text).append opened).append shown.provenance).append closed
  intro line member
  rw [ofThreat, List.mem_cons, List.mem_append, List.mem_append, List.mem_singleton] at member
  rcases member with rfl | (mitigates | exposes) | rfl
  · exact OneLine.append (by decide) oneLine.name
  · obtain ⟨occurrence, listed, rfl⟩ := List.mem_map.mp mitigates
    exact ofFinding .mitigation occurrence listed
  · obtain ⟨occurrence, listed, rfl⟩ := List.mem_map.mp exposes
    exact ofFinding .exposure occurrence listed
  · decide

theorem oneLine_text_ofComponent
    {record : ComponentRecord}
    (oneLine : record.OneLine) :
    ∀ line ∈ ofComponent record, OneLine line.text := by
  intro line member
  rcases List.mem_cons.mp member with rfl | below
  · have opened : OneLine "## " := by
      decide
    have blank : OneLine " " := by
      decide
    rw [text]
    exact ((opened.append oneLine.component.zone).append blank).append oneLine.component.name
  · obtain ⟨threat, isThreat, ofThreat⟩ := List.mem_flatMap.mp below
    exact oneLine_text_ofThreat (oneLine.threats threat isThreat) line ofThreat

end BodyLine

/-! ## The whole report -/

theorem oneLine_share
    (percent : Numeric.Binary64)
    (count : Nat) :
    OneLine (share percent count) := by
  have ofPercent : OneLine percent.text := Numeric.not_mem_text ⟨by decide, by decide⟩ percent
  have ofCount : OneLine (toString count) := Numeric.not_mem_toString_nat count (by decide)
  have opened : OneLine "% (" := by
    decide
  have closed : OneLine ")" := by
    decide
  exact ((ofPercent.append opened).append ofCount).append closed

theorem oneLine_headerLines
    {title : String}
    (oneLine : OneLine title)
    (coverage : Coverage) :
    ∀ line ∈ Markdown.headerLines title coverage, OneLine line := by
  have ofFound : OneLine (toString coverage.found) :=
    Numeric.not_mem_toString_nat coverage.found (by decide)
  intro line member
  simp only [Markdown.headerLines, List.mem_cons, List.not_mem_nil, or_false] at member
  rcases member with rfl | rfl | rfl | rfl | rfl | rfl | rfl | rfl
  · exact OneLine.append (by decide) oneLine
  · decide
  · decide
  · exact OneLine.append (by decide) ofFound
  · exact OneLine.append (by decide) (oneLine_share _ _)
  · exact OneLine.append (by decide) (oneLine_share _ _)
  · decide
  · decide

theorem oneLine_title
    {analysis : Analysis}
    (models : ∀ model ∈ analysis.models, OneLine model)
    {given : Option String}
    (titled : ∀ title ∈ given, OneLine title) :
    OneLine (title analysis given) := by
  have ofModels : OneLine (title.titleOfModels analysis) := by
    rw [title.titleOfModels]
    split
    · decide
    · rw [OneLine, String.toList_intercalate]
      refine not_mem_intercalate (by decide) fun text member => ?_
      obtain ⟨model, isModel, rfl⟩ := List.mem_map.mp member
      exact models model isModel
  cases given with
  | none => exact ofModels
  | some text =>
      rw [title]
      split
      · exact ofModels
      · exact titled text rfl

/-- The report has the lines of the header and those below it, and ends with a newline. -/
theorem textLines_markdown
    {analysis : Analysis}
    {given : Option String}
    (titled : OneLine (title analysis given))
    (components : ∀ record ∈ analysis.components.values, record.OneLine) :
    textLines (Markdown.write analysis given) =
      Markdown.headerLines (title analysis given) analysis.coverage ++
        (body analysis).map BodyLine.text ++ [""] := by
  have spelled : analysis.components.values.flatMap Markdown.componentLines =
      (body analysis).map BodyLine.text := by
    rw [body, List.map_flatMap]
    simp only [BodyLine.map_text_ofComponent]
  have oneLine : ∀ line ∈ Markdown.headerLines (title analysis given) analysis.coverage ++
      (body analysis).map BodyLine.text, OneLine line := by
    intro line member
    rcases List.mem_append.mp member with inHeader | below
    · exact oneLine_headerLines titled _ line inHeader
    · obtain ⟨shown, isBody, rfl⟩ := List.mem_map.mp below
      obtain ⟨record, isRecord, ofRecord⟩ := List.mem_flatMap.mp isBody
      exact BodyLine.oneLine_text_ofComponent (components record isRecord) shown ofRecord
  have single : (Markdown.headerLines (title analysis given) analysis.coverage ++
      (body analysis).map BodyLine.text).flatMap textLines =
        Markdown.headerLines (title analysis given) analysis.coverage ++
          (body analysis).map BodyLine.text := by
    rw [List.flatMap_congr fun line member => (oneLine line member).textLines_eq,
      List.flatMap_singleton']
  rw [Markdown.write, spelled, textLines_ofLines, single]

end Report

end ThreatModel
